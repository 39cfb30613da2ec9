import HandlerPipeline.Config.Given
import HandlerPipeline.FileTree
import HandlerPipeline.Log
import HandlerPipeline.Text.Lines

/-!
# The build log

The build log has sinks: the console, and a file in the log directory unless the environment says
otherwise or the file cannot be opened. Sinks are attached when the log is first asked for, and stay
attached, whatever the environment says later, until the log is reset. The console can be silenced;
the file takes every line.

A log without sinks passes what is urgent to the console, as bare messages.
-/

namespace HandlerPipeline

/-! ## The log directory -/

namespace LogDirectory

/-- The variable that names the log directory. -/
def directoryVariable : String := "MIDDLEWARE_CHAIN_LOG_DIR"

/-- The variable that turns the log file off when it is empty. -/
def fileVariable : String := "MIDDLEWARE_CHAIN_DEBUG_LOG"

/-- The log directory, unless the environment names one. -/
def default : String := ".middleware_chain"

/-- The name of the log file. -/
def filename : String := "build.log"

/-- The log directory as it is given. -/
def given (env : Environment) : String :=
  match env.lookup directoryVariable with
  | none | some "" => default
  | some directory => directory

/-- The path of the log directory. -/
def ofEnvironment (env : Environment) : List String := Path.walk [] (given env)

/-- Lines are written to a file. -/
def writesFile (env : Environment) : Bool :=
  match env.lookup fileVariable with
  | some setting => setting ≠ ""
  | none => true

end LogDirectory

/-! ## Disks -/

/-- The files of the working directory, and the lines of the log files among them. -/
structure Disk where
  tree : FileTree
  lines : List (List String × String)

namespace Disk

/-- A disk without files. -/
def empty : Disk := ⟨.empty, []⟩

/-- The most bytes that a name may have. -/
def maxNameBytes : Nat := 255

/-- The most bytes that a path may have. -/
def maxPathBytes : Nat := 4095

/-- The folders that a path leads through, the last one included. -/
def stations (path : String) : List (List String) :=
  let start := if Path.isAbsolute path then [Path.root] else []
  let components := Path.components path
  (List.range (components.length + 1)).map fun n => Path.follow start (components.take n)

/-- The folder of a path can be made: neither the path nor a name in it is too long, and no file
stands there or on the way to it. -/
def takesFolder (d : Disk) (path : String) : Bool :=
  path.utf8ByteSize ≤ maxPathBytes &&
    (Path.components path).all (·.utf8ByteSize ≤ maxNameBytes) &&
    (stations path).all fun folder => !d.tree.isFile folder

/-- The tree with the folders that a path leads through. -/
def withFolders (d : Disk) (path : String) : FileTree := (stations path).foldl .addFolder d.tree

/-- Opens the file `name` in the folder of a path for appending, making what is missing. -/
def openFile? (d : Disk) (path : String) (name : String) : Option Disk :=
  let file := Path.walk [] path ++ [name]
  if d.takesFolder path && !d.tree.isFolder file then
    some { d with tree := (d.withFolders path).addFile file }
  else none

/-- Appends lines to a file. -/
def append (d : Disk) (file : List String) (lines : List String) : Disk :=
  { d with lines := d.lines ++ lines.map (file, ·) }

/-- The lines of a file. -/
def linesOf (d : Disk) (file : List String) : List String :=
  d.lines.filterMap fun e => if e.1 = file then some e.2 else none

/-- The log files of the working directory. -/
def logFiles (d : Disk) : List (List String) :=
  d.tree.files.filter fun file =>
    Path.isBelow file &&
      (file.getLast?.map fun name => ".log".toList.isSuffixOf name.toList) == some true

end Disk

/-! ## The log -/

/-- Where a sink writes. -/
inductive Target where
  | console
  | file (path : List String)
  deriving DecidableEq, Repr

/-- A sink takes the lines whose level is not below its threshold. -/
structure Sink where
  target : Target
  threshold : Nat
  deriving DecidableEq, Repr

namespace Sink

/-- A threshold above every level. -/
def silent : Nat := Log.Level.critical.number + 1

/-- The console. -/
def console : Sink := ⟨.console, Log.Level.info.number⟩

/-- A file takes every line. -/
def file (path : List String) : Sink := ⟨.file path, Log.Level.debug.number⟩

/-- The sink with its threshold set, if it is the console. -/
def withConsoleAt (threshold : Nat) (s : Sink) : Sink :=
  match s.target with
  | .console => { s with threshold }
  | .file _ => s

end Sink

/-- The build log, the environment that it looks at, and the disk that it writes to. -/
structure BuildLog where
  environment : Environment
  disk : Disk
  sinks : List Sink

namespace BuildLog

/-- The log that nobody has asked for yet. -/
def untouched : BuildLog := ⟨[], .empty, []⟩

/-- Sets a variable of the environment, or removes it. -/
def setVariable (name : String) (setting : Option String) (log : BuildLog) : BuildLog :=
  let others := log.environment.filter (·.1 ≠ name)
  { log with environment := (setting.map (name, ·)).toList ++ others }

/-- Opens the log file, if there is to be one and it can be opened. -/
def openFile? (log : BuildLog) : Option (List String × Disk) :=
  if LogDirectory.writesFile log.environment then
    let given := LogDirectory.given log.environment
    (log.disk.openFile? given LogDirectory.filename).map fun disk =>
      (LogDirectory.ofEnvironment log.environment ++ [LogDirectory.filename], disk)
  else none

/-- Attaches the sinks, unless some are attached. -/
def get (log : BuildLog) : BuildLog :=
  match log.sinks with
  | _ :: _ => log
  | [] =>
    match log.openFile? with
    | some (path, disk) => { log with disk, sinks := [.file path, .console] }
    | none => { log with sinks := [.console] }

/-- Detaches every sink. -/
def reset (log : BuildLog) : BuildLog := { log with sinks := [] }

/-- Sets the threshold of the console. -/
def setConsole (threshold : Nat) (log : BuildLog) : BuildLog :=
  { log with sinks := log.sinks.map (Sink.withConsoleAt threshold) }

/-- Silences the console. -/
def suppress (log : BuildLog) : BuildLog := log.get.setConsole Sink.silent

/-- Makes the console heard again. -/
def restore (log : BuildLog) : BuildLog := log.get.setConsole Log.Level.info.number

/-- The text of a line in a sink. -/
def lineText (time : String) (level : Log.Level) (message : String) : String :=
  time ++ " - " ++ Log.Speaker.build.name ++ " - " ++ level.name ++ " - " ++ message

/-- Writes lines to the sinks that take the level; gives what is seen on the console. -/
def writeTo (level : Log.Level) (lines : List String) : List Sink → Disk → Disk × List String
  | [], disk => (disk, [])
  | sink :: rest, disk =>
    if level.number < sink.threshold then writeTo level lines rest disk
    else
      match sink.target with
      | .file path => writeTo level lines rest (disk.append path lines)
      | .console =>
        let (disk', seen) := writeTo level lines rest disk
        (disk', lines ++ seen)

/-- Logs a message; gives what is seen on the console. -/
def write (time : String) (level : Log.Level) (message : String) (log : BuildLog) :
    BuildLog × List String :=
  match log.sinks with
  | [] =>
    (log, if level.number < Log.Level.warning.number then [] else Text.writtenLines message)
  | sinks =>
    let (disk, seen) := writeTo level (Text.writtenLines (lineText time level message)) sinks
      log.disk
    ({ log with disk }, seen)

end BuildLog

end HandlerPipeline

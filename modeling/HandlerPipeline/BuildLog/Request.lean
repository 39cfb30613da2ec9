import HandlerPipeline.BuildLog
import HandlerPipeline.BuildPass

/-!
# Requests to the build log

There is one build log, whoever asks for it. A host asks for it, resets it, silences its console and
makes it heard again. A pass asks for it as soon as it has its configuration, before it looks at the
values, and then writes to it what is doubtful about them. The environment and the disk are the
host's, and may be other ones at every request.
-/

namespace HandlerPipeline

namespace BuildPass

/-- The pass gets as far as asking for the build log. -/
def asksForLog (env : Environment) (settings : Settings) (given? : Option Config.Given) : Bool :=
  Settings.runtimes.contains settings.runtime && (foundConfiguration env given?).isOk

end BuildPass

namespace BuildLog

/-- Writes lines one after the other; gives what is seen on the console. -/
def writeAll (time : String) : List Log.Line → BuildLog → BuildLog × List String
  | [], log => (log, [])
  | line :: rest, log =>
    let (log', seen) := log.write time line.level line.message
    let (log'', others) := writeAll time rest log'
    (log'', seen ++ others)

/-- What comes of opening a pass. -/
structure Opening where
  outcome : Except Failure BuildPass
  log : BuildLog
  /-- What is seen on the console. -/
  seen : List String

/-- Opens a pass in the environment of the log. -/
def openPass (time : String) (settings : Settings) (given? : Option Config.Given) (probe : Probe)
    (log : BuildLog) : Opening :=
  let outcome := BuildPass.start log.environment settings given? probe
  if BuildPass.asksForLog log.environment settings given? then
    match outcome with
    | .ok pass =>
      let (log', seen) := log.get.writeAll time pass.startLog
      ⟨outcome, log', seen⟩
    | .error _ => ⟨outcome, log.get, []⟩
  else ⟨outcome, log, []⟩

/-- What the build log is asked for. -/
inductive Request where
  | get
  | reset
  | suppress
  | restore
  /-- A pass is opened. -/
  | openPass (time : String) (settings : Settings) (given? : Option Config.Given) (probe : Probe)

/-- The log that a request leaves behind. -/
def Request.perform : Request → BuildLog → BuildLog
  | get, log => log.get
  | reset, log => log.reset
  | suppress, log => log.suppress
  | restore, log => log.restore
  | openPass time settings given? probe, log => (log.openPass time settings given? probe).log

/-- The log in another environment, and with another disk. -/
def within (environment : Environment) (disk : Disk) (log : BuildLog) : BuildLog :=
  { log with environment, disk }

/-- A request, and the environment and the disk that it meets. -/
structure Visit where
  environment : Environment
  disk : Disk
  request : Request

/-- The log that a visit leaves behind. -/
def visited (log : BuildLog) (v : Visit) : BuildLog :=
  v.request.perform (log.within v.environment v.disk)

/-- The log that visits leave behind, one after the other. -/
def after (log : BuildLog) (history : List Visit) : BuildLog := history.foldl visited log

end BuildLog

end HandlerPipeline

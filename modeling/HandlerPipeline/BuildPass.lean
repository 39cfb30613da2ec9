import HandlerPipeline.Artifact
import HandlerPipeline.Artifact.Emit
import HandlerPipeline.Descriptor
import HandlerPipeline.Variant.Resolve

/-!
# Build passes

A build pass makes the artifacts of the functions that a descriptor declares. It selects the
functions that need a pipeline, builds each of them, and only when all of them are built hands the
artifacts to the writer, in the order of the declarations. Where functions fail, the first of them
in that order is reported, and nothing is written.

The functions of a pass share what has been found out about the variants of pipelines.
-/

namespace HandlerPipeline

/-- A build pass: the service's settings, how the pass works, and where modules are found. -/
structure BuildPass where
  settings : Settings
  config : Config
  probe : Probe

namespace BuildPass

/-- A line of the build log. -/
def say (level : Log.Level) (message : String) : Log.Line :=
  ⟨.build, level, "Middleware: " ++ message⟩

/-- The configuration that a pass is given, or else finds in the environment, whatever its values
are. -/
def foundConfiguration (env : Environment) (given? : Option Config.Given) :
    Except Config.Misuse Config.Given :=
  match given? with
  | some given => .ok given
  | none => Config.Given.ofFields env []

/-- The configuration that a pass works with: the one that it finds, if the values are of the right
kinds. -/
def configuration (env : Environment) (given? : Option Config.Given) :
    Except Config.Misuse Config :=
  match foundConfiguration env given? with
  | .ok given => given.check
  | .error m => .error m

/-- Opens a pass. The service's runtime is looked at first, then the configuration. -/
def start (env : Environment) (settings : Settings) (given? : Option Config.Given)
    (probe : Probe) : Except Failure BuildPass :=
  if !Settings.runtimes.contains settings.runtime then
    .error (.build (.unsupportedRuntime settings.runtime))
  else
    match configuration env given? with
    | .ok config => .ok ⟨settings, config, probe⟩
    | .error m => .error (.misuse m)

/-- What is logged when a pass is opened. -/
def startLog (pass : BuildPass) : List Log.Line :=
  match pass.config.warnings with
  | .ok warnings => warnings.map (say .warning)
  -- A configuration that has been checked can be shown.
  | .error _ => []

/-- A function needs a pipeline: the service has hooks, or the function says something about
middleware. -/
def needsPipeline (pass : BuildPass) (d : Declaration) : Bool :=
  pass.settings.hasHooks || d.saysMiddleware || d.declaresSteps

/-- The entry point of a function. -/
def entryPoint (pass : BuildPass) (functionName : String) : String :=
  Artifact.entryPointOf pass.settings.folder functionName

/-- The pipeline of a function. -/
def assemble (pass : BuildPass) (d : Declaration) : Except Refusal Pipeline :=
  d.pipeline pass.settings

/-- The functions that are built, in the order of their declarations; restricted to one name, those
that bear it. -/
def select (pass : BuildPass) (declarations : List Declaration) (only : Option String) :
    Except BuildError (List Declaration) :=
  match only with
  | none => .ok (declarations.filter pass.needsPipeline)
  | some name =>
    match declarations.filter (·.name = name) with
    | [] => .error (.unknownFunction name)
    | matching => .ok (matching.filter pass.needsPipeline)

/-! ## One function -/

/-- The artifact of a function, or none where its pipeline has no steps; or why there is none. -/
abbrev Outcome := Except Failure (Option Artifact)

/-- What comes of building a function. -/
structure FunctionBuild where
  outcome : Outcome
  /-- The paths that were probed. -/
  asked : List String
  log : List Log.Line
  /-- What is remembered from now on. -/
  memory : Resolved

/-- The artifact of a pipeline whose variant is known, and what is logged about it. -/
def write (pass : BuildPass) (p : Pipeline) (variant : Variant) :
    Except Failure Artifact × List Log.Line :=
  let ignored :=
    if variant = .typed ∧ pass.config.importBase ≠ Config.defaultImportBase then
      [say .warning ("function " ++ p.functionName ++
        " uses typed handler modules, which are imported from sys.path; import_base " ++
        Text.quote pass.config.importBase ++ " is ignored")]
    else []
  match Artifact.emit pass.config.checksSource variant pass.config.importBase p with
  | .error f => (.error f, ignored)
  | .ok (source, log) =>
    (.ok
      { functionName := p.functionName
        filename := Artifact.filenameOf p.functionName variant
        source
        variant
        stepCount := p.steps.length
        entryPoint := pass.entryPoint p.functionName },
      ignored ++ log ++
        [say .info ("setting " ++ toString p.steps.length ++ " middlewares for function " ++
          p.functionName)])

/-- Builds a function, given what is remembered. -/
def buildFunction (pass : BuildPass) (memory : Resolved) (d : Declaration) : FunctionBuild :=
  match pass.assemble d with
  | .error e => ⟨.error e.toFailure, [], [], memory⟩
  | .ok p =>
    if p.isEmpty then
      ⟨.ok none, [], [say .info ("function " ++ d.name ++ " has no steps, skipping")], memory⟩
    else
      let r := memory.resolve pass.probe p
      match r.outcome with
      | .error f => ⟨.error f, r.asked, r.log, r.memory⟩
      | .ok variant =>
        let (written, log) := pass.write p variant
        ⟨written.map some, r.asked, r.log ++ log, r.memory⟩

/-! ## All functions -/

/-- Builds functions in order; what one finds out, the next ones remember. -/
def buildEach (pass : BuildPass) : Resolved → List Declaration → List (Declaration × FunctionBuild)
  | _, [] => []
  | memory, d :: rest =>
    let b := pass.buildFunction memory d
    (d, b) :: pass.buildEach b.memory rest

/-- The artifacts of the functions that have one, or the first failure and the function that
failed. -/
def collect : List (Declaration × Outcome) → Except (Declaration × Failure) (List Artifact)
  | [] => .ok []
  | (d, outcome) :: rest =>
    match outcome with
    | .error f => .error (d, f)
    | .ok artifact? => (collect rest).map (artifact?.toList ++ ·)

/-- The line that reports the failure of a function; failures that are no errors of the library are
not reported. -/
def failureLog (d : Declaration) : Failure → List Log.Line
  | .build e => [say .error ("build failed for function " ++ d.name ++ ": " ++ e.message)]
  | _ => []

/-- Takes artifacts, numbered from 0, and gives a reason where it fails. -/
abbrev Writer := Nat → Artifact → Option String

/-- What comes of writing artifacts. -/
structure Writing where
  /-- The artifacts that the writer was called with. -/
  calls : List Artifact
  /-- Those of them that it took. -/
  written : List Artifact
  /-- Why it stopped, if it did. -/
  failure? : Option String
  log : List Log.Line

/-- Hands artifacts to a writer, the first of them as number `n`, until it fails. -/
def writeEach (writer : Writer) : Nat → List Artifact → Writing
  | _, [] => ⟨[], [], none, []⟩
  | n, a :: rest =>
    match writer n a with
    | some reason => ⟨[a], [], some reason, []⟩
    | none =>
      let w := writeEach writer (n + 1) rest
      ⟨a :: w.calls, a :: w.written, w.failure?, say .debug ("wrote " ++ a.filename) :: w.log⟩

/-- How a build ends when its functions have been built. -/
structure Ending where
  outcome : Except Failure (List Artifact)
  /-- What is logged then. -/
  afterLog : List Log.Line
  /-- The artifacts that the writer is called with. -/
  calls : List Artifact
  /-- The artifacts that the writer takes. -/
  written : List Artifact

/-- The end of a build whose functions have come to these outcomes. -/
def conclude (writer? : Option Writer) (outcomes : List (Declaration × Outcome)) : Ending :=
  match collect outcomes with
  | .error (d, f) => ⟨.error f, failureLog d f, [], []⟩
  | .ok artifacts =>
    match writer? with
    | none => ⟨.ok artifacts, [], [], []⟩
    | some writer =>
      let w := writeEach writer 0 artifacts
      let outcome : Except Failure (List Artifact) :=
        match w.failure? with
        | some reason => .error (.writing reason)
        | none => .ok artifacts
      ⟨outcome, w.log, w.calls, w.written⟩

/-- What comes of a build. -/
structure Report extends Ending where
  /-- The paths that were probed. -/
  asked : List String
  /-- What was logged while functions were built. -/
  buildLog : List Log.Line
  /-- What is remembered from now on. -/
  memory : Resolved

/-- What the pass remembers after building functions. -/
def memoryAfter (memory : Resolved) (builds : List (Declaration × FunctionBuild)) : Resolved :=
  match builds.getLast? with
  | some (_, b) => b.memory
  | none => memory

/-- The functions that were built, with their outcomes. -/
def outcomesOf (builds : List (Declaration × FunctionBuild)) : List (Declaration × Outcome) :=
  builds.map fun b => (b.1, b.2.outcome)

/-- The report on functions that have been built. -/
def complete (writer? : Option Writer) (memory : Resolved)
    (builds : List (Declaration × FunctionBuild)) : Report where
  toEnding := conclude writer? (outcomesOf builds)
  asked := builds.flatMap (·.2.asked)
  buildLog := builds.flatMap (·.2.log)
  memory := memoryAfter memory builds

/-- Builds the selected functions, then writes their artifacts. -/
def build (pass : BuildPass) (memory : Resolved) (declarations : List Declaration)
    (only : Option String) (writer? : Option Writer) : Report :=
  match pass.select declarations only with
  | .error e => ⟨⟨.error (.build e), [], [], []⟩, [], [], memory⟩
  | .ok selected => complete writer? memory (pass.buildEach memory selected)

end BuildPass

end HandlerPipeline

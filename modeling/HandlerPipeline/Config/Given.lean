import HandlerPipeline.Config
import HandlerPipeline.Decimal.Integer

/-!
# Configurations as they are given

A caller gives any of the fields of a configuration, as plain data. What is left open is taken from
the environment, and then from the defaults. Whether the values are of the right kinds is not looked
at before the configuration is used.
-/

namespace HandlerPipeline

/-- The environment variables that are set. -/
abbrev Environment := List (String × String)

namespace Config

/-- A configuration whose values may be of any kind. -/
structure Given where
  workers : Value
  importBase : Value
  checksSource : Value

/-- What can be wrong with a configuration. -/
inductive Misuse where
  /-- A field is given that no configuration has. -/
  | unknownField (name : String)
  /-- The environment does not give the number of workers. -/
  | unreadableWorkers (e : Integer.ReadError)
  /-- The number of workers has no order: it was asked whether it is above or below one. -/
  | unorderedWorkers (typeName : String) (above : Bool)
  /-- The import base is no path. -/
  | notPath (typeName : String)
  /-- A value raises an exception when it is looked at. -/
  | raised (x : Raised)
  deriving Inhabited

/-- The message of a misuse. -/
def Misuse.message : Misuse → String
  | unknownField name =>
    "BuildConfig.__init__() got an unexpected keyword argument '" ++ name ++ "'"
  | unreadableWorkers e => e.message
  | unorderedWorkers typeName above =>
    "'" ++ (if above then ">" else "<") ++ "' not supported between instances of '" ++ typeName ++
      "' and 'int'"
  | notPath typeName => "expected str, bytes or os.PathLike object, not " ++ typeName
  | raised x => x.message

/-! ## Fields and the environment -/

/-- The fields of a configuration. -/
def fieldNames : List String := ["max_workers", "import_base", "validate_output"]

/-- The number of workers that the environment sets. -/
def environmentWorkers (env : Environment) : Except Misuse Value :=
  match env.lookup "MIDDLEWARE_CHAIN_MAX_WORKERS" with
  | some text =>
    match Integer.read text with
    | .ok n => .ok (.int n)
    | .error e => .error (.unreadableWorkers e)
  | none => .ok default.workers.value

/-- The import base that the environment sets. -/
def environmentBase (env : Environment) : String :=
  (env.lookup "MIDDLEWARE_CHAIN_IMPORT_BASE").getD default.importBase

/-- The environment says whether source is checked, by the word `true` in any letter case. -/
def environmentChecks (env : Environment) : Bool :=
  match env.lookup "MIDDLEWARE_CHAIN_VALIDATE_OUTPUT" with
  | some text => text.toLower == "true"
  | none => default.checksSource

namespace Given

/-- The configuration of some fields in an environment. A number of workers that the caller gives
keeps the environment's from being read. -/
def ofFields (env : Environment) (fields : List (String × Value)) : Except Misuse Given :=
  match fields.find? fun f => !fieldNames.contains f.1 with
  | some f => .error (.unknownField f.1)
  | none =>
    let workers : Except Misuse Value :=
      match fields.lookup "max_workers" with
      | some v => .ok v
      | none => environmentWorkers env
    workers.map fun w =>
      ⟨w, (fields.lookup "import_base").getD (.text (environmentBase env)),
        (fields.lookup "validate_output").getD (.bool (environmentChecks env))⟩

/-- The number of functions that are built at a time. -/
def effectiveWorkers (g : Given) : Except Misuse Workers :=
  match Workers.ofValue? g.workers with
  | some w => .ok w.effective
  | none => .error (.unorderedWorkers g.workers.typeName true)

/-- The configuration, if its values are of the right kinds. They are looked at in their order, and
the number of workers is shown where it is below one. -/
def check (g : Given) : Except Misuse Config :=
  match Workers.ofValue? g.workers with
  | none => .error (.unorderedWorkers g.workers.typeName false)
  | some w =>
    match w.warnings, g.importBase with
    | .error x, _ => .error (.raised x)
    | .ok _, .text base =>
      match g.checksSource.isGiven with
      | .error x => .error (.raised x)
      | .ok checks => .ok ⟨w, base, checks⟩
    | .ok _, v => .error (.notPath v.typeName)

end Given

end Config

end HandlerPipeline

import HandlerPipeline.Path
import HandlerPipeline.Text.Quoted
import HandlerPipeline.Value.Literal

/-!
# Build configuration

How a build pass works, as opposed to what it builds: how many functions at a time, where the
service root lies as seen from the artifacts, and whether written source is checked.
-/

namespace HandlerPipeline

/-- A number of workers. Any number will do, and a truth value counts as 0 or 1. -/
inductive Workers where
  | truth (b : Bool)
  | whole (n : Int)
  | fraction (x : Float)

namespace Workers

/-- The number of workers that a value stands for. -/
def ofValue? : Value → Option Workers
  | .bool b => some (truth b)
  | .int n => some (whole n)
  | .float x => some (fraction x)
  | _ => none

/-- The value that stands for a number of workers. -/
def value : Workers → Value
  | truth b => .bool b
  | whole n => .int n
  | fraction x => .float x

/-- The number is below one. -/
def isBelowOne : Workers → Bool
  | truth b => !b
  | whole n => n < 1
  | fraction x => x < 1

/-- The number exceeds one. -/
def exceedsOne : Workers → Bool
  | truth _ => false
  | whole n => 1 < n
  | fraction x => 1 < x

/-- What is doubtful about a number of workers. One below one is shown, if it can be. -/
def warnings (w : Workers) : Except Raised (List String) :=
  if w.isBelowOne then
    w.value.literal.map fun shown =>
      ["max_workers " ++ shown ++ " is below 1, builds will run one at a time"]
  else .ok []

/-- The number of functions that are built at a time: one at least. -/
def effective (w : Workers) : Workers := if w.exceedsOne then w else whole 1

/-- So many workers take up one more function while `running` functions are being built. The first
one is always taken up. -/
def takeUp (w : Workers) (running : Nat) : Bool :=
  running == 0 ||
    match w with
    | truth _ => false
    | whole n => running < n
    | fraction x => Float.ofNat running < x

end Workers

/-- The configuration of a build pass. -/
structure Config where
  workers : Workers
  importBase : String
  checksSource : Bool

namespace Config

/-- The path from the artifacts to the service root, unless it is configured. -/
def defaultImportBase : String := ".."

/-- The configuration that nothing has changed. -/
def default : Config := ⟨.whole 4, defaultImportBase, true⟩

/-- Several functions are built at a time. -/
def isConcurrent (c : Config) : Bool := c.workers.exceedsOne

/-- What is doubtful about a configuration. -/
def warnings (c : Config) : Except Raised (List String) :=
  c.workers.warnings.map fun ofWorkers =>
    ofWorkers ++
    (if Path.isAbsolute c.importBase then
      ["import_base " ++ Text.quote c.importBase ++
        " is absolute, artifacts will not be relocatable"]
    else []) ++
    (if c.checksSource then [] else ["Generated source will not be compile-checked"])

end Config

end HandlerPipeline

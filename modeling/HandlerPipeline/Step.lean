import HandlerPipeline.BuildError
import HandlerPipeline.Reference.Parse

/-!
# Steps

A step of a pipeline has a handler for success, one for failure, or both. A descriptor writes it
as a reference (for success), or as a map with the references under `then` and `catch`; a side that
is null, empty or zero counts as absent, and other keys are ignored. What a map or a side raises
when it is looked at comes before every error about the step.
-/

namespace HandlerPipeline

/-- A step of a pipeline. -/
inductive Step where
  | onSuccess (handler : Reference)
  | onFailure (handler : Reference)
  | onBoth (success failure : Reference)
  deriving DecidableEq, Repr

namespace Step

/-- The handler for success. -/
def success? : Step → Option Reference
  | onSuccess r | onBoth r _ => some r
  | onFailure _ => none

/-- The handler for failure. -/
def failure? : Step → Option Reference
  | onFailure r | onBoth _ r => some r
  | onSuccess _ => none

/-- The references of a step, the one for success first. -/
def references (s : Step) : List Reference := s.success?.toList ++ s.failure?.toList

/-! ## Sides of raw steps -/

/-- The value of a side, where it counts as given. -/
def givenSide : Option Value → Except Raised (Option Value)
  | none => .ok none
  | some v => v.isGiven.map fun given => if given then some v else none

/-- The values that a raw step gives for success and for failure. A text is given for success; a map
is asked for both keys before either value is looked at. -/
def sides (raw : Value) : Except Raised (Option Value × Option Value) :=
  match raw with
  | .text _ => .ok (some raw, none)
  | _ => do
    let success? ← raw.get "then"
    let failure? ← raw.get "catch"
    let success? ← givenSide success?
    let failure? ← givenSide failure?
    return (success?, failure?)

/-! ## Reading -/

/-- Reads one side of the raw step `raw`. -/
def readSide (raw : Value) : Value → Except Refusal Reference
  | .text s =>
    match Reference.read s with
    | .ok r => .ok r
    | .error e => .error (.invalidStep raw e.message)
  | _ => .error (.invalidStep raw BuildError.notAText)

/-- Reads the two sides of the raw step `raw`. Of two bad sides, the one for success is reported. -/
def readSides (raw : Value) : Option Value → Option Value → Except Refusal Step
  | some success, some failure =>
    match readSide raw success with
    | .error e => .error e
    | .ok s => (readSide raw failure).map (.onBoth s)
  | some success, none => (readSide raw success).map .onSuccess
  | none, some failure => (readSide raw failure).map .onFailure
  | none, none => .error (.invalidStep raw "")

/-- Reads a raw step. -/
def read (raw : Value) : Except Refusal Step :=
  match sides raw with
  | .error x => .error (.raised x)
  | .ok (success?, failure?) => readSides raw success? failure?

/-- Reads raw steps in order; the first bad one is reported. -/
def readAll : List Value → Except Refusal (List Step)
  | [] => .ok []
  | raw :: rest =>
    match read raw with
    | .error e => .error e
    | .ok step => (readAll rest).map (step :: ·)

end Step

end HandlerPipeline

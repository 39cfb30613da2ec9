import HandlerPipeline.Step
import HandlerPipeline.Reference.Binding

/-!
# Pipelines

A pipeline is the sequence of steps of one function. Its modules are those of its references, each
once, in order of first appearance; binding them fails at the first module whose name an earlier
one has taken.
-/

namespace HandlerPipeline

/-- The ordered steps of one function. -/
structure Pipeline where
  functionName : String
  steps : List Step
  deriving DecidableEq, Repr

/-- The members of a list, each once, in order of first appearance. -/
def firstAppearances : List String → List String
  | [] => []
  | p :: rest => p :: (firstAppearances rest).filter (· ≠ p)

namespace Pipeline

/-- The pipeline without steps. -/
def isEmpty (p : Pipeline) : Bool := p.steps.isEmpty

/-- Every reference, in the order of the steps. -/
def references (p : Pipeline) : List Reference := p.steps.flatMap Step.references

/-- The distinct module paths, in order of first appearance. -/
def modulePaths (p : Pipeline) : List String :=
  firstAppearances (p.references.map Reference.modulePath)

/-- Binds module paths to names, given the bindings made before. -/
def bindAfter (reserved : List String) (made : List (String × String)) :
    List String → Except BuildError (List (String × String))
  | [] => .ok []
  | path :: rest =>
    let name := ModulePath.bindingName reserved path
    match made.find? (·.2 = name) with
    | some owner => .error (.bindingCollision name owner.1 path)
    | none => (bindAfter reserved (made ++ [(path, name)]) rest).map ((path, name) :: ·)

/-- The module paths of the pipeline with their binding names. -/
def bindings (p : Pipeline) (reserved : List String) :
    Except BuildError (List (String × String)) :=
  bindAfter reserved [] p.modulePaths

/-- Assembles the pipeline of a function from raw steps: the service's steps before, the
function's own, and the service's steps after. -/
def assemble (before own after : List Value) (functionName : String) :
    Except Refusal Pipeline :=
  (Step.readAll (before ++ own ++ after)).map (Pipeline.mk functionName)

end Pipeline

end HandlerPipeline

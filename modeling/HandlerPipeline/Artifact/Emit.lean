import HandlerPipeline.Artifact.Source
import HandlerPipeline.Failure
import HandlerPipeline.Log

/-!
# Writing artifacts

The source of a pipeline is written and, unless the configuration says otherwise, handed to a
checker. The checker is given the name of the function beside the source, and takes no name that
holds a null character; written source itself always passes.
-/

namespace HandlerPipeline

namespace Artifact

/-- The line that tells of an emitted artifact. -/
def emittedLine (variant : Variant) (p : Pipeline) : Log.Line :=
  ⟨.emitter, .debug,
    "Emitted " ++ variant.name ++ " artifact for " ++ p.functionName ++ ": " ++
      toString p.steps.length ++ " steps, " ++ toString p.modulePaths.length ++ " modules"⟩

/-- The source of a pipeline, and what is logged about it. -/
def emit (checks : Bool) (variant : Variant) (importBase : String) (p : Pipeline) :
    Except Failure (String × List Log.Line) :=
  match render variant importBase p with
  | .error e => .error (.build e)
  | .ok source =>
    if checks && p.functionName.toList.contains '\x00' then .error .nullInName
    else .ok (source, [emittedLine variant p])

end Artifact

end HandlerPipeline

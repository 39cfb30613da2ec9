import HandlerPipeline.Variant

/-!
# Artifacts

What a build makes for one function: source that is written to a file of the artifact folder, and
the entry point by which a host finds the handler in it.
-/

namespace HandlerPipeline

/-- The artifact of a function. -/
structure Artifact where
  functionName : String
  filename : String
  source : String
  variant : Variant
  stepCount : Nat
  entryPoint : String
  deriving DecidableEq, Repr

namespace Artifact

/-- The name of the file that holds the artifact of a function. -/
def filenameOf (functionName : String) (variant : Variant) : String :=
  functionName ++ "." ++ variant.extension

/-- The entry point of a function whose artifact is in `folder`. -/
def entryPointOf (folder functionName : String) : String :=
  folder ++ "/" ++ functionName ++ ".handler"

end Artifact

end HandlerPipeline

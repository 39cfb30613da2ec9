import HandlerPipeline.BuildError
import HandlerPipeline.Config.Given

/-!
# Failures

Everything that stops a build: what the descriptor says, how the build is configured, and what the
host hands to it. Probes and writers are the host's, and may fail for reasons of their own.
-/

namespace HandlerPipeline

/-- Why a build stops. Only the first kind is an error of the library. -/
inductive Failure where
  | build (e : BuildError)
  /-- A value of the descriptor raises an exception when it is looked at. -/
  | raised (x : Raised)
  /-- The checker refuses the name of a function. -/
  | nullInName
  /-- The configuration cannot be used. -/
  | misuse (m : Config.Misuse)
  /-- A module could not be probed. -/
  | probing (reason : String)
  /-- An artifact could not be written. -/
  | writing (reason : String)
  deriving Inhabited

/-- The message of a failure. -/
def Failure.message : Failure → String
  | build e => e.message
  | raised x => x.message
  | nullInName => "embedded null character"
  | misuse m => m.message
  | probing reason => reason
  | writing reason => reason

/-- The failure of a function that is refused. -/
def Refusal.toFailure : Refusal → Failure
  | .build e => .build e
  | .raised x => .raised x

end HandlerPipeline

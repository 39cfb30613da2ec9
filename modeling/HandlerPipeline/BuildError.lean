import HandlerPipeline.Value.Json

/-!
# Build errors

Everything that can be wrong with a service's middleware is one of these causes. `message` gives
the words; a message about a raw step echoes the step, so that the descriptor entry can be found.

A raw step may raise an exception while it is looked at, or while it is echoed. Then there is no
error of the library, and the function is refused with that exception (`Refusal`).
-/

namespace HandlerPipeline

/-- A reason for which a pipeline cannot be built. -/
inductive BuildError where
  /-- A raw step has no recognised shape, or a reference in it cannot be read. The message shows it
  by the text `echo`. -/
  | invalidStep (raw : Value) (echo reason : String)
  /-- Two module paths of one pipeline take the same binding name. -/
  | bindingCollision (name first second : String)
  /-- A function declares a handler and steps that do not go together. Without a detail, it is a
  handler beside an array of steps. -/
  | conflictingHandler (function : String) (detail : String)
  /-- A module that is referenced has no source. -/
  | unresolvedModule (path : String)
  /-- The service's runtime is not one that artifacts are written for. -/
  | unsupportedRuntime (runtime : String)
  /-- A build was restricted to a function that is not declared. -/
  | unknownFunction (name : String)
  /-- Generated source was refused by its checker. -/
  | rejectedSource (detail : String)
  deriving Inhabited

namespace BuildError

/-- The reason given when a side of a step is not a text. -/
def notAText : String := "handler references must be strings"

/-- The detail of a conflict between a function's hooks and the service's. -/
def unmergedHooks : String :=
  "Function pre/pos hooks cannot be combined with global pre/pos " ++
    "hooks unless a hook_merge policy is configured."

/-- The reason of a collision, by the literals of the name and the paths. -/
def collisionReason (name first second : String) : String :=
  "modules " ++ first ++ " and " ++ second ++ " both bind to " ++ name

/-- The reason of a collision of module paths. -/
def bindingCollisionReason (name first second : String) : String :=
  collisionReason (Text.quote name) (Text.quote first) (Text.quote second)

/-- The echo of the two paths of a collision. -/
def pathsEcho (first second : String) : String :=
  "[" ++ Text.jsonString first ++ Value.separator ++ Text.jsonString second ++ "]"

/-- The message about a raw step that is shown by the text `echo`. -/
def invalidMessage (echo reason : String) : String :=
  "Invalid handler: " ++ echo ++ if reason = "" then "" else " (" ++ reason ++ ")"

/-- The message of an error. -/
def message : BuildError → String
  | invalidStep _ echo reason => invalidMessage echo reason
  | bindingCollision name first second =>
    invalidMessage (pathsEcho first second) (bindingCollisionReason name first second)
  | conflictingHandler function detail =>
    "Error in function " ++ function ++ ". " ++
      if detail = "" then
        "When defining a handler, only the \x7b pre: ..., pos: ...\x7d configuration is allowed."
      else detail
  | unresolvedModule path =>
    "Unsupported handler extension for module " ++ path ++
      ". Only .py modules and packages (optionally with .pyi stubs) are supported."
  | unsupportedRuntime runtime =>
    "Middleware chain doesn't support the \"" ++ runtime ++ "\" runtime"
  | unknownFunction name => "Unknown function: " ++ name
  | rejectedSource detail => detail

/-- The reason that an error about a raw step carries. A collision is such an error. -/
def reason? : BuildError → Option String
  | invalidStep _ _ reason => some reason
  | bindingCollision name first second => some (bindingCollisionReason name first second)
  | _ => none

/-- The families of build errors, by what can be caught together. -/
inductive Family where
  | any
  | invalidStep
  | bindingCollision
  | conflictingHandler
  | unresolvedModule
  | unsupportedRuntime
  | unknownFunction
  | rejectedSource
  deriving DecidableEq, Repr

/-- The name of a family, as hosts know it. -/
def Family.name : Family → String
  | .any => "MiddlewareChainError"
  | .invalidStep => "InvalidSpecError"
  | .bindingCollision => "BindingCollisionError"
  | .conflictingHandler => "ConflictingHandlerError"
  | .unresolvedModule => "UnresolvedModuleError"
  | .unsupportedRuntime => "UnsupportedRuntimeError"
  | .unknownFunction => "UnknownFunctionError"
  | .rejectedSource => "EmitError"

/-- Every family. -/
def Family.all : List Family :=
  [.any, .invalidStep, .bindingCollision, .conflictingHandler, .unresolvedModule,
    .unsupportedRuntime, .unknownFunction, .rejectedSource]

/-- A family and the wider ones that contain it, nearest first. -/
def Family.lineage : Family → List Family
  | .any => [.any]
  | .bindingCollision => [.bindingCollision, .invalidStep, .any]
  | family => [family, .any]

/-- The narrowest family of an error. -/
def family : BuildError → Family
  | invalidStep .. => .invalidStep
  | bindingCollision .. => .bindingCollision
  | conflictingHandler .. => .conflictingHandler
  | unresolvedModule _ => .unresolvedModule
  | unsupportedRuntime _ => .unsupportedRuntime
  | unknownFunction _ => .unknownFunction
  | rejectedSource _ => .rejectedSource

/-- The paths of a collision are echoed like a raw step that is a list of them. -/
theorem echo_paths (first second : String) :
    (Value.list [.text first, .text second]).echo = .ok (pathsEcho first second) := by
  rw [Value.echo, Value.json, Value.jsons, Value.json, Value.jsons, Value.json, Value.jsons,
    pathsEcho]
  simp [Except.map, String.append_assoc]

end BuildError

/-- Why a function has no pipeline: an error of the library, or an exception that a value of the
descriptor raises. -/
inductive Refusal where
  | build (e : BuildError)
  | raised (x : Raised)

/-- The refusal of a raw step: the error that echoes it, or what is raised where it cannot be
echoed. -/
def Refusal.invalidStep (raw : Value) (reason : String) : Refusal :=
  match raw.echo with
  | .ok echo => .build (.invalidStep raw echo reason)
  | .error x => .raised x

end HandlerPipeline

import HandlerPipeline.Pipeline

/-!
# Descriptors

What a service's descriptor says about middleware: settings for the whole service, and one
declaration per function. A function's own steps are an array of raw steps, or its handler between
its hooks. Hooks of a function and hooks of the service are combined by the merge policy.
-/

namespace HandlerPipeline

/-- Raw steps around a single handler. -/
structure Hooks where
  before : List Value
  after : List Value

/-- Hooks without any step. -/
def Hooks.isEmpty (h : Hooks) : Bool := h.before.isEmpty && h.after.isEmpty

/-- The handler of a declaration: none, one reference, or (in the older form) an array of steps. -/
inductive HandlerField where
  | absent
  | single (reference : String)
  | steps (raw : List Value)

/-- The middleware of a declaration: none, an array of steps, or hooks around the handler. -/
inductive MiddlewareField where
  | absent
  | steps (raw : List Value)
  | hooks (h : Hooks)

/-- A function as a descriptor declares it. Fields that say nothing about middleware are kept. -/
structure Declaration where
  name : String
  handler : HandlerField
  middleware : MiddlewareField
  others : List (String × Value)

/-- How the hooks of a function combine with those of the service. -/
inductive HookMerge where
  /-- They must not meet. -/
  | refuse
  /-- The service's hooks go around the function's. -/
  | nest
  /-- The function's hooks replace the service's. -/
  | override
  deriving DecidableEq, Repr

/-- The middleware settings of a service. -/
structure Settings where
  folder : String
  cleanFolder : Bool
  before : List Value
  after : List Value
  runtime : String
  hookMerge : HookMerge

namespace Settings

/-- The settings of a descriptor that says nothing. -/
def default : Settings where
  folder := "middleware_chain_handlers"
  cleanFolder := true
  before := []
  after := []
  runtime := "python3.12"
  hookMerge := .refuse

/-- The runtimes that artifacts are written for. -/
def runtimes : List String :=
  ["python3.9", "python3.10", "python3.11", "python3.12", "python3.13"]

/-- The service has hooks of its own. -/
def hasHooks (s : Settings) : Bool := !s.before.isEmpty || !s.after.isEmpty

end Settings

namespace Declaration

/-- The function gives its steps as an array. -/
def declaresSteps (d : Declaration) : Bool :=
  match d.middleware, d.handler with
  | .steps _, _ => true
  | _, .steps _ => true
  | _, _ => false

/-- The function has a middleware field. -/
def saysMiddleware (d : Declaration) : Bool :=
  match d.middleware with
  | .absent => false
  | _ => true

/-- The hooks of the function. -/
def hooks? (d : Declaration) : Option Hooks :=
  match d.middleware with
  | .hooks h => some h
  | _ => none

/-- The handler as a list of raw steps; an empty reference is no handler. -/
def handlerSteps (d : Declaration) : List Value :=
  match d.handler with
  | .single reference => if reference = "" then [] else [.text reference]
  | _ => []

/-- The raw steps that a function contributes: its array of steps, or its handler between its
hooks. An array and a handler field beside it conflict, and so do two arrays. -/
def ownSteps (d : Declaration) : Except BuildError (List Value) :=
  match d.middleware, d.handler with
  | .steps raw, .absent => .ok raw
  | .steps _, _ => .error (.conflictingHandler d.name "")
  | .absent, .steps raw => .ok raw
  | .hooks _, .steps _ => .error (.conflictingHandler d.name "")
  | .hooks h, _ => .ok (h.before ++ d.handlerSteps ++ h.after)
  | .absent, _ => .ok d.handlerSteps

/-- The function's hooks are not empty and meet hooks of the service. -/
def meetsHooks (d : Declaration) (s : Settings) : Bool :=
  match d.hooks? with
  | some h => !h.isEmpty && s.hasHooks
  | none => false

/-- The pipeline of a declared function. -/
def pipeline (d : Declaration) (s : Settings) : Except Refusal Pipeline :=
  if d.meetsHooks s && s.hookMerge == .refuse then
    .error (.build (.conflictingHandler d.name BuildError.unmergedHooks))
  else
    match d.ownSteps with
    | .error e => .error (.build e)
    | .ok own =>
      if d.meetsHooks s && s.hookMerge == .override then Pipeline.assemble [] own [] d.name
      else Pipeline.assemble s.before own s.after d.name

end Declaration

end HandlerPipeline

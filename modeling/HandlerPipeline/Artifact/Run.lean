import HandlerPipeline.Artifact.Source
import HandlerPipeline.Chain.Machine

/-!
# Running artifacts

An artifact that has been loaded runs the chain of its rows. The chain looks up names that come with the language, and
finds a module instead where the artifact binds one to such a name. A module is neither a function
nor a type, so the run fails where the name is used:

* `isinstance` and `dict`, and `setattr` for a context that is no map, when the chain puts its
  entries into the context;
* `Exception` when a handler raises, whatever it raises.

Nothing else that the chain looks up can be bound to a module.
-/

namespace HandlerPipeline

namespace Chain

variable {World : Type}

/-- The error of asking whether a value belongs to something that is no type. -/
def Error.notType : Error :=
  ⟨.type, some "isinstance() arg 2 must be a type, a tuple of types, or a union"⟩

/-- The error of catching something that is no kind of errors. -/
def Error.notCatchable : Error :=
  ⟨.type, some "catching classes that do not inherit from BaseException is not allowed"⟩

/-- The entries of the context are reached like those of a map. -/
def Context.hasItems : Context → Bool
  | record r => r.shape = .items
  | absent | fixed _ => false

/-- The handler where nothing catches what it raises, so that the run ends with it. -/
def Handler.uncaught (h : Handler World) : Handler World := fun s =>
  match h.invoke s with
  | (s', .returned d) => (s', .done (.returned d))
  | (s', .raised _) => (s', .done (.raised ⟨.abort, none⟩))

/-- The link where nothing catches what its handlers raise. -/
def Link.uncaught (link : Link World) : Link World :=
  { link with
    success? := link.success?.map Handler.uncaught
    failure? := link.failure?.map Handler.uncaught }

end Chain

namespace Artifact

open Chain

variable {World : Type}

/-- Why the chain cannot put its entries into a context, where modules are bound to `names`. -/
def exposeError? (names : List String) (context : Context) : Option Error :=
  if names.contains "isinstance" then some (.uncallable "module")
  else if names.contains "dict" then some .notType
  else if names.contains "setattr" && !context.hasItems then some (.uncallable "module")
  else none

/-- Runs a chain in which every error of a handler meets something that catches no errors. -/
def runUncaught (context : Context) (links : List (Link World)) (s : Session World) :
    Session World × Outcome :=
  match context.opened with
  | .error e => (s, .raised e)
  | .ok record =>
    match Chain.run (links.map Link.uncaught) { s with record := record } with
    | (s', .returned d) => (s', .returned d)
    | (s', .raised _) => (s', .raised .notCatchable)

/-- Runs the chain of an artifact that binds modules to `names`. -/
def runOn (names : List String) (context : Context) (links : List (Link World))
    (s : Session World) : Session World × Outcome :=
  match exposeError? names context with
  | some e => (s, .raised e)
  | none =>
    if names.contains "Exception" then runUncaught context links s
    else Chain.runOn context links s

end Artifact

end HandlerPipeline

import HandlerPipeline.Chain.Session

/-!
# The chain

A chain is a sequence of links, each with a handler for success, one for failure, or both. Its state
is on the success arm, with the last value, on the failure arm, with the last error, or stopped. A
link is passed in two phases:

* on the success arm its success handler is called, with the value before it in the context;
* then, on the failure arm, its failure handler is called, with the error in the context.

A handler that returns leaves the chain on the success arm; one that raises an ordinary error leaves
it on the failure arm; any other error ends the run at once. A request to stop takes effect between
two phases: the state is settled as it is, and the remaining links are passed over.
-/

namespace HandlerPipeline.Chain

variable {World : Type}

/-- A link of a chain. -/
structure Link (World : Type) where
  success? : Option (Handler World)
  failure? : Option (Handler World)
  label : String

/-- The state of a chain. -/
inductive State where
  | succeeded (d : Datum)
  | failed (e : Error)
  | stopped (settled : State)
  deriving Inhabited

/-- Settles the state if the control was asked to stop. -/
def checkpoint (control : Nat) (s : Session World) : State → State
  | .stopped settled => .stopped settled
  | state => if s.isStopped control then .stopped state else state

/-- Calls a handler; its outcome is the next state, unless it ends the run. -/
def settle (h : Handler World) (s : Session World) : Session World × Except Error State :=
  match h.invoke s with
  | (s', .returned d) => (s', .ok (.succeeded d))
  | (s', .raised e) => (s', if e.isOrdinary then .ok (.failed e) else .error e)

/-- The phase of a link on the success arm. -/
def successPhase (link : Link World) (state : State) (s : Session World) :
    Session World × Except Error State :=
  match state, link.success? with
  | .succeeded d, some h => settle h (s.setPrev d)
  | _, _ => (s, .ok state)

/-- The phase of a link on the failure arm. -/
def failurePhase (link : Link World) (state : State) (s : Session World) :
    Session World × Except Error State :=
  match state, link.failure? with
  | .failed e, some h => settle h (s.setPrev (.error e))
  | _, _ => (s, .ok state)

/-- Passes a link that nothing has stopped yet. -/
def bothPhases (control : Nat) (link : Link World) (state : State) (s : Session World) :
    Session World × Except Error State :=
  match successPhase link state s with
  | (s', .error e) => (s', .error e)
  | (s', .ok state') => failurePhase link (checkpoint control s' state') s'

/-- Passes a link. -/
def advance (control : Nat) (link : Link World) (state : State) (s : Session World) :
    Session World × Except Error State :=
  match checkpoint control s state with
  | .stopped settled =>
    (s.say .debug ("Skipped step " ++ link.label ++ ": pipeline stopped"),
      .ok (.stopped settled))
  | entered => bothPhases control link entered s

/-- Passes links in order, up to an error that ends the run. -/
def advanceAll (control : Nat) : List (Link World) → State → Session World →
    Session World × Except Error State
  | [], state, s => (s, .ok state)
  | link :: rest, state, s =>
    match advance control link state s with
    | (s', .error e) => (s', .error e)
    | (s', .ok state') => advanceAll control rest state' s'

/-- The outcome of a state. A state that was settled twice has none, and asking for it fails. -/
def unwrap : State → Outcome
  | .succeeded d | .stopped (.succeeded d) => .returned d
  | .failed e | .stopped (.failed e) => .raised e
  | .stopped (.stopped _) => .raised (.noAttribute "Stopped" "value")

/-- Runs a chain over the context of the session. -/
def run (links : List (Link World)) (s : Session World) : Session World × Outcome :=
  let (entered, control) := s.enter
  match advanceAll control links (.succeeded .null) entered with
  | (s', .ok state) => (s', (unwrap state).leaving "coroutine")
  | (s', .error e) => (s', (Outcome.raised e).leaving "coroutine")

/-- Runs a chain over a context of its own. The session that it leaves has that context's record. -/
def runOn (context : Context) (links : List (Link World)) (s : Session World) :
    Session World × Outcome :=
  match context.opened with
  | .error e => (s, .raised e)
  | .ok record => run links { s with record := record }

/-- How the task of a routine has ended, as its event loop knows it. -/
inductive TaskEnd where
  | result (d : Datum)
  | failed (e : Error)
  /-- The routine has ended with the error that cancels it. -/
  | cancelled (e : Error)

/-- How the task of a routine ends that comes to an outcome. -/
def Outcome.taskEnd : Outcome → TaskEnd
  | .returned d => .result d
  | .raised e => if e.kind = .cancelled then .cancelled e else .failed e

/-- What the loop gives to whoever waits for the task. -/
def TaskEnd.outcome : TaskEnd → Outcome
  | .result d => .returned d
  | .failed e | .cancelled e => .raised e

/-- Runs a chain over a context of its own for a host that waits for it: the chain is the task of an
event loop that is made for it. -/
def runSync (context : Context) (links : List (Link World)) (s : Session World) :
    Session World × Outcome :=
  let (s', o) := runOn context links s
  (s', o.taskEnd.outcome)

/-- A task gives what its routine has come to. -/
@[simp]
theorem outcome_taskEnd (o : Outcome) : o.taskEnd.outcome = o := by
  cases o with
  | returned d => rfl
  | raised e =>
    rw [Outcome.taskEnd]
    split <;> rfl

/-- Runs a chain over a context of its own, inside a handler that keeps its own context. -/
def runBeside (context : Context) (links : List (Link World)) (s : Session World) :
    Session World × Outcome :=
  let (s', o) := runOn context links s
  ({ s' with record := s.record }, o)

/-- Runs a chain a number of times over one context, which every run leaves to the next; gives the
session, the outcome and the context after each run. -/
def runRepeatedly (links : List (Link World)) :
    Nat → Context → Session World → List (Session World × Outcome × Context)
  | 0, _, _ => []
  | n + 1, context, s =>
    let (s', o) := runOn context links s
    let context' := context.after s'.record
    (s', o, context') :: runRepeatedly links n context' s'

end HandlerPipeline.Chain

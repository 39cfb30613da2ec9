import HandlerPipeline.Chain.Context
import HandlerPipeline.Log

/-!
# Sessions

A session is everything that handlers can see and change while chains run: the entries of the
context, the stop requests, the lines logged, and a world of their own. Every invocation has a
control, known by its number; a stop request names the control that it is meant for, so that a
request kept from one invocation cannot stop another.

A handler is called in a session. It has either finished when the call returns, or gives something
to await.
-/

namespace HandlerPipeline.Chain

/-- How a handler, or a whole chain, ends. -/
inductive Outcome where
  | returned (d : Datum)
  | raised (e : Error)

/-- The outcome as it leaves a routine of the kind `routine`: what ends iterations must not leave
it, and is replaced. -/
def Outcome.leaving (routine : String) : Outcome → Outcome
  | .returned d => .returned d
  | .raised e =>
    if e.kind = .stopIteration then
      .raised ⟨.runtime, some (routine ++ " raised StopIteration")⟩
    else .raised e

/-- What handlers see and change. -/
structure Session (World : Type) where
  record : Record
  /-- The controls that were asked to stop. -/
  stopped : List Nat
  /-- The number of controls made so far; they are numbered from 0. -/
  issued : Nat
  log : List Log.Line
  world : World

namespace Session

variable {World : Type}

/-- The session in which nothing has happened. -/
def start (record : Record) (world : World) : Session World := ⟨record, [], 0, [], world⟩

/-- What the handler before gave, as handlers read it. -/
def prev (s : Session World) : Datum := s.record.get "prev"

/-- Sets an entry of the context. -/
def set (name : String) (d : Datum) (s : Session World) : Session World :=
  { s with record := s.record.set name d }

/-- Writes what the handler before gave. -/
def setPrev (d : Datum) (s : Session World) : Session World := s.set "prev" d

/-- The control was asked to stop. -/
def isStopped (s : Session World) (control : Nat) : Bool := s.stopped.contains control

/-- Asks a control to stop. -/
def stop (control : Nat) (s : Session World) : Session World :=
  { s with stopped := if s.isStopped control then s.stopped else control :: s.stopped }

/-- Calls what the context holds as the function that stops the chain. -/
def callEnd (s : Session World) : Except Error (Session World) :=
  match s.record.get "end" with
  | .stop control => .ok (s.stop control)
  | d => .error (.uncallable d.typeName)

/-- Logs a line. -/
def say (level : Log.Level) (message : String) (s : Session World) : Session World :=
  { s with log := s.log ++ [⟨.chain, level, message⟩] }

/-- Makes a control, which nobody has asked to stop, and puts its two entries into the context. -/
def enter (s : Session World) : Session World × Nat :=
  let made := { s with issued := s.issued + 1, stopped := s.stopped.filter (· != s.issued) }
  ((made.set "end" (.stop s.issued)).setPrev .null, s.issued)

end Session

/-- What the call of a handler gives: its outcome, or something to await. -/
inductive Reply (World : Type) where
  | done (o : Outcome)
  | pending (resume : Session World → Session World × Outcome)

/-- A handler: what it does to a session when it is called. -/
abbrev Handler (World : Type) := Session World → Session World × Reply World

namespace Handler

variable {World : Type}

/-- Something that is no handler; calling it fails. -/
def uncallable (typeName : String) : Handler World :=
  fun s => (s, .done (.raised (.uncallable typeName)))

/-- Calls a handler, and awaits what it gives. -/
def invoke (h : Handler World) (s : Session World) : Session World × Outcome :=
  match h s with
  | (s', .done o) => (s', o)
  | (s', .pending resume) => resume s'

end Handler

end HandlerPipeline.Chain

import HandlerPipeline.Chain.Machine

/-!
# Driving a chain by hand

The parts of a chain can be used one by one: a machine has a session, one control in it and a
current state, and takes commands in any order. The states it reaches need not be those of a run.
-/

namespace HandlerPipeline.Chain

variable {World : Type}

/-- A session with one control and a current state. -/
structure Machine (World : Type) where
  session : Session World
  control : Nat
  state : State

/-- The machine of a new control over a context, unless the context takes no entries. -/
def Machine.start (context : Context) (world : World) (state : State) :
    Except Error (Machine World) :=
  context.opened.map fun record =>
    let (s, control) := (Session.start record world).enter
    ⟨s, control, state⟩

/-- The control was asked to stop. -/
def Machine.isStopped (m : Machine World) : Bool := m.session.isStopped m.control

/-- What a machine can be told. -/
inductive Command (World : Type) where
  | advance (link : Link World)
  | settle (h : Handler World)
  | checkpoint
  /-- Asks the control to stop. -/
  | stop
  /-- Calls what the context holds as the function that stops the chain. -/
  | callEnd
  /-- Writes what the handler before gave. -/
  | record (d : Datum)
  | setState (state : State)

/-- The machine after a phase; an error that ends the run leaves the state as it was. -/
def Machine.after (m : Machine World) :
    Session World × Except Error State → Machine World × Option Error
  | (s, .ok state) => ({ m with session := s, state }, none)
  | (s, .error e) => ({ m with session := s }, some e)

/-- Carries out a command; gives the error that it ends with, if it does. -/
def Command.perform (m : Machine World) : Command World → Machine World × Option Error
  | advance link => m.after (Chain.advance m.control link m.state m.session)
  | settle h => m.after (Chain.settle h m.session)
  | checkpoint => ({ m with state := Chain.checkpoint m.control m.session m.state }, none)
  | stop => ({ m with session := m.session.stop m.control }, none)
  | callEnd =>
    match m.session.callEnd with
    | .ok s => ({ m with session := s }, none)
    | .error e => (m, some e)
  | record d => ({ m with session := m.session.setPrev d }, none)
  | setState state => ({ m with state }, none)

end HandlerPipeline.Chain

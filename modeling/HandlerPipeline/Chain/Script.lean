import HandlerPipeline.Chain.Machine

/-!
# Scripted handlers

A script says what a handler does when it is called: it notes the call, performs actions in order,
and ends by returning or raising. Scripts make chains whose every behaviour can be written down and
watched: they run in a world that consists of the event and of a trace of notes.

A script is performed when it is called, or as a routine when its result is awaited, or its actions
when it is called and its end when the result is awaited.
-/

namespace HandlerPipeline.Chain.Script

/-- A note in the trace. -/
structure Note where
  speaker : String
  what : String
  datum : Datum

/-- The world of scripts: the event, and the notes so far. -/
structure Stage where
  event : Value
  trace : List Note

/-- When a script is performed. -/
inductive Mode where
  /-- When it is called. -/
  | called
  /-- When its result is awaited. -/
  | routine
  /-- Its actions when it is called, its end when the result is awaited. -/
  | deferred
  deriving DecidableEq, Repr

/-- How a script ends. -/
inductive Ending where
  | raise (e : Error)
  /-- Raises what the handler before gave, if it is an error. -/
  | raisePrev
  | give (v : Value)
  | givePrev
  | giveEvent
  /-- Returns a new error as an ordinary value. -/
  | giveError

mutual
/-- What takes the place of a handler. -/
inductive Role where
  | absent
  /-- A value that is no function. -/
  | constant (typeName : String)
  | scripted (name : String) (mode : Mode) (actions : List Action) (ending : Ending)

/-- An action of a script. -/
inductive Action where
  /-- Calls the function that stops the chain. -/
  | callEnd
  /-- Leaves a note. -/
  | note (v : Value)
  | setEvent (entries : List (Value × Value))
  | setContext (entries : List (String × Value))
  /-- Lets others run. -/
  | pause
  /-- Runs a chain over the same context, or over one of its own. -/
  | nested (links : List ScriptedLink) (context : Option Context)

/-- A link of scripts. -/
inductive ScriptedLink where
  | mk (label : String) (success failure : Role)
end

instance : Inhabited Role := ⟨.absent⟩

instance : Inhabited Action := ⟨.pause⟩

instance : Inhabited ScriptedLink := ⟨.mk "" .absent .absent⟩

/-- A session of scripts. -/
abbrev Scene := Session Stage

/-- Leaves a note. -/
def noteOf (name what : String) (d : Datum) (s : Scene) : Scene :=
  { s with world := { s.world with trace := s.world.trace ++ [⟨name, what, d⟩] } }

/-- Sets some entries of the event, if it is a map. -/
def setEvent (entries : List (Value × Value)) (s : Scene) : Scene :=
  { s with world := { s.world with event := s.world.event.updated entries } }

/-- The context with some of its entries set. -/
def setContext (entries : List (String × Value)) (s : Scene) : Scene :=
  entries.foldl (fun s e => s.set e.1 (.value e.2)) s

/-- The outcome of an ending. -/
def Ending.outcome (s : Scene) : Ending → Outcome
  | raise e => .raised e
  | raisePrev =>
    match s.prev with
    | .error e => .raised e
    | _ => .raised ⟨.type, some "exceptions must derive from BaseException"⟩
  | give v => .returned (.value v)
  | givePrev => .returned s.prev
  | giveEvent => .returned (.value s.world.event)
  | giveError => .returned (.error ⟨.value, some "made"⟩)

/-- The outcome of a script whose actions have been performed. -/
def finish (ending : Ending) : Scene × Option Error → Scene × Outcome
  | (s, some e) => (s, .raised e)
  | (s, none) => (s, ending.outcome s)

/-- Notes the outcome of a nested chain. -/
def noteNested (name : String) : Scene × Outcome → Scene × Option Error
  | (s, .returned d) => (noteOf name "nested" d s, none)
  | (s, .raised e) => (s, some e)

/-- The handler of a script whose actions are performed by `perform`. -/
def handlerOf (name : String) (mode : Mode) (perform : Scene → Scene × Option Error)
    (ending : Ending) : Handler Stage := fun s =>
  let start := fun s : Scene => perform (noteOf name "called" s.prev s)
  match mode with
  | .called =>
    let (s', o) := finish ending (start s)
    (s', .done o)
  | .routine =>
    (s, .pending fun s =>
      let (s', o) := finish ending (start s)
      (s', o.leaving "coroutine"))
  | .deferred =>
    match start s with
    | (s', some e) => (s', .done (.raised e))
    | (s', none) => (s', .pending fun s => (s, (ending.outcome s).leaving "generator"))

mutual
/-- The handler of a role. -/
def Role.handler? : Role → Option (Handler Stage)
  | .absent => none
  | .constant typeName => some (.uncallable typeName)
  | .scripted name mode actions ending =>
    some (handlerOf name mode (performAll name actions) ending)

/-- Performs an action of the script `name`. -/
def Action.perform (name : String) : Action → Scene → Scene × Option Error
  | .callEnd, s =>
    match s.callEnd with
    | .ok s' => (s', none)
    | .error e => (s, some e)
  | .note v, s => (noteOf name "after" (.value v) s, none)
  | .setEvent entries, s => (Script.setEvent entries s, none)
  | .setContext entries, s => (Script.setContext entries s, none)
  | .pause, s => (s, none)
  | .nested links none, s => noteNested name (run (chain links) s)
  | .nested links (some context), s => noteNested name (runBeside context (chain links) s)

/-- Performs actions in order, up to the first that fails. -/
def performAll (name : String) : List Action → Scene → Scene × Option Error
  | [], s => (s, none)
  | action :: rest, s =>
    match action.perform name s with
    | (s', some e) => (s', some e)
    | (s', none) => performAll name rest s'

/-- The link of scripted handlers. -/
def ScriptedLink.link : ScriptedLink → Link Stage
  | .mk label success failure => ⟨success.handler?, failure.handler?, label⟩

/-- The chain of scripted links. -/
def chain : List ScriptedLink → List (Link Stage)
  | [] => []
  | link :: rest => link.link :: chain rest
end

end HandlerPipeline.Chain.Script

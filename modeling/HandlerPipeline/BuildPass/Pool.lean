import HandlerPipeline.BuildPass

/-!
# Building functions at the same time

The functions of a build are independent, and several workers build them at the same time. Each
function goes through stages. What it reads from what the pass remembers, what it asks the probe,
and what it adds to what is remembered are stages of their own, and between any two stages other
functions may go on. A schedule is a list of turns: which function goes on, and how the probe
answers at that moment. Building the functions one after the other (`BuildPass.buildEach`) is one
schedule among all of them.
-/

namespace HandlerPipeline.BuildPass

/-- How far a function has been built. -/
inductive Stage where
  /-- No worker has taken the function up. -/
  | waiting
  /-- The pipeline is assembled, and is looked up next. -/
  | assembled (p : Pipeline)
  /-- Nothing is remembered about the pipeline. These paths are still to be probed, and `best` is
  the strictest variant so far. -/
  | probing (p : Pipeline) (best : Variant) (paths : List String)
  /-- The variant was found, and is remembered next. -/
  | found (p : Pipeline) (v : Variant)
  /-- The variant is known, and the artifact is written next. -/
  | resolved (p : Pipeline) (v : Variant)
  | built (outcome : Outcome)

/-- What comes of a function that has been built. -/
def Stage.outcome? : Stage → Option Outcome
  | built outcome => some outcome
  | _ => none

/-- A worker is building the function. -/
def Stage.isUnderWay : Stage → Bool
  | waiting | built _ => false
  | _ => true

/-- Takes a function one stage further: the stage that it reaches, and what is remembered then. -/
def proceed (pass : BuildPass) (probe : Probe) (memory : Resolved) (d : Declaration) :
    Stage → Stage × Resolved
  | .waiting =>
    match pass.assemble d with
    | .error e => (.built (.error e.toFailure), memory)
    | .ok p => (if p.isEmpty then .built (.ok none) else .assembled p, memory)
  | .assembled p =>
    match memory.lookup p with
    | some v => (.resolved p v, memory)
    | none => (.probing p .weakest p.modulePaths, memory)
  | .probing p best [] => (.found p best, memory)
  | .probing p best (path :: rest) =>
    match probe.moduleVariant path with
    | .ok v => (.probing p (best.max v) rest, memory)
    | .error f => (.built (.error f), memory)
  | .found p v => (.resolved p v, memory.remember p v)
  | .resolved p v => (.built ((pass.write p v).1.map some), memory)
  | .built outcome => (.built outcome, memory)

/-- Functions with their stages, and what the pass remembers. -/
structure Pool where
  tasks : List (Declaration × Stage)
  memory : Resolved

/-- A turn: the place of the function that goes on, and the probe as it answers at that moment. -/
structure Turn where
  place : Nat
  probe : Probe

namespace Pool

/-- The pool in which no function has been taken up. -/
def start (memory : Resolved) (declarations : List Declaration) : Pool :=
  ⟨declarations.map fun d => (d, .waiting), memory⟩

/-- The number of functions that are being built. -/
def running (pool : Pool) : Nat := pool.tasks.countP fun task => task.2.isUnderWay

/-- A function at that stage may go on: it is being built, or the workers take it up. -/
def mayProceed (pool : Pool) (workers : Workers) : Stage → Bool
  | .waiting => workers.takeUp pool.running
  | .built _ => false
  | _ => true

/-- The pool after a turn, if the turn is possible. -/
def after (pass : BuildPass) (pool : Pool) (turn : Turn) : Option Pool :=
  match pool.tasks[turn.place]? with
  | none => none
  | some (d, stage) =>
    if pool.mayProceed pass.config.workers.effective stage then
      let reached := pass.proceed turn.probe pool.memory d stage
      some ⟨pool.tasks.set turn.place (d, reached.1), reached.2⟩
    else none

/-- The pool after a schedule, if each of its turns is possible. -/
def run (pass : BuildPass) (pool : Pool) : List Turn → Option Pool
  | [] => some pool
  | turn :: rest =>
    match pool.after pass turn with
    | some next => next.run pass rest
    | none => none

/-- The functions with their outcomes, when all of them have been built. -/
def outcomes? (pool : Pool) : Option (List (Declaration × Outcome)) :=
  pool.tasks.mapM fun task => task.2.outcome?.map fun outcome => (task.1, outcome)

end Pool

end HandlerPipeline.BuildPass

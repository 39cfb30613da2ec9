import HandlerPipeline.Chain.Script
import HandlerPipeline.Proofs.Chain.Calls

/-!
# Data flow along a chain

What a handler reads of the handler before it is that handler's outcome, whatever stands between
them and whatever handlers write into the context themselves (`run_dataFlow`). The outcome of the
last call is that of the chain, with one exception: an error that ends iterations does not leave the
routine that a chain runs in (`leaving_eq_iff`), and another one takes its place.
-/

namespace HandlerPipeline.Chain

variable {World : Type}

/-! ## What a context holds -/

/-- An entry that was set is there. -/
theorem Record.lookup_set (r : Record) (name : String) (d : Datum) :
    (r.set name d).entries.lookup name = some d := by
  obtain ⟨shape, entries⟩ := r
  rw [Record.set_eq]
  dsimp only
  induction entries with
  | nil => simp [Record.setEntry]
  | cons e rest ih =>
    rw [Record.setEntry]
    split
    · simp
    · next hne =>
      rw [List.lookup_cons, beq_false_of_ne (Ne.symm hne)]
      exact ih

/-- The others are there iff they were, and as they were. -/
theorem Record.lookup_set_of_ne (r : Record) {name other : String} (h : other ≠ name) (d : Datum) :
    (r.set name d).entries.lookup other = r.entries.lookup other := by
  obtain ⟨shape, entries⟩ := r
  rw [Record.set_eq]
  dsimp only
  induction entries with
  | nil => simp [Record.setEntry, h]
  | cons e rest ih =>
    rw [Record.setEntry]
    split
    · next heq =>
      rw [List.lookup_cons, List.lookup_cons, heq, beq_false_of_ne h]
    · rw [List.lookup_cons, List.lookup_cons, ih]

/-- An entry reads as it was set. -/
theorem Record.get_set (r : Record) (name : String) (d : Datum) : (r.set name d).get name = d := by
  rw [Record.get, lookup_set]
  rfl

/-- Setting an entry leaves the others as they were. -/
theorem Record.get_set_of_ne (r : Record) {name other : String} (h : other ≠ name) (d : Datum) :
    (r.set name d).get other = r.get other := by
  rw [Record.get, Record.get, lookup_set_of_ne r h]

/-- Handlers read what was written for them. -/
theorem Session.prev_setPrev (s : Session World) (d : Datum) : (s.setPrev d).prev = d :=
  Record.get_set s.record "prev" d

/-! ## The outcome of a chain -/

/-- An outcome leaves a routine unchanged iff it is no error that ends iterations. -/
theorem leaving_eq_iff (routine : String) (o : Outcome) :
    o.leaving routine = o ↔ ∀ e, o = .raised e → e.kind ≠ .stopIteration := by
  cases o with
  | returned d => simp [Outcome.leaving]
  | raised e =>
    rw [Outcome.leaving]
    split
    · next hkind =>
      constructor
      · intro h
        rw [← Outcome.raised.inj h] at hkind
        cases hkind
      · intro h
        exact absurd hkind (h e rfl)
    · next hkind =>
      constructor
      · intro _ e' he'
        cases he'
        exact hkind
      · intro _
        rfl

/-- The outcome of the last of some calls; without one, nothing was returned. -/
def lastOutcome (cs : List (Call World)) : Outcome :=
  (cs.getLast?.map Call.outcome).getD (.returned .null)

/-- The calls of a run over a context of its own. -/
def callsOn (context : Context) (links : List (Link World)) (s : Session World) :
    List (Call World) :=
  (runOn context (watch 0 links) s.watched).1.world.calls

/-- The data of the run of a chain over a context that takes entries. -/
structure DataFlow (context : Context) (links : List (Link World)) (s : Session World) : Prop where
  /-- Every call is one of the handler at its place, and has that handler's outcome. -/
  invoked : ∀ c ∈ callsOn context links s, ∃ slot, (slots links)[c.place]? = some slot ∧
    slot.handler.invoke c.before = (c.after, c.outcome)
  /-- The first call reads nothing. -/
  first : ∀ c, (callsOn context links s)[0]? = some c → c.before.prev = .null
  /-- Every further call reads the outcome of the call before it, in a session that nothing else has
  changed since. -/
  next : ∀ k c c', (callsOn context links s)[k]? = some c →
    (callsOn context links s)[k + 1]? = some c' →
    c'.before.prev = c.outcome.datum ∧ c'.before = c.after.setPrev c.outcome.datum
  /-- The outcome of the run is that of the last call, as it leaves a routine. -/
  outcome : (runOn context links s).2 =
    (lastOutcome (callsOn context links s)).leaving "coroutine"
  /-- So it is that of the last call itself iff that call has not raised what ends iterations. -/
  unchanged : (runOn context links s).2 = lastOutcome (callsOn context links s) ↔
    ∀ e, lastOutcome (callsOn context links s) = .raised e → e.kind ≠ .stopIteration

/-- A context that takes entries is that of the session the chain runs in. -/
theorem callsOn_of_opened {context : Context} {record : Record} (h : context.opened = .ok record)
    (links : List (Link World)) (s : Session World) :
    callsOn context links s = calls links { s with record := record } := by
  rw [callsOn, runOn, h]
  rfl

/-- **The outcome of every call is what the next call reads, and that of the last is the chain's.**
Over a context that takes no entries nothing is called, and the run fails. -/
theorem runOn_dataFlow (context : Context) (links : List (Link World)) (s : Session World) :
    (∀ e, context.opened = .error e →
      callsOn context links s = [] ∧ runOn context links s = (s, .raised e)) ∧
    (∀ record, context.opened = .ok record → DataFlow context links s) := by
  constructor
  · intro e he
    rw [callsOn, runOn, runOn, he]
    exact ⟨rfl, rfl⟩
  · intro record hrecord
    obtain ⟨s', o', passed, htraced, hrun, -⟩ := run_traced links { s with record := record }
    rw [← callsOn_of_opened hrecord] at htraced
    have houtcome : (runOn context links s).2 =
        (lastOutcome (callsOn context links s)).leaving "coroutine" := by
      rw [runOn, hrecord, lastOutcome, htraced.last.2]
      exact congrArg Prod.snd hrun
    refine ⟨fun c hc => (htraced.invoked c hc).2, fun c hc => ?_, fun k c c' hc hc' => ?_, houtcome,
      ?_⟩
    · rw [← List.head?_eq_getElem?] at hc
      rw [htraced.before_head hc, Session.prev_setPrev]
      rfl
    · have hhead : ((callsOn context links s).drop (k + 1)).head? = some c' := by
        rw [List.head?_drop]
        exact hc'
      have hbefore := (htraced.drop hc).before_head hhead
      exact ⟨by rw [hbefore, Session.prev_setPrev], hbefore⟩
    · rw [houtcome]
      exact leaving_eq_iff _ _

/-- A chain of one handler, which raises what ends iterations. -/
def exhausted : List Script.ScriptedLink :=
  [.mk "" (.scripted "a" .called [] (.raise ⟨.stopIteration, some "s"⟩)) .absent]

/-- The outcome of a chain is not always that of its last call: the error of such a handler is
replaced on its way out. -/
theorem runOn_ne_lastOutcome :
    ¬ ∀ (context : Context) (links : List (Link Script.Stage)) (s : Script.Scene) (record : Record),
      context.opened = .ok record →
        (runOn context links s).2 = lastOutcome (callsOn context links s) := by
  intro h
  have hrun := h .absent (Script.chain exhausted) (.start .fresh ⟨.map [], []⟩) .fresh rfl
  have hkind : (Outcome.raised ⟨.runtime, some "coroutine raised StopIteration"⟩) =
      .raised ⟨.stopIteration, some "s"⟩ := hrun
  cases hkind

end HandlerPipeline.Chain

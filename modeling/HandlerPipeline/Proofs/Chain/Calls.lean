import HandlerPipeline.Proofs.Chain.Scan

/-!
# The calls of a run

A run is watched by handlers that note their calls in a world beside that of the handlers
(`calls`). The relation `Traced` says how calls follow each other: each stands at the next place
(`nextPlace`), sees the session that the call before it left with that call's outcome in the
context, and does to it what the handler at its place does. The theorem `run_traced` says that the
calls of every run are traced in this way, and that the run ends as the last of them does.
-/

namespace HandlerPipeline.Chain

variable {World : Type}

/-! ## Watching -/

/-- A call of a handler: the handler's place in the sequence of the chain, the session in which it
was called, and what it made of it. -/
structure Call (World : Type) where
  place : Nat
  before : Session World
  after : Session World
  outcome : Outcome

/-- The call of a slot's handler at a place, after an outcome. -/
def Slot.call (slot : Slot World) (place : Nat) (o : Outcome) (s : Session World) : Call World where
  place := place
  before := s.setPrev o.datum
  after := (slot.handler.invoke (s.setPrev o.datum)).1
  outcome := (slot.handler.invoke (s.setPrev o.datum)).2

/-- A world beside which calls are noted. -/
structure Watched (World : Type) where
  world : World
  calls : List (Call World)

/-- The session with another world. -/
def Session.inWorld {World' : Type} (s : Session World) (w : World') : Session World' :=
  ⟨s.record, s.stopped, s.issued, s.log, w⟩

/-- The session, watched from here on. -/
def Session.watched (s : Session World) : Session (Watched World) := s.inWorld ⟨s.world, []⟩

/-- The handler at a place, which notes its calls. -/
def Handler.watched (place : Nat) (h : Handler World) : Handler (Watched World) := fun s =>
  let before := s.inWorld s.world.world
  let (after, o) := h.invoke before
  (after.inWorld ⟨after.world, s.world.calls ++ [⟨place, before, after, o⟩]⟩, .done o)

/-- Links whose handlers note their calls; the places are counted from `place`. -/
def watch (place : Nat) : List (Link World) → List (Link (Watched World))
  | [] => []
  | link :: rest =>
    ⟨link.success?.map (Handler.watched place),
      link.failure?.map (Handler.watched (place + link.success?.toList.length)), link.label⟩ ::
      watch (place + link.slots.length) rest

/-- The calls that a run makes, in order. -/
def calls (links : List (Link World)) (s : Session World) : List (Call World) :=
  (run (watch 0 links) s.watched).1.world.calls

/-- Slots whose handlers note their calls. -/
def watchSlots (place : Nat) : List (Slot World) → List (Slot (Watched World))
  | [] => []
  | slot :: rest => ⟨slot.arm, slot.handler.watched place⟩ :: watchSlots (place + 1) rest

/-- Slots are watched part by part. -/
theorem watchSlots_append (place : Nat) (first second : List (Slot World)) :
    watchSlots place (first ++ second) =
      watchSlots place first ++ watchSlots (place + first.length) second := by
  induction first generalizing place with
  | nil => rfl
  | cons slot rest ih =>
    rw [List.cons_append, watchSlots, watchSlots, ih, List.cons_append, List.length_cons,
      Nat.add_right_comm, Nat.add_assoc]

/-- The slots of watched links are the watched slots. -/
theorem slots_watch (place : Nat) (links : List (Link World)) :
    slots (watch place links) = watchSlots place (slots links) := by
  induction links generalizing place with
  | nil => rfl
  | cons link rest ih =>
    have hlink : Link.slots ⟨link.success?.map (Handler.watched place),
        link.failure?.map (Handler.watched (place + link.success?.toList.length)), link.label⟩ =
        watchSlots place link.slots := by
      obtain ⟨success?, failure?, label⟩ := link
      cases success? <;> cases failure? <;> rfl
    rw [watch, slots_cons, slots_cons, hlink, ih, watchSlots_append]

/-! ## The next place -/

/-- The first slot of an arm at or behind a place. -/
def firstFrom (seq : List (Slot World)) (arm : Arm) (start : Nat) : Option Nat :=
  ((seq.drop start).findIdx? fun slot => slot.arm = arm).map (· + start)

/-- The place of the next call, at or behind `start`: none once the control was asked to stop;
otherwise, after a value, that of the first handler for success, and after an ordinary error that of
the first one for failure. Any other error ends the run. -/
def nextPlace (seq : List (Slot World)) (control start : Nat) (o : Outcome) (s : Session World) :
    Option Nat :=
  if s.isStopped control then none
  else
    match o with
    | .returned _ => firstFrom seq .success start
    | .raised e => if e.isOrdinary then firstFrom seq .failure start else none

section NextPlace

variable {seq rest : List (Slot World)} {slot : Slot World} {control start : Nat} {o : Outcome}
  {s : Session World}

/-- There is no next place where the scan calls nothing. -/
theorem nextPlace_of_ended (h : s.isStopped control = true ∨ o.endsRun = true) :
    nextPlace seq control start o s = none := by
  unfold nextPlace
  split
  · rfl
  next hs =>
  rcases h with h | h
  · exact absurd h hs
  · cases o with
    | returned d => cases h
    | raised e =>
      have he : e.isOrdinary = false := by simpa [Outcome.endsRun] using h
      simp [he]

/-- The next place is that of the first slot on the outcome's arm. -/
theorem nextPlace_eq_firstFrom (hs : s.isStopped control = false) (ho : o.endsRun = false) :
    nextPlace seq control start o s = firstFrom seq o.arm start := by
  unfold nextPlace
  rw [hs, if_neg (by simp)]
  cases o with
  | returned d => rfl
  | raised e =>
    have he : e.isOrdinary = true := by simpa [Outcome.endsRun] using ho
    simp only [he, if_true]
    rfl

/-- Nothing stands behind the last slot. -/
theorem firstFrom_of_drop_nil (h : seq.drop start = []) (arm : Arm) :
    firstFrom seq arm start = none := by
  rw [firstFrom, h]
  rfl

/-- There is no next place behind the last slot. -/
theorem nextPlace_of_drop_nil (h : seq.drop start = []) :
    nextPlace seq control start o s = none := by
  unfold nextPlace
  simp only [firstFrom_of_drop_nil h, ite_self]
  split
  · rfl
  · cases o <;> rfl

/-- The first slot of an arm is found by the arms alone. -/
theorem firstFrom_eq (seq : List (Slot World)) (arm : Arm) (start : Nat) :
    firstFrom seq arm start =
      (((seq.map Slot.arm).drop start).findIdx? fun a => a = arm).map (· + start) := by
  rw [firstFrom, ← List.map_drop, List.findIdx?_map]
  rfl

/-- So is the next place, where the same is asked of the control. -/
theorem nextPlace_congr {seq' : List (Slot World)} {t : Session World}
    (harms : seq.map Slot.arm = seq'.map Slot.arm)
    (hasked : s.isStopped control = t.isStopped control) :
    nextPlace seq control start o s = nextPlace seq' control start o t := by
  simp only [nextPlace, firstFrom_eq, harms, hasked]

/-- The first slot behind a place is the one that stands there, or one further behind. -/
theorem firstFrom_of_drop_cons (h : seq.drop start = slot :: rest) (arm : Arm) :
    firstFrom seq arm start =
      if slot.arm = arm then some start else firstFrom seq arm (start + 1) := by
  have hrest : seq.drop (start + 1) = rest := by
    rw [List.drop_add_one_eq_tail_drop, h, List.tail_cons]
  rw [firstFrom, firstFrom, h, hrest, List.findIdx?_cons]
  by_cases harm : slot.arm = arm
  · simp [harm]
  · simp only [harm, decide_false, Bool.false_eq_true, if_false, Option.map_map]
    congr 1
    funext i
    simp only [Function.comp_apply]
    omega

end NextPlace

/-! ## Traces -/

/-- From the place `start` on, after the outcome `o` and in the session `s`, these calls are made,
and the run ends in that session with that outcome. Between two calls nothing changes but what the
context holds of the outcome before. -/
inductive Traced (seq : List (Slot World)) (control : Nat) :
    Nat → Outcome → Session World → List (Call World) → Session World → Outcome → Prop where
  | done {start : Nat} {o : Outcome} {s : Session World}
    (hplace : nextPlace seq control start o s = none) : Traced seq control start o s [] s o
  | call {start : Nat} {o o' : Outcome} {s s' : Session World} {c : Call World}
    {cs : List (Call World)} {slot : Slot World}
    (hplace : nextPlace seq control start o s = some c.place)
    (hslot : seq[c.place]? = some slot) (hbefore : c.before = s.setPrev o.datum)
    (hinvoke : slot.handler.invoke c.before = (c.after, c.outcome))
    (rest : Traced seq control (c.place + 1) c.outcome c.after cs s' o') :
    Traced seq control start o s (c :: cs) s' o'

section Traced

variable {seq : List (Slot World)} {control start : Nat} {o o' : Outcome} {s s' : Session World}
  {cs : List (Call World)}

/-- A trace from a place is one from any other with the same next place. -/
theorem Traced.of_nextPlace_eq {start' : Nat} (h : Traced seq control start o s cs s' o')
    (heq : nextPlace seq control start' o s = nextPlace seq control start o s) :
    Traced seq control start' o s cs s' o' := by
  cases h with
  | done hplace => exact .done (heq.trans hplace)
  | call hplace hslot hbefore hinvoke rest =>
    exact .call (heq.trans hplace) hslot hbefore hinvoke rest

/-- The first call stands at the next place. -/
theorem Traced.head (h : Traced seq control start o s cs s' o') :
    cs.head?.map Call.place = nextPlace seq control start o s := by
  cases h with
  | done hplace => exact hplace.symm
  | call hplace _ _ _ _ => exact hplace.symm

/-- The first call sees what the outcome before it gave, and else the session as it was. -/
theorem Traced.before_head (h : Traced seq control start o s cs s' o') {c : Call World}
    (hc : cs.head? = some c) : c.before = s.setPrev o.datum := by
  cases h with
  | done _ => cases hc
  | call _ _ hbefore _ _ =>
    cases hc
    exact hbefore

/-- The calls behind a call are traced from its place on. -/
theorem Traced.drop (h : Traced seq control start o s cs s' o') {k : Nat} {c : Call World}
    (hc : cs[k]? = some c) :
    Traced seq control (c.place + 1) c.outcome c.after (cs.drop (k + 1)) s' o' := by
  induction h generalizing k with
  | done _ => cases hc
  | call _ _ _ _ rest ih =>
    cases k with
    | zero =>
      cases hc
      exact rest
    | succ k => exact ih hc

/-- Every call is made while nobody has asked the control to stop, and does what the handler at its
place does. -/
theorem Traced.invoked (h : Traced seq control start o s cs s' o') :
    ∀ c ∈ cs, c.before.isStopped control = false ∧
      ∃ slot, seq[c.place]? = some slot ∧ slot.handler.invoke c.before = (c.after, c.outcome) := by
  induction h with
  | done _ => simp
  | @call start o o' s s' c cs slot hplace hslot hbefore hinvoke rest ih =>
    have hs : s.isStopped control = false := by
      refine Bool.eq_false_iff.2 fun hs => ?_
      rw [nextPlace_of_ended (.inl hs)] at hplace
      cases hplace
    refine List.forall_mem_cons.2 ⟨⟨?_, slot, hslot, hinvoke⟩, ih⟩
    rw [hbefore]
    exact hs

/-- The run ends as the last call does. -/
theorem Traced.last (h : Traced seq control start o s cs s' o') :
    (cs.getLast?.map Call.after).getD s = s' ∧ (cs.getLast?.map Call.outcome).getD o = o' := by
  induction h with
  | done _ => exact ⟨rfl, rfl⟩
  | @call _ _ _ _ _ _ cs _ _ _ _ _ _ ih =>
    rw [List.getLast?_cons]
    cases hlast : cs.getLast? with
    | none =>
      rw [hlast] at ih
      exact ih
    | some last =>
      rw [hlast] at ih
      exact ih

/-- Only one sequence of calls is traced. -/
theorem Traced.det {cs₁ cs₂ : List (Call World)} {s₁ s₂ : Session World} {o₁ o₂ : Outcome}
    (h₁ : Traced seq control start o s cs₁ s₁ o₁) (h₂ : Traced seq control start o s cs₂ s₂ o₂) :
    cs₁ = cs₂ ∧ s₁ = s₂ ∧ o₁ = o₂ := by
  induction h₁ generalizing cs₂ s₂ o₂ with
  | done hplace =>
    cases h₂ with
    | done _ => exact ⟨rfl, rfl, rfl⟩
    | call hplace' _ _ _ _ =>
      rw [hplace] at hplace'
      cases hplace'
  | @call start o o₁ s s₁ c cs slot hplace hslot hbefore hinvoke rest ih =>
    cases h₂ with
    | done hplace' =>
      rw [hplace] at hplace'
      cases hplace'
    | @call _ _ _ _ _ c' cs' slot' hplace' hslot' hbefore' hinvoke' rest' =>
      obtain ⟨place, before, after, outcome⟩ := c
      obtain ⟨place', before', after', outcome'⟩ := c'
      dsimp only at *
      rw [hplace, Option.some.injEq] at hplace'
      subst hplace' hbefore hbefore'
      rw [hslot, Option.some.injEq] at hslot'
      subst hslot'
      rw [hinvoke, Prod.mk.injEq] at hinvoke'
      obtain ⟨rfl, rfl⟩ := hinvoke'
      obtain ⟨rfl, hs, ho⟩ := ih rest'
      exact ⟨rfl, hs, ho⟩

/-- The scan of watched slots notes calls that are traced, and is else the scan of the slots. -/
theorem scan_watched (control : Nat) {seq rest : List (Slot World)} {start : Nat}
    (hrest : seq.drop start = rest) (o : Outcome) (s : Session World) (seen : List (Call World)) :
    ∃ cs, scan control (watchSlots start rest) o (s.inWorld ⟨s.world, seen⟩) =
        ((scan control rest o s).1.inWorld ⟨(scan control rest o s).1.world, seen ++ cs⟩,
          (scan control rest o s).2) ∧
      Traced seq control start o s cs (scan control rest o s).1 (scan control rest o s).2 := by
  induction rest generalizing start o s seen with
  | nil =>
    exact ⟨[], by rw [List.append_nil]; rfl, .done (nextPlace_of_drop_nil hrest)⟩
  | cons slot rest ih =>
    have hnext : seq.drop (start + 1) = rest := by
      rw [List.drop_add_one_eq_tail_drop, hrest, List.tail_cons]
    cases hs : s.isStopped control with
    | true =>
      have hs' : (s.inWorld (Watched.mk s.world seen)).isStopped control = true := hs
      rw [scan_of_isStopped hs, scan_of_isStopped hs']
      exact ⟨[], by rw [List.append_nil], .done (nextPlace_of_ended (.inl hs))⟩
    | false =>
    cases ho : o.endsRun with
    | true =>
      rw [scan_of_endsRun ho, scan_of_endsRun ho]
      exact ⟨[], by rw [List.append_nil], .done (nextPlace_of_ended (.inr ho))⟩
    | false =>
    have hs' : (s.inWorld (Watched.mk s.world seen)).isStopped control = false := hs
    have hplace : nextPlace seq control start o s = firstFrom seq o.arm start :=
      nextPlace_eq_firstFrom hs ho
    rw [firstFrom_of_drop_cons hrest] at hplace
    rw [watchSlots, scan_cons hs ho, scan_cons hs' ho]
    by_cases harm : slot.arm = o.arm
    · rw [if_pos harm] at hplace
      rw [if_pos harm, if_pos harm]
      have hslot : seq[start]? = some slot := by
        rw [← List.head?_drop, hrest]
        rfl
      -- The call is noted behind those seen before, and the rest is scanned from there.
      obtain ⟨cs, hscan, htraced⟩ := ih hnext (slot.call start o s).outcome
        (slot.call start o s).after (seen ++ [slot.call start o s])
      refine ⟨slot.call start o s :: cs, ?_, .call hplace hslot rfl rfl htraced⟩
      rw [List.append_assoc, List.singleton_append] at hscan
      exact hscan
    · rw [if_neg harm, ← nextPlace_eq_firstFrom hs ho] at hplace
      rw [if_neg harm, if_neg harm]
      obtain ⟨cs, hscan, htraced⟩ := ih hnext o s seen
      exact ⟨cs, hscan, htraced.of_nextPlace_eq hplace⟩

/-- **The calls of a run are traced**, from the first place on the success arm, without a value. The
run ends in the session of the trace, but for the lines of links behind a stop, and with the outcome
of the trace as it leaves a routine; so does the run that is watched. -/
theorem run_traced (links : List (Link World)) (s : Session World) :
    ∃ s' o' passed,
      Traced (slots links) s.issued 0 (.returned .null) s.enter.1 (calls links s) s' o' ∧
      run links s =
        (s'.logging ((links.drop passed).map Link.skippedLine), o'.leaving "coroutine") ∧
      (s'.isStopped s.issued = false → links.drop passed = []) ∧
      ∃ lines, run (watch 0 links) s.watched =
        ((s'.inWorld ⟨s'.world, calls links s⟩).logging lines, o'.leaving "coroutine") := by
  have hstart : (slots links).drop 0 = slots links := List.drop_zero
  obtain ⟨cs, hscan, htraced⟩ := scan_watched s.issued hstart (.returned .null) s.enter.1 []
  obtain ⟨passed, hrun, hpassed⟩ := run_eq_scan links s
  obtain ⟨_, hwatched, -⟩ := run_eq_scan (watch 0 links) s.watched
  have henter : s.watched.enter.1 = s.enter.1.inWorld ⟨s.enter.1.world, []⟩ := rfl
  rw [slots_watch, henter, show s.watched.enter.2 = s.issued from rfl, hscan] at hwatched
  have hcalls : calls links s = cs := by
    rw [calls, hwatched]
    rfl
  rw [hcalls]
  exact ⟨_, _, passed, htraced, hrun, hpassed, _, hwatched⟩

end Traced

end HandlerPipeline.Chain

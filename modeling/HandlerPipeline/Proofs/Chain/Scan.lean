import HandlerPipeline.Chain.Machine

/-!
# The scan of a chain

The handlers of a chain stand in one sequence: of every link the handler for success, then the one
for failure, where it has them. `scan` passes this sequence once, place by place, and knows neither
links nor phases. The theorem `run_eq_scan` says that a run is the scan of its sequence: both end in
the same session, up to the lines that tell of links passed over, and with the same outcome.
-/

namespace HandlerPipeline.Chain

variable {World : Type}

/-- The two arms of a chain. -/
inductive Arm where
  | success
  | failure
  deriving DecidableEq, Repr

namespace Outcome

/-- The arm that the chain is on after an outcome. -/
def arm : Outcome → Arm
  | returned _ => .success
  | raised _ => .failure

/-- What the next handler reads of an outcome. -/
def datum : Outcome → Datum
  | returned d => d
  | raised e => .error e

/-- The outcome is an error that does not travel along the chain. -/
def endsRun : Outcome → Bool
  | returned _ => false
  | raised e => !e.isOrdinary

/-- The state of the chain after an outcome, unless it ends the run. -/
def toState : Outcome → Except Error State
  | returned d => .ok (.succeeded d)
  | raised e => if e.isOrdinary then .ok (.failed e) else .error e

end Outcome

/-- A handler of a chain, and the arm on which it is called. -/
structure Slot (World : Type) where
  arm : Arm
  handler : Handler World

/-- The slot of one side of a link, where it has a handler. -/
def slotOf (arm : Arm) (handler? : Option (Handler World)) : List (Slot World) :=
  handler?.toList.map (Slot.mk arm)

/-- The slots of a link, the one for success first. -/
def Link.slots (link : Link World) : List (Slot World) :=
  slotOf .success link.success? ++ slotOf .failure link.failure?

/-- The slots of a chain in one sequence. -/
def slots (links : List (Link World)) : List (Slot World) := links.flatMap Link.slots

/-- The slots of the first link stand first. -/
theorem slots_cons (link : Link World) (rest : List (Link World)) :
    slots (link :: rest) = link.slots ++ slots rest := rfl

/-- The link with other handlers, made from its own. -/
def Link.mapHandlers {World' : Type} (f : Handler World → Handler World') (link : Link World) :
    Link World' :=
  ⟨link.success?.map f, link.failure?.map f, link.label⟩

/-- The slots of links with other handlers are the slots with these handlers. -/
theorem slots_mapHandlers {World' : Type} (f : Handler World → Handler World')
    (links : List (Link World)) :
    slots (links.map (Link.mapHandlers f)) =
      (slots links).map fun slot => ⟨slot.arm, f slot.handler⟩ := by
  rw [slots, slots, List.flatMap_map, List.map_flatMap]
  congr 1
  funext link
  obtain ⟨success?, failure?, label⟩ := link
  cases success? <;> cases failure? <;> rfl

/-- Passes slots in order. The handler of a slot on the arm of the last outcome is called, with that
outcome in the context; the others are passed over. Nothing is called once the control was asked to
stop, or the outcome ends the run. -/
def scan (control : Nat) : List (Slot World) → Outcome → Session World → Session World × Outcome
  | [], o, s => (s, o)
  | slot :: rest, o, s =>
    if s.isStopped control || o.endsRun then (s, o)
    else if slot.arm = o.arm then
      scan control rest (slot.handler.invoke (s.setPrev o.datum)).2
        (slot.handler.invoke (s.setPrev o.datum)).1
    else scan control rest o s

/-- The session with further lines logged. -/
def Session.logging (s : Session World) (lines : List Log.Line) : Session World :=
  { s with log := s.log ++ lines }

/-- After a request to stop, one more control has been asked. -/
theorem Session.isStopped_stop (s : Session World) (asked control : Nat) :
    (s.stop asked).isStopped control = (control == asked || s.isStopped control) := by
  rw [stop, isStopped]
  dsimp only
  split
  · next hasked =>
    by_cases h : control = asked
    · rw [h, beq_self_eq_true, Bool.true_or]
      exact hasked
    · rw [beq_false_of_ne h, Bool.false_or]
      rfl
  · rw [List.contains_cons]
    rfl

/-! ## The scan -/

section Scan

variable {control : Nat} {o : Outcome} {s : Session World}

/-- The scan calls nothing once the control was asked to stop. -/
theorem scan_of_isStopped (h : s.isStopped control = true) (seq : List (Slot World)) :
    scan control seq o s = (s, o) := by
  cases seq with
  | nil => rfl
  | cons slot rest => rw [scan, h, Bool.true_or, if_pos rfl]

/-- The scan calls nothing after an outcome that ends the run. -/
theorem scan_of_endsRun (h : o.endsRun = true) (seq : List (Slot World)) :
    scan control seq o s = (s, o) := by
  cases seq with
  | nil => rfl
  | cons slot rest => rw [scan, h, Bool.or_true, if_pos rfl]

/-- A slot is called or passed over where nothing has ended the scan. -/
theorem scan_cons (hs : s.isStopped control = false) (ho : o.endsRun = false) (slot : Slot World)
    (rest : List (Slot World)) :
    scan control (slot :: rest) o s =
      if slot.arm = o.arm then
        scan control rest (slot.handler.invoke (s.setPrev o.datum)).2
          (slot.handler.invoke (s.setPrev o.datum)).1
      else scan control rest o s := by
  rw [scan, hs, ho, Bool.or_false, if_neg (by simp)]

/-- Two sequences are passed one after the other. -/
theorem scan_append (control : Nat) (first second : List (Slot World)) (o : Outcome)
    (s : Session World) :
    scan control (first ++ second) o s =
      scan control second (scan control first o s).2 (scan control first o s).1 := by
  induction first generalizing o s with
  | nil => rfl
  | cons slot rest ih =>
    cases hs : s.isStopped control with
    | true => rw [scan_of_isStopped hs, scan_of_isStopped hs, scan_of_isStopped hs]
    | false =>
      cases ho : o.endsRun with
      | true => rw [scan_of_endsRun ho, scan_of_endsRun ho, scan_of_endsRun ho]
      | false =>
        rw [List.cons_append, scan_cons hs ho, scan_cons hs ho]
        split
        · exact ih _ _
        · exact ih _ _

/-- A slot on the other arm is passed over. -/
theorem scan_slotOf_of_ne {arm : Arm} (h : arm ≠ o.arm) (handler? : Option (Handler World)) :
    scan control (slotOf arm handler?) o s = (s, o) := by
  cases handler? with
  | none => rfl
  | some handler =>
    rw [slotOf, Option.toList_some, List.map_cons, List.map_nil, scan]
    split
    · rfl
    · rfl

/-- The handler of a slot on the arm of the outcome is called. -/
theorem scan_slotOf_some (hs : s.isStopped control = false) (ho : o.endsRun = false)
    (handler : Handler World) :
    scan control (slotOf o.arm (some handler)) o s = handler.invoke (s.setPrev o.datum) := by
  rw [slotOf, Option.toList_some, List.map_cons, List.map_nil, scan_cons hs ho, if_pos rfl, scan]

end Scan

/-! ## Phases -/

/-- The outcomes that leave a state, and the states they leave. -/
theorem Outcome.toState_eq_ok {o : Outcome} {state : State} (h : o.toState = .ok state) :
    (∃ d, o = .returned d ∧ state = .succeeded d) ∨
      ∃ e, e.isOrdinary = true ∧ o = .raised e ∧ state = .failed e := by
  cases o with
  | returned d =>
    cases h
    exact .inl ⟨d, rfl, rfl⟩
  | raised e =>
    rw [toState] at h
    split at h
    · next he =>
      cases h
      exact .inr ⟨e, he, rfl, rfl⟩
    · cases h

/-- An outcome that leaves a state does not end the run. -/
theorem Outcome.endsRun_of_toState {o : Outcome} {state : State} (h : o.toState = .ok state) :
    o.endsRun = false := by
  rcases toState_eq_ok h with ⟨d, rfl, rfl⟩ | ⟨e, he, rfl, rfl⟩
  · rfl
  · rw [endsRun, he]
    rfl

/-- An outcome that leaves no state ends the run. -/
theorem Outcome.endsRun_of_toState_error {o : Outcome} {e : Error} (h : o.toState = .error e) :
    o.endsRun = true := by
  cases o with
  | returned d => cases h
  | raised e' =>
    rw [toState] at h
    split at h
    · cases h
    · next he => rw [endsRun, Bool.eq_false_iff.2 he]; rfl

/-- Settling leaves the state of the handler's outcome. -/
theorem settle_eq (h : Handler World) (s : Session World) :
    settle h s = ((h.invoke s).1, (h.invoke s).2.toState) := by
  unfold settle
  cases h.invoke s with
  | mk s' o => cases o <;> rfl

section Phases

variable {control : Nat} {o : Outcome} {s : Session World} {state : State}

/-- The success phase scans the slot for success. -/
theorem successPhase_eq_scan (hs : s.isStopped control = false) (ho : o.toState = .ok state)
    (link : Link World) :
    successPhase link state s =
      ((scan control (slotOf .success link.success?) o s).1,
        (scan control (slotOf .success link.success?) o s).2.toState) := by
  obtain ⟨success?, failure?, label⟩ := link
  rcases Outcome.toState_eq_ok ho with ⟨d, rfl, rfl⟩ | ⟨e, he, rfl, rfl⟩
  · cases success? with
    | none => rfl
    | some h =>
      have hscan := scan_slotOf_some hs (Outcome.endsRun_of_toState ho) h
      simp only [Outcome.arm, Outcome.datum] at hscan
      simp only [successPhase, settle_eq, hscan]
  · rw [scan_slotOf_of_ne (by simp [Outcome.arm]), ho]
    rfl

/-- The failure phase scans the slot for failure. -/
theorem failurePhase_eq_scan (hs : s.isStopped control = false) (ho : o.toState = .ok state)
    (link : Link World) :
    failurePhase link state s =
      ((scan control (slotOf .failure link.failure?) o s).1,
        (scan control (slotOf .failure link.failure?) o s).2.toState) := by
  obtain ⟨success?, failure?, label⟩ := link
  rcases Outcome.toState_eq_ok ho with ⟨d, rfl, rfl⟩ | ⟨e, he, rfl, rfl⟩
  · rw [scan_slotOf_of_ne (by simp [Outcome.arm]), ho]
    rfl
  · cases failure? with
    | none =>
      simp only [slotOf, Option.toList_none, List.map_nil, scan, ho]
      rfl
    | some h =>
      have hscan := scan_slotOf_some hs (Outcome.endsRun_of_toState ho) h
      simp only [Outcome.arm, Outcome.datum] at hscan
      simp only [failurePhase, settle_eq, hscan]

end Phases

/-! ## Links -/

/-- The result of passing links settles an outcome: it is the outcome's state, or its error where it
ends the run; or that state, stopped, where the control was asked to stop. -/
inductive Settles (control : Nat) (s : Session World) (o : Outcome) :
    Except Error State → Prop where
  | reached : Settles control s o o.toState
  | stopped {state : State} (h : o.toState = .ok state) (hs : s.isStopped control = true) :
    Settles control s o (.ok (.stopped state))

/-- The outcome of a run, as the result of passing its links gives it. -/
def resultOutcome : Except Error State → Outcome
  | .ok state => unwrap state
  | .error e => .raised e

/-- A state that nothing has stopped is settled where the control was asked to stop. -/
theorem checkpoint_of_toState {o : Outcome} {state : State} (h : o.toState = .ok state)
    (control : Nat) (s : Session World) :
    checkpoint control s state = if s.isStopped control then .stopped state else state := by
  rcases Outcome.toState_eq_ok h with ⟨d, rfl, rfl⟩ | ⟨e, he, rfl, rfl⟩ <;> rfl

section Links

variable {control : Nat} {o : Outcome} {s : Session World}

/-- What settles an outcome gives that outcome. -/
theorem Settles.resultOutcome_eq {r : Except Error State} (h : Settles control s o r) :
    resultOutcome r = o := by
  cases h with
  | reached =>
    cases o with
    | returned d => rfl
    | raised e =>
      rw [Outcome.toState]
      split <;> rfl
  | stopped h hs =>
    rcases Outcome.toState_eq_ok h with ⟨d, rfl, rfl⟩ | ⟨e, he, rfl, rfl⟩ <;> rfl

/-- An error that settles an outcome ends the run. -/
theorem Settles.endsRun {e : Error} (h : Settles control s o (.error e)) : o.endsRun = true := by
  generalize hr : Except.error e = r at h
  cases h with
  | reached => exact Outcome.endsRun_of_toState_error hr.symm
  | stopped => cases hr

/-- Without a request to stop, a state that settles an outcome is that outcome's. -/
theorem Settles.toState_eq {state : State} (hs : s.isStopped control = false)
    (h : Settles control s o (.ok state)) : o.toState = .ok state := by
  generalize Except.ok state = r at h ⊢
  cases h with
  | reached => rfl
  | stopped _ hstopped =>
    rw [hs] at hstopped
    cases hstopped

/-- Both phases call what the scan of the link's slots calls, and their result settles its
outcome. -/
theorem bothPhases_eq_scan {state : State} (hs : s.isStopped control = false)
    (ho : o.toState = .ok state) (link : Link World) :
    ∃ r, bothPhases control link state s = ((scan control link.slots o s).1, r) ∧
      Settles control (scan control link.slots o s).1 (scan control link.slots o s).2 r := by
  rw [bothPhases, successPhase_eq_scan hs ho, Link.slots, scan_append]
  generalize scan control (slotOf .success link.success?) o s = between
  obtain ⟨s₁, o₁⟩ := between
  cases h₁ : o₁.toState with
  | error e =>
    rw [scan_of_endsRun (Outcome.endsRun_of_toState_error h₁)]
    exact ⟨.error e, rfl, h₁ ▸ .reached⟩
  | ok state₁ =>
    dsimp only
    rw [checkpoint_of_toState h₁]
    cases hs₁ : s₁.isStopped control with
    | true =>
      -- The stop takes effect between the phases: the second calls nothing.
      rw [scan_of_isStopped hs₁]
      exact ⟨.ok (.stopped state₁), rfl, .stopped h₁ hs₁⟩
    | false =>
      rw [if_neg (by simp), failurePhase_eq_scan hs₁ h₁]
      exact ⟨_, rfl, .reached⟩

/-- The line that tells of a link that is passed over. -/
def Link.skippedLine (link : Link World) : Log.Line :=
  ⟨.chain, .debug, "Skipped step " ++ link.label ++ ": pipeline stopped"⟩

/-- A link is passed in both phases where nothing has stopped the chain. -/
theorem advance_eq_bothPhases {state : State} (hs : s.isStopped control = false)
    (ho : o.toState = .ok state) (link : Link World) :
    advance control link state s = bothPhases control link state s := by
  rw [advance, checkpoint_of_toState ho, hs]
  rcases Outcome.toState_eq_ok ho with ⟨d, rfl, rfl⟩ | ⟨e, he, rfl, rfl⟩ <;> rfl

/-- A link is passed over where the control was asked to stop. -/
theorem advance_of_isStopped {state : State} (hs : s.isStopped control = true)
    (h : Settles control s o (.ok state)) (link : Link World) :
    ∃ settled, o.toState = .ok settled ∧
      advance control link state s = (s.logging [link.skippedLine], .ok (.stopped settled)) := by
  generalize hr : Except.ok state = r at h
  cases h with
  | reached =>
    refine ⟨state, hr.symm, ?_⟩
    rw [advance, checkpoint_of_toState hr.symm, hs]
    rfl
  | stopped h _ =>
    cases hr
    exact ⟨_, h, rfl⟩

end Links

/-! ## Runs -/

section Runs

variable {control : Nat}

/-- The links behind a stop are passed over, and each is told of. -/
theorem advanceAll_of_isStopped (links : List (Link World)) {o : Outcome} {s : Session World}
    {state : State} (hs : s.isStopped control = true) (h : Settles control s o (.ok state)) :
    ∃ r, advanceAll control links state s = (s.logging (links.map Link.skippedLine), r) ∧
      Settles control s o r := by
  induction links generalizing s state with
  | nil => exact ⟨_, by rw [advanceAll, List.map_nil, Session.logging, List.append_nil], h⟩
  | cons link rest ih =>
    obtain ⟨settled, ho, hadvance⟩ := advance_of_isStopped hs h link
    have hs' : (s.logging [link.skippedLine]).isStopped control = true := hs
    obtain ⟨r, hrest, hr⟩ := ih hs' (.stopped ho hs')
    refine ⟨r, ?_, ?_⟩
    · rw [advanceAll, hadvance]
      dsimp only
      rw [hrest]
      simp [Session.logging]
    · cases hr with
      | reached => exact .reached
      | stopped ho _ => exact .stopped ho hs

/-- Passing links is the scan of their slots. The links behind a stop only leave their lines. -/
theorem advanceAll_eq_scan (links : List (Link World)) {o : Outcome} {s : Session World}
    {state : State} (hs : s.isStopped control = false) (ho : o.toState = .ok state) :
    ∃ passed r, advanceAll control links state s =
        ((scan control (slots links) o s).1.logging ((links.drop passed).map Link.skippedLine), r) ∧
      Settles control (scan control (slots links) o s).1 (scan control (slots links) o s).2 r ∧
      ((scan control (slots links) o s).1.isStopped control = false → links.drop passed = []) := by
  induction links generalizing o s state with
  | nil =>
    refine ⟨0, .ok state, ?_, ho ▸ .reached, fun _ => rfl⟩
    simp [advanceAll, slots, scan, Session.logging]
  | cons link rest ih =>
    obtain ⟨r, hphases, hr⟩ := bothPhases_eq_scan hs ho link
    rw [advanceAll, advance_eq_bothPhases hs ho, hphases, slots_cons, scan_append]
    generalize scan control link.slots o s = between at hr
    obtain ⟨s₁, o₁⟩ := between
    cases r with
    | error e =>
      rw [scan_of_endsRun hr.endsRun]
      refine ⟨(link :: rest).length, .error e, ?_, hr, fun _ => List.drop_length⟩
      simp [Session.logging]
    | ok state₁ =>
      cases hs₁ : s₁.isStopped control with
      | true =>
        obtain ⟨r, hrest, hr⟩ := advanceAll_of_isStopped rest hs₁ hr
        rw [scan_of_isStopped hs₁]
        refine ⟨1, r, hrest, hr, fun hfalse => ?_⟩
        rw [hs₁] at hfalse
        cases hfalse
      | false =>
        obtain ⟨passed, r, hrest, hr, hpassed⟩ := ih hs₁ (hr.toState_eq hs₁)
        exact ⟨passed + 1, r, hrest, hr, hpassed⟩

/-- A control that was just made has not been asked to stop. -/
theorem isStopped_enter (s : Session World) : s.enter.1.isStopped s.enter.2 = false := by
  simp [Session.enter, Session.isStopped, Session.set, Session.setPrev]

/-- **A run is the scan of its slots**: from the success arm, without a value. It ends in the
session that the scan ends in, up to the lines of the links behind a stop, and with the scan's
outcome as it leaves a routine. -/
theorem run_eq_scan (links : List (Link World)) (s : Session World) :
    ∃ passed, run links s =
        ((scan s.enter.2 (slots links) (.returned .null) s.enter.1).1.logging
            ((links.drop passed).map Link.skippedLine),
          (scan s.enter.2 (slots links) (.returned .null) s.enter.1).2.leaving "coroutine") ∧
      ((scan s.enter.2 (slots links) (.returned .null) s.enter.1).1.isStopped s.enter.2 = false →
        links.drop passed = []) := by
  have hstart : (Outcome.returned .null).toState = .ok (.succeeded .null) := rfl
  obtain ⟨passed, r, hrun, hr, hpassed⟩ := advanceAll_eq_scan links (isStopped_enter s) hstart
  refine ⟨passed, ?_, hpassed⟩
  rw [← hr.resultOutcome_eq, run]
  cases r <;> simp only [hrun] <;> rfl

end Runs

end HandlerPipeline.Chain

import HandlerPipeline.Proofs.Chain.DataFlow

/-!
# Failures that nobody catches

A chain may end on the failure arm, and be stopped there or not (`EndsFailed`). It does so iff its
last call has raised an ordinary error, and that error is the one it ends with
(`Settles.hasFailed_iff`). The error then crosses the end of the routine that the chain runs in. All
kinds of errors do so unchanged but one: an error that ends iterations is replaced there. Whatever
has come out of the chain's routine comes out of any other that awaits it (`leaving_leaving`), and out
of a loop that runs it for a host (`runSync_eq`). The theorem `runOn_failures` puts these together.
-/

namespace HandlerPipeline.Chain

variable {World : Type}

/-- What the links of a run come to: the state that they leave, or the error that ends the run among
them. -/
def endState (links : List (Link World)) (s : Session World) : Except Error State :=
  (advanceAll s.enter.2 links (.succeeded .null) s.enter.1).2

/-- The state is on the failure arm with the error, settled or not. -/
inductive State.HasFailed (e : Error) : State → Prop where
  | failed : HasFailed e (.failed e)
  | stopped : HasFailed e (.stopped (.failed e))

/-- The chain ends on the failure arm with the error, stopped or not. -/
def EndsFailed (context : Context) (links : List (Link World)) (s : Session World) (e : Error) :
    Prop :=
  ∃ record state, context.opened = .ok record ∧
    endState links { s with record := record } = .ok state ∧ state.HasFailed e

/-- The error that takes the place of one that ends iterations, at the end of a routine. -/
def exhaustion (routine : String) : Error :=
  ⟨.runtime, some (routine ++ " raised StopIteration")⟩

/-- What a chain raises when nobody catches it. -/
structure FailureLaw (context : Context) (links : List (Link World)) (s : Session World) :
    Prop where
  /-- The chain ends failed with the ordinary error that its last call has raised, and only so. -/
  ends_iff : ∀ e, EndsFailed context links s e ↔
    lastOutcome (callsOn context links s) = .raised e ∧ e.isOrdinary = true
  /-- That error is the one that surfaces, unless it ends iterations. -/
  surfaces : ∀ e, EndsFailed context links s e →
    ((runOn context links s).2 = .raised e ↔ e.kind ≠ .stopIteration)
  /-- An error that ends iterations is replaced. -/
  replaced : ∀ e, EndsFailed context links s e → e.kind = .stopIteration →
    (runOn context links s).2 = .raised (exhaustion "coroutine")
  /-- No other error surfaces than these, that of a context that takes no entries, and one that
  no chain holds. -/
  raised_cases : ∀ e, (runOn context links s).2 = .raised e → context.opened = .error e ∨
    (EndsFailed context links s e ∧ e.kind ≠ .stopIteration) ∨
    (∃ e', EndsFailed context links s e' ∧ e'.kind = .stopIteration ∧ e = exhaustion "coroutine") ∨
    (lastOutcome (callsOn context links s) = .raised e ∧ e.isOrdinary = false)
  /-- What surfaces is not replaced again where the chain is awaited. -/
  awaited : ∀ routine, (runOn context links s).2.leaving routine = (runOn context links s).2
  /-- A host that waits for the chain in a loop of its own gets the same. -/
  sync : runSync context links s = runOn context links s

/-! ## The end of a routine -/

/-- An error leaves a routine as itself, unless it ends iterations. -/
theorem leaving_raised (routine : String) (e : Error) :
    (Outcome.raised e).leaving routine =
      .raised (if e.kind = .stopIteration then exhaustion routine else e) := by
  rw [Outcome.leaving]
  split <;> rfl

/-- What has left a routine leaves every other one unchanged. -/
theorem leaving_leaving (routine routine' : String) (o : Outcome) :
    (o.leaving routine).leaving routine' = o.leaving routine := by
  rw [leaving_eq_iff]
  intro e he
  cases o with
  | returned d => cases he
  | raised e' =>
    rw [leaving_raised] at he
    cases he
    split
    · simp [exhaustion]
    · assumption

/-- What comes out of a loop that runs a chain is what comes out of the chain. -/
theorem runSync_eq (context : Context) (links : List (Link World)) (s : Session World) :
    runSync context links s = runOn context links s := by
  simp only [runSync, outcome_taskEnd]

/-! ## The end of a chain -/

section Ends

variable {control : Nat} {o : Outcome} {s : Session World} {r : Except Error State} {e : Error}
  {context : Context} {record : Record} {links : List (Link World)}

/-- Only an ordinary error leaves a failed state. -/
theorem State.HasFailed.eq_raised {state : State} (hfailed : state.HasFailed e)
    (h : o.toState = .ok state) : o = .raised e ∧ e.isOrdinary = true := by
  rcases Outcome.toState_eq_ok h with ⟨d, -, rfl⟩ | ⟨e', hordinary, rfl, rfl⟩
  · cases hfailed
  · cases hfailed
    exact ⟨rfl, hordinary⟩

/-- What an ordinary error settles to has failed with it, and nothing else has. -/
theorem Settles.hasFailed_iff (h : Settles control s o r) :
    (∃ state, r = .ok state ∧ state.HasFailed e) ↔ o = .raised e ∧ e.isOrdinary = true := by
  constructor
  · rintro ⟨state, hr, hfailed⟩
    cases h with
    | reached => exact hfailed.eq_raised hr
    | stopped hstate _ =>
      -- What was stopped had failed before.
      cases hr
      cases hfailed
      exact State.HasFailed.failed.eq_raised hstate
  · rintro ⟨rfl, hordinary⟩
    have hstate : (Outcome.raised e).toState = .ok (.failed e) := if_pos hordinary
    cases h with
    | reached => exact ⟨_, hstate, .failed⟩
    | stopped hstopped _ =>
      rw [hstate] at hstopped
      cases hstopped
      exact ⟨_, rfl, .stopped⟩

/-- The links of a run settle the outcome of its last call. -/
theorem settles_lastOutcome (links : List (Link World)) (s : Session World) :
    ∃ s' : Session World,
      Settles s.issued s' (lastOutcome (calls links s)) (endState links s) := by
  have hstart : (Outcome.returned .null).toState = .ok (.succeeded .null) := rfl
  have hall : (slots links).drop 0 = slots links := List.drop_zero
  obtain ⟨passed, r, hadvance, hsettles, -⟩ := advanceAll_eq_scan links (isStopped_enter s) hstart
  obtain ⟨cs, -, hscanned⟩ := scan_watched s.issued hall (.returned .null) s.enter.1 []
  obtain ⟨s', o', _, htraced, -⟩ := run_traced links s
  obtain ⟨rfl, rfl, rfl⟩ := htraced.det hscanned
  rw [lastOutcome, htraced.last.2, endState, hadvance]
  exact ⟨_, hsettles⟩

/-- The outcome of a run is what its links come to, as it leaves the routine. -/
theorem run_snd (links : List (Link World)) (s : Session World) :
    (run links s).2 = (resultOutcome (endState links s)).leaving "coroutine" := by
  unfold run endState
  cases s.enter with
  | mk entered control =>
    dsimp only
    cases advanceAll control links (.succeeded .null) entered with
    | mk s' r => cases r <;> rfl

/-- A chain over a context that takes entries ends failed with what its last call has raised. -/
theorem endsFailed_iff (hopen : context.opened = .ok record) :
    EndsFailed context links s e ↔
      lastOutcome (callsOn context links s) = .raised e ∧ e.isOrdinary = true := by
  obtain ⟨s', hsettles⟩ := settles_lastOutcome links { s with record := record }
  rw [callsOn_of_opened hopen, ← hsettles.hasFailed_iff]
  simp [EndsFailed, hopen]

/-- Its outcome is that of the last call, as it leaves the routine. -/
theorem runOn_snd (hopen : context.opened = .ok record) :
    (runOn context links s).2 = (lastOutcome (callsOn context links s)).leaving "coroutine" := by
  obtain ⟨s', hsettles⟩ := settles_lastOutcome links { s with record := record }
  rw [callsOn_of_opened hopen, ← hsettles.resultOutcome_eq, ← run_snd, runOn, hopen]

/-- So an error that surfaces is that of the last call, or has taken its place. -/
theorem raised_cases_of_opened (hopen : context.opened = .ok record)
    (h : (runOn context links s).2 = .raised e) :
    (EndsFailed context links s e ∧ e.kind ≠ .stopIteration) ∨
      (∃ e', EndsFailed context links s e' ∧ e'.kind = .stopIteration ∧
        e = exhaustion "coroutine") ∨
      (lastOutcome (callsOn context links s) = .raised e ∧ e.isOrdinary = false) := by
  rw [runOn_snd hopen] at h
  cases hlast : lastOutcome (callsOn context links s) with
  | returned d =>
    rw [hlast] at h
    cases h
  | raised e' =>
    rw [hlast, leaving_raised] at h
    cases h
    by_cases hkind : e'.kind = .stopIteration
    · have hordinary : e'.isOrdinary = true := by rw [Error.isOrdinary, hkind]; rfl
      exact .inr (.inl ⟨e', (endsFailed_iff hopen).2 ⟨hlast, hordinary⟩, hkind, if_pos hkind⟩)
    · rw [if_neg hkind]
      cases hordinary : e'.isOrdinary with
      | true => exact .inl ⟨(endsFailed_iff hopen).2 ⟨hlast, hordinary⟩, hkind⟩
      | false => exact .inr (.inr ⟨rfl, rfl⟩)

/-- The error of a context that takes no entries ends no iterations. -/
theorem kind_ne_of_opened (h : context.opened = .error e) : e.kind ≠ .stopIteration := by
  cases context with
  | absent | record _ => cases h
  | fixed typeName =>
    cases h
    exact ErrorKind.noConfusion

end Ends

/-- **An uncaught failure surfaces as itself, unless it ends iterations.** The error that a chain
ends failed with, stopped or not, is the one that its last call has raised, and the chain raises it
wherever it is awaited. An error that ends iterations is replaced. -/
theorem runOn_failures (context : Context) (links : List (Link World)) (s : Session World) :
    FailureLaw context links s := by
  cases hopen : context.opened with
  | error e =>
    -- Nothing is called, and no chain has ended.
    have hrun : runOn context links s = (s, .raised e) := by rw [runOn, hopen]
    have hcalls : callsOn context links s = [] := by
      rw [callsOn, runOn, hopen]
      rfl
    have hends : ∀ e, ¬ EndsFailed context links s e := by
      rintro e' ⟨record, _, hrecord, -⟩
      rw [hopen] at hrecord
      cases hrecord
    refine ⟨fun e' => ?_, fun e' h => absurd h (hends e'), fun e' h => absurd h (hends e'),
      fun e' he' => ?_, fun routine => ?_, runSync_eq context links s⟩
    · have hnone : lastOutcome (callsOn context links s) ≠ .raised e' := by
        rw [hcalls]
        exact Outcome.noConfusion
      exact iff_of_false (hends e') fun hlast => hnone hlast.1
    · rw [hrun] at he'
      cases he'
      exact .inl hopen
    · rw [hrun, leaving_raised, if_neg (kind_ne_of_opened hopen)]
  | ok record =>
    have houtcome : (runOn context links s).2 =
        (lastOutcome (callsOn context links s)).leaving "coroutine" := runOn_snd hopen
    refine ⟨fun e => endsFailed_iff hopen, fun e h => ?_, fun e h hkind => ?_, fun e he => ?_,
      fun routine => ?_, runSync_eq context links s⟩
    · rw [houtcome, ((endsFailed_iff hopen).1 h).1, leaving_eq_iff]
      exact ⟨fun hkind => hkind e rfl, fun hkind e' he' => by cases he'; exact hkind⟩
    · rw [houtcome, ((endsFailed_iff hopen).1 h).1, leaving_raised, if_pos hkind]
    · exact .inr (raised_cases_of_opened hopen he)
    · rw [houtcome]
      exact leaving_leaving _ _ _

/-- The first handler of this chain raises what ends iterations, so the second is passed over. -/
def exhaustedFirst : List Script.ScriptedLink :=
  [.mk "" (.scripted "a" .called [] (.raise ⟨.stopIteration, some "s"⟩)) .absent,
    .mk "" (.scripted "b" .called [] (.give .null)) .absent]

/-- Not every failure surfaces as itself: that one is replaced on its way out. -/
theorem runOn_ne_failure :
    ¬ ∀ (context : Context) (links : List (Link Script.Stage)) (s : Script.Scene) (e : Error),
      EndsFailed context links s e → (runOn context links s).2 = .raised e := by
  intro h
  have hrun := h .absent (Script.chain exhaustedFirst) (.start .fresh ⟨.map [], []⟩)
    ⟨.stopIteration, some "s"⟩ ⟨_, _, rfl, rfl, .failed⟩
  have hkind : (Outcome.raised ⟨.runtime, some "coroutine raised StopIteration"⟩) =
      .raised ⟨.stopIteration, some "s"⟩ := hrun
  cases hkind

end HandlerPipeline.Chain

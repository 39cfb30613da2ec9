import HandlerPipeline.Proofs.BuildPass.Outcomes
import Mathlib.Data.List.Forall2

/-!
# How a build ends

When every function has come to its outcome, the build either reports the first failure in the order
of the functions, or has one artifact for each function with steps (`artifacts_of_collect`). Only
then is the writer called, with each artifact once and in order, until it refuses one: it has taken
those before (`writeEach_of_refused`). Both together are `AllOrNothing`, and every end of a build is
of that form (`conclude_allOrNothing`).
-/

namespace HandlerPipeline.BuildPass

variable {pass : BuildPass} {outcomes : List (Declaration × Outcome)} {artifacts : List Artifact}

/-- The functions did not fail. -/
def NoFailure (outcomes : List (Declaration × Outcome)) : Prop :=
  ∀ o ∈ outcomes, ∀ f, o.2 ≠ .error f

/-- The artifacts of the functions with steps: one for each, in the order of the functions. -/
def AreArtifactsOf (pass : BuildPass) (outcomes : List (Declaration × Outcome))
    (artifacts : List Artifact) : Prop :=
  List.Forall₂ (fun o a => o.2 = .ok (some a)) (outcomes.filter fun o => pass.hasSteps o.1)
    artifacts

/-! ## Collecting -/

/-- Without failures, artifacts are collected. -/
theorem exists_collect_of_noFailure (h : NoFailure outcomes) :
    ∃ artifacts, collect outcomes = .ok artifacts := by
  induction outcomes with
  | nil => exact ⟨[], rfl⟩
  | cons o rest ih =>
    obtain ⟨d, outcome⟩ := o
    cases outcome with
    | error f => exact absurd rfl (h _ (.head _) f)
    | ok artifact? =>
      obtain ⟨artifacts, hrest⟩ := ih fun o hmem => h o (.tail _ hmem)
      refine ⟨artifact?.toList ++ artifacts, ?_⟩
      rw [collect, hrest]
      rfl

/-- The artifacts that are collected are those of the functions with steps. -/
theorem artifacts_of_collect {resolves : Pipeline → Except Failure Variant → Prop}
    (hend : ∀ o ∈ outcomes, MayEnd pass resolves o.1 o.2) (h : collect outcomes = .ok artifacts) :
    AreArtifactsOf pass outcomes artifacts := by
  induction outcomes generalizing artifacts with
  | nil =>
    cases h
    exact List.Forall₂.nil
  | cons o rest ih =>
    obtain ⟨d, outcome⟩ := o
    cases outcome with
    | error f => cases h
    | ok artifact? =>
      rw [collect] at h
      obtain ⟨later, hlater, rfl⟩ := map_eq_ok_iff.1 h
      have hrest := ih (fun o hmem => hend o (.tail _ hmem)) hlater
      have hhead := (hend _ (.head _)).eq_artifact fun f hf => by cases hf
      unfold AreArtifactsOf
      rw [List.filter_cons]
      split at hhead
      · next hsteps =>
        obtain ⟨a, ha⟩ := hhead
        cases ha
        rw [if_pos hsteps]
        exact .cons rfl hrest
      · next hsteps =>
        cases hhead
        rw [if_neg hsteps]
        exact hrest

/-- What is collected as a failure is the first one. -/
theorem collect_eq_error_iff {d : Declaration} {f : Failure} : collect outcomes = .error (d, f) ↔
    ∃ before behind, outcomes = before ++ (d, .error f) :: behind ∧ NoFailure before := by
  change _ ↔ StandsBehind (fun o => ∀ f, o.2 ≠ .error f) outcomes (d, .error f)
  induction outcomes with
  | nil => simp [collect, not_standsBehind_nil]
  | cons o rest ih =>
    obtain ⟨d', outcome⟩ := o
    rw [standsBehind_cons_iff]
    cases outcome with
    | error f' => simp [collect, eq_comm]
    | ok artifact? =>
      rw [collect, map_eq_error_iff, ih]
      simp

/-- Where artifacts are collected, no function failed. -/
theorem noFailure_of_collect (h : collect outcomes = .ok artifacts) :
    NoFailure outcomes := by
  induction outcomes generalizing artifacts with
  | nil => exact fun o ho => by cases ho
  | cons o rest ih =>
    obtain ⟨d, outcome⟩ := o
    cases outcome with
    | error f => cases h
    | ok artifact? =>
      obtain ⟨later, hlater, -⟩ := map_eq_ok_iff.1 h
      have hfirst : ∀ f, (Except.ok artifact? : Outcome) ≠ .error f := fun f hf => by cases hf
      exact List.forall_mem_cons.2 ⟨hfirst, ih hlater⟩

/-- A failure that is collected is that of one of the functions. -/
theorem mem_of_collect_eq_error {d : Declaration} {f : Failure}
    (h : collect outcomes = .error (d, f)) : (d, .error f) ∈ outcomes := by
  obtain ⟨before, behind, rfl, -⟩ := collect_eq_error_iff.1 h
  exact List.mem_append_right before (.head behind)

/-! ## Writing -/

/-- A writer that takes all artifacts is called with all of them. -/
theorem writeEach_of_taken {writer : Writer} {n : Nat}
    (htaken : ∀ k a, artifacts[k]? = some a → writer (n + k) a = none) :
    (writeEach writer n artifacts).failure? = none ∧
      (writeEach writer n artifacts).calls = artifacts ∧
      (writeEach writer n artifacts).written = artifacts := by
  induction artifacts generalizing n with
  | nil => exact ⟨rfl, rfl, rfl⟩
  | cons a rest ih =>
    have hrest := @ih (n + 1) fun k b hb => by
      rw [Nat.add_assoc, Nat.add_comm 1]
      exact htaken (k + 1) b hb
    obtain ⟨hfailure, hcalls, hwritten⟩ := hrest
    have hfirst : writer n a = none := htaken 0 a rfl
    simp [writeEach, hfirst, hfailure, hcalls, hwritten]

/-- A writer that refuses an artifact is called with no further one, and has taken those before. -/
theorem writeEach_of_refused {writer : Writer} {n k : Nat} {a : Artifact} {reason : String}
    (hget : artifacts[k]? = some a) (hrefused : writer (n + k) a = some reason)
    (htaken : ∀ j < k, ∀ b, artifacts[j]? = some b → writer (n + j) b = none) :
    (writeEach writer n artifacts).failure? = some reason ∧
      (writeEach writer n artifacts).calls = artifacts.take (k + 1) ∧
      (writeEach writer n artifacts).written = artifacts.take k := by
  induction artifacts generalizing n k with
  | nil => cases hget
  | cons b rest ih =>
    cases k with
    | zero =>
      cases hget
      have hfirst : writer n a = some reason := hrefused
      simp [writeEach, hfirst]
    | succ k =>
      have hshift : ∀ j, n + 1 + j = n + (j + 1) := fun j => by omega
      have hrest := @ih (n + 1) k hget (by rw [hshift]; exact hrefused) fun j hj c hc => by
        rw [hshift]
        exact htaken (j + 1) (Nat.succ_lt_succ hj) c hc
      obtain ⟨hfailure, hcalls, hwritten⟩ := hrest
      have hfirst : writer n b = none := htaken 0 (Nat.succ_pos k) b rfl
      simp [writeEach, hfirst, hfailure, hcalls, hwritten]

/-! ## Ending -/

/-- How artifacts are handed to the writer at the end of a build. -/
structure HandedOut (writer? : Option Writer) (artifacts : List Artifact) (ending : Ending) :
    Prop where
  /-- Without a writer, the artifacts are returned. -/
  unwritten : writer? = none →
    ending.outcome = .ok artifacts ∧ ending.calls = [] ∧ ending.written = []
  /-- A writer that takes every artifact is called with each of them once, in order. -/
  taken : ∀ writer, writer? = some writer →
    (∀ k a, artifacts[k]? = some a → writer k a = none) →
    ending.outcome = .ok artifacts ∧ ending.calls = artifacts ∧ ending.written = artifacts
  /-- A writer that refuses call number `k`, and none before, is not called again: it has taken the
  first `k` artifacts, and its reason is reported. -/
  refused : ∀ writer k a reason, writer? = some writer → artifacts[k]? = some a →
    writer k a = some reason → (∀ j < k, ∀ b, artifacts[j]? = some b → writer j b = none) →
    ending.outcome = .error (.writing reason) ∧ ending.calls = artifacts.take (k + 1) ∧
      ending.written = artifacts.take k

/-- A build ends with all artifacts handed out, or with a failure and nothing handed out. -/
structure AllOrNothing (pass : BuildPass) (writer? : Option Writer)
    (outcomes : List (Declaration × Outcome)) (ending : Ending) : Prop where
  /-- The first failure in the order of the functions is reported, and the writer is not called. -/
  failed : ∀ before d f behind, outcomes = before ++ (d, .error f) :: behind → NoFailure before →
    ending.outcome = .error f ∧ ending.calls = [] ∧ ending.written = []
  /-- Where no function fails, the artifacts of those with steps are handed out. -/
  succeeded : NoFailure outcomes →
    ∃ artifacts, AreArtifactsOf pass outcomes artifacts ∧ HandedOut writer? artifacts ending

/-- Artifacts that are collected are handed out. -/
theorem conclude_handedOut {writer? : Option Writer} (h : collect outcomes = .ok artifacts) :
    HandedOut writer? artifacts (conclude writer? outcomes) := by
  refine ⟨?_, ?_, ?_⟩
  · rintro rfl
    simp [conclude, h]
  · rintro writer rfl htaken
    obtain ⟨hfailure, hcalls, hwritten⟩ :=
      @writeEach_of_taken artifacts writer 0 fun k a ha => by
        rw [Nat.zero_add]
        exact htaken k a ha
    simp [conclude, h, hfailure, hcalls, hwritten]
  · rintro writer k a reason rfl hget hrefused htaken
    obtain ⟨hfailure, hcalls, hwritten⟩ :=
      @writeEach_of_refused artifacts writer 0 k a reason hget (by rwa [Nat.zero_add])
        fun j hj b hb => by
          rw [Nat.zero_add]
          exact htaken j hj b hb
    simp [conclude, h, hfailure, hcalls, hwritten]

/-- A build fails with the failure of a function, or as its writer does. -/
theorem conclude_eq_error {writer? : Option Writer} {f : Failure}
    (h : (conclude writer? outcomes).outcome = .error f) :
    (∃ d, (d, .error f) ∈ outcomes) ∨ ∃ reason, f = .writing reason := by
  unfold conclude at h
  split at h
  · next d f' hcollect =>
    cases h
    exact .inl ⟨d, mem_of_collect_eq_error hcollect⟩
  · split at h
    · cases h
    · dsimp only at h
      split at h
      · cases h
        exact .inr ⟨_, rfl⟩
      · cases h

/-- A build that succeeds returns the artifacts of its functions. -/
theorem collect_of_conclude_eq_ok {writer? : Option Writer}
    (h : (conclude writer? outcomes).outcome = .ok artifacts) :
    collect outcomes = .ok artifacts := by
  unfold conclude at h
  split at h
  · cases h
  · next collected hcollect =>
    split at h
    · cases h
      exact hcollect
    · dsimp only at h
      split at h
      · cases h
      · cases h
        exact hcollect

/-- Every end of a build is all or nothing. -/
theorem conclude_allOrNothing {resolves : Pipeline → Except Failure Variant → Prop}
    (writer? : Option Writer) (hend : ∀ o ∈ outcomes, MayEnd pass resolves o.1 o.2) :
    AllOrNothing pass writer? outcomes (conclude writer? outcomes) := by
  refine ⟨?_, fun hnone => ?_⟩
  · rintro before d f behind rfl hbefore
    simp [conclude, collect_eq_error_iff.2 ⟨before, behind, rfl, hbefore⟩]
  · obtain ⟨artifacts, hcollect⟩ := exists_collect_of_noFailure hnone
    exact ⟨artifacts, artifacts_of_collect hend hcollect, conclude_handedOut hcollect⟩

end HandlerPipeline.BuildPass

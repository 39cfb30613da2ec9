import HandlerPipeline.Proofs.Results
import HandlerPipeline.Step
import Mathlib.Data.List.Forall2

/-!
# Reading raw steps

What a raw step is read to depends on the values that it gives for its two sides (`Step.sides`). It
is read where a side is given and each given side is a reference (`Step.read_eq_ok_iff`). Otherwise
it is refused: with what it raises where its sides cannot be looked at, and else with an error that
echoes it and has the reason for the first side that is bad (`Step.read_eq_error_iff`). A sequence of
raw steps is read step by step: it is read where every member is, to the steps of the members in
their order (`Step.readAll_eq_ok_iff`), and otherwise refused as its first member that cannot be read
(`Step.readAll_eq_error_iff`).
-/

namespace HandlerPipeline.Step

/-- The step is read from the raw step. -/
def IsReadFrom (raw : Value) (s : Step) : Prop := read raw = .ok s

/-! ## One raw step -/

/-- A side that is not given is no reference, and a text that is given is the reference that is read
from it. -/
inductive SideReads : Option Value → Option Reference → Prop where
  | absent : SideReads none none
  | given {text : String} {r : Reference} (h : Reference.read text = .ok r) :
      SideReads (some (.text text)) (some r)

/-- Why a value that is given is no reference. -/
inductive IsFault : Value → String → Prop where
  | notText {v : Value} (h : ∀ text, v ≠ .text text) : IsFault v BuildError.notAText
  | unread {text : String} {e : Reference.SyntaxError} (h : Reference.read text = .error e) :
      IsFault (.text text) e.message

/-- The reason for which two sides are no step: the fault of the side for success, and where that one
has none, the fault of the side for failure. No reason is given where both are absent. -/
inductive HasReason : Option Value → Option Value → String → Prop where
  | absent : HasReason none none ""
  | success {v : Value} {failure? : Option Value} {reason : String} (h : IsFault v reason) :
      HasReason (some v) failure? reason
  | failure {success? : Option Value} {r? : Option Reference} {v : Value} {reason : String}
      (hsuccess : SideReads success? r?) (h : IsFault v reason) :
      HasReason success? (some v) reason

variable {raw v : Value} {success? failure? : Option Value} {r : Reference} {s : Step}
  {e : Refusal}

/-- A side is read where it is a text that is a reference. -/
theorem readSide_eq_ok_iff : readSide raw v = .ok r ↔ SideReads (some v) (some r) := by
  constructor
  · intro h
    unfold readSide at h
    split at h
    · split at h
      · next hread =>
        cases h
        exact .given hread
      · cases h
    · cases h
  · rintro (_ | hread)
    rw [readSide, hread]

/-- A side that cannot be read is reported with the raw step it belongs to. -/
theorem readSide_eq_error_iff :
    readSide raw v = .error e ↔ ∃ reason, IsFault v reason ∧ e = .invalidStep raw reason := by
  constructor
  · intro h
    unfold readSide at h
    split at h
    · split at h
      · cases h
      · next hread =>
        cases h
        exact ⟨_, .unread hread, rfl⟩
    · next hne =>
      cases h
      exact ⟨_, .notText hne, rfl⟩
  · rintro ⟨reason, hfault | hread, rfl⟩
    · rw [readSide]
      exact hfault
    · rw [readSide, hread]

/-- Sides are read to a step with their references. -/
theorem readSides_eq_ok_iff : readSides raw success? failure? = .ok s ↔
    SideReads success? s.success? ∧ SideReads failure? s.failure? := by
  constructor
  · intro h
    unfold readSides at h
    split at h
    · split at h
      · cases h
      · next hsuccess =>
        obtain ⟨r, hfailure, rfl⟩ := map_eq_ok_iff.1 h
        exact ⟨readSide_eq_ok_iff.1 hsuccess, readSide_eq_ok_iff.1 hfailure⟩
    · obtain ⟨r, hsuccess, rfl⟩ := map_eq_ok_iff.1 h
      exact ⟨readSide_eq_ok_iff.1 hsuccess, .absent⟩
    · obtain ⟨r, hfailure, rfl⟩ := map_eq_ok_iff.1 h
      exact ⟨.absent, readSide_eq_ok_iff.1 hfailure⟩
    · cases h
  · rintro ⟨hsuccess, hfailure⟩
    -- Each shape of a step has references for the sides that are given, and for no other.
    cases s with
    | onSuccess r =>
      cases hfailure
      cases hsuccess with
      | given h => exact map_eq_ok_iff.2 ⟨r, readSide_eq_ok_iff.2 (.given h), rfl⟩
    | onFailure r =>
      cases hsuccess
      cases hfailure with
      | given h => exact map_eq_ok_iff.2 ⟨r, readSide_eq_ok_iff.2 (.given h), rfl⟩
    | onBoth r r' =>
      cases hsuccess with
      | given h =>
        cases hfailure with
        | given h' =>
          rw [readSides, readSide_eq_ok_iff.2 (.given h)]
          exact map_eq_ok_iff.2 ⟨r', readSide_eq_ok_iff.2 (.given h'), rfl⟩

/-- Sides that are not read are reported with the raw step and the reason. -/
theorem readSides_eq_error_iff : readSides raw success? failure? = .error e ↔
    ∃ reason, HasReason success? failure? reason ∧ e = .invalidStep raw reason := by
  constructor
  · intro h
    unfold readSides at h
    split at h
    · split at h
      · next hsuccess =>
        cases h
        obtain ⟨reason, hfault, rfl⟩ := readSide_eq_error_iff.1 hsuccess
        exact ⟨reason, .success hfault, rfl⟩
      · next hsuccess =>
        obtain ⟨reason, hfault, rfl⟩ := readSide_eq_error_iff.1 (map_eq_error_iff.1 h)
        exact ⟨reason, .failure (readSide_eq_ok_iff.1 hsuccess) hfault, rfl⟩
    · obtain ⟨reason, hfault, rfl⟩ := readSide_eq_error_iff.1 (map_eq_error_iff.1 h)
      exact ⟨reason, .success hfault, rfl⟩
    · obtain ⟨reason, hfault, rfl⟩ := readSide_eq_error_iff.1 (map_eq_error_iff.1 h)
      exact ⟨reason, .failure .absent hfault, rfl⟩
    · cases h
      exact ⟨"", .absent, rfl⟩
  · rintro ⟨reason, hreason, rfl⟩
    have hbad : ∀ {v : Value}, IsFault v reason →
        readSide raw v = .error (.invalidStep raw reason) :=
      fun hfault => readSide_eq_error_iff.2 ⟨reason, hfault, rfl⟩
    cases hreason with
    | absent => rfl
    | success hfault =>
      cases failure? with
      | none => exact map_eq_error_iff.2 (hbad hfault)
      | some failure => rw [readSides, hbad hfault]
    | failure hread hfault =>
      cases hread with
      | absent => exact map_eq_error_iff.2 (hbad hfault)
      | given h =>
        rw [readSides, readSide_eq_ok_iff.2 (.given h)]
        exact map_eq_error_iff.2 (hbad hfault)

/-- **A raw step is read to the references of its sides**, of which one at least is given. -/
theorem read_eq_ok_iff : read raw = .ok s ↔ ∃ success? failure?,
    sides raw = .ok (success?, failure?) ∧ SideReads success? s.success? ∧
      SideReads failure? s.failure? := by
  rw [read]
  cases hsides : sides raw with
  | error x => simp
  | ok found =>
    dsimp only
    rw [readSides_eq_ok_iff]
    constructor
    · rintro ⟨hsuccess, hfailure⟩
      exact ⟨_, _, rfl, hsuccess, hfailure⟩
    · rintro ⟨_, _, heq, hsuccess, hfailure⟩
      cases heq
      exact ⟨hsuccess, hfailure⟩

/-- **A raw step that cannot be read is refused** with what it raises where its sides are looked at,
and else with the reason why its sides are no step. -/
theorem read_eq_error_iff : read raw = .error e ↔
    (∃ x, sides raw = .error x ∧ e = .raised x) ∨
      ∃ success? failure? reason, sides raw = .ok (success?, failure?) ∧
        HasReason success? failure? reason ∧ e = .invalidStep raw reason := by
  rw [read]
  cases hsides : sides raw with
  | error x => simp [eq_comm]
  | ok found =>
    dsimp only
    rw [readSides_eq_error_iff]
    constructor
    · rintro ⟨reason, hreason, he⟩
      exact .inr ⟨_, _, reason, rfl, hreason, he⟩
    · rintro (⟨x, heq, -⟩ | ⟨_, _, reason, heq, hreason, he⟩)
      · cases heq
      · cases heq
        exact ⟨reason, hreason, he⟩

/-- An error of the library about a raw step is the one that echoes it. -/
def Echoes (raw : Value) (e : BuildError) : Prop :=
  ∃ echo reason, raw.echo = .ok echo ∧ e = .invalidStep raw echo reason

/-- A refusal for a reason is an error that echoes the raw step, where the step can be echoed. -/
theorem invalidStep_eq_build_iff {reason : String} {error : BuildError} :
    Refusal.invalidStep raw reason = .build error ↔
      ∃ echo, raw.echo = .ok echo ∧ error = .invalidStep raw echo reason := by
  rw [Refusal.invalidStep]
  cases raw.echo with
  | ok echo => simp [eq_comm]
  | error x => simp

/-- Otherwise it is what the step raises when it is echoed. -/
theorem invalidStep_eq_raised_iff {reason : String} {x : Raised} :
    Refusal.invalidStep raw reason = .raised x ↔ raw.echo = .error x := by
  rw [Refusal.invalidStep]
  cases raw.echo with
  | ok echo => simp
  | error x => simp

/-- The error of a raw step echoes that step. -/
theorem echoes_of_read {error : BuildError} (h : read raw = .error (.build error)) :
    Echoes raw error := by
  rcases read_eq_error_iff.1 h with ⟨_, _, he⟩ | ⟨_, _, reason, -, -, he⟩
  · cases he
  · obtain ⟨echo, hecho, rfl⟩ := invalidStep_eq_build_iff.1 he.symm
    exact ⟨echo, reason, hecho, rfl⟩

/-! ## Sequences of raw steps -/

/-- A sequence is read to the steps that its members are read to. -/
theorem readAll_eq_ok_iff {raws : List Value} :
    ∀ {steps : List Step}, readAll raws = .ok steps ↔ List.Forall₂ IsReadFrom raws steps := by
  induction raws with
  | nil => intro steps; simp [readAll, eq_comm]
  | cons raw rest ih =>
    intro steps
    rw [readAll, List.forall₂_cons_left_iff]
    cases hread : read raw with
    | error e => simp [IsReadFrom, hread]
    | ok s =>
      simp only [map_eq_ok_iff, ih, IsReadFrom, hread, Except.ok.injEq]
      constructor
      · rintro ⟨others, hothers, rfl⟩
        exact ⟨s, others, rfl, hothers, rfl⟩
      · rintro ⟨_, others, rfl, hothers, rfl⟩
        exact ⟨others, hothers, rfl⟩

/-- The raw step is the first of the sequence that cannot be read, and this is its refusal. -/
def IsFirstError (raws : List Value) (raw : Value) (e : Refusal) : Prop :=
  ∃ passed rest, raws = passed ++ raw :: rest ∧ (∀ r ∈ passed, ∃ s, read r = .ok s) ∧
    read raw = .error e

/-- Such an error echoes that raw step. -/
theorem IsFirstError.echoes {raws : List Value} {raw : Value} {error : BuildError}
    (h : IsFirstError raws raw (.build error)) : Echoes raw error := by
  obtain ⟨_, _, _, _, hraw⟩ := h
  exact echoes_of_read hraw

/-- It stands behind members that can be read. -/
theorem isFirstError_iff {raws : List Value} {raw : Value} {e : Refusal} :
    IsFirstError raws raw e ↔
      StandsBehind (∃ s, read · = .ok s) raws raw ∧ read raw = .error e := by
  simp only [IsFirstError, StandsBehind, ← and_assoc, exists_and_right]

/-- A sequence that cannot be read is refused as its first member that cannot be. -/
theorem readAll_eq_error_iff {raws : List Value} {e : Refusal} :
    readAll raws = .error e ↔ ∃ raw, IsFirstError raws raw e := by
  simp only [isFirstError_iff]
  induction raws with
  | nil => simp [readAll, not_standsBehind_nil]
  | cons first rest ih =>
    simp only [readAll, standsBehind_cons_iff, or_and_right, exists_or, exists_eq_left]
    cases hread : read first with
    | error e' => simp
    | ok s =>
      dsimp only
      rw [map_eq_error_iff, ih]
      simp

end HandlerPipeline.Step

import HandlerPipeline.BuildPass
import HandlerPipeline.Proofs.Results
import HandlerPipeline.Proofs.Variant.Answers

/-!
# What comes of a function

A function is declared badly, has no steps, has modules that cannot be resolved, or is written.
That is all that may come of it (`MayEnd`), whoever resolves its pipeline and whatever is remembered.
Only the variant of the pipeline comes from outside, so where pipelines determine their variants, a
declaration determines what comes of it (`mayEnd_iff`). A function comes to an artifact exactly
where it has steps, unless it fails (`MayEnd.eq_artifact`).
-/

namespace HandlerPipeline.BuildPass

/-- The function has a pipeline, and it has steps. -/
def hasSteps (pass : BuildPass) (d : Declaration) : Bool :=
  match pass.assemble d with
  | .ok p => !p.isEmpty
  | .error _ => false

/-- The function's pipeline, which has steps. -/
def Runs (pass : BuildPass) (d : Declaration) (p : Pipeline) : Prop :=
  pass.assemble d = .ok p ∧ p.isEmpty = false

/-- What may come of a function, where `resolves` relates pipelines to what they may turn out to
be. -/
inductive MayEnd (pass : BuildPass) (resolves : Pipeline → Except Failure Variant → Prop)
    (d : Declaration) : Outcome → Prop where
  | misdeclared {e : Refusal} (h : pass.assemble d = .error e) :
      MayEnd pass resolves d (.error e.toFailure)
  | empty {p : Pipeline} (h : pass.assemble d = .ok p) (hempty : p.isEmpty = true) :
      MayEnd pass resolves d (.ok none)
  | unresolved {p : Pipeline} {f : Failure} (h : pass.Runs d p) (hf : resolves p (.error f)) :
      MayEnd pass resolves d (.error f)
  | written {p : Pipeline} {v : Variant} (h : pass.Runs d p) (hv : resolves p (.ok v)) :
      MayEnd pass resolves d ((pass.write p v).1.map some)

/-- What comes of a function, where `resolution` says what pipelines turn out to be. -/
def outcomeBy (pass : BuildPass) (resolution : Pipeline → Except Failure Variant)
    (d : Declaration) : Outcome :=
  match pass.assemble d with
  | .error e => .error e.toFailure
  | .ok p =>
    if p.isEmpty then .ok none
    else
      match resolution p with
      | .error f => .error f
      | .ok v => (pass.write p v).1.map some

variable {pass : BuildPass} {d : Declaration} {p : Pipeline} {outcome : Outcome}
  {resolves : Pipeline → Except Failure Variant → Prop}

/-- A function with a pipeline of steps has steps. -/
theorem Runs.hasSteps (h : pass.Runs d p) : pass.hasSteps d = true := by
  rw [BuildPass.hasSteps, h.1]
  exact congrArg (!·) h.2

/-- Where every pipeline turns out to be one thing, one thing comes of a function. -/
theorem mayEnd_iff {resolution : Pipeline → Except Failure Variant} :
    MayEnd pass (fun p result => result = resolution p) d outcome ↔
      outcome = pass.outcomeBy resolution d := by
  constructor
  · intro h
    cases h with
    | misdeclared h => simp [outcomeBy, h]
    | empty h hempty => simp [outcomeBy, h, hempty]
    | unresolved h hf => simp [outcomeBy, h.1, h.2, ← hf]
    | written h hv => simp [outcomeBy, h.1, h.2, ← hv]
  · rintro rfl
    unfold outcomeBy
    split
    · next e he => exact .misdeclared he
    · next p hp =>
      split
      · next hempty => exact .empty hp hempty
      · next hempty =>
        have hruns : pass.Runs d p := ⟨hp, eq_false_of_ne_true hempty⟩
        split
        · next f hf => exact .unresolved hruns hf.symm
        · next v hv => exact .written hruns hv.symm

/-- A pipeline is not written where its artifact is not emitted. -/
theorem write_eq_error_iff {v : Variant} {f : Failure} : (pass.write p v).1 = .error f ↔
    Artifact.emit pass.config.checksSource v pass.config.importBase p = .error f := by
  unfold write
  cases Artifact.emit pass.config.checksSource v pass.config.importBase p <;> simp

/-- A function comes to an artifact exactly where it has steps, unless it fails. -/
theorem MayEnd.eq_artifact (h : MayEnd pass resolves d outcome)
    (hok : ∀ f, outcome ≠ .error f) :
    if pass.hasSteps d then ∃ a, outcome = .ok (some a) else outcome = .ok none := by
  cases h with
  | misdeclared => exact absurd rfl (hok _)
  | empty h hempty =>
    rw [if_neg (by rw [hasSteps, h]; simpa using hempty)]
  | unresolved => exact absurd rfl (hok _)
  | written h hv =>
    rw [if_pos h.hasSteps]
    cases hwrite : (pass.write _ _).1 with
    | error f => exact absurd (map_eq_error_iff.2 hwrite) (hok f)
    | ok a => exact ⟨a, rfl⟩

/-- What comes of building a function, given what is remembered. -/
theorem buildFunction_outcome (memory : Resolved) : (pass.buildFunction memory d).outcome =
    pass.outcomeBy (fun p => (memory.resolve pass.probe p).outcome) d := by
  unfold buildFunction outcomeBy
  cases pass.assemble d with
  | error e => rfl
  | ok p =>
    cases hempty : p.isEmpty with
    | true => simp only [hempty, if_true]
    | false => cases h : (memory.resolve pass.probe p).outcome <;> simp [hempty, h]

/-- What comes of building a function alone. -/
theorem buildFunction_nil_outcome :
    (pass.buildFunction [] d).outcome = pass.outcomeBy pass.probe.variant d := by
  rw [buildFunction_outcome]
  simp only [Resolved.resolve_nil_outcome]

end HandlerPipeline.BuildPass

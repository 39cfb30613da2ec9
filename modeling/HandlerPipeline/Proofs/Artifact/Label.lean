import HandlerPipeline.Artifact.Source
import HandlerPipeline.Proofs.Reference.Accepted
import HandlerPipeline.Proofs.Text.Pieces

/-!
# Reading labels

A label is cut at its blanks. One word is a handler for success, two are a handler for failure
behind its marker, three are both. The references hold no blank, so the kind of the step and the
spelling of its references are found again (`Step.ofLabel_label`).
-/

namespace HandlerPipeline

namespace Step

/-- The step that a label names. -/
def ofLabel (label : String) : Option Step :=
  match (label.toList.splitOn ' ').map String.ofList with
  | [success] => (Reference.read success).toOption.map .onSuccess
  | ["catch", failure] => (Reference.read failure).toOption.map .onFailure
  | [success, "catch", failure] => do
    let success ← (Reference.read success).toOption
    let failure ← (Reference.read failure).toOption
    some (.onBoth success failure)
  | _ => none

/-- The words of a label. -/
def labelWords : Step → List String
  | onSuccess r => [r.text]
  | onFailure r => ["catch", r.text]
  | onBoth success failure => [success.text, "catch", failure.text]

/-- A label is its words, joined by blanks. -/
theorem label_eq_intercalate (s : Step) : s.label = " ".intercalate s.labelWords := by
  rw [← String.toList_inj, String.toList_intercalate]
  cases s <;> simp [label, labelWords]

/-- No word of an accepted step's label holds a blank. -/
theorem IsAccepted.notMem_labelWords {s : Step} (h : s.IsAccepted) :
    ∀ word ∈ s.labelWords, ' ' ∉ word.toList := by
  have hreference : ∀ r ∈ s.references, ' ' ∉ r.text.toList := fun r hr hmem =>
    absurd ((h r hr).not_isBlank ' ' hmem) (by decide)
  cases s with
  | onSuccess r => simpa [labelWords, references, success?, failure?] using hreference
  | onFailure r => simpa [labelWords, references, success?, failure?] using hreference
  | onBoth success failure =>
    simpa [labelWords, references, success?, failure?] using hreference

/-- **The label of an accepted step names that step**: its kind and its references. -/
theorem ofLabel_label {s : Step} (h : s.IsAccepted) : ofLabel s.label = some s := by
  have hwords : (s.label.toList.splitOn ' ').map String.ofList = s.labelWords := by
    rw [label_eq_intercalate]
    exact Text.splitOn_intercalate h.notMem_labelWords (by cases s <;> simp [labelWords])
  rw [ofLabel, hwords]
  cases s with
  | onSuccess r =>
    have hr : Reference.read r.text = .ok r := h r (by simp [references, success?])
    simp only [labelWords, hr]
    rfl
  | onFailure r =>
    have hr : Reference.read r.text = .ok r := h r (by simp [references, failure?])
    simp only [labelWords, hr]
    rfl
  | onBoth success failure =>
    have hs : Reference.read success.text = .ok success :=
      h success (by simp [references, success?])
    have hf : Reference.read failure.text = .ok failure :=
      h failure (by simp [references, failure?])
    simp only [labelWords, hs, hf]
    rfl

end Step

end HandlerPipeline

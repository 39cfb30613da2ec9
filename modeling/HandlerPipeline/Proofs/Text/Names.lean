import HandlerPipeline.Text.Blank
import HandlerPipeline.Text.Identifier

/-!
# The characters of names

The characters of a name may stand in an identifier (`isIdentifierPart_of_isName`), and no blank may
(`not_isBlank_of_isIdentifierPart`): the ranges of the two classes nowhere overlap. The letters and
digits of ASCII are told by their code points.
-/

namespace HandlerPipeline.Text

/-- The code points of digits. -/
theorem isDigit_iff {c : Char} : c.isDigit = true ↔ 0x30 ≤ c.toNat ∧ c.toNat ≤ 0x39 := by
  simp [Char.isDigit, UInt32.le_iff_toNat_le, ← Char.toNat_val]

/-- The code points of letters. -/
theorem isAlpha_iff {c : Char} : c.isAlpha = true ↔
    (0x41 ≤ c.toNat ∧ c.toNat ≤ 0x5a) ∨ (0x61 ≤ c.toNat ∧ c.toNat ≤ 0x7a) := by
  have hupper : c.isUpper = decide (c.val ≥ 0x41 ∧ c.val ≤ 0x5a) := rfl
  have hlower : c.isLower = (decide (c.val ≥ 0x61) && decide (c.val ≤ 0x7a)) := rfl
  have halpha : c.isAlpha = (c.isUpper || c.isLower) := rfl
  rw [halpha, hupper, hlower]
  simp [UInt32.le_iff_toNat_le, ← Char.toNat_val]

/-- The ranges of the two sets nowhere overlap. -/
def CodeRanges.isDisjoint (ranges others : CodeRanges) : Bool :=
  ranges.all fun r => others.all fun r' => r.2.blt r'.1 || r'.2.blt r.1

/-- A character of one set of code points is not in a set that nowhere overlaps it. -/
theorem CodeRanges.has_eq_false_of_disjoint {ranges others : CodeRanges}
    (h : ranges.isDisjoint others = true) {c : Char} (hc : others.has c = true) :
    ranges.has c = false := by
  rw [Bool.eq_false_iff]
  intro hin
  obtain ⟨r, hr, hlow, hhigh⟩ := CodeRanges.has_iff.1 hin
  obtain ⟨r', hr', hlow', hhigh'⟩ := CodeRanges.has_iff.1 hc
  have hapart := List.all_eq_true.1 (List.all_eq_true.1 h r hr) r' hr'
  rw [Bool.or_eq_true, Nat.blt_eq, Nat.blt_eq] at hapart
  omega

/-- No blank stands in an identifier. -/
theorem not_isBlank_of_isIdentifierPart {c : Char} (h : isIdentifierPart c = true) :
    isBlank c = false := by
  rw [isIdentifierPart, Bool.or_eq_true] at h
  rcases h with h | h
  · exact CodeRanges.has_eq_false_of_disjoint (by decide +kernel) h
  · exact CodeRanges.has_eq_false_of_disjoint (by decide +kernel) h

/-- The characters of a name may stand in an identifier. -/
theorem isIdentifierPart_of_isName {name : String} (h : isName name = true) :
    ∀ c ∈ name.toList, isIdentifierPart c = true := by
  unfold isName at h
  rw [Bool.and_eq_true] at h
  have hid := h.1
  intro c hc
  cases hname : name.toList with
  | nil => rw [hname] at hc; cases hc
  | cons d rest =>
    rw [hname] at hid hc
    simp only [isIdentifier, Bool.and_eq_true, List.all_eq_true] at hid
    rcases List.mem_cons.1 hc with rfl | hc
    · rw [isIdentifierPart, show identifierStarts.has c = true from hid.1]
      rfl
    · exact hid.2 c hc

/-- A name is not empty. -/
theorem toList_ne_nil_of_isName {name : String} (h : isName name = true) : name.toList ≠ [] := by
  intro hnil
  rw [isName, hnil] at h
  cases h

end HandlerPipeline.Text

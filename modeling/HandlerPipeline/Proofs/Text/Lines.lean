import HandlerPipeline.Proofs.Text.Literal
import HandlerPipeline.Proofs.Text.Names
import HandlerPipeline.Text.Lines

/-!
# Texts within a line

No character that ends a line is printable or stands in an identifier, so a quoted text stands in
one line, and so does a name. A text is cut at its line boundaries only: what holds none stays whole
(`lines_append_newline`).
-/

namespace HandlerPipeline.Text

/-- The text holds no character that ends a line. -/
def InOneLine (text : List Char) : Prop := ∀ c ∈ text, isLineBoundary c = false

/-- A character that ends a line is one of those listed. -/
theorem isLineBoundary_iff {c : Char} : isLineBoundary c = true ↔ c ∈ lineBoundaries := by
  simp [isLineBoundary]

/-- A printable character ends no line. -/
theorem not_isLineBoundary_of_isPrintable {c : Char} (h : isPrintable c = true) :
    isLineBoundary c = false := by
  have hdisjoint : CodeRanges.isDisjoint (lineBoundaries.map fun b => (b.toNat, b.toNat))
      printableRanges = true := by
    decide +kernel
  have hnone := CodeRanges.has_eq_false_of_disjoint hdisjoint h
  rw [Bool.eq_false_iff] at hnone ⊢
  intro hc
  exact hnone (CodeRanges.has_iff.2
    ⟨_, List.mem_map_of_mem (isLineBoundary_iff.1 hc), Nat.le_refl _, Nat.le_refl _⟩)

/-- A character that ends a line is a blank. -/
theorem isBlank_of_isLineBoundary {c : Char} (h : isLineBoundary c = true) : isBlank c = true := by
  have hall : lineBoundaries.all isBlank = true := by decide
  exact List.all_eq_true.1 hall c (isLineBoundary_iff.1 h)

/-- A character that may stand in an identifier ends no line. -/
theorem not_isLineBoundary_of_isIdentifierPart {c : Char} (h : isIdentifierPart c = true) :
    isLineBoundary c = false := by
  have hblank := not_isBlank_of_isIdentifierPart h
  rw [Bool.eq_false_iff]
  intro hc
  rw [isBlank_of_isLineBoundary hc] at hblank
  cases hblank

/-- A quoted text stands in one line. -/
theorem inOneLine_quoted (text : List Char) : InOneLine (quoted text) :=
  fun _ hc => not_isLineBoundary_of_isPrintable (isPrintable_of_mem_quoted hc)

/-- A name stands in one line. -/
theorem inOneLine_of_isName {name : String} (h : isName name = true) : InOneLine name.toList :=
  fun c hc => not_isLineBoundary_of_isIdentifierPart (isIdentifierPart_of_isName h c hc)

/-- What stands before the first line feed of a text is its first line, if it holds no other
boundary. -/
theorem lines_append_newline {line : List Char} (h : InOneLine line) (rest : List Char) :
    lines (line ++ '\n' :: rest) = line :: lines rest := by
  induction line with
  | nil => rfl
  | cons c line ih =>
    obtain ⟨hc, hline⟩ := List.forall_mem_cons.1 h
    have hreturn : c ≠ '\r' := by
      rintro rfl
      exact absurd hc (by decide)
    rw [List.cons_append, lines, hc, ih hline]
    · rfl
    · rintro _ rfl
      exact absurd rfl hreturn

end HandlerPipeline.Text

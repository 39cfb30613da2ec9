import HandlerPipeline.Proofs.Artifact.ServiceRoot
import HandlerPipeline.Proofs.Reference.Binding

/-!
# Two spellings of one module

Slashes and dots separate the parts of a module path alike, so one module can be spelled in several
ways. Each separator becomes a `_` in the binding name, so the name is made from the parts alone
(`ModulePath.sanitized_eq_intercalate`), and all spellings of a module have one name
(`ModulePath.bindingName_congr`). The dotted name gives the parts back
(`ModulePath.parts_eq_of_dotted`), and so does the location of a module, where no part is empty
(`ModulePath.parts_eq_of_fileStem`).
-/

namespace HandlerPipeline.ModulePath

variable {a b : String} {reserved : List String}

/-- No separator stands in a binding name. -/
theorem isBindingChar_eq_false_of_isSeparator {c : Char} (h : isSeparator c = true) :
    isBindingChar c = false := by
  rw [isSeparator, Bool.or_eq_true, beq_iff_eq, beq_iff_eq] at h
  rcases h with rfl | rfl <;> decide

/-- What a path is made into is what its parts are made into, joined by `_`. -/
theorem sanitized_eq_intercalate (path : List Char) :
    sanitized path = ['_'].intercalate ((Text.pieces isSeparator path).map sanitized) := by
  refine Text.map_eq_intercalate_pieces (fun c hc => ?_) path
  rw [isBindingChar_eq_false_of_isSeparator hc, if_neg Bool.false_ne_true]

/-- Paths of the same parts have the same pieces. -/
theorem pieces_eq_of_parts (h : parts a = parts b) :
    Text.pieces isSeparator a.toList = Text.pieces isSeparator b.toList :=
  List.map_injective_iff.2 (fun _ _ h => String.ofList_injective h) h

/-- **All spellings of a module have one binding name.** -/
theorem bindingName_congr (h : parts a = parts b) :
    bindingName reserved a = bindingName reserved b := by
  have hsanitized : sanitized a.toList = sanitized b.toList := by
    rw [sanitized_eq_intercalate, pieces_eq_of_parts h, ← sanitized_eq_intercalate]
  rw [bindingName, hsanitized, ← bindingName]

/-- Paths of one dotted name have the same parts. -/
theorem parts_eq_of_dotted (h : dotted a = dotted b) : parts a = parts b := by
  rw [← splitOn_dotted, h, splitOn_dotted]

/-- Paths that lead to one location have the same parts, where no part is empty. -/
theorem parts_eq_of_fileStem (ha : "" ∉ parts a) (hb : "" ∉ parts b)
    (h : fileStem a = fileStem b) : parts a = parts b := by
  have hstem : ∀ {path : String}, "" ∉ parts path →
      ((fileStem path).toList.splitOn '/').map String.ofList = parts path := by
    intro path hpath
    have hslash : ∀ part ∈ parts path, '/' ∉ part.toList := fun part hpart hmem =>
      absurd (of_mem_parts hpart '/' hmem).2 (by decide)
    rw [fileStem, components_eq_parts_of_notMem hpath]
    split
    · next hnil => exact absurd hnil parts_ne_nil
    · exact Text.splitOn_intercalate hslash parts_ne_nil
  rw [← hstem ha, h, hstem hb]

end HandlerPipeline.ModulePath

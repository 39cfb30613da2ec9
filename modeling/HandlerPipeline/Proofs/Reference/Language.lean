import HandlerPipeline.Proofs.Reference.Accepted
import HandlerPipeline.Proofs.Text.Names
import HandlerPipeline.Proofs.Text.Pieces

/-!
# The language of references

A reference is a module path, a dot and a name; a module path is made of parts, joined by single
separators of either kind (`IsModulePath`). Reading scans a text for its first defect and then cuts
it at its last separator. It accepts exactly the texts of that form (`read_eq_ok_iff`), and since no
name holds a separator, a text has this form in one way only. So reading and writing undo each other
on the texts that are accepted and on the references that are read (`read_language`).
-/

namespace HandlerPipeline.Reference

/-- The character may stand in a part of a module path. -/
def IsPartChar (c : Char) : Prop := Text.isBlank c = false ∧ isSeparator c = false

/-- The text can be a part of a module path. -/
def IsPart (part : List Char) : Prop := part ≠ [] ∧ ∀ c ∈ part, IsPartChar c

/-- The text is a module path: parts, joined by single separators. -/
inductive IsModulePath : List Char → Prop
  | part {part : List Char} (h : IsPart part) : IsModulePath part
  | join {part rest : List Char} {separator : Char} (h : IsPart part)
      (hseparator : isSeparator separator = true) (hrest : IsModulePath rest) :
      IsModulePath (part ++ separator :: rest)

/-- The text spells the reference: it is a module path, a dot, and a name. -/
structure Spells (text : String) (r : Reference) : Prop where
  isModulePath : IsModulePath r.modulePath.toList
  isName : Text.isName r.exportName = true
  eq_append : text = r.modulePath ++ "." ++ r.exportName

/-! ## Parts -/

/-- A single character that may stand in a part is one. -/
theorem IsPartChar.isPart {c : Char} (h : IsPartChar c) : IsPart [c] :=
  ⟨List.cons_ne_nil _ _, by simpa using h⟩

/-- A part stays one with a character before it that may stand in a part. -/
theorem IsPart.cons {c : Char} {part : List Char} (hc : IsPartChar c) (h : IsPart part) :
    IsPart (c :: part) :=
  ⟨List.cons_ne_nil _ _, List.forall_mem_cons.2 ⟨hc, h.2⟩⟩

/-- A module path stays one with a character before it that may stand in a part. -/
theorem IsModulePath.cons {c : Char} {path : List Char} (hc : IsPartChar c)
    (h : IsModulePath path) : IsModulePath (c :: path) := by
  cases h with
  | part h => exact .part (h.cons hc)
  | join h hseparator hrest => exact .join (h.cons hc) hseparator hrest

/-- A module path is not empty. -/
theorem IsModulePath.ne_nil {path : List Char} (h : IsModulePath path) : path ≠ [] := by
  cases h with
  | part h => exact h.1
  | join _ _ _ => simp

/-- The pieces of a module path are its parts. -/
theorem IsModulePath.isPart_of_mem_pieces {path : List Char} (h : IsModulePath path) :
    ∀ piece ∈ Text.pieces isSeparator path, IsPart piece := by
  induction h with
  | part h =>
    rw [Text.pieces_of_not_separates fun c hc => (h.2 c hc).2]
    exact List.forall_mem_singleton.2 h
  | join h hseparator _ ih =>
    rw [Text.pieces_append_cons (fun c hc => (h.2 c hc).2) hseparator]
    exact List.forall_mem_cons.2 ⟨h, ih⟩

/-- The characters of a name may stand in parts. -/
theorem isPartChar_of_isName {name : String} (h : Text.isName name = true) :
    ∀ c ∈ name.toList, IsPartChar c := by
  intro c hc
  have hpart := Text.isIdentifierPart_of_isName h c hc
  refine ⟨Text.not_isBlank_of_isIdentifierPart hpart, ?_⟩
  rw [isSeparator, Bool.or_eq_false_iff, beq_eq_false_iff_ne, beq_eq_false_iff_ne]
  constructor
  · rintro rfl
    exact absurd hpart (by decide +kernel)
  · rintro rfl
    exact absurd hpart (by decide +kernel)

/-! ## What the scan passes -/

/-- What stands before a dot of a text without a first defect is a module path, or what is left of
one whose last part began before the text. -/
theorem isModulePath_of_firstDefect {path after : List Char} :
    ∀ {column : Nat},
      (firstDefect true column (path ++ '.' :: after) = none → IsModulePath path) ∧
      (firstDefect false column (path ++ '.' :: after) = none →
        ∀ c, IsPartChar c → IsModulePath (c :: path)) := by
  induction path with
  | nil =>
    intro column
    refine ⟨fun h => ?_, fun _ c hc => .part hc.isPart⟩
    rw [List.nil_append, firstDefect, if_neg (by decide), if_pos (by decide), if_pos rfl] at h
    cases h
  | cons d path ih =>
    intro column
    simp only [List.cons_append, firstDefect]
    by_cases hblank : Text.isBlank d = true
    · simp [hblank]
    by_cases hseparator : isSeparator d = true
    · -- After a separator a part has to begin.
      simp only [hblank, hseparator, if_true, if_false, Bool.false_eq_true, reduceCtorEq,
        false_imp_iff, true_and]
      exact fun h c hc => .join hc.isPart hseparator (ih.1 h)
    · have hd : IsPartChar d := ⟨Bool.eq_false_iff.2 hblank, Bool.eq_false_iff.2 hseparator⟩
      simp only [hblank, hseparator, if_false, Bool.false_eq_true]
      exact ⟨fun h => ih.2 h d hd, fun h c hc => (ih.2 h d hd).cons hc⟩

/-- The scan passes a part. -/
theorem firstDefect_part {part : List Char} (rest : List Char) :
    ∀ {fresh : Bool} {column : Nat}, IsPart part →
      firstDefect fresh column (part ++ rest) = firstDefect false (column + part.length) rest := by
  induction part with
  | nil => intro _ _ h; exact absurd rfl h.1
  | cons c part ih =>
    intro fresh column h
    obtain ⟨⟨hblank, hseparator⟩, hpart⟩ := List.forall_mem_cons.1 h.2
    have hstep : firstDefect fresh column (c :: part ++ rest) =
        firstDefect false (column + 1) (part ++ rest) := by
      simp [firstDefect, hblank, hseparator]
    have hcolumn : column + (c :: part).length = column + 1 + part.length := by
      rw [List.length_cons]
      omega
    rw [hstep, hcolumn]
    by_cases hnil : part = []
    · rw [hnil]
      rfl
    · exact ih ⟨hnil, hpart⟩

/-- The scan passes a module path. -/
theorem firstDefect_modulePath {path : List Char} (h : IsModulePath path) (rest : List Char) :
    ∀ {column : Nat}, firstDefect true column (path ++ rest) =
      firstDefect false (column + path.length) rest := by
  induction h with
  | part h => exact firstDefect_part rest h
  | @join part _ separator h hseparator _ ih =>
    intro column
    have hblank : Text.isBlank separator = false := by
      rw [isSeparator, Bool.or_eq_true, beq_iff_eq, beq_iff_eq] at hseparator
      rcases hseparator with rfl | rfl <;> decide
    rw [List.append_assoc, firstDefect_part _ h, List.cons_append, firstDefect, hblank, hseparator]
    simp only [if_true, if_false, Bool.false_eq_true, ih, List.length_append, List.length_cons]
    congr 1
    omega

/-- A text is split at a separator behind which no other stands. -/
theorem splitLast_append {separator : Char} (hseparator : isSeparator separator = true)
    {after : List Char} (hafter : ∀ c ∈ after, isSeparator c = false) (before : List Char) :
    splitLast (before ++ separator :: after) = some (before, separator, after) := by
  have hnone : ∀ {text : List Char}, (∀ c ∈ text, isSeparator c = false) →
      splitLast text = none := by
    intro text h
    induction text with
    | nil => rfl
    | cons c text ih =>
      obtain ⟨hc, htext⟩ := List.forall_mem_cons.1 h
      simp [splitLast, ih htext, hc]
  induction before with
  | nil => simp [splitLast, hnone hafter, hseparator]
  | cons c before ih => simp [splitLast, ih]

/-! ## What is read -/

/-- **Reading accepts exactly the texts that spell a reference**, and gives that reference. -/
theorem read_eq_ok_iff {text : String} {r : Reference} : read text = .ok r ↔ Spells text r := by
  constructor
  · intro h
    obtain ⟨hdefect, hname, htext⟩ := readChars_eq_ok h
    rw [htext] at hdefect
    exact ⟨isModulePath_of_firstDefect.1 hdefect, hname, (text_of_read h).symm⟩
  · intro h
    have hpart := isPartChar_of_isName h.isName
    have hne := Text.toList_ne_nil_of_isName h.isName
    have htext : text.toList = r.modulePath.toList ++ '.' :: r.exportName.toList := by
      rw [h.eq_append]
      simp
    have hdefect : firstDefect true 1 text.toList = none := by
      rw [htext, firstDefect_modulePath h.isModulePath, firstDefect, if_neg (by decide),
        if_pos (by decide), if_neg Bool.false_ne_true, ← List.append_nil r.exportName.toList,
        firstDefect_part [] ⟨hne, hpart⟩]
      rfl
    have hsplit : splitLast text.toList =
        some (r.modulePath.toList, '.', r.exportName.toList) := by
      rw [htext]
      exact splitLast_append (by decide) (fun c hc => (hpart c hc).2) _
    have hempty : text.toList.isEmpty = false := by
      rw [htext]
      simp
    rw [read, readChars, hempty, hdefect, hsplit]
    simp [h.isName]

/-- The module path of an accepted reference is one. -/
theorem IsAccepted.isModulePath {r : Reference} (h : r.IsAccepted) :
    IsModulePath r.modulePath.toList :=
  (read_eq_ok_iff.1 h).isModulePath

namespace Spells

variable {text : String} {r r' : Reference}

/-- A text spells one reference only. -/
theorem unique (h : Spells text r) (h' : Spells text r') : r = r' :=
  Except.ok.inj ((read_eq_ok_iff.2 h).symm.trans (read_eq_ok_iff.2 h'))

/-- The dot before the name is the last separator of the text. -/
theorem not_isSeparator (h : Spells text r) : ∀ c ∈ r.exportName.toList, isSeparator c = false :=
  fun c hc => (isPartChar_of_isName h.isName c hc).2

end Spells

/-- What reading does with a text. -/
structure ReadingLaw (text : String) : Prop where
  /-- It succeeds exactly on a module path, a dot and a name. -/
  accepts : (∃ r, read text = .ok r) ↔ ∃ path name : String,
    IsModulePath path.toList ∧ Text.isName name = true ∧ text = path ++ "." ++ name
  /-- It then gives the path and the name. -/
  gives : ∀ path name : String, IsModulePath path.toList → Text.isName name = true →
    text = path ++ "." ++ name → read text = .ok ⟨path, name⟩
  /-- There is no second path and name, and the dot between the two is the last separator. -/
  splitsLast : ∀ path name path' name' : String,
    IsModulePath path.toList → Text.isName name = true → text = path ++ "." ++ name →
    IsModulePath path'.toList → Text.isName name' = true → text = path' ++ "." ++ name' →
    path = path' ∧ name = name' ∧ ∀ c ∈ name.toList, isSeparator c = false
  /-- The reference is written as the text it was read from. -/
  text_eq : ∀ r, read text = .ok r → r.text = text
  /-- It is read again from what it is written as. -/
  read_text : ∀ r, read text = .ok r → read r.text = .ok r

/-- **Reading accepts exactly the language of references**, splits an accepted text in the only way
there is, and is undone by writing, as it undoes writing. -/
theorem read_language (text : String) : ReadingLaw text := by
  refine ⟨⟨?_, ?_⟩, fun path name hpath hname heq => read_eq_ok_iff.2 ⟨hpath, hname, heq⟩, ?_,
    fun r h => text_of_read h, fun r h => isAccepted_of_read h⟩
  · rintro ⟨r, h⟩
    have hspells := read_eq_ok_iff.1 h
    exact ⟨r.modulePath, r.exportName, hspells.isModulePath, hspells.isName, hspells.eq_append⟩
  · rintro ⟨path, name, hpath, hname, heq⟩
    exact ⟨⟨path, name⟩, read_eq_ok_iff.2 ⟨hpath, hname, heq⟩⟩
  · intro path name path' name' hpath hname heq hpath' hname' heq'
    have hspells : Spells text ⟨path, name⟩ := ⟨hpath, hname, heq⟩
    have hspells' : Spells text ⟨path', name'⟩ := ⟨hpath', hname', heq'⟩
    have hsame := hspells.unique hspells'
    rw [Reference.mk.injEq] at hsame
    exact ⟨hsame.1, hsame.2, hspells.not_isSeparator⟩

end HandlerPipeline.Reference

import HandlerPipeline.Proofs.Reference.Language

/-!
# Defects of references

Where a text is no reference, its first defect is reported: the first blank, or the first separator
that stands where a part has to begin. What follows it makes no difference. Only a text without such
a defect is looked at as a whole, and then it is its last separator that counts. `Reports` says what
is reported of which texts, place by place, and `read_firstDefect` that this is what reading
reports. The scan of a text and its cut at the last separator are brought into that form by
`firstDefect_eq_some_iff` and `splitLast_eq_some_iff`.
-/

namespace HandlerPipeline.Reference

variable {text rest before after : List Char} {i k : Nat} {c d : Char} {e : SyntaxError}

/-! ## Places -/

/-- A part has to begin at the place: it is the first one, or a separator stands before it. -/
def BeginsPart (text : List Char) (i : Nat) : Prop :=
  i = 0 ∨ ∃ c, text[i - 1]? = some c ∧ isSeparator c = true

/-- The character at the place is a defect: a blank, or a separator where a part has to begin. -/
structure IsDefect (text : List Char) (i : Nat) (c : Char) : Prop where
  char : text[i]? = some c
  bad : Text.isBlank c = true ∨ isSeparator c = true ∧ BeginsPart text i

/-- No defect stands before this one. -/
structure IsFirstDefect (text : List Char) (i : Nat) (c : Char) : Prop where
  isDefect : IsDefect text i c
  first : ∀ j d, j < i → ¬ IsDefect text j d

/-- No separator stands behind this one. -/
structure IsLastSeparator (text : List Char) (i : Nat) (c : Char) : Prop where
  char : text[i]? = some c
  isSeparator : isSeparator c = true
  last : ∀ j d, i < j → text[j]? = some d → HandlerPipeline.isSeparator d = false

/-- What is reported of a text that is no reference. -/
inductive Reports (text : List Char) : SyntaxError → Prop where
  | empty (h : text = []) : Reports text .empty
  | blank {i : Nat} {c : Char} (h : IsFirstDefect text i c) (hblank : Text.isBlank c = true) :
      Reports text (.blank c (i + 1))
  | emptyPart {i : Nat} {c : Char} (h : IsFirstDefect text i c)
      (hseparator : isSeparator c = true) : Reports text (.emptyPart c (i + 1))
  | missingExport {c : Char} (hclean : ∀ i d, ¬ IsDefect text i d) (hlast : text.getLast? = some c)
      (hseparator : isSeparator c = true) : Reports text .missingExport
  | bareName (hne : text ≠ []) (hclean : ∀ i d, ¬ IsDefect text i d)
      (hnone : ∀ c ∈ text, isSeparator c = false) : Reports text .bareName
  | undotted {i : Nat} (hclean : ∀ i d, ¬ IsDefect text i d) (hlast : IsLastSeparator text i '/')
      (hbehind : i + 1 < text.length) : Reports text (.undotted (i + 1))
  | badExport {i : Nat} (hclean : ∀ i d, ¬ IsDefect text i d) (hlast : IsLastSeparator text i '.')
      (hbehind : i + 1 < text.length)
      (hname : Text.isName (String.ofList (text.drop (i + 1))) = false) :
      Reports text (.badExport (String.ofList (text.drop (i + 1))) (i + 2))

/-! ## The first defect -/

/-- A blank is no separator. -/
theorem not_isSeparator_of_isBlank (h : Text.isBlank c = true) : isSeparator c = false := by
  refine Bool.eq_false_iff.2 fun hseparator => ?_
  rw [isSeparator, Bool.or_eq_true, beq_iff_eq, beq_iff_eq] at hseparator
  rcases hseparator with rfl | rfl <;> exact absurd h (by decide)

/-- What is reported of a defect, by its character and its column. -/
def defectError (c : Char) (column : Nat) : SyntaxError :=
  if Text.isBlank c then .blank c column else .emptyPart c column

/-- A part has to begin behind a separator, and behind no other character. -/
theorem beginsPart_add_one_iff (h : text[k]? = some c) :
    BeginsPart text (k + 1) ↔ isSeparator c = true := by
  simp [BeginsPart, h]

/-- There is one first defect at most. -/
theorem IsFirstDefect.unique (h : IsFirstDefect text i c) (h' : IsFirstDefect text k d) :
    i = k ∧ c = d := by
  obtain rfl : i = k := by
    rcases Nat.lt_trichotomy i k with hlt | heq | hgt
    · exact absurd h.isDefect (h'.first i c hlt)
    · exact heq
    · exact absurd h'.isDefect (h.first k d hgt)
  exact ⟨rfl, Option.some.inj (h.isDefect.char.symm.trans h'.isDefect.char)⟩

/-- What is found from a place on: the error of the first defect that stands there or behind, or
nothing, where there is none. -/
inductive FoundFrom (text : List Char) (k : Nat) : Option SyntaxError → Prop where
  | nothing (hclean : ∀ j d, k ≤ j → ¬ IsDefect text j d) : FoundFrom text k none
  | defect {i : Nat} {c : Char} (hplace : k ≤ i) (hdefect : IsDefect text i c)
      (hfirst : ∀ j d, k ≤ j → j < i → ¬ IsDefect text j d) :
      FoundFrom text k (some (defectError c (i + 1)))

/-- A defect is found where it stands. -/
theorem FoundFrom.here (h : IsDefect text k c) :
    FoundFrom text k (some (defectError c (k + 1))) :=
  .defect (Nat.le_refl k) h fun _ _ hj hlt => absurd hlt (Nat.not_lt.2 hj)

/-- A place without a defect is passed. -/
theorem FoundFrom.pass {found : Option SyntaxError} (hclean : ∀ d, ¬ IsDefect text k d)
    (h : FoundFrom text (k + 1) found) : FoundFrom text k found := by
  cases h with
  | nothing hbehind =>
    refine .nothing fun j d hj => ?_
    rcases Nat.eq_or_lt_of_le hj with rfl | hlt
    · exact hclean d
    · exact hbehind j d hlt
  | defect hplace hdefect hfirst =>
    refine .defect (Nat.le_of_succ_le hplace) hdefect fun j d hj hlt => ?_
    rcases Nat.eq_or_lt_of_le hj with rfl | hlt'
    · exact hclean d
    · exact hfirst j d hlt' hlt

/-- The scan of the rest of a text, where it is known whether a part has to begin there: it passes
what is no defect, and reports the first one. -/
theorem foundFrom_firstDefect (hrest : text.drop k = rest) {fresh : Bool}
    (hfresh : fresh = true ↔ BeginsPart text k) :
    FoundFrom text k (firstDefect fresh (k + 1) rest) := by
  induction rest generalizing k fresh with
  | nil =>
    refine .nothing fun j d hj hdefect => ?_
    have hchar := hdefect.char
    rw [List.getElem?_eq_none (Nat.le_trans (List.drop_eq_nil_iff.1 hrest) hj)] at hchar
    cases hchar
  | cons c rest ih =>
    have hchar : text[k]? = some c := by
      rw [← List.head?_drop, hrest]
      rfl
    have hnext : text.drop (k + 1) = rest := by
      rw [List.drop_add_one_eq_tail_drop, hrest, List.tail_cons]
    have hbegins := beginsPart_add_one_iff hchar
    have heq : ∀ {d}, IsDefect text k d → d = c := fun hdefect =>
      Option.some.inj (hdefect.char.symm.trans hchar)
    rw [firstDefect]
    by_cases hblank : Text.isBlank c = true
    · have hfound := FoundFrom.here ⟨hchar, .inl hblank⟩
      rw [defectError, if_pos hblank] at hfound
      rwa [if_pos hblank]
    rw [if_neg hblank]
    by_cases hseparator : isSeparator c = true
    · rw [if_pos hseparator]
      cases fresh with
      | true =>
        have hfound := FoundFrom.here ⟨hchar, .inr ⟨hseparator, hfresh.1 rfl⟩⟩
        rwa [defectError, if_neg hblank] at hfound
      | false =>
        refine .pass (fun d hdefect => ?_) (ih hnext (by rw [hbegins, hseparator]))
        obtain rfl := heq hdefect
        rcases hdefect.bad with h | ⟨-, h⟩
        · exact hblank h
        · exact absurd (hfresh.2 h) Bool.false_ne_true
    · rw [if_neg hseparator]
      refine .pass (fun d hdefect => ?_)
        (ih hnext (by rw [hbegins, Bool.eq_false_iff.2 hseparator]))
      obtain rfl := heq hdefect
      rcases hdefect.bad with h | ⟨h, -⟩
      · exact hblank h
      · exact hseparator h

/-- The scan of a whole text, where a part has to begin. -/
theorem foundFrom_zero (text : List Char) : FoundFrom text 0 (firstDefect true 1 text) :=
  foundFrom_firstDefect List.drop_zero ⟨fun _ => .inl rfl, fun _ => rfl⟩

/-- **The scan of a text reports its first defect**, where it has one. -/
theorem firstDefect_eq_some_iff : firstDefect true 1 text = some e ↔
    ∃ i c, IsFirstDefect text i c ∧ e = defectError c (i + 1) := by
  have hscan := foundFrom_zero text
  generalize firstDefect true 1 text = found at hscan ⊢
  cases hscan with
  | nothing hclean =>
    refine ⟨fun h => (nomatch h), ?_⟩
    rintro ⟨i, c, hfirst, -⟩
    exact absurd hfirst.isDefect (hclean i c (Nat.zero_le i))
  | @defect i c _ hdefect hbefore =>
    have hfirst : IsFirstDefect text i c := ⟨hdefect, fun j d => hbefore j d (Nat.zero_le j)⟩
    rw [Option.some.injEq]
    constructor
    · rintro rfl
      exact ⟨i, c, hfirst, rfl⟩
    · rintro ⟨i', c', hfirst', rfl⟩
      obtain ⟨rfl, rfl⟩ := hfirst.unique hfirst'
      rfl

/-- It finds nothing where there is no defect. -/
theorem firstDefect_eq_none_iff :
    firstDefect true 1 text = none ↔ ∀ i c, ¬ IsDefect text i c := by
  have hscan := foundFrom_zero text
  generalize firstDefect true 1 text = found at hscan ⊢
  cases hscan with
  | nothing hclean => exact ⟨fun _ i c => hclean i c (Nat.zero_le i), fun _ => rfl⟩
  | @defect i c _ hdefect _ => exact ⟨fun h => (nomatch h), fun h => absurd hdefect (h i c)⟩

/-! ## The last separator -/

/-- A text is not cut where it holds no separator. -/
theorem splitLast_eq_none_iff : splitLast text = none ↔ ∀ c ∈ text, isSeparator c = false := by
  induction text with
  | nil => simp [splitLast]
  | cons c rest ih =>
    rw [splitLast, List.forall_mem_cons, ← ih]
    split
    · next hrest => simp [hrest]
    · next hrest => simp [hrest]

/-- A text is cut at a separator behind which there is no other. -/
theorem splitLast_eq_some_iff : splitLast text = some (before, c, after) ↔
    text = before ++ c :: after ∧ isSeparator c = true ∧ ∀ d ∈ after, isSeparator d = false := by
  constructor
  · intro h
    refine ⟨eq_append_of_splitLast h, ?_⟩
    induction text generalizing before with
    | nil => cases h
    | cons first rest ih =>
      rw [splitLast] at h
      split at h
      · next hrest =>
        cases h
        exact ih hrest
      · next hrest =>
        split at h
        · next hseparator =>
          cases h
          exact ⟨hseparator, splitLast_eq_none_iff.1 hrest⟩
        · cases h
  · rintro ⟨rfl, hseparator, hafter⟩
    exact splitLast_append hseparator hafter before

/-- The separator at which a text is cut is its last one, at the place that the cut leaves before
it. -/
theorem isLastSeparator_iff : IsLastSeparator text i c ↔
    splitLast text = some (text.take i, c, text.drop (i + 1)) := by
  rw [splitLast_eq_some_iff]
  constructor
  · intro h
    obtain ⟨hlt, hchar⟩ := List.getElem?_eq_some_iff.1 h.char
    refine ⟨?_, h.isSeparator, fun d hd => ?_⟩
    · rw [← hchar, ← List.drop_eq_getElem_cons hlt, List.take_append_drop]
    · obtain ⟨j, hj⟩ := List.mem_iff_getElem?.1 hd
      rw [List.getElem?_drop] at hj
      exact h.last _ d (by omega) hj
  · rintro ⟨htext, hseparator, hafter⟩
    have hlt : i < text.length := by
      have hlength := congrArg List.length htext
      simp only [List.length_append, List.length_take, List.length_cons,
        List.length_drop] at hlength
      omega
    refine ⟨?_, hseparator, fun j d hj hd => hafter d (List.mem_iff_getElem?.2 ⟨j - (i + 1), ?_⟩)⟩
    · rw [htext, List.getElem?_append_right (List.length_take_le i text), List.length_take,
        Nat.min_eq_left (Nat.le_of_lt hlt), Nat.sub_self]
      rfl
    · rw [List.getElem?_drop, show i + 1 + (j - (i + 1)) = j by omega, hd]

/-- A text has no separator, or ends in one, or something stands behind its last one. -/
theorem separator_cases (text : List Char) : (∀ c ∈ text, isSeparator c = false) ∨
    (∃ c, text.getLast? = some c ∧ isSeparator c = true) ∨
    ∃ i c, IsLastSeparator text i c ∧ i + 1 < text.length := by
  cases hsplit : splitLast text with
  | none => exact .inl (splitLast_eq_none_iff.1 hsplit)
  | some cut =>
    obtain ⟨before, c, after⟩ := cut
    obtain ⟨rfl, hseparator, -⟩ := splitLast_eq_some_iff.1 hsplit
    refine .inr ?_
    cases after with
    | nil => exact .inl ⟨c, List.getLast?_concat, hseparator⟩
    | cons d after =>
      refine .inr ⟨before.length, c, isLastSeparator_iff.2 ?_, by simp⟩
      rw [hsplit, List.take_left', List.drop_append, List.drop_eq_nil_of_le (Nat.le_succ _)]
      · simp
      · rfl

/-! ## What is reported -/

/-- A text with a defect is reported for its first one. -/
theorem readChars_of_isFirstDefect (h : IsFirstDefect text i c) :
    readChars text = .error (defectError c (i + 1)) := by
  have hempty : text.isEmpty = false := by
    refine Bool.eq_false_iff.2 fun hempty => ?_
    have hchar := h.isDefect.char
    rw [List.isEmpty_iff.1 hempty] at hchar
    cases hchar
  rw [readChars, hempty, firstDefect_eq_some_iff.2 ⟨i, c, h, rfl⟩]
  rfl

/-- A text without a defect is read by its last separator. -/
theorem readChars_of_clean (hne : text ≠ []) (hclean : ∀ i c, ¬ IsDefect text i c) :
    readChars text =
      match splitLast text with
      | none => .error .bareName
      | some (_, _, []) => .error .missingExport
      | some (before, separator, after) =>
        if separator ≠ '.' then .error (.undotted (before.length + 1))
        else if !Text.isName (String.ofList after) then
          .error (.badExport (String.ofList after) (before.length + 2))
        else .ok ⟨String.ofList before, String.ofList after⟩ := by
  rw [readChars, firstDefect_eq_none_iff.2 hclean]
  exact if_neg (by simpa using hne)

/-- Without a separator, it is a bare name. -/
theorem readChars_of_noSeparator (hne : text ≠ []) (hclean : ∀ i c, ¬ IsDefect text i c)
    (hnone : ∀ c ∈ text, isSeparator c = false) : readChars text = .error .bareName := by
  rw [readChars_of_clean hne hclean, splitLast_eq_none_iff.2 hnone]

/-- Where it ends in a separator, it has no export. -/
theorem readChars_of_getLast? (hclean : ∀ i c, ¬ IsDefect text i c) (hlast : text.getLast? = some c)
    (hseparator : isSeparator c = true) : readChars text = .error .missingExport := by
  obtain ⟨before, rfl⟩ := List.getLast?_eq_some_iff.1 hlast
  have hsplit : splitLast (before ++ [c]) = some (before, c, []) :=
    splitLast_eq_some_iff.2 ⟨rfl, hseparator, by simp⟩
  rw [readChars_of_clean (by simp) hclean, hsplit]

/-- Otherwise its last separator has to be a dot, and what stands behind that a name. -/
theorem readChars_of_isLastSeparator (hclean : ∀ i c, ¬ IsDefect text i c)
    (hlast : IsLastSeparator text i c) (hbehind : i + 1 < text.length) :
    readChars text =
      if c ≠ '.' then .error (.undotted (i + 1))
      else if !Text.isName (String.ofList (text.drop (i + 1))) then
        .error (.badExport (String.ofList (text.drop (i + 1))) (i + 2))
      else .ok ⟨String.ofList (text.take i), String.ofList (text.drop (i + 1))⟩ := by
  have hne : text ≠ [] := List.ne_nil_of_length_pos (Nat.zero_lt_of_lt hbehind)
  have htake : (text.take i).length = i := by
    rw [List.length_take]
    omega
  obtain ⟨d, rest, hdrop⟩ : ∃ d rest, text.drop (i + 1) = d :: rest :=
    List.exists_cons_of_ne_nil (by simpa using hbehind)
  rw [readChars_of_clean hne hclean, isLastSeparator_iff.1 hlast, hdrop]
  dsimp only
  rw [htake]

/-- What reading reports of a text is what is to be reported of it. -/
theorem reports_of_readChars (h : readChars text = .error e) : Reports text e := by
  by_cases hne : text = []
  · subst hne
    cases h
    exact .empty rfl
  cases hdefect : firstDefect true 1 text with
  | some e' =>
    obtain ⟨i, c, hfirst, rfl⟩ := firstDefect_eq_some_iff.1 hdefect
    rw [readChars_of_isFirstDefect hfirst, Except.error.injEq] at h
    subst h
    rw [defectError]
    split
    · next hblank => exact .blank hfirst hblank
    · next hblank => exact .emptyPart hfirst (hfirst.isDefect.bad.resolve_left hblank).1
  | none =>
    have hclean := firstDefect_eq_none_iff.1 hdefect
    rcases separator_cases text with hnone | ⟨c, hlast, hseparator⟩ | ⟨i, c, hlast, hbehind⟩
    · rw [readChars_of_noSeparator hne hclean hnone, Except.error.injEq] at h
      exact h ▸ .bareName hne hclean hnone
    · rw [readChars_of_getLast? hclean hlast hseparator, Except.error.injEq] at h
      exact h ▸ .missingExport hclean hlast hseparator
    · rw [readChars_of_isLastSeparator hclean hlast hbehind] at h
      split at h
      · next hdot =>
        cases h
        have hseparator := hlast.isSeparator
        rw [isSeparator, Bool.or_eq_true, beq_iff_eq, beq_iff_eq] at hseparator
        obtain rfl := hseparator.resolve_right hdot
        exact .undotted hclean hlast hbehind
      · next hdot =>
        obtain rfl := Decidable.not_not.1 hdot
        split at h
        · next hname =>
          cases h
          exact .badExport hclean hlast hbehind (by simpa using hname)
        · cases h

/-- **What is reported of a text that is no reference** is its first defect, or else what is wrong
with its last separator and with what stands behind that. -/
theorem readChars_eq_error_iff : readChars text = .error e ↔ Reports text e := by
  refine ⟨reports_of_readChars, fun h => ?_⟩
  cases h with
  | empty h => rw [h]; rfl
  | blank h hblank => rw [readChars_of_isFirstDefect h, defectError, if_pos hblank]
  | emptyPart h hseparator =>
    have hblank : ¬ Text.isBlank _ = true := fun hblank =>
      Bool.false_ne_true ((not_isSeparator_of_isBlank hblank).symm.trans hseparator)
    rw [readChars_of_isFirstDefect h, defectError, if_neg hblank]
  | missingExport hclean hlast hseparator => exact readChars_of_getLast? hclean hlast hseparator
  | bareName hne hclean hnone => exact readChars_of_noSeparator hne hclean hnone
  | undotted hclean hlast hbehind =>
    rw [readChars_of_isLastSeparator hclean hlast hbehind, if_pos (by decide)]
  | badExport hclean hlast hbehind hname =>
    rw [readChars_of_isLastSeparator hclean hlast hbehind, if_neg (by decide), hname]
    rfl

/-- The columns that are reported are those of characters of the text. -/
theorem Reports.column_le (h : Reports text e) {column : Nat} (hcolumn : e.column? = some column) :
    1 ≤ column ∧ column ≤ text.length := by
  have hplace : ∀ {j : Nat} {d : Char}, text[j]? = some d → j < text.length :=
    fun hd => (List.getElem?_eq_some_iff.1 hd).1
  cases h with
  | empty | missingExport | bareName => cases hcolumn
  | blank h | emptyPart h =>
    cases hcolumn
    exact ⟨Nat.le_add_left 1 _, hplace h.isDefect.char⟩
  | undotted _ _ hbehind =>
    cases hcolumn
    omega
  | badExport _ _ hbehind _ =>
    cases hcolumn
    omega

/-- Whether there is a defect at a place depends on the text up to that place alone. -/
theorem IsDefect.of_take {text' : List Char} (h : IsDefect text i c)
    (hsame : ∀ j ≤ i, text'[j]? = text[j]?) : IsDefect text' i c := by
  refine ⟨(hsame i (Nat.le_refl i)).trans h.char, h.bad.imp_right fun hsep => ⟨hsep.1, ?_⟩⟩
  refine hsep.2.imp_right fun hbefore => ?_
  rw [hsame (i - 1) (Nat.sub_le i 1)]
  exact hbefore

/-- So a first defect is one whatever follows it. -/
theorem IsFirstDefect.take_append (h : IsFirstDefect text i c) (more : List Char) :
    IsFirstDefect (text.take (i + 1) ++ more) i c := by
  have hlt : i < text.length := (List.getElem?_eq_some_iff.1 h.isDefect.char).1
  have hsame : ∀ j ≤ i, (text.take (i + 1) ++ more)[j]? = text[j]? := by
    intro j hj
    rw [List.getElem?_append_left (by rw [List.length_take]; omega), List.getElem?_take,
      if_pos (by omega)]
  refine ⟨h.isDefect.of_take hsame, fun j d hj hdefect => h.first j d hj ?_⟩
  exact hdefect.of_take fun k hk => (hsame k (by omega)).symm

/-- What reading reports of texts that are no references. -/
structure DefectLaw (text : String) : Prop where
  /-- A text is no reference iff something is reported of it, and this is what reading reports. -/
  reported : ∀ e, read text = .error e ↔ Reports text.toList e
  /-- A first defect is reported, whatever follows it. -/
  regardless : ∀ i c, IsFirstDefect text.toList i c → ∀ more : List Char,
    read (String.ofList (text.toList.take (i + 1) ++ more)) = .error (defectError c (i + 1))
  /-- The column, where there is one, is that of a character of the text. -/
  column : ∀ e column, read text = .error e → e.column? = some column →
    1 ≤ column ∧ column ≤ text.length

/-- **Reading reports the first defect of a text**, and of a text without one what is wrong with its
last separator and with what stands behind that. -/
theorem read_firstDefect (text : String) : DefectLaw text := by
  refine ⟨fun e => readChars_eq_error_iff, fun i c h more => ?_, fun e column h hcolumn => ?_⟩
  · rw [read, String.toList_ofList]
    exact readChars_of_isFirstDefect (h.take_append more)
  · rw [← String.length_toList]
    exact (readChars_eq_error_iff.1 h).column_le hcolumn

end HandlerPipeline.Reference

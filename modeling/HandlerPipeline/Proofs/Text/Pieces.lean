import HandlerPipeline.Reference

/-!
# Pieces and parts

A piece holds no separator and nothing that was not in the text (`Text.of_mem_pieces`). So the parts
of a module path are found again in its dotted name (`ModulePath.splitOn_dotted`), which holds no
other characters than the path and the dot. At each separator the pieces of a text fall apart into
those before and those behind it (`Text.pieces_append`), and what is put behind the text goes to its
last piece (`Text.pieces_append_of_not_separates`). Between single separators of one kind there are
no other pieces than the texts that it joins (`Text.pieces_eq_iff`). A text that is cut at the last
one of a character is cut where none follows (`Text.cutLast_eq_some_iff`), and one that is trimmed
begins and ends with a character that stays (`Text.trimEnds_eq_iff`).
-/

namespace HandlerPipeline

namespace Text

variable {separates : Char → Bool} {text : List Char}

/-- A text has a last piece. -/
theorem exists_pieces_eq_concat : ∃ fronts back, pieces separates text = fronts ++ [back] :=
  ⟨_, _, (List.dropLast_concat_getLast pieces_ne_nil).symm⟩

/-- The characters of a piece are characters of the text, and none of them separates. -/
theorem of_mem_pieces {piece : List Char} (h : piece ∈ pieces separates text) :
    ∀ c ∈ piece, c ∈ text ∧ separates c = false := by
  induction text generalizing piece with
  | nil =>
    rw [pieces, List.mem_singleton] at h
    simp [h]
  | cons d rest ih =>
    have inRest : ∀ {q : List Char}, q ∈ pieces separates rest →
        ∀ c ∈ q, c ∈ d :: rest ∧ separates c = false :=
      fun hq c hc => ⟨List.mem_cons_of_mem _ (ih hq c hc).1, (ih hq c hc).2⟩
    unfold pieces at h
    split at h
    · rcases List.mem_cons.1 h with rfl | h
      · simp
      · exact inRest h
    next hd =>
    have hself : d ∈ d :: rest ∧ separates d = false := ⟨.head _, Bool.eq_false_iff.2 hd⟩
    split at h
    · next hnil => exact absurd hnil pieces_ne_nil
    next first others hfirst =>
    rcases List.mem_cons.1 h with rfl | h
    · intro c hc
      rcases List.mem_cons.1 hc with rfl | hc
      · exact hself
      · exact inRest (by rw [hfirst]; exact .head _) c hc
    · exact inRest (by rw [hfirst]; exact .tail _ h)

/-- A text without separators is one piece. -/
theorem pieces_of_not_separates {piece : List Char} (h : ∀ c ∈ piece, separates c = false) :
    pieces separates piece = [piece] := by
  induction piece with
  | nil => rfl
  | cons c piece ih =>
    obtain ⟨hc, hpiece⟩ := List.forall_mem_cons.1 h
    rw [pieces, hc, ih hpiece]
    rfl

/-- At a separator, the pieces of a text are those before it and those behind it. -/
theorem pieces_append {front behind : List Char} {separator : Char}
    (hseparator : separates separator = true) :
    pieces separates (front ++ separator :: behind) =
      pieces separates front ++ pieces separates behind := by
  induction front with
  | nil => simp [pieces, hseparator]
  | cons c rest ih =>
    rw [List.cons_append, pieces, pieces, ih]
    split
    · rfl
    · cases hrest : pieces separates rest with
      | nil => exact absurd hrest pieces_ne_nil
      | cons piece others => rfl

/-- What stands before the first separator of a text is its first piece. -/
theorem pieces_append_cons {piece : List Char} (h : ∀ c ∈ piece, separates c = false)
    {separator : Char} (hseparator : separates separator = true) (rest : List Char) :
    pieces separates (piece ++ separator :: rest) = piece :: pieces separates rest := by
  rw [pieces_append hseparator, pieces_of_not_separates h]
  rfl

/-- There is one more piece than there are separators. -/
theorem length_pieces : (pieces separates text).length = text.countP separates + 1 := by
  induction text with
  | nil => rfl
  | cons c rest ih =>
    rw [pieces]
    split
    · next hc => rw [List.length_cons, ih, List.countP_cons_of_pos hc]
    · next hc =>
      rw [List.countP_cons_of_neg hc, ← ih]
      cases hrest : pieces separates rest with
      | nil => exact absurd hrest pieces_ne_nil
      | cons piece others => rfl

/-- The pieces stay the same when each separator is exchanged for one of another kind. -/
theorem pieces_map {separates' : Char → Bool} {f : Char → Char}
    (hseparates : ∀ c ∈ text, separates' (f c) = separates c)
    (hkept : ∀ c ∈ text, separates c = false → f c = c) :
    pieces separates' (text.map f) = pieces separates text := by
  induction text with
  | nil => rfl
  | cons c rest ih =>
    obtain ⟨hc, hrest⟩ := List.forall_mem_cons.1 hseparates
    obtain ⟨hkeep, hkeeprest⟩ := List.forall_mem_cons.1 hkept
    rw [List.map_cons, pieces, pieces, hc, ih hrest hkeeprest]
    split
    · rfl
    · next hnot => rw [hkeep (Bool.eq_false_iff.2 hnot)]

/-- Characters that do not separate go to the last piece of the text before them. -/
theorem pieces_append_of_not_separates {behind last : List Char} {above : List (List Char)}
    (h : ∀ c ∈ behind, separates c = false) (hpieces : pieces separates text = above ++ [last]) :
    pieces separates (text ++ behind) = above ++ [last ++ behind] := by
  induction text generalizing above last with
  | nil =>
    obtain ⟨rfl, hlast⟩ : above = [] ∧ [last] = [[]] := by
      rw [pieces] at hpieces
      cases above with
      | nil => exact ⟨rfl, hpieces.symm⟩
      | cons piece others => simp at hpieces
    cases hlast
    exact pieces_of_not_separates h
  | cons c rest ih =>
    rw [List.cons_append]
    unfold pieces at hpieces ⊢
    split at hpieces
    · next hc =>
      rw [if_pos hc]
      cases above with
      | nil => exact absurd (List.cons.inj hpieces).2 pieces_ne_nil
      | cons piece above =>
        obtain ⟨rfl, hrest⟩ := List.cons.inj hpieces
        rw [ih hrest]
        rfl
    · next hc =>
      rw [if_neg hc]
      split at hpieces
      · next hnil => exact absurd hnil pieces_ne_nil
      · next piece others hrest =>
        cases above with
        | nil =>
          cases hpieces
          rw [@ih _ [] hrest]
          rfl
        | cons first above =>
          obtain ⟨rfl, rfl⟩ := List.cons.inj hpieces
          rw [@ih _ (piece :: above) hrest]
          rfl

/-- Texts without separators that were joined by one are the pieces of what was joined. -/
theorem pieces_intercalate {separator : Char} {texts : List (List Char)}
    (hseparator : separates separator = true)
    (hfree : ∀ t ∈ texts, ∀ c ∈ t, separates c = false) (hne : texts ≠ []) :
    pieces separates ([separator].intercalate texts) = texts := by
  induction texts with
  | nil => exact absurd rfl hne
  | cons t rest ih =>
    obtain ⟨ht, hrest⟩ := List.forall_mem_cons.1 hfree
    cases rest with
    | nil => simpa using pieces_of_not_separates ht
    | cons next rest =>
      rw [List.intercalate_cons_cons, List.append_assoc, List.singleton_append,
        pieces_append_cons ht hseparator, ih hrest (List.cons_ne_nil _ _)]

/-- Where every separator becomes one character, the text becomes its pieces, joined by that
character. -/
theorem map_eq_intercalate_pieces {f : Char → Char} {joint : Char}
    (h : ∀ c, separates c = true → f c = joint) (text : List Char) :
    text.map f = [joint].intercalate ((pieces separates text).map (List.map f)) := by
  induction text with
  | nil => simp [pieces]
  | cons c rest ih =>
    obtain ⟨piece, others, hrest⟩ := List.exists_cons_of_ne_nil (@pieces_ne_nil separates rest)
    rw [List.map_cons, ih, pieces, hrest]
    split
    · next hc => simp [h c hc, List.intercalate_cons_cons]
    · cases others <;> simp [List.intercalate_cons_cons]

/-- Pieces are what a separator joins, and they hold none of it. -/
theorem pieces_eq_iff {separator : Char} {texts : List (List Char)} :
    pieces (· == separator) text = texts ↔
      texts ≠ [] ∧ (∀ t ∈ texts, separator ∉ t) ∧ text = [separator].intercalate texts := by
  constructor
  · rintro rfl
    refine ⟨pieces_ne_nil, fun t ht hmem => ?_, ?_⟩
    · simpa using (of_mem_pieces ht separator hmem).2
    · have hjoined := @map_eq_intercalate_pieces (· == separator) id separator
        (fun c hc => beq_iff_eq.1 hc) text
      rwa [List.map_id, List.map_id_fun, List.map_id] at hjoined
  · rintro ⟨hne, hfree, rfl⟩
    exact pieces_intercalate (beq_self_eq_true _)
      (fun t ht c hc => beq_eq_false_iff_ne.2 fun heq => hfree t ht (heq ▸ hc)) hne

/-- A text is not cut where it does not hold the character. -/
theorem cutLast_eq_none_iff {cut : Char} : cutLast cut text = none ↔ cut ∉ text := by
  induction text with
  | nil => simp [cutLast]
  | cons c rest ih =>
    rw [cutLast, List.mem_cons, not_or, ← ih]
    split
    · next hrest => simp [hrest]
    · next hrest =>
      rw [ite_eq_right_iff]
      simp [hrest, eq_comm]

/-- A text is cut at the last one of a character: there is none behind the cut. -/
theorem cutLast_eq_some_iff {cut : Char} {before behind : List Char} :
    cutLast cut text = some (before, behind) ↔ text = before ++ cut :: behind ∧ cut ∉ behind := by
  induction text generalizing before behind with
  | nil => simp [cutLast]
  | cons c rest ih =>
    rw [cutLast]
    split
    · next front back hrest =>
      have hcut : cut ∈ rest := by
        rw [(ih.1 hrest).1]
        simp
      constructor
      · rintro ⟨⟩
        obtain ⟨rfl, hback⟩ := ih.1 hrest
        exact ⟨rfl, hback⟩
      · rintro ⟨htext, hbehind⟩
        cases before with
        | nil =>
          cases htext
          exact absurd hcut hbehind
        | cons d front' =>
          cases htext
          rw [ih.2 ⟨rfl, hbehind⟩] at hrest
          cases hrest
          rfl
    · next hrest =>
      rw [cutLast_eq_none_iff] at hrest
      constructor
      · intro h
        split at h
        · next hc =>
          cases h
          exact ⟨by rw [hc]; rfl, hrest⟩
        · cases h
      · rintro ⟨htext, hbehind⟩
        cases before with
        | nil =>
          cases htext
          rw [if_pos rfl]
        | cons d front' =>
          cases htext
          exact absurd (by simp) hrest

/-- A text is dropped up to the first character that does not satisfy `drops`. -/
theorem dropWhile_eq_iff {drops : Char → Bool} {core : List Char} :
    text.dropWhile drops = core ↔
      (∃ front, text = front ++ core ∧ ∀ c ∈ front, drops c = true) ∧
        ∀ c ∈ core.head?, drops c = false := by
  constructor
  · rintro rfl
    refine ⟨⟨text.takeWhile drops, List.takeWhile_append_dropWhile.symm,
      List.all_eq_true.1 List.all_takeWhile⟩, fun c hc => ?_⟩
    have hfirst := List.head?_dropWhile_not drops text
    rwa [Option.mem_def.1 hc] at hfirst
  · rintro ⟨⟨front, rfl, hfront⟩, hhead⟩
    rw [List.dropWhile_append_of_pos hfront]
    cases core with
    | nil => rfl
    | cons c rest => exact List.dropWhile_cons_of_neg (Bool.eq_false_iff.1 (hhead c rfl))

/-- A text without what is trimmed off its two ends begins and ends with nothing of that kind. -/
theorem trimEnds_eq_iff {trims : Char → Bool} {core : List Char} :
    trimEnds trims text = core ↔
      (∃ front behind, text = front ++ core ++ behind ∧ (∀ c ∈ front, trims c = true) ∧
        ∀ c ∈ behind, trims c = true) ∧
      (∀ c ∈ core.head?, trims c = false) ∧ ∀ c ∈ core.getLast?, trims c = false := by
  constructor
  · intro h
    obtain ⟨⟨front, htext, hfront⟩, hhead⟩ := dropWhile_eq_iff.1 (Eq.refl (text.dropWhile trims))
    obtain ⟨⟨back, hrest, hback⟩, hlast⟩ := dropWhile_eq_iff.1 (List.reverse_eq_iff.1 h)
    have hcore : text.dropWhile trims = core ++ back.reverse := by
      rw [List.reverse_eq_iff.1 hrest, List.reverse_append, List.reverse_reverse]
    refine ⟨⟨front, back.reverse, ?_, hfront, by simpa using hback⟩, fun c hc => hhead c ?_, ?_⟩
    · rwa [List.append_assoc, ← hcore]
    · rw [hcore, List.head?_append, Option.mem_def.1 hc]
      rfl
    · rwa [List.head?_reverse] at hlast
  · rintro ⟨⟨front, behind, rfl, hfront, hbehind⟩, hhead, hlast⟩
    cases core with
    | nil =>
      have hall : (front ++ [] ++ behind).dropWhile trims = [] :=
        dropWhile_eq_iff.2 ⟨⟨front ++ behind, by simp, List.forall_mem_append.2 ⟨hfront, hbehind⟩⟩,
          by simp⟩
      rw [trimEnds, hall]
      rfl
    | cons c rest =>
      have hstart : (front ++ c :: rest ++ behind).dropWhile trims = c :: rest ++ behind :=
        dropWhile_eq_iff.2 ⟨⟨front, List.append_assoc _ _ _, hfront⟩, by simpa using hhead⟩
      have hend : (c :: rest ++ behind).reverse.dropWhile trims = (c :: rest).reverse :=
        dropWhile_eq_iff.2 ⟨⟨behind.reverse, List.reverse_append, by simpa using hbehind⟩,
          by rwa [List.head?_reverse]⟩
      rw [trimEnds, hstart, hend, List.reverse_reverse]

/-- The characters of texts that were joined are those of the texts and of what joins them. -/
theorem of_mem_intercalate {joint : List Char} {texts : List (List Char)} {c : Char}
    (h : c ∈ joint.intercalate texts) : c ∈ joint ∨ ∃ t ∈ texts, c ∈ t := by
  induction texts with
  | nil => simp at h
  | cons t rest ih =>
    cases rest with
    | nil => exact .inr ⟨t, .head _, by simpa using h⟩
    | cons next rest =>
      rw [List.intercalate_cons_cons, List.mem_append, List.mem_append] at h
      rcases h with (h | h) | h
      · exact .inr ⟨t, .head _, h⟩
      · exact .inl h
      · rcases ih h with h | ⟨u, hu, h⟩
        · exact .inl h
        · exact .inr ⟨u, .tail _ hu, h⟩

/-- Texts that were joined by a character none of them holds are cut apart again. -/
theorem splitOn_intercalate {c : Char} {texts : List String} (h : ∀ t ∈ texts, c ∉ t.toList)
    (hne : texts ≠ []) :
    (((String.singleton c).intercalate texts).toList.splitOn c).map String.ofList = texts := by
  have hfree : ∀ t ∈ texts.map String.toList, c ∉ t := by
    intro _ hmem
    obtain ⟨t, ht, rfl⟩ := List.mem_map.1 hmem
    exact h t ht
  rw [String.toList_intercalate, String.toList_singleton,
    List.splitOn_intercalate c hfree (by simpa using hne), List.map_map]
  simp [Function.comp_def]

end Text

namespace ModulePath

variable {path : String}

/-- A module path has at least one part. -/
theorem parts_ne_nil : parts path ≠ [] := by
  simp [parts, Text.pieces_ne_nil]

/-- The last part of a module path is behind all the others. -/
theorem exists_parts_eq_concat : ∃ above last, parts path = above ++ [last] :=
  ⟨_, _, (List.dropLast_concat_getLast parts_ne_nil).symm⟩

/-- The separators of a text are its slashes and its dots. -/
theorem countP_isSeparator {text : List Char} :
    text.countP isSeparator = text.countP (· == '/') + text.countP (· == '.') := by
  induction text with
  | nil => rfl
  | cons c rest ih =>
    rw [List.countP_cons, List.countP_cons, List.countP_cons, ih, isSeparator]
    by_cases hslash : c = '/'
    · subst hslash
      simp
      omega
    · by_cases hdot : c = '.'
      · subst hdot
        simp
        omega
      · simp [hslash, hdot]

/-- A module path has one part more than slashes and dots. -/
theorem length_parts :
    (parts path).length = path.toList.countP (· == '/') + path.toList.countP (· == '.') + 1 := by
  rw [parts, List.length_map, Text.length_pieces, countP_isSeparator]

/-- The parts of a path without dots stand between its slashes. -/
theorem parts_of_notMem_dot (h : '.' ∉ path.toList) :
    parts path = (Text.pieces (· == '/') path.toList).map String.ofList := by
  have hsame := @Text.pieces_map isSeparator path.toList (· == '/') id
    (fun c hc => by
      have hne : c ≠ '.' := fun heq => h (heq ▸ hc)
      simp [isSeparator, hne])
    (fun _ _ _ => rfl)
  rw [List.map_id] at hsame
  rw [parts, hsame]

/-- Names without separators that were joined by dots are the parts of a path. -/
theorem parts_intercalate {names : List String}
    (h : ∀ name ∈ names, ∀ c ∈ name.toList, isSeparator c = false) (hne : names ≠ []) :
    parts (".".intercalate names) = names := by
  have hfree : ∀ t ∈ names.map String.toList, ∀ c ∈ t, isSeparator c = false :=
    List.forall_mem_map.2 h
  have hdot : ".".toList = ['.'] := rfl
  have hnil : names.map String.toList ≠ [] := by simpa using hne
  rw [parts, String.toList_intercalate, hdot, Text.pieces_intercalate rfl hfree hnil, List.map_map]
  simp [Function.comp_def]

/-- The characters of a part are characters of the path other than the separators. -/
theorem of_mem_parts {part : String} (h : part ∈ parts path) :
    ∀ c ∈ part.toList, c ∈ path.toList ∧ isSeparator c = false := by
  obtain ⟨piece, hpiece, rfl⟩ := List.mem_map.1 h
  rw [String.toList_ofList]
  exact Text.of_mem_pieces hpiece

/-- Where no part is empty, all parts name components. -/
theorem components_eq_parts_of_notMem (h : "" ∉ parts path) : components path = parts path := by
  rw [components, List.filter_eq_self]
  exact fun part hpart => decide_eq_true fun hempty => h (hempty ▸ hpart)

/-- The characters of a dotted name are those of the path and the dot. -/
theorem of_mem_dotted {c : Char} (h : c ∈ (dotted path).toList) : c ∈ path.toList ∨ c = '.' := by
  rw [dotted, String.toList_intercalate] at h
  rcases Text.of_mem_intercalate h with h | ⟨_, hmem, h⟩
  · exact .inr (by simpa using h)
  · obtain ⟨part, hpart, rfl⟩ := List.mem_map.1 hmem
    exact .inl (of_mem_parts hpart c h).1

/-- **The parts of a path are those of its dotted name.** -/
theorem splitOn_dotted (path : String) :
    ((dotted path).toList.splitOn '.').map String.ofList = parts path := by
  have hdot : ∀ part ∈ parts path, '.' ∉ part.toList := by
    intro part hpart hmem
    exact absurd (of_mem_parts hpart '.' hmem).2 (by decide)
  exact Text.splitOn_intercalate hdot parts_ne_nil

end ModulePath

end HandlerPipeline

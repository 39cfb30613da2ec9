import HandlerPipeline.Proofs.Text.Lines
import Mathlib.Data.List.Basic
import Mathlib.Data.List.TakeWhile

/-!
# Encoding declarations

A source can say in which encoding it is to be read: by a comment in its first line, or in its
second where the first holds nothing else. The comment declares an encoding by the word `coding`, a
colon or an equals sign behind it, and a name. What stands around the declaration does not matter,
so a comment that takes a text from outside may declare one without meaning to, and quoting the text
does not prevent it (`isDeclaring_quoted_iff`).
-/

namespace HandlerPipeline.Text

/-! ## The reader -/

/-- The character may stand in the name of an encoding. -/
def isEncodingPart (c : Char) : Bool := c.isAlphanum || c == '-' || c == '_' || c == '.'

/-- The character may stand between a declaration's mark and its name. -/
def isGap (c : Char) : Bool := c == ' ' || c == '\t'

/-- The word that declares an encoding. -/
def declaringWord : List Char := ['c', 'o', 'd', 'i', 'n', 'g']

/-- The name of an encoding behind the declaring word: a mark, blanks, and a name of one character
at least. -/
def encodingName? : List Char → Option (List Char)
  | [] => none
  | mark :: rest =>
    if mark = ':' ∨ mark = '=' then
      match (rest.dropWhile isGap).takeWhile isEncodingPart with
      | [] => none
      | name => some name
    else none

/-- The encoding that a comment declares: the first one, if there are several. -/
def declared? : List Char → Option (List Char)
  | [] => none
  | c :: rest =>
    match (declaringWord.isPrefixOf? (c :: rest)).bind encodingName? with
    | some name => some name
    | none => declared? rest

/-- The line from where it is no longer indented. -/
def unindented (line : List Char) : List Char :=
  line.dropWhile fun c => c == ' ' || c == '\t' || c == '\x0c'

/-- The encoding that a line of source declares, if it is a comment. -/
def declaredByLine? (line : List Char) : Option (List Char) :=
  match unindented line with
  | '#' :: comment => declared? comment
  | _ => none

/-- The line holds no code: it is empty, or a comment. -/
def isBare (line : List Char) : Bool := (unindented line).head?.all (· == '#')

/-- The lines of a source as it is read from a file: they end at line feeds and returns only, and a
return and the line feed behind it are one end. -/
def physicalLines : List Char → List (List Char)
  | [] => [[]]
  | '\r' :: '\n' :: rest => [] :: physicalLines rest
  | c :: rest =>
    if c = '\n' ∨ c = '\r' then [] :: physicalLines rest
    else
      match physicalLines rest with
      | [] => [[c]]
      | line :: others => (c :: line) :: others

/-- The encoding that a source declares. -/
def declaredEncoding? (source : List Char) : Option (List Char) :=
  match physicalLines source with
  | [] => none
  | first :: others =>
    match declaredByLine? first with
    | some name => some name
    | none => if isBare first then others.head?.bind declaredByLine? else none

/-- What stands before the first line feed of a source is its first line, if it holds no line
boundary. -/
theorem physicalLines_append_newline {line : List Char} (h : InOneLine line) (rest : List Char) :
    physicalLines (line ++ '\n' :: rest) = line :: physicalLines rest := by
  induction line with
  | nil => rfl
  | cons c line ih =>
    obtain ⟨hc, hline⟩ := List.forall_mem_cons.1 h
    have hend : ¬ (c = '\n' ∨ c = '\r') := by
      rintro (rfl | rfl) <;> exact absurd hc (by decide)
    rw [List.cons_append, physicalLines, if_neg hend, ih hline]
    rintro _ rfl
    exact absurd (.inr rfl) hend

/-! ## Declarations -/

/-- The text is what stands behind the first letter of a declaration, with blanks of the given
kind: the rest of the word, a mark, blanks, and the first character of a name. -/
def Declares (blank : Char → Bool) (behind : List Char) : Prop :=
  ∃ mark blanks d after,
    behind = declaringWord.tail ++ mark :: (blanks ++ d :: after) ∧
    (mark = ':' ∨ mark = '=') ∧ (∀ b ∈ blanks, blank b = true) ∧ isEncodingPart d = true

/-- The comment holds a declaration. -/
def IsDeclaring (comment : List Char) : Prop :=
  ∃ before behind, comment = before ++ 'c' :: behind ∧ Declares isGap behind

/-- No character of a name is taken for a blank in front of it. -/
theorem not_isGap_of_isEncodingPart {c : Char} (h : isEncodingPart c = true) : isGap c = false := by
  rw [Bool.eq_false_iff]
  intro hgap
  simp only [isGap, Bool.or_eq_true, beq_iff_eq] at hgap
  rcases hgap with rfl | rfl <;> exact absurd h (by decide)

/-- A text begins with a name behind blanks iff the reader finds one. -/
theorem takeWhile_dropWhile_ne_nil_iff {text : List Char} :
    (text.dropWhile isGap).takeWhile isEncodingPart ≠ [] ↔
      ∃ blanks d after, text = blanks ++ d :: after ∧ (∀ b ∈ blanks, isGap b = true) ∧
        isEncodingPart d = true := by
  constructor
  · intro h
    refine ⟨text.takeWhile isGap, ?_⟩
    cases hrest : text.dropWhile isGap with
    | nil => simp [hrest] at h
    | cons d after =>
      have hd : isEncodingPart d = true := by
        by_contra hd
        simp [hrest, hd] at h
      refine ⟨d, after, ?_, fun b hb => List.mem_takeWhile_imp hb, hd⟩
      rw [← hrest, List.takeWhile_append_dropWhile]
  · rintro ⟨blanks, d, after, rfl, hblanks, hd⟩
    have hgap := not_isGap_of_isEncodingPart hd
    rw [List.dropWhile_append_of_pos hblanks, List.dropWhile_cons_of_neg (by simp [hgap]),
      List.takeWhile_cons_of_pos hd]
    exact List.cons_ne_nil _ _

/-- The reader finds a name behind the declaring word iff a mark, blanks and a name stand there. -/
theorem isSome_encodingName?_iff {text : List Char} : (encodingName? text).isSome = true ↔
    ∃ mark blanks d after, text = mark :: (blanks ++ d :: after) ∧ (mark = ':' ∨ mark = '=') ∧
      (∀ b ∈ blanks, isGap b = true) ∧ isEncodingPart d = true := by
  cases text with
  | nil => simp [encodingName?]
  | cons mark rest =>
    have hname : (encodingName? (mark :: rest)).isSome = true ↔ (mark = ':' ∨ mark = '=') ∧
        (rest.dropWhile isGap).takeWhile isEncodingPart ≠ [] := by
      rw [encodingName?]
      split
      · next hmark => split <;> simp_all
      · next hmark => simp [hmark]
    rw [hname, takeWhile_dropWhile_ne_nil_iff]
    constructor
    · rintro ⟨hmark, blanks, d, after, rfl, hblanks, hd⟩
      exact ⟨mark, blanks, d, after, rfl, hmark, hblanks, hd⟩
    · rintro ⟨_, blanks, d, after, heq, hmark, hblanks, hd⟩
      cases heq
      exact ⟨hmark, blanks, d, after, rfl, hblanks, hd⟩

/-- A declaration stands at the start of a text iff its first letter does, and the others behind. -/
theorem isSome_bind_isPrefixOf?_iff {c : Char} {rest : List Char} :
    ((declaringWord.isPrefixOf? (c :: rest)).bind encodingName?).isSome = true ↔
      c = 'c' ∧ Declares isGap rest := by
  have hprefix : ∀ {behind}, declaringWord.isPrefixOf? (c :: rest) = some behind ↔
      c = 'c' ∧ rest = declaringWord.tail ++ behind := by
    intro behind
    rw [List.isPrefixOf?_eq_some_iff_append_eq, declaringWord, List.cons_append, List.cons.injEq,
      List.tail_cons, eq_comm, eq_comm (a := rest)]
  simp only [Option.isSome_bind, Option.any_eq_true, hprefix, isSome_encodingName?_iff]
  constructor
  · rintro ⟨_, ⟨rfl, rfl⟩, mark, blanks, d, after, rfl, h⟩
    exact ⟨rfl, mark, blanks, d, after, rfl, h⟩
  · rintro ⟨rfl, mark, blanks, d, after, rfl, h⟩
    exact ⟨_, ⟨rfl, rfl⟩, mark, blanks, d, after, rfl, h⟩

/-- A comment holds a declaration iff one stands at its start, or behind. -/
theorem isDeclaring_cons {c : Char} {rest : List Char} :
    IsDeclaring (c :: rest) ↔ (c = 'c' ∧ Declares isGap rest) ∨ IsDeclaring rest := by
  constructor
  · rintro ⟨before, behind, heq, h⟩
    cases before with
    | nil =>
      cases heq
      exact .inl ⟨rfl, h⟩
    | cons _ before =>
      cases heq
      exact .inr ⟨before, behind, rfl, h⟩
  · rintro (⟨rfl, h⟩ | ⟨before, behind, rfl, h⟩)
    · exact ⟨[], rest, rfl, h⟩
    · exact ⟨c :: before, behind, rfl, h⟩

/-- **The reader finds a declaration in a comment iff the comment holds one.** -/
theorem isSome_declared?_iff {comment : List Char} :
    (declared? comment).isSome = true ↔ IsDeclaring comment := by
  induction comment with
  | nil => simp [declared?, IsDeclaring]
  | cons c rest ih =>
    rw [isDeclaring_cons, ← ih, ← isSome_bind_isPrefixOf?_iff, declared?]
    split
    · next h => simp [h]
    · next h => simp [h]

/-- A declaration in a text behind another one stands in the latter, unless its first letter is the
last of the former. -/
theorem isDeclaring_append {before behind : List Char} (h : ¬ ['c', 'o'] <:+: before) :
    IsDeclaring (before ++ behind) ↔
      (before.getLast? = some 'c' ∧ Declares isGap behind) ∨ IsDeclaring behind := by
  induction before with
  | nil => simp
  | cons c before ih =>
    rw [List.cons_append, isDeclaring_cons, ih fun hmem => h (List.infix_cons hmem)]
    cases before with
    | nil => simp
    | cons d before =>
      have hnone : ¬ (c = 'c' ∧ Declares isGap (d :: before ++ behind)) := by
        rintro ⟨rfl, mark, blanks, e, after, heq, -⟩
        obtain rfl : d = 'o' := (List.cons.inj heq).1
        exact h ⟨[], before, rfl⟩
      rw [List.getLast?_cons_cons, or_iff_right hnone]

/-! ## Declarations in a literal -/

/-- The character stands in a literal as a text that ends in the letter `c`: it is that letter, or
it is written by its code, and the last digit of the code is that letter. -/
def EndsInC (c : Char) : Prop := c = 'c' ∨ isPrintable c = false ∧ c.toNat % 16 = 12

/-- The text holds what is a declaration once the text stands in a literal. There a tab is written
by its escape, so it is no blank. -/
def HoldsDeclaration (text : List Char) : Prop :=
  ∃ before c behind, text = before ++ c :: behind ∧ EndsInC c ∧ Declares (· == ' ') behind

/-- A text holds a declaration iff one stands at its start, or behind. -/
theorem holdsDeclaration_cons {c : Char} {rest : List Char} :
    HoldsDeclaration (c :: rest) ↔
      (EndsInC c ∧ Declares (· == ' ') rest) ∨ HoldsDeclaration rest := by
  constructor
  · rintro ⟨before, _, behind, heq, h⟩
    cases before with
    | nil =>
      cases heq
      exact .inl h
    | cons _ before =>
      cases heq
      exact .inr ⟨before, _, behind, rfl, h⟩
  · rintro (h | ⟨before, _, behind, rfl, h⟩)
    · exact ⟨[], c, rest, rfl, h⟩
    · exact ⟨c :: before, _, behind, rfl, h⟩

/-- The last digit of a code is the letter `c` iff its value is that of the digit. -/
theorem getLast?_hexDigits {k n : Nat} :
    (hexDigits (k + 1) n).getLast? = some 'c' ↔ n % 16 = 12 := by
  have hdigit : ∀ d < 16, hexChar d = 'c' ↔ d = 12 := by decide
  rw [hexDigits, List.getLast?_concat, Option.some_inj]
  exact hdigit _ (Nat.mod_lt _ (by decide))

/-- An escape by code holds no `o`, and ends in the letter `c` iff the code does. -/
theorem codeEscape_eq (c : Char) : ∃ tail, codeEscape c = '\\' :: tail ∧ 'o' ∉ tail ∧
    (tail.getLast? = some 'c' ↔ c.toNat % 16 = 12) := by
  have hdigit : ∀ d < 16, hexChar d ≠ 'o' := by decide
  have hcode : ∀ {letter : Char} {k : Nat}, letter ≠ 'o' →
      'o' ∉ letter :: hexDigits (k + 1) c.toNat ∧
        ((letter :: hexDigits (k + 1) c.toNat).getLast? = some 'c' ↔ c.toNat % 16 = 12) := by
    intro letter k hletter
    constructor
    · intro hmem
      rcases List.mem_cons.1 hmem with heq | hmem
      · exact hletter heq.symm
      · obtain ⟨d, hd, heq⟩ := exists_of_mem_hexDigits hmem
        exact hdigit d hd heq.symm
    · rw [← getLast?_hexDigits (k := k), hexDigits, ← List.cons_append, List.getLast?_concat,
        List.getLast?_concat]
  unfold codeEscape
  split
  · exact ⟨_, rfl, hcode (k := 1) (by decide)⟩
  split
  · exact ⟨_, rfl, hcode (k := 3) (by decide)⟩
  · exact ⟨_, rfl, hcode (k := 7) (by decide)⟩

/-- **A character stands in a literal as itself or as an escape.** An escape begins with a
backslash and holds no `o`. -/
theorem quoteChar_cases {mark : Char} (hmark : mark = '\'' ∨ mark = '"') (c : Char) :
    (quoteChar mark c = [c] ∧ isPrintable c = true ∧ c ≠ '\\') ∨
      ∃ tail, quoteChar mark c = '\\' :: tail ∧ 'o' ∉ tail ∧
        (tail.getLast? = some 'c' ↔ EndsInC c) := by
  have hends : ∀ {d : Char}, d ≠ 'c' → d ≠ 'o' → ¬ EndsInC c →
      'o' ∉ [d] ∧ ([d].getLast? = some 'c' ↔ EndsInC c) := by
    intro d hc ho hnot
    simpa [hc, hnot] using ho.symm
  unfold quoteChar
  split
  · next h =>
    refine .inr ⟨_, rfl, ?_⟩
    have hprintable : isPrintable c = true ∧ c ≠ 'c' ∧ c ≠ 'o' := by
      rcases hmark with rfl | rfl <;> rcases h with rfl | rfl <;> decide
    exact hends hprintable.2.1 hprintable.2.2 (by simp [EndsInC, hprintable])
  next h =>
  rw [not_or] at h
  split
  · next ht => subst ht; exact .inr ⟨_, rfl, hends (by decide) (by decide) (by simp [EndsInC])⟩
  split
  · next hn => subst hn; exact .inr ⟨_, rfl, hends (by decide) (by decide) (by simp [EndsInC])⟩
  split
  · next hr => subst hr; exact .inr ⟨_, rfl, hends (by decide) (by decide) (by simp [EndsInC])⟩
  split
  · next hprintable => exact .inl ⟨rfl, hprintable, h.2⟩
  · next hprintable =>
    obtain ⟨tail, heq, ho, hlast⟩ := codeEscape_eq c
    have hc : c ≠ 'c' := by
      rintro rfl
      exact hprintable (by decide)
    refine .inr ⟨tail, heq, ho, hlast.trans ?_⟩
    simp [EndsInC, hc, hprintable]

/-- A printable character that is neither the mark nor a backslash stands in a literal as itself. -/
theorem quoteChar_of_isPrintable {mark c : Char} (hc : isPrintable c = true) (hmark : c ≠ mark)
    (hslash : c ≠ '\\') : quoteChar mark c = [c] := by
  have hnot : ∀ {d : Char}, isPrintable d = false → c ≠ d := by
    rintro d hd rfl
    exact absurd hc (by simp [hd])
  rw [quoteChar, if_neg (by simp [hmark, hslash]), if_neg (hnot (by decide +kernel)),
    if_neg (hnot (by decide +kernel)), if_neg (hnot (by decide +kernel)), if_pos hc]

/-- The inside of a literal and what stands behind it. -/
def insideAnd (mark : Char) (rest text : List Char) : List Char :=
  text.flatMap (quoteChar mark) ++ mark :: rest

section

variable {mark : Char} {rest : List Char}

/-- The inside of a literal, from its first character. -/
theorem insideAnd_cons (c : Char) (text : List Char) :
    insideAnd mark rest (c :: text) = quoteChar mark c ++ insideAnd mark rest text := by
  rw [insideAnd, insideAnd, List.flatMap_cons, List.append_assoc]

/-- **A literal begins with bare characters iff its text does**: they are no escapes, so they stand
there as themselves. -/
theorem insideAnd_eq_append_iff (hmark : mark = '\'' ∨ mark = '"') {bare behind text : List Char}
    (hbare : ∀ c ∈ bare, c ≠ mark ∧ c ≠ '\\') :
    insideAnd mark rest text = bare ++ behind ↔ (∀ c ∈ bare, isPrintable c = true) ∧
      ∃ text', text = bare ++ text' ∧ insideAnd mark rest text' = behind := by
  induction bare generalizing text with
  | nil => simp
  | cons c bare ih =>
    obtain ⟨⟨hc, hslash⟩, hbare⟩ := List.forall_mem_cons.1 hbare
    cases text with
    | nil => simp [insideAnd, hc.symm]
    | cons d text =>
      rw [insideAnd_cons]
      rcases quoteChar_cases hmark d with ⟨hd, hprintable, -⟩ | ⟨tail, hd, -⟩
      · rw [hd, List.singleton_append, List.cons_append, List.cons.injEq, ih hbare]
        constructor
        · rintro ⟨rfl, hall, text', rfl, rfl⟩
          exact ⟨List.forall_mem_cons.2 ⟨hprintable, hall⟩, text', rfl, rfl⟩
        · rintro ⟨hall, text', heq, rfl⟩
          cases heq
          exact ⟨rfl, (List.forall_mem_cons.1 hall).2, text', rfl, rfl⟩
      · constructor
        · intro heq
          rw [hd] at heq
          exact absurd (List.cons.inj heq).1.symm hslash
        · rintro ⟨hall, text', heq, -⟩
          cases heq
          rw [quoteChar_of_isPrintable (List.forall_mem_cons.1 hall).1 hc hslash] at hd
          cases hd
          exact absurd rfl hslash

/-- A character of the name of an encoding is printable, and neither a mark nor a backslash. -/
theorem isPrintable_of_isEncodingPart {c : Char} (h : isEncodingPart c = true) :
    isPrintable c = true ∧ c ≠ '\'' ∧ c ≠ '"' ∧ c ≠ '\\' := by
  have hnot : ∀ {d : Char}, isEncodingPart d = false → c ≠ d := by
    rintro d hd rfl
    exact absurd h (by simp [hd])
  have hascii : 0x20 ≤ c.toNat ∧ c.toNat ≤ 0x7e := by
    simp only [isEncodingPart, Char.isAlphanum, Bool.or_eq_true, isAlpha_iff, isDigit_iff,
      beq_iff_eq] at h
    rcases h with (((h | h) | rfl) | rfl) | rfl
    · omega
    · omega
    all_goals decide
  exact ⟨CodeRanges.has_iff.2 ⟨(0x20, 0x7e), List.mem_cons_self, hascii⟩, hnot (by decide),
    hnot (by decide), hnot (by decide)⟩

/-- No character of a declaration is a mark or a backslash, so none of it is written with a
backslash in a literal. -/
theorem ne_mark_of_mem_declaration (hmark : mark = '\'' ∨ mark = '"') {m d : Char}
    {blanks : List Char} (hm : m = ':' ∨ m = '=') (hblanks : ∀ b ∈ blanks, isGap b = true)
    (hd : isEncodingPart d = true) :
    ∀ c ∈ (declaringWord.tail ++ m :: blanks) ++ [d], c ≠ mark ∧ c ≠ '\\' := by
  have hpart := (isPrintable_of_isEncodingPart hd).2
  have hword : ∀ c ∈ declaringWord.tail, c ≠ mark ∧ c ≠ '\\' := by
    rcases hmark with rfl | rfl <;> simp [declaringWord]
  have hother : ∀ {c : Char}, c = ':' ∨ c = '=' ∨ isGap c = true → c ≠ mark ∧ c ≠ '\\' := by
    intro c hc
    simp only [isGap, Bool.or_eq_true, beq_iff_eq] at hc
    rcases hmark with rfl | rfl <;> rcases hc with rfl | rfl | rfl | rfl <;> decide
  rw [List.forall_mem_append, List.forall_mem_append, List.forall_mem_cons,
    List.forall_mem_singleton]
  refine ⟨⟨hword, hother (hm.imp_right .inl), fun b hb => ?_⟩, ?_⟩
  · exact hother (.inr (.inr (hblanks b hb)))
  rcases hmark with rfl | rfl
  · exact ⟨hpart.1, hpart.2.2⟩
  · exact hpart.2

/-- A declaration behind its first letter stands in a literal iff it does in its text: none of it
is written with a backslash, and none of it is a tab. -/
theorem declares_insideAnd_iff (hmark : mark = '\'' ∨ mark = '"') {text : List Char} :
    Declares isGap (insideAnd mark rest text) ↔ Declares (· == ' ') text := by
  have happend : ∀ (m d : Char) (blanks after : List Char),
      declaringWord.tail ++ m :: (blanks ++ d :: after) =
        ((declaringWord.tail ++ m :: blanks) ++ [d]) ++ after := by
    simp
  constructor
  · rintro ⟨m, blanks, d, after, heq, hm, hblanks, hd⟩
    rw [happend, insideAnd_eq_append_iff hmark
      (ne_mark_of_mem_declaration hmark hm hblanks hd)] at heq
    obtain ⟨hprintable, after, rfl, -⟩ := heq
    refine ⟨m, blanks, d, after, (happend ..).symm, hm, fun b hb => ?_, hd⟩
    have hgap := hblanks b hb
    rw [isGap, Bool.or_eq_true, beq_iff_eq, beq_iff_eq] at hgap
    rcases hgap with rfl | rfl
    · rfl
    · exact absurd (hprintable '\t' (by simp [hb])) (by decide +kernel)
  · rintro ⟨m, blanks, d, after, rfl, hm, hblanks, hd⟩
    have hgap : ∀ b ∈ blanks, isGap b = true := fun b hb => by simp [isGap, hblanks b hb]
    refine ⟨m, blanks, d, insideAnd mark rest after, ?_, hm, hgap, hd⟩
    rw [happend, happend,
      insideAnd_eq_append_iff hmark (ne_mark_of_mem_declaration hmark hm hgap hd)]
    refine ⟨?_, after, rfl, rfl⟩
    rw [List.forall_mem_append, List.forall_mem_append, List.forall_mem_cons,
      List.forall_mem_singleton]
    have hword : ∀ c ∈ declaringWord.tail, isPrintable c = true := List.all_eq_true.1 rfl
    refine ⟨⟨hword, by rcases hm with rfl | rfl <;> decide, fun b hb => ?_⟩,
      (isPrintable_of_isEncodingPart hd).1⟩
    rw [beq_iff_eq.1 (hblanks b hb)]
    decide

/-- **A literal holds a declaration iff its text does**, or what stands behind it. -/
theorem isDeclaring_insideAnd_iff (hmark : mark = '\'' ∨ mark = '"') {text : List Char} :
    IsDeclaring (insideAnd mark rest text) ↔ HoldsDeclaration text ∨ IsDeclaring rest := by
  induction text with
  | nil =>
    have hc : mark ≠ 'c' := by rcases hmark with rfl | rfl <;> decide
    simp [insideAnd, isDeclaring_cons, hc, HoldsDeclaration]
  | cons c text ih =>
    have hdeclares : Declares isGap (insideAnd mark rest text) ↔ Declares (· == ' ') text :=
      declares_insideAnd_iff hmark
    rw [insideAnd_cons, holdsDeclaration_cons, or_assoc, ← ih, ← hdeclares]
    rcases quoteChar_cases hmark c with ⟨hc, hprintable, -⟩ | ⟨tail, hc, ho, hlast⟩
    · simp [hc, isDeclaring_cons, EndsInC, hprintable]
    · have hescape : ¬ ['c', 'o'] <:+: '\\' :: tail := by
        rintro ⟨before, after, heq⟩
        cases before with
        | nil => cases heq
        | cons _ before =>
          rw [List.cons_append, List.cons_append, List.cons.injEq] at heq
          exact ho (heq.2 ▸ by simp)
      have hend : ('\\' :: tail).getLast? = some 'c' ↔ EndsInC c := by
        rw [← hlast]
        cases tail with
        | nil => simp
        | cons d tail => rw [List.getLast?_cons_cons]
      rw [hc, isDeclaring_append hescape, hend]

/-- **A quoted text holds a declaration iff the text itself does**, or what stands behind it:
quoting does not take declarations away, and adds those whose first letter is the last digit of a
code. -/
theorem isDeclaring_quoted_iff {text rest : List Char} :
    IsDeclaring (quoted text ++ rest) ↔ HoldsDeclaration text ∨ IsDeclaring rest := by
  have hc : quoteMark text ≠ 'c' := by rcases quoteMark_eq text with h | h <;> rw [h] <;> decide
  rw [quoted, List.cons_append, isDeclaring_cons, List.append_assoc, List.singleton_append,
    ← insideAnd, isDeclaring_insideAnd_iff (quoteMark_eq text), or_iff_right (fun h => hc h.1)]

end

end HandlerPipeline.Text

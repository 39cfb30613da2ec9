import HandlerPipeline.Reference.Grammar
import HandlerPipeline.Proofs.Reference.Defects

/-!
# The scan and the grammar

Reading a reference in one scan and reading it by its grammar come to the same (`readSentence_eq`).
The tokens of a text stand where they were lexed and hold its characters, so what the parser has
shifted is the text up to there (`Stack.IsPlaced`). It stops at a character or token the grammar does
not allow exactly where the scan finds the first defect (`agrees_run`), and the last two tokens of a
sentence are its last separator and what stands behind that.
-/

namespace HandlerPipeline.Reference

variable {part rest : List Char} {c : Char} {column : Nat}

/-! ## Segments -/

/-- Lexing a blank. -/
theorem lex_cons_of_isBlank (h : Text.isBlank c = true) :
    lex column (c :: rest) = ⟨[], some (c, column)⟩ := by
  rw [lex, if_pos h]

/-- Lexing a separator. -/
theorem lex_cons_of_isSeparator (hblank : Text.isBlank c = false) (h : isSeparator c = true) :
    lex column (c :: rest) = (lex (column + 1) rest).cons (.separator ⟨c, column⟩) := by
  rw [lex, if_neg (Bool.eq_false_iff.1 hblank), if_pos h]

/-- Lexing a character of a part. -/
theorem lex_cons_of_isPartChar (h : IsPartChar c) :
    lex column (c :: rest) = (lex (column + 1) rest).consChar c column := by
  rw [lex, if_neg (Bool.eq_false_iff.1 h.1), if_neg (Bool.eq_false_iff.1 h.2)]

/-- The text does not go on with a character of a part. -/
def IsCut : List Char → Prop
  | [] => True
  | c :: _ => Text.isBlank c = true ∨ isSeparator c = true

/-- The tokens of such a text do not begin with a segment. -/
theorem IsCut.tokens_ne (h : IsCut rest) (s : Segment) (tokens : List Token) :
    (lex column rest).tokens ≠ .segment s :: tokens := by
  cases rest with
  | nil => simp [lex]
  | cons c rest =>
    by_cases hblank : Text.isBlank c = true
    · simp [lex_cons_of_isBlank hblank]
    · simp [lex_cons_of_isSeparator (Bool.eq_false_iff.2 hblank) (h.resolve_left hblank), Lexed.cons]

/-- **A part is one segment**, where no other character of a part follows. -/
theorem lex_part (hpart : IsPart part) (hcut : IsCut rest) : ∀ {column : Nat},
    lex column (part ++ rest) =
      (lex (column + part.length) rest).cons (.segment ⟨part, column⟩) := by
  induction part with
  | nil => exact absurd rfl hpart.1
  | cons c part ih =>
    intro column
    obtain ⟨hc, hrest⟩ := List.forall_mem_cons.1 hpart.2
    have hcolumn : column + (c :: part).length = column + 1 + part.length := by
      rw [List.length_cons]
      omega
    rw [List.cons_append, lex_cons_of_isPartChar hc, hcolumn]
    by_cases hnil : part = []
    · -- The segment ends here, since the tokens behind it begin with none.
      subst hnil
      unfold Lexed.consChar
      split
      · next s tokens htokens => exact absurd htokens (hcut.tokens_ne s tokens)
      · rfl
    · rw [ih ⟨hnil, hrest⟩]
      rfl

/-! ## What was shifted -/

/-- The tokens hold the characters of a text from its beginning, each in its own column. -/
def Joined.IsPlaced : Joined → Prop
  | segment s => IsPart s.text ∧ s.column = 1
  | join p x s =>
    p.IsPlaced ∧ (isSeparator x.char = true ∧ x.column = p.text.length + 1) ∧
      IsPart s.text ∧ s.column = p.text.length + 2

namespace Stack

/-- The text of the tokens that were shifted. -/
def text : Stack → List Char
  | empty => []
  | joined p => p.text
  | joining p x => p.text ++ [x.char]

/-- The tokens that were shifted stand where they were lexed. -/
def IsPlaced : Stack → Prop
  | empty => True
  | joined p => p.IsPlaced
  | joining p x => p.IsPlaced ∧ isSeparator x.char = true ∧ x.column = p.text.length + 1

/-- A segment has to be shifted next. -/
def IsOpen : Stack → Prop
  | joined _ => False
  | empty | joining _ _ => True

/-- Goes on with the tokens of a text whose first character is in the column. -/
def runText (stack : Stack) (column : Nat) (text : List Char) : Except Unexpected Stack :=
  stack.run (lex column text).stop (lex column text).tokens

variable {stack : Stack} {p : Joined}

/-- No stack goes on at a blank. -/
theorem runText_of_isBlank (h : Text.isBlank c = true) :
    stack.runText column (c :: rest) = .error (.character c column) := by
  rw [runText, lex_cons_of_isBlank h]
  rfl

/-- An open stack does not go on at a separator. -/
theorem IsOpen.runText_separator (hopen : stack.IsOpen) (hblank : Text.isBlank c = false)
    (h : isSeparator c = true) :
    stack.runText column (c :: rest) = .error (.token (.separator ⟨c, column⟩)) := by
  have hshift : stack.shift (.separator ⟨c, column⟩) = none := by
    cases stack with
    | joined => exact hopen.elim
    | empty | joining => rfl
  rw [runText, lex_cons_of_isSeparator hblank h, Lexed.cons, run, hshift]

/-- Behind joined segments a separator is shifted. -/
theorem runText_joined_separator (hblank : Text.isBlank c = false) (h : isSeparator c = true) :
    (joined p).runText column (c :: rest) = (joining p ⟨c, column⟩).runText (column + 1) rest := by
  rw [runText, lex_cons_of_isSeparator hblank h]
  rfl

/-- An open stack shifts a part, and what it then holds is placed. -/
theorem IsOpen.runText_part (hopen : stack.IsOpen) (hplaced : stack.IsPlaced) (hpart : IsPart part)
    (hcut : IsCut rest) :
    ∃ p : Joined, p.IsPlaced ∧ p.text = stack.text ++ part ∧
      stack.runText (stack.text.length + 1) (part ++ rest) =
        (joined p).runText (p.text.length + 1) rest := by
  obtain ⟨p, hp, htext, hshift⟩ : ∃ p : Joined, p.IsPlaced ∧ p.text = stack.text ++ part ∧
      stack.shift (.segment ⟨part, stack.text.length + 1⟩) = some (joined p) := by
    cases stack with
    | joined => exact hopen.elim
    | empty => exact ⟨.segment ⟨part, 1⟩, ⟨hpart, rfl⟩, rfl, rfl⟩
    | joining p x =>
      exact ⟨.join p x ⟨part, _⟩, ⟨hplaced.1, hplaced.2, hpart, by simp [text]⟩,
        by simp [Joined.text, text], rfl⟩
  have hcolumn : stack.text.length + 1 + part.length = p.text.length + 1 := by
    rw [htext, List.length_append]
    omega
  refine ⟨p, hp, htext, ?_⟩
  rw [runText, lex_part hpart hcut, hcolumn, Lexed.cons, run, hshift]
  rfl

end Stack

/-! ## The first defect -/

/-- What the scan finds in a text, and what the parser comes to on its tokens. -/
inductive Agrees (text : List Char) : Option SyntaxError → Except Unexpected Stack → Prop
  | blank (c : Char) (column : Nat) :
      Agrees text (some (.blank c column)) (.error (.character c column))
  | emptyPart (c : Char) (column : Nat) :
      Agrees text (some (.emptyPart c column)) (.error (.token (.separator ⟨c, column⟩)))
  | clean {stack : Stack} (hplaced : stack.IsPlaced) (htext : stack.text = text) :
      Agrees text none (.ok stack)

/-- **The parser stops where the scan finds the first defect**, both where a part has to begin and
where one has begun. -/
theorem agrees_run {text : List Char} : ∀ {stack : Stack}, stack.IsOpen → stack.IsPlaced →
    Agrees (stack.text ++ text) (firstDefect true (stack.text.length + 1) text)
        (stack.runText (stack.text.length + 1) text) ∧
      ∀ {part : List Char}, IsPart part →
        Agrees (stack.text ++ (part ++ text))
          (firstDefect false (stack.text.length + 1 + part.length) text)
          (stack.runText (stack.text.length + 1) (part ++ text)) := by
  induction text with
  | nil =>
    intro stack hopen hplaced
    refine ⟨.clean hplaced (List.append_nil _).symm, fun {part} hpart => ?_⟩
    obtain ⟨p, hp, htext, hrun⟩ := hopen.runText_part hplaced hpart (show IsCut [] from trivial)
    rw [hrun]
    exact .clean hp (by rw [Stack.text, htext, List.append_nil])
  | cons c text ih =>
    intro stack hopen hplaced
    by_cases hblank : Text.isBlank c = true
    · simp only [firstDefect, if_pos hblank]
      refine ⟨?_, fun {part} hpart => ?_⟩
      · rw [Stack.runText_of_isBlank hblank]
        exact .blank c _
      · obtain ⟨p, _, htext, hrun⟩ :=
          hopen.runText_part hplaced hpart (show IsCut (c :: text) from .inl hblank)
        rw [hrun, Stack.runText_of_isBlank hblank, htext, List.length_append, Nat.add_right_comm]
        exact .blank c _
    have hblank := Bool.eq_false_iff.2 hblank
    by_cases hseparator : isSeparator c = true
    · simp only [firstDefect, hblank, hseparator, if_true, if_false, Bool.false_eq_true]
      refine ⟨?_, fun {part} hpart => ?_⟩
      · rw [hopen.runText_separator hblank hseparator]
        exact .emptyPart c _
      · -- The part is a segment, and the separator behind it opens the stack again.
        obtain ⟨p, hp, htext, hrun⟩ :=
          hopen.runText_part hplaced hpart (show IsCut (c :: text) from .inr hseparator)
        have hih := (@ih (.joining p ⟨c, p.text.length + 1⟩) trivial ⟨hp, hseparator, rfl⟩).1
        rw [hrun, Stack.runText_joined_separator hblank hseparator]
        simpa [Stack.text, htext, Nat.add_right_comm, Nat.add_assoc] using hih
    · have hc : IsPartChar c := ⟨hblank, Bool.eq_false_iff.2 hseparator⟩
      simp only [firstDefect, hblank, hseparator, if_false, Bool.false_eq_true]
      refine ⟨(ih hopen hplaced).2 hc.isPart, fun {part} hpart => ?_⟩
      have hmore : IsPart (part ++ [c]) :=
        ⟨by simp, List.forall_mem_append.2 ⟨hpart.2, List.forall_mem_singleton.2 hc⟩⟩
      simpa [Nat.add_assoc] using (ih hopen hplaced).2 hmore

/-! ## Sentences -/

/-- A text is parsed by shifting all of its tokens. -/
theorem parse_eq (text : List Char) :
    parse text = (Stack.empty.runText 1 text >>= Stack.tree) := rfl

/-- The characters of a part do not separate. -/
theorem IsPart.not_isSeparator (h : IsPart part) : ∀ c ∈ part, isSeparator c = false :=
  fun c hc => (h.2 c hc).2

/-- At the end of a text what is missing is handed on. -/
theorem Unexpected.report_theEnd (text : List Char) :
    theEnd.report text = (endError text).report := rfl

/-- What is missing there depends on the last character. -/
theorem endError_concat {before : List Char} :
    endError (before ++ [c]) = if isSeparator c then .missingExport else .bareName := by
  rw [endError, List.getLast?_concat, Option.any_some]

/-- What is read of a text whose tokens were all shifted. -/
theorem readSentence_of_isPlaced {stack : Stack} (hplaced : stack.IsPlaced) (hne : stack.text ≠ [])
    (hdefect : firstDefect true 1 stack.text = none)
    (hrun : Stack.empty.runText 1 stack.text = .ok stack) :
    readSentence stack.text = (readChars stack.text).mapError SyntaxError.report := by
  have hparse : parse stack.text = stack.tree := by
    rw [parse_eq, hrun]
    rfl
  rw [readSentence, readChars, hparse, hdefect, if_neg (by simpa using hne),
    if_neg (by simpa using hne)]
  clear hparse hrun hdefect
  cases stack with
  | empty => exact absurd rfl hne
  | joined p =>
    cases p with
    | segment s =>
      -- A single segment is no sentence, and has no separator to be cut at.
      have hpart := hplaced.1
      obtain ⟨before, c, hlast⟩ := (List.eq_nil_or_concat s.text).resolve_left hpart.1
      have hc := hpart.not_isSeparator c (by simp [hlast])
      have hsplit := splitLast_eq_none_iff.2 hpart.not_isSeparator
      simp only [Stack.text, Joined.text, Stack.tree, hsplit]
      rw [Unexpected.report_theEnd, hlast, List.concat_eq_append, endError_concat, hc]
      rfl
    | join p x s =>
      obtain ⟨-, ⟨hseparator, hx⟩, hpart, hs⟩ := hplaced
      have hsplit : splitLast (Joined.join p x s).text = some (p.text, x.char, s.text) :=
        splitLast_append hseparator hpart.not_isSeparator _
      obtain ⟨c, rest, htext⟩ := List.exists_cons_of_ne_nil hpart.1
      simp only [Stack.text, Stack.tree, hsplit, Tree.read, hx, hs, htext]
  | joining p x =>
    obtain ⟨-, hseparator, -⟩ := hplaced
    have hsplit : splitLast (p.text ++ [x.char]) = some (p.text, x.char, []) :=
      splitLast_append hseparator (by simp) _
    simp only [Stack.text, Stack.tree, hsplit, Unexpected.report_theEnd, endError_concat,
      hseparator, if_true]
    rfl

/-- **Reading by the grammar is reading in one scan**: it gives the same reference, or hands on the
same description and column. -/
theorem readSentence_eq (text : List Char) :
    readSentence text = (readChars text).mapError SyntaxError.report := by
  by_cases hempty : text = []
  · subst hempty
    rfl
  have hne : ¬ text.isEmpty = true := by simpa using hempty
  have hagrees : Agrees text (firstDefect true 1 text) (Stack.empty.runText 1 text) :=
    (@agrees_run text .empty trivial trivial).1
  generalize hdefect : firstDefect true 1 text = found at hagrees
  generalize hrun : Stack.empty.runText 1 text = outcome at hagrees
  cases hagrees with
  | blank | emptyPart =>
    rw [readSentence, readChars, if_neg hne, if_neg hne, hdefect, parse_eq, hrun]
    rfl
  | clean hplaced htext =>
    subst htext
    exact readSentence_of_isPlaced hplaced hempty hdefect hrun

end HandlerPipeline.Reference

import HandlerPipeline.Proofs.Text.Literal
import HandlerPipeline.Proofs.Text.Names
import Mathlib.Data.List.TakeWhile

/-!
# Tokens of a line

A line of source is cut into tokens: words, literals and signs, and the comment that a number sign
opens. A word is as long as it can be, and a literal ends where `readLiteral` says. A word right
before a literal would be a prefix that changes how the literal is read, so such a line has no
tokens here.

What is written side by side is cut apart again where the border is clean: a word at a character
that no word holds (`tokens_word`), a quoted text at one that is no mark either (`tokens_quoted`),
and a text that opens neither literal nor comment at its end, whatever follows, unless it ends
within a word (`tokens_append`).
-/

namespace HandlerPipeline.Text

/-- A token of source. -/
inductive Token where
  | word (name : List Char)
  | literal (text : List Char)
  | sign (c : Char)
  | comment (text : List Char)
  deriving DecidableEq, Repr

/-- The character opens a literal. -/
def isMark (c : Char) : Bool := c == '\'' || c == '"'

/-- The character opens a literal or a comment. -/
def opens (c : Char) : Bool := isMark c || c == '#'

/-- The tokens of a line, unless a literal does not end or has a prefix. -/
def tokens : List Char → Option (List Token)
  | [] => some []
  | c :: rest =>
    if c = ' ' then tokens rest
    else if isIdentifierPart c then
      if (rest.dropWhile isIdentifierPart).head?.any isMark then none
      else
        have : (rest.dropWhile isIdentifierPart).length < (c :: rest).length :=
          Nat.lt_succ_of_le (List.dropWhile_suffix isIdentifierPart).length_le
        (tokens (rest.dropWhile isIdentifierPart)).map
          (.word (c :: rest.takeWhile isIdentifierPart) :: ·)
    else if isMark c then
      match h : readLiteral (c :: rest) with
      | some (text, behind) =>
        have : behind.length < (c :: rest).length := length_lt_of_readLiteral h
        (tokens behind).map (.literal text :: ·)
      | none => none
    else if c = '#' then some [.comment rest]
    else (tokens rest).map (.sign c :: ·)
termination_by text => text.length
decreasing_by
  · exact Nat.lt_succ_self rest.length
  · assumption
  · assumption
  · exact Nat.lt_succ_self rest.length

/-- A text behind which a word has ended, and which opens no literal. -/
def PartsTokens (text : List Char) : Prop :=
  ∀ c ∈ text.head?, isIdentifierPart c = false ∧ isMark c = false

/-- No mark may stand in an identifier. -/
theorem not_isIdentifierPart_of_isMark {c : Char} (h : isMark c = true) :
    isIdentifierPart c = false := by
  rw [isMark, Bool.or_eq_true, beq_iff_eq, beq_iff_eq] at h
  rcases h with rfl | rfl <;> decide +kernel

variable {rest : List Char}

/-- A word is read up to its end. -/
theorem tokens_word {name : List Char} (hne : name ≠ [])
    (hname : ∀ c ∈ name, isIdentifierPart c = true) (hrest : PartsTokens rest) :
    tokens (name ++ rest) = (tokens rest).map (.word name :: ·) := by
  obtain ⟨c, name, rfl⟩ := List.exists_cons_of_ne_nil hne
  obtain ⟨hc, hname⟩ := List.forall_mem_cons.1 hname
  have hblank : c ≠ ' ' := by
    rintro rfl
    exact absurd hc (by decide +kernel)
  have hends : rest.takeWhile isIdentifierPart = [] ∧ rest.dropWhile isIdentifierPart = rest := by
    cases rest with
    | nil => exact ⟨rfl, rfl⟩
    | cons d rest => simp [(hrest d rfl).1]
  have hmark : rest.head?.any isMark = false := by
    cases rest with
    | nil => rfl
    | cons d rest => exact (hrest d rfl).2
  rw [List.cons_append, tokens, if_neg hblank, if_pos hc]
  simp only [List.takeWhile_append_of_pos hname, List.dropWhile_append_of_pos hname, hends.1,
    hends.2, hmark, List.append_nil, Bool.false_eq_true, if_false]

/-- A quoted text is read as one literal. -/
theorem tokens_quoted (text : List Char) (hrest : PartsTokens rest) :
    tokens (quoted text ++ rest) = (tokens rest).map (.literal text :: ·) := by
  have hmark : isMark (quoteMark text) = true := by
    rcases quoteMark_eq text with h | h <;> rw [h] <;> decide
  have hblank : quoteMark text ≠ ' ' := by
    rcases quoteMark_eq text with h | h <;> rw [h] <;> decide
  have hhead : rest.head? ≠ some (quoteMark text) := by
    intro h
    have := (hrest _ h).2
    rw [hmark] at this
    cases this
  have hread := readLiteral_quoted text rest hhead
  rw [quoted, List.cons_append] at hread ⊢
  rw [tokens, if_neg hblank, if_neg (by simp [not_isIdentifierPart_of_isMark hmark]), if_pos hmark]
  split
  · next h =>
    rw [hread] at h
    cases h
    rfl
  · next h =>
    rw [hread] at h
    cases h

/-- A space is passed over. -/
theorem tokens_space (rest : List Char) : tokens (' ' :: rest) = tokens rest := by
  rw [tokens, if_pos rfl]

/-- A number sign opens a comment that takes the rest of the line. -/
theorem tokens_numberSign (rest : List Char) : tokens ('#' :: rest) = some [.comment rest] := by
  have hpart : isIdentifierPart '#' = false := by decide +kernel
  rw [tokens, if_neg (by decide), if_neg (by simp [hpart]), if_neg (by decide), if_pos rfl]

/-- Another sign is a token of its own. -/
theorem tokens_sign {c : Char} (hspace : c ≠ ' ') (hpart : isIdentifierPart c = false)
    (hopens : opens c = false) (rest : List Char) :
    tokens (c :: rest) = (tokens rest).map (.sign c :: ·) := by
  rw [opens, Bool.or_eq_false_iff, beq_eq_false_iff_ne] at hopens
  rw [tokens, if_neg hspace, if_neg (by simp [hpart]), if_neg (by simp [hopens.1]),
    if_neg hopens.2]

/-- A text that begins with a word and does not end within it is that word and what parts it from the
rest. -/
theorem exists_word_append {c : Char} {behind : List Char} (hc : isIdentifierPart c = true)
    (hlast : ∀ d ∈ (c :: behind).getLast?, isIdentifierPart d = false) :
    ∃ name d after, c :: behind = name ++ d :: after ∧ name ≠ [] ∧
      (∀ e ∈ name, isIdentifierPart e = true) ∧ isIdentifierPart d = false := by
  obtain ⟨d, after, hafter⟩ : ∃ d after, behind.dropWhile isIdentifierPart = d :: after := by
    refine List.exists_cons_of_ne_nil fun hnil => ?_
    have hall : ∀ d ∈ c :: behind, isIdentifierPart d = true :=
      List.forall_mem_cons.2 ⟨hc, List.dropWhile_eq_nil_iff.1 hnil⟩
    have hend := hlast _ (List.getLast?_eq_some_getLast (List.cons_ne_nil c behind))
    rw [hall _ (List.getLast_mem _)] at hend
    cases hend
  have hd : isIdentifierPart d = false := by
    have := List.head?_dropWhile_not isIdentifierPart behind
    rw [hafter] at this
    simpa using this
  refine ⟨c :: behind.takeWhile isIdentifierPart, d, after, ?_, by simp, ?_, hd⟩
  · rw [List.cons_append, ← hafter, List.takeWhile_append_dropWhile]
  · exact List.forall_mem_cons.2 ⟨hc, fun e he => List.mem_takeWhile_imp he⟩

/-- **A text that opens neither literal nor comment and does not end within a word keeps its
tokens**, whatever follows. -/
theorem tokens_append {text : List Char} (hopens : ∀ c ∈ text, opens c = false)
    (hlast : ∀ c ∈ text.getLast?, isIdentifierPart c = false) :
    ∃ ts, ∀ rest, tokens (text ++ rest) = (tokens rest).map (ts ++ ·) := by
  induction hlength : text.length using Nat.strongRecOn generalizing text with
  | ind n ih =>
  subst hlength
  -- What stands at the end of the text is like the text, so its tokens are kept.
  have further : ∀ {start behind : List Char}, text = start ++ behind → start ≠ [] →
      ∃ ts, ∀ rest, tokens (behind ++ rest) = (tokens rest).map (ts ++ ·) := by
    intro start behind htext hne
    have hshort : behind.length < text.length := by
      rw [htext, List.length_append]
      have := List.length_pos_iff.2 hne
      omega
    refine ih _ hshort (fun c hc => hopens c ?_) (fun c hc => hlast c ?_) rfl
    · rw [htext]
      exact List.mem_append_right _ hc
    · rw [htext, List.getLast?_append, hc]
      rfl
  cases text with
  | nil => exact ⟨[], by simp⟩
  | cons c behind =>
  cases hpart : isIdentifierPart c with
  | true =>
    obtain ⟨name, d, after, htext, hne, hname, hd⟩ := exists_word_append hpart hlast
    obtain ⟨ts, hts⟩ := further htext hne
    refine ⟨.word name :: ts, fun rest => ?_⟩
    have hparts : PartsTokens (d :: after ++ rest) := by
      intro e he
      obtain rfl : d = e := by simpa using he
      have hmark := hopens d (by rw [htext]; simp)
      rw [opens, Bool.or_eq_false_iff] at hmark
      exact ⟨hd, hmark.1⟩
    rw [htext, List.append_assoc, tokens_word hne hname hparts, hts, Option.map_map]
    rfl
  | false =>
    obtain ⟨ts, hts⟩ := further (List.singleton_append (x := c)).symm (by simp)
    by_cases hspace : c = ' '
    · exact ⟨ts, fun rest => by rw [List.cons_append, hspace, tokens_space, hts]⟩
    · refine ⟨.sign c :: ts, fun rest => ?_⟩
      rw [List.cons_append, tokens_sign hspace hpart (hopens c (.head _)), hts, Option.map_map]
      rfl

/-- Words that were joined by dots are read one after the other. -/
theorem tokens_dotted {names : List (List Char)} (hne : names ≠ [])
    (hnames : ∀ name ∈ names, name ≠ [] ∧ ∀ c ∈ name, isIdentifierPart c = true)
    (hrest : PartsTokens rest) :
    tokens (['.'].intercalate names ++ rest) =
      (tokens rest).map ((names.map Token.word).intersperse (.sign '.') ++ ·) := by
  have hdot : isIdentifierPart '.' = false := by decide +kernel
  induction names with
  | nil => exact absurd rfl hne
  | cons name names ih =>
    obtain ⟨hname, hnames⟩ := List.forall_mem_cons.1 hnames
    cases names with
    | nil => simpa using tokens_word hname.1 hname.2 hrest
    | cons next names =>
      have hparts : ∀ after, PartsTokens ('.' :: after) := by
        intro after c hc
        obtain rfl : '.' = c := by simpa using hc
        exact ⟨hdot, by decide⟩
      rw [List.intercalate_cons_cons, List.append_assoc, List.append_assoc, List.singleton_append,
        tokens_word hname.1 hname.2 (hparts _), tokens_sign (by decide) hdot (by decide),
        ih (by simp) hnames, Option.map_map, Option.map_map]
      rfl

end HandlerPipeline.Text

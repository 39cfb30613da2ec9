import HandlerPipeline.Text.Quoted
import Mathlib.Algebra.Group.Nat.Defs

/-!
# Reading literals

`readLiteral` reads a literal of one line from the start of a text: from its opening mark to the
next bare mark, with the escapes of the mark, the backslash, tab and the two line ends, and of code
points. It does not know how literals are written. `readLiteral_quoted` is the law that ties it to
`quoted`: a quoted text is read back whole, and nothing of what stands behind it is touched.

Two facts make a literal fit into a line of source: all its characters are printable
(`isPrintable_of_mem_quoted`), and it is not taken for a long literal, which three marks open,
unless a mark stands behind it.
-/

namespace HandlerPipeline.Text

/-! ## The reader -/

/-- The value of a hexadecimal digit. -/
def hexValue? (c : Char) : Option Nat :=
  if '0' ≤ c ∧ c ≤ '9' then some (c.toNat - 48)
  else if 'a' ≤ c ∧ c ≤ 'f' then some (c.toNat - 87)
  else if 'A' ≤ c ∧ c ≤ 'F' then some (c.toNat - 55)
  else none

/-- Where the reader stands inside a literal. -/
inductive Inside where
  | bare
  /-- Behind a backslash. -/
  | escape
  /-- Inside the code of an escape: so many digits are still to come, and this is the value of
  those that have been read. -/
  | code (left value : Nat)

/-- What the character behind a backslash stands for, where that is a character. -/
def escaped? (c : Char) : Option Char :=
  if c = '\\' ∨ c = '\'' ∨ c = '"' then some c
  else if c = 't' then some '\t'
  else if c = 'n' then some '\n'
  else if c = 'r' then some '\r'
  else none

/-- The number of digits of the code that the character behind a backslash announces. -/
def codeLength? (c : Char) : Option Nat :=
  if c = 'x' then some 2 else if c = 'u' then some 4 else if c = 'U' then some 8 else none

/-- Reads what follows inside a literal, up to its mark: the text, and what stands behind it. -/
def readInside (mark : Char) : Inside → List Char → Option (List Char × List Char)
  | _, [] => none
  | .bare, c :: rest =>
    if c = mark then some ([], rest)
    else if c = '\\' then readInside mark .escape rest
    else if c = '\n' ∨ c = '\r' then none
    else (readInside mark .bare rest).map (Prod.map (c :: ·) id)
  | .escape, c :: rest =>
    match escaped? c, codeLength? c with
    | some d, _ => (readInside mark .bare rest).map (Prod.map (d :: ·) id)
    | none, some k => readInside mark (.code k 0) rest
    | none, none => none
  | .code left value, c :: rest =>
    match hexValue? c with
    | none => none
    | some d =>
      let value' := 16 * value + d
      if left ≠ 1 then readInside mark (.code (left - 1) value') rest
      else if value'.isValidChar then
        (readInside mark .bare rest).map (Prod.map (Char.ofNat value' :: ·) id)
      else none

/-- Reads a literal of one line: its text, and what stands behind it. -/
def readLiteral : List Char → Option (List Char × List Char)
  | [] => none
  | mark :: rest =>
    if mark ≠ '\'' ∧ mark ≠ '"' then none
    else if rest.take 2 = [mark, mark] then none
    else readInside mark .bare rest

/-- What stands behind the inside of a literal is shorter than the text it was read from. -/
theorem length_lt_of_readInside {mark : Char} {inside : Inside} {text t rest : List Char}
    (h : readInside mark inside text = some (t, rest)) : rest.length < text.length := by
  induction text generalizing inside t with
  | nil => cases inside <;> cases h
  | cons c text ih =>
    have further : ∀ {inside' t'}, readInside mark inside' text = some (t', rest) →
        rest.length < (c :: text).length := fun h => Nat.lt_succ_of_lt (ih h)
    have added : ∀ {f : List Char → List Char},
        (readInside mark .bare text).map (Prod.map f id) = some (t, rest) →
        rest.length < (c :: text).length := by
      intro f h
      obtain ⟨⟨t', rest'⟩, hread, heq⟩ := Option.map_eq_some_iff.1 h
      cases heq
      exact further hread
    cases inside with
    | bare =>
      unfold readInside at h
      split at h
      · cases h
        exact Nat.lt_succ_self _
      split at h
      · exact further h
      split at h
      · cases h
      · exact added h
    | escape =>
      unfold readInside at h
      split at h
      · exact added h
      · exact further h
      · cases h
    | code left value =>
      unfold readInside at h
      split at h
      · cases h
      dsimp only at h
      split at h
      · exact further h
      split at h
      · exact added h
      · cases h

/-- What stands behind a literal is shorter than the text it was read from. -/
theorem length_lt_of_readLiteral {text t rest : List Char}
    (h : readLiteral text = some (t, rest)) : rest.length < text.length := by
  cases text with
  | nil => cases h
  | cons mark text =>
    rw [readLiteral] at h
    split at h
    · cases h
    split at h
    · cases h
    · exact Nat.lt_succ_of_lt (length_lt_of_readInside h)

/-! ## Codes -/

/-- The value of a digit that was written is read. -/
theorem hexValue?_hexChar : ∀ d < 16, hexValue? (hexChar d) = some d := by
  decide

/-- Digits that leave others to come only add to the value. -/
theorem readInside_hexDigits (mark : Char) (k left value n : Nat) (rest : List Char)
    (hn : n < 16 ^ k) :
    readInside mark (.code (left + 1 + k) value) (hexDigits k n ++ rest) =
      readInside mark (.code (left + 1) (16 ^ k * value + n)) rest := by
  induction k generalizing left n rest with
  | zero =>
    obtain rfl : n = 0 := by simpa using hn
    simp [hexDigits]
  | succ k ih =>
    have hq : n / 16 < 16 ^ k := by
      rw [Nat.pow_succ] at hn
      omega
    have hd : hexValue? (hexChar (n % 16)) = some (n % 16) :=
      hexValue?_hexChar _ (Nat.mod_lt _ (by decide))
    have hv : 16 * (16 ^ k * value + n / 16) + n % 16 = 16 ^ (k + 1) * value + n := by
      rw [Nat.pow_succ]
      have := Nat.div_add_mod n 16
      rw [Nat.mul_add, ← Nat.mul_assoc, Nat.mul_comm 16 (16 ^ k)]
      omega
    rw [hexDigits, List.append_assoc, show left + 1 + (k + 1) = left + 1 + 1 + k by omega,
      ih (left + 1) (n / 16) _ hq]
    simp only [List.singleton_append, readInside, hd]
    rw [if_pos (by omega), hv]
    rfl

/-- The code of a character is read as that character. -/
theorem readInside_code (mark c : Char) (k : Nat) (rest : List Char) (hk : c.toNat < 16 ^ (k + 1)) :
    readInside mark (.code (k + 1) 0) (hexDigits (k + 1) c.toNat ++ rest) =
      (readInside mark .bare rest).map (Prod.map (c :: ·) id) := by
  have hq : c.toNat / 16 < 16 ^ k := by
    rw [Nat.pow_succ] at hk
    omega
  have hd : hexValue? (hexChar (c.toNat % 16)) = some (c.toNat % 16) :=
    hexValue?_hexChar _ (Nat.mod_lt _ (by decide))
  have hv : 16 * (c.toNat / 16) + c.toNat % 16 = c.toNat := Nat.div_add_mod _ _
  have hvalid : c.toNat.isValidChar := c.valid
  rw [hexDigits, List.append_assoc, show k + 1 = 0 + 1 + k by omega,
    readInside_hexDigits mark k 0 0 _ _ hq]
  simp only [List.singleton_append, readInside, hd, Nat.mul_zero, Nat.zero_add, hv]
  rw [if_neg (by simp), if_pos hvalid, Char.ofNat_toNat]

/-- An escape by code is read as its character. -/
theorem readInside_codeEscape (mark c : Char) (rest : List Char) (hmark : mark ≠ '\\') :
    readInside mark .bare (codeEscape c ++ rest) =
      (readInside mark .bare rest).map (Prod.map (c :: ·) id) := by
  have hbare : '\\' ≠ mark := hmark.symm
  have hmax : c.toNat < 16 ^ 8 := by
    have := c.valid
    simp only [UInt32.isValidChar, Nat.isValidChar] at this
    simp only [Char.toNat]
    omega
  unfold codeEscape
  split
  · next h => simpa [readInside, hbare, escaped?, codeLength?] using readInside_code mark c 1 rest h
  split
  · next h => simpa [readInside, hbare, escaped?, codeLength?] using readInside_code mark c 3 rest h
  · simpa [readInside, hbare, escaped?, codeLength?] using readInside_code mark c 7 rest hmax

/-! ## Quoted texts -/

/-- The mark of a text is one of the two marks. -/
theorem quoteMark_eq (text : List Char) : quoteMark text = '\'' ∨ quoteMark text = '"' := by
  unfold quoteMark
  split
  · exact .inr rfl
  · exact .inl rfl

/-- No mark of a text stands in front where neither of the two marks does. -/
theorem head?_ne_quoteMark {rest : List Char}
    (h : ∀ c ∈ rest.head?, c ≠ '\'' ∧ c ≠ '"') (text : List Char) :
    rest.head? ≠ some (quoteMark text) := by
  intro hmark
  rcases quoteMark_eq text with heq | heq
  · exact (h _ hmark).1 heq
  · exact (h _ hmark).2 heq

/-- A character as it stands between the marks is read as itself. -/
theorem readInside_quoteChar {mark : Char} (hmark : mark = '\'' ∨ mark = '"') (c : Char)
    (rest : List Char) :
    readInside mark .bare (quoteChar mark c ++ rest) =
      (readInside mark .bare rest).map (Prod.map (c :: ·) id) := by
  have hslash : mark ≠ '\\' := by
    rcases hmark with rfl | rfl <;> decide
  unfold quoteChar
  split
  · next h =>
    have hesc : escaped? c = some c := by
      rcases h with rfl | rfl
      · rcases hmark with rfl | rfl <;> rfl
      · rfl
    simp [readInside, hslash.symm, hesc]
  · next h =>
    rw [not_or] at h
    split
    · next ht => subst ht; simp [readInside, hslash.symm, escaped?]
    split
    · next hn => subst hn; simp [readInside, hslash.symm, escaped?]
    split
    · next hr => subst hr; simp [readInside, hslash.symm, escaped?]
    split
    · next hn hr _ => simp [readInside, h.1, h.2, hn, hr]
    · exact readInside_codeEscape mark c rest hslash

/-- The inside of a quoted text is read up to the mark that ends it. -/
theorem readInside_quoted {mark : Char} (hmark : mark = '\'' ∨ mark = '"')
    (text rest : List Char) :
    readInside mark .bare (text.flatMap (quoteChar mark) ++ mark :: rest) = some (text, rest) := by
  induction text with
  | nil => simp [readInside]
  | cons c text ih =>
    rw [List.flatMap_cons, List.append_assoc, readInside_quoteChar hmark, ih]
    rfl

/-- No character is written as a text that begins with the mark. -/
theorem quoteChar_ne_mark {mark : Char} (hmark : mark ≠ '\\') (c : Char) :
    ∃ d tail, quoteChar mark c = d :: tail ∧ d ≠ mark := by
  unfold quoteChar
  split
  · exact ⟨_, _, rfl, hmark.symm⟩
  · next h =>
    rw [not_or] at h
    split
    · exact ⟨_, _, rfl, hmark.symm⟩
    split
    · exact ⟨_, _, rfl, hmark.symm⟩
    split
    · exact ⟨_, _, rfl, hmark.symm⟩
    split
    · exact ⟨c, [], rfl, h.1⟩
    · unfold codeEscape
      split
      · exact ⟨_, _, rfl, hmark.symm⟩
      split <;> exact ⟨_, _, rfl, hmark.symm⟩

/-- **A quoted text is read back**, with whatever stands behind it, unless that is a third mark
behind the two of the empty text. -/
theorem readLiteral_quoted (text rest : List Char) (hrest : rest.head? ≠ some (quoteMark text)) :
    readLiteral (quoted text ++ rest) = some (text, rest) := by
  have hmark := quoteMark_eq text
  have hslash : quoteMark text ≠ '\\' := by
    rcases hmark with h | h <;> rw [h] <;> decide
  have hopen : ¬ (quoteMark text ≠ '\'' ∧ quoteMark text ≠ '"') := by
    rcases hmark with h | h <;> simp [h]
  have hlong : (text.flatMap (quoteChar (quoteMark text)) ++ quoteMark text :: rest).take 2 ≠
      [quoteMark text, quoteMark text] := by
    cases text with
    | nil =>
      intro h
      cases rest with
      | nil => simp at h
      | cons d rest => simp_all
    | cons c text =>
      obtain ⟨d, tail, hd, hne⟩ := quoteChar_ne_mark hslash c
      rw [List.flatMap_cons, hd]
      simp [hne]
  simp only [quoted, readLiteral, List.cons_append, List.append_assoc, List.nil_append]
  rw [if_neg hopen, if_neg hlong, readInside_quoted hmark]

/-- The digits of a code are hexadecimal digits. -/
theorem exists_of_mem_hexDigits {k n : Nat} {x : Char} (hx : x ∈ hexDigits k n) :
    ∃ d < 16, x = hexChar d := by
  induction k generalizing n with
  | zero => simp [hexDigits] at hx
  | succ k ih =>
    rw [hexDigits, List.mem_append, List.mem_singleton] at hx
    rcases hx with hx | rfl
    · exact ih hx
    · exact ⟨_, Nat.mod_lt _ (by decide), rfl⟩

/-- The digits of a code are printable. -/
theorem isPrintable_of_mem_hexDigits {k n : Nat} {x : Char} (hx : x ∈ hexDigits k n) :
    isPrintable x = true := by
  have hdigit : ∀ d < 16, isPrintable (hexChar d) = true := by decide
  obtain ⟨d, hd, rfl⟩ := exists_of_mem_hexDigits hx
  exact hdigit d hd

/-- What stands for a character between the marks is printable. -/
theorem isPrintable_of_mem_quoteChar {mark c x : Char} (hmark : isPrintable mark = true)
    (hx : x ∈ quoteChar mark c) : isPrintable x = true := by
  have hslash : isPrintable '\\' = true := by decide
  have hcode : ∀ {letter : Char} {k : Nat}, isPrintable letter = true →
      x ∈ '\\' :: letter :: hexDigits k c.toNat → isPrintable x = true := by
    intro letter k hl hx
    rcases List.mem_cons.1 hx with rfl | hx
    · exact hslash
    rcases List.mem_cons.1 hx with rfl | hx
    · exact hl
    · exact isPrintable_of_mem_hexDigits hx
  unfold quoteChar codeEscape at hx
  split at hx
  · next h =>
    rcases h with rfl | rfl <;> simp only [List.mem_cons, List.not_mem_nil, or_false] at hx
    · rcases hx with rfl | rfl
      · exact hslash
      · exact hmark
    · rcases hx with rfl | rfl <;> exact hslash
  split at hx
  · exact hcode (k := 0) (by decide) hx
  split at hx
  · exact hcode (k := 0) (by decide) hx
  split at hx
  · exact hcode (k := 0) (by decide) hx
  split at hx
  · next h => rw [List.mem_singleton.1 hx]; exact h
  split at hx
  · exact hcode (by decide) hx
  split at hx <;> exact hcode (by decide) hx

/-- **A quoted text is printable**, so it stands in one line. -/
theorem isPrintable_of_mem_quoted {text : List Char} {x : Char} (hx : x ∈ quoted text) :
    isPrintable x = true := by
  have hmark : isPrintable (quoteMark text) = true := by
    rcases quoteMark_eq text with h | h <;> rw [h] <;> decide
  simp only [quoted, List.mem_cons, List.mem_append, List.mem_flatMap, List.not_mem_nil,
    or_false] at hx
  rcases hx with rfl | ⟨c, _, hx⟩ | rfl
  · exact hmark
  · exact isPrintable_of_mem_quoteChar hmark hx
  · exact hmark

end HandlerPipeline.Text

import HandlerPipeline.Proofs.Text.Names
import HandlerPipeline.Reference.Binding

/-!
# Binding names are names

A binding name holds ASCII letters, digits and `_` only, whatever the path
(`ModulePath.isBindingChar_of_mem_bindingName`), and it does not begin with a digit. The `_` that is
appended to a reserved word makes it a name, since no reserved word ends with one. So the path of a
module gives a name that source may use bare (`ModulePath.isName_bindingName`), and one that is not
among the reserved names (`ModulePath.bindingName_notMem`).
-/

namespace HandlerPipeline.ModulePath

variable {path : String} {reserved : List String}

/-! ## Characters -/

/-- No letter is a digit. -/
theorem isDigit_eq_false_of_isAlpha {c : Char} (h : c.isAlpha = true) : c.isDigit = false := by
  rw [Text.isAlpha_iff] at h
  rw [← Bool.not_eq_true, Text.isDigit_iff]
  omega

/-- The code points of the characters of binding names. -/
theorem toNat_of_isBindingChar {c : Char} (h : isBindingChar c = true) :
    (0x41 ≤ c.toNat ∧ c.toNat ≤ 0x5a) ∨ (0x61 ≤ c.toNat ∧ c.toNat ≤ 0x7a) ∨ c.isDigit = true ∨
      (0x5f ≤ c.toNat ∧ c.toNat ≤ 0x5f) := by
  rw [isBindingChar, Char.isAlphanum, Bool.or_eq_true, Bool.or_eq_true, beq_iff_eq,
    Text.isAlpha_iff] at h
  rcases h with ((h | h) | h) | rfl
  · exact .inl h
  · exact .inr (.inl h)
  · exact .inr (.inr (.inl h))
  · exact .inr (.inr (.inr (by decide)))

/-- A character of a binding name that is no digit may begin an identifier. -/
theorem isIdentifierStart_of_isBindingChar {c : Char} (h : isBindingChar c = true)
    (hdigit : c.isDigit = false) : Text.isIdentifierStart c = true := by
  rw [Text.isIdentifierStart, Text.CodeRanges.has_iff]
  rcases toNat_of_isBindingChar h with h | h | h | h
  · exact ⟨(0x41, 0x5a), by decide, h⟩
  · exact ⟨(0x61, 0x7a), by decide, h⟩
  · rw [h] at hdigit
    cases hdigit
  · exact ⟨(0x5f, 0x5f), by decide, h⟩

/-- A character of a binding name may stand in an identifier. -/
theorem isIdentifierPart_of_isBindingChar {c : Char} (h : isBindingChar c = true) :
    Text.isIdentifierPart c = true := by
  rw [Text.isIdentifierPart, Bool.or_eq_true]
  cases hdigit : c.isDigit with
  | false => exact .inl (isIdentifierStart_of_isBindingChar h hdigit)
  | true =>
    exact .inr (Text.CodeRanges.has_iff.2 ⟨(0x30, 0x39), by decide, Text.isDigit_iff.1 hdigit⟩)

/-! ## The name before anything is appended -/

/-- What a path is made into holds characters of binding names only. -/
theorem isBindingChar_of_mem_undigited {text : List Char} :
    ∀ c ∈ undigited (sanitized text), isBindingChar c = true := by
  have hunder : isBindingChar '_' = true := by decide
  have hsanitized : ∀ c ∈ sanitized text, isBindingChar c = true := by
    intro c hc
    obtain ⟨d, -, rfl⟩ := List.mem_map.1 hc
    split
    · assumption
    · exact hunder
  cases hs : sanitized text with
  | nil => simp [undigited]
  | cons d rest =>
    rw [hs, List.forall_mem_cons] at hsanitized
    refine List.forall_mem_cons.2 ⟨?_, hsanitized.2⟩
    split
    · exact hunder
    · exact hsanitized.1

/-- What a path is made into is an identifier. -/
theorem isIdentifier_undigited {text : List Char} (h : text ≠ []) :
    Text.isIdentifier (undigited (sanitized text)) = true := by
  obtain ⟨c, rest, rfl⟩ := List.exists_cons_of_ne_nil h
  have hchars : ∀ d ∈ undigited (sanitized (c :: rest)), isBindingChar d = true :=
    isBindingChar_of_mem_undigited
  rw [sanitized, List.map_cons, undigited] at hchars ⊢
  rw [List.forall_mem_cons] at hchars
  rw [Text.isIdentifier, Bool.and_eq_true, List.all_eq_true]
  have hhead : ∀ d : Char, (if d.isDigit then '_' else d).isDigit = false := by
    intro d
    split
    · decide
    · next hdigit => exact Bool.eq_false_iff.2 hdigit
  exact ⟨isIdentifierStart_of_isBindingChar hchars.1 (hhead _),
    fun d hd => isIdentifierPart_of_isBindingChar (hchars.2 d hd)⟩

/-! ## The name -/

/-- The name is what the path is made into, or that and a `_`. -/
theorem bindingName_eq (reserved : List String) (path : String) :
    ∃ name, name = String.ofList (undigited (sanitized path.toList)) ∧
      ((bindingName reserved path = name ∧ Text.isKeyword name = false ∧ name ∉ reserved) ∨
        bindingName reserved path = name ++ "_") := by
  refine ⟨_, rfl, ?_⟩
  unfold bindingName
  dsimp only
  split
  · exact .inr rfl
  · next h =>
    simp only [Bool.or_eq_true, not_or, Bool.not_eq_true, List.contains_iff_mem] at h
    exact .inl ⟨rfl, h.1, h.2⟩

/-- Every character of a binding name is one that a binding name may hold. -/
theorem isBindingChar_of_mem_bindingName {c : Char}
    (hc : c ∈ (bindingName reserved path).toList) : isBindingChar c = true := by
  obtain ⟨name, hname, heq⟩ := bindingName_eq reserved path
  have hchars : ∀ c ∈ name.toList, isBindingChar c = true := by
    rw [hname, String.toList_ofList]
    exact isBindingChar_of_mem_undigited
  rcases heq with ⟨heq, -⟩ | heq
  · exact hchars c (by rwa [heq] at hc)
  · rw [heq, String.toList_append, List.mem_append] at hc
    rcases hc with hc | hc
    · exact hchars c hc
    · obtain rfl : c = '_' := by simpa using hc
      decide

/-- A character that no binding name may hold stands in none. -/
theorem notMem_bindingName {c : Char} (hc : isBindingChar c = false) (reserved : List String)
    (path : String) : c ∉ (bindingName reserved path).toList := by
  intro hmem
  rw [isBindingChar_of_mem_bindingName hmem] at hc
  cases hc

/-- A binding name is of ASCII. -/
theorem toNat_lt_of_mem_bindingName :
    ∀ c ∈ (bindingName reserved path).toList, c.toNat < 0x80 := by
  intro c hc
  rcases toNat_of_isBindingChar (isBindingChar_of_mem_bindingName hc) with h | h | h | h
  · omega
  · omega
  · have := Text.isDigit_iff.1 h
    omega
  · omega

/-- A text with a `_` at its end is none of some that end otherwise. -/
theorem append_underscore_notMem {texts : List String}
    (h : ∀ t ∈ texts, t.toList.getLast? ≠ some '_') (name : String) : name ++ "_" ∉ texts := by
  intro hmem
  apply h _ hmem
  simp

/-- An identifier stays one with characters behind it that may stand in one. -/
theorem isIdentifier_append {text more : List Char} (h : Text.isIdentifier text = true)
    (hmore : ∀ c ∈ more, Text.isIdentifierPart c = true) :
    Text.isIdentifier (text ++ more) = true := by
  cases text with
  | nil => cases h
  | cons c rest =>
    rw [Text.isIdentifier, Bool.and_eq_true, List.all_eq_true] at h
    rw [List.cons_append, Text.isIdentifier, Bool.and_eq_true, List.all_eq_true]
    exact ⟨h.1, List.forall_mem_append.2 ⟨h.2, hmore⟩⟩

/-- **The binding name of a path is a name.** -/
theorem isName_bindingName (h : path ≠ "") : Text.isName (bindingName reserved path) = true := by
  obtain ⟨name, hname, heq⟩ := bindingName_eq reserved path
  have hid : Text.isIdentifier name.toList = true := by
    rw [hname, String.toList_ofList]
    exact isIdentifier_undigited (by simpa using h)
  rw [Text.isName, Bool.and_eq_true]
  rcases heq with ⟨heq, hkeyword, -⟩ | heq
  · rw [heq, hid, hkeyword]
    exact ⟨rfl, rfl⟩
  · rw [heq]
    constructor
    · have hunder : Text.isIdentifierPart '_' = true :=
        isIdentifierPart_of_isBindingChar (by decide)
      rw [String.toList_append]
      exact isIdentifier_append hid (List.forall_mem_singleton.2 hunder)
    · have : name ++ "_" ∉ Text.keywords := append_underscore_notMem (by decide) name
      simpa [Text.isKeyword] using this

/-- **The binding name of a path is not reserved**, where no reserved name ends with a `_`. -/
theorem bindingName_notMem (h : ∀ r ∈ reserved, r.toList.getLast? ≠ some '_') (path : String) :
    bindingName reserved path ∉ reserved := by
  obtain ⟨name, -, ⟨heq, -, hmem⟩ | heq⟩ := bindingName_eq reserved path
  · rwa [heq]
  · rw [heq]
    exact append_underscore_notMem h name

/-! ## Paths that are their own names -/

/-- Nothing is replaced in a text of characters of binding names. -/
theorem sanitized_eq_self {text : List Char} (h : ∀ c ∈ text, isBindingChar c = true) :
    sanitized text = text :=
  (List.map_congr_left fun c hc => if_pos (h c hc)).trans (List.map_id text)

/-- No leading digit is replaced where there is none. -/
theorem undigited_eq_self {text : List Char} (h : ∀ c ∈ text.head?, c.isDigit = false) :
    undigited text = text := by
  cases text with
  | nil => rfl
  | cons c rest => rw [undigited, h c rfl, if_neg Bool.false_ne_true]

/-- A text is left as it is, if what it is made into holds no `_`. -/
theorem undigited_sanitized_eq_self {text : List Char} (h : '_' ∉ undigited (sanitized text)) :
    undigited (sanitized text) = text := by
  have hundigited : undigited (sanitized text) = sanitized text := by
    refine undigited_eq_self fun c hc => Bool.eq_false_iff.2 fun hdigit => ?_
    obtain ⟨rest, hs⟩ := List.head?_eq_some_iff.1 hc
    rw [hs, undigited, if_pos hdigit] at h
    exact h (List.mem_cons_self ..)
  rw [hundigited] at h ⊢
  refine sanitized_eq_self fun c hc => Bool.of_not_eq_false fun hchar => h ?_
  exact List.mem_map.2 ⟨c, hc, by rw [hchar, if_neg Bool.false_ne_true]⟩

/-- **A word of letters is the binding name of no path but itself**, unless it is reserved. -/
theorem bindingName_eq_iff {name : String} (hletters : name.toList.all Char.isAlpha = true)
    (hkeyword : Text.isKeyword name = false) (hname : name ∉ reserved) :
    bindingName reserved path = name ↔ path = name := by
  have hchars : ∀ c ∈ name.toList, c.isAlpha = true := List.all_eq_true.1 hletters
  have hunder : '_' ∉ name.toList := fun h => absurd (hchars _ h) (by decide)
  constructor
  · intro h
    obtain ⟨plain, hplain, ⟨heq, -⟩ | heq⟩ := bindingName_eq reserved path
    · rw [heq, hplain] at h
      rw [← h, String.toList_ofList] at hunder
      rw [← h, undigited_sanitized_eq_self hunder, String.ofList_toList]
    · rw [← h, heq, String.toList_append] at hunder
      exact absurd (List.mem_append_right _ (by decide)) hunder
  · rintro rfl
    have hsanitized : sanitized path.toList = path.toList := by
      refine sanitized_eq_self fun c hc => ?_
      rw [isBindingChar, Char.isAlphanum, hchars c hc]
      rfl
    have hundigited : undigited path.toList = path.toList := by
      exact undigited_eq_self fun c hc =>
        isDigit_eq_false_of_isAlpha (hchars c (List.mem_of_mem_head? hc))
    rw [bindingName, hsanitized, hundigited, String.ofList_toList, hkeyword]
    simp [hname]

end HandlerPipeline.ModulePath

import HandlerPipeline.Artifact.Source
import HandlerPipeline.Proofs.Reference.Binding
import HandlerPipeline.Proofs.Reference.Language

/-!
# Usable names

Source may use the binding name of a module as it stands: it is a word of ASCII that does not begin
with a digit, no keyword, and none of the names that an artifact has for itself. One `_` is enough
to get there, since neither a keyword nor a reserved name ends with one
(`ModulePath.append_underscore_isFree`). So nothing is left to do to a binding name: it is its own
binding name (`ModulePath.bindingName_bindingName`), whichever path it was made from.
-/

namespace HandlerPipeline.ModulePath

variable {path : String} {reserved : List String}

/-! ## Names and what is reserved -/

/-- The name is none that source cannot use for a module: no keyword, and not reserved. -/
structure IsFree (reserved : List String) (name : String) : Prop where
  not_isKeyword : Text.isKeyword name = false
  notMem : name ∉ reserved

/-- A name with a `_` at its end is free, where no reserved name has one there. -/
theorem append_underscore_isFree (h : ∀ r ∈ reserved, r.toList.getLast? ≠ some '_')
    (name : String) : IsFree reserved (name ++ "_") := by
  have hkeyword : name ++ "_" ∉ Text.keywords := append_underscore_notMem (by decide) name
  exact ⟨by simpa [Text.isKeyword] using hkeyword, append_underscore_notMem h name⟩

/-- **The binding name of a path is free**, where no reserved name ends with a `_`. -/
theorem isFree_bindingName (h : ∀ r ∈ reserved, r.toList.getLast? ≠ some '_') (path : String) :
    IsFree reserved (bindingName reserved path) := by
  refine ⟨?_, bindingName_notMem h path⟩
  obtain ⟨name, -, ⟨heq, hkeyword, -⟩ | heq⟩ := bindingName_eq reserved path
  · rwa [heq]
  · rw [heq]
    exact (append_underscore_isFree h name).not_isKeyword

/-! ## How a name begins -/

/-- What a leading digit is replaced in begins with none. -/
theorem not_isDigit_of_mem_head?_undigited (text : List Char) :
    ∀ c ∈ (undigited text).head?, c.isDigit = false := by
  cases text with
  | nil => simp [undigited]
  | cons d rest =>
    intro c hc
    rw [undigited, List.head?_cons, Option.mem_some_iff] at hc
    subst hc
    split
    · decide
    · next hdigit => exact Bool.eq_false_iff.2 hdigit

/-- No binding name begins with a digit. -/
theorem not_isDigit_of_mem_head? :
    ∀ c ∈ (bindingName reserved path).toList.head?, c.isDigit = false := by
  obtain ⟨name, hname, heq⟩ := bindingName_eq reserved path
  have hhead : ∀ c ∈ name.toList.head?, c.isDigit = false := by
    rw [hname, String.toList_ofList]
    exact not_isDigit_of_mem_head?_undigited _
  rcases heq with ⟨heq, -⟩ | heq
  · rwa [heq]
  · intro c hc
    rw [heq, String.toList_append, List.head?_append, Option.mem_def, Option.or_eq_some_iff] at hc
    rcases hc with hc | ⟨-, hc⟩
    · exact hhead c hc
    · obtain rfl : '_' = c := by simpa using hc
      decide

/-- The binding name of a path is not empty. -/
theorem bindingName_ne_empty (h : path ≠ "") : bindingName reserved path ≠ "" := by
  have hname : Text.isName (bindingName reserved path) = true := isName_bindingName h
  simpa using Text.toList_ne_nil_of_isName hname

/-! ## Names that are their own names -/

/-- A free word of characters of binding names that does not begin with a digit is its own binding
name. -/
theorem bindingName_eq_self {name : String} (hchars : ∀ c ∈ name.toList, isBindingChar c = true)
    (hhead : ∀ c ∈ name.toList.head?, c.isDigit = false) (hfree : IsFree reserved name) :
    bindingName reserved name = name := by
  rw [bindingName, sanitized_eq_self hchars, undigited_eq_self hhead, String.ofList_toList,
    hfree.not_isKeyword]
  simp [hfree.notMem]

/-- **A binding name is its own binding name**, where no reserved name ends with a `_`. -/
theorem bindingName_bindingName (h : ∀ r ∈ reserved, r.toList.getLast? ≠ some '_')
    (path : String) :
    bindingName reserved (bindingName reserved path) = bindingName reserved path :=
  bindingName_eq_self (fun _ hc => isBindingChar_of_mem_bindingName hc) not_isDigit_of_mem_head?
    (isFree_bindingName h path)

/-! ## Usable names -/

/-- Source can bind a module to the name as it stands. -/
structure IsUsable (reserved : List String) (name : String) : Prop extends
    IsFree reserved name where
  ne_empty : name ≠ ""
  chars : ∀ c ∈ name.toList, c.isAlphanum = true ∨ c = '_'
  head : ∀ c ∈ name.toList.head?, c.isDigit = false

/-- **Binding names are usable**: the binding name of every reference that was read is. A name that
is not free becomes so by one `_`, whatever it is, and a binding name is left as it is when it is
taken for a path. -/
theorem bindingName_usable :
    (∀ text r, Reference.read text = .ok r →
      IsUsable Artifact.reservedNames (bindingName Artifact.reservedNames r.modulePath)) ∧
    (∀ name, IsFree Artifact.reservedNames (name ++ "_")) ∧
    ∀ path, bindingName Artifact.reservedNames (bindingName Artifact.reservedNames path) =
      bindingName Artifact.reservedNames path := by
  have hreserved : ∀ r ∈ Artifact.reservedNames, r.toList.getLast? ≠ some '_' := by
    decide +kernel
  refine ⟨fun text r h => ?_, append_underscore_isFree hreserved,
    bindingName_bindingName hreserved⟩
  have hpath : r.modulePath ≠ "" := by
    simpa using (Reference.read_eq_ok_iff.1 h).isModulePath.ne_nil
  have hchars : ∀ c ∈ (bindingName Artifact.reservedNames r.modulePath).toList,
      c.isAlphanum = true ∨ c = '_' := by
    intro c hc
    have hchar := isBindingChar_of_mem_bindingName hc
    rwa [isBindingChar, Bool.or_eq_true, beq_iff_eq] at hchar
  exact ⟨isFree_bindingName hreserved _, bindingName_ne_empty hpath, hchars,
    not_isDigit_of_mem_head?⟩

/-- The names of a path that begins with a digit and of one that is a reserved name are usable. -/
theorem bindingName_usable_taken :
    Reference.read "2fa/naïve.f" = .ok ⟨"2fa/naïve", "f"⟩ ∧
      bindingName Artifact.reservedNames "2fa/naïve" = "_fa_na_ve" ∧
      IsUsable Artifact.reservedNames (bindingName Artifact.reservedNames "2fa/naïve") ∧
      Reference.read "settle.f" = .ok ⟨"settle", "f"⟩ ∧
      bindingName Artifact.reservedNames "settle" = "settle_" ∧
      IsUsable Artifact.reservedNames (bindingName Artifact.reservedNames "settle") := by
  have hdigit : Reference.read "2fa/naïve.f" = .ok ⟨"2fa/naïve", "f"⟩ := by decide +kernel
  have hsettle : Reference.read "settle.f" = .ok ⟨"settle", "f"⟩ := by rfl
  have hdigitName : bindingName Artifact.reservedNames "2fa/naïve" = "_fa_na_ve" := by
    decide +kernel
  have hsettleName : bindingName Artifact.reservedNames "settle" = "settle_" := by
    decide +kernel
  have hdigitUsable := bindingName_usable.1 _ _ hdigit
  have hsettleUsable := bindingName_usable.1 _ _ hsettle
  exact ⟨hdigit, hdigitName, hdigitUsable, hsettle, hsettleName, hsettleUsable⟩

end HandlerPipeline.ModulePath

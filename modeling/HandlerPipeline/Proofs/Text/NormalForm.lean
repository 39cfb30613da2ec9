import HandlerPipeline.Reference
import HandlerPipeline.Text.NormalForm
import Mathlib.Data.List.Basic

/-!
# What normal forms keep

A text of ASCII is its own normal form (`normalized_eq_self`): the tables say nothing of its
characters, and none of them is put together with the one before it. For any name the normal form is
not empty, and holds no separator of the parts of a module path that the name did not hold
(`not_isSeparator_of_mem_normalized`), so the normal forms of the parts of a path are the parts of
a path.
-/

namespace HandlerPipeline.Text

/-! ## What the tables give -/

/-- The code point is no separator of the parts of a module path. -/
def IsInner (n : Nat) : Prop := n ≠ 0x2e ∧ n ≠ 0x2f

/-- Whether the code point is no separator, in a form that the kernel evaluates fast. -/
def isInner (n : Nat) : Bool := !n.beq 0x2e && !n.beq 0x2f

variable {n m : Nat}

/-- The two say the same. -/
theorem isInner_iff : isInner n = true ↔ IsInner n := by
  simp only [isInner, IsInner, Bool.and_eq_true, Bool.not_eq_true', Bool.eq_false_iff, ne_eq,
    Nat.beq_eq]

/-- What the blocks give stands in a block that begins at the code point or before. -/
theorem exists_of_imageIn? {blocks : List (Nat × List Nat)} (h : imageIn? blocks n = some m) :
    ∃ b ∈ blocks, b.1 ≤ n ∧ m ∈ b.2 := by
  induction blocks with
  | nil => cases h
  | cons b blocks ih =>
    obtain ⟨first, images⟩ := b
    rw [imageIn?] at h
    split at h
    · next hin => exact ⟨_, List.mem_cons_self, hin.1, List.mem_of_getElem? h⟩
    · obtain ⟨b, hb, hm⟩ := ih h
      exact ⟨b, List.mem_cons_of_mem _ hb, hm⟩

/-- What a code point stands for is something, and no separator; no code point of ASCII stands for
anything but itself. -/
theorem compatible?_eq_some {code : List Nat} (h : compatible? n = some code) :
    0x80 ≤ n ∧ code ≠ [] ∧ ∀ m ∈ code, IsInner m := by
  have hblocks : (imageBlocks.all fun b => Nat.ble 0x80 b.1 && b.2.all isInner) = true := by
    decide +kernel
  have hexpansions : (expansions.all fun e =>
      Nat.ble 0x80 e.1 && !e.2.isEmpty && e.2.all isInner) = true := by
    decide +kernel
  simp only [List.all_eq_true, Bool.and_eq_true, Nat.ble_eq, isInner_iff, Bool.not_eq_true',
    List.isEmpty_eq_false_iff, and_assoc] at hblocks hexpansions
  unfold compatible? at h
  split at h
  · next image himage =>
    obtain ⟨b, hb, hfirst, hmem⟩ := exists_of_imageIn? himage
    cases h
    exact ⟨Nat.le_trans (hblocks b hb).1 hfirst, List.cons_ne_nil _ _,
      List.forall_mem_singleton.2 ((hblocks b hb).2 _ hmem)⟩
  · obtain ⟨before, after, heq, -⟩ := List.lookup_eq_some_iff.1 h
    exact hexpansions (n, code) (heq ▸ List.mem_append_right _ List.mem_cons_self)

/-- The pairs of the table hold no separator, and behind its first code point nothing of ASCII. -/
theorem composites_sound : ∀ t ∈ composites, IsInner t.1 ∧ 0x80 ≤ t.2.1 ∧ 0x80 ≤ t.2.2 := by
  have hall : (composites.all fun t =>
      isInner t.1 && Nat.ble 0x80 t.2.1 && Nat.ble 0x80 t.2.2) = true := by
    decide +kernel
  simpa only [List.all_eq_true, Bool.and_eq_true, Nat.ble_eq, isInner_iff, and_assoc] using hall

/-- A code point above ASCII is no separator. -/
theorem isInner_of_le (h : 0x80 ≤ n) : IsInner n := ⟨by omega, by omega⟩

section

variable {table : List (Nat × Nat × Nat)}

/-- A code point is split into something. -/
theorem splitBy_ne_nil : splitBy table n ≠ [] := by
  induction table generalizing n with
  | nil => exact List.cons_ne_nil _ _
  | cons t table ih =>
    obtain ⟨first, second, whole⟩ := t
    rw [splitBy]
    split
    · exact List.append_ne_nil_of_right_ne_nil _ (List.cons_ne_nil _ _)
    · exact ih

/-- A code point is not split where no pair makes it. -/
theorem splitBy_eq_self (h : ∀ t ∈ table, n ≠ t.2.2) : splitBy table n = [n] := by
  induction table with
  | nil => rfl
  | cons t table ih =>
    obtain ⟨hne, htable⟩ := List.forall_mem_cons.1 h
    rw [splitBy, if_neg hne, ih htable]

/-- What a code point is split into is no separator, where it is none and the pairs hold none. -/
theorem isInner_of_mem_splitBy (htable : ∀ t ∈ table, IsInner t.1 ∧ IsInner t.2.1)
    (hn : IsInner n) (hm : m ∈ splitBy table n) : IsInner m := by
  induction table generalizing n with
  | nil => rwa [List.mem_singleton.1 hm]
  | cons t table ih =>
    obtain ⟨first, second, whole⟩ := t
    obtain ⟨⟨hfirst, hsecond⟩, htable⟩ := List.forall_mem_cons.1 htable
    rw [splitBy] at hm
    split at hm
    · rcases List.mem_append.1 hm with hm | hm
      · exact ih htable hfirst hm
      · rwa [List.mem_singleton.1 hm]
    · exact ih htable hn hm

end

/-! ## Letters and marks -/

/-- A code point stands for something. -/
theorem decomposed_ne_nil : decomposed n ≠ [] := by
  rw [decomposed]
  cases h : compatible? n with
  | some code => exact (compatible?_eq_some h).2.1
  | none =>
    rw [Option.getD_none, split]
    split
    · exact List.cons_ne_nil _ _
    · exact splitBy_ne_nil

/-- A code point of ASCII stands for itself. -/
theorem decomposed_eq_self (h : n < 0x80) : decomposed n = [n] := by
  have hnone : compatible? n = none := by
    rw [Option.eq_none_iff_forall_ne_some]
    intro code hcode
    have := (compatible?_eq_some hcode).1
    omega
  rw [decomposed, hnone, Option.getD_none, split, if_neg (by omega)]
  refine splitBy_eq_self fun t ht => ?_
  have := (composites_sound t ht).2.2
  omega

/-- What a code point other than a separator stands for is no separator. -/
theorem isInner_of_mem_decomposed (hn : IsInner n) (hm : m ∈ decomposed n) : IsInner m := by
  rw [decomposed] at hm
  cases h : compatible? n with
  | some code =>
    rw [h] at hm
    exact (compatible?_eq_some h).2.2 m hm
  | none =>
    rw [h, Option.getD_none, split] at hm
    split at hm
    · simp only [syllableLetters, List.cons_append, List.nil_append, List.mem_cons] at hm
      refine isInner_of_le ?_
      rcases hm with rfl | rfl | hm
      · omega
      · omega
      · split at hm
        · cases hm
        · rw [List.mem_singleton] at hm
          omega
    · refine isInner_of_mem_splitBy (fun t ht => ?_) hn hm
      exact ⟨(composites_sound t ht).1, isInner_of_le (composites_sound t ht).2.1⟩

/-! ## The order of marks -/

/-- A code point of ASCII is no mark. -/
theorem combiningClass_eq_zero (h : n < 0x80) : combiningClass n = 0 := by
  have hclasses : ∀ k ∈ combiningClasses, ∀ r ∈ k.2, 0x80 ≤ r.1 := by decide +kernel
  rw [combiningClass]
  split
  · next k ranges hfind =>
    exfalso
    have hany := List.find?_some hfind
    obtain ⟨r, hr, hin⟩ := List.any_eq_true.1 hany
    have := hclasses _ (List.mem_of_find?_eq_some hfind) r hr
    rw [Bool.and_eq_true, decide_eq_true_eq] at hin
    omega
  · rfl

/-- A code point is put somewhere among the others. -/
theorem perm_place {code : List Nat} : (place n code).Perm (n :: code) := by
  induction code with
  | nil => exact .refl _
  | cons m code ih =>
    rw [place]
    split
    · exact (ih.cons m).trans (.swap n m code)
    · exact .refl _

/-- Marks are put in order, and nothing is added or left out. -/
theorem perm_ordered {code : List Nat} : (ordered code).Perm code := by
  induction code with
  | nil => exact .refl _
  | cons n code ih => exact perm_place.trans (ih.cons n)

/-- Code points of ASCII are in order. -/
theorem ordered_eq_self {code : List Nat} (h : ∀ n ∈ code, n < 0x80) : ordered code = code := by
  induction code with
  | nil => rfl
  | cons n code ih =>
    obtain ⟨-, hcode⟩ := List.forall_mem_cons.1 h
    have hplace : ordered (n :: code) = place n (ordered code) := rfl
    rw [hplace, ih hcode]
    cases code with
    | nil => rfl
    | cons m code =>
      rw [place, combiningClass_eq_zero (hcode m List.mem_cons_self), if_neg (by omega)]

/-! ## Composition -/

/-- Two code points make none of ASCII, and with a second one of ASCII none at all. -/
theorem composite?_eq_some {first second whole : Nat} (h : composite? first second = some whole) :
    0x80 ≤ second ∧ 0x80 ≤ whole := by
  rw [composite?] at h
  split at h
  · next syllable hsyllable =>
    cases h
    rw [syllable?] at hsyllable
    split at hsyllable
    · rw [Option.some_inj] at hsyllable
      omega
    · split at hsyllable
      · rw [Option.some_inj] at hsyllable
        omega
      · cases hsyllable
  · obtain ⟨t, hfind, rfl⟩ := Option.map_eq_some_iff.1 h
    have hsecond := List.find?_some hfind
    simp only [Bool.and_eq_true, beq_iff_eq] at hsecond
    have hsound := (composites_sound t (List.mem_of_find?_eq_some hfind)).2
    exact ⟨hsecond.2 ▸ hsound.1, hsound.2⟩

/-- A letter before code points of ASCII stays as it is, and so do they. -/
theorem composedFrom_eq_self {letter : Nat} {code : List Nat} (h : ∀ n ∈ code, n < 0x80) :
    composedFrom letter [] code = letter :: code := by
  induction code generalizing letter with
  | nil => rfl
  | cons n code ih =>
    obtain ⟨hn, hcode⟩ := List.forall_mem_cons.1 h
    have hnone : composite? letter n = none := by
      rw [Option.eq_none_iff_forall_ne_some]
      intro whole hwhole
      have := (composite?_eq_some hwhole).1
      omega
    simp only [composedFrom, hnone, ite_self, combiningClass_eq_zero hn, if_pos, ih hcode,
      List.reverse_nil, List.nil_append]

/-- Code points of ASCII stay as they are. -/
theorem composed_eq_self {code : List Nat} (h : ∀ n ∈ code, n < 0x80) : composed code = code := by
  cases code with
  | nil => rfl
  | cons n code =>
    obtain ⟨hn, hcode⟩ := List.forall_mem_cons.1 h
    rw [composed, if_pos (combiningClass_eq_zero hn), composedFrom_eq_self hcode]

/-- Something is left of a letter and what stands behind it. -/
theorem composedFrom_ne_nil {letter : Nat} {kept code : List Nat} :
    composedFrom letter kept code ≠ [] := by
  induction code generalizing letter kept with
  | nil => exact List.cons_ne_nil _ _
  | cons n code ih =>
    rw [composedFrom]
    split
    · exact ih
    · split
      · exact List.cons_ne_nil _ _
      · exact ih

/-- Something is left of a text. -/
theorem composed_ne_nil {code : List Nat} (h : code ≠ []) : composed code ≠ [] := by
  obtain ⟨n, code, rfl⟩ := List.exists_cons_of_ne_nil h
  rw [composed]
  split
  · exact composedFrom_ne_nil
  · exact List.cons_ne_nil _ _

/-- No separator comes from a letter, the marks kept behind it, and what follows, if there is none
among them. -/
theorem isInner_of_mem_composedFrom {letter : Nat} {kept code : List Nat} (hletter : IsInner letter)
    (hkept : ∀ n ∈ kept, IsInner n) (hcode : ∀ n ∈ code, IsInner n) :
    ∀ m ∈ composedFrom letter kept code, IsInner m := by
  have hreverse : ∀ {kept : List Nat}, (∀ n ∈ kept, IsInner n) → ∀ n ∈ kept.reverse, IsInner n :=
    fun h n hn => h n (List.mem_reverse.1 hn)
  induction code generalizing letter kept with
  | nil => exact List.forall_mem_cons.2 ⟨hletter, hreverse hkept⟩
  | cons n code ih =>
    obtain ⟨hn, hcode⟩ := List.forall_mem_cons.1 hcode
    rw [composedFrom]
    split
    · next whole hwhole =>
      have hmade : composite? letter n = some whole := by
        split at hwhole
        · cases hwhole
        · exact hwhole
      exact ih (isInner_of_le (composite?_eq_some hmade).2) hkept hcode
    · split
      · exact List.forall_mem_cons.2 ⟨hletter, List.forall_mem_append.2
          ⟨hreverse hkept, ih hn (by simp) hcode⟩⟩
      · exact ih hletter (List.forall_mem_cons.2 ⟨hn, hkept⟩) hcode

/-- No separator comes from a text without. -/
theorem isInner_of_mem_composed {code : List Nat} (h : ∀ n ∈ code, IsInner n) :
    ∀ m ∈ composed code, IsInner m := by
  induction code with
  | nil => simp [composed]
  | cons n code ih =>
    obtain ⟨hn, hcode⟩ := List.forall_mem_cons.1 h
    rw [composed]
    split
    · exact isInner_of_mem_composedFrom hn (by simp) hcode
    · exact List.forall_mem_cons.2 ⟨hn, ih hcode⟩

/-! ## Normal forms -/

/-- Code points of ASCII are in normal form. -/
theorem normalCode_eq_self {code : List Nat} (h : ∀ n ∈ code, n < 0x80) :
    normalCode code = code := by
  have hdecomposed : code.flatMap decomposed = code := by
    rw [List.flatMap_congr fun n hn => decomposed_eq_self (h n hn), List.flatMap_singleton']
  rw [normalCode, hdecomposed, ordered_eq_self h, composed_eq_self h]

/-- A text has a normal form that is not empty, unless it is empty itself. -/
theorem normalCode_ne_nil {code : List Nat} (h : code ≠ []) : normalCode code ≠ [] := by
  obtain ⟨n, code, rfl⟩ := List.exists_cons_of_ne_nil h
  refine composed_ne_nil fun hnil => ?_
  have hperm : (ordered ((n :: code).flatMap decomposed)).Perm ((n :: code).flatMap decomposed) :=
    perm_ordered
  rw [hnil] at hperm
  exact decomposed_ne_nil (List.append_eq_nil_iff.1 hperm.nil_eq.symm).1

/-- The normal form of a text without separators holds none. -/
theorem isInner_of_mem_normalCode {code : List Nat} (h : ∀ n ∈ code, IsInner n) :
    ∀ m ∈ normalCode code, IsInner m := by
  refine isInner_of_mem_composed fun m hm => ?_
  obtain ⟨n, hn, hm⟩ := List.mem_flatMap.1 (perm_ordered.mem_iff.1 hm)
  exact isInner_of_mem_decomposed (h n hn) hm

/-- **A name of ASCII is its own normal form.** -/
theorem normalized_eq_self {name : String} (h : ∀ c ∈ name.toList, c.toNat < 0x80) :
    normalized name = name := by
  have hcode : ∀ n ∈ name.toList.map Char.toNat, n < 0x80 := by
    rwa [List.forall_mem_map]
  rw [normalized, normalCode_eq_self hcode, List.map_map, List.map_congr_left (g := id),
    List.map_id, String.ofList_toList]
  exact fun c _ => Char.ofNat_toNat c

/-- The normal form of a name is not empty. -/
theorem normalized_ne_empty {name : String} (h : name ≠ "") : normalized name ≠ "" := by
  have hcode : name.toList.map Char.toNat ≠ [] := by simpa using h
  have hnormal : (normalCode (name.toList.map Char.toNat)).map Char.ofNat ≠ [] := by
    simpa using normalCode_ne_nil hcode
  rwa [normalized, ne_eq, ← String.toList_inj, String.toList_ofList]

/-- A character separates parts iff its code point does. -/
theorem isSeparator_eq_false_iff {c : Char} : isSeparator c = false ↔ IsInner c.toNat := by
  have heq : ∀ {d : Char}, c ≠ d ↔ c.toNat ≠ d.toNat := fun {d} => by
    rw [ne_eq, ne_eq, Char.toNat_inj]
  rw [isSeparator, Bool.or_eq_false_iff, beq_eq_false_iff_ne, beq_eq_false_iff_ne, heq, heq,
    and_comm]
  rfl

/-- **The normal form of a name holds no separator**, where the name holds none. -/
theorem not_isSeparator_of_mem_normalized {name : String}
    (h : ∀ c ∈ name.toList, isSeparator c = false) :
    ∀ c ∈ (normalized name).toList, isSeparator c = false := by
  have hcode : ∀ n ∈ name.toList.map Char.toNat, IsInner n :=
    List.forall_mem_map.2 fun c hc => isSeparator_eq_false_iff.1 (h c hc)
  rw [normalized, String.toList_ofList, List.forall_mem_map]
  intro m hm
  rw [isSeparator_eq_false_iff]
  by_cases hvalid : m.isValidChar
  · rw [Char.ofNat, dif_pos hvalid]
    exact isInner_of_mem_normalCode hcode m hm
  · rw [Char.ofNat, dif_neg hvalid]
    exact ⟨by decide, by decide⟩

end HandlerPipeline.Text

import HandlerPipeline.Proofs.Step.Reading

/-!
# Accepted references

What reading a reference tells of its text. An accepted text is that of the reference that was read
(`text_of_read`), it holds no blank (`IsAccepted.not_isBlank`), and its export is a name. So every
reference that was read is read again from its own text, and the references of a step that was read
are of this kind (`Step.isAccepted_of_read`).
-/

namespace HandlerPipeline

namespace Reference

/-- A text without a first defect holds no blank. -/
theorem not_isBlank_of_firstDefect {text : List Char} : ∀ {fresh : Bool} {column : Nat},
    firstDefect fresh column text = none → ∀ c ∈ text, Text.isBlank c = false := by
  induction text with
  | nil => simp
  | cons d rest ih =>
    intro fresh column h c hc
    unfold firstDefect at h
    split at h
    · cases h
    next hd =>
    have hrest : ∀ c ∈ rest, Text.isBlank c = false := by
      split at h
      · split at h
        · cases h
        · exact ih h
      · exact ih h
    rcases List.mem_cons.1 hc with rfl | hc
    · exact Bool.eq_false_iff.2 hd
    · exact hrest c hc

/-- A text is put together again from what it was split into. -/
theorem eq_append_of_splitLast {text before after : List Char} {separator : Char}
    (h : splitLast text = some (before, separator, after)) :
    text = before ++ separator :: after := by
  induction text generalizing before with
  | nil => cases h
  | cons c rest ih =>
    unfold splitLast at h
    split at h
    · next hs => cases h; rw [ih hs, List.cons_append]
    · split at h
      · cases h; rfl
      · cases h

/-- What an accepted text looks like, and the reference that is read from it. -/
theorem readChars_eq_ok {text : List Char} {r : Reference} (h : readChars text = .ok r) :
    firstDefect true 1 text = none ∧ Text.isName r.exportName = true ∧
      text = r.modulePath.toList ++ '.' :: r.exportName.toList := by
  unfold readChars at h
  split at h
  · cases h
  split at h
  · cases h
  next hd =>
  split at h
  · cases h
  · cases h
  next before separator after _ hs =>
  dsimp only at h
  split at h
  · cases h
  next hdot =>
  split at h
  · cases h
  next hname =>
  cases h
  rw [Decidable.not_not] at hdot
  refine ⟨hd, by simpa using hname, ?_⟩
  rw [String.toList_ofList, String.toList_ofList, eq_append_of_splitLast hs, hdot]

/-- The characters of a reference's text. -/
theorem toList_text (r : Reference) :
    r.text.toList = r.modulePath.toList ++ '.' :: r.exportName.toList := by
  simp [text]

/-- The text of a reference that was read is the text it was read from. -/
theorem text_of_read {text : String} {r : Reference} (h : read text = .ok r) : r.text = text := by
  rw [← String.toList_inj, toList_text]
  exact (readChars_eq_ok h).2.2.symm

/-- The reference is read from its own text. Every reference that was read is accepted
(`isAccepted_of_read`). -/
def IsAccepted (r : Reference) : Prop := read r.text = .ok r

/-- A reference that was read is accepted. -/
theorem isAccepted_of_read {text : String} {r : Reference} (h : read text = .ok r) :
    r.IsAccepted := by
  rw [IsAccepted, text_of_read h, h]

namespace IsAccepted

variable {r : Reference}

/-- The text of an accepted reference holds no blank. -/
theorem not_isBlank (h : r.IsAccepted) : ∀ c ∈ r.text.toList, Text.isBlank c = false :=
  not_isBlank_of_firstDefect (readChars_eq_ok h).1

/-- The module path of an accepted reference holds no blank. -/
theorem not_isBlank_modulePath (h : r.IsAccepted) :
    ∀ c ∈ r.modulePath.toList, Text.isBlank c = false := by
  intro c hc
  exact h.not_isBlank c (by rw [toList_text]; exact List.mem_append_left _ hc)

/-- The export of an accepted reference is a name. -/
theorem isName_exportName (h : r.IsAccepted) : Text.isName r.exportName = true :=
  (readChars_eq_ok h).2.1

end IsAccepted

end Reference

namespace Step

/-- Every reference of the step is accepted. -/
def IsAccepted (s : Step) : Prop := ∀ r ∈ s.references, r.IsAccepted

/-- A side that was read is an accepted reference. -/
theorem SideReads.isAccepted {side? : Option Value} {r : Reference}
    (h : SideReads side? (some r)) : r.IsAccepted := by
  cases h with
  | given h => exact Reference.isAccepted_of_read h

/-- **The references of a step that was read are accepted.** -/
theorem isAccepted_of_read {raw : Value} {s : Step} (h : read raw = .ok s) : s.IsAccepted := by
  obtain ⟨_, _, -, hsuccess, hfailure⟩ := read_eq_ok_iff.1 h
  intro r hr
  rw [references, List.mem_append, Option.mem_toList, Option.mem_toList] at hr
  rcases hr with hr | hr
  · exact SideReads.isAccepted (hr ▸ hsuccess)
  · exact SideReads.isAccepted (hr ▸ hfailure)

end Step

end HandlerPipeline

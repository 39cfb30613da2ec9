import HandlerPipeline.Descriptor.Validate
import HandlerPipeline.Proofs.Text.Pieces

/-!
# Valid descriptors

What a valid section of a descriptor says. A section is valid where all its fields are
(`Reading.also_eq_valid_iff`), so each field of a valid section was read from its own entry. A valid
declaration bears the name that its map gives (`Declaration.name_of_read`), and the folder of valid
settings is a path of names (`Settings.isPath_of_read`).
-/

namespace HandlerPipeline

namespace Reading

variable {α β : Type}

/-- A mapped reading is valid where the reading under it is. -/
theorem map_eq_valid_iff {f : α → β} {r : Reading α} {b : β} :
    r.map f = .valid b ↔ ∃ a, r = .valid a ∧ f a = b := by
  cases r <;> simp [map]

/-- Two readings together are valid where both are. -/
theorem also_eq_valid_iff {r : Reading (α → β)} {r' : Reading α} {b : β} :
    r.also r' = .valid b ↔ ∃ f a, r = .valid f ∧ r' = .valid a ∧ f a = b := by
  cases r <;> cases r' <;> simp [also]

/-- A key in front of the issues keeps a reading valid, and makes none valid. -/
theorem under_eq_valid_iff {key : String} {r : Reading α} {a : α} :
    r.under key = .valid a ↔ r = .valid a := by
  cases r <;> simp [under]

end Reading

namespace Field

variable {α : Type} {read : Value → Reading α} {entries : List (Value × Value)} {a : α}

/-- A valid field that has to be given is read from its entry. -/
theorem required_eq_valid_iff {key : String} :
    required key read entries = .valid a ↔
      ∃ v, Value.lookup key entries = some v ∧ read v = .valid a := by
  unfold required
  split
  · next v hv => simp [hv, Reading.under_eq_valid_iff]
  · next hv => simp [hv, Reading.refuse]

/-- A valid field that may be left out is read from its entry, or else it is the default. -/
theorem of_optional_eq_valid {spellings : List String} {default : α}
    (h : optional spellings read default entries = .valid a) :
    (∃ v, read v = .valid a) ∨ a = default := by
  unfold optional at h
  split at h
  · next key v _ => exact .inl ⟨v, Reading.under_eq_valid_iff.1 h⟩
  · cases h
    exact .inr rfl

/-- A text is read as it is. -/
theorem text_eq_valid_iff {v : Value} {s : String} : text v = .valid s ↔ v = .text s := by
  cases v <;> simp [text, Reading.refuse]

end Field

/-- A valid declaration is read from a map, and bears the name that the map gives. -/
theorem Declaration.name_of_read {raw : Value} {d : Declaration} (h : read raw = .valid d) :
    ∃ entries, raw.entries? = some entries ∧ Value.lookup "name" entries = some (.text d.name) := by
  unfold read at h
  split at h
  · cases h
  · next entries hentries =>
    obtain ⟨_, _, hhandler, _, rfl⟩ := Reading.also_eq_valid_iff.1 h
    obtain ⟨_, _, hfields, _, rfl⟩ := Reading.also_eq_valid_iff.1 hhandler
    obtain ⟨name, hname, rfl⟩ := Reading.map_eq_valid_iff.1 hfields
    obtain ⟨v, hv, htext⟩ := Field.required_eq_valid_iff.1 hname
    rw [Field.text_eq_valid_iff] at htext
    subst htext
    exact ⟨entries, hentries, hv⟩

/-! ## Folders -/

/-- The folder is the path of these names, one at least. -/
structure Folder.IsPath (folder : String) (names : List String) : Prop where
  ne_nil : names ≠ []
  isName : ∀ name ∈ names, Text.isName name = true
  eq_intercalate : folder = "/".intercalate names

/-- A folder that was read is the path of its segments. -/
theorem Folder.isPath_of_read {given folder : String} (h : read given = .ok folder) :
    IsPath folder (segments given) := by
  unfold read at h
  split at h
  · cases h
  · next hnone =>
    cases h
    refine ⟨by simp [segments, Text.pieces_ne_nil], fun name hname => ?_, rfl⟩
    simpa using List.find?_eq_none.1 hnone name hname

/-- The folder of valid settings is read as a field that may be left out. -/
theorem Settings.folder_of_read {raw : Value} {s : Settings} (h : read raw = .valid s) :
    ∃ entries, raw.entries? = some entries ∧
      Field.optional ["folderName", "folder_name"] Field.folder default.folder entries =
        .valid s.folder := by
  unfold read at h
  split at h
  · cases h
  · next entries hentries =>
    -- The folder is the first field, so the readings of the others are taken off from the last on.
    obtain ⟨_, _, hmerge, _, rfl⟩ := Reading.also_eq_valid_iff.1 h
    obtain ⟨_, _, hruntime, _, rfl⟩ := Reading.also_eq_valid_iff.1 hmerge
    obtain ⟨_, _, hafter, _, rfl⟩ := Reading.also_eq_valid_iff.1 hruntime
    obtain ⟨_, _, hbefore, _, rfl⟩ := Reading.also_eq_valid_iff.1 hafter
    obtain ⟨_, _, hclean, _, rfl⟩ := Reading.also_eq_valid_iff.1 hbefore
    obtain ⟨_, _, hfields, _, rfl⟩ := Reading.also_eq_valid_iff.1 hclean
    obtain ⟨folder, hfolder, rfl⟩ := Reading.map_eq_valid_iff.1 hfields
    exact ⟨entries, hentries, hfolder⟩

/-- The folder of valid settings is a path of names. -/
theorem Settings.isPath_of_read {raw : Value} {s : Settings} (h : read raw = .valid s) :
    ∃ names, Folder.IsPath s.folder names := by
  obtain ⟨entries, -, hfolder⟩ := folder_of_read h
  rcases Field.of_optional_eq_valid hfolder with ⟨v, hv⟩ | heq
  · unfold Field.folder at hv
    split at hv
    · split at hv
      · next hread =>
        cases hv
        exact ⟨_, Folder.isPath_of_read hread⟩
      · cases hv
    · cases hv
  · rw [heq]
    exact ⟨["middleware_chain_handlers"], List.cons_ne_nil _ _, by decide +kernel, rfl⟩

end HandlerPipeline

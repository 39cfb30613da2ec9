import HandlerPipeline.Proofs.Descriptor.Valid

/-!
# Folders of settings

The slashes at the two ends of a folder say nothing. What is left without them (`Folder.IsBare`) is
one text (`Folder.IsBare.unique`), and the same one for two folders that agree but for these slashes
(`Folder.IsBare.eq_iff`). The slashes inside part the folder into its segments, and into no others
(`Folder.segments_eq_iff`); two of them side by side have an empty one between them, which is no
name. A folder whose segments are names is read as these names, joined (`Folder.read_eq_ok_iff`),
and what was read is read as it is (`Folder.read_of_read`). Of any other folder the first segment
that is no name is reported (`Folder.read_eq_error_iff`). Valid settings have the folder that was
read of the one they give, and settings that give one that is not read are refused with that report
in front of all others.
-/

namespace HandlerPipeline

namespace Folder

variable {given other folder folder' text inner core segment : String} {texts : List String}

/-! ## Slashes at the ends -/

/-- The text is the core with slashes around it, if any. -/
def IsPadded (text core : String) : Prop :=
  ∃ front behind, text.toList = front ++ core.toList ++ behind ∧ (∀ c ∈ front, c = '/') ∧
    ∀ c ∈ behind, c = '/'

/-- The core is what is left of the text without any slash at its two ends. -/
structure IsBare (text core : String) : Prop where
  isPadded : IsPadded text core
  head : core.toList.head? ≠ some '/'
  last : core.toList.getLast? ≠ some '/'

/-- The two texts agree but for the slashes at their ends. -/
def AgreeInside (text other : String) : Prop := ∃ core, IsPadded text core ∧ IsPadded other core

/-- Slashes around a text with slashes around it are slashes around that text. -/
theorem IsPadded.trans (h : IsPadded text inner) (h' : IsPadded inner core) :
    IsPadded text core := by
  obtain ⟨front, behind, htext, hfront, hbehind⟩ := h
  obtain ⟨front', behind', hinner, hfront', hbehind'⟩ := h'
  refine ⟨front ++ front', behind' ++ behind, ?_, List.forall_mem_append.2 ⟨hfront, hfront'⟩,
    List.forall_mem_append.2 ⟨hbehind', hbehind⟩⟩
  rw [htext, hinner]
  simp only [List.append_assoc]

/-- What is left without slashes at the ends is what trimming leaves. -/
theorem isBare_iff :
    IsBare text core ↔ Text.trimEnds (· == '/') text.toList = core.toList := by
  rw [Text.trimEnds_eq_iff]
  simp only [beq_iff_eq, beq_eq_false_iff_ne]
  constructor
  · rintro ⟨hpadded, hhead, hlast⟩
    exact ⟨hpadded, fun c hc heq => hhead (heq ▸ hc), fun c hc heq => hlast (heq ▸ hc)⟩
  · rintro ⟨hpadded, hhead, hlast⟩
    exact ⟨hpadded, fun hc => hhead _ hc rfl, fun hc => hlast _ hc rfl⟩

/-- Something is left of every text, be it the empty text. -/
theorem exists_isBare (text : String) : ∃ core, IsBare text core :=
  ⟨_, isBare_iff.2 String.toList_ofList.symm⟩

/-- Only one text is left. -/
theorem IsBare.unique (h : IsBare text core) (h' : IsBare text inner) : core = inner := by
  rw [← String.toList_inj, ← isBare_iff.1 h, ← isBare_iff.1 h']

/-- What is left has nothing more to lose. -/
theorem IsBare.self (h : IsBare text core) : IsBare core core :=
  ⟨⟨[], [], by simp, by simp, by simp⟩, h.head, h.last⟩

/-- **The same is left of two texts** iff they agree but for the slashes at their ends. -/
theorem IsBare.eq_iff (h : IsBare text core) (h' : IsBare other inner) :
    core = inner ↔ AgreeInside text other := by
  constructor
  · rintro rfl
    exact ⟨core, h.isPadded, h'.isPadded⟩
  · -- What the two share may have slashes at its ends; what is left of it is left of both.
    rintro ⟨shared, htext, hother⟩
    obtain ⟨left, hleft⟩ := exists_isBare shared
    have hcore : core = left :=
      h.unique ⟨htext.trans hleft.isPadded, hleft.head, hleft.last⟩
    have hinner : inner = left :=
      h'.unique ⟨hother.trans hleft.isPadded, hleft.head, hleft.last⟩
    rw [hcore, hinner]

/-! ## Segments -/

/-- The texts stand between the slashes of a folder, those at its two ends left aside. -/
structure AreSegments (given : String) (texts : List String) : Prop where
  ne_nil : texts ≠ []
  slash_notMem : ∀ text ∈ texts, '/' ∉ text.toList
  isBare : IsBare given ("/".intercalate texts)

/-- The segment is the first one of a folder that is no name. -/
def IsFirstBad (given segment : String) : Prop :=
  Text.isName segment = false ∧ ∃ names rest, AreSegments given (names ++ segment :: rest) ∧
    ∀ name ∈ names, Text.isName name = true

/-- **A folder has one list of segments**, the one that is read. -/
theorem segments_eq_iff : segments given = texts ↔ AreSegments given texts := by
  obtain ⟨core, hcore⟩ := exists_isBare given
  have hpieces : segments given = texts ↔
      Text.pieces (· == '/') core.toList = texts.map String.toList := by
    rw [segments, isBare_iff.1 hcore]
    constructor
    · rintro rfl
      simp [Function.comp_def]
    · intro h
      simp [h, Function.comp_def]
  have hjoined : core.toList = ['/'].intercalate (texts.map String.toList) ↔
      core = "/".intercalate texts := by
    rw [← String.toList_inj, String.toList_intercalate]
    rfl
  rw [hpieces, Text.pieces_eq_iff, List.forall_mem_map, hjoined, ne_eq, List.map_eq_nil_iff]
  constructor
  · rintro ⟨hne, hfree, rfl⟩
    exact ⟨hne, hfree, hcore⟩
  · rintro ⟨hne, hfree, hbare⟩
    exact ⟨hne, hfree, hcore.unique hbare⟩

/-! ## Reading -/

/-- **A folder is read where its segments are names**, as these names, joined. -/
theorem read_eq_ok_iff :
    read given = .ok folder ↔ ∃ names, AreSegments given names ∧ IsPath folder names := by
  constructor
  · intro h
    exact ⟨segments given, segments_eq_iff.1 rfl, isPath_of_read h⟩
  · rintro ⟨names, hsegments, hpath⟩
    have hnone : names.find? (!Text.isName ·) = none :=
      List.find?_eq_none.2 fun name hname => by simp [hpath.isName name hname]
    rw [read, segments_eq_iff.2 hsegments, hnone, hpath.eq_intercalate]

/-- **Where a folder is not read**, its first segment that is no name is at fault. -/
theorem read_eq_error_iff : read given = .error segment ↔ IsFirstBad given segment := by
  have hfind : read given = .error segment ↔
      (segments given).find? (!Text.isName ·) = some segment := by
    unfold read
    split
    · next hbad => simp [hbad]
    · next hnone => simp [hnone]
  rw [hfind, List.find?_eq_some_iff_append, Bool.not_eq_true']
  simp only [segments_eq_iff, Bool.not_not, IsFirstBad]

/-- A folder that was read is read as it is. -/
theorem read_of_read (h : read given = .ok folder) : read folder = .ok folder := by
  obtain ⟨names, hsegments, hpath⟩ := read_eq_ok_iff.1 h
  have hbare : IsBare folder ("/".intercalate names) := by
    rw [hpath.eq_intercalate]
    exact hsegments.isBare.self
  exact read_eq_ok_iff.2 ⟨names, ⟨hsegments.ne_nil, hsegments.slash_notMem, hbare⟩, hpath⟩

/-- **Two folders are read as the same one** iff they agree but for the slashes at their ends. -/
theorem eq_iff_of_read (h : read given = .ok folder) (h' : read other = .ok folder') :
    folder = folder' ↔ AgreeInside given other := by
  obtain ⟨names, hsegments, hpath⟩ := read_eq_ok_iff.1 h
  obtain ⟨names', hsegments', hpath'⟩ := read_eq_ok_iff.1 h'
  rw [hpath.eq_intercalate, hpath'.eq_intercalate]
  exact hsegments.isBare.eq_iff hsegments'.isBare

end Folder

/-! ## In settings -/

namespace Field

variable {given folder key : String} {issues : List Issue}

/-- A valid folder is one that was read. -/
theorem folder_eq_valid_iff :
    Field.folder (.text given) = .valid folder ↔ Folder.read given = .ok folder := by
  cases h : Folder.read given <;> simp [Field.folder, h, Reading.refuse]

/-- A folder that is not read is the one issue of its field. -/
theorem folder_eq_invalid_iff : Field.folder (.text given) = .invalid issues ↔
    ∃ segment, Folder.read given = .error segment ∧
      issues = [⟨[], .unimportableFolder given segment⟩] := by
  cases h : Folder.read given <;> simp [Field.folder, h, Reading.refuse, eq_comm]

/-- A field that is given is read from what is given, under the key that gives it. -/
theorem optional_of_given {α : Type} {spellings : List String} {read : Value → Reading α}
    {default : α} {entries : List (Value × Value)} {v : Value}
    (h : Field.given spellings entries = some (key, v)) :
    optional spellings read default entries = (read v).under key := by
  rw [optional, h]

end Field

namespace Reading

variable {α β : Type} {issues : List Issue}

/-- The issues are reported, in front of all others. -/
def ReportsFirst (r : Reading α) (issues : List Issue) : Prop :=
  ∃ more, r = .invalid (issues ++ more)

/-- A mapped reading reports what the reading under it does. -/
theorem ReportsFirst.map {f : α → β} {r : Reading α} (h : r.ReportsFirst issues) :
    (r.map f).ReportsFirst issues := by
  obtain ⟨more, rfl⟩ := h
  exact ⟨more, rfl⟩

/-- What the first of two readings reports is reported in front of what the second does. -/
theorem ReportsFirst.also {r : Reading (α → β)} {r' : Reading α} (h : r.ReportsFirst issues) :
    (r.also r').ReportsFirst issues := by
  obtain ⟨more, rfl⟩ := h
  cases r' with
  | valid a => exact ⟨more, rfl⟩
  | invalid others => exact ⟨more ++ others, by rw [Reading.also, List.append_assoc]⟩

end Reading

namespace Settings

variable {raw : Value} {key given segment : String} {s : Settings}

/-- The settings give their folder by the text, under this spelling of the key. -/
def GivesFolder (raw : Value) (key given : String) : Prop :=
  ∃ entries, raw.entries? = some entries ∧
    Field.given ["folderName", "folder_name"] entries = some (key, .text given)

/-- Valid settings have the folder that was read of what they give. -/
theorem folder_eq_of_read (hgives : GivesFolder raw key given) (h : read raw = .valid s) :
    Field.folder (.text given) = .valid s.folder := by
  obtain ⟨entries, hentries, hkey⟩ := hgives
  obtain ⟨entries', hentries', hfolder⟩ := folder_of_read h
  cases hentries.symm.trans hentries'
  rw [Field.optional_of_given hkey] at hfolder
  exact Reading.under_eq_valid_iff.1 hfolder

/-- Settings that give a folder that is not read are refused for it, whatever else is wrong. -/
theorem reportsFirst_of_isFirstBad (hgives : GivesFolder raw key given)
    (h : Folder.IsFirstBad given segment) :
    (read raw).ReportsFirst [⟨[key], .unimportableFolder given segment⟩] := by
  obtain ⟨entries, hentries, hkey⟩ := hgives
  have hinvalid : Field.folder (.text given) =
      .invalid [⟨[], .unimportableFolder given segment⟩] :=
    Field.folder_eq_invalid_iff.2 ⟨segment, Folder.read_eq_error_iff.2 h, rfl⟩
  have hfolder : (Field.optional ["folderName", "folder_name"] Field.folder default.folder
      entries).ReportsFirst [⟨[key], .unimportableFolder given segment⟩] := by
    rw [Field.optional_of_given hkey, hinvalid]
    exact ⟨[], rfl⟩
  -- The folder is the first field, so the readings of the others are put behind it one by one.
  rw [read, hentries]
  exact hfolder.map.also.also.also.also.also.also

/-- Settings that give nothing but a folder are read where the folder is. -/
theorem read_singleton (hkey : key = "folderName" ∨ key = "folder_name") :
    read (.map [(.text key, .text given)]) =
      ((Field.folder (.text given)).under key).map fun f => { default with folder := f } := by
  have hgiven : Field.given ["folderName", "folder_name"] [(.text key, .text given)] =
      some (key, .text given) := by
    rcases hkey with rfl | rfl <;> rfl
  dsimp only [read, Value.entries?]
  rw [Field.optional_of_given hgiven]
  generalize Field.folder (.text given) = r
  rcases hkey with rfl | rfl <;> cases r <;> rfl

end Settings

/-- What is made of a folder that settings give by a text. -/
structure FolderLaw (given : String) : Prop where
  /-- It is valid iff its segments are names, and then it is these names, joined. -/
  accepted : ∀ folder, Field.folder (.text given) = .valid folder ↔
    ∃ names, Folder.AreSegments given names ∧ Folder.IsPath folder names
  /-- Otherwise its first segment that is no name is its one issue. -/
  rejected : ∀ issues, Field.folder (.text given) = .invalid issues ↔
    ∃ segment, Folder.IsFirstBad given segment ∧
      issues = [⟨[], .unimportableFolder given segment⟩]
  /-- The message of that issue names the segment. -/
  message : ∀ segment, (Defect.unimportableFolder given segment).message =
    "Value error, " ++ ("folder_name " ++ Text.quote given ++ " cannot be imported: " ++
      Text.quote segment ++ " is not a valid module name")
  /-- A folder that was read is read as it is. -/
  unchanged : ∀ folder, Field.folder (.text given) = .valid folder →
    Field.folder (.text folder) = .valid folder
  /-- Two folders are read as the same one iff they agree but for the slashes at their ends. -/
  same : ∀ other folder folder', Field.folder (.text given) = .valid folder →
    Field.folder (.text other) = .valid folder' →
    (folder = folder' ↔ Folder.AgreeInside given other)
  /-- Valid settings that give the folder have the one that was read. -/
  kept : ∀ raw key s, Settings.GivesFolder raw key given → Settings.read raw = .valid s →
    Field.folder (.text given) = .valid s.folder
  /-- Settings that give it are refused for its first segment that is no name, if there is one,
  whatever else is wrong with them. -/
  reported : ∀ raw key segment, Settings.GivesFolder raw key given →
    Folder.IsFirstBad given segment →
    (Settings.read raw).ReportsFirst [⟨[key], .unimportableFolder given segment⟩]
  /-- Settings that give nothing else are valid iff it is, under both spellings of its key. -/
  alone : ∀ key, key = "folderName" ∨ key = "folder_name" →
    Settings.read (.map [(.text key, .text given)]) =
      ((Field.folder (.text given)).under key).map fun f => { Settings.default with folder := f }

/-- **Folders are read as paths of names**: a text is accepted iff it is names joined by single
slashes, with or without slashes around them, and its reading is these names without the slashes
around them. -/
theorem Field.folder_normal (given : String) : FolderLaw given := by
  refine ⟨fun folder => ?_, fun issues => ?_, fun _ => rfl, fun folder h => ?_,
    fun other folder folder' h h' => ?_, fun _ _ _ => Settings.folder_eq_of_read,
    fun _ _ _ => Settings.reportsFirst_of_isFirstBad, fun _ => Settings.read_singleton⟩
  · rw [folder_eq_valid_iff, Folder.read_eq_ok_iff]
  · simp only [folder_eq_invalid_iff, Folder.read_eq_error_iff]
  · exact folder_eq_valid_iff.2 (Folder.read_of_read (folder_eq_valid_iff.1 h))
  · exact Folder.eq_iff_of_read (folder_eq_valid_iff.1 h) (folder_eq_valid_iff.1 h')

end HandlerPipeline

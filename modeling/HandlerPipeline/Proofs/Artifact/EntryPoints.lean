import HandlerPipeline.EntryPoint
import HandlerPipeline.Proofs.BuildPass.Naming
import HandlerPipeline.Proofs.Descriptor.Valid
import HandlerPipeline.Proofs.Path.Joined
import HandlerPipeline.Proofs.Reference.Language
import HandlerPipeline.Proofs.Text.Names

/-!
# Entry points and artifact files

The entry point of an artifact and its file are made of the same folder and the same name, but a
host reads the entry point as a dotted name, and the file as a path. Both lead to one place where no
part of the name says something else to the host than to the file system: where the name holds no
dot, and no part of it but the last is empty (`IsImportable`). Such an artifact is found where
nothing stands in its way; every other artifact is written to a file that its entry point never
leads to, because a dotted name goes one folder down for each of its separators, and a path does not
(`entryPoint_resolves`).
-/

namespace HandlerPipeline

/-! ## Names that can be imported -/

/-- The host reads the name as the path that it is: it holds no dot, and no part before a slash is
empty. -/
def IsImportable (name : String) : Prop :=
  '.' ∉ name.toList ∧ ∀ piece ∈ (Text.pieces (· == '/') name.toList).dropLast, piece ≠ []

instance {name : String} : Decidable (IsImportable name) :=
  inferInstanceAs (Decidable (_ ∧ _))

variable {folder name : String} {names root : List String}

/-- What may be named in source can be imported. -/
theorem isImportable_of_isName (h : Text.isName name = true) : IsImportable name := by
  have hchars : ∀ c ∈ name.toList, c ≠ '/' ∧ c ≠ '.' := by
    intro c hc
    have hseparator := (Reference.isPartChar_of_isName h c hc).2
    rw [isSeparator, Bool.or_eq_false_iff, beq_eq_false_iff_ne, beq_eq_false_iff_ne] at hseparator
    exact hseparator
  refine ⟨fun hdot => (hchars _ hdot).2 rfl, ?_⟩
  rw [Text.pieces_of_not_separates fun c hc => beq_eq_false_iff_ne.2 (hchars c hc).1]
  simp

/-! ## What an entry point says -/

/-- An entry point names the handler, in the module whose parts are those of the folder and the
name. -/
theorem EntryPoint.read_entryPointOf : ∃ e, read (Artifact.entryPointOf folder name) = .ok e ∧
    e.moduleName.toList =
      (folder ++ "/" ++ name).toList.map (fun c => if c = '/' then '.' else c) ∧
    e.parts = ModulePath.parts (folder ++ "/" ++ name) ∧ e.exportName = "handler" := by
  have hcut : Text.cutLast '.' (Artifact.entryPointOf folder name).toList =
      some ((folder ++ "/" ++ name).toList, "handler".toList) :=
    Text.cutLast_eq_some_iff.2 ⟨by simp [Artifact.entryPointOf], by decide⟩
  have hread : read (Artifact.entryPointOf folder name) = .ok
      ⟨String.ofList ((folder ++ "/" ++ name).toList.map fun c => if c = '/' then '.' else c),
        String.ofList "handler".toList⟩ := by
    rw [read, hcut]
  refine ⟨_, hread, String.toList_ofList, ?_, String.ofList_toList⟩
  have hpieces : Text.pieces (· == '.')
      ((folder ++ "/" ++ name).toList.map fun c => if c = '/' then '.' else c) =
      Text.pieces isSeparator (folder ++ "/" ++ name).toList := by
    refine Text.pieces_map (fun c _ => ?_) (fun c _ hc => ?_)
    · rw [isSeparator]
      by_cases hslash : c = '/' <;> simp [hslash]
    · rw [isSeparator, Bool.or_eq_false_iff, beq_eq_false_iff_ne] at hc
      rw [if_neg hc.1]
  rw [parts, String.toList_ofList, hpieces]
  rfl

/-! ## Below the artifact folder -/

namespace Folder.IsPath

/-- The names of a folder are plain. -/
theorem isPlain (h : IsPath folder names) : ∀ name ∈ names, Path.IsPlain name := by
  intro name hname
  have hchars := Reference.isPartChar_of_isName (h.isName name hname)
  refine Path.isPlain_of_notMem ?_ (fun hc => absurd (hchars _ hc).2 (by decide))
    fun hc => absurd (hchars _ hc).2 (by decide)
  exact fun hempty => Text.toList_ne_nil_of_isName (h.isName name hname) (by rw [hempty]; rfl)

/-- The text of a folder begins with a character of a name. -/
theorem exists_head (h : IsPath folder names) :
    ∃ c rest, folder.toList = c :: rest ∧ isSeparator c = false := by
  obtain ⟨first, others, rfl⟩ := List.exists_cons_of_ne_nil h.ne_nil
  have hfirst := h.isName first (.head _)
  obtain ⟨c, rest, hc⟩ := List.exists_cons_of_ne_nil (Text.toList_ne_nil_of_isName hfirst)
  have hfree := (Reference.isPartChar_of_isName hfirst c (by rw [hc]; exact .head _)).2
  rw [h.eq_intercalate, String.toList_intercalate, List.map_cons, hc]
  cases others with
  | nil => exact ⟨c, rest, by simp, hfree⟩
  | cons next others =>
    rw [List.map_cons, List.intercalate_cons_cons]
    exact ⟨c, _, rfl, hfree⟩

/-- A folder is cut at its slashes into its names, also where it is cut at dots as well. -/
theorem pieces {separates : Char → Bool} (h : IsPath folder names)
    (hslash : separates '/' = true) (hseparates : ∀ c, separates c = true → isSeparator c = true) :
    (Text.pieces separates folder.toList).map String.ofList = names := by
  have hfree : ∀ t ∈ names.map String.toList, ∀ c ∈ t, separates c = false := by
    intro _ ht c hc
    obtain ⟨name, hname, rfl⟩ := List.mem_map.1 ht
    have hpart := (Reference.isPartChar_of_isName (h.isName name hname) c hc).2
    rw [Bool.eq_false_iff]
    exact fun hsep => Bool.eq_false_iff.1 hpart (hseparates c hsep)
  have hfolder : folder.toList = ['/'].intercalate (names.map String.toList) := by
    rw [h.eq_intercalate, String.toList_intercalate]
    rfl
  rw [hfolder, Text.pieces_intercalate hslash hfree (by simpa using h.ne_nil), List.map_map]
  simp [Function.comp_def]

/-- The parts of a path below the folder are the folder's names and its own parts. -/
theorem parts_append (h : IsPath folder names) :
    ModulePath.parts (folder ++ "/" ++ name) = names ++ ModulePath.parts name := by
  have htext : (folder ++ "/" ++ name).toList = folder.toList ++ '/' :: name.toList := by
    simp
  rw [ModulePath.parts, htext, Text.pieces_append rfl, List.map_append,
    h.pieces rfl fun _ hc => hc]
  rfl

/-- A path below the folder leads on from the folder's names. -/
theorem walk_append (h : IsPath folder names) :
    Path.walk root (folder ++ "/" ++ name) =
      Path.follow (root ++ names) (Path.components name) := by
  obtain ⟨c, rest, hfolder, hc⟩ := h.exists_head
  have habsolute : Path.isAbsolute (folder ++ "/" ++ name) = false := by
    rw [isSeparator, Bool.or_eq_false_iff, beq_eq_false_iff_ne] at hc
    simp [Path.isAbsolute, hfolder, hc.1]
  have hcomponents : Path.components folder = names := by
    rw [Path.components, h.pieces rfl fun c hc => by rw [isSeparator, hc]; rfl,
      List.filter_eq_self]
    intro part hpart
    simp [(h.isPlain part hpart).ne_empty, (h.isPlain part hpart).ne_dot]
  rw [Path.walk, habsolute, Path.components_append_slash, hcomponents, Path.follow_append,
    if_neg Bool.false_ne_true, Path.follow_of_isPlain h.isPlain]

/-- The entry point of a function leads down its parts, from the folder's names on. -/
theorem resolve_entryPointOf {t : FileTree} (h : IsPath folder names) :
    EntryPoint.resolve t root (Artifact.entryPointOf folder name) =
      match Artifact.descend t root [] (names ++ ModulePath.parts name) with
      | .ok () =>
        .ok (Artifact.loadedFile t (root ++ (names ++ ModulePath.parts name)), "handler")
      | .error cause => .error (.load cause) := by
  obtain ⟨e, hread, hmodule, hparts, hexport⟩ := @EntryPoint.read_entryPointOf folder name
  obtain ⟨c, rest, hfolder, hc⟩ := h.exists_head
  rw [isSeparator, Bool.or_eq_false_iff, beq_eq_false_iff_ne, beq_eq_false_iff_ne] at hc
  -- The module's name begins with the folder's, so it is neither empty nor relative.
  have hhead : ∃ rest', e.moduleName.toList = c :: rest' := by
    rw [hmodule, String.toList_append, String.toList_append, hfolder]
    exact ⟨_, by rw [List.cons_append, List.cons_append, List.map_cons, if_neg hc.1]⟩
  obtain ⟨rest', hhead⟩ := hhead
  rw [EntryPoint.resolve, hread]
  dsimp only
  rw [EntryPoint.file, hhead, hparts, hexport, h.parts_append]
  split
  · next hnil => cases hnil
  · next hdot =>
    cases hdot
    exact absurd rfl hc.2
  · cases Artifact.descend t root [] (names ++ ModulePath.parts name) <;> rfl

end Folder.IsPath

/-! ## Where the artifact's file stands -/

/-- The file of the artifact of a function, below the service root. -/
def artifactFile (root : List String) (folder filename : String) : List String :=
  Path.walk root (folder ++ "/" ++ filename)

/-- Where the entry point of a function leads to, without suffix. -/
def importStem (root : List String) (folder name : String) : List String :=
  root ++ ModulePath.parts (folder ++ "/" ++ name)

/-- What a host comes to is a source of the module that the entry point leads to. -/
theorem Folder.IsPath.eq_loadedFile_of_resolve {t : FileTree} {file : List String}
    {exportName : String} (h : IsPath folder names)
    (hresolve : EntryPoint.resolve t root (Artifact.entryPointOf folder name) =
      .ok (file, exportName)) :
    exportName = "handler" ∧ file = Artifact.loadedFile t (importStem root folder name) := by
  rw [h.resolve_entryPointOf] at hresolve
  split at hresolve
  · cases hresolve
    rw [importStem, h.parts_append]
    exact ⟨rfl, rfl⟩
  · cases hresolve

/-- The suffix of an artifact's file holds no slash. -/
theorem ne_slash_of_mem_suffix : ∀ c ∈ ".py".toList, (c == '/') = false := by
  have hslash : '/' ∉ ".py".toList := by decide
  exact fun c hc => beq_eq_false_iff_ne.2 fun heq => hslash (heq ▸ hc)

/-- A name that can be imported is one path to the host and to the file system. -/
theorem IsImportable.components (h : IsImportable name) :
    ∃ above last, ModulePath.parts name = above ++ [last] ∧
      (∀ part ∈ above ++ [last ++ ".py"], Path.IsPlain part) ∧
      Path.components (name ++ ".py") = above ++ [last ++ ".py"] := by
  obtain ⟨hdot, hempty⟩ := h
  obtain ⟨fronts, back, hpieces⟩ := @Text.exists_pieces_eq_concat (· == '/') name.toList
  rw [hpieces, List.dropLast_concat] at hempty
  have hparts : ModulePath.parts name = fronts.map String.ofList ++ [String.ofList back] := by
    rw [ModulePath.parts_of_notMem_dot hdot, hpieces, List.map_append]
    rfl
  have hchars : ∀ piece ∈ fronts ++ [back], ∀ c ∈ piece, c ≠ '/' ∧ c ≠ '.' := by
    intro piece hpiece c hc
    rw [← hpieces] at hpiece
    obtain ⟨hmem, hslash⟩ := Text.of_mem_pieces hpiece c hc
    exact ⟨beq_eq_false_iff_ne.1 hslash, fun heq => hdot (heq ▸ hmem)⟩
  obtain ⟨hfronts, hback⟩ := List.forall_mem_append.1 hchars
  have habove : ∀ part ∈ fronts.map String.ofList, Path.IsPlain part := by
    intro _ hpart
    obtain ⟨piece, hpiece, rfl⟩ := List.mem_map.1 hpart
    have hof := hfronts piece hpiece
    rw [← String.toList_ofList (l := piece)] at hof
    refine Path.isPlain_of_notMem (fun heq => hempty piece hpiece ?_)
      (fun hc => (hof _ hc).1 rfl) fun hc => (hof _ hc).2 rfl
    rw [← String.toList_ofList (l := piece), heq]
    rfl
  have hlast : Path.IsPlain (String.ofList back ++ ".py") := by
    refine Path.isPlain_append ?_ (by decide) (by decide)
    rw [String.toList_ofList]
    exact fun hc => (hback back (.head _) _ hc).1 rfl
  have hplain : ∀ part ∈ fronts.map String.ofList ++ [String.ofList back ++ ".py"],
      Path.IsPlain part :=
    Path.isPlain_concat habove hlast
  refine ⟨fronts.map String.ofList, String.ofList back, hparts, hplain, ?_⟩
  have hfile : Text.pieces (· == '/') (name ++ ".py").toList =
      fronts ++ [back ++ ".py".toList] := by
    rw [String.toList_append]
    exact Text.pieces_append_of_not_separates ne_slash_of_mem_suffix hpieces
  rw [Path.components, hfile, List.map_append, List.map_singleton, String.ofList_append,
    String.ofList_toList, List.filter_eq_self]
  intro part hpart
  simp [(hplain part hpart).ne_empty, (hplain part hpart).ne_dot]

/-- Where the name can be imported, the artifact's file stands where the entry point leads to. -/
theorem artifactFile_of_isImportable (hfolder : Folder.IsPath folder names)
    (h : IsImportable name) :
    artifactFile root folder (name ++ ".py") =
      FileTree.SourceForm.single.file (importStem root folder name) := by
  obtain ⟨above, last, hparts, hplain, hcomponents⟩ := h.components
  rw [artifactFile, hfolder.walk_append, hcomponents, Path.follow_of_isPlain hplain, importStem,
    hfolder.parts_append, hparts, FileTree.SourceForm.file, ← List.append_assoc,
    ← List.append_assoc, ← List.append_assoc]
  have hsuffixed := @FileTree.suffixed_append ".py" last (root ++ names) above
  rw [← List.append_assoc] at hsuffixed
  exact hsuffixed.symm

/-- A source file stands as deep as its module at least. -/
theorem FileTree.SourceForm.length_le_file {stem : List String} {form : SourceForm} :
    stem.length ≤ (form.file stem).length := by
  have hsuffixed : ∀ {suffix : String} {stem : List String},
      stem.length ≤ (suffixed suffix stem).length := by
    intro suffix stem
    induction stem with
    | nil => exact Nat.zero_le _
    | cons first rest ih =>
      cases rest with
      | nil => exact Nat.le_refl _
      | cons next rest => exact Nat.succ_le_succ ih
  cases form with
  | package => simp [SourceForm.file]
  | single => exact hsuffixed

/-- Where the name cannot be imported, the artifact's file stands less deep than the module that the
entry point leads to. -/
theorem length_artifactFile_lt (hfolder : Folder.IsPath folder names) (h : ¬ IsImportable name) :
    (artifactFile root folder (name ++ ".py")).length < (importStem root folder name).length := by
  have hparts := @ModulePath.length_parts name
  have hcount : (name ++ ".py").toList.countP (· == '/') = name.toList.countP (· == '/') := by
    rw [String.toList_append, List.countP_append]
    rfl
  have hcomponents : (Path.components (name ++ ".py")).length < (ModulePath.parts name).length := by
    by_cases hdot : '.' ∈ name.toList
    · -- Each dot leads one folder down for the host, and none for the file system.
      have hle := @Path.length_components_le (name ++ ".py")
      have hpos : 0 < name.toList.countP (· == '.') :=
        List.countP_pos_iff.2 ⟨'.', hdot, by decide⟩
      omega
    · -- An empty part leads one folder down for the host, and nowhere for the file system.
      obtain ⟨fronts, back, hpieces⟩ := @Text.exists_pieces_eq_concat (· == '/') name.toList
      have hempty : [] ∈ fronts := by
        by_contra hnot
        refine h ⟨hdot, ?_⟩
        rw [hpieces, List.dropLast_concat]
        exact fun piece hpiece hnil => hnot (hnil ▸ hpiece)
      have hlt := @Path.length_components_lt (name ++ ".py") <| by
        rw [String.toList_append,
          Text.pieces_append_of_not_separates ne_slash_of_mem_suffix hpieces]
        exact List.mem_append_left _ hempty
      omega
  have hfollow := @Path.length_follow_le (root ++ names) (Path.components (name ++ ".py"))
  rw [artifactFile, hfolder.walk_append, importStem, hfolder.parts_append]
  simp only [List.length_append] at hfollow ⊢
  omega

/-! ## The import -/

/-- No other module stands where the import passes, or where it ends. -/
structure IsClear (t : FileTree) (root parts : List String) : Prop where
  /-- No package stands beside the single file. -/
  noPackage : t.isFile (FileTree.SourceForm.package.file (root ++ parts)) = false
  /-- On the way there is no single file without a package. -/
  noModule : ∀ n < parts.length, 0 < n → t.sourceForm? (root ++ parts.take n) ≠ some .single

/-- A folder stands wherever a file stands below it. -/
theorem FileTree.isFolder_of_isFile {t : FileTree} {path below : List String} (hne : below ≠ [])
    (h : t.isFile (path ++ below) = true) : t.isFolder path = true := by
  rw [isFile, List.contains_iff_mem] at h
  have hproper : path ≠ path ++ below := by
    simpa using hne
  have hany : t.files.any (fun f => path.isPrefixOf f && path != f) = true :=
    List.any_eq_true.2 ⟨_, h, by simp [hproper]⟩
  rw [isFolder, hany, Bool.or_true]

/-- What is clear is clear from the first folder on. -/
theorem IsClear.tail {t : FileTree} {part : String} {parts : List String}
    (h : IsClear t root (part :: parts)) : IsClear t (root ++ [part]) parts := by
  refine ⟨?_, fun n hn _ => ?_⟩
  · rw [List.append_assoc]
    exact h.noPackage
  · rw [List.append_assoc]
    exact h.noModule (n + 1) (Nat.succ_lt_succ hn) (Nat.succ_pos n)

/-- Where no other module stands in the way, the import comes to the single file. -/
theorem Artifact.descend_of_isClear {t : FileTree} {found parts : List String}
    (hclear : IsClear t (root ++ found) parts)
    (hfile : t.isFile (FileTree.SourceForm.single.file (root ++ found ++ parts)) = true) :
    descend t root found parts = .ok () := by
  induction parts generalizing found with
  | nil => rfl
  | cons part parts ih =>
    unfold descend
    dsimp only
    rw [← List.append_assoc]
    have hclear' := hclear.tail
    have hfile' : t.isFile (FileTree.SourceForm.single.file (root ++ found ++ [part] ++ parts)) =
        true := by
      rw [List.append_assoc _ [part]]
      exact hfile
    rw [List.append_assoc root found] at hclear' hfile'
    cases parts with
    | nil =>
      have hnone : t.sourceForm? (root ++ found ++ [part]) = some .single := by
        rw [FileTree.sourceForm?, hclear.noPackage, hfile]
        rfl
      rw [hnone]
    | cons inner parts =>
      have hrest := ih hclear' hfile'
      have hsingle : t.sourceForm? (root ++ found ++ [part]) ≠ some .single :=
        hclear.noModule 1 (by simp) Nat.one_pos
      have hfolder : t.isFolder (root ++ found ++ [part]) = true := by
        obtain ⟨above, last, hsplit⟩ : ∃ above last, inner :: parts = above ++ [last] :=
          ⟨_, _, (List.dropLast_concat_getLast (List.cons_ne_nil inner parts)).symm⟩
        rw [hsplit, FileTree.SourceForm.file, FileTree.suffixed_append, ← List.append_assoc root,
          List.append_assoc _ above] at hfile'
        exact FileTree.isFolder_of_isFile (by simp) hfile'
      cases hform : t.sourceForm? (root ++ found ++ [part]) with
      | none => exact (if_pos hfolder).trans hrest
      | some form =>
        cases form with
        | package => exact hrest
        | single => exact absurd hform hsingle

namespace BuildPass

variable {pass : BuildPass} {d : Declaration} {a : Artifact}

/-- What is said of the entry point of an artifact, for a service whose root is `root`. -/
structure EntryPointLaw (pass : BuildPass) (d : Declaration) (a : Artifact) (root : List String) :
    Prop where
  /-- The module file that the entry point leads to is the artifact's file exactly where the name of
  the function can be imported. -/
  located_iff : FileTree.SourceForm.single.file (importStem root pass.settings.folder d.name) =
    artifactFile root pass.settings.folder a.filename ↔ IsImportable d.name
  /-- Then the host finds the handler in the artifact's file, unless other modules are in the way.
  -/
  found : IsImportable d.name → ∀ t,
    t.isFile (artifactFile root pass.settings.folder a.filename) = true →
    IsClear t root (ModulePath.parts (pass.settings.folder ++ "/" ++ d.name)) →
    EntryPoint.resolve t root a.entryPoint =
      .ok (artifactFile root pass.settings.folder a.filename, "handler")
  /-- And it looks nowhere else, but in a package in the place of that file. -/
  only : IsImportable d.name → ∀ t file name, EntryPoint.resolve t root a.entryPoint =
    .ok (file, name) → name = "handler" ∧
      (file = artifactFile root pass.settings.folder a.filename ∨
        file = FileTree.SourceForm.package.file (importStem root pass.settings.folder d.name) ∧
          t.isFile file = true)
  /-- Where the name cannot be imported, the host never looks into the artifact's file. -/
  never : ¬ IsImportable d.name → ∀ t file name,
    EntryPoint.resolve t root a.entryPoint = .ok (file, name) →
    name = "handler" ∧ file ≠ artifactFile root pass.settings.folder a.filename
  /-- What may be named in source can be imported. -/
  named : Text.isName d.name = true → IsImportable d.name

/-- **An entry point leads to the file of its artifact exactly where the name of the function can be
imported**; where it cannot, the artifact is written and never found. -/
theorem entryPoint_resolves {raw : Value} {memory : Resolved} (root : List String)
    (hsettings : Settings.read raw = .valid pass.settings)
    (hbuilt : (pass.buildFunction memory d).outcome = .ok (some a)) :
    EntryPointLaw pass d a root := by
  obtain ⟨names, hfolder⟩ := Settings.isPath_of_read hsettings
  have hnamed := buildFunction_isNamedFor hbuilt
  have hpoint : a.entryPoint = Artifact.entryPointOf pass.settings.folder d.name :=
    hnamed.entryPoint
  have hloaded : ∀ {t file name}, EntryPoint.resolve t root a.entryPoint = .ok (file, name) →
      name = "handler" ∧
        file = Artifact.loadedFile t (importStem root pass.settings.folder d.name) :=
    fun h => hfolder.eq_loadedFile_of_resolve (hpoint ▸ h)
  -- Whatever is loaded stands deeper than the artifact's file, if the name cannot be imported.
  have hdeeper : ∀ form : FileTree.SourceForm, ¬ IsImportable d.name →
      form.file (importStem root pass.settings.folder d.name) ≠
        artifactFile root pass.settings.folder a.filename := by
    intro form hname heq
    have hlt := @length_artifactFile_lt _ _ _ root hfolder hname
    have hle := @FileTree.SourceForm.length_le_file (importStem root pass.settings.folder d.name)
      form
    rw [heq, hnamed.filename] at hle
    omega
  have hfile : IsImportable d.name → artifactFile root pass.settings.folder a.filename =
      FileTree.SourceForm.single.file (importStem root pass.settings.folder d.name) := by
    rw [hnamed.filename]
    exact artifactFile_of_isImportable hfolder
  refine ⟨⟨fun heq => by_contra fun hname => hdeeper .single hname heq, fun h => (hfile h).symm⟩,
    fun hname t hexists hclear => ?_, fun hname t file name h => ?_,
    fun hname t file name h => ?_, isImportable_of_isName⟩
  · rw [hfile hname] at hexists ⊢
    rw [hpoint, hfolder.resolve_entryPointOf]
    rw [importStem, hfolder.parts_append] at hexists ⊢
    rw [hfolder.parts_append] at hclear
    have hdescend : Artifact.descend t root [] (names ++ ModulePath.parts d.name) = .ok () :=
      Artifact.descend_of_isClear (by rwa [List.append_nil]) (by rwa [List.append_nil])
    rw [hdescend, Artifact.loadedFile, hclear.noPackage]
    rfl
  · obtain ⟨hexport, rfl⟩ := hloaded h
    refine ⟨hexport, ?_⟩
    rw [hfile hname, Artifact.loadedFile]
    split
    · next hpackage => exact .inr ⟨rfl, hpackage⟩
    · exact .inl rfl
  · obtain ⟨hexport, rfl⟩ := hloaded h
    refine ⟨hexport, ?_⟩
    rw [Artifact.loadedFile]
    split
    · exact hdeeper .package hname
    · exact hdeeper .single hname

/-- In a nested folder, a function with a slash in its name is found. -/
theorem entryPoint_resolves_nested :
    let raw : Value := .map [(.text "folderName", .text "build/chains")]
    let pass : BuildPass :=
      ⟨{ Settings.default with folder := "build/chains" }, .default, .ofTable [("m", some .plain)]⟩
    let d : Declaration := ⟨"api/users", .absent, .steps [.text "m.f"], []⟩
    let t : FileTree := ⟨[["svc", "build", "chains", "api", "users.py"]], []⟩
    Settings.read raw = .valid pass.settings ∧
      ∃ a, (pass.buildFunction [] d).outcome = .ok (some a) ∧
        a.entryPoint = "build/chains/api/users.handler" ∧
        EntryPoint.resolve t ["svc"] a.entryPoint =
          .ok (["svc", "build", "chains", "api", "users.py"], "handler") := by
  intro raw pass d t
  have hsettings : Settings.read raw = .valid pass.settings := by rfl
  have hnames : (pass.buildFunction [] d).outcome.toOption.map (Option.map fun a : Artifact =>
      (a.filename, a.entryPoint)) =
      some (some ("api/users.py", "build/chains/api/users.handler")) := by decide +kernel
  obtain ⟨artifact?, hbuilt, hartifact⟩ := exists_ok_of_toOption_map hnames
  obtain ⟨a, rfl, ha⟩ := Option.map_eq_some_iff.1 hartifact
  obtain ⟨hfilename, hpoint⟩ := Prod.mk.inj ha
  have hlaw := entryPoint_resolves ["svc"] hsettings hbuilt
  refine ⟨hsettings, a, hbuilt, hpoint, ?_⟩
  have hfile : artifactFile ["svc"] pass.settings.folder a.filename =
      ["svc", "build", "chains", "api", "users.py"] := by
    rw [hfilename]
    decide +kernel
  have hclear : IsClear t ["svc"] (ModulePath.parts (pass.settings.folder ++ "/" ++ d.name)) :=
    ⟨by decide +kernel, by decide +kernel⟩
  rw [hlaw.found (by decide +kernel) t (by rw [hfile]; decide +kernel) hclear, hfile]

/-- A dot in the name leads the host astray: the artifact is written, and it is never found. -/
theorem entryPoint_resolves_dotted :
    let pass : BuildPass := ⟨.default, .default, .ofTable [("m", some .plain)]⟩
    let d : Declaration := ⟨"a.b", .absent, .steps [.text "m.f"], []⟩
    let written : FileTree := ⟨[["svc", "middleware_chain_handlers", "a.b.py"]], []⟩
    let other : FileTree := ⟨[["svc", "middleware_chain_handlers", "a.b.py"],
      ["svc", "middleware_chain_handlers", "a", "b.py"]], []⟩
    ∃ a, (pass.buildFunction [] d).outcome = .ok (some a) ∧
      artifactFile ["svc"] pass.settings.folder a.filename =
        ["svc", "middleware_chain_handlers", "a.b.py"] ∧
      EntryPoint.resolve written ["svc"] a.entryPoint =
        .error (.load (.noModule "middleware_chain_handlers.a")) ∧
      EntryPoint.resolve other ["svc"] a.entryPoint =
        .ok (["svc", "middleware_chain_handlers", "a", "b.py"], "handler") := by
  intro pass d written other
  have hnames : (pass.buildFunction [] d).outcome.toOption.map (Option.map fun a : Artifact =>
      (a.filename, a.entryPoint)) =
      some (some ("a.b.py", "middleware_chain_handlers/a.b.handler")) := by decide +kernel
  obtain ⟨artifact?, hbuilt, hartifact⟩ := exists_ok_of_toOption_map hnames
  obtain ⟨a, rfl, ha⟩ := Option.map_eq_some_iff.1 hartifact
  obtain ⟨hfilename, hpoint⟩ := Prod.mk.inj ha
  refine ⟨a, hbuilt, ?_, ?_, ?_⟩
  · rw [hfilename]
    decide +kernel
  · rw [hpoint]
    rfl
  · rw [hpoint]
    rfl

end BuildPass

end HandlerPipeline

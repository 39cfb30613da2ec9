import HandlerPipeline.Proofs.Artifact.ServiceRoot

/-!
# The probe and the loader agree

The probe looks a module up with paths as values, and exchanges their names and suffixes; a plain
artifact finds the same module with paths as texts. Where the parts of the module are plain names,
both come to the same two files, and take the package's where there is one
(`FileTree.lookUp_of_isPlain`, `Artifact.walk_locate`). The parts of a reference that was read are
such names, so a module has a variant exactly where the file stands that is loaded, and that file is
the one whose stub and marker were looked at (`Reference.lookUp_agrees`). An empty part keeps them
apart: for `a/`, the probe looks for `a.py`, and an artifact would load `a/.py`.
-/

namespace HandlerPipeline

namespace FileTree

variable {t : FileTree} {last : String} {form : SourceForm}

/-! ## Beside a source -/

/-- A source is typed where its stub or its marker stands. -/
theorem formVariant_eq_typed_iff {stem : List String} : t.formVariant stem form = .typed ↔
    t.isFile (form.stub stem) = true ∨ t.isFile (form.marker stem) = true := by
  rw [formVariant, ← Bool.or_eq_true]
  split
  · next h => simp [h]
  · next h => simp [h]

/-- The stub of a source is named like it, with one more letter. -/
theorem suffixed_file {folder : List String} :
    suffixed "i" (form.file (folder ++ [last])) = form.stub (folder ++ [last]) := by
  have hsuffixed : ∀ {suffix : String} (front : List String) (name : String),
      suffixed suffix (front ++ [name]) = front ++ [name ++ suffix] :=
    fun front name => suffixed_append [] front
  cases form with
  | package =>
    rw [SourceForm.file, SourceForm.stub, hsuffixed]
    rfl
  | single =>
    rw [SourceForm.file, SourceForm.stub, hsuffixed, hsuffixed, hsuffixed, String.append_assoc]
    rfl

/-- The marker of a source stands in its folder. -/
theorem dropLast_file {folder : List String} :
    (form.file (folder ++ [last])).dropLast ++ ["py.typed"] = form.marker (folder ++ [last]) := by
  cases form with
  | package => rw [SourceForm.file, SourceForm.marker, List.dropLast_concat]
  | single =>
    have hfile : suffixed ".py" (folder ++ [last]) = folder ++ [last ++ ".py"] :=
      suffixed_append [] folder
    rw [SourceForm.file, SourceForm.marker, hfile, List.dropLast_concat, List.dropLast_concat]

end FileTree

/-! ## The loader -/

/-- The file that is loaded is the source of the module, in the form in which it has one. -/
theorem Artifact.loadedFile_of_sourceForm? {t : FileTree} {stem : List String}
    {form : FileTree.SourceForm} (h : t.sourceForm? stem = some form) :
    loadedFile t stem = form.file stem ∧ t.isFile (form.file stem) = true := by
  unfold FileTree.sourceForm? at h
  unfold loadedFile
  split at h
  · next hpackage =>
    cases h
    exact ⟨if_pos hpackage, hpackage⟩
  · next hpackage =>
    split at h
    · next hsingle =>
      cases h
      exact ⟨if_neg hpackage, hsingle⟩
    · cases h

/-- Where a module has no source, the file that would be loaded does not exist. -/
theorem Artifact.not_isFile_loadedFile {t : FileTree} {stem : List String}
    (h : t.sourceForm? stem = none) : t.isFile (loadedFile t stem) = false := by
  unfold FileTree.sourceForm? at h
  unfold loadedFile
  split at h
  · cases h
  · next hpackage =>
    split at h
    · cases h
    · next hsingle =>
      rw [if_neg hpackage]
      exact Bool.eq_false_iff.2 hsingle

namespace Reference

variable {text : String} {r : Reference}

/-- The file that a plain artifact loads the module `path` from, whether it exists or not. -/
def locatedFile (t : FileTree) (cwd : List String) (serviceRoot path : String) : List String :=
  Path.walk cwd (Artifact.locate t cwd serviceRoot (ModulePath.parts path)).location

/-- Either a module has no source, and what is loaded does not exist, or its source has a form, and
is what is loaded. -/
theorem lookUp_cases {t : FileTree} {cwd above : List String} {root serviceRoot path last : String}
    (habove : ∀ name ∈ above, Path.IsPlain name) (hlast : Path.IsPlain last)
    (hparts : ModulePath.parts path = above ++ [last])
    (hroot : Path.walk cwd root = Path.walk cwd serviceRoot) :
    (t.lookUp cwd root path = .ok none ∧
      t.isFile (locatedFile t cwd serviceRoot path) = false) ∨
    ∃ form, t.lookUp cwd root path =
        .ok (some ⟨form.source (PathValue.ofText root) above last,
          t.formVariant (Path.walk cwd root ++ (above ++ [last])) form⟩) ∧
      locatedFile t cwd serviceRoot path = form.file (Path.walk cwd root ++ (above ++ [last])) ∧
      t.isFile (locatedFile t cwd serviceRoot path) = true := by
  have hlocated : locatedFile t cwd serviceRoot path =
      Artifact.loadedFile t (Path.walk cwd root ++ (above ++ [last])) := by
    rw [locatedFile, hparts, Artifact.walk_locate habove hlast, hroot]
  rw [FileTree.lookUp_of_isPlain habove hlast hparts, hlocated]
  cases hform : t.sourceForm? (Path.walk cwd root ++ (above ++ [last])) with
  | none => exact .inl ⟨rfl, Artifact.not_isFile_loadedFile hform⟩
  | some form =>
    obtain ⟨hfile, hexists⟩ := Artifact.loadedFile_of_sourceForm? hform
    exact .inr ⟨form, rfl, hfile, hfile ▸ hexists⟩

/-- What is said of the probe of a root and of an artifact whose service root is at the same
place. -/
structure Agreement (t : FileTree) (cwd : List String) (root serviceRoot path : String) : Prop where
  /-- The module has a variant exactly where the file stands that it is loaded from. -/
  found_iff : (∃ f, t.lookUp cwd root path = .ok (some f)) ↔
    t.isFile (locatedFile t cwd serviceRoot path) = true
  /-- Where it has none, the probe says so. So no name is exchanged in vain; a look that a system
  refuses is no part of a tree. -/
  missing_iff : t.lookUp cwd root path = .ok none ↔
    t.isFile (locatedFile t cwd serviceRoot path) = false
  /-- The source that is found is that file. -/
  source : ∀ f, t.lookUp cwd root path = .ok (some f) →
    f.source.location cwd = locatedFile t cwd serviceRoot path
  /-- It is the package's file where there is one, and the single file otherwise. -/
  located : ∃ above last, ModulePath.parts path = above ++ [last] ∧
    locatedFile t cwd serviceRoot path =
      if t.isFile (Path.walk cwd root ++ above ++ [last] ++ ["__init__.py"]) then
        Path.walk cwd root ++ above ++ [last] ++ ["__init__.py"]
      else Path.walk cwd root ++ above ++ [last ++ ".py"]
  /-- The stub beside that file, and the marker in its folder, decide the variant. -/
  typed : ∀ f, t.lookUp cwd root path = .ok (some f) → (f.variant = .typed ↔
    t.isFile (FileTree.suffixed "i" (locatedFile t cwd serviceRoot path)) = true ∨
      t.isFile ((locatedFile t cwd serviceRoot path).dropLast ++ ["py.typed"]) = true)
  /-- This is what the probe of the root's folder says. -/
  probed : (t.lookUp cwd root path).map (Option.map FileTree.Found.variant) =
    .ok (t.classify (Path.walk cwd root) path)
  /-- And that is the file which the loaded artifact takes the module from. -/
  loaded : Artifact.moduleFile t (Path.walk cwd serviceRoot) .plain path =
    if t.isFile (locatedFile t cwd serviceRoot path) then
      .ok (locatedFile t cwd serviceRoot path)
    else .error (.noFile (locatedFile t cwd serviceRoot path))

/-- **The probe and the loader agree**: in every tree, the module of a reference that was read has a
variant exactly where the file stands that a plain artifact would load it from, and it is this file
whose stub and marker decide the variant. -/
theorem lookUp_agrees (h : read text = .ok r) (t : FileTree) {cwd : List String}
    {root serviceRoot : String} (hroot : Path.walk cwd root = Path.walk cwd serviceRoot) :
    Agreement t cwd root serviceRoot r.modulePath := by
  have hparts := isPlain_of_mem_parts (read_eq_ok_iff.1 h).isModulePath
  have hstem : FileTree.stem (Path.walk cwd root) r.modulePath =
      Path.walk cwd root ++ ModulePath.parts r.modulePath := by
    rw [FileTree.stem, components_eq_parts hparts]
  obtain ⟨above, last, hsplit⟩ := @ModulePath.exists_parts_eq_concat r.modulePath
  rw [hsplit] at hstem hparts
  obtain ⟨habove, hlast⟩ := List.forall_mem_append.1 hparts
  rw [List.forall_mem_singleton] at hlast
  have hlocated : locatedFile t cwd serviceRoot r.modulePath =
      Artifact.loadedFile t (Path.walk cwd root ++ (above ++ [last])) := by
    rw [locatedFile, hsplit, Artifact.walk_locate habove hlast, hroot]
  have hcases := @lookUp_cases t cwd above root serviceRoot r.modulePath last habove hlast hsplit
    hroot
  refine ⟨?_, ?_, ?_, ⟨above, last, hsplit, ?_⟩, ?_, ?_, ?_⟩
  · rcases hcases with ⟨hnone, hmissing⟩ | ⟨form, hsome, -, hexists⟩
    · simp [hnone, hmissing]
    · simp [hsome, hexists]
  · rcases hcases with ⟨hnone, hmissing⟩ | ⟨form, hsome, -, hexists⟩
    · simp [hnone, hmissing]
    · simp [hsome, hexists]
  · intro f hf
    rcases hcases with ⟨hnone, -⟩ | ⟨form, hsome, hfile, -⟩
    · rw [hnone] at hf
      cases hf
    · rw [hsome] at hf
      cases hf
      rw [hfile, FileTree.location_source habove hlast, PathValue.location_ofText]
  · rw [hlocated, Artifact.loadedFile, FileTree.SourceForm.file, FileTree.SourceForm.file,
      FileTree.suffixed_append, ← List.append_assoc (Path.walk cwd root) above]
  · intro f hf
    rcases hcases with ⟨hnone, -⟩ | ⟨form, hsome, hfile, -⟩
    · rw [hnone] at hf
      cases hf
    · rw [hsome] at hf
      cases hf
      rw [hfile, FileTree.formVariant_eq_typed_iff, ← List.append_assoc, FileTree.suffixed_file,
        FileTree.dropLast_file]
  · rw [FileTree.lookUp_of_isPlain habove hlast hsplit, FileTree.classify, hstem, Except.map,
      Option.map_map]
    rfl
  · rw [Artifact.moduleFile, ← hroot, hstem, hlocated]

/-- Of two forms the package counts, for both of them, and the stub of the single file does not. -/
theorem lookUp_agrees_nested :
    let t : FileTree := ⟨[["/", "home", "svc", "src", "lib", "auth", "__init__.py"],
      ["/", "home", "svc", "src", "lib", "auth.py"],
      ["/", "home", "svc", "src", "lib", "auth.pyi"]], []⟩
    read "src/lib.auth.check" = .ok ⟨"src/lib.auth", "check"⟩ ∧
      Path.walk ["/", "home"] "svc" = Path.walk ["/", "home"] "/home/svc" ∧
      locatedFile t ["/", "home"] "/home/svc" "src/lib.auth" =
        ["/", "home", "svc", "src", "lib", "auth", "__init__.py"] ∧
      ∃ f, t.lookUp ["/", "home"] "svc" "src/lib.auth" = .ok (some f) ∧ f.variant = .plain ∧
        f.source.location ["/", "home"] =
          ["/", "home", "svc", "src", "lib", "auth", "__init__.py"] := by
  intro t
  have hread : read "src/lib.auth.check" = .ok ⟨"src/lib.auth", "check"⟩ := by rfl
  have hroot : Path.walk ["/", "home"] "svc" = Path.walk ["/", "home"] "/home/svc" := by
    decide +kernel
  have hlocated : locatedFile t ["/", "home"] "/home/svc" "src/lib.auth" =
      ["/", "home", "svc", "src", "lib", "auth", "__init__.py"] := by decide +kernel
  have hagrees := lookUp_agrees hread t hroot
  obtain ⟨f, hf⟩ := hagrees.found_iff.2 (by rw [hlocated]; decide +kernel)
  refine ⟨hread, hroot, hlocated, f, hf, ?_, (hagrees.source f hf).trans hlocated⟩
  have htyped := hagrees.typed f hf
  rw [hlocated] at htyped
  cases hvariant : f.variant with
  | plain => rfl
  | typed => exact absurd (htyped.1 hvariant) (by decide +kernel)

example : FileTree.lookUp ⟨[["svc", "a.py"]], []⟩ [] "svc" "a/" =
    .ok (some ⟨⟨"", ["svc", "a.py"]⟩, .plain⟩) := by rfl
example : locatedFile ⟨[["svc", "a.py"]], []⟩ [] "svc" "a/" = ["svc", "a", ".py"] := by
  decide +kernel

end Reference

end HandlerPipeline

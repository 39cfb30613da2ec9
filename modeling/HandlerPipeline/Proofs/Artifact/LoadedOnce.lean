import HandlerPipeline.Proofs.Artifact.Imports
import HandlerPipeline.Proofs.Pipeline.Collisions
import HandlerPipeline.Proofs.Reference.Spelling
import Mathlib.Data.List.Dedup
import Mathlib.Data.List.Infix

/-!
# Modules are loaded once

The modules of an artifact have different names, so no two of them are spellings of one module
(`Pipeline.nodup_map_of_bindings`). An artifact loads them by their parts, or, from a statement, by
the normal forms of their parts (`Artifact.loadedParts`), and different names have different files,
with one exception: where a package stands, the module `__init__` inside it is the package's own file
under another name (`Artifact.loadedFile_eq_iff`). So an artifact loads no file twice, unless a module
that it loads is called `__init__` (`Artifact.modules_loadedOnce`). Where one is, the file of its
package may be loaded once for each of the two (`Artifact.packageFile_loadedTwice`).
-/

namespace HandlerPipeline

/-- Modules that are bound differ in everything that tells their parts, however they are spelled. -/
theorem Pipeline.nodup_map_of_bindings {p : Pipeline} {reserved : List String}
    {bs : List (String × String)} (h : p.bindings reserved = .ok bs) {α : Type} {f : String → α}
    (hf : ∀ a ∈ p.modulePaths, ∀ b ∈ p.modulePaths, f a = f b →
      ModulePath.parts a = ModulePath.parts b) :
    (p.modulePaths.map f).Nodup := by
  refine List.Nodup.map_on (fun a ha b hb heq => ?_) p.nodup_modulePaths
  have hname : ModulePath.bindingName reserved a = ModulePath.bindingName reserved b :=
    ModulePath.bindingName_congr (hf a ha b hb heq)
  exact exists_bindings_iff.1 ⟨bs, h⟩ a ha b hb hname

namespace Artifact

/-! ## Files of modules -/

/-- A package stands at the first location, and the second one is that of a module `__init__` inside
it, which is no package. -/
structure IsPackageFile (tree : FileTree) (package inner : List String) : Prop where
  inner_eq : inner = package ++ ["__init__"]
  isFile_package : tree.isFile (FileTree.SourceForm.package.file package) = true
  isFile_inner : tree.isFile (FileTree.SourceForm.package.file inner) = false

variable {tree : FileTree} {root stem stem' : List String}

/-- A single file stands in the folder of its module, under the module's name. -/
theorem singleFile_concat (above : List String) (last : String) :
    FileTree.SourceForm.single.file (above ++ [last]) = above ++ [last ++ ".py"] := by
  have hsuffixed := @FileTree.suffixed_append ".py" last [] above
  rwa [List.nil_append, List.nil_append] at hsuffixed

/-- A package and a single file are in one place only where the file is the package's own. -/
theorem isPackageFile_of_file_eq (hstem : stem' ≠ [])
    (h : tree.isFile (FileTree.SourceForm.package.file stem) = true)
    (h' : tree.isFile (FileTree.SourceForm.package.file stem') = false)
    (heq : FileTree.SourceForm.package.file stem = FileTree.SourceForm.single.file stem') :
    IsPackageFile tree stem stem' := by
  obtain ⟨above, last, rfl⟩ : ∃ above last, stem' = above ++ [last] :=
    ⟨_, _, (List.dropLast_concat_getLast hstem).symm⟩
  rw [singleFile_concat] at heq
  obtain ⟨rfl, hlast⟩ := List.append_inj' heq rfl
  obtain rfl : "__init__" = last := (String.append_left_inj ".py").1 (List.singleton_inj.1 hlast)
  exact ⟨rfl, h, h'⟩

/-- A single file is at one location only. -/
theorem eq_of_singleFile_eq (hstem : stem ≠ []) (hstem' : stem' ≠ [])
    (h : FileTree.SourceForm.single.file stem = FileTree.SourceForm.single.file stem') :
    stem = stem' := by
  obtain ⟨above, last, rfl⟩ : ∃ above last, stem = above ++ [last] :=
    ⟨_, _, (List.dropLast_concat_getLast hstem).symm⟩
  obtain ⟨above', last', rfl⟩ : ∃ above last, stem' = above ++ [last] :=
    ⟨_, _, (List.dropLast_concat_getLast hstem').symm⟩
  rw [singleFile_concat, singleFile_concat] at h
  obtain ⟨rfl, hlast⟩ := List.append_inj' h rfl
  rw [(String.append_left_inj ".py").1 (List.singleton_inj.1 hlast)]

/-- The file of a package is loaded for the package and for the module `__init__` inside it. -/
theorem IsPackageFile.loadedFile_eq {package inner : List String}
    (h : IsPackageFile tree package inner) : loadedFile tree package = loadedFile tree inner := by
  obtain ⟨rfl, hpackage, hinner⟩ := h
  rw [loadedFile, loadedFile, if_pos hpackage, if_neg (Bool.eq_false_iff.1 hinner),
    singleFile_concat]
  rfl

/-- **One file is loaded for one location**, but for the file of a package, which is also loaded for
the module `__init__` inside the package. -/
theorem loadedFile_eq_iff (hstem : stem ≠ []) (hstem' : stem' ≠ []) :
    loadedFile tree stem = loadedFile tree stem' ↔
      stem = stem' ∨ IsPackageFile tree stem stem' ∨ IsPackageFile tree stem' stem := by
  constructor
  · intro h
    rw [loadedFile, loadedFile] at h
    split at h
    · next hpackage =>
      split at h
      · exact .inl (List.append_inj' h rfl).1
      · next hpackage' =>
        exact .inr (.inl (isPackageFile_of_file_eq hstem' hpackage (eq_false_of_ne_true hpackage') h))
    · next hpackage =>
      split at h
      · next hpackage' =>
        exact .inr (.inr (isPackageFile_of_file_eq hstem hpackage' (eq_false_of_ne_true hpackage)
          h.symm))
      · exact .inl (eq_of_singleFile_eq hstem hstem' h)
  · rintro (rfl | h | h)
    · rfl
    · exact h.loadedFile_eq
    · exact h.loadedFile_eq.symm

/-! ## What an artifact loads -/

/-- The names, part by part, that an artifact loads a module by: the parts of its path, or, where a
statement imports it, their normal forms. -/
def loadedParts (variant : Variant) (path : String) : List String :=
  match variant with
  | .plain => ModulePath.parts path
  | .typed => importedNames path

/-- The names, part by part, under which an artifact with modules of these paths loads modules. A
plain one loads each of its modules. A typed one also imports the packages that they lie in, and no
name a second time. -/
def loadedNames (variant : Variant) (paths : List String) : List (List String) :=
  match variant with
  | .plain => paths.map (loadedParts .plain)
  | .typed => (paths.flatMap fun path => (loadedParts .typed path).inits.tail).dedup

/-- What modules loaded under some names have in common: no file, but for the file of a package that
is loaded under the name of the package and as a module `__init__` inside it. -/
structure LoadsApart (tree : FileTree) (root : List String) (names : List (List String)) : Prop where
  /-- No name is loaded twice. -/
  nodup : names.Nodup
  /-- Different names lead to different files, with that one exception. -/
  sameFile : ∀ a ∈ names, ∀ b ∈ names,
    loadedFile tree (root ++ a) = loadedFile tree (root ++ b) ↔
      a = b ∨ IsPackageFile tree (root ++ a) (root ++ b) ∨
        IsPackageFile tree (root ++ b) (root ++ a)
  /-- So no file is loaded twice where no module is called `__init__`. -/
  once : (∀ a ∈ names, a.getLast? ≠ some "__init__") →
    (names.map fun a => loadedFile tree (root ++ a)).Nodup

/-- Different names with parts are loaded apart. -/
theorem loadsApart_of_nodup {names : List (List String)} (hnodup : names.Nodup)
    (hnames : ∀ a ∈ names, a ≠ []) : LoadsApart tree root names := by
  have hne : ∀ a ∈ names, root ++ a ≠ [] := fun a ha h =>
    hnames a ha (List.append_eq_nil_iff.1 h).2
  have hsame : ∀ a ∈ names, ∀ b ∈ names,
      loadedFile tree (root ++ a) = loadedFile tree (root ++ b) ↔
        a = b ∨ IsPackageFile tree (root ++ a) (root ++ b) ∨
          IsPackageFile tree (root ++ b) (root ++ a) := by
    intro a ha b hb
    rw [loadedFile_eq_iff (hne a ha) (hne b hb), List.append_cancel_left_eq]
  refine ⟨hnodup, hsame, fun hinit => List.Nodup.map_on (fun a ha b hb heq => ?_) hnodup⟩
  have notInner : ∀ {package inner : List String}, inner ∈ names →
      ¬ IsPackageFile tree (root ++ package) (root ++ inner) := by
    intro package inner hmem hpackage
    apply hinit inner hmem
    have hinner := hpackage.inner_eq
    rw [List.append_assoc, List.append_cancel_left_eq] at hinner
    rw [hinner, List.getLast?_concat]
  rcases (hsame a ha b hb).1 heq with h | h | h
  · exact h
  · exact absurd h (notInner hb)
  · exact absurd h (notInner ha)

/-- The names that an artifact loads are different, where the modules of a plain one are, and have
parts. -/
theorem loadedNames_nodup {paths : List String} (hnodup : (paths.map ModulePath.parts).Nodup)
    (variant : Variant) :
    (loadedNames variant paths).Nodup ∧ ∀ a ∈ loadedNames variant paths, a ≠ [] := by
  cases variant with
  | plain => exact ⟨hnodup, List.forall_mem_map.2 fun _ _ => ModulePath.parts_ne_nil⟩
  | typed =>
    refine ⟨List.nodup_dedup _, fun a ha => ?_⟩
    obtain ⟨path, -, hpath⟩ := List.mem_flatMap.1 (List.mem_dedup.1 ha)
    -- The parts that lead nowhere stand first among the beginnings.
    rintro rfl
    cases hparts : loadedParts .typed path with
    | nil => simp [hparts] at hpath
    | cons part parts => simp [hparts, List.inits] at hpath

/-- The names of a module are among those that are loaded. -/
theorem loadedParts_mem {variant : Variant} {path : String} {paths : List String}
    (h : path ∈ paths) : loadedParts variant path ∈ loadedNames variant paths := by
  cases variant with
  | plain => exact List.mem_map_of_mem h
  | typed =>
    refine List.mem_dedup.2 (List.mem_flatMap.2 ⟨path, h, ?_⟩)
    have hne : loadedParts .typed path ≠ [] := importedNames_ne_nil path
    obtain ⟨part, parts, heq⟩ := List.exists_cons_of_ne_nil hne
    simp [heq, List.inits]

/-! ## Modules are loaded once -/

/-- What is said of the modules of a pipeline: however they are spelled, each is bound and loaded
once. -/
structure SpelledOnce (p : Pipeline) : Prop where
  /-- Modules that are bound differ in their parts, and in their dotted names. -/
  parts : ∀ reserved bs, p.bindings reserved = .ok bs →
    (p.modulePaths.map ModulePath.parts).Nodup ∧ (p.modulePaths.map ModulePath.dotted).Nodup
  /-- Where their references were read, they differ in their locations. -/
  stems : ∀ reserved bs, p.bindings reserved = .ok bs →
    (∀ s ∈ p.steps, ∃ raw, Step.read raw = .ok s) →
    (p.modulePaths.map ModulePath.fileStem).Nodup
  /-- So an artifact has each module in its block once. It takes a module from the file of the names
  that it loads the module by, and loads these names, and the packages around a typed module,
  apart. -/
  loaded : ∀ checks variant importBase source logged,
    (∀ s ∈ p.steps, ∃ raw, Step.read raw = .ok s) →
    emit checks variant importBase p = .ok (source, logged) →
    ∃ reading, Reading.ofSource source = some reading ∧
      reading.modules.map Prod.snd = p.modulePaths.map ModulePath.parts ∧
      ∀ tree root,
        (∀ path ∈ p.modulePaths, loadedParts variant path ∈ loadedNames variant p.modulePaths ∧
          ∀ file, moduleFile tree root variant (loadedPath variant path) = .ok file →
            file = loadedFile tree (root ++ loadedParts variant path)) ∧
        LoadsApart tree root (loadedNames variant p.modulePaths)

/-- The modules of a pipeline whose references were read have no empty part. -/
theorem notMem_parts_of_read {p : Pipeline} (hsteps : ∀ s ∈ p.steps, ∃ raw, Step.read raw = .ok s)
    {path : String} (hpath : path ∈ p.modulePaths) : "" ∉ ModulePath.parts path := by
  obtain ⟨r, hr, rfl⟩ := Pipeline.mem_modulePaths.1 hpath
  obtain ⟨s, hs, hr⟩ := List.mem_flatMap.1 hr
  have haccepted : r.IsAccepted := Pipeline.isAccepted_of_read hsteps s hs r hr
  exact Reference.notMem_parts_of_isModulePath haccepted.isModulePath

/-- The names that a module is loaded by lead to it from any root. -/
theorem stem_loadedPath {variant : Variant} {path : String} (h : "" ∉ ModulePath.parts path)
    (root : List String) :
    FileTree.stem root (loadedPath variant path) = root ++ loadedParts variant path := by
  cases variant with
  | plain =>
    rw [loadedPath, FileTree.stem, ModulePath.components_eq_parts_of_notMem h]
    rfl
  | typed => exact stem_importedName h root

/-- The file that a module is taken from is the one of the names that it is loaded by. -/
theorem eq_loadedFile_of_moduleFile {variant : Variant} {path : String} {file : List String}
    (hparts : "" ∉ ModulePath.parts path)
    (h : moduleFile tree root variant (loadedPath variant path) = .ok file) :
    file = loadedFile tree (root ++ loadedParts variant path) := by
  have hstem := @stem_loadedPath variant path hparts root
  cases variant with
  | plain =>
    rw [moduleFile.eq_def, hstem] at h
    dsimp only at h
    split at h
    · cases h
      rfl
    · cases h
  | typed =>
    obtain ⟨-, -, hfile⟩ := map_eq_ok_iff.1 h
    rw [← hfile, hstem]

/-- **However modules are spelled, each is bound and loaded once**: all spellings of a module have
one binding name, so the modules that an artifact binds differ in their parts, their dotted names
and their locations. An artifact loads a file twice only where it loads a package and a module
`__init__` inside it. -/
theorem modules_loadedOnce :
    (∀ reserved a b, ModulePath.parts a = ModulePath.parts b →
      ModulePath.bindingName reserved a = ModulePath.bindingName reserved b) ∧
    ∀ p, SpelledOnce p := by
  refine ⟨fun _ _ _ => ModulePath.bindingName_congr, fun p => ⟨fun reserved bs hbs => ?_,
    fun reserved bs hbs hsteps => ?_, ?_⟩⟩
  · exact ⟨Pipeline.nodup_map_of_bindings hbs fun _ _ _ _ h => h,
      Pipeline.nodup_map_of_bindings hbs fun _ _ _ _ h => ModulePath.parts_eq_of_dotted h⟩
  · exact Pipeline.nodup_map_of_bindings hbs fun a ha b hb h =>
      ModulePath.parts_eq_of_fileStem (notMem_parts_of_read hsteps ha)
        (notMem_parts_of_read hsteps hb) h
  · intro checks variant importBase source logged hsteps hemit
    obtain ⟨bs, hbs, rfl⟩ := bindings_of_emit_eq_ok hemit
    have hread := Reading.ofSource_ofLines variant importBase
      (Pipeline.isAccepted_of_read hsteps) hbs
    have hmodules : (bs.map fun b => (b.2, ModulePath.parts b.1)).map Prod.snd =
        p.modulePaths.map ModulePath.parts := by
      rw [(Pipeline.bindings_eq_ok_iff.1 hbs).1, List.map_map, List.map_map]
      rfl
    refine ⟨_, hread, hmodules, fun tree root => ⟨fun path hpath => ⟨loadedParts_mem hpath,
      fun file hfile => ?_⟩, ?_⟩⟩
    · exact eq_loadedFile_of_moduleFile (notMem_parts_of_read hsteps hpath) hfile
    · obtain ⟨hnodup, hnames⟩ := loadedNames_nodup
        (Pipeline.nodup_map_of_bindings hbs fun _ _ _ _ h => h) variant
      exact loadsApart_of_nodup hnodup hnames

/-- A package, and the module `__init__` inside it. -/
def packageTwice : Pipeline :=
  ⟨"fn", [.onSuccess ⟨"pkg", "f"⟩, .onSuccess ⟨"pkg/__init__", "g"⟩]⟩

/-- **The file of a package is loaded twice** where a module `__init__` is loaded besides it: both
references were read, the artifact binds both modules, and it takes both from one file, in either
variant. -/
theorem packageFile_loadedTwice :
    let tree : FileTree := ⟨[["svc", "pkg", "__init__.py"]], []⟩
    Step.readAll [.text "pkg.f", .text "pkg/__init__.g"] = .ok packageTwice.steps ∧
      packageTwice.modulePaths = ["pkg", "pkg/__init__"] ∧
      ∀ variant, (∃ emitted, emit true variant ".." packageTwice = .ok emitted) ∧
        moduleFile tree ["svc"] variant (loadedPath variant "pkg") =
          .ok ["svc", "pkg", "__init__.py"] ∧
        moduleFile tree ["svc"] variant (loadedPath variant "pkg/__init__") =
          .ok ["svc", "pkg", "__init__.py"] := by
  have hbs : packageTwice.bindings reservedNames =
      .ok [("pkg", "pkg"), ("pkg/__init__", "pkg___init__")] :=
    Pipeline.bindings_eq_ok_iff.2 ⟨by decide +kernel, by decide⟩
  refine ⟨rfl, by decide +kernel, fun variant => ⟨⟨_, emit_eq_of_bindings true variant ".." hbs⟩, ?_⟩⟩
  cases variant <;> decide +kernel

end Artifact

end HandlerPipeline

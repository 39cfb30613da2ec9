import HandlerPipeline.Artifact.Load
import HandlerPipeline.Artifact.Locate
import HandlerPipeline.Proofs.Artifact.ReadBack
import HandlerPipeline.Proofs.FileTree.Lookup
import HandlerPipeline.Proofs.Reference.Language

/-!
# References stay inside the service

The module of a reference that was read is named by parts without separators, and none of them is
empty (`Reference.isPlain_of_mem_parts`). So its parts lead downwards from any root: the probe looks
for the module inside the root only, and a plain artifact, which is given the same parts, loads it
from inside the root (`Reference.confined_of_read`). This holds of locations, and of the paths that
are joined as texts, in which names are exchanged (`Artifact.isInside_locate`).
-/

namespace HandlerPipeline

namespace Artifact

/-! ## The loader -/

/-- The path at which the loader looks: the file of the package that the parts name. -/
def packageInit (serviceRoot : String) (parts : List String) : String :=
  Path.join (Path.join serviceRoot parts) ["__init__.py"]

variable {t : FileTree} {cwd above parts : List String} {last serviceRoot : String}

/-- Plain parts lead the loader to the folder of a package and to its file. -/
theorem walk_packageInit (h : ∀ part ∈ parts, Path.IsPlain part) :
    Path.walk cwd (Path.join serviceRoot parts) = Path.walk cwd serviceRoot ++ parts ∧
      Path.walk cwd (packageInit serviceRoot parts) =
        FileTree.SourceForm.package.file (Path.walk cwd serviceRoot ++ parts) := by
  have hinit : ∀ name ∈ ["__init__.py"], Path.IsPlain name :=
    List.forall_mem_singleton.2 Path.isPlain_packageFile
  rw [packageInit, Path.walk_join hinit, Path.walk_join h]
  exact ⟨rfl, rfl⟩

/-- Where plain names lead to a module, a plain artifact loads it from its package, or else from its
single file. -/
theorem walk_locate (habove : ∀ name ∈ above, Path.IsPlain name) (hlast : Path.IsPlain last) :
    Path.walk cwd (locate t cwd serviceRoot (above ++ [last])).location =
      loadedFile t (Path.walk cwd serviceRoot ++ (above ++ [last])) := by
  have hpackage := (@walk_packageInit cwd _ serviceRoot (Path.isPlain_concat habove hlast)).2
  rw [packageInit] at hpackage
  have hfile : ∀ name ∈ above ++ [last ++ ".py"], Path.IsPlain name :=
    Path.isPlain_concat habove (Path.isPlain_append hlast.slash_notMem (by decide) (by decide))
  have hsingle : Path.walk cwd (Path.join serviceRoot (above ++ [last]) ++ ".py") =
      FileTree.SourceForm.single.file (Path.walk cwd serviceRoot ++ (above ++ [last])) := by
    rw [Path.join_append_suffix hlast.ne_empty, Path.walk_join hfile, FileTree.SourceForm.file,
      FileTree.suffixed_append, List.append_assoc]
  unfold locate loadedFile
  dsimp only
  rw [hpackage]
  split
  · exact hpackage
  · exact hsingle

/-- Where plain parts lead to a module, the loader looks inside the service root, loads the module
from there, and has the modules inside it looked for there. -/
theorem isInside_locate (hne : parts ≠ []) (h : ∀ part ∈ parts, Path.IsPlain part) (t : FileTree)
    (cwd : List String) (serviceRoot : String) :
    Path.IsInside (Path.walk cwd serviceRoot) (Path.walk cwd (packageInit serviceRoot parts)) ∧
      Path.IsInside (Path.walk cwd serviceRoot)
        (Path.walk cwd (locate t cwd serviceRoot parts).location) ∧
      ∀ folder ∈ (locate t cwd serviceRoot parts).search?.getD [],
        Path.IsInside (Path.walk cwd serviceRoot) (Path.walk cwd folder) := by
  obtain ⟨hfolder, hpackage⟩ := @walk_packageInit cwd parts serviceRoot h
  obtain ⟨above, last, rfl⟩ : ∃ above last, parts = above ++ [last] :=
    ⟨_, _, (List.dropLast_concat_getLast hne).symm⟩
  obtain ⟨habove, hlast⟩ := List.forall_mem_append.1 h
  rw [List.forall_mem_singleton] at hlast
  have hinside : Path.IsInside (Path.walk cwd serviceRoot)
      (FileTree.SourceForm.package.file (Path.walk cwd serviceRoot ++ (above ++ [last]))) :=
    Path.isInside_append_singleton h Path.isPlain_packageFile
  refine ⟨hpackage ▸ hinside, ?_, fun folder hmem => ?_⟩
  · rw [walk_locate habove hlast, loadedFile]
    split
    · exact hinside
    · rw [FileTree.SourceForm.file, FileTree.suffixed_append]
      exact Path.isInside_append_singleton habove
        (Path.isPlain_append hlast.slash_notMem (by decide) (by decide))
  · unfold locate at hmem
    dsimp only at hmem
    split at hmem
    · rw [List.mem_singleton.1 hmem, hfolder]
      exact ⟨_, hne, h, rfl⟩
    · cases hmem

end Artifact

namespace Reference

variable {text : String} {r : Reference}

/-- The parts of a module path are plain components, where the path is one. -/
theorem isPlain_of_mem_parts (h : IsModulePath r.modulePath.toList) :
    ∀ part ∈ ModulePath.parts r.modulePath, Path.IsPlain part := by
  intro part hmem
  obtain ⟨piece, hpiece, rfl⟩ := List.mem_map.1 hmem
  obtain ⟨hne, hchars⟩ := h.isPart_of_mem_pieces piece hpiece
  have hseparator : ∀ c ∈ (String.ofList piece).toList, isSeparator c = false := by
    rw [String.toList_ofList]
    exact fun c hc => (hchars c hc).2
  refine Path.isPlain_of_notMem ?_ (fun hc => absurd (hseparator _ hc) (by decide))
    fun hc => absurd (hseparator _ hc) (by decide)
  intro hempty
  rw [← String.toList_inj, String.toList_ofList] at hempty
  exact hne hempty

/-- No part of a module path is empty. -/
theorem notMem_parts_of_isModulePath {path : String} (h : IsModulePath path.toList) :
    "" ∉ ModulePath.parts path :=
  fun hempty => (isPlain_of_mem_parts (r := ⟨path, ""⟩) h _ hempty).ne_empty rfl

/-- Where all parts are plain, all of them name components. -/
theorem components_eq_parts (h : ∀ part ∈ ModulePath.parts r.modulePath, Path.IsPlain part) :
    ModulePath.components r.modulePath = ModulePath.parts r.modulePath :=
  ModulePath.components_eq_parts_of_notMem fun hempty => (h _ hempty).ne_empty rfl

/-- What is said of a reference whose module lies inside the service, wherever that is. -/
structure Confined (r : Reference) : Prop where
  /-- The parts of its module path lead one folder down each, or to a file. -/
  parts : ∀ part ∈ ModulePath.parts r.modulePath, Path.IsPlain part
  /-- They are what stands between the root and the module, and nothing of the root is left. -/
  stem : ∀ root, FileTree.stem root r.modulePath = root ++ ModulePath.parts r.modulePath ∧
    Path.follow root (ModulePath.parts r.modulePath) = root ++ ModulePath.parts r.modulePath
  /-- In every tree the probe says what its search for the module comes to, and every path that the
  search looks at lies inside the root. -/
  probed : ∀ (t : FileTree) root,
    t.classify root r.modulePath =
      (FileTree.moduleSearch (FileTree.stem root r.modulePath)).run t ∧
    ∀ q ∈ (FileTree.moduleSearch (FileTree.stem root r.modulePath)).visited t, Path.IsInside root q
  /-- So what lies outside the root makes no difference to the probe. -/
  independent : ∀ (t t' : FileTree) root,
    (∀ q, Path.IsInside root q → t.isFile q = t'.isFile q) →
    t.classify root r.modulePath = t'.classify root r.modulePath
  /-- A plain artifact gives its loader the same parts. -/
  bound : ∀ checks importBase p source logged, (∀ s ∈ p.steps, ∃ raw, Step.read raw = .ok s) →
    r ∈ p.references → Artifact.emit checks .plain importBase p = .ok (source, logged) →
    ∃ reading, Artifact.Reading.ofSource source = some reading ∧
      reading.modules.lookup (ModulePath.bindingName Artifact.reservedNames r.modulePath) =
        some (ModulePath.parts r.modulePath)
  /-- The probe that joins texts and exchanges names says what its own search comes to, and every path
  that this search looks at lies inside the folder that the root's path leads to. -/
  lookedUp : ∀ (t : FileTree) cwd root, ∃ search,
    FileTree.lookUpSearch cwd root r.modulePath = .ok search ∧
    (t.lookUp cwd root r.modulePath).map (Option.map FileTree.Found.variant) =
      .ok (search.run t) ∧
    ∀ q ∈ search.visited t, Path.IsInside (Path.walk cwd root) q
  /-- So do the path that the loader looks at, the one that it loads the module from, and the one
  where modules inside a package are looked for. -/
  located : ∀ (t : FileTree) cwd serviceRoot,
    Path.IsInside (Path.walk cwd serviceRoot)
      (Path.walk cwd (Artifact.packageInit serviceRoot (ModulePath.parts r.modulePath))) ∧
    Path.IsInside (Path.walk cwd serviceRoot) (Path.walk cwd
      (Artifact.locate t cwd serviceRoot (ModulePath.parts r.modulePath)).location) ∧
    ∀ folder ∈ (Artifact.locate t cwd serviceRoot (ModulePath.parts r.modulePath)).search?.getD [],
      Path.IsInside (Path.walk cwd serviceRoot) (Path.walk cwd folder)
  /-- The file that it loads lies inside the root. -/
  loaded : ∀ (tree : FileTree) root, ∃ file, Path.IsInside root file ∧
    Artifact.moduleFile tree root .plain r.modulePath =
      if tree.isFile file then .ok file else .error (.noFile file)

/-- The artifact of a pipeline binds the modules of its references to their parts. -/
theorem lookup_of_emit {checks : Bool} {variant : Variant} {importBase source : String}
    {p : Pipeline} {logged : List Log.Line} (hsteps : ∀ s ∈ p.steps, ∃ raw, Step.read raw = .ok s)
    (hr : r ∈ p.references)
    (hemit : Artifact.emit checks variant importBase p = .ok (source, logged)) :
    ∃ reading, Artifact.Reading.ofSource source = some reading ∧
      reading.modules.lookup (ModulePath.bindingName Artifact.reservedNames r.modulePath) =
        some (ModulePath.parts r.modulePath) := by
  obtain ⟨bs, hbs, rfl⟩ := Artifact.bindings_of_emit_eq_ok hemit
  obtain ⟨reading, hread, hdescribes, -⟩ :=
    Artifact.describes_of_bindings variant importBase (Pipeline.isAccepted_of_read hsteps) hbs
  exact ⟨reading, hread, hdescribes.modules.lookup hr⟩

/-- The file that is loaded is one that the probe looks at. -/
theorem loadedFile_mem_paths (tree : FileTree) (stem : List String) :
    Artifact.loadedFile tree stem ∈ (FileTree.moduleSearch stem).paths := by
  rw [Artifact.loadedFile]
  split <;> simp [FileTree.moduleSearch, FileTree.Search.paths]

/-- **The module of a reference that was read lies inside the service**: the probe looks for it
inside the root only, and a plain artifact loads it from there. -/
theorem confined_of_read (h : read text = .ok r) : Confined r := by
  have hparts := isPlain_of_mem_parts (read_eq_ok_iff.1 h).isModulePath
  have hstem : ∀ root, FileTree.stem root r.modulePath = root ++ ModulePath.parts r.modulePath :=
    fun root => by rw [FileTree.stem, components_eq_parts hparts]
  have hinside : ∀ root, ∀ q ∈ (FileTree.moduleSearch (FileTree.stem root r.modulePath)).paths,
      Path.IsInside root q := by
    intro root
    rw [hstem]
    exact FileTree.isInside_of_mem_paths ModulePath.parts_ne_nil hparts
  have hvisited : ∀ (t : FileTree) root,
      ∀ q ∈ (FileTree.moduleSearch (FileTree.stem root r.modulePath)).visited t,
        Path.IsInside root q :=
    fun _ root q hq => hinside root q (FileTree.Search.mem_paths_of_mem_visited hq)
  refine ⟨hparts, fun root => ⟨hstem root, Path.follow_of_isPlain hparts⟩,
    fun t root => ⟨t.classify_eq_run root r.modulePath, hvisited t root⟩, ?_, ?_, ?_,
    Artifact.isInside_locate ModulePath.parts_ne_nil hparts, ?_⟩
  · intro t t' root hagree
    rw [FileTree.classify_eq_run, FileTree.classify_eq_run]
    exact FileTree.Search.run_congr fun q hq => hagree q (hvisited t root q hq)
  · intro checks importBase p source logged hsteps hr hemit
    exact lookup_of_emit hsteps hr hemit
  · intro t cwd root
    have hsearch := @FileTree.lookUpSearch_of_isPlain cwd root r.modulePath hparts
    refine ⟨_, hsearch, FileTree.lookUp_eq_run hsearch t, ?_⟩
    rw [← hstem]
    exact hvisited t (Path.walk cwd root)
  · intro tree root
    exact ⟨_, hinside root _ (loadedFile_mem_paths tree _), rfl⟩

/-- A module path with both separators stays inside. -/
theorem confined_of_read_mixed : read "src/lib.auth.check" = .ok ⟨"src/lib.auth", "check"⟩ ∧
    Confined ⟨"src/lib.auth", "check"⟩ := by
  have h : read "src/lib.auth.check" = .ok ⟨"src/lib.auth", "check"⟩ := by rfl
  exact ⟨h, confined_of_read h⟩

end Reference

end HandlerPipeline

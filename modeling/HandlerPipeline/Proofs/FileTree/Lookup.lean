import HandlerPipeline.FileTree.Lookup
import HandlerPipeline.Proofs.Path.Joined
import HandlerPipeline.Proofs.Results

/-!
# Where the probe of paths looks

The probe that joins texts and exchanges names in paths looks at one path after the other too. Its
looks are written out as a search (`FileTree.lookUpSearch`), which comes to what the probe says in
every tree (`FileTree.lookUp_eq_run`). Where plain names lead to the module, the paths are those of
the two forms of its source, so the probe finds the source in the form in which the module has one
(`FileTree.lookUp_of_isPlain`), and its search is the one for the module's location
(`FileTree.lookUpSearch_of_isPlain`).
-/

namespace HandlerPipeline.FileTree

variable {t : FileTree} {cwd above : List String} {last root path : String} {p : PathValue}
  {form : SourceForm} {search : Search}

/-! ## The paths of a source -/

/-- The path of the source in one form, where the names `above` and then `last` lead from a path to
the module. -/
def SourceForm.source (p : PathValue) (above : List String) (last : String) :
    SourceForm → PathValue
  | package => ⟨p.root, p.names ++ above ++ [last] ++ ["__init__.py"]⟩
  | single => ⟨p.root, p.names ++ above ++ [last ++ ".py"]⟩

/-- The path of the folder that the source stands in. -/
def SourceForm.sourceFolder (p : PathValue) (above : List String) (last : String) :
    SourceForm → PathValue
  | package => ⟨p.root, p.names ++ above ++ [last]⟩
  | single => ⟨p.root, p.names ++ above⟩

/-- The path leads to the source. -/
theorem location_source (habove : ∀ name ∈ above, Path.IsPlain name) (hlast : Path.IsPlain last) :
    (form.source p above last).location cwd = form.file (p.location cwd ++ (above ++ [last])) := by
  cases form with
  | package =>
    have hnames : ∀ name ∈ (above ++ [last]) ++ ["__init__.py"], Path.IsPlain name :=
      Path.isPlain_concat (Path.isPlain_concat habove hlast) Path.isPlain_packageFile
    rw [SourceForm.source, SourceForm.file, List.append_assoc p.names, List.append_assoc p.names,
      PathValue.location_append hnames, ← List.append_assoc]
  | single =>
    have hnames : ∀ name ∈ above ++ [last ++ ".py"], Path.IsPlain name :=
      Path.isPlain_concat habove (Path.isPlain_append hlast.slash_notMem (by decide) (by decide))
    rw [SourceForm.source, SourceForm.file, suffixed_append, List.append_assoc,
      PathValue.location_append hnames, List.append_assoc]

/-- The suffix of a source is exchanged for that of its stub, and the new path leads there. -/
theorem exists_stub (habove : ∀ name ∈ above, Path.IsPlain name) (hlast : Path.IsPlain last) :
    ∃ stub, (form.source p above last).withSuffix ".pyi" = .ok stub ∧
      stub.location cwd = form.stub (p.location cwd ++ (above ++ [last])) := by
  have hexchange : ∀ {names : List String} {base : String}, base ≠ "" →
      PathValue.withSuffix ⟨p.root, names ++ [base ++ ".py"]⟩ ".pyi" =
        .ok ⟨p.root, names ++ [base ++ ".pyi"]⟩ := fun hbase =>
    PathValue.withSuffix_append hbase ⟨"py", by decide, by decide, by decide, by decide⟩
      ⟨"pyi", by decide, by decide, by decide, by decide⟩
  cases form with
  | package =>
    have hnames : ∀ name ∈ above ++ [last] ++ ["__init__" ++ ".pyi"], Path.IsPlain name :=
      Path.isPlain_concat (Path.isPlain_concat habove hlast)
        (Path.isPlain_append (by decide) (by decide) (by decide))
    refine ⟨_, @hexchange _ "__init__" (by decide), ?_⟩
    rw [List.append_assoc p.names, List.append_assoc p.names, PathValue.location_append hnames,
      ← List.append_assoc]
    rfl
  | single =>
    have hnames : ∀ name ∈ above ++ [last ++ ".pyi"], Path.IsPlain name :=
      Path.isPlain_concat habove (Path.isPlain_append hlast.slash_notMem (by decide) (by decide))
    refine ⟨_, hexchange hlast.ne_empty, ?_⟩
    rw [List.append_assoc, PathValue.location_append hnames, SourceForm.stub, suffixed_append,
      List.append_assoc]

/-- The path of the marker leads there. -/
theorem location_marker (habove : ∀ name ∈ above, Path.IsPlain name) (hlast : Path.IsPlain last) :
    ((form.sourceFolder p above last).join ["py.typed"]).location cwd =
      form.marker (p.location cwd ++ (above ++ [last])) := by
  have hmarker : ∀ name ∈ ["py.typed"], Path.IsPlain name :=
    List.forall_mem_singleton.2 Path.isPlain_marker
  rw [PathValue.join_of_isPlain hmarker, PathValue.location_append hmarker]
  cases form with
  | package =>
    rw [SourceForm.sourceFolder, List.append_assoc,
      PathValue.location_append (Path.isPlain_concat habove hlast)]
    rfl
  | single =>
    rw [SourceForm.sourceFolder, PathValue.location_append habove, SourceForm.marker,
      ← List.append_assoc, List.dropLast_concat]

/-- Plain names behind a path lead to the folder of a package, and its file stands in it. -/
theorem join_packageFile (habove : ∀ name ∈ above, Path.IsPlain name) (hlast : Path.IsPlain last) :
    p.join (above ++ [last]) = SourceForm.package.sourceFolder p above last ∧
      (SourceForm.package.sourceFolder p above last).join ["__init__.py"] =
        SourceForm.package.source p above last := by
  have hinit : ∀ name ∈ ["__init__.py"], Path.IsPlain name :=
    List.forall_mem_singleton.2 Path.isPlain_packageFile
  rw [PathValue.join_of_isPlain (Path.isPlain_concat habove hlast),
    PathValue.join_of_isPlain hinit, SourceForm.sourceFolder, List.append_assoc p.names]
  exact ⟨rfl, by simp [SourceForm.source]⟩

/-- The name of that folder is exchanged for the name of the single file, which stands beside it. -/
theorem withName_single (hlast : Path.IsPlain last) :
    (SourceForm.package.sourceFolder p above last).withName
        ((SourceForm.package.sourceFolder p above last).name ++ ".py") =
      .ok (SourceForm.single.source p above last) ∧
    (SourceForm.package.sourceFolder p above last).parent =
      SourceForm.single.sourceFolder p above last := by
  rw [SourceForm.sourceFolder, PathValue.name_append, PathValue.parent_append]
  exact ⟨PathValue.withName_of_isPlain hlast.ne_empty
    (Path.isPlain_append hlast.slash_notMem (by decide) (by decide)), rfl⟩

/-! ## What is found -/

/-- The source in one form is found in its folder, with its variant. -/
theorem found_source (habove : ∀ name ∈ above, Path.IsPlain name) (hlast : Path.IsPlain last) :
    t.found cwd (form.source p above last) (form.sourceFolder p above last) =
      .ok ⟨form.source p above last,
        t.formVariant (p.location cwd ++ (above ++ [last])) form⟩ := by
  obtain ⟨stub, hstub, hlocation⟩ := @exists_stub cwd above last p form habove hlast
  rw [found, hstub]
  dsimp only
  rw [holds, holds, hlocation, location_marker habove hlast, formVariant]

/-- Where plain names lead to a module, the probe finds the module's source in the form in which it
has one. -/
theorem lookUp_of_isPlain (habove : ∀ name ∈ above, Path.IsPlain name) (hlast : Path.IsPlain last)
    (hparts : ModulePath.parts path = above ++ [last]) :
    t.lookUp cwd root path =
      .ok ((t.sourceForm? (Path.walk cwd root ++ (above ++ [last]))).map fun form =>
        ⟨form.source (PathValue.ofText root) above last,
          t.formVariant (Path.walk cwd root ++ (above ++ [last])) form⟩) := by
  rw [← PathValue.location_ofText]
  generalize hp : PathValue.ofText root = p
  obtain ⟨hstem, hpackage⟩ := @join_packageFile above last p habove hlast
  obtain ⟨hsingle, hparent⟩ := @withName_single above last p hlast
  have hholds : ∀ form : SourceForm, t.holds cwd (form.source p above last) =
      t.isFile (form.file (p.location cwd ++ (above ++ [last]))) := fun form => by
    rw [holds, location_source habove hlast]
  rw [lookUp, hp, hparts, hstem]
  dsimp only
  rw [hsingle]
  dsimp only
  rw [hpackage, hparent, hholds, hholds, found_source habove hlast, found_source habove hlast,
    sourceForm?]
  split
  · rfl
  · split <;> rfl

/-! ## Where the probe looks -/

/-- The search for what types a source in a package directory. -/
def foundSearch (cwd : List String) (source packageDir : PathValue) : Except PathError Search :=
  (source.withSuffix ".pyi").map fun stub =>
    .look (stub.location cwd) (.result (some .typed))
      (.look ((packageDir.join ["py.typed"]).location cwd) (.result (some .typed))
        (.result (some .plain)))

/-- The search of the probe that joins texts and exchanges names. -/
def lookUpSearch (cwd : List String) (root path : String) : Except PathError Search :=
  let stem := (PathValue.ofText root).join (ModulePath.parts path)
  match stem.withName (stem.name ++ ".py") with
  | .error e => .error e
  | .ok moduleFile => do
    let packageInit := stem.join ["__init__.py"]
    let ofPackage ← foundSearch cwd packageInit stem
    let ofModule ← foundSearch cwd moduleFile stem.parent
    return .look (packageInit.location cwd) ofPackage
      (.look (moduleFile.location cwd) ofModule (.result none))

/-- What is found in a tree has the variant that the search comes to there. -/
theorem found_eq_run {source packageDir : PathValue}
    (h : foundSearch cwd source packageDir = .ok search) (t : FileTree) :
    (t.found cwd source packageDir).map (some ·.variant) = .ok (search.run t) := by
  obtain ⟨stub, hstub, rfl⟩ := map_eq_ok_iff.1 h
  rw [found, hstub]
  simp only [Except.map, Search.run, holds]
  by_cases hfile : t.isFile (stub.location cwd) = true
  · simp [hfile]
  · by_cases hmarker : t.isFile ((packageDir.join ["py.typed"]).location cwd) = true
    · simp [hfile, hmarker]
    · simp [hfile, hmarker]

/-- **The probe says what its search comes to**, in every tree. -/
theorem lookUp_eq_run (h : lookUpSearch cwd root path = .ok search) (t : FileTree) :
    (t.lookUp cwd root path).map (Option.map Found.variant) = .ok (search.run t) := by
  rw [lookUpSearch] at h
  rw [lookUp]
  generalize (PathValue.ofText root).join (ModulePath.parts path) = stem at h ⊢
  dsimp only at h ⊢
  cases hname : stem.withName (stem.name ++ ".py") with
  | error e =>
    rw [hname] at h
    cases h
  | ok moduleFile =>
    rw [hname] at h
    dsimp only at h ⊢
    obtain ⟨ofPackage, hpackage, h⟩ := bind_eq_ok_iff.1 h
    obtain ⟨ofModule, hmodule, h⟩ := bind_eq_ok_iff.1 h
    cases h
    have hvariant : ∀ {result : Except PathError Found} {run : Option Variant},
        result.map (some ·.variant) = .ok run →
        (result.map some).map (Option.map Found.variant) = .ok run := by
      intro result run hresult
      obtain ⟨f, rfl, rfl⟩ := map_eq_ok_iff.1 hresult
      rfl
    have hholds : ∀ p, t.holds cwd p = t.isFile (p.location cwd) := fun _ => rfl
    rw [hholds, hholds, Search.run, Search.run]
    by_cases hpackageFile : t.isFile ((stem.join ["__init__.py"]).location cwd) = true
    · rw [if_pos hpackageFile, if_pos hpackageFile]
      exact hvariant (found_eq_run hpackage t)
    · rw [if_neg hpackageFile, if_neg hpackageFile]
      by_cases hmoduleFile : t.isFile (moduleFile.location cwd) = true
      · rw [if_pos hmoduleFile, if_pos hmoduleFile]
        exact hvariant (found_eq_run hmodule t)
      · rw [if_neg hmoduleFile, if_neg hmoduleFile]
        rfl

/-- The search for what types a source in one form is that of its stub and its marker. -/
theorem foundSearch_source (habove : ∀ name ∈ above, Path.IsPlain name)
    (hlast : Path.IsPlain last) :
    foundSearch cwd (form.source p above last) (form.sourceFolder p above last) =
      .ok (typingSearch (p.location cwd ++ (above ++ [last])) form) := by
  obtain ⟨stub, hstub, hlocation⟩ := @exists_stub cwd above last p form habove hlast
  rw [foundSearch, hstub, typingSearch, location_marker habove hlast]
  simp only [Except.map, hlocation]

/-- **Where plain names lead to a module, the probe's search is the one for the module's
location.** -/
theorem lookUpSearch_of_isPlain (h : ∀ part ∈ ModulePath.parts path, Path.IsPlain part) :
    lookUpSearch cwd root path =
      .ok (moduleSearch (Path.walk cwd root ++ ModulePath.parts path)) := by
  obtain ⟨above, last, hparts⟩ := @ModulePath.exists_parts_eq_concat path
  rw [hparts] at h ⊢
  obtain ⟨habove, hlast⟩ := List.forall_mem_append.1 h
  rw [List.forall_mem_singleton] at hlast
  rw [← PathValue.location_ofText, lookUpSearch, hparts]
  generalize PathValue.ofText root = p
  obtain ⟨hstem, hpackage⟩ := @join_packageFile above last p habove hlast
  obtain ⟨hsingle, hparent⟩ := @withName_single above last p hlast
  rw [hstem]
  dsimp only
  rw [hsingle]
  dsimp only
  rw [hpackage, hparent, foundSearch_source habove hlast, foundSearch_source habove hlast,
    location_source habove hlast, location_source habove hlast]
  rfl

end HandlerPipeline.FileTree

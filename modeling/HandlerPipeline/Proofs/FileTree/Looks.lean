import HandlerPipeline.FileTree.Probe

/-!
# Where a probe looks

A probe of a file tree looks at one path after the other, and what it finds at one of them decides
where it looks next. `Search` writes that out, apart from any tree. The search for a module gives
what the probe says of it in every tree (`FileTree.classify_eq_run`). Where the module's location is
reached from the root by plain components, so is every path that the search looks at
(`FileTree.isInside_of_mem_paths`).
-/

namespace HandlerPipeline

/-! ## Inside a folder -/

namespace Path

/-- The component leads one folder down, or to a file: it is not empty, leads neither nowhere nor
up, and is a single one. -/
structure IsPlain (component : String) : Prop where
  ne_empty : component ≠ ""
  ne_dot : component ≠ "."
  ne_dots : component ≠ ".."
  slash_notMem : '/' ∉ component.toList

/-- The location is reached from the folder by plain components, one at least. -/
def IsInside (folder location : List String) : Prop :=
  ∃ names, names ≠ [] ∧ (∀ name ∈ names, IsPlain name) ∧ location = folder ++ names

/-- Plain components are followed downwards, all of them. -/
theorem follow_of_isPlain {folder names : List String} (h : ∀ name ∈ names, IsPlain name) :
    follow folder names = folder ++ names := by
  induction names generalizing folder with
  | nil => simp [follow]
  | cons name names ih =>
    obtain ⟨hname, hnames⟩ := List.forall_mem_cons.1 h
    rw [follow, ih hnames, List.append_assoc, List.singleton_append]
    exact hname.ne_dots

/-- A component without slashes and dots is plain, if it is not empty. -/
theorem isPlain_of_notMem {name : String} (hne : name ≠ "") (hslash : '/' ∉ name.toList)
    (hdot : '.' ∉ name.toList) : IsPlain name := by
  refine ⟨hne, ?_, ?_, hslash⟩
  · rintro rfl
    exact hdot (by decide)
  · rintro rfl
    exact hdot (by decide)

/-- A component with a suffix that is longer than two dots is plain. -/
theorem isPlain_append {name suffix : String} (hname : '/' ∉ name.toList)
    (hlength : 2 < suffix.toList.length) (hsuffix : '/' ∉ suffix.toList) :
    IsPlain (name ++ suffix) := by
  have hne : ∀ {short : String}, short.toList.length ≤ 2 → name ++ suffix ≠ short := by
    rintro short hshort rfl
    rw [String.toList_append, List.length_append] at hshort
    omega
  refine ⟨hne (by decide), hne (by decide), hne (by decide), ?_⟩
  rw [String.toList_append, List.mem_append, not_or]
  exact ⟨hname, hsuffix⟩

/-- Plain components with one more are plain. -/
theorem isPlain_concat {names : List String} {last : String}
    (hnames : ∀ name ∈ names, IsPlain name) (hlast : IsPlain last) :
    ∀ name ∈ names ++ [last], IsPlain name :=
  List.forall_mem_append.2 ⟨hnames, List.forall_mem_singleton.2 hlast⟩

/-- The file of a package is a plain component. -/
theorem isPlain_packageFile : IsPlain "__init__.py" :=
  ⟨by decide, by decide, by decide, by decide⟩

/-- The marker of typed packages is a plain component. -/
theorem isPlain_marker : IsPlain "py.typed" := ⟨by decide, by decide, by decide, by decide⟩

/-- What stands in a folder under plain components, and one more, is inside it. -/
theorem isInside_append_singleton {folder names : List String} {last : String}
    (hnames : ∀ name ∈ names, IsPlain name) (hlast : IsPlain last) :
    IsInside folder (folder ++ names ++ [last]) := by
  exact ⟨names ++ [last], by simp, isPlain_concat hnames hlast, List.append_assoc _ _ _⟩

end Path

namespace FileTree

/-! ## Searches -/

/-- A search for a file: what it has come to, or the path that it looks at next, and how it goes on
where a file stands there and where none does. -/
inductive Search where
  | result (variant? : Option Variant)
  | look (path : List String) (found missing : Search)

namespace Search

/-- What the search comes to in a tree. -/
def run (t : FileTree) : Search → Option Variant
  | result variant? => variant?
  | look path found missing => if t.isFile path then found.run t else missing.run t

/-- The paths that the search looks at in a tree, in order. -/
def visited (t : FileTree) : Search → List (List String)
  | result _ => []
  | look path found missing =>
    path :: if t.isFile path then found.visited t else missing.visited t

/-- The paths that the search looks at in some tree. -/
def paths : Search → List (List String)
  | result _ => []
  | look path found missing => path :: (found.paths ++ missing.paths)

variable {t t' : FileTree} {search : Search} {q : List String}

/-- Where a search looks in one tree is where it looks in some tree. -/
theorem mem_paths_of_mem_visited (h : q ∈ search.visited t) : q ∈ search.paths := by
  induction search with
  | result variant? => cases h
  | look path found missing ihfound ihmissing =>
    rcases List.mem_cons.1 h with rfl | h
    · exact .head _
    · refine .tail _ (List.mem_append.2 ?_)
      split at h
      · exact .inl (ihfound h)
      · exact .inr (ihmissing h)

/-- The files at which a search looks decide what it comes to. -/
theorem run_congr (h : ∀ q ∈ search.visited t, t.isFile q = t'.isFile q) :
    search.run t = search.run t' := by
  induction search with
  | result variant? => rfl
  | look path found missing ihfound ihmissing =>
    obtain ⟨hpath, hrest⟩ := List.forall_mem_cons.1 h
    rw [run, run, ← hpath]
    split
    · next hfile => exact ihfound (by simpa [hfile] using hrest)
    · next hfile => exact ihmissing (by simpa [hfile] using hrest)

end Search

/-! ## The search for a module -/

/-- The search for what types the source in one form: its stub, or else its folder's marker. -/
def typingSearch (stem : List String) (form : SourceForm) : Search :=
  .look (form.stub stem) (.result (some .typed))
    (.look (form.marker stem) (.result (some .typed)) (.result (some .plain)))

/-- The search for a module: its package, or else its file, and what types them. -/
def moduleSearch (stem : List String) : Search :=
  .look (SourceForm.package.file stem) (typingSearch stem .package)
    (.look (SourceForm.single.file stem) (typingSearch stem .single) (.result none))

/-- The source in one form has the variant that the search for what types it comes to. -/
theorem run_typingSearch (t : FileTree) (stem : List String) (form : SourceForm) :
    (typingSearch stem form).run t = some (t.formVariant stem form) := by
  simp only [typingSearch, Search.run, formVariant]
  cases t.isFile (form.stub stem) <;> cases t.isFile (form.marker stem) <;> rfl

/-- **A module has the variant that the search for it comes to.** -/
theorem classify_eq_run (t : FileTree) (root : List String) (path : String) :
    t.classify root path = (moduleSearch (stem root path)).run t := by
  rw [moduleSearch, Search.run, Search.run, run_typingSearch, run_typingSearch, classify,
    sourceForm?]
  split
  · rfl
  · split <;> rfl

/-! ## Inside the root -/

/-- A suffix goes to the last of some components, also where they stand in a folder. -/
theorem suffixed_append {suffix last : String} (folder names : List String) :
    suffixed suffix (folder ++ (names ++ [last])) = folder ++ names ++ [last ++ suffix] := by
  rw [← List.append_assoc]
  induction folder ++ names with
  | nil => rfl
  | cons first rest ih =>
    rw [List.cons_append, suffixed, ih, List.cons_append]
    simp

/-- The search for a module looks inside the root only, where plain components lead from the root to
the module. -/
theorem isInside_of_mem_paths {root names : List String} (hne : names ≠ [])
    (hnames : ∀ name ∈ names, Path.IsPlain name) :
    ∀ q ∈ (moduleSearch (root ++ names)).paths, Path.IsInside root q := by
  obtain ⟨above, last, rfl⟩ : ∃ above last, names = above ++ [last] :=
    ⟨_, _, (List.dropLast_concat_getLast hne).symm⟩
  obtain ⟨habove, hlast⟩ := List.forall_mem_append.1 hnames
  rw [List.forall_mem_singleton] at hlast
  have within : ∀ {file : String}, Path.IsPlain file →
      Path.IsInside root (root ++ (above ++ [last]) ++ [file]) :=
    fun hfile => Path.isInside_append_singleton hnames hfile
  have beside : ∀ {file : String}, Path.IsPlain file →
      Path.IsInside root (root ++ above ++ [file]) :=
    fun hfile => Path.isInside_append_singleton habove hfile
  have hdrop : (root ++ (above ++ [last])).dropLast = root ++ above := by
    rw [← List.append_assoc, List.dropLast_concat]
  simp only [moduleSearch, typingSearch, Search.paths, SourceForm.file, SourceForm.stub,
    SourceForm.marker, suffixed_append, hdrop, List.append_nil, List.forall_mem_cons,
    List.forall_mem_append, List.nil_append, List.not_mem_nil, false_implies, implies_true, and_true]
  refine ⟨within Path.isPlain_packageFile,
    ⟨within ⟨by decide, by decide, by decide, by decide⟩, within Path.isPlain_marker⟩, ?_, ?_,
    beside Path.isPlain_marker⟩
  · exact beside (Path.isPlain_append hlast.slash_notMem (by decide) (by decide))
  · exact beside (Path.isPlain_append hlast.slash_notMem (by decide) (by decide))

end FileTree

end HandlerPipeline

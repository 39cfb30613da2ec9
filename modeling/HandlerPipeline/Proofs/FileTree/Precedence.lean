import HandlerPipeline.Proofs.Artifact.Agreement

/-!
# Which form of a module counts

Further files can make a module typed that was plain, and give one a source that had none. There is
one way in which they weaken what the probe says of a module: a package is put beside a typed single
file, and is not typed itself (`FileTree.Hides`). The package goes before the single file, and what
types that file does not type the package. In every other case more files never weaken the answer
(`FileTree.answerRank_le_iff`), and where a module has both forms, the answer is that for the
package alone (`FileTree.sourceForm?_alone`). The theorem `Reference.answer_precedence` puts these
together for references that were read, and `Reference.answer_hidden` is the smallest case of the
exception.
-/

namespace HandlerPipeline

namespace FileTree

variable {t t' : FileTree} {stem root q : List String} {form : SourceForm} {path : String}

/-! ## Answers -/

/-- The rank of an answer: no source, a plain one, a typed one. -/
def answerRank : Option Variant → Nat
  | none => 0
  | some v => v.strictness + 1

/-- Of two answers with a source, the first one is stronger only if it is typed and the second one is
not. -/
theorem answerRank_some_le_iff {v w : Variant} :
    answerRank (some v) ≤ answerRank (some w) ↔ ¬ (v = .typed ∧ w = .plain) := by
  cases v <;> cases w <;> decide

/-- What the probe of a root says of a module. -/
def answer (t : FileTree) (cwd : List String) (root path : String) :
    Except PathError (Option Variant) :=
  (t.lookUp cwd root path).map (Option.map Found.variant)

/-- Every file of the first tree stands in the second. -/
def IsPartOf (t t' : FileTree) : Prop := ∀ q, t.isFile q = true → t'.isFile q = true

/-- A tree is part of the one with more files. -/
theorem isPartOf_append (t : FileTree) (more : List (List String)) :
    t.IsPartOf { t with files := t.files ++ more } := by
  intro q hq
  rw [isFile, List.contains_iff_mem] at hq ⊢
  exact List.mem_append_left _ hq

/-- A plain package in the second tree hides a single file that is typed in the first. -/
structure Hides (t t' : FileTree) (stem : List String) : Prop where
  single : t.isFile (SourceForm.single.file stem) = true
  typed : t.formVariant stem .single = .typed
  noPackage : t.isFile (SourceForm.package.file stem) = false
  package : t'.isFile (SourceForm.package.file stem) = true
  plain : t'.formVariant stem .package = .plain

/-- A module has a source in the form of a package where a package stands. -/
theorem sourceForm?_of_package (h : t.isFile (SourceForm.package.file stem) = true) :
    t.sourceForm? stem = some .package := if_pos h

/-- Without a package, a module has a source in the form of a single file where that stands. -/
theorem sourceForm?_of_single (hpackage : t.isFile (SourceForm.package.file stem) = false)
    (hsingle : t.isFile (SourceForm.single.file stem) = true) :
    t.sourceForm? stem = some .single := by
  rw [sourceForm?, hpackage, if_neg Bool.false_ne_true, if_pos hsingle]

/-- Without either, it has none. -/
theorem sourceForm?_of_none (hpackage : t.isFile (SourceForm.package.file stem) = false)
    (hsingle : t.isFile (SourceForm.single.file stem) = false) : t.sourceForm? stem = none := by
  rw [sourceForm?, hpackage, hsingle, if_neg Bool.false_ne_true, if_neg Bool.false_ne_true]

/-! ## More files -/

/-- More files do not weaken a source in one form. -/
theorem strictness_formVariant_le (h : t.IsPartOf t') (stem : List String) (form : SourceForm) :
    (t.formVariant stem form).strictness ≤ (t'.formVariant stem form).strictness := by
  cases hv : t.formVariant stem form with
  | plain => exact Nat.zero_le _
  | typed =>
    rw [formVariant_eq_typed_iff.2 ((formVariant_eq_typed_iff.1 hv).imp (h _) (h _))]

/-- **More files do not weaken the answer**, except where a plain package hides a typed single
file. -/
theorem answerRank_le_iff (h : t.IsPartOf t') (root : List String) (path : String) :
    answerRank (t.classify root path) ≤ answerRank (t'.classify root path) ↔
      ¬ Hides t t' (FileTree.stem root path) := by
  rw [classify, classify]
  generalize FileTree.stem root path = stem
  cases hpackage : t.isFile (SourceForm.package.file stem) with
  | true =>
    rw [sourceForm?_of_package hpackage, sourceForm?_of_package (h _ hpackage)]
    refine ⟨fun _ hides => ?_,
      fun _ => Nat.succ_le_succ (strictness_formVariant_le h stem .package)⟩
    rw [hides.noPackage] at hpackage
    cases hpackage
  | false =>
  cases hsingle : t.isFile (SourceForm.single.file stem) with
  | false =>
    rw [sourceForm?_of_none hpackage hsingle]
    refine ⟨fun _ hides => ?_, fun _ => Nat.zero_le _⟩
    rw [hides.single] at hsingle
    cases hsingle
  | true =>
  rw [sourceForm?_of_single hpackage hsingle]
  cases hpackage' : t'.isFile (SourceForm.package.file stem) with
  | false =>
    rw [sourceForm?_of_single hpackage' (h _ hsingle)]
    refine ⟨fun _ hides => ?_, fun _ => Nat.succ_le_succ (strictness_formVariant_le h stem .single)⟩
    rw [hides.package] at hpackage'
    cases hpackage'
  | true =>
    rw [sourceForm?_of_package hpackage', Option.map_some, Option.map_some, answerRank_some_le_iff,
      not_iff_not]
    exact ⟨fun h => ⟨hsingle, h.1, hpackage, hpackage', h.2⟩, fun h => ⟨h.typed, h.plain⟩⟩

/-! ## One form alone -/

/-- The other form. -/
def SourceForm.other : SourceForm → SourceForm
  | package => single
  | single => package

/-- The tree without the file at a path. -/
def without (t : FileTree) (path : List String) : FileTree :=
  { t with files := t.files.filter (· ≠ path) }

/-- The tree in which a module has a source in one form at most. -/
def alone (t : FileTree) (stem : List String) (form : SourceForm) : FileTree :=
  t.without (form.other.file stem)

/-- The file that is taken away is gone, and no other. -/
theorem isFile_without (path q : List String) :
    (t.without path).isFile q = (t.isFile q && decide (q ≠ path)) := by
  rw [Bool.eq_iff_iff, Bool.and_eq_true, decide_eq_true_eq]
  simp [isFile, without]

/-- How many folders below a module's location the files of a form stand. -/
def SourceForm.depth : SourceForm → Nat
  | package => 1
  | single => 0

/-- The source, the stub and the marker of a form stand in one folder. -/
theorem SourceForm.length_file (hstem : stem ≠ []) (form : SourceForm) :
    (form.file stem).length = stem.length + form.depth ∧
      (form.stub stem).length = stem.length + form.depth ∧
      (form.marker stem).length = stem.length + form.depth := by
  obtain ⟨above, last, rfl⟩ : ∃ above last, stem = above ++ [last] :=
    ⟨_, _, (List.dropLast_concat_getLast hstem).symm⟩
  have hsuffixed : ∀ suffix, suffixed suffix (above ++ [last]) = above ++ [last ++ suffix] :=
    fun suffix => suffixed_append [] above
  cases form <;> simp [file, stub, marker, depth, hsuffixed]

/-- So none of them is the source of the other form. -/
theorem SourceForm.ne_file_other (hstem : stem ≠ []) (form : SourceForm) :
    form.file stem ≠ form.other.file stem ∧ form.stub stem ≠ form.other.file stem ∧
      form.marker stem ≠ form.other.file stem := by
  obtain ⟨hfile, hstub, hmarker⟩ := form.length_file hstem
  have hother := (form.other.length_file hstem).1
  have hdepth : form.depth ≠ form.other.depth := by cases form <;> decide
  refine ⟨fun heq => ?_, fun heq => ?_, fun heq => ?_⟩ <;>
    · have := congrArg List.length heq
      omega

/-- Taken alone, a form is found where it stands, with its own variant. -/
theorem sourceForm?_alone (hstem : stem ≠ []) (h : t.isFile (form.file stem) = true) :
    (t.alone stem form).sourceForm? stem = some form ∧
      (t.alone stem form).formVariant stem form = t.formVariant stem form := by
  obtain ⟨hfile, hstub, hmarker⟩ := form.ne_file_other hstem
  have hkept : ∀ {q}, q ≠ form.other.file stem → (t.alone stem form).isFile q = t.isFile q :=
    fun hq => by rw [alone, isFile_without, decide_eq_true hq, Bool.and_true]
  have hgone : (t.alone stem form).isFile (form.other.file stem) = false := by
    rw [alone, isFile_without, decide_eq_false (by simp), Bool.and_false]
  refine ⟨?_, by rw [formVariant, formVariant, hkept hstub, hkept hmarker]⟩
  cases form with
  | package => exact sourceForm?_of_package ((hkept hfile).trans h)
  | single => exact sourceForm?_of_single hgone ((hkept hfile).trans h)

end FileTree

namespace Reference

variable {text : String} {r : Reference}

/-- The module of a reference that was read is one or more components away from every root. -/
theorem stem_ne_nil (h : read text = .ok r) (root : List String) :
    FileTree.stem root r.modulePath ≠ [] := by
  have hparts := isPlain_of_mem_parts (read_eq_ok_iff.1 h).isModulePath
  rw [FileTree.stem, components_eq_parts hparts]
  exact List.append_ne_nil_of_right_ne_nil _ ModulePath.parts_ne_nil

/-- What the probe of a root says of two trees, the second of which may have more files. -/
structure Precedence (t t' : FileTree) (cwd : List String) (root path : String) : Prop where
  /-- The probe answers, and with more files it answers no weaker, except where a plain package
  hides a typed single file. -/
  stronger : ∃ a a', t.answer cwd root path = .ok a ∧ t'.answer cwd root path = .ok a' ∧
    (t.IsPartOf t' → (FileTree.answerRank a ≤ FileTree.answerRank a' ↔
      ¬ t.Hides t' (FileTree.stem (Path.walk cwd root) path)))
  /-- Where a module has both forms, it is what the package alone is, whatever the single file alone
  is. -/
  bothForms : ∀ stem, stem = FileTree.stem (Path.walk cwd root) path →
    (∀ form : FileTree.SourceForm, t.isFile (form.file stem) = true) →
    t.answer cwd root path = (t.alone stem .package).answer cwd root path ∧
      ∀ form, (t.alone stem form).answer cwd root path = .ok (some (t.formVariant stem form))

/-- **A package goes before a single file**, and so more files never weaken what the probe says of
the module of a reference that was read, except where a plain package comes before a typed single
file. -/
theorem answer_precedence (h : read text = .ok r) (t t' : FileTree) (cwd : List String)
    (root : String) : Precedence t t' cwd root r.modulePath := by
  have hanswer : ∀ t : FileTree,
      t.answer cwd root r.modulePath = .ok (t.classify (Path.walk cwd root) r.modulePath) :=
    fun t => Agreement.probed (lookUp_agrees h t (rfl : Path.walk cwd root = Path.walk cwd root))
  refine ⟨⟨_, _, hanswer t, hanswer t', fun hpart => FileTree.answerRank_le_iff hpart _ _⟩, ?_⟩
  rintro stem rfl hforms
  have halone : ∀ form, (t.alone (FileTree.stem (Path.walk cwd root) r.modulePath) form).answer cwd
      root r.modulePath =
        .ok (some (t.formVariant (FileTree.stem (Path.walk cwd root) r.modulePath) form)) := by
    intro form
    obtain ⟨hform, hvariant⟩ := FileTree.sourceForm?_alone (stem_ne_nil h _) (hforms form)
    rw [hanswer, FileTree.classify, hform, Option.map_some, hvariant]
  refine ⟨?_, halone⟩
  rw [halone, hanswer, FileTree.classify, FileTree.sourceForm?_of_package (hforms .package)]
  rfl

/-- A package that is typed itself may come before a typed single file. -/
theorem answer_precedence_typedPackage :
    let t : FileTree := ⟨[["svc", "a.py"], ["svc", "a.pyi"]], []⟩
    let t' := { t with files := t.files ++ [["svc", "a", "__init__.py"], ["svc", "a", "py.typed"]] }
    read "a.f" = .ok ⟨"a", "f"⟩ ∧ t.IsPartOf t' ∧
      ¬ t.Hides t' (FileTree.stem (Path.walk [] "svc") "a") ∧
      ∃ a a', t.answer [] "svc" "a" = .ok a ∧ t'.answer [] "svc" "a" = .ok a' ∧
        FileTree.answerRank a ≤ FileTree.answerRank a' := by
  intro t t'
  have hread : read "a.f" = .ok ⟨"a", "f"⟩ := by rfl
  have hpart : t.IsPartOf t' := t.isPartOf_append _
  have hshown : ¬ t.Hides t' (FileTree.stem (Path.walk [] "svc") "a") := fun hides =>
    absurd hides.plain (by decide +kernel)
  obtain ⟨a, a', ha, ha', hrank⟩ := (answer_precedence hread t t' [] "svc").stronger
  exact ⟨hread, hpart, hshown, a, a', ha, ha', (hrank hpart).2 hshown⟩

/-- **A plain package hides a typed single file**: with the package's file put beside it, a module
that was typed is plain, though it is typed in one of its two forms. -/
theorem answer_hidden :
    let t : FileTree := ⟨[["svc", "a.py"], ["svc", "a.pyi"]], []⟩
    let t' := { t with files := t.files ++ [["svc", "a", "__init__.py"]] }
    read "a.f" = .ok ⟨"a", "f"⟩ ∧ t.IsPartOf t' ∧
      (∀ form : FileTree.SourceForm, t'.isFile (form.file ["svc", "a"]) = true) ∧
      (t'.alone ["svc", "a"] .single).answer [] "svc" "a" = .ok (some .typed) ∧
      t.answer [] "svc" "a" = .ok (some .typed) ∧ t'.answer [] "svc" "a" = .ok (some .plain) := by
  intro t t'
  refine ⟨rfl, t.isPartOf_append _, fun form => ?_, ?_, ?_, ?_⟩
  · cases form <;> decide +kernel
  all_goals rfl

end Reference

end HandlerPipeline

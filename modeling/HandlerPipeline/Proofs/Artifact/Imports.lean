import HandlerPipeline.Proofs.Artifact.Lines
import HandlerPipeline.Proofs.Artifact.ReadBack
import HandlerPipeline.Proofs.Artifact.ServiceRoot
import HandlerPipeline.Proofs.Text.NormalForm

/-!
# The modules that a typed artifact imports

A typed artifact imports a module by a statement, where all parts of its path are names, and by a
call with its dotted name otherwise. The two are not read alike: the names of a statement are taken
in their normal form, the text of a call as it stands. So a statement imports the module that the
path names iff every part is its own normal form (`Artifact.emit_imports`), as every name of ASCII
is. Any other name leads to the module whose name is the normal form, if there is one.
-/

namespace HandlerPipeline

namespace Artifact

/-! ## The reader -/

/-- What a line of source imports: the names of a module and of those that it lies inside, the
outermost first, and the name that the module is bound to. -/
structure Import where
  names : List String
  bound : String
  deriving DecidableEq, Repr

/-- The name that a word of source stands for, if it is no keyword. -/
def wordName? (word : List Char) : Option String :=
  if Text.isName (String.ofList word) then some (Text.normalized (String.ofList word)) else none

/-- The name that a word binds. One name is kept for the language itself. -/
def boundName? (word : List Char) : Option String :=
  match wordName? word with
  | some name => if name = "__debug__" then none else some name
  | none => none

/-- Reads names that are joined by dots, and what stands behind them. -/
def joinedNames? : List Text.Token → Option (List String × List Text.Token)
  | .word word :: .sign '.' :: rest => do
    let name ← wordName? word
    let (names, behind) ← joinedNames? rest
    some (name :: names, behind)
  | .word word :: rest => (wordName? word).map fun name => ([name], rest)
  | _ => none

/-- Reads an import statement behind its first word. -/
def statementImport? (ts : List Text.Token) : Option Import := do
  let (names, behind) ← joinedNames? ts
  match behind with
  | [.word joint, .word bound] =>
    if joint = "as".toList then (boundName? bound).map (Import.mk names) else none
  | _ => none

/-- The tokens between the name that is bound and the text that it is imported by. -/
def callTokens : List Text.Token :=
  [.sign ':', .word "ModuleType".toList, .sign '=', .word "importlib".toList, .sign '.',
    .word "import_module".toList, .sign '(']

/-- Reads an import by a text, behind the name that is bound. The text is cut at its dots, and no
part of it may be empty. -/
def callImport? (bound : List Char) (ts : List Text.Token) : Option Import := do
  let call ← callTokens.isPrefixOf? ts
  match call with
  | [.literal text, .sign ')'] =>
    let names := (text.splitOn '.').map String.ofList
    if "" ∈ names then none else (boundName? bound).map (Import.mk names)
  | _ => none

/-- Reads what the tokens of a line import. -/
def readImport : List Text.Token → Option Import
  | .word first :: rest =>
    if first = "import".toList then statementImport? rest else callImport? first rest
  | _ => none

/-- What a line of source imports. -/
def importOf? (line : List Char) : Option Import := (Text.tokens line).bind readImport

/-! ## Names of source -/

/-- A word that is a name stands for its normal form. -/
theorem wordName?_of_isName {name : String} (h : Text.isName name = true) :
    wordName? name.toList = some (Text.normalized name) := by
  rw [wordName?, String.ofList_toList, if_pos h]

/-- The name of a module can be bound, unless the language keeps it for itself. -/
theorem boundName?_bindingName {path : String} (h : path ≠ "") :
    boundName? (ModulePath.bindingName reservedNames path).toList =
      if ModulePath.bindingName reservedNames path = "__debug__" then none
      else some (ModulePath.bindingName reservedNames path) := by
  rw [boundName?, wordName?_of_isName (ModulePath.isName_bindingName h),
    Text.normalized_eq_self ModulePath.toNat_lt_of_mem_bindingName]

/-- Names that are joined by dots are read, up to what is no dot. -/
theorem joinedNames?_append {names : List String} {rest : List Text.Token} (hne : names ≠ [])
    (hnames : ∀ name ∈ names, Text.isName name = true) (hrest : rest.head? ≠ some (.sign '.')) :
    joinedNames? ((names.map fun name => .word name.toList).intersperse (.sign '.') ++ rest) =
      some (names.map Text.normalized, rest) := by
  induction names with
  | nil => exact absurd rfl hne
  | cons name names ih =>
    obtain ⟨hname, hnames⟩ := List.forall_mem_cons.1 hnames
    cases names with
    | nil =>
      rw [List.map_singleton, List.intersperse_singleton, List.singleton_append, joinedNames?,
        wordName?_of_isName hname]
      · rfl
      · intro _ heq
        exact hrest (by rw [heq]; rfl)
    | cons next names =>
      have hothers := ih (List.cons_ne_nil _ _) hnames
      rw [List.map_cons] at hothers
      rw [List.map_cons, List.map_cons, List.intersperse_cons_cons, List.cons_append,
        List.cons_append, joinedNames?, wordName?_of_isName hname, hothers]
      rfl

/-- A statement is read. -/
theorem statementImport?_append {names : List String} {bound : List Char} (hne : names ≠ [])
    (hnames : ∀ name ∈ names, Text.isName name = true) :
    statementImport? ((names.map fun name => .word name.toList).intersperse (.sign '.') ++
        [.word "as".toList, .word bound]) =
      (boundName? bound).map (Import.mk (names.map Text.normalized)) := by
  rw [statementImport?, joinedNames?_append hne hnames (by simp)]
  simp only [Option.bind_eq_bind, Option.bind_some, if_true]

/-- A call with a dotted name is read, where no part of the name is empty. -/
theorem callImport?_append {path : String} {bound : List Char} (h : "" ∉ ModulePath.parts path) :
    callImport? bound
        (callTokens ++ [.literal (ModulePath.dotted path).toList, .sign ')']) =
      (boundName? bound).map (Import.mk (ModulePath.parts path)) := by
  have hcall : ∀ rest, callTokens.isPrefixOf? (callTokens ++ rest) = some rest :=
    fun _ => List.isPrefixOf?_eq_some_iff_append_eq.2 rfl
  rw [callImport?, hcall]
  simp only [Option.bind_eq_bind, Option.bind_some, ModulePath.splitOn_dotted, if_neg h]

/-! ## The lines of the module block -/

/-- The name that a module is bound to. -/
def boundName (path : String) : String := ModulePath.bindingName reservedNames path

/-- The import of a module by its names, under the name that it is bound to. -/
def importBy (names : List String) (path : String) : Option Import :=
  if boundName path = "__debug__" then none else some ⟨names, boundName path⟩

/-- The name of a module is bound as it is written. -/
theorem map_boundName? {path : String} (h : path ≠ "") (names : List String) :
    (boundName? (boundName path).toList).map (Import.mk names) = importBy names path := by
  rw [boundName, boundName?_bindingName h, importBy, boundName]
  split <;> rfl

/-- The line that imports a module is cut into the tokens of its pieces. -/
theorem tokens_importLine {path : String} (h : Reference.IsModulePath path.toList) :
    Text.tokens (importLine (path, boundName path)).toList =
      some ((modulePieces .typed path).flatMap Piece.tokens) := by
  rw [← (fits_modulePieces .typed h).tokens_lineText, lineText_modulePieces]
  rfl

/-- **The line of a module is read as an import of the names that the module is loaded by**, under
the name that it is bound to. -/
theorem importOf?_importLine {path : String} (h : Reference.IsModulePath path.toList) :
    importOf? (importLine (path, boundName path)).toList = importBy (importedNames path) path := by
  have hpath : path ≠ "" := by simpa using h.ne_nil
  rw [importOf?, tokens_importLine h, Option.bind_some, ← map_boundName? hpath, importedNames]
  cases himportable : importable path with
  | true =>
    have hnames : ∀ name ∈ ModulePath.parts path, Text.isName name = true :=
      List.all_eq_true.1 himportable
    have hline : (modulePieces .typed path).flatMap Piece.tokens =
        .word "import".toList ::
          (((ModulePath.parts path).map fun name => .word name.toList).intersperse (.sign '.') ++
            [.word "as".toList, .word (boundName path).toList]) := by
      have hfirst : (Piece.fixed "import ").tokens = [.word "import".toList] := by decide +kernel
      have hjoint : (Piece.fixed " as ").tokens = [.word "as".toList] := by decide +kernel
      simp only [modulePieces, himportable, if_true, List.flatMap_cons, List.flatMap_nil]
      rw [hfirst, hjoint]
      rfl
    rw [hline, readImport, if_pos rfl, statementImport?_append ModulePath.parts_ne_nil hnames]
    rfl
  | false =>
    have hline : (modulePieces .typed path).flatMap Piece.tokens =
        .word (boundName path).toList ::
          (callTokens ++ [.literal (ModulePath.dotted path).toList, .sign ')']) := by
      have hcall : (Piece.fixed ": ModuleType = importlib.import_module(").tokens = callTokens := by
        decide +kernel
      have hclose : (Piece.fixed ")").tokens = [.sign ')'] := by decide +kernel
      simp only [modulePieces, himportable, Bool.false_eq_true, if_false, List.flatMap_cons,
        List.flatMap_nil]
      rw [hcall, hclose]
      rfl
    have hfirst : (boundName path).toList ≠ "import".toList := by
      intro heq
      have hname : Text.isName (boundName path) = true := ModulePath.isName_bindingName hpath
      rw [String.toList_inj.1 heq] at hname
      exact absurd hname (by decide)
    rw [hline, readImport, if_neg hfirst,
      callImport?_append (Reference.notMem_parts_of_isModulePath h)]
    rfl

/-! ## Which module is imported -/

/-- The module is imported as its path names it: by a text, or by names that are their own normal
forms. -/
def IsFaithful (path : String) : Prop :=
  importable path = true → ∀ part ∈ ModulePath.parts path, Text.normalized part = part

section

variable {path : String}

/-- The names that a module is imported by are the parts of its path iff the import is faithful. -/
theorem importedNames_eq_parts_iff :
    importedNames path = ModulePath.parts path ↔ IsFaithful path := by
  rw [importedNames, IsFaithful]
  split
  · next himportable =>
    constructor
    · exact fun h _ => List.map_eq_map_iff.1 (h.trans (List.map_id _).symm)
    · exact fun h => (List.map_congr_left (h himportable)).trans (List.map_id _)
  · next himportable => simp [himportable]

/-- A path of ASCII is imported faithfully. -/
theorem isFaithful_of_ascii (h : ∀ c ∈ path.toList, c.toNat < 0x80) : IsFaithful path :=
  fun _ _ hpart => Text.normalized_eq_self fun c hc => h c (ModulePath.of_mem_parts hpart c hc).1

/-- A module is imported by one name at least. -/
theorem importedNames_ne_nil (path : String) : importedNames path ≠ [] := by
  rw [importedNames]
  split
  · simpa using ModulePath.parts_ne_nil
  · exact ModulePath.parts_ne_nil

/-- The names that a module is imported by are the parts of its imported name. -/
theorem parts_importedName (path : String) :
    ModulePath.parts (importedName path) = importedNames path := by
  have hparts : ∀ part ∈ ModulePath.parts path, ∀ c ∈ part.toList, isSeparator c = false :=
    fun part hpart c hc => (ModulePath.of_mem_parts hpart c hc).2
  have hnames : ∀ name ∈ importedNames path, ∀ c ∈ name.toList, isSeparator c = false := by
    rw [importedNames]
    split
    · exact List.forall_mem_map.2 fun part hpart =>
        Text.not_isSeparator_of_mem_normalized (hparts part hpart)
    · exact hparts
  exact ModulePath.parts_intercalate hnames (importedNames_ne_nil path)

/-- The names that a module is imported by lead to it from any root. -/
theorem stem_importedName (h : "" ∉ ModulePath.parts path) (root : List String) :
    FileTree.stem root (importedName path) = root ++ importedNames path := by
  have hnames : "" ∉ ModulePath.parts (importedName path) := by
    rw [parts_importedName, importedNames]
    split
    · intro hempty
      obtain ⟨part, hpart, hnormal⟩ := List.mem_map.1 hempty
      exact Text.normalized_ne_empty (fun heq => h (heq ▸ hpart)) hnormal
    · exact h
  rw [FileTree.stem, ModulePath.components_eq_parts_of_notMem hnames, parts_importedName]

/-- A module is imported from where its path leads iff the import is faithful. -/
theorem stem_importedName_eq_iff (h : "" ∉ ModulePath.parts path) (root : List String) :
    FileTree.stem root (importedName path) = FileTree.stem root path ↔ IsFaithful path := by
  rw [stem_importedName h, FileTree.stem, ModulePath.components_eq_parts_of_notMem h,
    List.append_cancel_left_eq, importedNames_eq_parts_iff]

/-- A module is imported by its own parts iff the import is faithful and its name can be bound. -/
theorem importBy_eq_some_iff :
    importBy (importedNames path) path = some ⟨ModulePath.parts path, boundName path⟩ ↔
      boundName path ≠ "__debug__" ∧ IsFaithful path := by
  rw [importBy, ← importedNames_eq_parts_iff]
  split
  · next hkept => simp [hkept]
  · next hfree => simp [hfree]

end

/-! ## The law of the imports -/

/-- The line that binds a module of a typed artifact. -/
def lineOf (path : String) : String := importLine (path, boundName path)

/-- What is said of the source of a typed artifact: what the lines of its module block import. -/
structure ImportLaw (p : Pipeline) (source : String) : Prop where
  /-- Behind the fixed lines of the module block stands one line for each module. -/
  lines : ∃ below, Text.lines source.toList =
    (header .typed p.functionName ++ ChainSource.lines ++ sectionHead "Handler modules" ++
      importer ++ p.modulePaths.map lineOf ++ below).map String.toList
  /-- Each is read as an import of the names that the loader looks for, under the binding name, or
  is refused where the language keeps that name for itself. -/
  imports : ∀ path ∈ p.modulePaths, importOf? (lineOf path).toList =
    if boundName path = "__debug__" then none else some ⟨importedNames path, boundName path⟩
  /-- It imports the module that the path names iff the name can be bound and, in a statement, every
  part is its own normal form. -/
  faithful_iff : ∀ path ∈ p.modulePaths,
    importOf? (lineOf path).toList = some ⟨ModulePath.parts path, boundName path⟩ ↔
      boundName path ≠ "__debug__" ∧ IsFaithful path
  /-- In that case, and in no other, the module is looked for where the probe has found it. -/
  stem_eq_iff : ∀ path ∈ p.modulePaths, ∀ root,
    FileTree.stem root (importedName path) = FileTree.stem root path ↔ IsFaithful path
  /-- It is so for every path of ASCII. -/
  ascii : ∀ path ∈ p.modulePaths, (∀ c ∈ path.toList, c.toNat < 0x80) → IsFaithful path

variable {importBase : String} {p : Pipeline}

/-- **The lines of a typed artifact import the modules of its pipeline by the normal forms of their
parts**, or by a text with these parts; so they import what the paths name iff the normal forms
change nothing. -/
theorem emit_imports {checks : Bool} {source : String} {logged : List Log.Line}
    (hsteps : ∀ s ∈ p.steps, ∃ raw, Step.read raw = .ok s)
    (hemit : emit checks .typed importBase p = .ok (source, logged)) : ImportLaw p source := by
  obtain ⟨bs, hbs, rfl⟩ := bindings_of_emit_eq_ok hemit
  have haccepted := Pipeline.isAccepted_of_read hsteps
  have hpath : ∀ path ∈ p.modulePaths, Reference.IsModulePath path.toList := by
    intro path hpath
    obtain ⟨s, hs, r, hr, rfl⟩ := exists_of_mem_modulePaths hpath
    exact (haccepted s hs r hr).isModulePath
  have hline : ∀ path ∈ p.modulePaths,
      importOf? (lineOf path).toList = importBy (importedNames path) path :=
    fun path hmem => importOf?_importLine (hpath path hmem)
  refine ⟨?_, hline, fun path hmem => ?_, fun path hmem => ?_, fun _ _ => isFaithful_of_ascii⟩
  · refine ⟨sectionHead "Pipeline" ++ table .typed p.steps ++ entryLines .typed, ?_⟩
    have hblock : bs.map importLine = p.modulePaths.map lineOf := by
      rw [(Pipeline.bindings_eq_ok_iff.1 hbs).1, List.map_map]
      rfl
    rw [lines_ofLines (inOneLine_of_mem_lines haccepted hbs), Artifact.lines, moduleLines, hblock]
    simp only [List.append_assoc]
  · rw [hline path hmem]
    exact importBy_eq_some_iff
  · exact stem_importedName_eq_iff (Reference.notMem_parts_of_isModulePath (hpath path hmem))

/-- A pipeline of a module whose name holds a ligature, and of another with the ligature in a part
that is no name. -/
def ligature : Pipeline := ⟨"fn", [.onBoth ⟨"ﬁx", "check"⟩ ⟨"lib/ﬁx-up", "log"⟩]⟩

/-- The step of the pipeline is read from a map of texts. -/
theorem read_ligature : ∀ s ∈ ligature.steps, ∃ raw, Step.read raw = .ok s := by
  intro s hs
  rw [ligature, List.mem_singleton] at hs
  exact ⟨.map [(.text "then", .text "ﬁx.check"), (.text "catch", .text "lib/ﬁx-up.log")],
    by rw [hs]; rfl⟩

/-- The pipeline is emitted. -/
theorem emit_ligature :
    ∃ source, emit true .typed ".." ligature = .ok (source, [emittedLine .typed ligature]) := by
  have hbs : ligature.bindings reservedNames = .ok [("ﬁx", "_x"), ("lib/ﬁx-up", "lib__x_up")] :=
    Pipeline.bindings_eq_ok_iff.2 ⟨by decide +kernel, by decide⟩
  exact ⟨_, emit_eq_of_bindings true .typed ".." hbs⟩

/-- Its statement imports a module without the ligature, and its call the module that the path
names. -/
theorem emit_imports_ligature :
    (∀ s ∈ ligature.steps, ∃ raw, Step.read raw = .ok s) ∧
      ∃ source, emit true .typed ".." ligature = .ok (source, [emittedLine .typed ligature]) ∧
        ImportLaw ligature source ∧
        importOf? (lineOf "ﬁx").toList = some ⟨["fix"], "_x"⟩ ∧
        importOf? (lineOf "lib/ﬁx-up").toList = some ⟨["lib", "ﬁx-up"], "lib__x_up"⟩ := by
  obtain ⟨source, hemit⟩ := emit_ligature
  have hlaw := emit_imports read_ligature hemit
  have hstatement := hlaw.imports "ﬁx" (by decide +kernel)
  have hcall := hlaw.imports "lib/ﬁx-up" (by decide +kernel)
  rw [if_neg (by decide +kernel)] at hstatement hcall
  exact ⟨read_ligature, source, hemit, hlaw, hstatement.trans (by decide +kernel),
    hcall.trans (by decide +kernel)⟩

/-- Statements import other modules than those that were probed: not every line of a module block
imports the parts of its path. -/
theorem emit_importsOther :
    ¬ ∀ (checks : Bool) (importBase : String) (p : Pipeline) (source : String)
        (logged : List Log.Line), (∀ s ∈ p.steps, ∃ raw, Step.read raw = .ok s) →
      emit checks .typed importBase p = .ok (source, logged) →
      ∀ path ∈ p.modulePaths,
        importOf? (lineOf path).toList = some ⟨ModulePath.parts path, boundName path⟩ := by
  intro h
  obtain ⟨source, hemit⟩ := emit_ligature
  have hmem : "ﬁx" ∈ ligature.modulePaths := by decide +kernel
  have hname : Text.isName "ﬁx" = true := by decide +kernel
  have hpath : Reference.IsModulePath "ﬁx".toList :=
    .part ⟨Text.toList_ne_nil_of_isName hname, Reference.isPartChar_of_isName hname⟩
  have hline := h true ".." ligature source _ read_ligature hemit "ﬁx" hmem
  rw [lineOf, importOf?_importLine hpath, importBy_eq_some_iff] at hline
  exact absurd (hline.2 (by decide +kernel) "ﬁx" (by decide +kernel)) (by decide +kernel)

end Artifact

end HandlerPipeline

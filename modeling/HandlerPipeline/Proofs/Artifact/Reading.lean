import HandlerPipeline.Proofs.Artifact.Lines
import Mathlib.Data.List.Basic

/-!
# Reading the text of an artifact

`Reading.ofSource` reads the text of an artifact without knowing the pipeline that it was written
for. Each line of the module block gives a binding name and the parts of a module path; each row of
the table gives the cells of its two sides and its label. Only fixed text is compared with the
layout; everything that comes from a pipeline is read character by character.

Every section below holds a reader and the law that it undoes the line, or the lines, that are
written: header, module block, rows, labels.
-/

namespace HandlerPipeline

/-! ## Splitting -/

/-- What stands before the first `c` of a text, and what stands behind it. -/
def Text.splitFirst (c : Char) : List Char → Option (List Char × List Char)
  | [] => none
  | d :: rest => if d = c then some ([], rest) else (splitFirst c rest).map (Prod.map (d :: ·) id)

/-- A text is split at the `c` that was put behind a text without one. -/
theorem Text.splitFirst_append {c : Char} {before : List Char} (h : c ∉ before)
    (after : List Char) : splitFirst c (before ++ c :: after) = some (before, after) := by
  induction before with
  | nil => simp [splitFirst]
  | cons d before ih =>
    rw [List.mem_cons, not_or] at h
    rw [List.cons_append, splitFirst, if_neg (Ne.symm h.1), ih h.2]
    rfl

/-- What stands behind `start` in a list that begins with it. -/
theorem dropPrefix?_self_append {α : Type} [BEq α] [LawfulBEq α] (start rest : List α) :
    (start ++ rest).dropPrefix? start = some rest :=
  List.dropPrefix?_append_of_beq rest (beq_self_eq_true start)

namespace Artifact

/-- What the text of a row gives: the cell of each side, which is empty or names a binding and an
export, and the label. -/
structure RowReading where
  success? : Option (String × String)
  failure? : Option (String × String)
  label : String

/-- What the text of an artifact gives. A binding is a name and the parts of a module path. -/
structure Reading where
  functionName : String
  variant : Variant
  importBase? : Option String
  modules : List (String × List String)
  rows : List RowReading

/-! ## Literals in their lines -/

/-- The text of the literal that stands between `opening` and `closing` and fills the line. -/
def readEnclosed (opening closing line : String) : Option String := do
  let inner ← line.toList.dropPrefix? opening.toList
  let (text, rest) ← Text.readLiteral inner
  if rest = closing.toList then some (String.ofList text) else none

/-- A literal is read from its line, where no mark stands behind it. -/
theorem readEnclosed_quote (opening text closing : String)
    (h : ∀ c ∈ closing.toList.head?, c ≠ '\'' ∧ c ≠ '"') :
    readEnclosed opening closing (opening ++ Text.quote text ++ closing) = some text := by
  have hmark := Text.head?_ne_quoteMark h text.toList
  rw [readEnclosed, String.toList_append, String.toList_append, List.append_assoc,
    dropPrefix?_self_append, Text.quote, String.toList_ofList]
  simp [Text.readLiteral_quoted _ _ hmark]

/-! ## The header -/

/-- Reads the header: the function's name and the variant. -/
def readHeader : List String → Option (String × Variant × List String)
  | first :: second :: third :: rest => do
    let functionName ← readEnclosed "# Middleware pipeline for function " "." first
    let variant ← Variant.all.find? fun v => (header v functionName).drop 1 = [second, third]
    some (functionName, variant, rest)
  | _ => none

/-- The header is read. -/
theorem readHeader_header (variant : Variant) (functionName : String) (rest : List String) :
    readHeader (header variant functionName ++ rest) = some (functionName, variant, rest) := by
  have hname := readEnclosed_quote "# Middleware pipeline for function " functionName "."
    (by simp)
  simp only [header, List.cons_append, List.nil_append, readHeader, hname]
  cases variant <;> simp [Variant.all, variantWord, List.find?]

/-! ## The module block -/

/-- Reads the literals of the further arguments of a call, up to its end. -/
def readArguments : List Char → Option (List String)
  | [')'] => some []
  | ',' :: ' ' :: inner =>
    match h : Text.readLiteral inner with
    | some (text, rest) =>
      have : rest.length < inner.length := Text.length_lt_of_readLiteral h
      (readArguments rest).map (String.ofList text :: ·)
    | none => none
  | _ => none
termination_by text => text.length

/-- Reads a line that loads a module: the binding name and the parts of the path. -/
def readLoadLine (line : String) : Option (String × List String) := do
  let (name, call) ← Text.splitFirst ' ' line.toList
  let inner ← call.dropPrefix? "= load_module(".toList
  let (again, rest) ← Text.readLiteral inner
  let parts ← readArguments rest
  if again = name then some (String.ofList name, parts) else none

/-- Reads a line that imports a module: the binding name and the parts of the dotted name. -/
def readImportLine (line : String) : Option (String × List String) := do
  let (first, rest) ← Text.splitFirst ' ' line.toList
  if String.ofList first = "import" then
    let (dotted, behind) ← Text.splitFirst ' ' rest
    let name ← behind.dropPrefix? "as ".toList
    some (String.ofList name, (dotted.splitOn '.').map String.ofList)
  else
    let (name, _) ← Text.splitFirst ':' first
    let dotted ← readEnclosed "ModuleType = importlib.import_module(" ")" (String.ofList rest)
    some (String.ofList name, (dotted.toList.splitOn '.').map String.ofList)

/-- Reads a line of the module block. -/
def readModuleLine : Variant → String → Option (String × List String)
  | .plain => readLoadLine
  | .typed => readImportLine

/-- The literals of the further arguments are read. -/
theorem readArguments_parts (parts : List String) :
    readArguments (parts.flatMap (fun part => ',' :: ' ' :: (Text.quote part).toList) ++ [')']) =
      some parts := by
  induction parts with
  | nil => simp [readArguments]
  | cons part parts ih =>
    -- A comma or the bracket stands behind the literal, so it does not go on.
    have hmark : (parts.flatMap (fun part => ',' :: ' ' :: (Text.quote part).toList) ++
        [')']).head? ≠ some (Text.quoteMark part.toList) :=
      Text.head?_ne_quoteMark (by cases parts <;> simp) part.toList
    have hread := Text.readLiteral_quoted part.toList _ hmark
    rw [List.flatMap_cons, List.cons_append, List.cons_append, List.cons_append, List.cons_append,
      List.append_assoc, readArguments, Text.quote, String.toList_ofList]
    split
    · next h =>
      rw [hread] at h
      cases h
      rw [ih, Option.map_some, String.ofList_toList]
    · next h =>
      rw [hread] at h
      cases h

/-- A binding name holds none of the characters that stand around it. -/
theorem IsBound.notMem {b : String × String} (h : IsBound b) {c : Char}
    (hc : ModulePath.isBindingChar c = false) : c ∉ b.2.toList := by
  rw [h.name_eq]
  exact ModulePath.notMem_bindingName hc _ _

/-- The line that loads a module is read. -/
theorem readLoadLine_loadLine {b : String × String} (h : IsBound b) :
    readLoadLine (loadLine b) = some (b.2, ModulePath.parts b.1) := by
  have hname : Text.splitFirst ' ' (loadLine b).toList = some (b.2.toList,
      "= load_module(".toList ++ (Text.quoted b.2.toList ++
        (',' :: ' ' :: (", ".intercalate ((ModulePath.parts b.1).map Text.quote)).toList ++
          [')']))) := by
    have hcall : " = load_module(".toList = ' ' :: "= load_module(".toList := rfl
    rw [← Text.splitFirst_append (h.notMem (c := ' ') (by decide))]
    simp only [loadLine, String.toList_append, hcall, Text.quote, String.toList_ofList,
      List.append_assoc, List.cons_append]
    rfl
  have hmark : (',' :: ' ' :: (", ".intercalate ((ModulePath.parts b.1).map Text.quote)).toList ++
      [')']).head? ≠ some (Text.quoteMark b.2.toList) :=
    Text.head?_ne_quoteMark (by simp) b.2.toList
  have hread := Text.readLiteral_quoted b.2.toList _ hmark
  rw [arguments_eq_flatMap ModulePath.parts_ne_nil] at hname hread
  have harguments := readArguments_parts (ModulePath.parts b.1)
  simp only [readLoadLine, hname, dropPrefix?_self_append, hread, harguments, Option.bind_eq_bind,
    Option.bind_some, if_true, String.ofList_toList]

/-- The line that imports a module is read. -/
theorem readImportLine_importLine {b : String × String} (h : IsBound b) :
    readImportLine (importLine b) = some (b.2, ModulePath.parts b.1) := by
  unfold importLine
  split
  · have hdotted : ' ' ∉ (ModulePath.dotted b.1).toList :=
      ModulePath.notMem_dotted h.not_isBlank (by decide)
    have hfirst : Text.splitFirst ' '
        ("import " ++ ModulePath.dotted b.1 ++ " as " ++ b.2).toList = some ("import".toList,
          (ModulePath.dotted b.1).toList ++ ' ' :: ("as ".toList ++ b.2.toList)) := by
      rw [← Text.splitFirst_append (c := ' ') (by decide)]
      simp
    rw [readImportLine, hfirst, Option.bind_eq_bind, Option.bind_some]
    dsimp only
    rw [String.ofList_toList, if_pos rfl, Text.splitFirst_append hdotted]
    simp only [dropPrefix?_self_append, Option.bind_eq_bind, Option.bind_some,
      String.ofList_toList, ModulePath.splitOn_dotted]
  · have hname : ' ' ∉ b.2.toList ++ [':'] := by
      rw [List.mem_append, not_or]
      exact ⟨h.notMem (by decide), by decide⟩
    have hfirst : Text.splitFirst ' ' (b.2 ++ ": ModuleType = importlib.import_module(" ++
        Text.quote (ModulePath.dotted b.1) ++ ")").toList = some (b.2.toList ++ [':'],
          ("ModuleType = importlib.import_module(" ++ Text.quote (ModulePath.dotted b.1) ++
            ")").toList) := by
      have hline : ": ModuleType = importlib.import_module(".toList =
          ':' :: ' ' :: "ModuleType = importlib.import_module(".toList := rfl
      rw [← Text.splitFirst_append hname]
      simp only [String.toList_append, hline, List.append_assoc, List.cons_append, List.nil_append]
    have hword : String.ofList (b.2.toList ++ [':']) ≠ "import" := by
      intro heq
      have : ':' ∈ "import".toList := by
        rw [← heq, String.toList_ofList]
        exact List.mem_append_right _ (.head _)
      exact absurd this (by decide)
    have hcolon := Text.splitFirst_append (h.notMem (c := ':') (by decide)) []
    have hliteral := readEnclosed_quote "ModuleType = importlib.import_module("
      (ModulePath.dotted b.1) ")" (by simp)
    simp only [readImportLine, hfirst, if_neg hword, hcolon, hliteral, Option.bind_eq_bind,
      Option.bind_some, String.ofList_toList, ModulePath.splitOn_dotted]

/-- A line of the module block is read. -/
theorem readModuleLine_moduleLine (variant : Variant) {b : String × String} (h : IsBound b) :
    readModuleLine variant (moduleLine variant b) = some (b.2, ModulePath.parts b.1) := by
  cases variant with
  | plain => exact readLoadLine_loadLine h
  | typed => exact readImportLine_importLine h

/-- The import base that an artifact of the variant gives. -/
def baseOf? (importBase : String) : Variant → Option String
  | .plain => some importBase
  | .typed => none

/-- Reads the preamble of the module block, and the import base that a plain one gives. -/
def readPreamble : Variant → List String → Option (Option String × List String)
  | .plain, ls => do
    let behind ← ls.dropPrefix? ((loader "").take 5)
    let importBase ← readEnclosed
      "    os.path.join(os.path.dirname(os.path.abspath(__file__)), " ")" (behind.headD "")
    let rest ← behind.tail.dropPrefix? ((loader "").drop 6)
    some (some importBase, rest)
  | .typed, ls => (ls.dropPrefix? importer).map (none, ·)

/-- The preamble is read. -/
theorem readPreamble_preamble (variant : Variant) (importBase : String) (rest : List String) :
    readPreamble variant (preamble importBase variant ++ rest) =
      some (baseOf? importBase variant, rest) := by
  cases variant with
  | plain =>
    have hbase : readEnclosed "    os.path.join(os.path.dirname(os.path.abspath(__file__)), " ")"
        (baseLine importBase) = some importBase := readEnclosed_quote _ importBase _ (by simp)
    rw [preamble, loader_eq, List.append_assoc, List.cons_append]
    simp only [readPreamble, dropPrefix?_self_append, Option.bind_eq_bind, Option.bind_some,
      List.headD_cons, List.tail_cons, hbase, baseOf?]
  | typed => rw [preamble, readPreamble, dropPrefix?_self_append]; rfl

/-! ## The table of steps -/

/-- The binding and the export that a cell names. -/
def cell (handler? : Option Reference) : Option (String × String) :=
  handler?.map fun r => (ModulePath.bindingName reservedNames r.modulePath, r.exportName)

/-- What the row of a step gives. -/
def rowReading (s : Step) : RowReading := ⟨cell s.success?, cell s.failure?, s.label⟩

/-- Reads a cell behind `opening`: the word for an absent side, or a binding and an export. -/
def readCell (opening line : String) : Option (Option (String × String)) := do
  let expression ← line.toList.dropPrefix? opening.toList
  let (handler, _) ← Text.splitFirst ',' expression
  if String.ofList handler = "None" then some none
  else
    let (binding, name) ← Text.splitFirst '.' handler
    some (some (String.ofList binding, String.ofList name))

/-- Reads rows up to the first line that does not open one. -/
def readRows : List String → Option (List RowReading × List String)
  | opening :: success :: failure :: label :: closing :: rest =>
    if opening = "    ChainStep(" then do
      let success? ← readCell "        then=" success
      let failure? ← readCell "        catch=" failure
      let label ← readEnclosed "        label=" "," label
      let (rows, behind) ← if closing = "    )," then readRows rest else none
      some (⟨success?, failure?, label⟩ :: rows, behind)
    else some ([], opening :: success :: failure :: label :: closing :: rest)
  | rest => some ([], rest)

/-- A cell is read. -/
theorem readCell_handlerText (opening : String) (handler? : Option Reference)
    (h : ∀ r ∈ handler?, r.IsAccepted) :
    readCell opening (opening ++ handlerText handler? ++ ",") = some (cell handler?) := by
  have hsplit : ∀ text : String, ',' ∉ text.toList →
      (opening ++ text ++ ",").toList.dropPrefix? opening.toList = some (text.toList ++ [',']) ∧
        Text.splitFirst ',' (text.toList ++ [',']) = some (text.toList, []) := by
    intro text hcomma
    rw [String.toList_append, String.toList_append, List.append_assoc, dropPrefix?_self_append]
    exact ⟨rfl, Text.splitFirst_append hcomma []⟩
  cases handler? with
  | none =>
    obtain ⟨hdrop, hfirst⟩ := hsplit "None" (by decide)
    rw [handlerText, readCell, hdrop, Option.bind_eq_bind, Option.bind_some, hfirst,
      Option.bind_eq_bind, Option.bind_some]
    rfl
  | some r =>
    have hr : r.IsAccepted := h r rfl
    have hname : ',' ∉ r.exportName.toList := fun hmem =>
      absurd (Text.isIdentifierPart_of_isName hr.isName_exportName _ hmem) (by decide +kernel)
    have hcomma : ',' ∉ (handlerText (some r)).toList := by
      simp only [handlerText, String.toList_append, List.mem_append, not_or]
      exact ⟨⟨ModulePath.notMem_bindingName (by decide) _ _, by decide⟩, hname⟩
    have hdot : (handlerText (some r)).toList =
        (ModulePath.bindingName reservedNames r.modulePath).toList ++
          '.' :: r.exportName.toList := by
      simp [handlerText]
    -- The word for an absent side holds no dot.
    have hword : handlerText (some r) ≠ "None" := by
      intro heq
      have : '.' ∈ "None".toList := by
        rw [← heq, hdot]
        exact List.mem_append_right _ (.head _)
      exact absurd this (by decide)
    obtain ⟨hdrop, hfirst⟩ := hsplit _ hcomma
    simp only [readCell, hdrop, hfirst, String.ofList_toList, if_neg hword, Option.bind_eq_bind,
      Option.bind_some]
    rw [hdot, Text.splitFirst_append (ModulePath.notMem_bindingName (by decide) _ _)]
    simp only [Option.bind_some, String.ofList_toList, cell, Option.map_some]

/-- The rows of steps are read, up to the line that closes the table. -/
theorem readRows_rows {steps : List Step} (h : ∀ s ∈ steps, s.IsAccepted) (rest : List String) :
    readRows (steps.flatMap row ++ ")" :: rest) = some (steps.map rowReading, ")" :: rest) := by
  induction steps with
  | nil =>
    rcases rest with _ | ⟨_, _ | ⟨_, _ | ⟨_, _ | ⟨_, rest⟩⟩⟩⟩ <;> simp [readRows]
  | cons s steps ih =>
    have hs : s.IsAccepted := h s (.head _)
    have hsuccess := readCell_handlerText "        then=" s.success?
      fun r hr => hs r (List.mem_append_left _ (by simpa using hr))
    have hfailure := readCell_handlerText "        catch=" s.failure?
      fun r hr => hs r (List.mem_append_right _ (by simpa using hr))
    have hlabel := readEnclosed_quote "        label=" s.label "," (by simp)
    have hrest := ih fun t ht => h t (List.mem_cons_of_mem _ ht)
    rw [List.flatMap_cons, row, List.append_assoc]
    simp only [List.cons_append, List.nil_append, readRows, if_true, hsuccess, hfailure, hlabel,
      hrest, Option.bind_eq_bind, Option.bind_some, List.map_cons, rowReading]

/-! ## The whole artifact -/

/-- Reads the module block, up to the empty line behind it: the import base, where the block gives
it, and the modules. -/
def readBlock (variant : Variant) (ls : List String) :
    Option (Option String × List (String × List String) × List String) := do
  let (importBase?, block) ← readPreamble variant ls
  let modules ← (block.takeWhile (· ≠ "")).mapM (readModuleLine variant)
  some (importBase?, modules, block.dropWhile (· ≠ ""))

/-- Reads the table of steps, and the entry points behind it. -/
def readTable (variant : Variant) (ls : List String) : Option (List RowReading) := do
  let (rows, behind) ← readRows ls
  if behind = ")" :: (entryLines variant ++ [""]) then some rows else none

/-- Reads the lines of an artifact. -/
def readLines (ls : List String) : Option Reading := do
  let (functionName, variant, chain) ← readHeader ls
  let block ← chain.dropPrefix? (ChainSource.lines ++ sectionHead "Handler modules")
  let (importBase?, modules, behind) ← readBlock variant block
  let table ← behind.dropPrefix? (sectionHead "Pipeline" ++ [tableHead variant])
  let rows ← readTable variant table
  some ⟨functionName, variant, importBase?, modules, rows⟩

/-- Reads the source of an artifact. -/
def Reading.ofSource (source : String) : Option Reading := readLines (cutLines source)

/-- A line that binds a module is not empty. -/
theorem moduleLine_ne_empty (variant : Variant) (b : String × String) :
    moduleLine variant b ≠ "" := by
  cases variant with
  | plain => simp [moduleLine, loadLine]
  | typed =>
    rw [moduleLine, importLine]
    split <;> simp

/-- The lines that bind modules are read. -/
theorem mapM_readModuleLine {variant : Variant} {bs : List (String × String)}
    (hbound : ∀ b ∈ bs, IsBound b) :
    (bs.map (moduleLine variant)).mapM (readModuleLine variant) =
      some (bs.map fun b => (b.2, ModulePath.parts b.1)) := by
  induction bs with
  | nil => rfl
  | cons b bs ih =>
    have hb := readModuleLine_moduleLine variant (hbound b (.head _))
    have hrest := ih fun c hc => hbound c (List.mem_cons_of_mem _ hc)
    rw [List.map_cons, List.mapM_cons, hb, hrest]
    rfl

/-- The module block is read; the empty line that heads the next section ends it. -/
theorem readBlock_moduleLines {variant : Variant} {bs : List (String × String)}
    (hbound : ∀ b ∈ bs, IsBound b) (importBase : String) (rest : List String) :
    readBlock variant (moduleLines variant importBase bs ++ "" :: rest) =
      some (baseOf? importBase variant, bs.map fun b => (b.2, ModulePath.parts b.1),
        "" :: rest) := by
  have hne : ∀ l ∈ bs.map (moduleLine variant), decide (l ≠ "") = true := by
    intro l hl
    obtain ⟨b, -, rfl⟩ := List.mem_map.1 hl
    exact decide_eq_true (moduleLine_ne_empty variant b)
  have htake : (bs.map (moduleLine variant) ++ "" :: rest).takeWhile (· ≠ "") =
      bs.map (moduleLine variant) := by
    rw [List.takeWhile_append_of_pos hne, List.takeWhile_cons_of_neg (by simp), List.append_nil]
  have hdrop : (bs.map (moduleLine variant) ++ "" :: rest).dropWhile (· ≠ "") = "" :: rest := by
    rw [List.dropWhile_append_of_pos hne, List.dropWhile_cons_of_neg (by simp)]
  rw [readBlock, moduleLines_eq, List.append_assoc, readPreamble_preamble]
  simp only [Option.bind_eq_bind, Option.bind_some, htake, hdrop, mapM_readModuleLine hbound]

/-- The table of steps is read. -/
theorem readTable_rows {steps : List Step} (h : ∀ s ∈ steps, s.IsAccepted) (variant : Variant) :
    readTable variant (steps.flatMap row ++ ")" :: (entryLines variant ++ [""])) =
      some (steps.map rowReading) := by
  rw [readTable, readRows_rows h]
  simp only [Option.bind_eq_bind, Option.bind_some, if_true]

/-- The lines of an artifact, as they are read. -/
theorem lines_eq (variant : Variant) (importBase : String) (p : Pipeline)
    (bs : List (String × String)) :
    lines variant importBase p bs ++ [""] =
      header variant p.functionName ++ ((ChainSource.lines ++ sectionHead "Handler modules") ++
        (moduleLines variant importBase bs ++ ((sectionHead "Pipeline" ++ [tableHead variant]) ++
          (p.steps.flatMap row ++ ")" :: (entryLines variant ++ [""]))))) := by
  simp only [lines, table, List.append_assoc, List.cons_append, List.nil_append]

/-- The lines of an artifact are read where its sections are. -/
theorem readLines_eq_some {ls chain block behind table : List String} {functionName : String}
    {variant : Variant} {importBase? : Option String} {modules : List (String × List String)}
    {rows : List RowReading} (hheader : readHeader ls = some (functionName, variant, chain))
    (hchain : chain.dropPrefix? (ChainSource.lines ++ sectionHead "Handler modules") = some block)
    (hblock : readBlock variant block = some (importBase?, modules, behind))
    (hbehind : behind.dropPrefix? (sectionHead "Pipeline" ++ [tableHead variant]) = some table)
    (htable : readTable variant table = some rows) :
    readLines ls = some ⟨functionName, variant, importBase?, modules, rows⟩ := by
  simp only [readLines, hheader, hchain, hblock, hbehind, htable, Option.bind_eq_bind,
    Option.bind_some]

/-- The lines of an artifact are read. -/
theorem readLines_lines {variant : Variant} {importBase : String} {p : Pipeline}
    {bs : List (String × String)} (hsteps : ∀ s ∈ p.steps, s.IsAccepted)
    (hbound : ∀ b ∈ bs, IsBound b) :
    readLines (lines variant importBase p bs ++ [""]) =
      some ⟨p.functionName, variant, baseOf? importBase variant,
        bs.map fun b => (b.2, ModulePath.parts b.1), p.steps.map rowReading⟩ := by
  rw [lines_eq]
  refine readLines_eq_some (readHeader_header _ _ _) (dropPrefix?_self_append _ _) ?_
    (dropPrefix?_self_append _ _) (readTable_rows hsteps variant)
  exact readBlock_moduleLines hbound importBase _

/-- **The source of an artifact is read as what was written into it**: the function's name, the
variant, the import base where the variant gives it, one entry for each binding and one row for each
step. -/
theorem Reading.ofSource_ofLines (variant : Variant) (importBase : String) {p : Pipeline}
    {bs : List (String × String)} (hsteps : ∀ s ∈ p.steps, s.IsAccepted)
    (hbs : p.bindings reservedNames = .ok bs) :
    Reading.ofSource (ofLines (lines variant importBase p bs)) =
      some ⟨p.functionName, variant, baseOf? importBase variant,
        bs.map fun b => (b.2, ModulePath.parts b.1), p.steps.map rowReading⟩ := by
  rw [Reading.ofSource, cutLines_ofLines (oneLine_of_mem_lines hsteps hbs)]
  exact readLines_lines hsteps (isBound_of_mem_bindings hsteps hbs)

end Artifact

end HandlerPipeline

import HandlerPipeline.Artifact.Source
import HandlerPipeline.Proofs.Pipeline.Bindings
import HandlerPipeline.Proofs.Reference.Binding
import HandlerPipeline.Proofs.Reference.Language
import HandlerPipeline.Proofs.Text.Lines
import HandlerPipeline.Proofs.Text.Tokens

/-!
# The pieces of an artifact

A line of an artifact is made of pieces. A piece is fixed text of the layout, or it is filled: with a
text that is quoted, with a binding name, with the name of an export, or with the parts of a module
that a statement imports. The lines of an artifact are what its pieces are written as
(`lineText_pieceLines`).

A line with filled pieces is cut back into them (`Fits.tokens_lineText`): its tokens are those of
its fixed texts, one literal for each quoted text, and one word for each name. For that no fixed
text opens a literal or a comment, and fixed text stands behind every filled piece that does not end
the line.
-/

namespace HandlerPipeline

namespace Artifact

/-! ## Pieces -/

/-- A piece of a line. -/
inductive Piece where
  | fixed (text : String)
  | literal (text : String)
  | binding (name : String)
  | exported (name : String)
  | imported (parts : List String)

namespace Piece

/-- The text that a piece is written as. -/
def written : Piece → String
  | fixed text => text
  | literal text => Text.quote text
  | binding name | exported name => name
  | imported parts => ".".intercalate parts

/-- The piece is no fixed text. -/
def IsFilled : Piece → Prop
  | fixed _ => False
  | literal _ | binding _ | exported _ | imported _ => True

/-- The piece, emptied of what it is filled with. -/
def emptied : Piece → Piece
  | fixed text => fixed text
  | literal _ => literal ""
  | binding _ => binding ""
  | exported _ => exported ""
  | imported _ => imported []

/-- The piece is filled with what its kind calls for: names, where it is not quoted, and for a
binding a name of ASCII. -/
def IsWellFormed : Piece → Prop
  | fixed _ | literal _ => True
  | binding name => Text.isName name = true ∧ ∀ c ∈ name.toList, ModulePath.isBindingChar c = true
  | exported name => Text.isName name = true
  | imported parts => parts ≠ [] ∧ ∀ part ∈ parts, Text.isName part = true

/-- The tokens that the piece is cut into. -/
def tokens : Piece → List Text.Token
  | fixed text => (Text.tokens text.toList).getD []
  | literal text => [.literal text.toList]
  | binding name | exported name => [.word name.toList]
  | imported parts => (parts.map fun part => .word part.toList).intersperse (.sign '.')

end Piece

/-- The text of a line of pieces. -/
def lineText (line : List Piece) : String := String.join (line.map Piece.written)

@[simp] theorem lineText_nil : lineText [] = "" := rfl

@[simp] theorem lineText_cons (piece : Piece) (line : List Piece) :
    lineText (piece :: line) = piece.written ++ lineText line := by
  rw [lineText, List.map_cons, String.join_cons]
  rfl

/-! ## The lines of an artifact -/

/-- Lines of fixed text. -/
def fixedLines (ls : List String) : List (List Piece) := ls.map fun l => [.fixed l]

/-- What the comment in the first line says. -/
def remark (functionName : String) : List Piece :=
  [.fixed " Middleware pipeline for function ", .literal functionName, .fixed "."]

/-- The pieces of the lines above the chain. -/
def headerPieces (variant : Variant) (functionName : String) : List (List Piece) :=
  (.fixed "#" :: remark functionName) :: fixedLines ((header variant "").drop 1)

/-- The pieces of the line that gives the import base. -/
def basePieces (importBase : String) : List Piece :=
  [.fixed "    os.path.join(os.path.dirname(os.path.abspath(__file__)), ", .literal importBase,
    .fixed ")"]

/-- The pieces of the module block above the modules. -/
def preamblePieces (importBase : String) : Variant → List (List Piece)
  | .plain => fixedLines ((loader "").take 5) ++
    basePieces importBase :: fixedLines ((loader "").drop 6)
  | .typed => fixedLines importer

/-- The pieces of the line that binds a module. -/
def modulePieces (variant : Variant) (path : String) : List Piece :=
  let name := ModulePath.bindingName reservedNames path
  match variant with
  | .plain => .binding name :: .fixed " = load_module(" :: .literal name ::
    ((ModulePath.parts path).flatMap (fun part => [.fixed ", ", .literal part]) ++ [.fixed ")"])
  | .typed =>
    if importable path then
      [.fixed "import ", .imported (ModulePath.parts path), .fixed " as ", .binding name]
    else
      [.binding name, .fixed ": ModuleType = importlib.import_module(",
        .literal (ModulePath.dotted path), .fixed ")"]

/-- The pieces of the line that gives a side of a step behind `opening`. -/
def sidePieces (opening : String) : Option Reference → List Piece
  | none => [.fixed opening, .fixed "None,"]
  | some r => [.fixed opening, .binding (ModulePath.bindingName reservedNames r.modulePath),
    .fixed ".", .exported r.exportName, .fixed ","]

/-- The pieces of the line that gives the label of a step. -/
def labelPieces (s : Step) : List Piece :=
  [.fixed "        label=", .literal s.label, .fixed ","]

/-- The pieces of the row of a step. -/
def rowPieces (s : Step) : List (List Piece) := [
  [.fixed "    ChainStep("],
  sidePieces "        then=" s.success?,
  sidePieces "        catch=" s.failure?,
  labelPieces s,
  [.fixed "    ),"]]

/-- The pieces of the lines of an artifact. -/
def pieceLines (variant : Variant) (importBase : String) (p : Pipeline) : List (List Piece) :=
  headerPieces variant p.functionName ++
    fixedLines (ChainSource.lines ++ sectionHead "Handler modules") ++
    preamblePieces importBase variant ++ p.modulePaths.map (modulePieces variant) ++
    fixedLines (sectionHead "Pipeline" ++ [tableHead variant]) ++ p.steps.flatMap rowPieces ++
    fixedLines (")" :: entryLines variant)

/-- A line of fixed text is written as it is. -/
@[simp] theorem lineText_fixed (text : String) : lineText [.fixed text] = text := by
  rw [lineText_cons, lineText_nil, Piece.written, String.append_empty]

/-- Lines of fixed text are written as they are. -/
@[simp] theorem lineText_fixedLines (ls : List String) : (fixedLines ls).map lineText = ls := by
  rw [fixedLines, List.map_map]
  conv_rhs => rw [← List.map_id ls]
  exact List.map_congr_left fun l _ => lineText_fixed l

/-- The line of the loader that gives the import base. -/
def baseLine (importBase : String) : String :=
  "    os.path.join(os.path.dirname(os.path.abspath(__file__)), " ++ Text.quote importBase ++ ")"

/-- The loader is fixed up to the line of the import base. -/
theorem loader_eq (importBase : String) :
    loader importBase = (loader "").take 5 ++ baseLine importBase :: (loader "").drop 6 := rfl

/-- Literals joined by commas, with a comma in front, are the further arguments of a call. -/
theorem arguments_eq_flatMap {texts : List String} (h : texts ≠ []) :
    ',' :: ' ' :: (", ".intercalate (texts.map Text.quote)).toList =
      texts.flatMap fun text => ',' :: ' ' :: (Text.quote text).toList := by
  induction texts with
  | nil => exact absurd rfl h
  | cons text rest ih =>
    cases rest with
    | nil => simp
    | cons next rest =>
      rw [List.flatMap_cons, ← ih (by simp)]
      simp [String.toList_intercalate]

/-- The line that binds a module. -/
def moduleLine : Variant → String × String → String
  | .plain => loadLine
  | .typed => importLine

/-- The lines of the module block that do not depend on the modules. -/
def preamble (importBase : String) : Variant → List String
  | .plain => loader importBase
  | .typed => importer

/-- The module block is its preamble and one line for each binding. -/
theorem moduleLines_eq (variant : Variant) (importBase : String) (bs : List (String × String)) :
    moduleLines variant importBase bs =
      preamble importBase variant ++ bs.map (moduleLine variant) := by
  cases variant <;> rfl

/-! ## What the pieces are written as -/

/-- The header is written from its pieces. -/
theorem lineText_headerPieces (variant : Variant) (functionName : String) :
    (headerPieces variant functionName).map lineText = header variant functionName := by
  have hremark : lineText (.fixed "#" :: remark functionName) =
      "# Middleware pipeline for function " ++ Text.quote functionName ++ "." := by
    simp only [remark, lineText_cons, lineText_nil, Piece.written, String.append_empty]
    rw [← String.append_assoc, ← String.append_assoc]
    rfl
  rw [headerPieces, List.map_cons, lineText_fixedLines, hremark]
  rfl

/-- The preamble is written from its pieces. -/
theorem lineText_preamblePieces (importBase : String) (variant : Variant) :
    (preamblePieces importBase variant).map lineText = preamble importBase variant := by
  cases variant with
  | plain =>
    have hbase : lineText (basePieces importBase) = baseLine importBase := by
      unfold basePieces baseLine
      simp only [lineText_cons, lineText_nil, Piece.written, String.append_assoc,
        String.append_empty]
    rw [preamble, loader_eq, preamblePieces, List.map_append, List.map_cons, lineText_fixedLines,
      lineText_fixedLines, hbase]
  | typed => exact lineText_fixedLines importer

/-- The line that binds a module is written from its pieces. -/
theorem lineText_modulePieces (variant : Variant) (path : String) :
    lineText (modulePieces variant path) =
      moduleLine variant (path, ModulePath.bindingName reservedNames path) := by
  rw [← String.toList_inj]
  cases variant with
  | plain =>
    have harguments : ∀ parts : List String,
        (lineText (parts.flatMap (fun part => [.fixed ", ", .literal part]) ++
          [.fixed ")"])).toList =
        parts.flatMap (fun part => ',' :: ' ' :: (Text.quote part).toList) ++ [')'] := by
      intro parts
      induction parts with
      | nil => simp [Piece.written]
      | cons part parts ih => simp [Piece.written, ih]
    simp [modulePieces, moduleLine, loadLine, Piece.written, harguments,
      ← arguments_eq_flatMap ModulePath.parts_ne_nil]
  | typed =>
    by_cases himportable : importable path = true <;>
      simp [modulePieces, moduleLine, importLine, himportable, Piece.written, ModulePath.dotted]

/-- The row of a step is written from its pieces. -/
theorem lineText_rowPieces (s : Step) : (rowPieces s).map lineText = row s := by
  have hside : ∀ opening handler?,
      lineText (sidePieces opening handler?) = opening ++ handlerText handler? ++ "," := by
    intro opening handler?
    cases handler? <;>
      simp only [sidePieces, handlerText, lineText_cons, lineText_nil, Piece.written,
        String.append_assoc, String.append_empty]
    rfl
  have hlabel : lineText (labelPieces s) = "        label=" ++ Text.quote s.label ++ "," := by
    simp only [labelPieces, lineText_cons, lineText_nil, Piece.written, String.append_assoc,
      String.append_empty]
  simp only [rowPieces, List.map_cons, List.map_nil, hside, hlabel, lineText_fixed, row]

/-- **The lines of an artifact are written from their pieces.** -/
theorem lineText_pieceLines {variant : Variant} {importBase : String} {p : Pipeline}
    {bs : List (String × String)} (hbs : p.bindings reservedNames = .ok bs) :
    (pieceLines variant importBase p).map lineText = lines variant importBase p bs := by
  obtain ⟨rfl, -⟩ := Pipeline.bindings_eq_ok_iff.1 hbs
  have hmodules : (p.modulePaths.map (modulePieces variant)).map lineText =
      (p.modulePaths.map fun path =>
        (path, ModulePath.bindingName reservedNames path)).map (moduleLine variant) := by
    rw [List.map_map, List.map_map]
    exact List.map_congr_left fun path _ => lineText_modulePieces variant path
  have hrows : (p.steps.flatMap rowPieces).map lineText = p.steps.flatMap row := by
    rw [List.map_flatMap]
    exact congrArg (p.steps.flatMap ·) (funext lineText_rowPieces)
  simp only [pieceLines, List.map_append, lineText_headerPieces, lineText_fixedLines,
    lineText_preamblePieces, hmodules, hrows, lines, moduleLines_eq, table, List.append_assoc,
    List.cons_append, List.nil_append]

/-! ## Lines that are cut into their pieces -/

/-- The text opens neither literal nor comment, ends no line, and does not end within a word. -/
def isJoint (text : List Char) : Bool :=
  text.all (fun c => !Text.opens c && !Text.isLineBoundary c) &&
    !text.getLast?.any Text.isIdentifierPart

/-- No word goes on in the text, and it does not begin with a literal. -/
def isBorder (text : List Char) : Bool :=
  text.head?.any fun c => !Text.isIdentifierPart c && !Text.isMark c

/-- A written-out text is such a text, by a look at its characters. -/
theorem isJoint_ofList {cs : List Char} (h : isJoint cs = true) :
    isJoint (String.ofList cs).toList = true := by
  rwa [String.toList_ofList]

/-- A written-out text is a border, by a look at its characters. -/
theorem isBorder_ofList {cs : List Char} (h : isBorder cs = true) :
    isBorder (String.ofList cs).toList = true := by
  rwa [String.toList_ofList]

/-- Fixed texts stand between the filled pieces of the line, and all are as they should be. -/
inductive Fits : List Piece → Prop
  | nil : Fits []
  | fixed {text : String} {rest : List Piece} (htext : isJoint text.toList = true)
      (h : Fits rest) : Fits (.fixed text :: rest)
  | last {piece : Piece} (hfilled : piece.IsFilled) (hpiece : piece.IsWellFormed) : Fits [piece]
  | filled {piece : Piece} {text : String} {rest : List Piece} (hfilled : piece.IsFilled)
      (hpiece : piece.IsWellFormed) (hborder : isBorder text.toList = true)
      (h : Fits (.fixed text :: rest)) : Fits (piece :: .fixed text :: rest)

/-- A filled piece is cut off what stands behind it. -/
theorem Piece.tokens_written {piece : Piece} (hfilled : piece.IsFilled)
    (hpiece : piece.IsWellFormed) {rest : List Char} (hrest : Text.PartsTokens rest) :
    Text.tokens (piece.written.toList ++ rest) = (Text.tokens rest).map (piece.tokens ++ ·) := by
  have hword : ∀ {name : String}, Text.isName name = true →
      name.toList ≠ [] ∧ ∀ c ∈ name.toList, Text.isIdentifierPart c = true := fun hname =>
    ⟨Text.toList_ne_nil_of_isName hname, Text.isIdentifierPart_of_isName hname⟩
  cases piece with
  | fixed text => exact hfilled.elim
  | literal text =>
    rw [written, Text.quote, String.toList_ofList]
    exact Text.tokens_quoted text.toList hrest
  | binding name => exact Text.tokens_word (hword hpiece.1).1 (hword hpiece.1).2 hrest
  | exported name => exact Text.tokens_word (hword hpiece).1 (hword hpiece).2 hrest
  | imported parts =>
    obtain ⟨hne, hparts⟩ := hpiece
    have hnames : ∀ name ∈ parts.map String.toList,
        name ≠ [] ∧ ∀ c ∈ name, Text.isIdentifierPart c = true := by
      intro name hname
      obtain ⟨part, hpart, rfl⟩ := List.mem_map.1 hname
      exact hword (hparts part hpart)
    have htokens := Text.tokens_dotted (by simpa using hne) hnames hrest
    rw [List.map_map] at htokens
    rw [written, String.toList_intercalate]
    exact htokens

/-- A fixed text that is no part of a longer word is cut off what stands behind it. -/
theorem tokens_joint {text : String} (h : isJoint text.toList = true) (rest : List Char) :
    Text.tokens (text.toList ++ rest) =
      (Text.tokens rest).map ((Piece.fixed text).tokens ++ ·) := by
  simp only [isJoint, Bool.and_eq_true, List.all_eq_true, Bool.not_eq_true'] at h
  have hlast : ∀ c ∈ text.toList.getLast?, Text.isIdentifierPart c = false := by
    intro c hc
    rw [hc] at h
    exact h.2
  obtain ⟨ts, hts⟩ := Text.tokens_append (fun c hc => (h.1 c hc).1) hlast
  have hself : (Piece.fixed text).tokens = ts := by
    have hnil := hts []
    rw [List.append_nil] at hnil
    simp [Piece.tokens, hnil, Text.tokens]
  rw [hself, hts]

/-- A line begins with what parts words where its first fixed text does. -/
theorem partsTokens_lineText {text : String} (h : isBorder text.toList = true)
    (rest : List Piece) : Text.PartsTokens (lineText (.fixed text :: rest)).toList := by
  intro c hc
  cases hs : text.toList with
  | nil => simp [isBorder, hs] at h
  | cons d after =>
    rw [lineText_cons, Piece.written, String.toList_append, hs] at hc
    obtain rfl : d = c := by simpa using hc
    simpa [isBorder, hs] using h

namespace Fits

variable {line : List Piece}

/-- **A line that fits is cut into the tokens of its pieces.** -/
theorem tokens_lineText (h : Fits line) :
    Text.tokens (lineText line).toList = some (line.flatMap Piece.tokens) := by
  induction h with
  | nil => simp [Text.tokens]
  | fixed htext _ ih =>
    rw [lineText_cons, String.toList_append, Piece.written, tokens_joint htext, ih]
    rfl
  | @last piece hfilled hpiece =>
    have hnil : Text.PartsTokens [] := by simp [Text.PartsTokens]
    have := Piece.tokens_written hfilled hpiece hnil
    simpa [Text.tokens] using this
  | @filled piece text rest hfilled hpiece hborder _ ih =>
    rw [lineText_cons, String.toList_append,
      Piece.tokens_written hfilled hpiece (partsTokens_lineText hborder rest), ih]
    rfl

/-- The pieces of a line that fits are well-formed. -/
theorem isWellFormed (h : Fits line) : ∀ piece ∈ line, piece.IsWellFormed := by
  induction h with
  | nil => simp
  | fixed _ _ ih => exact List.forall_mem_cons.2 ⟨trivial, ih⟩
  | last _ hpiece => exact List.forall_mem_singleton.2 hpiece
  | filled _ hpiece _ _ ih => exact List.forall_mem_cons.2 ⟨hpiece, ih⟩

end Fits

/-! ## The lines of an artifact fit -/

/-- A binding name fills a piece. -/
theorem isWellFormed_binding {path : String} (h : Reference.IsModulePath path.toList) :
    (Piece.binding (ModulePath.bindingName reservedNames path)).IsWellFormed :=
  ⟨ModulePath.isName_bindingName (by simpa using h.ne_nil),
    fun _ hc => ModulePath.isBindingChar_of_mem_bindingName hc⟩

/-- A line of one literal between two fixed texts fits. -/
theorem fits_literal {before after : String} (hbefore : isJoint before.toList = true)
    (hborder : isBorder after.toList = true) (hafter : isJoint after.toList = true)
    (text : String) : Fits [.fixed before, .literal text, .fixed after] :=
  .fixed hbefore (.filled trivial trivial hborder (.fixed hafter .nil))

/-- What the comment in the first line says fits. -/
theorem fits_remark (functionName : String) : Fits (remark functionName) :=
  fits_literal (isJoint_ofList (by decide +kernel)) (isBorder_ofList (by decide +kernel))
    (isJoint_ofList (by decide +kernel)) functionName

/-- The line that gives the import base fits. -/
theorem fits_basePieces (importBase : String) : Fits (basePieces importBase) :=
  fits_literal (isJoint_ofList (by decide +kernel)) (isBorder_ofList (by decide +kernel))
    (isJoint_ofList (by decide +kernel)) importBase

/-- The line that gives a label fits. -/
theorem fits_labelPieces (s : Step) : Fits (labelPieces s) :=
  fits_literal (isJoint_ofList (by decide +kernel)) (isBorder_ofList (by decide +kernel))
    (isJoint_ofList (by decide +kernel)) s.label

/-- The line that gives a side of a step fits. -/
theorem fits_sidePieces {opening : String} (hopening : isJoint opening.toList = true)
    {handler? : Option Reference} (h : ∀ r ∈ handler?, r.IsAccepted) :
    Fits (sidePieces opening handler?) := by
  cases handler? with
  | none => exact .fixed hopening (.fixed (isJoint_ofList (by decide +kernel)) .nil)
  | some r =>
    have hr : r.IsAccepted := h r rfl
    have hexport : Fits [.exported r.exportName, .fixed ","] :=
      .filled trivial hr.isName_exportName (isBorder_ofList (by decide +kernel))
        (.fixed (isJoint_ofList (by decide +kernel)) .nil)
    exact .fixed hopening (.filled trivial (isWellFormed_binding hr.isModulePath)
      (isBorder_ofList (by decide +kernel)) (.fixed (isJoint_ofList (by decide +kernel)) hexport))

/-- The line that binds a module fits. -/
theorem fits_modulePieces (variant : Variant) {path : String}
    (h : Reference.IsModulePath path.toList) : Fits (modulePieces variant path) := by
  have hname := isWellFormed_binding h
  have hcomma : isBorder ", ".toList = true ∧ isJoint ", ".toList = true :=
    ⟨isBorder_ofList (by decide +kernel), isJoint_ofList (by decide +kernel)⟩
  have hbracket : isBorder ")".toList = true ∧ isJoint ")".toList = true :=
    ⟨isBorder_ofList (by decide +kernel), isJoint_ofList (by decide +kernel)⟩
  cases variant with
  | plain =>
    have harguments : ∀ (text : String) (parts : List String), Fits (.literal text ::
        (parts.flatMap (fun part => [.fixed ", ", .literal part]) ++ [.fixed ")"])) := by
      intro text parts
      induction parts generalizing text with
      | nil => exact .filled trivial trivial hbracket.1 (.fixed hbracket.2 .nil)
      | cons part parts ih =>
        exact .filled trivial trivial hcomma.1 (.fixed hcomma.2 (ih part))
    exact .filled trivial hname (isBorder_ofList (by decide +kernel))
      (.fixed (isJoint_ofList (by decide +kernel)) (harguments _ _))
  | typed =>
    rw [modulePieces]
    split
    · next himportable =>
      rw [importable, List.all_eq_true] at himportable
      have hbound : Fits [.fixed " as ",
          .binding (ModulePath.bindingName reservedNames path)] :=
        .fixed (isJoint_ofList (by decide +kernel)) (.last trivial hname)
      exact .fixed (isJoint_ofList (by decide +kernel)) (.filled trivial
        ⟨ModulePath.parts_ne_nil, himportable⟩ (isBorder_ofList (by decide +kernel)) hbound)
    · exact .filled trivial hname (isBorder_ofList (by decide +kernel))
        (fits_literal (isJoint_ofList (by decide +kernel)) hbracket.1 hbracket.2 _)

end Artifact

end HandlerPipeline

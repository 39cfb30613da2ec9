import HandlerPipeline.Proofs.Artifact.Lines
import HandlerPipeline.Proofs.Artifact.ReadBack

/-!
# Nothing breaks the layout of an artifact

Whatever a function is called and wherever its modules are found, the source of its pipeline keeps
the layout of its variant (`Artifact.emit_layout`). It has the lines that the layout says and no
other, counted by every character that ends a line. What comes from outside stands in pieces only,
each of which is read as what it was meant for, and no other text of the source depends on it.
-/

namespace HandlerPipeline

namespace Artifact

/-! ## Layouts -/

/-- The two modules are bound by lines of one layout: as many parts are listed, and both can be
imported by a statement or neither. -/
def SameModule (path path' : String) : Prop :=
  (ModulePath.parts path).length = (ModulePath.parts path').length ∧
    importable path = importable path'

/-- The two steps have the same sides. -/
def SameSides (s s' : Step) : Prop :=
  s.success?.isSome = s'.success?.isSome ∧ s.failure?.isSome = s'.failure?.isSome

/-- The two pipelines have one layout: their modules and their steps have, one after the other. -/
structure SameLayout (p p' : Pipeline) : Prop where
  modules : List.Forall₂ SameModule p.modulePaths p'.modulePaths
  steps : List.Forall₂ SameSides p.steps p'.steps

/-- The lines, emptied of what their pieces are filled with. -/
def emptiedLines (ls : List (List Piece)) : List (List Piece) := ls.map (List.map Piece.emptied)

/-- The lines that bind two modules of one layout are the same when they are emptied. -/
theorem emptied_modulePieces (variant : Variant) {path path' : String}
    (h : SameModule path path') : (modulePieces variant path).map Piece.emptied =
      (modulePieces variant path').map Piece.emptied := by
  cases variant with
  | plain =>
    have harguments : ∀ {parts parts' : List String}, parts.length = parts'.length →
        (parts.flatMap fun part => [Piece.fixed ", ", .literal part]).map Piece.emptied =
          (parts'.flatMap fun part => [Piece.fixed ", ", .literal part]).map Piece.emptied := by
      intro parts parts' hlength
      induction parts generalizing parts' with
      | nil =>
        obtain rfl := List.length_eq_zero_iff.1 hlength.symm
        rfl
      | cons part parts ih =>
        obtain ⟨part', parts', rfl⟩ := List.exists_cons_of_length_eq_add_one hlength.symm
        simp only [List.flatMap_cons, List.map_append, List.map_cons, List.map_nil, Piece.emptied,
          ih (Nat.succ.inj hlength)]
    simp only [modulePieces, List.map_cons, List.map_append, Piece.emptied, harguments h.1]
  | typed =>
    simp only [modulePieces, h.2]
    split <;> rfl

/-- The rows of two steps with the same sides are the same when they are emptied. -/
theorem emptied_rowPieces {s s' : Step} (h : SameSides s s') :
    emptiedLines (rowPieces s) = emptiedLines (rowPieces s') := by
  have hside : ∀ (opening : String) {handler? handler?' : Option Reference},
      handler?.isSome = handler?'.isSome →
      (sidePieces opening handler?).map Piece.emptied =
        (sidePieces opening handler?').map Piece.emptied := by
    intro opening handler? handler?' hsome
    cases handler? <;> cases handler?' <;> first | rfl | cases hsome
  simp only [emptiedLines, rowPieces, List.map_cons, hside _ h.1, hside _ h.2, labelPieces,
    Piece.emptied]

/-- The functions give the same on lists that match, where they do on members that match. -/
theorem map_eq_of_forall₂ {α β : Type} {R : α → α → Prop} {f : α → β} {l l' : List α}
    (h : List.Forall₂ R l l') (hf : ∀ {a a'}, R a a' → f a = f a') : l.map f = l'.map f := by
  have hmaps := List.forall₂_map_left_iff.2 (List.forall₂_map_right_iff.2 (h.imp fun _ _ => hf))
  rwa [List.forall₂_eq_eq_eq] at hmaps

/-- **Artifacts of one layout are the same when they are emptied**: no fixed text depends on what
the pieces are filled with. -/
theorem emptied_pieceLines (variant : Variant) (importBase importBase' : String)
    {p p' : Pipeline} (h : SameLayout p p') :
    emptiedLines (pieceLines variant importBase p) =
      emptiedLines (pieceLines variant importBase' p') := by
  have hheader : emptiedLines (headerPieces variant p.functionName) =
      emptiedLines (headerPieces variant p'.functionName) := rfl
  have hpreamble : emptiedLines (preamblePieces importBase variant) =
      emptiedLines (preamblePieces importBase' variant) := by
    cases variant <;> rfl
  have hmodules : emptiedLines (p.modulePaths.map (modulePieces variant)) =
      emptiedLines (p'.modulePaths.map (modulePieces variant)) := by
    rw [emptiedLines, emptiedLines, List.map_map, List.map_map]
    exact map_eq_of_forall₂ h.modules (emptied_modulePieces variant)
  have hrows : emptiedLines (p.steps.flatMap rowPieces) =
      emptiedLines (p'.steps.flatMap rowPieces) := by
    rw [emptiedLines, emptiedLines, List.map_flatMap, List.map_flatMap, List.flatMap, List.flatMap]
    exact congrArg List.flatten (map_eq_of_forall₂ h.steps emptied_rowPieces)
  simp only [emptiedLines, pieceLines, List.map_append] at *
  rw [hheader, hpreamble, hmodules, hrows]

/-! ## The law of the layout -/

/-- The number of lines that an artifact of the variant has besides those of its modules and its
steps. -/
def frameLength (variant : Variant) : Nat := (lines variant "" ⟨"", []⟩ []).length

example : frameLength .plain = 170 ∧ frameLength .typed = 147 := ⟨by rfl, by rfl⟩

/-- An artifact has one line for each module and five for each step. -/
theorem length_pieceLines (variant : Variant) (importBase : String) (p : Pipeline) :
    (pieceLines variant importBase p).length =
      frameLength variant + p.modulePaths.length + 5 * p.steps.length := by
  have hrows : ∀ steps : List Step, (steps.flatMap rowPieces).length = 5 * steps.length := by
    intro steps
    induction steps with
    | nil => rfl
    | cons s steps ih =>
      rw [List.flatMap_cons, List.length_append, ih, List.length_cons, rowPieces]
      simp only [List.length_cons, List.length_nil]
      omega
  have hframe : frameLength variant = (pieceLines variant "" ⟨"", []⟩).length := by
    rw [frameLength, ← lineText_pieceLines (p := ⟨"", []⟩) rfl, List.length_map]
  have hheader : (headerPieces variant p.functionName).length =
      (headerPieces variant "").length := rfl
  have hpreamble : (preamblePieces importBase variant).length =
      (preamblePieces "" variant).length := by
    cases variant <;> rfl
  have hnone : Pipeline.modulePaths ⟨"", []⟩ = [] := rfl
  rw [hframe]
  simp only [pieceLines, List.length_append, List.length_map, hrows, hheader, hpreamble, hnone,
    List.length_nil]
  omega

/-- What is said of the source of a pipeline: it keeps the layout of its variant, and what comes
from outside stands in pieces that are read as what they were meant for. -/
structure LayoutLaw (variant : Variant) (importBase : String) (p : Pipeline) (source : String) :
    Prop where
  /-- Cut at every character that ends a line, the source is the lines of the layout. -/
  lines_eq : Text.lines source.toList =
    (pieceLines variant importBase p).map fun line => (lineText line).toList
  /-- There are as many as the variant has anyway, one for each distinct path of a module, and five
  for each step. -/
  length_eq : ∃ paths : List String, paths.Nodup ∧
    (∀ path, path ∈ paths ↔ ∃ r ∈ p.references, r.modulePath = path) ∧
    (Text.lines source.toList).length = frameLength variant + paths.length + 5 * p.steps.length
  /-- Pieces are quoted, or filled with names: a binding name is one of ASCII, an export is one, and
  all parts of an imported module are. -/
  isWellFormed : ∀ line ∈ pieceLines variant importBase p, ∀ piece ∈ line, piece.IsWellFormed
  /-- The first line is a comment. In it the function's name is one literal. -/
  comment : ∃ rest, pieceLines variant importBase p =
      (.fixed "#" :: remark p.functionName) :: rest ∧
    Text.tokens (lineText (.fixed "#" :: remark p.functionName)).toList =
      some [.comment (lineText (remark p.functionName)).toList] ∧
    Text.tokens (lineText (remark p.functionName)).toList =
      some ((remark p.functionName).flatMap Piece.tokens)
  /-- In every other line that takes something from outside, each piece is cut into its own tokens:
  a quoted text is one literal with that text, and a name is one word. -/
  tokens_eq : ∀ line ∈ (pieceLines variant importBase p).tail, (∃ piece ∈ line, piece.IsFilled) →
    Text.tokens (lineText line).toList = some (line.flatMap Piece.tokens)
  /-- The fixed text is that of every artifact of the variant with as many modules and steps of the
  same kinds. -/
  emptied_eq : ∀ importBase' p', SameLayout p p' →
    emptiedLines (pieceLines variant importBase' p') =
      emptiedLines (pieceLines variant importBase p)

variable {variant : Variant} {importBase : String} {p : Pipeline} {bs : List (String × String)}

/-- The comment of the first line is read. -/
theorem tokens_headline (functionName : String) :
    Text.tokens (lineText (.fixed "#" :: remark functionName)).toList =
      some [.comment (lineText (remark functionName)).toList] := by
  rw [lineText_cons, String.toList_append]
  exact Text.tokens_numberSign _

/-- The pieces of an artifact are well-formed. -/
theorem isWellFormed_of_mem_pieceLines (hsteps : ∀ s ∈ p.steps, s.IsAccepted) :
    ∀ line ∈ pieceLines variant importBase p, ∀ piece ∈ line, piece.IsWellFormed := by
  rw [pieceLines_eq_cons, List.forall_mem_cons]
  refine ⟨List.forall_mem_cons.2 ⟨trivial, (fits_remark _).isWellFormed⟩, fun line hline => ?_⟩
  rcases isSound_of_mem_tail hsteps line hline with ⟨text, rfl, -⟩ | hfits
  · exact List.forall_mem_singleton.2 trivial
  · exact hfits.isWellFormed

/-- A line with a filled piece is cut into the tokens of its pieces. -/
theorem tokens_lineText_of_isFilled (hsteps : ∀ s ∈ p.steps, s.IsAccepted) {line : List Piece}
    (hline : line ∈ (pieceLines variant importBase p).tail)
    (hfilled : ∃ piece ∈ line, piece.IsFilled) :
    Text.tokens (lineText line).toList = some (line.flatMap Piece.tokens) := by
  rcases isSound_of_mem_tail hsteps line hline with ⟨text, rfl, -⟩ | hfits
  · obtain ⟨piece, hpiece, hfilled⟩ := hfilled
    rw [List.mem_singleton.1 hpiece] at hfilled
    exact hfilled.elim
  · exact hfits.tokens_lineText

/-- The source of bindings is the lines of the layout. -/
theorem lines_source (hsteps : ∀ s ∈ p.steps, s.IsAccepted)
    (hbs : p.bindings reservedNames = .ok bs) :
    Text.lines (ofLines (lines variant importBase p bs)).toList =
      (pieceLines variant importBase p).map fun line => (lineText line).toList := by
  rw [lines_ofLines (inOneLine_of_mem_lines hsteps hbs), ← lineText_pieceLines hbs, List.map_map]
  rfl

/-- The law holds of the source of bindings. -/
theorem layoutLaw_of_bindings (hsteps : ∀ s ∈ p.steps, s.IsAccepted)
    (hbs : p.bindings reservedNames = .ok bs) :
    LayoutLaw variant importBase p (ofLines (lines variant importBase p bs)) where
  lines_eq := lines_source hsteps hbs
  length_eq := by
    refine ⟨p.modulePaths, Pipeline.nodup_modulePaths p, fun _ => Pipeline.mem_modulePaths, ?_⟩
    rw [lines_source hsteps hbs, List.length_map, length_pieceLines]
  isWellFormed := isWellFormed_of_mem_pieceLines hsteps
  comment := ⟨_, pieceLines_eq_cons variant importBase p, tokens_headline _,
    (fits_remark _).tokens_lineText⟩
  tokens_eq _ hline hfilled := tokens_lineText_of_isFilled hsteps hline hfilled
  emptied_eq importBase' _ h := (emptied_pieceLines variant importBase importBase' h).symm

/-- **The source of a pipeline keeps the layout of its variant**, whatever the function is called,
whatever the import base is and whichever modules the steps name. -/
theorem emit_layout (variant : Variant) (importBase : String)
    (hsteps : ∀ s ∈ p.steps, ∃ raw, Step.read raw = .ok s)
    (hbs : p.bindings reservedNames = .ok bs) :
    ∃ source,
      (∀ checks, emit checks variant importBase p =
        if checks && p.functionName.toList.contains '\x00' then .error .nullInName
        else .ok (source, [emittedLine variant p])) ∧
      LayoutLaw variant importBase p source :=
  ⟨_, fun checks => emit_eq_of_bindings checks variant importBase hbs,
    layoutLaw_of_bindings (Pipeline.isAccepted_of_read hsteps) hbs⟩

/-- A pipeline of a function whose name holds marks, line ends and a null character. -/
def hostileName : Pipeline where
  functionName := "it's \"\"\"\\\r\n\x00\u2028'''"
  steps := [.onBoth ⟨"src/it's", "check"⟩ ⟨"lib.2fa", "log"⟩]

/-- The source of such a pipeline keeps its layout, where names are not checked. -/
theorem emit_layout_hostileName :
    (∀ s ∈ hostileName.steps, ∃ raw, Step.read raw = .ok s) ∧
      hostileName.bindings reservedNames = .ok [("src/it's", "src_it_s"), ("lib.2fa", "lib_2fa")] ∧
      ∃ source, emit false .plain "..\n" hostileName =
          .ok (source, [emittedLine .plain hostileName]) ∧
        LayoutLaw .plain "..\n" hostileName source := by
  have hsteps : ∀ s ∈ hostileName.steps, ∃ raw, Step.read raw = .ok s := by
    intro s hs
    rw [hostileName, List.mem_singleton] at hs
    exact ⟨.map [(.text "then", .text "src/it's.check"), (.text "catch", .text "lib.2fa.log")],
      by rw [hs]; rfl⟩
  have hbs : hostileName.bindings reservedNames =
      .ok [("src/it's", "src_it_s"), ("lib.2fa", "lib_2fa")] :=
    Pipeline.bindings_eq_ok_iff.2 ⟨by decide +kernel, by decide⟩
  obtain ⟨source, hemit, hlaw⟩ := emit_layout .plain "..\n" hsteps hbs
  exact ⟨hsteps, hbs, source, hemit false, hlaw⟩

end Artifact

end HandlerPipeline

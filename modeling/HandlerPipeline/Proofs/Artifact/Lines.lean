import HandlerPipeline.Proofs.Artifact.Pieces

/-!
# The lines of an artifact

No text that enters an artifact brings a line boundary with it (`inOneLine_of_mem_pieceLines`):
literals are printable, and nothing that ends a line stands in a name. So the source is cut into the
lines it was made of, at its line boundaries (`lines_ofLines`) as at its line feeds
(`cutLines_ofLines`), for every function name and every import base.
-/

namespace HandlerPipeline

/-- A blank stands in no dotted name whose path holds none. -/
theorem ModulePath.notMem_dotted {path : String} (h : ∀ c ∈ path.toList, Text.isBlank c = false)
    {c : Char} (hc : Text.isBlank c = true) : c ∉ (dotted path).toList := by
  intro hmem
  rcases of_mem_dotted hmem with hmem | rfl
  · rw [h c hmem] at hc
    cases hc
  · exact absurd hc (by decide)

namespace Artifact

/-! ## The bindings of an artifact -/

/-- The binding is that of a module which an accepted reference names. -/
structure IsBound (b : String × String) : Prop where
  name_eq : b.2 = ModulePath.bindingName reservedNames b.1
  not_isBlank : ∀ c ∈ b.1.toList, Text.isBlank c = false

variable {p : Pipeline} {bs : List (String × String)}

/-- The path of a module is that of a reference of some step. -/
theorem exists_of_mem_modulePaths {path : String} (hpath : path ∈ p.modulePaths) :
    ∃ s ∈ p.steps, ∃ r ∈ s.references, r.modulePath = path := by
  obtain ⟨r, hr, rfl⟩ := Pipeline.mem_modulePaths.1 hpath
  obtain ⟨s, hs, hr⟩ := List.mem_flatMap.1 hr
  exact ⟨s, hs, r, hr, rfl⟩

/-- The bindings of a pipeline of accepted steps are of this kind. -/
theorem isBound_of_mem_bindings (hsteps : ∀ s ∈ p.steps, s.IsAccepted)
    (hbs : p.bindings reservedNames = .ok bs) : ∀ b ∈ bs, IsBound b := by
  intro b hb
  obtain ⟨rfl, -⟩ := Pipeline.bindings_eq_ok_iff.1 hbs
  obtain ⟨path, hpath, rfl⟩ := List.mem_map.1 hb
  obtain ⟨s, hs, r, hr, rfl⟩ := exists_of_mem_modulePaths hpath
  exact ⟨rfl, (hsteps s hs r hr).not_isBlank_modulePath⟩

/-! ## Fixed lines -/

/-- A written-out text is of one line, by a look at its characters. -/
theorem inOneLine_ofList {cs : List Char} (h : cs.all (!Text.isLineBoundary ·) = true) :
    Text.InOneLine (String.ofList cs).toList := by
  rw [String.toList_ofList]
  intro c hc
  simpa using List.all_eq_true.1 h c hc

/-- A text is of one line iff its two parts are. -/
theorem inOneLine_append {s t : String} : Text.InOneLine (s ++ t).toList ↔
    Text.InOneLine s.toList ∧ Text.InOneLine t.toList := by
  rw [String.toList_append]
  exact List.forall_mem_append

/-- The lines of the chain are of one line each. -/
theorem inOneLine_of_mem_chain : ∀ l ∈ ChainSource.lines, Text.InOneLine l.toList := by
  simp only [ChainSource.lines, ChainSource.imports, ChainSource.states, ChainSource.control,
    ChainSource.phases, ChainSource.entries, List.forall_mem_append, List.forall_mem_cons,
    List.not_mem_nil, false_implies, implies_true, and_true, inOneLine_append]
  repeat' apply And.intro
  all_goals exact inOneLine_ofList rfl

/-- The fixed lines above the modules are of one line each. -/
theorem inOneLine_of_mem_loader :
    ∀ l ∈ (loader "").take 5 ++ (loader "").drop 6 ++ importer, Text.InOneLine l.toList := by
  simp only [loader, importer, List.take, List.drop, List.forall_mem_append, List.forall_mem_cons,
    List.not_mem_nil, false_implies, implies_true, and_true]
  repeat' apply And.intro
  all_goals exact inOneLine_ofList rfl

/-- The fixed lines around the modules and the rows are of one line each. -/
theorem inOneLine_of_mem_frame (variant : Variant) :
    ∀ l ∈ (header variant "").drop 1 ++ sectionHead "Handler modules" ++
      sectionHead "Pipeline" ++ tableHead variant :: ")" :: entryLines variant,
    Text.InOneLine l.toList := by
  cases variant <;>
    simp only [header, variantWord, version, sectionHead, tableHead, entryLines, List.drop,
      List.forall_mem_append, List.forall_mem_cons, List.not_mem_nil, false_implies, implies_true,
      and_true, inOneLine_append]
  all_goals
    repeat' apply And.intro
    all_goals exact inOneLine_ofList rfl

/-! ## Every line -/

/-- A well-formed piece that is filled is of one line. -/
theorem Piece.inOneLine_written {piece : Piece} (hfilled : piece.IsFilled)
    (h : piece.IsWellFormed) : Text.InOneLine piece.written.toList := by
  cases piece with
  | fixed text => exact hfilled.elim
  | literal text =>
    rw [written, Text.quote, String.toList_ofList]
    exact Text.inOneLine_quoted text.toList
  | binding name => exact Text.inOneLine_of_isName h.1
  | exported name => exact Text.inOneLine_of_isName h
  | imported parts =>
    intro c hc
    rw [written, String.toList_intercalate] at hc
    rcases Text.of_mem_intercalate hc with hc | ⟨_, hmem, hc⟩
    · obtain rfl : c = '.' := by simpa using hc
      decide
    · obtain ⟨part, hpart, rfl⟩ := List.mem_map.1 hmem
      exact Text.inOneLine_of_isName (h.2 part hpart) c hc

/-- A line that fits is of one line. -/
theorem Fits.inOneLine {line : List Piece} (h : Fits line) :
    Text.InOneLine (lineText line).toList := by
  induction h with
  | nil => simp [Text.InOneLine]
  | fixed htext _ ih =>
    simp only [isJoint, Bool.and_eq_true, List.all_eq_true, Bool.not_eq_true'] at htext
    rw [lineText_cons, inOneLine_append]
    exact ⟨fun c hc => (htext.1 c hc).2, ih⟩
  | last hfilled hpiece =>
    rw [lineText_cons, lineText_nil, String.append_empty]
    exact Piece.inOneLine_written hfilled hpiece
  | filled hfilled hpiece _ _ ih =>
    rw [lineText_cons, inOneLine_append]
    exact ⟨Piece.inOneLine_written hfilled hpiece, ih⟩

/-- The line is fixed, and of one line, or it fits. -/
def IsSound (line : List Piece) : Prop :=
  (∃ text, line = [.fixed text] ∧ Text.InOneLine text.toList) ∨ Fits line

/-- Fixed lines are sound where each is of one line. -/
theorem isSound_of_mem_fixedLines {ls : List String} (h : ∀ l ∈ ls, Text.InOneLine l.toList) :
    ∀ line ∈ fixedLines ls, IsSound line := by
  intro line hline
  obtain ⟨l, hl, rfl⟩ := List.mem_map.1 hline
  exact .inl ⟨l, rfl, h l hl⟩

/-- The lines of the preamble are sound. -/
theorem isSound_of_mem_preamblePieces (importBase : String) (variant : Variant) :
    ∀ line ∈ preamblePieces importBase variant, IsSound line := by
  have hfixed := inOneLine_of_mem_loader
  simp only [List.forall_mem_append] at hfixed
  obtain ⟨⟨habove, hbelow⟩, himporter⟩ := hfixed
  cases variant with
  | plain =>
    exact List.forall_mem_append.2 ⟨isSound_of_mem_fixedLines habove,
      List.forall_mem_cons.2 ⟨.inr (fits_basePieces importBase), isSound_of_mem_fixedLines hbelow⟩⟩
  | typed => exact isSound_of_mem_fixedLines himporter

/-- The lines of a row are sound. -/
theorem isSound_of_mem_rowPieces {s : Step} (hs : s.IsAccepted) :
    ∀ line ∈ rowPieces s, IsSound line := by
  have hsuccess : ∀ r ∈ s.success?, r.IsAccepted := fun r hr =>
    hs r (List.mem_append_left _ (Option.mem_toList.2 hr))
  have hfailure : ∀ r ∈ s.failure?, r.IsAccepted := fun r hr =>
    hs r (List.mem_append_right _ (Option.mem_toList.2 hr))
  simp only [rowPieces, List.forall_mem_cons, List.not_mem_nil, false_implies, implies_true,
    and_true]
  exact ⟨.inl ⟨_, rfl, inOneLine_ofList rfl⟩,
    .inr (fits_sidePieces (isJoint_ofList (by decide +kernel)) hsuccess),
    .inr (fits_sidePieces (isJoint_ofList (by decide +kernel)) hfailure),
    .inr (fits_labelPieces s), .inl ⟨_, rfl, inOneLine_ofList rfl⟩⟩

/-- Every line of an artifact but the first is sound. -/
theorem isSound_of_mem_tail {variant : Variant} {importBase : String}
    (hsteps : ∀ s ∈ p.steps, s.IsAccepted) :
    ∀ line ∈ (pieceLines variant importBase p).tail, IsSound line := by
  have hframe := inOneLine_of_mem_frame variant
  simp only [List.forall_mem_append, List.forall_mem_cons] at hframe
  obtain ⟨⟨⟨hheader, hmodules⟩, hpipeline⟩, hhead, hclose, hentries⟩ := hframe
  have hbound : ∀ line ∈ p.modulePaths.map (modulePieces variant), IsSound line := by
    intro line hline
    obtain ⟨path, hpath, rfl⟩ := List.mem_map.1 hline
    obtain ⟨s, hs, r, hr, rfl⟩ := exists_of_mem_modulePaths hpath
    exact .inr (fits_modulePieces variant (hsteps s hs r hr).isModulePath)
  have hrows : ∀ line ∈ p.steps.flatMap rowPieces, IsSound line := by
    intro line hline
    obtain ⟨s, hs, hline⟩ := List.mem_flatMap.1 hline
    exact isSound_of_mem_rowPieces (hsteps s hs) line hline
  simp only [pieceLines, headerPieces, List.cons_append, List.tail_cons, List.forall_mem_append]
  refine ⟨⟨⟨⟨⟨⟨isSound_of_mem_fixedLines hheader, isSound_of_mem_fixedLines ?_⟩,
    isSound_of_mem_preamblePieces importBase variant⟩, hbound⟩, isSound_of_mem_fixedLines ?_⟩,
    hrows⟩, isSound_of_mem_fixedLines ?_⟩
  · exact List.forall_mem_append.2 ⟨inOneLine_of_mem_chain, hmodules⟩
  · exact List.forall_mem_append.2 ⟨hpipeline, List.forall_mem_singleton.2 hhead⟩
  · exact List.forall_mem_cons.2 ⟨hclose, hentries⟩

/-- The first line of an artifact, and the lines behind it. -/
theorem pieceLines_eq_cons (variant : Variant) (importBase : String) (p : Pipeline) :
    pieceLines variant importBase p =
      (.fixed "#" :: remark p.functionName) :: (pieceLines variant importBase p).tail := by
  simp only [pieceLines, headerPieces, List.cons_append, List.tail_cons]

/-- **Every line of an artifact is of one line**: no name, path, base or label brings a line
boundary with it. -/
theorem inOneLine_of_mem_pieceLines {variant : Variant} {importBase : String}
    (hsteps : ∀ s ∈ p.steps, s.IsAccepted) :
    ∀ line ∈ pieceLines variant importBase p, Text.InOneLine (lineText line).toList := by
  rw [pieceLines_eq_cons, List.forall_mem_cons]
  constructor
  · rw [lineText_cons, inOneLine_append]
    exact ⟨inOneLine_ofList rfl, (fits_remark _).inOneLine⟩
  intro line hline
  rcases isSound_of_mem_tail hsteps line hline with ⟨text, rfl, htext⟩ | hfits
  · rwa [lineText_fixed]
  · exact hfits.inOneLine

/-- So is every line that is written. -/
theorem inOneLine_of_mem_lines {variant : Variant} {importBase : String}
    (hsteps : ∀ s ∈ p.steps, s.IsAccepted) (hbs : p.bindings reservedNames = .ok bs) :
    ∀ l ∈ lines variant importBase p bs, Text.InOneLine l.toList := by
  rw [← lineText_pieceLines hbs]
  exact List.forall_mem_map.2 (inOneLine_of_mem_pieceLines hsteps)

/-- The text holds no line feed. -/
def OneLine (s : String) : Prop := '\n' ∉ s.toList

/-- No line of an artifact holds a line feed. -/
theorem oneLine_of_mem_lines {variant : Variant} {importBase : String}
    (hsteps : ∀ s ∈ p.steps, s.IsAccepted) (hbs : p.bindings reservedNames = .ok bs) :
    ∀ l ∈ lines variant importBase p bs, OneLine l :=
  fun l hl hmem => absurd (inOneLine_of_mem_lines hsteps hbs l hl _ hmem) (by decide)

/-! ## Cutting -/

/-- The texts between the line feeds of a source. -/
def cutLines (source : String) : List String := (source.toList.splitOn '\n').map String.ofList

/-- The source is its lines, and an empty one behind the last, joined by line feeds. -/
theorem ofLines_eq_intercalate (ls : List String) : ofLines ls = "\n".intercalate (ls ++ [""]) := by
  rw [← String.toList_inj, ofLines, String.toList_join, String.toList_intercalate]
  induction ls with
  | nil => rfl
  | cons l ls ih =>
    rw [List.map_cons, List.flatMap_cons, ih, List.cons_append, List.map_cons,
      List.intercalate_cons_of_ne_nil (by simp), String.toList_append, List.append_assoc]

/-- **A source is cut into the lines it was made of**, and the empty text behind the last. -/
theorem cutLines_ofLines {ls : List String} (h : ∀ l ∈ ls, OneLine l) :
    cutLines (ofLines ls) = ls ++ [""] := by
  have hfree : ∀ l ∈ ls ++ [""], '\n' ∉ l.toList := by
    rw [List.forall_mem_append]
    exact ⟨h, by simp⟩
  rw [cutLines, ofLines_eq_intercalate]
  exact Text.splitOn_intercalate hfree (by simp)

/-- The source of a first line and others. -/
theorem toList_ofLines_cons (l : String) (ls : List String) :
    (ofLines (l :: ls)).toList = l.toList ++ '\n' :: (ofLines ls).toList := by
  rw [ofLines, List.map_cons, String.join_cons, String.toList_append, String.toList_append,
    List.append_assoc]
  rfl

/-- **A source is cut at its line boundaries into the lines it was made of.** -/
theorem lines_ofLines {ls : List String} (h : ∀ l ∈ ls, Text.InOneLine l.toList) :
    Text.lines (ofLines ls).toList = ls.map String.toList := by
  induction ls with
  | nil => rfl
  | cons l ls ih =>
    obtain ⟨hl, hls⟩ := List.forall_mem_cons.1 h
    rw [toList_ofLines_cons, Text.lines_append_newline hl, ih hls, List.map_cons]

end Artifact

end HandlerPipeline

import HandlerPipeline.Proofs.Artifact.Lines
import HandlerPipeline.Proofs.Artifact.ReadBack
import HandlerPipeline.Proofs.Text.Encoding

/-!
# The encoding of an artifact

An artifact is written as UTF-8, and read as such unless it declares another encoding. Only its
first two lines can, and both are comments: the first one names the function. The name is quoted,
so it never leaves the comment, but inside it a name such as `coding:latin-1` is a declaration, and
the quotes around it change nothing (`Artifact.emit_encoding`).
-/

namespace HandlerPipeline

namespace Artifact

variable {variant : Variant} {importBase : String} {p : Pipeline}

/-! ## The two lines -/

/-- The line that names the function. -/
def namingLine (functionName : String) : String :=
  "# Middleware pipeline for function " ++ Text.quote functionName ++ "."

/-- The line that tells where the artifact comes from. -/
def generatedLine (variant : Variant) : String :=
  "# Generated by middleware-chain " ++ version ++ " (" ++ variantWord variant ++
    " variant). Do not edit."

/-- The lines above the chain are these two, and an empty one. -/
theorem header_eq (variant : Variant) (functionName : String) :
    header variant functionName = [namingLine functionName, generatedLine variant, ""] := rfl

/-- The comment that names the function. -/
def namingComment (functionName : String) : List Char :=
  " Middleware pipeline for function ".toList ++ (Text.quoted functionName.toList ++ ['.'])

/-- The line that names the function is this comment. -/
theorem toList_namingLine (functionName : String) :
    (namingLine functionName).toList = '#' :: namingComment functionName := by
  have hfixed : "# Middleware pipeline for function ".toList =
      '#' :: " Middleware pipeline for function ".toList :=
    String.toList_ofList.trans (congrArg ('#' :: ·) String.toList_ofList.symm)
  have hquote : (Text.quote functionName).toList = Text.quoted functionName.toList :=
    String.toList_ofList
  have hstop : ".".toList = ['.'] := String.toList_ofList
  unfold namingLine namingComment
  rw [String.toList_append, String.toList_append, hfixed, hquote, hstop, List.append_assoc,
    List.cons_append]

/-- The comment that names the function holds a declaration iff the name does. -/
theorem isDeclaring_namingComment {functionName : String} :
    Text.IsDeclaring (namingComment functionName) ↔
      Text.HoldsDeclaration functionName.toList := by
  have hfixed : ¬ ['c', 'o'] <:+: " Middleware pipeline for function ".toList := by
    rw [String.toList_ofList]
    decide
  have hlast : " Middleware pipeline for function ".toList.getLast? ≠ some 'c' := by
    rw [String.toList_ofList]
    decide
  have hstop : ¬ Text.IsDeclaring ['.'] := by
    rw [← Text.isSome_declared?_iff]
    decide
  unfold namingComment
  rw [Text.isDeclaring_append hfixed, Text.isDeclaring_quoted_iff]
  simp only [hlast, hstop, false_and, false_or, or_false]

/-- The first line of an artifact declares an encoding iff the name of the function holds a
declaration. -/
theorem isSome_declaredByLine?_namingLine {functionName : String} :
    (Text.declaredByLine? (namingLine functionName).toList).isSome = true ↔
      Text.HoldsDeclaration functionName.toList := by
  rw [toList_namingLine]
  exact Text.isSome_declared?_iff.trans isDeclaring_namingComment

/-- The second line of an artifact declares none. -/
theorem declaredByLine?_generatedLine (variant : Variant) :
    Text.declaredByLine? (generatedLine variant).toList = none := by
  unfold generatedLine version
  simp only [String.toList_append]
  cases variant <;> rfl

/-- An artifact is read as lines that begin with these two. -/
theorem physicalLines_ofLines (variant : Variant) (importBase : String) (p : Pipeline)
    (bindings : List (String × String)) :
    ∃ rest, Text.physicalLines (ofLines (lines variant importBase p bindings)).toList =
      (namingLine p.functionName).toList :: (generatedLine variant).toList :: rest := by
  have hnaming : Text.InOneLine (namingLine p.functionName).toList := by
    rw [toList_namingLine]
    have hfixed : Text.InOneLine " Middleware pipeline for function ".toList := inOneLine_ofList rfl
    unfold namingComment
    refine List.forall_mem_cons.2 ⟨by decide, List.forall_mem_append.2 ⟨hfixed, ?_⟩⟩
    exact List.forall_mem_append.2
      ⟨Text.inOneLine_quoted _, List.forall_mem_singleton.2 (by decide)⟩
  have hgenerated : Text.InOneLine (generatedLine variant).toList := by
    have hframe := inOneLine_of_mem_frame variant
    simp only [header_eq, List.forall_mem_append, List.drop_succ_cons, List.drop_zero,
      List.forall_mem_cons] at hframe
    exact hframe.1.1.1.1
  rw [lines, header_eq]
  simp only [List.cons_append, List.nil_append]
  rw [toList_ofLines_cons, Text.physicalLines_append_newline hnaming, toList_ofLines_cons,
    Text.physicalLines_append_newline hgenerated]
  exact ⟨_, rfl⟩

/-! ## The law of the encoding -/

/-- What is said of the source of a pipeline: which of the lines that can declare an encoding does,
and when. -/
structure EncodingLaw (p : Pipeline) (source : String) : Prop where
  /-- Of the first two lines the second declares nothing, and the first declares an encoding iff the
  name of the function holds a declaration. -/
  lines : ∃ first second rest, Text.physicalLines source.toList = first :: second :: rest ∧
    ((Text.declaredByLine? first).isSome = true ↔ Text.HoldsDeclaration p.functionName.toList) ∧
    Text.declaredByLine? second = none
  /-- The source is read as UTF-8, which it is written as, unless the name holds a declaration. -/
  undeclared_iff :
    Text.declaredEncoding? source.toList = none ↔ ¬ Text.HoldsDeclaration p.functionName.toList

/-- **An artifact declares an encoding iff the name of its function holds a declaration**, whatever
its variant is and whichever modules its steps name. -/
theorem emit_encoding {checks : Bool} {source : String} {logged : List Log.Line}
    (hemit : emit checks variant importBase p = .ok (source, logged)) : EncodingLaw p source := by
  obtain ⟨bs, -, rfl⟩ := bindings_of_emit_eq_ok hemit
  obtain ⟨rest, hlines⟩ := physicalLines_ofLines variant importBase p bs
  have hsecond := declaredByLine?_generatedLine variant
  refine ⟨⟨_, _, rest, hlines, isSome_declaredByLine?_namingLine, hsecond⟩, ?_⟩
  rw [← isSome_declaredByLine?_namingLine, Text.declaredEncoding?, hlines]
  cases hfirst : Text.declaredByLine? (namingLine p.functionName).toList <;>
    simp [hfirst, hsecond]

/-- A pipeline of a function whose name holds a declaration. -/
def declaring : Pipeline := ⟨"transcoding:mp4", [.onSuccess ⟨"media", "check"⟩]⟩

/-- The pipeline is emitted. -/
theorem emit_declaring (variant : Variant) : ∃ source, emit true variant ".." declaring =
    .ok (source, [emittedLine variant declaring]) := by
  have hbs : declaring.bindings reservedNames = .ok [("media", "media")] :=
    Pipeline.bindings_eq_ok_iff.2 ⟨by decide +kernel, by decide⟩
  exact ⟨_, emit_eq_of_bindings true variant ".." hbs⟩

/-- The name of the function is `trans`, the word, and what declares `mp4`. -/
theorem holdsDeclaration_declaring : Text.HoldsDeclaration declaring.functionName.toList :=
  ⟨['t', 'r', 'a', 'n', 's'], 'c', _, String.toList_ofList, .inl rfl,
    ':', [], 'm', ['p', '4'], rfl, .inl rfl, by simp, rfl⟩

/-- The artifact of such a pipeline is not read as UTF-8. -/
theorem emit_encoding_declaring : ∃ source,
    emit true .typed ".." declaring = .ok (source, [emittedLine .typed declaring]) ∧
      EncodingLaw declaring source ∧ Text.declaredEncoding? source.toList ≠ none := by
  obtain ⟨source, hemit⟩ := emit_declaring .typed
  have hlaw := emit_encoding hemit
  exact ⟨source, hemit, hlaw, fun hnone => hlaw.undeclared_iff.1 hnone holdsDeclaration_declaring⟩

/-- Headers are read as declarations: not for every name does neither of the first two lines declare
an encoding. -/
theorem emit_declaresEncoding :
    ¬ ∀ (checks : Bool) (variant : Variant) (importBase : String) (p : Pipeline) (source : String)
        (logged : List Log.Line), (∀ s ∈ p.steps, ∃ raw, Step.read raw = .ok s) →
      emit checks variant importBase p = .ok (source, logged) →
      ∀ line ∈ (Text.physicalLines source.toList).take 2, Text.declaredByLine? line = none := by
  intro h
  have hread : ∀ s ∈ declaring.steps, ∃ raw, Step.read raw = .ok s := by
    intro s hs
    rw [declaring, List.mem_singleton] at hs
    exact ⟨.text "media.check", by rw [hs]; rfl⟩
  obtain ⟨source, hemit⟩ := emit_declaring .plain
  obtain ⟨bs, -, rfl⟩ := bindings_of_emit_eq_ok hemit
  obtain ⟨rest, hlines⟩ := physicalLines_ofLines .plain ".." declaring bs
  have hmem : (namingLine declaring.functionName).toList ∈
      (Text.physicalLines (ofLines (lines .plain ".." declaring bs)).toList).take 2 := by
    rw [hlines]
    exact List.mem_cons_self
  have hnone := h true .plain ".." declaring _ _ hread hemit _ hmem
  have hsome := isSome_declaredByLine?_namingLine.2 holdsDeclaration_declaring
  rw [hnone] at hsome
  cases hsome

end Artifact

end HandlerPipeline

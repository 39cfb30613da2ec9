import HandlerPipeline.Artifact.Emit
import HandlerPipeline.Proofs.Artifact.Label
import HandlerPipeline.Proofs.Artifact.Reading
import Mathlib.Data.List.Forall2

/-!
# Emission loses nothing

The source of an artifact is read back to the pipeline that it was emitted for. What the text gives
is said by `Reading.Describes`: the modules, each once and in the order in which the steps first
name them, and one row for each step, whose cells name bindings of the block above. The theorem
`emit_readBack` says that emission succeeds on every pipeline whose modules can be bound, that the
source describes the pipeline, and that no other pipeline has the same source.
-/

namespace HandlerPipeline

/-- The value of a key is found where no two entries have one key. -/
theorem lookup_eq_some_of_mem {β : Type} {l : List (String × β)} (h : (l.map Prod.fst).Nodup)
    {key : String} {value : β} (hmem : (key, value) ∈ l) : l.lookup key = some value := by
  induction l with
  | nil => cases hmem
  | cons entry l ih =>
    rw [List.map_cons, List.nodup_cons] at h
    rw [List.lookup_cons]
    rcases List.mem_cons.1 hmem with rfl | hmem
    · simp
    · have hne : key ≠ entry.1 := by
        rintro rfl
        exact h.1 (List.mem_map.2 ⟨_, hmem, rfl⟩)
      rw [beq_false_of_ne hne]
      exact ih h.2 hmem

/-- Steps that were read are accepted. -/
theorem Pipeline.isAccepted_of_read {p : Pipeline}
    (h : ∀ s ∈ p.steps, ∃ raw, Step.read raw = .ok s) : ∀ s ∈ p.steps, s.IsAccepted :=
  fun s hs => let ⟨_, hraw⟩ := h s hs; Step.isAccepted_of_read hraw

namespace Artifact

/-! ## What the text of an artifact gives -/

/-- The modules are those of the pipeline: each distinct path once, in the order in which the
references first name them, with its binding name and its parts. No two have one name. -/
def ModulesOf (modules : List (String × List String)) (p : Pipeline) : Prop :=
  ∃ paths : List String, (∀ path, path ∈ paths ↔ ∃ r ∈ p.references, r.modulePath = path) ∧
    paths.Pairwise (fun a b => (p.references.map Reference.modulePath).idxOf a <
      (p.references.map Reference.modulePath).idxOf b) ∧
    modules = paths.map (fun path =>
      (ModulePath.bindingName reservedNames path, ModulePath.parts path)) ∧
    (modules.map Prod.fst).Nodup

/-- The cell is that of a side: empty where the side is absent; otherwise it names the export, and
a binding under which the modules hold the parts of the reference's path. -/
inductive CellOf (modules : List (String × List String)) :
    Option (String × String) → Option Reference → Prop where
  | absent : CellOf modules none none
  | named {binding : String} {r : Reference}
      (h : modules.lookup binding = some (ModulePath.parts r.modulePath)) :
      CellOf modules (some (binding, r.exportName)) (some r)

/-- The row is that of a step: its cells are those of the two sides, and its label names the
step. -/
structure RowOf (modules : List (String × List String)) (row : RowReading) (s : Step) : Prop where
  success : CellOf modules row.success? s.success?
  failure : CellOf modules row.failure? s.failure?
  label : Step.ofLabel row.label = some s

/-- The reading describes a pipeline, emitted in a variant with an import base: it gives the
function's name, the modules, and exactly one row for each step, in order. -/
structure Reading.Describes (r : Reading) (variant : Variant) (importBase : String)
    (p : Pipeline) : Prop where
  functionName_eq : r.functionName = p.functionName
  variant_eq : r.variant = variant
  importBase?_eq : r.importBase? = baseOf? importBase variant
  modules : ModulesOf r.modules p
  rows : List.Forall₂ (RowOf r.modules) r.rows p.steps

/-- The pipeline that the labels of the rows name. -/
def Reading.pipeline? (r : Reading) : Option Pipeline :=
  (r.rows.mapM fun row => Step.ofLabel row.label).map (Pipeline.mk r.functionName)

/-! ## Modules and rows -/

variable {p : Pipeline} {bs : List (String × String)}

/-- The bindings of a pipeline give its modules. -/
theorem modulesOf_bindings (hbs : p.bindings reservedNames = .ok bs) :
    ModulesOf (bs.map fun b => (b.2, ModulePath.parts b.1)) p := by
  obtain ⟨hpaths, hnodup⟩ := Pipeline.bindings_eq_ok_iff.1 hbs
  refine ⟨p.modulePaths, fun path => ?_, pairwise_firstAppearances _, ?_, ?_⟩
  · rw [Pipeline.modulePaths, mem_firstAppearances, List.mem_map]
  · rw [hpaths, List.map_map]
    rfl
  · rw [List.map_map]
    exact hnodup

/-- The modules hold the parts of each reference's path under the name of its binding. -/
theorem ModulesOf.lookup {modules : List (String × List String)} (hmodules : ModulesOf modules p)
    {r : Reference} (hr : r ∈ p.references) :
    modules.lookup (ModulePath.bindingName reservedNames r.modulePath) =
      some (ModulePath.parts r.modulePath) := by
  obtain ⟨paths, hmem, -, hpaths, hnodup⟩ := hmodules
  have hpath : r.modulePath ∈ paths := (hmem _).2 ⟨r, hr, rfl⟩
  refine lookup_eq_some_of_mem hnodup ?_
  rw [hpaths]
  exact List.mem_map_of_mem (f := fun path => (_, ModulePath.parts path)) hpath

/-- The cell of a side is that side's where the pipeline holds its reference. -/
theorem cellOf_cell {modules : List (String × List String)} (hmodules : ModulesOf modules p)
    {handler? : Option Reference} (h : ∀ r ∈ handler?, r ∈ p.references) :
    CellOf modules (cell handler?) handler? := by
  cases handler? with
  | none => exact .absent
  | some r => exact .named (hmodules.lookup (h r rfl))

/-- The row of a step of the pipeline is that step's. -/
theorem rowOf_rowReading {modules : List (String × List String)} (hmodules : ModulesOf modules p)
    {s : Step} (hs : s ∈ p.steps) (haccepted : s.IsAccepted) :
    RowOf modules (rowReading s) s := by
  have hreferences : ∀ r ∈ s.references, r ∈ p.references := fun r hr =>
    List.mem_flatMap.2 ⟨s, hs, hr⟩
  refine ⟨cellOf_cell hmodules fun r hr => ?_, cellOf_cell hmodules fun r hr => ?_,
    Step.ofLabel_label haccepted⟩
  · exact hreferences r (List.mem_append_left _ (Option.mem_toList.2 hr))
  · exact hreferences r (List.mem_append_right _ (Option.mem_toList.2 hr))

/-- The labels of accepted steps name the steps. -/
theorem mapM_ofLabel {steps : List Step} (h : ∀ s ∈ steps, s.IsAccepted) :
    ((steps.map rowReading).mapM fun row => Step.ofLabel row.label) = some steps := by
  induction steps with
  | nil => rfl
  | cons s steps ih =>
    have hs : Step.ofLabel (rowReading s).label = some s := Step.ofLabel_label (h s (.head _))
    rw [List.map_cons, List.mapM_cons, hs, ih fun t ht => h t (List.mem_cons_of_mem _ ht)]
    rfl

/-! ## Emission -/

/-- Emission gives the source of the bindings, unless the checker refuses the function's name. -/
theorem emit_eq_of_bindings (checks : Bool) (variant : Variant) (importBase : String)
    (hbs : p.bindings reservedNames = .ok bs) :
    emit checks variant importBase p =
      if checks && p.functionName.toList.contains '\x00' then .error .nullInName
      else .ok (ofLines (lines variant importBase p bs), [emittedLine variant p]) := by
  rw [emit, render, hbs]
  rfl

/-- An artifact is not emitted where modules are in conflict, or the checker refuses the name. -/
theorem emit_eq_error_iff {checks : Bool} {variant : Variant} {importBase : String} {f : Failure} :
    emit checks variant importBase p = .error f ↔
      (∃ e, p.bindings reservedNames = .error e ∧ f = .build e) ∨
        (∃ bs, p.bindings reservedNames = .ok bs) ∧ checks = true ∧
          '\x00' ∈ p.functionName.toList ∧ f = .nullInName := by
  cases hbs : p.bindings reservedNames with
  | error e =>
    rw [emit, render, hbs]
    simp [Except.map, eq_comm]
  | ok bs =>
    rw [emit_eq_of_bindings _ _ _ hbs]
    split
    · next hrefused =>
      rw [Bool.and_eq_true, List.contains_iff_mem] at hrefused
      simp [hrefused.1, hrefused.2, eq_comm]
    · next hrefused =>
      rw [Bool.and_eq_true, List.contains_iff_mem, not_and] at hrefused
      constructor
      · intro h
        cases h
      · rintro (⟨e, he, -⟩ | ⟨-, hchecks, hname, -⟩)
        · cases he
        · exact absurd hname (hrefused hchecks)

/-- What was emitted is the source of bindings that were made. -/
theorem bindings_of_emit_eq_ok {checks : Bool} {variant : Variant} {importBase source : String}
    {logged : List Log.Line} (h : emit checks variant importBase p = .ok (source, logged)) :
    ∃ bs, p.bindings reservedNames = .ok bs ∧
      source = ofLines (lines variant importBase p bs) := by
  cases hbs : p.bindings reservedNames with
  | error e =>
    rw [emit, render, hbs] at h
    cases h
  | ok bs =>
    rw [emit_eq_of_bindings _ _ _ hbs] at h
    split at h
    · cases h
    · cases h
      exact ⟨bs, rfl, rfl⟩

/-- The reading of a source describes its pipeline, and its labels name the pipeline's steps. -/
theorem describes_of_bindings (variant : Variant) (importBase : String)
    (hsteps : ∀ s ∈ p.steps, s.IsAccepted) (hbs : p.bindings reservedNames = .ok bs) :
    ∃ r, Reading.ofSource (ofLines (lines variant importBase p bs)) = some r ∧
      r.Describes variant importBase p ∧ r.pipeline? = some p := by
  have hmodules := modulesOf_bindings hbs
  refine ⟨_, Reading.ofSource_ofLines variant importBase hsteps hbs,
    ⟨rfl, rfl, rfl, hmodules, ?_⟩, ?_⟩
  · rw [List.forall₂_map_left_iff, List.forall₂_same]
    intro s hs
    exact rowOf_rowReading hmodules hs (hsteps s hs)
  · rw [Reading.pipeline?, mapM_ofLabel hsteps]
    rfl

/-- Pipelines with one source are one pipeline, emitted in one variant, and where that is the plain
one, with one import base. -/
theorem eq_of_ofLines_eq {variant variant' : Variant} {importBase importBase' : String}
    {p' : Pipeline} {bs' : List (String × String)} (hsteps : ∀ s ∈ p.steps, s.IsAccepted)
    (hbs : p.bindings reservedNames = .ok bs) (hsteps' : ∀ s ∈ p'.steps, s.IsAccepted)
    (hbs' : p'.bindings reservedNames = .ok bs')
    (h : ofLines (lines variant importBase p bs) = ofLines (lines variant' importBase' p' bs')) :
    p' = p ∧ variant' = variant ∧ (variant = .plain → importBase' = importBase) := by
  have hread := Reading.ofSource_ofLines variant importBase hsteps hbs
  have hread' := Reading.ofSource_ofLines variant' importBase' hsteps' hbs'
  rw [← h, hread, Option.some.injEq, Reading.mk.injEq] at hread'
  obtain ⟨hname, hvariant, hbase, -, hrows⟩ := hread'
  have hsame : p.steps = p'.steps := by
    rw [← Option.some.injEq, ← mapM_ofLabel hsteps, hrows, mapM_ofLabel hsteps']
  refine ⟨?_, hvariant.symm, ?_⟩
  · obtain ⟨name, steps⟩ := p
    obtain ⟨name', steps'⟩ := p'
    cases hname
    cases hsame
    rfl
  · rintro rfl
    subst hvariant
    exact (Option.some.inj hbase).symm

/-- **The source that is emitted for a pipeline is read back to that pipeline**: where the steps
were read and their modules can be bound, emission succeeds (but for a null character in a name that
is checked), the source describes the pipeline, its labels name the steps, and every pipeline with
the same source is this one, in this variant and, where the variant gives it, with this import
base. -/
theorem emit_readBack (variant : Variant) (importBase : String)
    (hsteps : ∀ s ∈ p.steps, ∃ raw, Step.read raw = .ok s)
    (hbs : p.bindings reservedNames = .ok bs) :
    ∃ source,
      (∀ checks, emit checks variant importBase p =
        if checks && p.functionName.toList.contains '\x00' then .error .nullInName
        else .ok (source, [emittedLine variant p])) ∧
      (∃ r, Reading.ofSource source = some r ∧ r.Describes variant importBase p ∧
        r.pipeline? = some p) ∧
      ∀ (checks' : Bool) (variant' : Variant) (importBase' : String) (p' : Pipeline)
        (logged : List Log.Line), (∀ s ∈ p'.steps, ∃ raw, Step.read raw = .ok s) →
        emit checks' variant' importBase' p' = .ok (source, logged) →
        p' = p ∧ variant' = variant ∧ (variant = .plain → importBase' = importBase) := by
  have accepted : ∀ {q : Pipeline}, (∀ s ∈ q.steps, ∃ raw, Step.read raw = .ok s) →
      ∀ s ∈ q.steps, s.IsAccepted := by
    intro q hq s hs
    obtain ⟨raw, hraw⟩ := hq s hs
    exact Step.isAccepted_of_read hraw
  refine ⟨_, fun checks => emit_eq_of_bindings checks variant importBase hbs,
    describes_of_bindings variant importBase (accepted hsteps) hbs, ?_⟩
  intro checks' variant' importBase' p' logged hsteps' hemit
  obtain ⟨bs', hbs', hsource⟩ := bindings_of_emit_eq_ok hemit
  exact eq_of_ofLines_eq (accepted hsteps) hbs (accepted hsteps') hbs' hsource

/-- A pipeline that names one module twice, and one that no import statement can name. -/
def sharedModule : Pipeline where
  functionName := "it's"
  steps := [.onBoth ⟨"src/auth", "check"⟩ ⟨"lib.2fa", "log"⟩, .onSuccess ⟨"src/auth", "save"⟩]

/-- The source of such a pipeline is read back to it. -/
theorem emit_readBack_sharedModule :
    (∀ s ∈ sharedModule.steps, ∃ raw, Step.read raw = .ok s) ∧
      sharedModule.bindings reservedNames =
        .ok [("src/auth", "src_auth"), ("lib.2fa", "lib_2fa")] ∧
      ∃ source r, emit true .typed "" sharedModule =
          .ok (source, [emittedLine .typed sharedModule]) ∧
        Reading.ofSource source = some r ∧ r.Describes .typed "" sharedModule ∧
        r.pipeline? = some sharedModule := by
  have hsteps : ∀ s ∈ sharedModule.steps, ∃ raw, Step.read raw = .ok s := by
    intro s hs
    simp only [sharedModule, List.mem_cons, List.not_mem_nil, or_false] at hs
    rcases hs with rfl | rfl
    · exact ⟨.map [(.text "then", .text "src/auth.check"), (.text "catch", .text "lib.2fa.log")],
        rfl⟩
    · exact ⟨.text "src/auth.save", rfl⟩
  have hbs : sharedModule.bindings reservedNames =
      .ok [("src/auth", "src_auth"), ("lib.2fa", "lib_2fa")] :=
    Pipeline.bindings_eq_ok_iff.2 ⟨by decide +kernel, by decide⟩
  obtain ⟨source, hemit, ⟨r, hread, hdescribes, hpipeline⟩, -⟩ := emit_readBack .typed "" hsteps hbs
  exact ⟨hsteps, hbs, source, r, hemit true, hread, hdescribes, hpipeline⟩

end Artifact

end HandlerPipeline

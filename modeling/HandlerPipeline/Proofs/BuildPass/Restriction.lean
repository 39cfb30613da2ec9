import HandlerPipeline.Proofs.Artifact.ReadBack
import HandlerPipeline.Proofs.BuildPass.AllOrNothing
import HandlerPipeline.Proofs.BuildPass.Naming
import HandlerPipeline.Proofs.BuildPass.Scheduling
import HandlerPipeline.Proofs.Descriptor.Merging
import HandlerPipeline.Proofs.Pipeline.Collisions

/-!
# Builds that are restricted to one name

A build may be restricted to one name. The name is looked for among all declarations, and only then
are those that need a pipeline selected: so a name that no function bears is unknown
(`select_of_undeclared`), while a function that needs no pipeline is merely not built. The functions
that bear the name are built as they would be without the others (`select_of_named`), and they come
to what they come to among the others, because what comes of a function is what comes of it alone.
So the artifacts are those of the whole build that bear the name (`build_restricted`).
-/

namespace HandlerPipeline

/-! ## Where unknown functions are reported -/

/-- The pipeline of a function fails with a conflict or with a step that cannot be read. -/
theorem Declaration.ne_unknownFunction_of_pipeline {d : Declaration} {s : Settings}
    {name : String} :
    d.pipeline s ≠ .error (.build (.unknownFunction name)) := by
  intro h
  have read : ∀ {before own after : List Value},
      Pipeline.assemble before own after d.name ≠ .error (.build (.unknownFunction name)) := by
    intro before own after h
    obtain ⟨raw, hfirst⟩ := Step.readAll_eq_error_iff.1 (map_eq_error_iff.1 h)
    obtain ⟨echo, reason, -, he⟩ := hfirst.echoes
    cases he
  rw [pipeline] at h
  split at h
  · cases h
  · split at h
    · next e hown =>
      cases h
      cases eq_conflictingHandler_of_ownSteps hown
    · split at h
      · exact read h
      · exact read h

/-- A search through modules fails with an unknown function only where the probe does. -/
theorem Probe.exists_classify_of_strictest {probe : Probe} {best : Variant} {paths : List String}
    {name : String} (h : probe.strictest best paths = .error (.build (.unknownFunction name))) :
    ∃ path, probe.classify path = .error (.build (.unknownFunction name)) := by
  induction paths generalizing best with
  | nil => cases h
  | cons path rest ih =>
    rw [strictest] at h
    split at h
    · exact ih h
    · next f hf =>
      cases h
      rw [moduleVariant] at hf
      split at hf
      · cases hf
      · cases hf
      · next f hclassify =>
        cases hf
        exact ⟨path, hclassify⟩

namespace BuildPass

variable {pass : BuildPass} {declarations selected : List Declaration} {d : Declaration}
  {name : String} {memory : Resolved} {writer? : Option Writer} {artifacts : List Artifact}
  {outcomes : List (Declaration × Outcome)}

/-- Writing a pipeline reports no unknown function. -/
theorem ne_unknownFunction_of_write {p : Pipeline} {v : Variant} :
    (pass.write p v).1 ≠ .error (.build (.unknownFunction name)) := by
  intro h
  rcases Artifact.emit_eq_error_iff.1 (write_eq_error_iff.1 h) with ⟨e, hbind, he⟩ | ⟨-, -, -, he⟩
  · obtain ⟨_, _, _, rfl⟩ := Pipeline.eq_bindingCollision_of_bindAfter hbind
    cases he
  · cases he

/-- A function that is built alone reports an unknown function only where the probe does. -/
theorem exists_classify_of_alone (h : pass.alone d = .error (.build (.unknownFunction name))) :
    ∃ path, pass.probe.classify path = .error (.build (.unknownFunction name)) := by
  rw [alone, buildFunction_nil_outcome] at h
  have hend := mayEnd_iff.2 h.symm
  generalize houtcome : (.error (.build (.unknownFunction name)) : Outcome) = outcome at hend
  cases hend with
  | @misdeclared e hassemble =>
    cases e with
    | build e =>
      cases houtcome
      exact absurd hassemble Declaration.ne_unknownFunction_of_pipeline
    | raised x => cases houtcome
  | empty => cases houtcome
  | unresolved _ hf =>
    cases houtcome
    exact Probe.exists_classify_of_strictest hf.symm
  | written => exact absurd (map_eq_error_iff.1 houtcome.symm) ne_unknownFunction_of_write

/-! ## Selecting by name -/

/-- A name that no function bears selects none. -/
theorem select_of_undeclared (h : ∀ d ∈ declarations, d.name ≠ name) :
    pass.select declarations (some name) = .error (.unknownFunction name) := by
  have hnone : declarations.filter (·.name = name) = [] := by
    simpa [List.filter_eq_nil_iff] using h
  rw [select, hnone]

/-- A name selects those of the functions that need a pipeline that bear it. -/
theorem select_of_named (h : ∃ d ∈ declarations, d.name = name) :
    pass.select declarations (some name) =
      .ok ((declarations.filter pass.needsPipeline).filter (·.name = name)) := by
  have hselect := @select_of_declared pass declarations (some name) (by rintro _ ⟨⟩; exact h)
  rw [hselect, List.filter_filter]
  rfl

/-- So the functions that bear the name are selected as if the others were not declared. -/
theorem select_filter_name (h : ∃ d ∈ declarations, d.name = name) :
    pass.select declarations (some name) =
      pass.select (declarations.filter (·.name = name)) none := by
  rw [select_of_named h, select, List.filter_filter, List.filter_filter]
  exact congrArg Except.ok (List.filter_congr fun d _ => Bool.and_comm _ _)

/-! ## The restricted build -/

/-- What comes of functions alone is what may come of them. -/
theorem mayEnd_of_alone :
    ∀ o ∈ selected.map fun d => (d, pass.alone d),
      MayEnd pass (fun p result => result = pass.probe.variant p) o.1 o.2 := by
  intro o ho
  obtain ⟨d, -, rfl⟩ := List.mem_map.1 ho
  exact mayEnd_iff.2 buildFunction_nil_outcome

/-- The artifacts of the functions that bear a name are the artifacts with that name. -/
theorem collect_alone_filter_name
    (h : collect (selected.map fun d => (d, pass.alone d)) = .ok artifacts) :
    collect ((selected.filter (·.name = name)).map fun d => (d, pass.alone d)) =
      .ok (artifacts.filter (·.functionName = name)) := by
  have hfilter : (selected.filter (·.name = name)).map (fun d => (d, pass.alone d)) =
      (selected.map fun d => (d, pass.alone d)).filter (·.1.name = name) := by
    rw [List.filter_map]
    rfl
  rw [hfilter]
  exact collect_filter_name name mayEnd_of_alone h

/-- What is said of a build that is restricted to a name. The pass remembers nothing where that
matters, and the probe does not change its mind. -/
structure RestrictionLaw (pass : BuildPass) (declarations : List Declaration) (name : String) :
    Prop where
  /-- A name that no function bears is unknown, and nothing is built or written. -/
  undeclared : (∀ d ∈ declarations, d.name ≠ name) → ∀ memory writer?,
    pass.build memory declarations (some name) writer? =
      ⟨⟨.error (.build (.unknownFunction name)), [], [], []⟩, [], [], memory⟩
  /-- No other unknown function is reported, unless the host's probe itself does so. -/
  unknown : ∀ writer? other,
    (pass.build [] declarations (some name) writer?).outcome =
      .error (.build (.unknownFunction other)) →
    (other = name ∧ ∀ d ∈ declarations, d.name ≠ name) ∨
      ∃ path, pass.probe.classify path = .error (.build (.unknownFunction other))
  /-- Declared functions that need no pipeline are not built, which is no failure. -/
  unneeded : (∃ d ∈ declarations, d.name = name) →
    (∀ d ∈ declarations, d.name = name → pass.needsPipeline d = false) → ∀ memory writer?,
    (pass.build memory declarations (some name) writer?).outcome = .ok [] ∧
      (pass.build memory declarations (some name) writer?).calls = [] ∧
      (pass.build memory declarations (some name) writer?).asked = []
  /-- Functions that bear the name are built as if the others were not declared. -/
  declared : (∃ d ∈ declarations, d.name = name) → ∀ memory writer?,
    pass.build memory declarations (some name) writer? =
      pass.build memory (declarations.filter (·.name = name)) none writer?
  /-- Where the whole build succeeds, its artifacts with the name are handed out. -/
  agrees : (∃ d ∈ declarations, d.name = name) → ∀ writer? artifacts,
    (pass.build [] declarations none writer?).outcome = .ok artifacts → ∀ writer'?,
    HandedOut writer'? (artifacts.filter (·.functionName = name))
      (pass.build [] declarations (some name) writer'?).toEnding
  /-- So it is whatever the numbers of workers and the schedules of the two builds are. -/
  scheduled : ∀ workers workers' whole part last last' outcomes outcomes' artifacts,
    pass.select declarations none = .ok whole →
    pass.select declarations (some name) = .ok part →
    Pool.Leads (pass.withWorkers workers) pass.probe (Pool.start [] whole) last →
    Pool.Leads (pass.withWorkers workers') pass.probe (Pool.start [] part) last' →
    last.outcomes? = some outcomes → last'.outcomes? = some outcomes' →
    collect outcomes = .ok artifacts →
    collect outcomes' = .ok (artifacts.filter (·.functionName = name))

/-- A build of selected functions ends as their outcomes alone say. -/
theorem build_toEnding {only : Option String} (h : pass.select declarations only = .ok selected) :
    (pass.build [] declarations only writer?).toEnding =
      conclude writer? (selected.map fun d => (d, pass.alone d)) := by
  rw [build, h, ← outcomesOf_buildEach]
  rfl

/-- A name that selects functions is borne by one. -/
theorem exists_named_of_select (h : pass.select declarations (some name) = .ok selected) :
    ∃ d ∈ declarations, d.name = name := by
  by_contra hnone
  push Not at hnone
  rw [select_of_undeclared hnone] at h
  cases h

/-- **A build that is restricted to a name is the whole build, restricted to that name**: only names
that no function bears are unknown, and where the whole build succeeds, so does the restricted one,
with the artifacts that bear the name, in the same order. -/
theorem build_restricted (pass : BuildPass) (declarations : List Declaration) (name : String) :
    RestrictionLaw pass declarations name := by
  refine ⟨fun hnone memory writer? => ?_, fun writer? other h => ?_,
    fun hnamed hunneeded memory writer? => ?_, fun hnamed memory writer? => ?_,
    fun hnamed writer? artifacts hok writer'? => ?_, ?_⟩
  · rw [build, select_of_undeclared hnone]
  · by_cases hnamed : ∃ d ∈ declarations, d.name = name
    · rw [build_toEnding (select_of_named hnamed)] at h
      rcases conclude_eq_error h with ⟨d, hd⟩ | ⟨reason, hreason⟩
      · obtain ⟨d', -, ho⟩ := List.mem_map.1 hd
        exact .inr (exists_classify_of_alone (Prod.mk.inj ho).2)
      · cases hreason
    · push Not at hnamed
      rw [build, select_of_undeclared hnamed] at h
      cases h
      exact .inl ⟨rfl, hnamed⟩
  · have hnone : (declarations.filter pass.needsPipeline).filter (·.name = name) = [] := by
      rw [List.filter_eq_nil_iff]
      intro d hd hname
      obtain ⟨hd, hneeds⟩ := List.mem_filter.1 hd
      rw [hunneeded d hd (of_decide_eq_true hname)] at hneeds
      cases hneeds
    rw [build, select_of_named hnamed, hnone]
    exact ⟨by cases writer? <;> rfl, by cases writer? <;> rfl, rfl⟩
  · rw [build, build, select_filter_name hnamed]
  · have hwhole : pass.select declarations none = .ok (declarations.filter pass.needsPipeline) :=
      rfl
    rw [build_toEnding hwhole] at hok
    have hcollect := collect_of_conclude_eq_ok hok
    rw [build_toEnding (select_of_named hnamed)]
    exact conclude_handedOut (collect_alone_filter_name hcollect)
  · intro workers workers' whole part last last' outcomes outcomes' artifacts hwhole hpart hleads
      hleads' houtcomes houtcomes' hcollect
    rw [select_of_named (exists_named_of_select hpart)] at hpart
    cases hwhole
    cases hpart
    rw [Pool.outcomes?_of_leads hleads houtcomes] at hcollect
    rw [Pool.outcomes?_of_leads hleads' houtcomes']
    exact collect_alone_filter_name hcollect

end BuildPass

end HandlerPipeline

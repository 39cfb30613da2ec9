import HandlerPipeline.Proofs.BuildPass.AllOrNothing
import HandlerPipeline.Proofs.BuildPass.Naming
import HandlerPipeline.Proofs.Descriptor.Merging
import Mathlib.Data.List.ReduceOption

/-!
# What is deployed

A pass leaves functions alone that nobody asks a pipeline for, and those whose pipeline turns out to
be empty. The first is decided before hooks are merged, the second after, and neither looks at what
the other does. Together they leave no step out: a function gets no artifact only where all hooks
and all arrays of steps that concern it are empty, so that it has its single handler at most
(`Declaration.IsPlain`). Every other function gets an artifact of all its raw steps. `IsDeployment`
says this of one function, and `build_deploys` of every build that succeeds.
-/

namespace HandlerPipeline

namespace Declaration

/-- The raw steps that the pipeline of a function is read from: the service's go around its own,
unless the function's hooks replace them. -/
def rawSteps (d : Declaration) (s : Settings) : Except BuildError (List Value) :=
  if d.meetsHooks s && s.hookMerge == .refuse then
    .error (.conflictingHandler d.name BuildError.unmergedHooks)
  else
    d.ownSteps.map fun own =>
      if d.meetsHooks s && s.hookMerge == .override then own else s.before ++ own ++ s.after

/-- A pipeline is asked for: by hooks of the service, by the function's middleware, or by an array
in the place of its handler. -/
def AsksForPipeline (d : Declaration) (s : Settings) : Prop :=
  s.hasHooks = true ∨ d.middleware ≠ .absent ∨ ∃ raw, d.handler = .steps raw

/-- The function is one to deploy: a pipeline is asked for, and it has raw steps. -/
def IsToDeploy (d : Declaration) (s : Settings) : Prop :=
  d.AsksForPipeline s ∧ ∃ raw, d.rawSteps s = .ok raw ∧ raw ≠ []

/-- All hooks and all arrays of steps that concern the function are empty. -/
structure IsPlain (d : Declaration) (s : Settings) : Prop where
  service : s.before = [] ∧ s.after = []
  hooks : ∀ h, d.middleware = .hooks h → h.before = [] ∧ h.after = []
  middleware : ∀ raw, d.middleware = .steps raw → raw = []
  handler : ∀ raw, d.handler = .steps raw → raw = []

variable {d : Declaration} {s : Settings}

/-! ## Raw steps -/

/-- The steps of a function's pipeline are read from its raw steps, one from each. -/
theorem pipeline_eq_ok_iff {p : Pipeline} : d.pipeline s = .ok p ↔
    ∃ raw, d.rawSteps s = .ok raw ∧ p.functionName = d.name ∧
      List.Forall₂ Step.IsReadFrom raw p.steps := by
  unfold pipeline rawSteps
  split
  · simp
  · cases d.ownSteps with
    | error e => simp [Except.map]
    | ok own =>
      dsimp only [Except.map]
      split <;> simp [Pipeline.assemble_eq_ok_iff]

/-- Own steps are missing only where all hooks and arrays of the function are empty. -/
theorem eq_nil_of_ownSteps (h : d.ownSteps = .ok []) :
    (∀ h, d.middleware = .hooks h → h.before = [] ∧ h.after = []) ∧
      (∀ raw, d.middleware = .steps raw → raw = []) ∧
      ∀ raw, d.handler = .steps raw → raw = [] := by
  obtain ⟨name, handler, middleware, others⟩ := d
  cases middleware <;> cases handler <;> simp_all [ownSteps]

/-- Such a function has no hooks that could meet those of the service. -/
theorem meetsHooks_of_ownSteps (h : d.ownSteps = .ok []) : d.meetsHooks s = false := by
  rw [Bool.eq_false_iff, ne_eq, meetsHooks_iff]
  rintro ⟨⟨hooks, hhooks, hne⟩, -⟩
  unfold hooks? at hhooks
  split at hhooks
  · next h' hmiddleware =>
    cases hhooks
    obtain ⟨hbefore, hafter⟩ := (eq_nil_of_ownSteps h).1 _ hmiddleware
    simp [Hooks.isEmpty, hbefore, hafter] at hne
  · cases hhooks

/-- Without raw steps, all hooks and arrays are empty. -/
theorem isPlain_of_rawSteps_nil (h : d.rawSteps s = .ok []) : d.IsPlain s := by
  unfold rawSteps at h
  split at h
  · cases h
  · obtain ⟨own, hown, hnil⟩ := map_eq_ok_iff.1 h
    have hnone : own = [] := by
      split at hnil
      · exact hnil
      · simp_all
    subst hnone
    rw [meetsHooks_of_ownSteps hown] at hnil
    obtain ⟨hhooks, hmiddleware, hhandler⟩ := eq_nil_of_ownSteps hown
    exact ⟨by simpa using hnil, hhooks, hmiddleware, hhandler⟩

/-- Where no pipeline is asked for, all hooks and arrays are empty, and the raw steps are the
handler. -/
theorem rawSteps_of_not_asksForPipeline (h : ¬ d.AsksForPipeline s) :
    d.IsPlain s ∧ d.rawSteps s = .ok d.handlerSteps := by
  simp only [AsksForPipeline, not_or, not_not, not_exists, Bool.not_eq_true] at h
  obtain ⟨hservice, hmiddleware, hhandler⟩ := h
  have hnone : s.before = [] ∧ s.after = [] := by simpa [Settings.hasHooks] using hservice
  refine ⟨⟨hnone, ?_, ?_, fun raw hraw => absurd hraw (hhandler raw)⟩, ?_⟩
  · simp [hmiddleware]
  · simp [hmiddleware]
  · have hmeets : d.meetsHooks s = false := by simp [meetsHooks, hooks?, hmiddleware]
    have hown : d.ownSteps = .ok d.handlerSteps := by
      unfold ownSteps
      split <;> simp_all
    simp [rawSteps, hmeets, hown, hnone, Except.map]

/-- The handler is no raw step, or one. -/
theorem handlerSteps_cases (d : Declaration) :
    d.handlerSteps = [] ∨ ∃ ref, d.handler = .single ref ∧ d.handlerSteps = [.text ref] := by
  unfold handlerSteps
  split
  · next ref href =>
    split
    · exact .inl rfl
    · exact .inr ⟨ref, href, rfl⟩
  · exact .inl rfl

end Declaration

namespace BuildPass

variable {pass : BuildPass} {d : Declaration} {declarations : List Declaration}
  {outcomes : List (Declaration × Outcome)} {artifacts : List Artifact}
  {resolves : Pipeline → Except Failure Variant → Prop}

/-- What a build that succeeds gives for a function with these raw steps: an artifact, or none. -/
structure IsDeployment (pass : BuildPass) (d : Declaration) (raw : List Value)
    (artifact? : Option Artifact) : Prop where
  merged : d.rawSteps pass.settings = .ok raw
  /-- An artifact is given where a pipeline is asked for and there are raw steps, and only there. -/
  deployed_iff : artifact?.isSome = true ↔ d.AsksForPipeline pass.settings ∧ raw ≠ []
  /-- It is written of all raw steps: its source is the one that is emitted for the pipeline that is
  read from them, in the artifact's variant. -/
  written : ∀ a, artifact? = some a → IsNamedFor pass d a ∧ a.stepCount = raw.length ∧
    ∃ p, p.functionName = d.name ∧ List.Forall₂ Step.IsReadFrom raw p.steps ∧
      (pass.write p a.variant).1 = .ok a ∧ ∃ logged,
        Artifact.emit pass.config.checksSource a.variant pass.config.importBase p =
          .ok (a.source, logged)
  /-- Where there is none, all hooks and arrays are empty, and so are the raw steps, but for the
  function's single handler. -/
  skipped : artifact? = none → d.IsPlain pass.settings ∧
    (raw = [] ∨ ∃ ref, d.handler = .single ref ∧ raw = [.text ref])

/-- The artifacts are those of the functions that are deployed, in the order of the declarations;
each of the others has none. -/
def AreDeployed (pass : BuildPass) (declarations : List Declaration) (artifacts : List Artifact) :
    Prop :=
  ∃ assigned : List (Option Artifact),
    List.Forall₂ (fun d artifact? => ∃ raw, IsDeployment pass d raw artifact?) declarations
      assigned ∧ assigned.reduceOption = artifacts

/-! ## One function -/

/-- The functions that need a pipeline are those that ask for one. -/
theorem needsPipeline_iff :
    pass.needsPipeline d = true ↔ d.AsksForPipeline pass.settings := by
  unfold needsPipeline Declaration.saysMiddleware Declaration.declaresSteps
    Declaration.AsksForPipeline
  cases d.middleware <;> cases d.handler <;> simp

/-- A function that needs no pipeline is left alone. -/
theorem isDeployment_of_unneeded (h : pass.needsPipeline d = false) :
    ∃ raw, IsDeployment pass d raw none := by
  have hasks : ¬ d.AsksForPipeline pass.settings := by
    rw [← needsPipeline_iff, h]
    exact Bool.false_ne_true
  obtain ⟨hplain, hraw⟩ := Declaration.rawSteps_of_not_asksForPipeline hasks
  refine ⟨d.handlerSteps, hraw, ?_, nofun, fun _ => ⟨hplain, d.handlerSteps_cases⟩⟩
  exact iff_of_false Bool.false_ne_true fun hboth => hasks hboth.1

/-- What is written of a pipeline counts its steps, and has the source that is emitted for it. -/
theorem emitted_of_write {p : Pipeline} {v : Variant} {a : Artifact}
    (h : (pass.write p v).1 = .ok a) : a.stepCount = p.steps.length ∧ a.variant = v ∧ ∃ logged,
      Artifact.emit pass.config.checksSource v pass.config.importBase p =
        .ok (a.source, logged) := by
  unfold write at h
  dsimp only at h
  split at h
  · cases h
  · next source logged hemit =>
    cases h
    exact ⟨rfl, rfl, logged, hemit⟩

/-- A function that needs a pipeline, and does not fail, is deployed where it has raw steps. -/
theorem MayEnd.isDeployment {artifact? : Option Artifact} (hneeds : pass.needsPipeline d = true)
    (h : MayEnd pass resolves d (.ok artifact?)) : ∃ raw, IsDeployment pass d raw artifact? := by
  have hasks : d.AsksForPipeline pass.settings := needsPipeline_iff.1 hneeds
  generalize houtcome : (.ok artifact? : Outcome) = outcome at h
  cases h with
  | misdeclared => cases houtcome
  | unresolved => cases houtcome
  | @empty p hassemble hempty =>
    cases houtcome
    obtain ⟨raw, hraw, -, hread⟩ := Declaration.pipeline_eq_ok_iff.1 hassemble
    obtain rfl : raw = [] := by
      rw [List.isEmpty_iff.1 hempty] at hread
      exact List.forall₂_nil_right_iff.1 hread
    refine ⟨[], hraw, ?_, nofun, fun _ => ⟨Declaration.isPlain_of_rawSteps_nil hraw, .inl rfl⟩⟩
    exact iff_of_false Bool.false_ne_true fun hboth => hboth.2 rfl
  | @written p v hruns hv =>
    obtain ⟨a, hwrite, ha⟩ := map_eq_ok_iff.1 houtcome.symm
    cases ha
    obtain ⟨raw, hraw, hname, hread⟩ := Declaration.pipeline_eq_ok_iff.1 hruns.1
    have hne : raw ≠ [] := by
      rintro rfl
      have hempty := hruns.2
      rw [Pipeline.isEmpty, List.forall₂_nil_left_iff.1 hread] at hempty
      cases hempty
    refine ⟨raw, hraw, iff_of_true rfl ⟨hasks, hne⟩, ?_, nofun⟩
    rintro _ ⟨⟩
    obtain ⟨hcount, rfl, hemitted⟩ := emitted_of_write hwrite
    exact ⟨isNamedFor_of_write hname hwrite, hcount.trans hread.length_eq.symm, p, hname, hread,
      hwrite, hemitted⟩

/-! ## All functions -/

/-- The artifacts that are collected are those of the functions that are deployed. -/
theorem areDeployed_of_collect
    (hselected : outcomes.map Prod.fst = declarations.filter pass.needsPipeline)
    (hend : ∀ o ∈ outcomes, MayEnd pass resolves o.1 o.2) (h : collect outcomes = .ok artifacts) :
    AreDeployed pass declarations artifacts := by
  induction declarations generalizing outcomes artifacts with
  | nil =>
    obtain rfl : outcomes = [] := List.map_eq_nil_iff.1 hselected
    cases h
    exact ⟨[], .nil, rfl⟩
  | cons d rest ih =>
    cases hneeds : pass.needsPipeline d with
    | false =>
      rw [List.filter_cons_of_neg (by simp [hneeds])] at hselected
      obtain ⟨assigned, hassigned, rfl⟩ := ih hselected hend h
      exact ⟨none :: assigned, .cons (isDeployment_of_unneeded hneeds) hassigned,
        List.reduceOption_cons_of_none assigned⟩
    | true =>
      rw [List.filter_cons_of_pos hneeds] at hselected
      obtain ⟨⟨_, outcome⟩, others, rfl, rfl, hothers⟩ := List.map_eq_cons_iff.1 hselected
      cases outcome with
      | error f => cases h
      | ok artifact? =>
        obtain ⟨later, hlater, rfl⟩ := map_eq_ok_iff.1 h
        obtain ⟨hfirst, hrest⟩ := List.forall_mem_cons.1 hend
        obtain ⟨assigned, hassigned, rfl⟩ := ih hothers hrest hlater
        refine ⟨artifact? :: assigned, .cons (hfirst.isDeployment hneeds) hassigned, ?_⟩
        cases artifact? <;> rfl

/-- A function has one list of raw steps, so it gets an artifact iff it is one to deploy. -/
theorem IsDeployment.isSome_iff {raw : List Value} {artifact? : Option Artifact}
    (h : IsDeployment pass d raw artifact?) :
    artifact?.isSome = true ↔ d.IsToDeploy pass.settings := by
  rw [h.deployed_iff, Declaration.IsToDeploy, h.merged]
  simp

/-- So a name is that of an artifact iff a function that bears it is one to deploy. -/
theorem AreDeployed.exists_named_iff (h : AreDeployed pass declarations artifacts) (name : String) :
    (∃ a ∈ artifacts, a.functionName = name) ↔
      ∃ d ∈ declarations, d.name = name ∧ d.IsToDeploy pass.settings := by
  obtain ⟨assigned, hassigned, rfl⟩ := h
  induction hassigned with
  | nil => simp
  | @cons d artifact? rest assigned hfirst _ ih =>
    obtain ⟨raw, hdeployment⟩ := hfirst
    have hdeployed := hdeployment.isSome_iff
    rw [List.exists_mem_cons_iff, ← ih, ← hdeployed]
    cases artifact? with
    | none => simp [List.reduceOption_cons_of_none]
    | some a =>
      have hname : a.functionName = d.name := (hdeployment.written a rfl).1.functionName
      simp [List.reduceOption_cons_of_some, hname]

/-- What is said of the artifacts of a build. -/
structure DeploymentLaw (pass : BuildPass) (declarations : List Declaration) : Prop where
  /-- A build that succeeds deploys the functions, whatever is remembered at first. -/
  inOrder : ∀ memory writer? artifacts,
    (pass.build memory declarations none writer?).outcome = .ok artifacts →
    AreDeployed pass declarations artifacts
  /-- So it does when functions are built at the same time, however they take turns and whatever the
  probe answers at each turn. -/
  scheduled : ∀ memory selected turns last outcomes artifacts,
    pass.select declarations none = .ok selected →
    (Pool.start memory selected).run pass turns = some last → last.outcomes? = some outcomes →
    collect outcomes = .ok artifacts → AreDeployed pass declarations artifacts
  /-- A build that is restricted to a name deploys the functions that bear it. -/
  restricted : ∀ name memory writer? artifacts,
    (pass.build memory declarations (some name) writer?).outcome = .ok artifacts →
    AreDeployed pass (declarations.filter (·.name = name)) artifacts
  /-- A name is that of an artifact iff a function that bears it is one to deploy. -/
  named : ∀ memory writer? artifacts,
    (pass.build memory declarations none writer?).outcome = .ok artifacts → ∀ name,
    (∃ a ∈ artifacts, a.functionName = name) ↔
      ∃ d ∈ declarations, d.name = name ∧ d.IsToDeploy pass.settings

/-- A build of selected functions that succeeds deploys those they are selected from. -/
theorem areDeployed_of_build {memory : Resolved} {only : Option String} {writer? : Option Writer}
    {named : List Declaration}
    (hselect : pass.select declarations only = .ok (named.filter pass.needsPipeline))
    (h : (pass.build memory declarations only writer?).outcome = .ok artifacts) :
    AreDeployed pass named artifacts := by
  rw [build, hselect] at h
  obtain ⟨last, ⟨turns, -, hrun⟩, houtcomes, -⟩ :=
    Pool.leads_buildEach pass memory (named.filter pass.needsPipeline)
  exact areDeployed_of_collect (Pool.declarations_outcomes? hrun houtcomes)
    (Pool.mayEnd_of_outcomes? hrun houtcomes) (collect_of_conclude_eq_ok h)

/-- **Leaving functions alone leaves no step out.** In a build that succeeds, each function either
gets an artifact of all its raw steps, or all hooks and arrays that concern it are empty. -/
theorem build_deploys (pass : BuildPass) (declarations : List Declaration) :
    DeploymentLaw pass declarations := by
  refine ⟨fun memory writer? artifacts h => areDeployed_of_build rfl h, ?_, ?_,
    fun memory writer? artifacts h => (areDeployed_of_build rfl h).exists_named_iff⟩
  · rintro memory _ turns last outcomes artifacts ⟨⟩ hrun houtcomes h
    exact areDeployed_of_collect (Pool.declarations_outcomes? hrun houtcomes)
      (Pool.mayEnd_of_outcomes? hrun houtcomes) h
  · intro name memory writer? artifacts h
    cases hmatching : declarations.filter (·.name = name) with
    | nil =>
      rw [build, select, hmatching] at h
      cases h
    | cons first others =>
      refine areDeployed_of_build ?_ h
      rw [select, hmatching]

/-- Of three functions one is left alone, one has an empty array, and one has a hook. -/
example :
    let pass : BuildPass := ⟨.default, .default, .ofTable [("m", some .plain)]⟩
    let declarations : List Declaration :=
      [⟨"a", .single "m.f", .absent, []⟩, ⟨"b", .absent, .steps [], []⟩,
        ⟨"c", .single "m.f", .hooks ⟨[.text "m.g"], []⟩, []⟩]
    (pass.build [] declarations none none).outcome.toOption.map
      (·.map fun a => (a.functionName, a.stepCount)) = some [("c", 2)] := by
  rfl

end BuildPass

end HandlerPipeline

import HandlerPipeline.Proofs.BuildPass.InOrder
import HandlerPipeline.Proofs.BuildPass.Progress

/-!
# Builds do not depend on schedules

Functions that are built at the same time meet in what the pass remembers. When nothing is
remembered at the start and the probe does not change its mind, everything that is remembered later
is what the probe finds (`Pool.lookup_of_leads`). So it makes no difference to a function whether it
has asked the probe itself, and what comes of it is what comes of it alone (`Pool.outcome_of_leads`).
The end of a build is a function of the outcomes, so it is the same for all schedules and all numbers
of workers (`build_scheduling`).
-/

namespace HandlerPipeline.BuildPass

/-- The pass with so many workers. -/
def withWorkers (pass : BuildPass) (workers : Workers) : BuildPass :=
  { pass with config := { pass.config with workers } }

/-- What comes of a function alone, in a pass of its own. -/
def alone (pass : BuildPass) (d : Declaration) : Outcome := (pass.buildFunction [] d).outcome

variable {pass : BuildPass} {workers : Workers} {selected : List Declaration} {d : Declaration}

namespace Pool

variable {last : Pool}

/-- A pool that begins with nothing remembered only ever holds what the probe says. -/
theorem sound_of_leads
    (hleads : Leads (pass.withWorkers workers) pass.probe (start [] selected) last) :
    Sound (pass.withWorkers workers) (.of pass.probe) last := by
  obtain ⟨turns, hprobe, hrun⟩ := hleads
  refine (sound_start (Answers.of_cover_nil pass.probe)).run (fun turn hmem => ?_) hrun
  rw [hprobe turn hmem]
  exact Answers.of_include pass.probe

/-- What is remembered about a pipeline is the variant that the probe finds. -/
theorem lookup_of_leads
    (hleads : Leads (pass.withWorkers workers) pass.probe (start [] selected) last)
    {p : Pipeline} {v : Variant} (hlookup : last.memory.lookup p = some v) :
    pass.probe.variant p = .ok v :=
  ((sound_of_leads hleads).memory p v hlookup).symm

/-- What comes of a function is what comes of it alone. -/
theorem outcome_of_leads
    (hleads : Leads (pass.withWorkers workers) pass.probe (start [] selected) last)
    {outcome : Outcome} (hbuilt : (d, .built outcome) ∈ last.tasks) : outcome = pass.alone d := by
  have hend : outcome = (pass.withWorkers workers).outcomeBy pass.probe.variant d :=
    mayEnd_iff.1 ((sound_of_leads hleads).mayEnd hbuilt)
  rw [hend, alone, buildFunction_nil_outcome]
  rfl

/-- When all functions are built, each has come to what comes of it alone. -/
theorem outcomes?_of_leads
    (hleads : Leads (pass.withWorkers workers) pass.probe (start [] selected) last)
    {outcomes : List (Declaration × Outcome)} (houtcomes : last.outcomes? = some outcomes) :
    outcomes = selected.map fun d => (d, pass.alone d) := by
  have hdeclarations : outcomes.map Prod.fst = selected := by
    obtain ⟨turns, -, hrun⟩ := hleads
    exact declarations_outcomes? hrun houtcomes
  have halone : ∀ o ∈ outcomes, id o = (o.1, pass.alone o.1) := fun o ho =>
    Prod.ext rfl (outcome_of_leads hleads (mem_tasks_of_outcomes? houtcomes ho))
  calc
    outcomes = outcomes.map id := (List.map_id outcomes).symm
    _ = outcomes.map fun o => (o.1, pass.alone o.1) := List.map_congr_left halone
    _ = (outcomes.map Prod.fst).map fun d => (d, pass.alone d) := by rw [List.map_map]; rfl
    _ = selected.map fun d => (d, pass.alone d) := by rw [hdeclarations]

end Pool

/-- Building in order, too, brings each function to what comes of it alone. -/
theorem outcomesOf_buildEach (pass : BuildPass) (selected : List Declaration) :
    outcomesOf (pass.buildEach [] selected) = selected.map fun d => (d, pass.alone d) := by
  obtain ⟨finished, hleads, houtcomes, -⟩ := Pool.leads_buildEach pass [] selected
  exact @Pool.outcomes?_of_leads pass pass.config.workers selected finished hleads _ houtcomes

/-- What is said of builds that begin with nothing remembered, with any number of workers and any
schedule. -/
structure SchedulingLaw (pass : BuildPass) : Prop where
  /-- What comes of a function is what comes of it alone. -/
  outcome : ∀ workers selected last d outcome,
    Pool.Leads (pass.withWorkers workers) pass.probe (Pool.start [] selected) last →
    (d, .built outcome) ∈ last.tasks → outcome = pass.alone d
  /-- What is remembered about a pipeline is what the probe finds. -/
  remembered : ∀ workers selected last p v,
    Pool.Leads (pass.withWorkers workers) pass.probe (Pool.start [] selected) last →
    last.memory.lookup p = some v → pass.probe.variant p = .ok v
  /-- Other functions make no difference to a function. -/
  independent : ∀ workers workers' selected selected' last last' d outcome outcome',
    Pool.Leads (pass.withWorkers workers) pass.probe (Pool.start [] selected) last →
    Pool.Leads (pass.withWorkers workers') pass.probe (Pool.start [] selected') last' →
    (d, .built outcome) ∈ last.tasks → (d, .built outcome') ∈ last'.tasks → outcome = outcome'
  /-- The build ends the same way: with the same artifacts or the same failure, and with the same
  calls of the writer. -/
  ending : ∀ workers declarations only writer? selected last outcomes,
    pass.select declarations only = .ok selected →
    Pool.Leads (pass.withWorkers workers) pass.probe (Pool.start [] selected) last →
    last.outcomes? = some outcomes →
    outcomes = (selected.map fun d => (d, pass.alone d)) ∧
      conclude writer? outcomes = (pass.build [] declarations only writer?).toEnding
  /-- Schedules are bounded, and each can be carried on until all functions are built. -/
  ends : ∀ workers selected, ∃ bound, ∀ turns last,
    (Pool.start [] selected).run (pass.withWorkers workers) turns = some last →
    turns.length ≤ bound ∧ ∃ finished outcomes,
      Pool.Leads (pass.withWorkers workers) pass.probe last finished ∧
        finished.outcomes? = some outcomes

/-- **Builds do not depend on schedules, on the number of workers, or on other functions**: in a
pass that remembers nothing at first and whose probe does not change its mind, what comes of a
function is what comes of it alone. -/
theorem build_scheduling (pass : BuildPass) : SchedulingLaw pass := by
  refine ⟨fun _ _ _ _ _ hleads hbuilt => Pool.outcome_of_leads hleads hbuilt,
    fun _ _ _ _ _ hleads hlookup => Pool.lookup_of_leads hleads hlookup, ?_, ?_, ?_⟩
  · intro workers workers' selected selected' last last' d outcome outcome' hleads hleads' hbuilt
      hbuilt'
    rw [Pool.outcome_of_leads hleads hbuilt, Pool.outcome_of_leads hleads' hbuilt']
  · intro workers declarations only writer? selected last outcomes hselect hleads houtcomes
    have hall := Pool.outcomes?_of_leads hleads houtcomes
    refine ⟨hall, ?_⟩
    rw [hall, ← outcomesOf_buildEach, build, hselect]
    rfl
  · intro workers selected
    refine ⟨(Pool.start [] selected).left (pass.withWorkers workers), fun turns last hrun =>
      ⟨?_, Pool.exists_finish _ last pass.probe⟩⟩
    exact Nat.le_of_add_right_le (Pool.length_add_left_le hrun)

end HandlerPipeline.BuildPass

import HandlerPipeline.Proofs.BuildPass.Turns

/-!
# Building in order is a schedule

Functions that are built one after the other are built by a schedule: its turns take the first
function from stage to stage until something has come of it, then the second, and so on
(`Pool.leads_buildEach`). Each comes to what `buildFunction` says, given what those before it have
left to be remembered.
-/

namespace HandlerPipeline.BuildPass.Pool

variable {pass : BuildPass} {before behind : List (Declaration × Stage)} {memory : Resolved}
  {d : Declaration} {probe : Probe}

/-- A function that may go on is taken one stage further. -/
theorem leads_proceed {stage : Stage}
    (hmay : Pool.mayProceed ⟨before ++ (d, stage) :: behind, memory⟩
      pass.config.workers.effective stage = true) :
    Leads pass probe ⟨before ++ (d, stage) :: behind, memory⟩
      ⟨before ++ (d, (pass.proceed probe memory d stage).1) :: behind,
        (pass.proceed probe memory d stage).2⟩ :=
  @Leads.of_after pass _ _ ⟨before.length, probe⟩ <|
    after_eq_some_iff.2 ⟨before, d, stage, behind, rfl, rfl, hmay, rfl⟩

/-- The stage that probing leads to. -/
def probed (p : Pipeline) : Except Failure Variant → Stage
  | .ok v => .found p v
  | .error f => .built (.error f)

/-- The paths that are still to be probed are probed in order. -/
theorem leads_probing {p : Pipeline} {best : Variant} {paths : List String} :
    Leads pass probe ⟨before ++ (d, .probing p best paths) :: behind, memory⟩
      ⟨before ++ (d, probed p (probe.strictest best paths)) :: behind, memory⟩ := by
  induction paths generalizing best with
  | nil => exact leads_proceed rfl
  | cons path rest ih =>
    refine (leads_proceed rfl).trans ?_
    rw [BuildPass.proceed, Probe.strictest]
    cases probe.moduleVariant path with
    | ok v => exact ih
    | error f => exact .refl

/-- The stage that resolving leads to. -/
def settled (p : Pipeline) : Except Failure Variant → Stage
  | .ok v => .resolved p v
  | .error f => .built (.error f)

/-- A pipeline is resolved. -/
theorem leads_assembled {p : Pipeline} :
    Leads pass probe ⟨before ++ (d, .assembled p) :: behind, memory⟩
      ⟨before ++ (d, settled p (memory.resolve probe p).outcome) :: behind,
        (memory.resolve probe p).memory⟩ := by
  refine (leads_proceed rfl).trans ?_
  rw [BuildPass.proceed, Resolved.resolve]
  cases memory.lookup p with
  | some v => exact .refl
  | none =>
    refine leads_probing.trans ?_
    rw [Probe.variant]
    cases probe.strictest .weakest p.modulePaths with
    | ok v => exact leads_proceed rfl
    | error f => exact .refl

/-- A function that idle workers take up is built. -/
theorem leads_buildFunction
    (hidle : Pool.running ⟨before ++ (d, .waiting) :: behind, memory⟩ = 0) :
    Leads pass pass.probe ⟨before ++ (d, .waiting) :: behind, memory⟩
      ⟨before ++ (d, .built (pass.buildFunction memory d).outcome) :: behind,
        (pass.buildFunction memory d).memory⟩ := by
  refine (leads_proceed (mayProceed_waiting_of_idle hidle)).trans ?_
  rw [BuildPass.proceed, buildFunction]
  cases pass.assemble d with
  | error e => exact .refl
  | ok p =>
    dsimp only
    cases p.isEmpty with
    | true => exact .refl
    | false =>
      refine leads_assembled.trans ?_
      simp only [Bool.false_eq_true, if_false]
      cases (memory.resolve pass.probe p).outcome with
      | error f => exact .refl
      | ok v => exact leads_proceed rfl

/-- What is remembered after the first function is what the others begin with. -/
theorem memoryAfter_cons {b : Declaration × FunctionBuild}
    {builds : List (Declaration × FunctionBuild)} :
    memoryAfter memory (b :: builds) = memoryAfter b.2.memory builds := by
  cases builds with
  | nil => rfl
  | cons c rest => simp only [memoryAfter, List.getLast?_cons, Option.getD_some]

/-- The functions that are left are built one after the other. -/
theorem leads_built_buildEach {done : List (Declaration × Outcome)}
    {declarations : List Declaration} :
    Leads pass pass.probe
      ⟨(done.map fun o => (o.1, Stage.built o.2)) ++ (start memory declarations).tasks, memory⟩
      ⟨(done ++ outcomesOf (pass.buildEach memory declarations)).map fun o =>
          (o.1, Stage.built o.2),
        memoryAfter memory (pass.buildEach memory declarations)⟩ := by
  induction declarations generalizing done memory with
  | nil =>
    simpa [start, outcomesOf, buildEach, memoryAfter] using Leads.refl
  | cons d rest ih =>
    -- The functions before are done, so the workers are idle when they come to this one.
    have hidle : Pool.running ⟨(done.map fun o => (o.1, Stage.built o.2)) ++
        (d, .waiting) :: (start memory rest).tasks, memory⟩ = 0 := by
      simp [running, start, Stage.isUnderWay]
    refine (leads_buildFunction hidle).trans ?_
    rw [buildEach, memoryAfter_cons]
    simpa [outcomesOf, start] using @ih (pass.buildFunction memory d).memory
      (done ++ [(d, (pass.buildFunction memory d).outcome)])

/-- Functions that are built one after the other are built by a schedule. -/
theorem leads_buildEach (pass : BuildPass) (memory : Resolved) (declarations : List Declaration) :
    ∃ last, Leads pass pass.probe (start memory declarations) last ∧
      last.outcomes? = some (outcomesOf (pass.buildEach memory declarations)) ∧
      last.memory = memoryAfter memory (pass.buildEach memory declarations) :=
  ⟨_, @leads_built_buildEach pass memory [] declarations, outcomes?_eq_some_iff.2 rfl, rfl⟩

end HandlerPipeline.BuildPass.Pool

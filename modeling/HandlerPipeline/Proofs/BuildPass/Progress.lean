import HandlerPipeline.Proofs.BuildPass.Turns
import Mathlib.Algebra.GroupWithZero.Nat
import Mathlib.Data.Set.List

/-!
# Every schedule ends

Each turn takes a function closer to its outcome (`Stage.left_proceed`), so a schedule has at most
as many turns as its functions need (`Pool.length_add_left_le`). And as long as a function is not
built, some function may go on: one that is being built, or else one that idle workers take up
(`Pool.exists_after`). So every schedule can be carried on until all functions are built
(`Pool.exists_finish`).
-/

namespace HandlerPipeline.BuildPass

variable {pass : BuildPass}

/-- The turns that a function at that stage still needs, at most. -/
def Stage.left (pass : BuildPass) (d : Declaration) : Stage → Nat
  | waiting =>
    match pass.assemble d with
    | .ok p => p.modulePaths.length + 5
    | .error _ => 1
  | assembled p => p.modulePaths.length + 4
  | probing _ _ paths => paths.length + 3
  | found _ _ => 2
  | resolved _ _ => 1
  | built _ => 0

/-- A function that is not built needs fewer turns after a turn. -/
theorem Stage.left_proceed {probe : Probe} {memory : Resolved} {d : Declaration} {stage : Stage}
    (hopen : stage.outcome? = none) :
    (pass.proceed probe memory d stage).1.left pass d < stage.left pass d := by
  cases stage with
  | waiting =>
    cases h : pass.assemble d with
    | error e => simp [BuildPass.proceed, h, left]
    | ok p => cases hempty : p.isEmpty <;> simp [BuildPass.proceed, h, hempty, left]
  | assembled p => cases h : memory.lookup p <;> simp [BuildPass.proceed, h, left]
  | probing p best paths =>
    cases paths with
    | nil => simp [BuildPass.proceed, left]
    | cons path rest => cases h : probe.moduleVariant path <;> simp [BuildPass.proceed, h, left]
  | found p v => simp [BuildPass.proceed, left]
  | resolved p v => simp [BuildPass.proceed, left]
  | built outcome => cases hopen

namespace Pool

variable {pool last next : Pool} {turn : Turn} {turns : List Turn}

/-- The turns that the functions still need, at most. -/
def left (pass : BuildPass) (pool : Pool) : Nat :=
  (pool.tasks.map fun task => task.2.left pass task.1).sum

/-- A function that may go on is not built. -/
theorem outcome?_eq_none_of_mayProceed {workers : Workers} {stage : Stage}
    (h : pool.mayProceed workers stage = true) : stage.outcome? = none := by
  cases stage with
  | built outcome => cases h
  | _ => rfl

/-- The functions need fewer turns after a turn. -/
theorem left_after (h : pool.after pass turn = some next) : next.left pass < pool.left pass := by
  obtain ⟨before, d, stage, behind, htasks, -, hmay, rfl⟩ := after_eq_some_iff.1 h
  have hless : (pass.proceed turn.probe pool.memory d stage).1.left pass d < stage.left pass d :=
    Stage.left_proceed (outcome?_eq_none_of_mayProceed hmay)
  simp only [left, htasks, List.map_append, List.map_cons, List.sum_append, List.sum_cons]
  omega

/-- A schedule has at most as many turns as its functions need. -/
theorem length_add_left_le (hrun : pool.run pass turns = some last) :
    turns.length + last.left pass ≤ pool.left pass := by
  induction turns generalizing pool with
  | nil =>
    cases hrun
    simp
  | cons turn rest ih =>
    rw [run] at hrun
    split at hrun
    · next next hnext =>
      have hrest := ih hrun
      have hturn := left_after hnext
      rw [List.length_cons]
      omega
    · cases hrun

/-- A function that is being built may go on. -/
theorem mayProceed_of_isUnderWay {workers : Workers} {stage : Stage}
    (h : stage.isUnderWay = true) : pool.mayProceed workers stage = true := by
  cases stage with
  | waiting => cases h
  | built outcome => cases h
  | _ => rfl

/-- A turn is possible for a function that may go on. -/
theorem exists_after_of_mayProceed {d : Declaration} {stage : Stage} (probe : Probe)
    (hmem : (d, stage) ∈ pool.tasks)
    (hmay : pool.mayProceed pass.config.workers.effective stage = true) :
    ∃ place next, pool.after pass ⟨place, probe⟩ = some next := by
  obtain ⟨before, behind, htasks⟩ := List.append_of_mem hmem
  exact ⟨before.length, _, after_eq_some_iff.2 ⟨before, d, stage, behind, htasks, rfl, hmay, rfl⟩⟩

/-- Until all functions are built, one of them is not. -/
theorem exists_open (h : pool.outcomes? = none) :
    ∃ task ∈ pool.tasks, task.2.outcome? = none := by
  by_contra hnone
  have hbuilt : ∀ task ∈ pool.tasks,
      task ∈ Set.range fun o : Declaration × Outcome => (o.1, Stage.built o.2) := by
    rintro ⟨d, stage⟩ hmem
    cases stage with
    | built outcome => exact ⟨(d, outcome), rfl⟩
    | _ => exact absurd ⟨_, hmem, rfl⟩ hnone
  have hrange : pool.tasks ∈
      Set.range (List.map fun o : Declaration × Outcome => (o.1, Stage.built o.2)) := by
    rw [Set.range_list_map]
    exact hbuilt
  obtain ⟨outcomes, houtcomes⟩ := hrange
  cases h.symm.trans (outcomes?_eq_some_iff.2 houtcomes.symm)

/-- As long as a function is not built, some function may go on. -/
theorem exists_after (hopen : pool.outcomes? = none) (probe : Probe) :
    ∃ place next, pool.after pass ⟨place, probe⟩ = some next := by
  by_cases hrunning : ∃ task ∈ pool.tasks, task.2.isUnderWay = true
  · obtain ⟨⟨d, stage⟩, hmem, hunder⟩ := hrunning
    exact exists_after_of_mayProceed probe hmem (mayProceed_of_isUnderWay hunder)
  · have hidle : pool.running = 0 :=
      List.countP_eq_zero.2 fun task hmem hunder => hrunning ⟨task, hmem, hunder⟩
    obtain ⟨⟨d, stage⟩, hmem, hstage⟩ := exists_open hopen
    cases stage with
    | waiting => exact exists_after_of_mayProceed probe hmem (mayProceed_waiting_of_idle hidle)
    | built outcome => cases hstage
    | _ => exact absurd ⟨_, hmem, rfl⟩ hrunning

/-- Every pool can be carried on until all functions are built, whatever the probe. -/
theorem exists_finish (pass : BuildPass) (pool : Pool) (probe : Probe) :
    ∃ last outcomes, Leads pass probe pool last ∧ last.outcomes? = some outcomes := by
  -- Each turn leaves fewer turns to go, so the induction is on those that are left.
  induction hleft : pool.left pass using Nat.strong_induction_on generalizing pool with
  | _ left ih =>
    cases hopen : pool.outcomes? with
    | some outcomes => exact ⟨pool, outcomes, .refl, hopen⟩
    | none =>
      obtain ⟨place, next, hnext⟩ := exists_after hopen probe
      have hless : next.left pass < left := hleft ▸ left_after hnext
      obtain ⟨last, outcomes, hlast, houtcomes⟩ := ih _ hless next rfl
      exact ⟨last, outcomes, (Leads.of_after hnext).trans hlast, houtcomes⟩

end Pool

end HandlerPipeline.BuildPass

import HandlerPipeline.BuildPass.Pool
import HandlerPipeline.Proofs.BuildPass.Outcomes

/-!
# What schedules keep

A turn takes one function one stage further and leaves the others alone (`Pool.after_eq_some_iff`).
So what a schedule may do to a function is said stage by stage: which stages can be reached when
only certain answers are given (`Reached`). One of these stages leads to another, and adds nothing
but answers to what is remembered (`Reached.proceed`). A turn keeps that for all functions at once,
and so does a schedule (`Pool.Sound.run`). At its end, only that has come of a function which may
come of it (`Pool.Sound.mayEnd`).
-/

namespace HandlerPipeline.BuildPass

variable {pass : BuildPass}

@[simp] theorem Stage.outcome?_built (outcome : Outcome) :
    (Stage.built outcome).outcome? = some outcome := rfl

namespace Pool

variable {pool next last : Pool} {turn : Turn} {turns : List Turn} {probe : Probe}
  {outcomes : List (Declaration × Outcome)}

/-! ## Turns and schedules -/

/-- A turn takes one function one stage further. -/
theorem after_eq_some_iff :
    pool.after pass turn = some next ↔ ∃ before d stage behind,
      pool.tasks = before ++ (d, stage) :: behind ∧ turn.place = before.length ∧
      pool.mayProceed pass.config.workers.effective stage = true ∧
      next = ⟨before ++ (d, (pass.proceed turn.probe pool.memory d stage).1) :: behind,
        (pass.proceed turn.probe pool.memory d stage).2⟩ := by
  constructor
  · intro h
    unfold after at h
    split at h
    · cases h
    · next d stage hget =>
      split at h
      · next hmay =>
        obtain ⟨hplace, hget⟩ := List.getElem?_eq_some_iff.1 hget
        simp only [Option.some.injEq] at h
        subst h
        refine ⟨pool.tasks.take turn.place, d, stage, pool.tasks.drop (turn.place + 1), ?_, ?_,
          hmay, ?_⟩
        · rw [← hget, List.getElem_cons_drop, List.take_append_drop]
        · rw [List.length_take, Nat.min_eq_left (Nat.le_of_lt hplace)]
        · rw [List.set_eq_take_append_cons_drop, if_pos hplace]
      · cases h
  · rintro ⟨before, d, stage, behind, htasks, hplace, hmay, rfl⟩
    simp [after, htasks, hplace, hmay]

/-- A function is taken up where no function is being built. -/
theorem mayProceed_waiting_of_idle {workers : Workers} (h : pool.running = 0) :
    pool.mayProceed workers .waiting = true := by
  rw [mayProceed, h]
  rfl

/-- A schedule is run turn by turn. -/
theorem run_append {more : List Turn} :
    pool.run pass (turns ++ more) = (pool.run pass turns).bind (·.run pass more) := by
  induction turns generalizing pool with
  | nil => rfl
  | cons turn rest ih =>
    rw [List.cons_append, run, run]
    cases pool.after pass turn with
    | none => rfl
    | some next => exact ih

/-- Some schedule leads from one pool to the other, and the probe answers all its turns. -/
def Leads (pass : BuildPass) (probe : Probe) (pool last : Pool) : Prop :=
  ∃ turns, (∀ turn ∈ turns, turn.probe = probe) ∧ pool.run pass turns = some last

/-- The empty schedule leads nowhere else. -/
theorem Leads.refl : Leads pass probe pool pool :=
  ⟨[], by simp, rfl⟩

/-- Schedules are put one behind the other. -/
theorem Leads.trans (h : Leads pass probe pool next) (hlast : Leads pass probe next last) :
    Leads pass probe pool last := by
  obtain ⟨turns, hprobe, hrun⟩ := h
  obtain ⟨more, hprobe', hrun'⟩ := hlast
  refine ⟨turns ++ more, fun turn hmem => ?_, ?_⟩
  · exact (List.mem_append.1 hmem).elim (hprobe turn) (hprobe' turn)
  · rw [run_append, hrun]
    exact hrun'

/-- A turn is a schedule. -/
theorem Leads.of_after (h : pool.after pass turn = some next) :
    Leads pass turn.probe pool next :=
  ⟨[turn], by simp, by rw [run, h]; rfl⟩

/-- What every turn keeps, a schedule keeps. -/
theorem run_induction {motive : Pool → Prop}
    (hturn : ∀ turn ∈ turns, ∀ {pool next : Pool}, pool.after pass turn = some next →
      motive pool → motive next)
    (hrun : pool.run pass turns = some last) (h : motive pool) : motive last := by
  induction turns generalizing pool with
  | nil =>
    cases hrun
    exact h
  | cons turn rest ih =>
    rw [run] at hrun
    split at hrun
    · next next hnext =>
      exact ih (fun turn hmem => hturn turn (.tail _ hmem)) hrun (hturn turn (.head _) hnext h)
    · cases hrun

/-- A turn neither adds nor loses a function. -/
theorem declarations_after (h : pool.after pass turn = some next) :
    next.tasks.map Prod.fst = pool.tasks.map Prod.fst := by
  obtain ⟨before, d, stage, behind, htasks, -, -, rfl⟩ := after_eq_some_iff.1 h
  simp [htasks]

/-- A schedule neither adds nor loses a function. -/
theorem declarations_run (h : pool.run pass turns = some last) :
    last.tasks.map Prod.fst = pool.tasks.map Prod.fst :=
  run_induction (motive := fun p => p.tasks.map Prod.fst = pool.tasks.map Prod.fst)
    (fun _ _ _ _ hnext hp => (declarations_after hnext).trans hp) h rfl

/-- The functions of a pool that is started. -/
theorem declarations_start {memory : Resolved} {declarations : List Declaration} :
    (start memory declarations).tasks.map Prod.fst = declarations := by
  simp [start, Function.comp_def]

/-- The outcomes are those of all functions, once every function is built. -/
theorem outcomes?_eq_some_iff : pool.outcomes? = some outcomes ↔
    pool.tasks = outcomes.map fun o => (o.1, Stage.built o.2) := by
  obtain ⟨tasks, memory⟩ := pool
  simp only [outcomes?]
  induction tasks generalizing outcomes with
  | nil => cases outcomes <;> simp
  | cons task rest ih =>
    obtain ⟨d, stage⟩ := task
    rw [List.mapM_cons]
    cases stage with
    | built outcome =>
      simp only [Stage.outcome?_built, Option.map_some, Option.bind_eq_bind, Option.bind_some,
        Option.bind_eq_some_iff, ih, Option.pure_def]
      constructor
      · rintro ⟨later, rfl, h⟩
        cases h
        rfl
      · intro h
        obtain ⟨⟨d', outcome'⟩, later, rfl, ho, hlater⟩ := List.map_eq_cons_iff.1 h.symm
        cases ho
        exact ⟨later, hlater.symm, rfl⟩
    | _ => cases outcomes <;> simp [Stage.outcome?]

/-- A schedule that builds all functions brings each of those that it began with to an outcome. -/
theorem declarations_outcomes? {memory : Resolved} {selected : List Declaration}
    (hrun : (start memory selected).run pass turns = some last)
    (houtcomes : last.outcomes? = some outcomes) : outcomes.map Prod.fst = selected := by
  have hlast : last.tasks.map Prod.fst = outcomes.map Prod.fst := by
    rw [outcomes?_eq_some_iff.1 houtcomes, List.map_map]
    rfl
  rw [← hlast, declarations_run hrun, declarations_start]

/-- A function with an outcome is built. -/
theorem mem_tasks_of_outcomes? (h : pool.outcomes? = some outcomes)
    {o : Declaration × Outcome} (ho : o ∈ outcomes) :
    (o.1, .built o.2) ∈ pool.tasks := by
  rw [outcomes?_eq_some_iff.1 h]
  exact List.mem_map_of_mem ho

end Pool

/-! ## The stages that can be reached -/

/-- The stages of a function that can be reached when only answers are given and remembered. -/
inductive Reached (pass : BuildPass) (answers : Answers) (d : Declaration) : Stage → Prop where
  | waiting : Reached pass answers d .waiting
  | assembled {p : Pipeline} (hp : pass.Runs d p) : Reached pass answers d (.assembled p)
  -- Whatever the rest of the search gives is an answer about the whole pipeline.
  | probing {p : Pipeline} {best : Variant} {paths : List String} (hp : pass.Runs d p)
      (hrest : ∀ result, Gives answers.aboutModule best paths result →
        answers.aboutPipeline p result) :
      Reached pass answers d (.probing p best paths)
  | found {p : Pipeline} {v : Variant} (hp : pass.Runs d p)
      (hv : answers.aboutPipeline p (.ok v)) : Reached pass answers d (.found p v)
  | resolved {p : Pipeline} {v : Variant} (hp : pass.Runs d p)
      (hv : answers.aboutPipeline p (.ok v)) : Reached pass answers d (.resolved p v)
  | built {outcome : Outcome} (h : MayEnd pass answers.aboutPipeline d outcome) :
      Reached pass answers d (.built outcome)

variable {answers : Answers} {d : Declaration} {stage : Stage} {memory : Resolved} {probe : Probe}

/-- A stage leads to another one that can be reached, and adds nothing but an answer to what is
remembered. -/
theorem Reached.proceed (h : Reached pass answers d stage) (hmemory : answers.Cover memory)
    (hprobe : answers.Include probe) :
    Reached pass answers d (pass.proceed probe memory d stage).1 ∧
      answers.Cover (pass.proceed probe memory d stage).2 := by
  cases h with
  | waiting =>
    rw [BuildPass.proceed]
    split
    · next e he => exact ⟨.built (.misdeclared he), hmemory⟩
    · next p hp =>
      split
      · next hempty => exact ⟨.built (.empty hp hempty), hmemory⟩
      · next hempty => exact ⟨.assembled ⟨hp, eq_false_of_ne_true hempty⟩, hmemory⟩
  | @assembled p hp =>
    rw [BuildPass.proceed]
    split
    · next v hv => exact ⟨.resolved hp (hmemory p v hv), hmemory⟩
    · exact ⟨.probing hp fun _ => answers.combined, hmemory⟩
  | @probing p best paths hp hrest =>
    cases paths with
    | nil => exact ⟨.found hp (hrest _ .done), hmemory⟩
    | cons path rest =>
      have hanswer := hprobe path
      rw [BuildPass.proceed]
      split
      · next v hv =>
        rw [hv] at hanswer
        exact ⟨.probing hp fun result hresult => hrest _ (.next hanswer hresult), hmemory⟩
      · next f hf =>
        rw [hf] at hanswer
        exact ⟨.built (.unresolved hp (hrest _ (.failed hanswer))), hmemory⟩
  | found hp hv => exact ⟨.resolved hp hv, hmemory.remember hv⟩
  | resolved hp hv => exact ⟨.built (.written hp hv), hmemory⟩
  | built h => exact ⟨.built h, hmemory⟩

namespace Pool

variable {pool next last : Pool} {turn : Turn} {turns : List Turn}

/-- Every function has reached its stage by answers, and only answers are remembered. -/
structure Sound (pass : BuildPass) (answers : Answers) (pool : Pool) : Prop where
  tasks : ∀ task ∈ pool.tasks, Reached pass answers task.1 task.2
  memory : answers.Cover pool.memory

/-- A pool is started soundly where only answers are remembered. -/
theorem sound_start {declarations : List Declaration} (hmemory : answers.Cover memory) :
    Sound pass answers (start memory declarations) := by
  refine ⟨fun task htask => ?_, hmemory⟩
  obtain ⟨d, -, rfl⟩ := List.mem_map.1 htask
  exact .waiting

/-- A turn whose probe gives answers keeps a pool sound. -/
theorem Sound.after (h : Sound pass answers pool) (hprobe : answers.Include turn.probe)
    (hnext : pool.after pass turn = some next) : Sound pass answers next := by
  obtain ⟨before, d, stage, behind, htasks, -, -, rfl⟩ := after_eq_some_iff.1 hnext
  have hall := h.tasks
  rw [htasks] at hall
  obtain ⟨hreached, hmemory⟩ := (hall (d, stage) (by simp)).proceed h.memory hprobe
  refine ⟨fun task htask => ?_, hmemory⟩
  rcases List.mem_append.1 htask with hbefore | htask
  · exact hall task (List.mem_append_left _ hbefore)
  · rcases List.mem_cons.1 htask with rfl | hbehind
    · exact hreached
    · exact hall task (List.mem_append_right _ (.tail _ hbehind))

/-- A schedule whose probes give answers keeps a pool sound. -/
theorem Sound.run (h : Sound pass answers pool)
    (hprobe : ∀ turn ∈ turns, answers.Include turn.probe)
    (hrun : pool.run pass turns = some last) : Sound pass answers last :=
  run_induction (fun turn hmem _ _ hnext hsound => hsound.after (hprobe turn hmem) hnext) hrun h

/-- In a sound pool, only that has come of a function which may come of it. -/
theorem Sound.mayEnd {outcome : Outcome} (h : Sound pass answers pool)
    (hbuilt : (d, .built outcome) ∈ pool.tasks) :
    MayEnd pass answers.aboutPipeline d outcome := by
  cases h.tasks _ hbuilt with
  | built hend => exact hend

/-- Whatever is remembered and however the probe answers, each function comes to one of its ends. -/
theorem mayEnd_of_outcomes? {declarations : List Declaration}
    {outcomes : List (Declaration × Outcome)}
    (hrun : (start memory declarations).run pass turns = some last)
    (houtcomes : last.outcomes? = some outcomes) :
    ∀ o ∈ outcomes, MayEnd pass Answers.any.aboutPipeline o.1 o.2 := by
  have hsound : Sound pass .any last :=
    (sound_start (Answers.any_cover memory)).run (fun turn _ => Answers.any_include turn.probe) hrun
  exact fun o ho => hsound.mayEnd (mem_tasks_of_outcomes? houtcomes ho)

end Pool

end HandlerPipeline.BuildPass

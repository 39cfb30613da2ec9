import HandlerPipeline.Proofs.BuildPass.Ending
import HandlerPipeline.Proofs.BuildPass.InOrder
import HandlerPipeline.Proofs.BuildPass.Progress

/-!
# A build is all or nothing

A build selects functions (`select_of_declared`), brings every one of them to an outcome, and only
then ends. So its end depends on the outcomes alone, and it is all or nothing whatever they are
(`conclude_allOrNothing`): for functions that are built in order, and for functions that several
workers build at the same time, with a probe that may say something else at every turn, or fail
(`build_allOrNothing`).
-/

namespace HandlerPipeline.BuildPass

variable {pass : BuildPass} {declarations selected : List Declaration} {only : Option String}

/-- The function is built: it bears the name that the build is restricted to, if it is restricted,
and it needs a pipeline. -/
def isSelected (pass : BuildPass) (only : Option String) (d : Declaration) : Bool :=
  only.all (d.name = ·) && pass.needsPipeline d

/-- A build that is not restricted, or that is restricted to a declared name, selects functions in
the order of their declarations. -/
theorem select_of_declared
    (hdeclared : ∀ name, only = some name → ∃ d ∈ declarations, d.name = name) :
    pass.select declarations only = .ok (declarations.filter (pass.isSelected only)) := by
  cases only with
  | none => rfl
  | some name =>
    obtain ⟨d, hd, hname⟩ := hdeclared name rfl
    have hmem : d ∈ declarations.filter (·.name = name) :=
      List.mem_filter.2 ⟨hd, decide_eq_true hname⟩
    have hfilter : declarations.filter (pass.isSelected (some name)) =
        (declarations.filter (·.name = name)).filter pass.needsPipeline := by
      rw [List.filter_filter]
      refine List.filter_congr fun d _ => ?_
      rw [isSelected, Option.all_some, Bool.and_comm]
    rw [select, hfilter]
    cases hmatching : declarations.filter (·.name = name) with
    | nil =>
      rw [hmatching] at hmem
      cases hmem
    | cons first rest => rfl

/-- Selecting fails only where a name is asked for, which is unknown then. -/
theorem eq_unknownFunction_of_select {e : BuildError}
    (h : pass.select declarations only = .error e) :
    ∃ name, only = some name ∧ e = .unknownFunction name := by
  cases only with
  | none => cases h
  | some name =>
    rw [select] at h
    split at h
    · cases h
      exact ⟨name, rfl, rfl⟩
    · cases h

/-- The functions that are selected, if any name that is asked for is declared. -/
theorem eq_filter_of_select (h : pass.select declarations only = .ok selected) :
    selected = declarations.filter (pass.isSelected only) := by
  have hdeclared : ∀ name, only = some name → ∃ d ∈ declarations, d.name = name := by
    rintro name rfl
    by_contra hnone
    push Not at hnone
    have hempty : declarations.filter (·.name = name) = [] := by
      simpa [List.filter_eq_nil_iff] using hnone
    rw [select, hempty] at h
    cases h
  rw [select_of_declared hdeclared] at h
  exact (Except.ok.inj h).symm

/-- What is said of a build of selected functions. -/
structure BuildLaw (pass : BuildPass) (memory : Resolved) (writer? : Option Writer)
    (selected : List Declaration) (report : Report) : Prop where
  /-- Every selected function is built, and the build is all or nothing. -/
  inOrder : (outcomesOf (pass.buildEach memory selected)).map Prod.fst = selected ∧
    AllOrNothing pass writer? (outcomesOf (pass.buildEach memory selected)) report.toEnding
  /-- So it is when functions are built at the same time, however they take turns and whatever the
  probe answers at each turn. -/
  scheduled : ∀ turns last outcomes, (Pool.start memory selected).run pass turns = some last →
    last.outcomes? = some outcomes →
    outcomes.map Prod.fst = selected ∧
      AllOrNothing pass writer? outcomes (conclude writer? outcomes)
  /-- No failure keeps the other functions from being built. -/
  carriedOn : ∀ turns last probe, (Pool.start memory selected).run pass turns = some last →
    ∃ finished outcomes, Pool.Leads pass probe last finished ∧ finished.outcomes? = some outcomes
  /-- Building in order is one way to take turns. -/
  isSchedule : ∃ finished, Pool.Leads pass pass.probe (Pool.start memory selected) finished ∧
    finished.outcomes? = some (outcomesOf (pass.buildEach memory selected))

/-- When all functions are built, the build is all or nothing. -/
theorem Pool.outcomes?_allOrNothing {memory : Resolved} {writer? : Option Writer}
    {turns : List Turn} {last : Pool} {outcomes : List (Declaration × Outcome)}
    (hrun : (Pool.start memory selected).run pass turns = some last)
    (houtcomes : last.outcomes? = some outcomes) :
    outcomes.map Prod.fst = selected ∧
      AllOrNothing pass writer? outcomes (conclude writer? outcomes) :=
  ⟨declarations_outcomes? hrun houtcomes,
    conclude_allOrNothing writer? (mayEnd_of_outcomes? hrun houtcomes)⟩

/-- **A build is all or nothing**: where a function fails, the first failure in the order of the
declarations is reported and nothing is written; otherwise every function with steps has its
artifact handed out, once and in that order, up to the first one that the writer refuses. -/
theorem build_allOrNothing (pass : BuildPass) (memory : Resolved) (declarations : List Declaration)
    (only : Option String) (writer? : Option Writer)
    (hdeclared : ∀ name, only = some name → ∃ d ∈ declarations, d.name = name) :
    pass.select declarations only = .ok (declarations.filter (pass.isSelected only)) ∧
      BuildLaw pass memory writer? (declarations.filter (pass.isSelected only))
        (pass.build memory declarations only writer?) := by
  have hselect : pass.select declarations only =
      .ok (declarations.filter (pass.isSelected only)) := select_of_declared hdeclared
  generalize declarations.filter (pass.isSelected only) = selected at hselect
  obtain ⟨finished, hleads, houtcomes, -⟩ := Pool.leads_buildEach pass memory selected
  refine ⟨hselect, ⟨?_, fun turns last outcomes hrun houtcomes =>
    Pool.outcomes?_allOrNothing hrun houtcomes, fun turns last probe _ =>
    Pool.exists_finish pass last probe, finished, hleads, houtcomes⟩⟩
  obtain ⟨turns, -, hrun⟩ := hleads
  rw [build, hselect]
  exact Pool.outcomes?_allOrNothing hrun houtcomes

/-- Of two functions with the name that is asked for, one has no steps and one is in conflict with
itself: the conflict is reported, and the writer is not called. -/
theorem build_allOrNothing_twins :
    let pass : BuildPass := ⟨.default, .default, .ofTable []⟩
    let twins : List Declaration :=
      [⟨"b", .absent, .steps [], []⟩, ⟨"b", .single "m.f", .steps [], []⟩]
    let report := pass.build [] twins (some "b") (some fun _ _ => none)
    (∀ name, some "b" = some name → ∃ d ∈ twins, d.name = name) ∧
      report.outcome = .error (.build (.conflictingHandler "b" "")) ∧ report.calls = [] := by
  intro pass twins report
  have hdeclared : ∀ name, some "b" = some name → ∃ d ∈ twins, d.name = name := by
    rintro name ⟨⟩
    exact ⟨_, .head _, rfl⟩
  obtain ⟨-, hlaw⟩ := build_allOrNothing pass [] twins (some "b") (some fun _ _ => none) hdeclared
  obtain ⟨houtcome, hcalls, -⟩ := hlaw.inOrder.2.failed
    [(⟨"b", .absent, .steps [], []⟩, .ok none)] ⟨"b", .single "m.f", .steps [], []⟩ _ [] rfl
    (by simp [NoFailure])
  exact ⟨hdeclared, houtcome, hcalls⟩

end HandlerPipeline.BuildPass

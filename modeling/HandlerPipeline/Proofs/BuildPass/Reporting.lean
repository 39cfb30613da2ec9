import HandlerPipeline.Proofs.Artifact.ReadBack
import HandlerPipeline.Proofs.BuildPass.AllOrNothing
import HandlerPipeline.Proofs.BuildPass.Naming
import HandlerPipeline.Proofs.Descriptor.Merging
import HandlerPipeline.Proofs.Step.Normal

/-!
# Failures are reported

Where no probe fails, a function fails with an error of the library, one of its raw steps raises
something else, or the checker refuses its name (`MayEnd.failure_cases`). A build without a writer
fails as the first of its functions that fails, so it ends in one of four ways (`conclude_ends`):
without a failure, with a failure that one ERROR line reports under the name of its function, or, at
a step that raises or a refused name, without a report. No other ERROR line is logged, unless a probe
logs one (`errors_buildEach`). Steps of plain data raise nothing (`not_raises_of_hasPlainSteps`).
-/

namespace HandlerPipeline

/-! ## Probes that do not fail -/

/-- The probe does not fail: of each module it says what the module is, or that it has no source. -/
def Probe.IsTotal (probe : Probe) : Prop := ∀ path, ∃ v?, probe.classify path = .ok v?

/-- The probe of a table does not fail. -/
theorem Probe.isTotal_ofTable (table : List (String × Option Variant)) :
    (Probe.ofTable table).IsTotal := fun _ => ⟨_, rfl⟩

/-- The result is a variant, or that one of the modules has no source. -/
def IsTotalAnswer (paths : List String) (result : Except Failure Variant) : Prop :=
  (∃ v, result = .ok v) ∨ ∃ path ∈ paths, result = .error (.build (.unresolvedModule path))

/-- What such results about modules give is such a result about all of them. -/
theorem Gives.isTotalAnswer {best : Variant} {paths : List String}
    {result : Except Failure Variant} (h : Gives (fun path => IsTotalAnswer [path]) best paths result) :
    IsTotalAnswer paths result := by
  induction h with
  | done => exact .inl ⟨_, rfl⟩
  | next _ _ ih =>
    rcases ih with hok | ⟨path, hpath, herror⟩
    · exact .inl hok
    · exact .inr ⟨path, .tail _ hpath, herror⟩
  | failed answer =>
    rcases answer with ⟨v, hok⟩ | ⟨path, hpath, herror⟩
    · cases hok
    · rw [List.mem_singleton] at hpath
      exact .inr ⟨path, hpath ▸ .head _, herror⟩

namespace Answers

/-- The answers of probes that do not fail. -/
def total : Answers :=
  ⟨fun path => IsTotalAnswer [path], fun p => IsTotalAnswer p.modulePaths, Gives.isTotalAnswer⟩

/-- A probe that does not fail gives such answers. -/
theorem total_include {probe : Probe} (h : probe.IsTotal) : total.Include probe := by
  intro path
  obtain ⟨v?, hv?⟩ := h path
  cases v? with
  | some v =>
    have hmodule : probe.moduleVariant path = .ok v := by rw [Probe.moduleVariant, hv?]
    exact .inl ⟨v, hmodule⟩
  | none =>
    have hmodule : probe.moduleVariant path = .error (.build (.unresolvedModule path)) := by
      rw [Probe.moduleVariant, hv?]
    exact .inr ⟨path, .head _, hmodule⟩

/-- Everything that is remembered is such an answer. -/
theorem total_cover (memory : Resolved) : total.Cover memory := fun _ v _ => .inl ⟨v, rfl⟩

end Answers

namespace BuildPass

variable {pass : BuildPass} {d : Declaration} {p : Pipeline} {f : Failure} {memory : Resolved}
  {outcomes : List (Declaration × Outcome)} {declarations selected : List Declaration}
  {only : Option String}

/-! ## Why functions fail -/

/-- The function has a pipeline of steps whose modules are bound, but the checker refuses its name,
which holds a null character. -/
structure IsRefused (pass : BuildPass) (d : Declaration) : Prop where
  bound : ∃ p bs, pass.Runs d p ∧ p.bindings Artifact.reservedNames = .ok bs
  checks : pass.config.checksSource = true
  null_mem : '\x00' ∈ d.name.toList

/-- The function is refused because one of its raw steps raises an exception. -/
def Raises (pass : BuildPass) (d : Declaration) (x : Raised) : Prop :=
  pass.assemble d = .error (.raised x)

/-- The raw steps of the service and of the function are plain data. -/
def HasPlainSteps (pass : BuildPass) (d : Declaration) : Prop :=
  ∀ own, d.ownSteps = .ok own →
    ∀ raw ∈ pass.settings.before ++ own ++ pass.settings.after, raw.isData = true

/-- Plain data raises nothing. -/
theorem not_raises_of_hasPlainSteps {x : Raised} (h : HasPlainSteps pass d) : ¬ Raises pass d x := by
  intro hraises
  obtain ⟨own, raw, hown, hraw, hread⟩ := Declaration.exists_raising_of_pipeline hraises
  exact Step.read_ne_raised_of_isData (h own hown raw hraw) hread

/-- **Why functions fail**, where probes do not: with an error of the library, or because a raw step
raises something, or because the checker refuses the function's name. -/
theorem MayEnd.failure_cases (h : MayEnd pass Answers.total.aboutPipeline d (.error f)) :
    (∃ e, f = .build e) ∨ (∃ x, f = .raised x ∧ Raises pass d x) ∨
      f = .nullInName ∧ IsRefused pass d := by
  generalize houtcome : (Except.error f : Outcome) = outcome at h
  cases h with
  | @misdeclared e h =>
    cases houtcome
    cases e with
    | build e => exact .inl ⟨e, rfl⟩
    | raised x => exact .inr (.inl ⟨x, rfl, h⟩)
  | empty => cases houtcome
  | unresolved _ hf =>
    cases houtcome
    rcases hf with ⟨v, hok⟩ | ⟨path, -, herror⟩
    · cases hok
    · exact .inl ⟨_, Except.error.inj herror⟩
  | @written p v h hv =>
    have hwrite := map_eq_error_iff.1 houtcome.symm
    rcases Artifact.emit_eq_error_iff.1 (write_eq_error_iff.1 hwrite) with
      ⟨e, -, hf⟩ | ⟨⟨bs, hbs⟩, hchecks, hname, hf⟩
    · exact .inl ⟨e, hf⟩
    · rw [functionName_of_assemble h.1] at hname
      exact .inr (.inr ⟨hf, ⟨p, bs, h, hbs⟩, hchecks, hname⟩)

/-- Functions that are built by schedules whose probes do not fail come to what such probes let them
come to. -/
theorem Pool.mayEnd_of_isTotal {turns : List Turn} {last : Pool}
    (htotal : ∀ turn ∈ turns, turn.probe.IsTotal)
    (hrun : (Pool.start memory selected).run pass turns = some last)
    (houtcomes : last.outcomes? = some outcomes) :
    ∀ o ∈ outcomes, MayEnd pass Answers.total.aboutPipeline o.1 o.2 := by
  have hsound : Sound pass .total last :=
    (sound_start (Answers.total_cover memory)).run
      (fun turn hturn => Answers.total_include (htotal turn hturn)) hrun
  exact fun o ho => hsound.mayEnd (mem_tasks_of_outcomes? houtcomes ho)

/-! ## How builds end -/

/-- The line that reports the failure of a function. -/
def reportLine (d : Declaration) (e : BuildError) : Log.Line :=
  say .error ("build failed for function " ++ d.name ++ ": " ++ e.message)

/-- How a build without a writer ends whose functions have come to these outcomes. -/
inductive Ends (pass : BuildPass) (outcomes : List (Declaration × Outcome)) : Ending → Prop where
  /-- No function failed, and the artifacts are returned. -/
  | returned {artifacts : List Artifact} (h : NoFailure outcomes)
      (hartifacts : AreArtifactsOf pass outcomes artifacts) :
      Ends pass outcomes ⟨.ok artifacts, [], [], []⟩
  /-- The build fails as the first function that failed, and reports it under that function's
  name. -/
  | reported {before behind : List (Declaration × Outcome)} {d : Declaration} {e : BuildError}
      (h : outcomes = before ++ (d, .error (.build e)) :: behind) (hbefore : NoFailure before) :
      Ends pass outcomes ⟨.error (.build e), [reportLine d e], [], []⟩
  /-- A raw step of the first function that failed raises something, and nothing is reported. -/
  | raised {before behind : List (Declaration × Outcome)} {d : Declaration} {x : Raised}
      (h : outcomes = before ++ (d, .error (.raised x)) :: behind) (hbefore : NoFailure before)
      (hraises : Raises pass d x) : Ends pass outcomes ⟨.error (.raised x), [], [], []⟩
  /-- The first function that failed has a name that the checker refuses, and nothing is
  reported. -/
  | refused {before behind : List (Declaration × Outcome)} {d : Declaration}
      (h : outcomes = before ++ (d, .error .nullInName) :: behind) (hbefore : NoFailure before)
      (hrefused : IsRefused pass d) : Ends pass outcomes ⟨.error .nullInName, [], [], []⟩

/-- **A build without a writer ends in one of four ways**, where its functions come to what probes
that do not fail let them come to. -/
theorem conclude_ends
    (hend : ∀ o ∈ outcomes, MayEnd pass Answers.total.aboutPipeline o.1 o.2) :
    Ends pass outcomes (conclude none outcomes) := by
  cases hcollect : collect outcomes with
  | ok artifacts =>
    rw [conclude, hcollect]
    exact .returned (noFailure_of_collect hcollect) (artifacts_of_collect hend hcollect)
  | error failed =>
    obtain ⟨d, f⟩ := failed
    obtain ⟨before, behind, hsplit, hbefore⟩ := collect_eq_error_iff.1 hcollect
    rw [conclude, hcollect]
    rcases (hend _ (mem_of_collect_eq_error hcollect)).failure_cases with
      ⟨e, rfl⟩ | ⟨x, rfl, hraises⟩ | ⟨rfl, hrefused⟩
    · exact .reported hsplit hbefore
    · exact .raised hsplit hbefore hraises
    · exact .refused hsplit hbefore hrefused

/-- So it ends for any schedule whose probes do not fail. -/
theorem Pool.ends_of_run {turns : List Turn} {last : Pool}
    (htotal : ∀ turn ∈ turns, turn.probe.IsTotal)
    (hrun : (Pool.start memory selected).run pass turns = some last)
    (houtcomes : last.outcomes? = some outcomes) :
    outcomes.map Prod.fst = selected ∧ Ends pass outcomes (conclude none outcomes) :=
  ⟨declarations_outcomes? hrun houtcomes, conclude_ends (mayEnd_of_isTotal htotal hrun houtcomes)⟩

/-- So it ends when functions are built in order. -/
theorem build_ends (hprobe : pass.probe.IsTotal)
    (hselect : pass.select declarations only = .ok selected) :
    (outcomesOf (pass.buildEach memory selected)).map Prod.fst = selected ∧
      Ends pass (outcomesOf (pass.buildEach memory selected))
        (pass.build memory declarations only none).toEnding := by
  obtain ⟨finished, ⟨turns, hprobes, hrun⟩, houtcomes, -⟩ :=
    Pool.leads_buildEach pass memory selected
  rw [build, hselect]
  exact Pool.ends_of_run (fun turn hturn => hprobes turn hturn ▸ hprobe) hrun houtcomes

/-- A build that fails with a build error of a function reports it. -/
theorem Ends.report {ending : Ending} {e : BuildError} (h : Ends pass outcomes ending)
    (hfailed : ending.outcome = .error (.build e)) :
    ∃ before d behind, outcomes = before ++ (d, .error (.build e)) :: behind ∧
      NoFailure before ∧ ending.afterLog = [reportLine d e] := by
  cases h with
  | returned => cases hfailed
  | reported h hbefore =>
    cases hfailed
    exact ⟨_, _, _, h, hbefore, rfl⟩
  | raised | refused => cases hfailed

/-- A build that fails in another way reports nothing. -/
theorem Ends.silent {ending : Ending} (h : Ends pass outcomes ending)
    (hfailed : ending.outcome = .error f) (hother : ∀ e, f ≠ .build e) : ending.afterLog = [] := by
  cases h with
  | returned | raised | refused => rfl
  | reported =>
    cases hfailed
    exact absurd rfl (hother _)

/-- Nothing about the function keeps its failure from being reported. -/
def IsReportable (pass : BuildPass) (d : Declaration) : Prop :=
  ¬ IsRefused pass d ∧ ∀ x, ¬ Raises pass d x

/-- A build returns or fails with a build error, unless one of its functions is refused with
something else. -/
theorem Ends.outcome_cases {ending : Ending} (h : Ends pass outcomes ending)
    (hall : ∀ d ∈ outcomes.map Prod.fst, IsReportable pass d) :
    (∃ artifacts, ending.outcome = .ok artifacts) ∨ ∃ e, ending.outcome = .error (.build e) := by
  have hfailed : ∀ {before behind d o}, outcomes = before ++ (d, o) :: behind →
      IsReportable pass d := by
    intro before behind d o hsplit
    refine hall d ?_
    rw [hsplit, List.map_append, List.map_cons]
    exact List.mem_append_right _ (.head _)
  cases h with
  | returned => exact .inl ⟨_, rfl⟩
  | reported => exact .inr ⟨_, rfl⟩
  | raised h _ hraises => exact absurd hraises ((hfailed h).2 _)
  | refused h _ hrefused => exact absurd hrefused (hfailed h).1

/-! ## Which lines are errors -/

/-- The ERROR lines among some lines. -/
def errors (lines : List Log.Line) : List Log.Line := lines.filter (·.level = .error)

/-- The ERROR lines of two parts of a log. -/
theorem errors_append (lines more : List Log.Line) :
    errors (lines ++ more) = errors lines ++ errors more := List.filter_append lines more

/-- Resolving a pipeline logs no ERROR line but the probe's. -/
theorem errors_resolve (probe : Probe) : errors (memory.resolve probe p).log =
    errors ((memory.resolve probe p).asked.flatMap probe.remarks) := by
  rw [Resolved.resolve]
  split
  · rfl
  · dsimp only
    split
    · rfl
    · rw [errors_append]
      exact List.append_nil _

/-- Writing an artifact logs no ERROR line. -/
theorem errors_write {v : Variant} : errors (pass.write p v).2 = [] := by
  have hignored : ∀ {condition : Prop} [Decidable condition] {message : String},
      errors (if condition then [say .warning message] else []) = [] := by
    intro condition _ message
    split <;> rfl
  rw [write]
  split
  · exact hignored
  · next source log hemit =>
    rw [Artifact.emit] at hemit
    split at hemit
    · cases hemit
    · split at hemit
      · cases hemit
      · cases hemit
        rw [errors_append, errors_append, hignored]
        rfl

/-- Building a function logs no ERROR line but the probe's. -/
theorem errors_buildFunction : errors (pass.buildFunction memory d).log =
    errors ((pass.buildFunction memory d).asked.flatMap pass.probe.remarks) := by
  rw [buildFunction]
  split
  · rfl
  · split
    · rfl
    · dsimp only
      split
      · exact errors_resolve pass.probe
      · dsimp only
        rw [errors_append, errors_write, List.append_nil]
        exact errors_resolve pass.probe

/-- Building functions logs no ERROR line but the probe's. -/
theorem errors_buildEach : errors ((pass.buildEach memory selected).flatMap (·.2.log)) =
    errors (((pass.buildEach memory selected).flatMap (·.2.asked)).flatMap pass.probe.remarks) := by
  induction selected generalizing memory with
  | nil => rfl
  | cons d rest ih =>
    rw [buildEach, List.flatMap_cons, List.flatMap_cons, List.flatMap_append, errors_append,
      errors_append, errors_buildFunction, ih]

/-- A build logs no ERROR line but the probe's, until its functions are built. -/
theorem errors_buildLog {writer? : Option Writer}
    (hselect : pass.select declarations only = .ok selected) :
    errors (pass.build memory declarations only writer?).buildLog = errors
      ((pass.build memory declarations only writer?).asked.flatMap pass.probe.remarks) := by
  rw [build, hselect]
  exact errors_buildEach

/-! ## Failures are reported -/

/-- What is said of the failures of a build without a writer. -/
structure ReportingLaw (pass : BuildPass) (memory : Resolved) (declarations : List Declaration)
    (only : Option String) (report : Report) : Prop where
  /-- A name that no function bears is unknown. No function is built then, and nothing is logged. -/
  unknown : ∀ e, pass.select declarations only = .error e →
    (∃ name, only = some name ∧ e = .unknownFunction name) ∧
      report.outcome = .error (.build e) ∧ report.buildLog = [] ∧ report.afterLog = []
  /-- Otherwise the build returns, reports its first failure, or stops without a report: at a raw
  step that raises something, or at a name that the checker refuses. -/
  ends : ∀ selected, pass.select declarations only = .ok selected →
    Ends pass (outcomesOf (pass.buildEach memory selected)) report.toEnding
  /-- A failure that is reported is the only one, and the first. No other ERROR line is logged,
  unless the probe logs it. -/
  once : ∀ selected e, pass.select declarations only = .ok selected →
    report.outcome = .error (.build e) →
    ∃ before d behind,
      outcomesOf (pass.buildEach memory selected) = before ++ (d, .error (.build e)) :: behind ∧
      NoFailure before ∧
      errors (report.buildLog ++ report.afterLog) =
        errors (report.asked.flatMap pass.probe.remarks) ++ [reportLine d e]
  /-- A failure that is no build error is reported by no ERROR line. -/
  silent : ∀ f, report.outcome = .error f → (∀ e, f ≠ .build e) →
    errors (report.buildLog ++ report.afterLog) =
      errors (report.asked.flatMap pass.probe.remarks)
  /-- Where no step raises and the checker refuses no name, the build returns artifacts or fails with
  a build error. -/
  hierarchy : (∀ d ∈ declarations, pass.isSelected only d = true → IsReportable pass d) →
    (∃ artifacts, report.outcome = .ok artifacts) ∨ ∃ e, report.outcome = .error (.build e)
  /-- Steps of plain data do not raise. -/
  plain : ∀ d ∈ declarations, HasPlainSteps pass d → ∀ x, ¬ Raises pass d x
  /-- So it is when functions are built at the same time, however they take turns, with probes that
  do not fail. -/
  scheduled : ∀ selected turns last outcomes, pass.select declarations only = .ok selected →
    (∀ turn ∈ turns, turn.probe.IsTotal) →
    (Pool.start memory selected).run pass turns = some last → last.outcomes? = some outcomes →
    outcomes.map Prod.fst = selected ∧ Ends pass outcomes (conclude none outcomes)

/-- **Failures are reported**: a build without a writer, with a probe that does not fail, returns
artifacts or fails with a build error, which one ERROR line reports if it is that of a function. Only
where a raw step raises something else or the checker refuses a name does the build fail in another
way, and without a report. -/
theorem build_reported (pass : BuildPass) (hprobe : pass.probe.IsTotal) (memory : Resolved)
    (declarations : List Declaration) (only : Option String) :
    ReportingLaw pass memory declarations only (pass.build memory declarations only none) := by
  refine ⟨fun e hselect => ?_, fun selected hselect => (build_ends hprobe hselect).2,
    fun selected e hselect hfailed => ?_, fun f hfailed hother => ?_, fun hall => ?_,
    fun d _ hplain x => not_raises_of_hasPlainSteps hplain, fun selected turns last outcomes _ htotal
      hrun houtcomes => Pool.ends_of_run htotal hrun houtcomes⟩
  · rw [build, hselect]
    exact ⟨eq_unknownFunction_of_select hselect, rfl, rfl, rfl⟩
  · obtain ⟨before, d, behind, hsplit, hbefore, hafter⟩ :=
      (build_ends hprobe hselect).2.report hfailed
    refine ⟨before, d, behind, hsplit, hbefore, ?_⟩
    rw [errors_append, errors_buildLog hselect, hafter]
    rfl
  · cases hselect : pass.select declarations only with
    | error e =>
      rw [build, hselect] at hfailed
      exact absurd (Except.error.inj hfailed).symm (hother e)
    | ok selected =>
      rw [errors_append, errors_buildLog hselect,
        (build_ends hprobe hselect).2.silent hfailed hother]
      exact List.append_nil _
  · cases hselect : pass.select declarations only with
    | error e =>
      rw [build, hselect]
      exact .inr ⟨e, rfl⟩
    | ok selected =>
      obtain ⟨hselected, hend⟩ := @build_ends pass memory declarations selected only hprobe hselect
      refine hend.outcome_cases fun d hd => ?_
      rw [hselected, eq_filter_of_select hselect] at hd
      obtain ⟨hd, hisSelected⟩ := List.mem_filter.1 hd
      exact hall d hd hisSelected

/-- Of three functions, the last two have a step that cannot be read: one ERROR line reports the
failure of the first of these. -/
theorem build_reported_unreadable :
    let pass : BuildPass := ⟨.default, .default, .ofTable []⟩
    let declarations : List Declaration :=
      [⟨"a", .absent, .steps [], []⟩, ⟨"b", .absent, .steps [.null], []⟩,
        ⟨"c", .absent, .steps [.bool true], []⟩]
    let report := pass.build [] declarations none none
    pass.probe.IsTotal ∧ report.outcome = .error (.build (.invalidStep .null "null" "")) ∧
      errors (report.buildLog ++ report.afterLog) = [⟨.build, .error,
        "Middleware: build failed for function b: Invalid handler: null"⟩] := by
  intro pass declarations report
  have hprobe : pass.probe.IsTotal := Probe.isTotal_ofTable []
  have hfailed : report.outcome = .error (.build (.invalidStep .null "null" "")) := rfl
  obtain ⟨before, d, behind, hsplit, hbefore, herrors⟩ :=
    (build_reported pass hprobe [] declarations none).once declarations _ rfl hfailed
  refine ⟨hprobe, hfailed, herrors.trans ?_⟩
  cases collect_eq_error_iff.2 ⟨before, behind, hsplit, hbefore⟩
  rfl

/-- **A refused name is not reported**: a function whose name holds a null character has steps that
can be read and a module that is found and bound, and where it is built, the build fails with no
build error, and logs no ERROR line. -/
theorem build_refused_unreported :
    let pass : BuildPass := ⟨.default, .default, .ofTable [("m", some .plain)]⟩
    let declarations : List Declaration := [⟨"a\x00b", .absent, .steps [.text "m.f"], []⟩]
    let report := pass.build [] declarations none none
    pass.probe.IsTotal ∧ report.outcome = .error .nullInName ∧
      errors (report.buildLog ++ report.afterLog) = [] := by
  intro pass declarations report
  refine ⟨Probe.isTotal_ofTable _, ?_, ?_⟩
  · rfl
  · rfl

end BuildPass

end HandlerPipeline

import HandlerPipeline.Variant.Resolve

/-!
# Answers about modules and pipelines

Probes may say one thing now and another later, and functions that are built at the same time may
ask them in any order. So what a pipeline may turn out to be is a relation: some answers about its
modules, put together, give it (`Gives`). For a probe that does not change its mind, the relation is
the variant that the probe finds (`gives_iff`). What is remembered of a pipeline is the variant that
was found last (`Resolved.lookup_remember`).
-/

namespace HandlerPipeline

/-- Answers about the modules of some paths give a result: the strictest of `best` and of the
variants that are answered, or the first failure among the answers. -/
inductive Gives (told : String → Except Failure Variant → Prop) :
    Variant → List String → Except Failure Variant → Prop where
  | done {best : Variant} : Gives told best [] (.ok best)
  | next {best v : Variant} {path : String} {rest : List String} {result : Except Failure Variant}
      (answer : told path (.ok v)) (later : Gives told (best.max v) rest result) :
      Gives told best (path :: rest) result
  | failed {best : Variant} {path : String} {rest : List String} {f : Failure}
      (answer : told path (.error f)) : Gives told best (path :: rest) (.error f)

/-- What a probe answers about modules gives what it finds. -/
theorem gives_iff {probe : Probe} {best : Variant} {paths : List String}
    {result : Except Failure Variant} :
    Gives (fun path answer => answer = probe.moduleVariant path) best paths result ↔
      result = probe.strictest best paths := by
  constructor
  · intro h
    induction h with
    | done => rfl
    | next answer _ ih => rw [Probe.strictest, ← answer, ih]
    | failed answer => rw [Probe.strictest, ← answer]
  · rintro rfl
    induction paths generalizing best with
    | nil => exact .done
    | cons path rest ih =>
      rw [Probe.strictest]
      split
      · next v hv => exact .next hv.symm ih
      · next f hf => exact .failed hf.symm

/-- Which results count as answers about a module, and which about a pipeline. -/
structure Answers where
  aboutModule : String → Except Failure Variant → Prop
  aboutPipeline : Pipeline → Except Failure Variant → Prop
  /-- What answers about its modules give is an answer about the pipeline. -/
  combined : ∀ {p result}, Gives aboutModule .weakest p.modulePaths result → aboutPipeline p result

namespace Answers

/-- Every result counts. -/
def any : Answers := ⟨fun _ _ => True, fun _ _ => True, fun _ => trivial⟩

/-- Only what the probe says counts. -/
def of (probe : Probe) : Answers :=
  ⟨fun path result => result = probe.moduleVariant path,
    fun p result => result = probe.variant p, fun h => gives_iff.1 h⟩

/-- Everything that is remembered is an answer. -/
def Cover (answers : Answers) (memory : Resolved) : Prop :=
  ∀ p v, memory.lookup p = some v → answers.aboutPipeline p (.ok v)

/-- Everything that the probe says is an answer. -/
def Include (answers : Answers) (probe : Probe) : Prop :=
  ∀ path, answers.aboutModule path (probe.moduleVariant path)

/-- Where every result counts, everything that is remembered does. -/
theorem any_cover (memory : Resolved) : any.Cover memory := fun _ _ _ => trivial

/-- Where every result counts, everything that a probe says does. -/
theorem any_include (probe : Probe) : any.Include probe := fun _ => trivial

/-- Nothing that a probe did not say is remembered where nothing is. -/
theorem of_cover_nil (probe : Probe) : (of probe).Cover [] := fun _ _ h => by cases h

/-- What a probe says counts as its answers. -/
theorem of_include (probe : Probe) : (of probe).Include probe := fun _ => rfl

end Answers

namespace Resolved

variable {memory : Resolved} {p q : Pipeline} {v : Variant}

/-- The first entry answers for its own pipeline. -/
theorem lookup_cons {rest : Resolved} {w : Variant} :
    ((p, w) :: rest : Resolved).lookup q = if q = p then some w else rest.lookup q := by
  rw [List.lookup_cons]
  split
  · next h => rw [if_pos (beq_iff_eq.1 h)]
  · next h => rw [if_neg (beq_eq_false_iff_ne.1 h)]

/-- What was found last about a pipeline is remembered, and nothing else changes. -/
theorem lookup_remember :
    (memory.remember p v).lookup q = if q = p then some v else memory.lookup q := by
  induction memory with
  | nil => exact lookup_cons
  | cons entry rest ih =>
    obtain ⟨key, w⟩ := entry
    rw [remember]
    split
    · next h =>
      subst h
      rw [lookup_cons, lookup_cons]
      split <;> rfl
    · next h =>
      rw [lookup_cons, lookup_cons, ih]
      split
      · next hq => rw [if_neg fun hp => h (hq.symm.trans hp)]
      · rfl

/-- Where nothing is remembered, a pipeline has the variant that the probe finds. -/
theorem resolve_nil_outcome {probe : Probe} :
    (resolve [] probe p).outcome = probe.variant p := by
  rw [resolve, List.lookup_nil]
  dsimp only
  split
  · next f hf => exact hf.symm
  · next v hv => exact hv.symm

end Resolved

/-- Remembering an answer keeps what is remembered among the answers. -/
theorem Answers.Cover.remember {answers : Answers} {memory : Resolved} {p : Pipeline} {v : Variant}
    (hmemory : answers.Cover memory) (hv : answers.aboutPipeline p (.ok v)) :
    answers.Cover (memory.remember p v) := by
  intro q w hw
  rw [Resolved.lookup_remember] at hw
  split at hw
  · next h =>
    subst h
    cases hw
    exact hv
  · exact hmemory q w hw

end HandlerPipeline

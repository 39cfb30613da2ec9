import HandlerPipeline.Proofs.Variant.Answers
import HandlerPipeline.Variant.Resolver

/-!
# The history of a resolver

What a resolver remembers about a pipeline is decided by what came of that pipeline before: the
variant of its first success (`Resolver.lookup_run`). So a pipeline that was resolved once keeps its
variant and is not probed again, whatever the probe says by then; one that has only failed is probed
as if nothing had been asked before; and requests for other pipelines make no difference
(`Resolver.seen_answers_congr`). `Resolver.resolve_history` puts these together for the next
request after any sequence of requests.
-/

namespace HandlerPipeline

namespace Resolved

variable {memory : Resolved} {probe : Probe} {p : Pipeline} {v : Variant}

/-- A pipeline about which something is remembered is not probed. -/
theorem resolve_of_lookup_some (h : memory.lookup p = some v) :
    memory.resolve probe p = ⟨.ok v, [], [], memory⟩ := by
  rw [resolve, h]

/-- A pipeline about which nothing is remembered is what the probe finds, and is probed for it. -/
theorem resolve_of_lookup_none (h : memory.lookup p = none) :
    (memory.resolve probe p).outcome = probe.variant p ∧
      (memory.resolve probe p).asked = probe.asked p.modulePaths := by
  rw [resolve, h]
  cases hv : probe.variant p <;> simp

/-- Resolving a pipeline changes what is remembered about that pipeline only: its variant, where
there is one. -/
theorem lookup_resolve (q : Pipeline) :
    (memory.resolve probe p).memory.lookup q =
      if q = p then (memory.resolve probe p).outcome.toOption else memory.lookup q := by
  cases h : memory.lookup p with
  | some v =>
    rw [resolve_of_lookup_some h]
    split
    · next hq => rw [hq, h]; rfl
    · rfl
  | none =>
    rw [resolve, h]
    cases probe.variant p with
    | ok v => exact lookup_remember
    | error f =>
      dsimp only
      split
      · next hq => rw [hq, h]; rfl
      · rfl

/-- A pipeline that cannot be resolved leaves everything that is remembered as it was. -/
theorem memory_resolve_of_error {f : Failure} (h : (memory.resolve probe p).outcome = .error f) :
    (memory.resolve probe p).memory = memory := by
  cases hlookup : memory.lookup p with
  | some v =>
    rw [resolve_of_lookup_some hlookup] at h
    cases h
  | none =>
    rw [(resolve_of_lookup_none hlookup).1] at h
    rw [resolve, hlookup]
    dsimp only
    rw [h]

end Resolved

namespace Resolver

/-! ## What is remembered -/

/-- The variant of the first success of a pipeline among some answers. -/
def firstSuccess? (p : Pipeline) (answers : List (Pipeline × Resolution)) : Option Variant :=
  answers.findSome? fun a => if a.1 = p then a.2.outcome.toOption else none

variable {p : Pipeline}

/-- One answer holds the success of its own pipeline. -/
theorem firstSuccess?_singleton (a : Pipeline × Resolution) :
    firstSuccess? p [a] = if a.1 = p then a.2.outcome.toOption else none := by
  rw [firstSuccess?, List.findSome?_cons, List.findSome?_nil]
  split
  · next h => exact h.symm
  · next h => exact h.symm

/-- One request adds to what is remembered about a pipeline, where nothing was, its success. -/
theorem lookup_after (r : Resolver) (request : Request) (p : Pipeline) :
    (r.after request).memory.lookup p =
      (r.memory.lookup p).or (firstSuccess? p (r.answer? request).toList) := by
  cases request with
  | reprobe probe => simp [after, answer?, firstSuccess?]
  | resolve q =>
    rw [answer?, Option.toList_some, firstSuccess?_singleton, after, Resolved.lookup_resolve]
    by_cases h : p = q
    · rw [if_pos h, if_pos h.symm]
      subst h
      cases hlookup : r.memory.lookup p with
      | some v => rw [Resolved.resolve_of_lookup_some hlookup]; rfl
      | none => rw [Option.none_or]
    · rw [if_neg h, if_neg (Ne.symm h), Option.or_none]

/-- **What is remembered about a pipeline after some requests** is what was remembered before, or
else its first success among them. -/
theorem lookup_run (r : Resolver) (requests : List Request) (p : Pipeline) :
    (r.run requests).memory.lookup p =
      (r.memory.lookup p).or (firstSuccess? p (r.answers requests)) := by
  induction requests generalizing r with
  | nil => simp [run, answers, firstSuccess?]
  | cons request rest ih =>
    have hfirst : firstSuccess? p (r.answers (request :: rest)) =
        (firstSuccess? p (r.answer? request).toList).or
          (firstSuccess? p ((r.after request).answers rest)) := by
      rw [answers, firstSuccess?, List.findSome?_append]
      rfl
    rw [hfirst, ← Option.or_assoc, ← lookup_after]
    exact ih (r.after request)

/-- Requests are answered one part of them after the other. -/
theorem answers_append (r : Resolver) (requests more : List Request) :
    r.answers (requests ++ more) = r.answers requests ++ (r.run requests).answers more := by
  induction requests generalizing r with
  | nil => rfl
  | cons request rest ih =>
    rw [List.cons_append, answers, ih, answers, List.append_assoc]
    rfl

/-! ## The probe -/

/-- The probe that the last of some requests brought, or the first probe where none did. -/
def probeAfter (probe : Probe) (requests : List Request) : Probe :=
  requests.foldl (fun current request =>
    match request with
    | .reprobe next => next
    | .resolve _ => current) probe

/-- Pipelines are resolved with the probe that was brought last. -/
theorem probe_run (r : Resolver) (requests : List Request) :
    (r.run requests).probe = probeAfter r.probe requests := by
  induction requests generalizing r with
  | nil => rfl
  | cons request rest ih =>
    rw [run, List.foldl_cons, ← run, ih]
    cases request <;> rfl

/-! ## Other pipelines -/

/-- The request makes a difference to the pipeline: it is for that pipeline, or brings a probe. -/
def concerns (p : Pipeline) : Request → Bool
  | .reprobe _ => true
  | .resolve q => q = p

/-- What is seen of a resolution: what came of it, which paths were probed, and what was logged. -/
structure Seen where
  outcome : Except Failure Variant
  asked : List String
  log : List Log.Line

/-- What is seen of a resolution. -/
def Seen.of (r : Resolution) : Seen := ⟨r.outcome, r.asked, r.log⟩

/-- What is seen of the resolutions of one pipeline. -/
def seen (p : Pipeline) (answers : List (Pipeline × Resolution)) : List Seen :=
  (answers.filter fun a => a.1 = p).map fun a => .of a.2

/-- What is seen of a resolution depends on what is remembered about that pipeline alone. -/
theorem seen_resolve_congr {memory memory' : Resolved} (h : memory.lookup p = memory'.lookup p)
    (probe : Probe) : Seen.of (memory.resolve probe p) = Seen.of (memory'.resolve probe p) := by
  rw [Resolved.resolve, Resolved.resolve, ← h]
  cases memory.lookup p with
  | some v => rfl
  | none =>
    dsimp only
    cases probe.variant p <;> rfl

/-- Two resolvers with one probe, which remember the same about a pipeline, answer the requests that
concern it alike, also where only one of them gets requests for other pipelines. -/
theorem seen_answers_congr {r r' : Resolver} (hprobe : r.probe = r'.probe)
    (hlookup : r.memory.lookup p = r'.memory.lookup p) (requests : List Request) :
    seen p (r.answers requests) = seen p (r'.answers (requests.filter (concerns p))) := by
  induction requests generalizing r r' with
  | nil => rfl
  | cons request rest ih =>
    have hseen : ∀ (s : Resolver) (q : Request) (qs : List Request),
        seen p (s.answers (q :: qs)) =
          seen p (s.answer? q).toList ++ seen p ((s.after q).answers qs) := by
      intro s q qs
      rw [answers, seen, List.filter_append, List.map_append]
      rfl
    rw [hseen]
    cases request with
    | reprobe probe =>
      rw [List.filter_cons_of_pos rfl, hseen]
      exact congrArg _ (ih rfl hlookup)
    | resolve q =>
      by_cases hq : q = p
      · subst hq
        rw [List.filter_cons_of_pos (by simp [concerns]), hseen]
        have hsame := seen_resolve_congr hlookup r'.probe
        have hnow : seen q (r.answer? (.resolve q)).toList =
            seen q (r'.answer? (.resolve q)).toList := by
          simpa [seen, answer?, hprobe] using hsame
        have hnext : (r.after (.resolve q)).memory.lookup q =
            (r'.after (.resolve q)).memory.lookup q := by
          rw [after, after, Resolved.lookup_resolve, Resolved.lookup_resolve, if_pos rfl, if_pos rfl,
            hprobe]
          exact congrArg (fun s => s.outcome.toOption) hsame
        rw [hnow, @ih (r.after (.resolve q)) (r'.after (.resolve q)) hprobe hnext]
      · rw [List.filter_cons_of_neg (by simp [concerns, hq])]
        have hnone : seen p (r.answer? (.resolve q)).toList = [] := by
          simp [seen, answer?, hq]
        have hafter : (r.after (.resolve q)).memory.lookup p = r.memory.lookup p := by
          rw [after, Resolved.lookup_resolve, if_neg (Ne.symm hq)]
        rw [hnone, List.nil_append]
        exact ih hprobe (hafter.trans hlookup)

/-! ## The next pipeline -/

/-- What comes of a pipeline that a resolver is asked for after some requests. -/
structure HistoryLaw (probe : Probe) (requests : List Request) (p : Pipeline)
    (r : Resolver) (next : Resolution) : Prop where
  /-- It is the answer that follows those to the requests before. -/
  answers : (fresh probe).answers (requests ++ [Request.resolve p]) =
    (fresh probe).answers requests ++ [(p, next)]
  /-- Where the pipeline was resolved before, it has the variant of the first success; nothing is
  probed, and nothing is remembered anew. -/
  remembered : ∀ v, firstSuccess? p ((fresh probe).answers requests) = some v →
    next = ⟨.ok v, [], [], r.memory⟩
  /-- Otherwise it is what the probe that was brought last finds, and is probed for it. -/
  probed : firstSuccess? p ((fresh probe).answers requests) = none →
    next.outcome = (probeAfter probe requests).variant p ∧
      next.asked = (probeAfter probe requests).asked p.modulePaths
  /-- A failure changes nothing of what is remembered. -/
  failed : ∀ f, next.outcome = .error f → next.memory = r.memory
  /-- A success is remembered for this pipeline, and changes nothing for any other one. -/
  succeeded : ∀ v, next.outcome = .ok v →
    ∀ q, next.memory.lookup q = if q = p then some v else r.memory.lookup q
  /-- Nothing is remembered but first successes. -/
  memory : ∀ q, r.memory.lookup q = firstSuccess? q ((fresh probe).answers requests)
  /-- Without the requests for other pipelines the same is seen of this one, now and before. -/
  independent : seen p ((fresh probe).answers (requests ++ [Request.resolve p])) =
    seen p ((fresh probe).answers ((requests ++ [Request.resolve p]).filter (concerns p)))

/-- **A resolver's memory is exact**: after any sequence of requests, the next pipeline has the
variant of its first success, or else is resolved as if nothing had been asked before. -/
theorem resolve_history (probe : Probe) (requests : List Request) (p : Pipeline) :
    HistoryLaw probe requests p ((fresh probe).run requests)
      (((fresh probe).run requests).memory.resolve ((fresh probe).run requests).probe p) := by
  have hmemory : ∀ q, ((fresh probe).run requests).memory.lookup q =
      firstSuccess? q ((fresh probe).answers requests) := fun q => lookup_run _ requests q
  have hprobe := probe_run (fresh probe) requests
  refine ⟨answers_append _ requests _, fun v hv => ?_, fun hnone => ?_, fun f hf => ?_,
    fun v hv q => ?_, hmemory, ?_⟩
  · exact Resolved.resolve_of_lookup_some ((hmemory p).trans hv)
  · rw [hprobe]
    exact Resolved.resolve_of_lookup_none ((hmemory p).trans hnone)
  · exact Resolved.memory_resolve_of_error hf
  · rw [Resolved.lookup_resolve, hv]
    rfl
  · exact seen_answers_congr rfl rfl _

end Resolver

end HandlerPipeline

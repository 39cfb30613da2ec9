import HandlerPipeline.Variant.Resolve

/-!
# Resolvers

A resolver serves one build pass. It resolves one pipeline after the other, and what it finds out
about one of them it knows from then on. How it probes modules may change between two pipelines, as
files come and go.
-/

namespace HandlerPipeline

/-- What is asked of a resolver. -/
inductive Request where
  /-- From now on, modules are probed like this. -/
  | reprobe (probe : Probe)
  | resolve (p : Pipeline)

/-- A resolver: how it probes modules, and what it remembers. -/
structure Resolver where
  probe : Probe
  memory : Resolved

namespace Resolver

/-- The resolver that remembers nothing yet. -/
def fresh (probe : Probe) : Resolver := ⟨probe, []⟩

/-- The resolver after a request. -/
def after (r : Resolver) : Request → Resolver
  | .reprobe probe => { r with probe }
  | .resolve p => { r with memory := (r.memory.resolve r.probe p).memory }

/-- The pipeline that a request is about, and what comes of it. -/
def answer? (r : Resolver) : Request → Option (Pipeline × Resolution)
  | .reprobe _ => none
  | .resolve p => some (p, r.memory.resolve r.probe p)

/-- The resolver after some requests. -/
def run (r : Resolver) (requests : List Request) : Resolver := requests.foldl after r

/-- What comes of some requests, one after the other. -/
def answers (r : Resolver) : List Request → List (Pipeline × Resolution)
  | [] => []
  | request :: rest => (r.answer? request).toList ++ (r.after request).answers rest

end Resolver

end HandlerPipeline

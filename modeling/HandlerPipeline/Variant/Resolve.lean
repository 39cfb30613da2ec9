import HandlerPipeline.Failure
import HandlerPipeline.Log
import HandlerPipeline.Pipeline
import HandlerPipeline.Variant

/-!
# Resolving variants

A probe says for a module path whether the module is plain or typed, or that it has no source. The
variant of a pipeline is the strictest among its modules, each of which is probed once, in order of
first appearance; the first module without a source ends the search, and so does the first on which
the probe itself fails. A resolver remembers what it found out for each pipeline, but no failure.
-/

namespace HandlerPipeline

/-- Classifies modules by their paths, unless it fails. `remarks` is what it logs while it
classifies a path. -/
structure Probe where
  classify : String → Except Failure (Option Variant)
  remarks : String → List Log.Line

namespace Probe

/-- The probe that knows the modules of a table; the last entry of a path counts. -/
def ofTable (table : List (String × Option Variant)) : Probe where
  classify path := .ok (table.reverse.lookup path).join
  remarks _ := []

/-- The variant of a module, which has to have a source. -/
def moduleVariant (probe : Probe) (path : String) : Except Failure Variant :=
  match probe.classify path with
  | .ok (some v) => .ok v
  | .ok none => .error (.build (.unresolvedModule path))
  | .error f => .error f

/-- The paths that are probed: all, or those up to the first one that is not found. -/
def asked (probe : Probe) : List String → List String
  | [] => []
  | path :: rest => path :: if (probe.moduleVariant path).isOk then probe.asked rest else []

/-- The strictest of `best` and the variants of the paths. -/
def strictest (probe : Probe) (best : Variant) : List String → Except Failure Variant
  | [] => .ok best
  | path :: rest =>
    match probe.moduleVariant path with
    | .ok v => probe.strictest (best.max v) rest
    | .error f => .error f

/-- The variant of a pipeline. -/
def variant (probe : Probe) (p : Pipeline) : Except Failure Variant :=
  probe.strictest .weakest p.modulePaths

end Probe

/-- What a resolver remembers: pipelines with the variants that were found for them. -/
abbrev Resolved := List (Pipeline × Variant)

/-- Remembers the variant of a pipeline, in the place of what was remembered about it before. -/
def Resolved.remember (p : Pipeline) (v : Variant) : Resolved → Resolved
  | [] => [(p, v)]
  | (q, w) :: rest => if q = p then (p, v) :: rest else (q, w) :: Resolved.remember p v rest

/-- What comes of resolving a pipeline. -/
structure Resolution where
  outcome : Except Failure Variant
  /-- The paths that were probed, in order. -/
  asked : List String
  log : List Log.Line
  /-- What is remembered from now on. -/
  memory : Resolved

/-- Resolves a pipeline, given what is remembered. -/
def Resolved.resolve (memory : Resolved) (probe : Probe) (p : Pipeline) : Resolution :=
  match memory.lookup p with
  | some v => ⟨.ok v, [], [], memory⟩
  | none =>
    let asked := probe.asked p.modulePaths
    let remarks := asked.flatMap probe.remarks
    match probe.variant p with
    | .error f => ⟨.error f, asked, remarks, memory⟩
    | .ok v =>
      let found : Log.Line :=
        ⟨.resolver, .debug, "Function " ++ p.functionName ++ " resolved to " ++ v.name⟩
      ⟨.ok v, asked, remarks ++ [found], memory.remember p v⟩

end HandlerPipeline

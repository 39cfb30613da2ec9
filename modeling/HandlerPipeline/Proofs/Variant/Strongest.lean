import HandlerPipeline.Proofs.Pipeline.Bindings
import HandlerPipeline.Variant.Resolve

/-!
# The strongest variant

A pipeline has the strictest of the variants of its modules (`Probe.variant_eq_ok_iff`), or else the
failure of the first module that has none (`Probe.strictest_eq_error_iff`). Which variant it is
depends on the set of its modules alone, and grows with that set and with what the probe says of
them (`IsStrictest.strictness_le`).

Finding it is one pass over the modules (`Probe.pass`), in which the probe is asked for the modules
up to the first that has no variant, and for no other (`Probe.pass_noting`). The theorem
`Probe.variant_strongest` puts these together.
-/

namespace HandlerPipeline

/-! ## The stricter of two variants -/

namespace Variant

/-- The stricter of two variants is at most as strict as a third iff both are. -/
theorem strictness_max_le_iff {a b c : Variant} :
    (a.max b).strictness ≤ c.strictness ↔
      a.strictness ≤ c.strictness ∧ b.strictness ≤ c.strictness := by
  rw [max]
  split <;> omega

/-- Variants of one rank are the same. -/
theorem strictness_inj {a b : Variant} : a.strictness = b.strictness ↔ a = b := by
  cases a <;> cases b <;> decide

/-- No variant is weaker than the weakest. -/
theorem strictness_weakest_le (v : Variant) : weakest.strictness ≤ v.strictness := Nat.zero_le _

/-- A variant that is at least as strict as two others is the stricter one of them iff it is one of
them. -/
theorem eq_max_iff {a b c : Variant} (ha : a.strictness ≤ c.strictness)
    (hb : b.strictness ≤ c.strictness) : c = a.max b ↔ c = a ∨ c = b := by
  simp only [← strictness_inj, max]
  split <;> omega

end Variant

/-- `v` is the strictest of the variants of some modules, all of which have one; without modules it
is the weakest variant. -/
structure IsStrictest (probe : Probe) (paths : List String) (v : Variant) : Prop where
  atLeast : ∀ path ∈ paths, ∃ w, probe.classify path = .ok (some w) ∧ w.strictness ≤ v.strictness
  attained : (∃ path ∈ paths, probe.classify path = .ok (some v)) ∨ paths = [] ∧ v = .weakest

namespace Probe

variable {probe probe' : Probe} {paths paths' before after : List String} {path : String}
  {best v v' : Variant} {f : Failure}

/-- Every one of the modules has a variant. -/
def Knows (probe : Probe) (paths : List String) : Prop :=
  ∀ path ∈ paths, ∃ v, probe.classify path = .ok (some v)

/-- The module has no variant: it has no source, or the probe fails. -/
inductive Fails (probe : Probe) (path : String) : Failure → Prop where
  | unresolved (h : probe.classify path = .ok none) :
      Fails probe path (.build (.unresolvedModule path))
  | failed {f : Failure} (h : probe.classify path = .error f) : Fails probe path f

/-! ## One module -/

/-- A module has the variant that the probe says. -/
theorem moduleVariant_eq_ok_iff :
    probe.moduleVariant path = .ok v ↔ probe.classify path = .ok (some v) := by
  rw [moduleVariant]
  split
  · next w hw => rw [hw]; simp
  · next hnone => rw [hnone]; simp
  · next g hg => rw [hg]; simp

/-- A module that has no variant fails. -/
theorem moduleVariant_eq_error_iff : probe.moduleVariant path = .error f ↔ probe.Fails path f := by
  constructor
  · intro h
    rw [moduleVariant] at h
    split at h
    · cases h
    · next hnone =>
      cases h
      exact .unresolved hnone
    · next g hg =>
      cases h
      exact .failed hg
  · rintro (h | h)
    · rw [moduleVariant, h]
    · rw [moduleVariant, h]

/-- A module that fails has no variant. -/
theorem Fails.classify_ne (h : probe.Fails path f) (v : Variant) :
    probe.classify path ≠ .ok (some v) := by
  intro hv
  rw [← moduleVariant_eq_error_iff, moduleVariant_eq_ok_iff.2 hv] at h
  cases h

/-! ## The first failure -/

/-- A module that fails while all before it have a variant stands behind modules that have one. -/
theorem exists_first_fails_iff : (∃ before path after, paths = before ++ path :: after ∧
    probe.Knows before ∧ probe.Fails path f) ↔
      ∃ path, StandsBehind (∃ v, probe.classify · = .ok (some v)) paths path ∧
        probe.Fails path f := by
  rw [exists_comm]
  simp only [StandsBehind, Knows, ← and_assoc, exists_and_right]

/-- The pass fails iff some module has no variant while all before it have one; it fails as that
module does. -/
theorem strictest_eq_error_iff : probe.strictest best paths = .error f ↔
    ∃ before path after, paths = before ++ path :: after ∧ probe.Knows before ∧
      probe.Fails path f := by
  rw [exists_first_fails_iff]
  induction paths generalizing best with
  | nil => simp [strictest, not_standsBehind_nil]
  | cons first rest ih =>
    simp only [strictest, standsBehind_cons_iff, or_and_right, exists_or, exists_eq_left]
    split
    · next w hw =>
      have hknown : probe.classify first = .ok (some w) := moduleVariant_eq_ok_iff.1 hw
      have hnot : ¬ probe.Fails first f := fun hfails => hfails.classify_ne w hknown
      rw [ih]
      simp [hknown, hnot]
    · next g hg =>
      have hunknown : ¬ ∃ v, probe.classify first = .ok (some v) := by
        rintro ⟨v, hv⟩
        exact (moduleVariant_eq_error_iff.1 hg).classify_ne v hv
      rw [← moduleVariant_eq_error_iff, hg]
      simp [hunknown]

/-- No module is asked for out of turn. -/
theorem asked_prefix (probe : Probe) (paths : List String) : probe.asked paths <+: paths := by
  induction paths with
  | nil => exact List.prefix_rfl
  | cons path rest ih =>
    rw [asked, List.prefix_cons_inj]
    split
    · exact ih
    · exact List.nil_prefix

/-- Behind modules that have a variant, the next one is asked for. -/
theorem asked_append_of_knows (h : probe.Knows before) (paths : List String) :
    probe.asked (before ++ paths) = before ++ probe.asked paths := by
  induction before with
  | nil => rfl
  | cons first before ih =>
    obtain ⟨⟨v, hv⟩, hbefore⟩ := List.forall_mem_cons.1 h
    rw [List.cons_append, asked, moduleVariant_eq_ok_iff.2 hv, ih hbefore]
    rfl

/-- Nothing is asked behind a module that has no variant. -/
theorem asked_of_fails (h : probe.Fails path f) (after : List String) :
    probe.asked (path :: after) = [path] := by
  rw [asked, moduleVariant_eq_error_iff.2 h]
  rfl

/-! ## The strictest variant -/

/-- The pass finds a variant iff every module has one: the strictest of these and of `best`. -/
theorem strictest_eq_ok_iff : probe.strictest best paths = .ok v ↔
    (∀ path ∈ paths, ∃ w, probe.classify path = .ok (some w) ∧ w.strictness ≤ v.strictness) ∧
      best.strictness ≤ v.strictness ∧
      (v = best ∨ ∃ path ∈ paths, probe.classify path = .ok (some v)) := by
  induction paths generalizing best with
  | nil =>
    simp only [strictest, Except.ok.injEq, List.not_mem_nil, false_imp_iff, implies_true, true_and,
      false_and, exists_false, or_false]
    constructor
    · rintro rfl
      exact ⟨Nat.le_refl _, rfl⟩
    · exact fun h => h.2.symm
  | cons first rest ih =>
    rw [strictest]
    split
    · next w hw =>
      rw [moduleVariant_eq_ok_iff] at hw
      have hle : (∃ u, probe.classify first = .ok (some u) ∧ u.strictness ≤ v.strictness) ↔
          w.strictness ≤ v.strictness := by simp [hw]
      have heq : probe.classify first = .ok (some v) ↔ v = w := by simp [hw, eq_comm]
      rw [ih, Variant.strictness_max_le_iff, List.forall_mem_cons, List.exists_mem_cons_iff, hle,
        heq]
      constructor
      · rintro ⟨hrest, ⟨hbest, hw⟩, hattained⟩
        rw [Variant.eq_max_iff hbest hw, or_assoc] at hattained
        exact ⟨⟨hw, hrest⟩, hbest, hattained⟩
      · rintro ⟨⟨hw, hrest⟩, hbest, hattained⟩
        rw [← or_assoc, ← Variant.eq_max_iff hbest hw] at hattained
        exact ⟨hrest, ⟨hbest, hw⟩, hattained⟩
    · next g hg =>
      rw [moduleVariant_eq_error_iff] at hg
      simp only [reduceCtorEq, List.forall_mem_cons, false_iff]
      rintro ⟨⟨⟨w, hw, -⟩, -⟩, -⟩
      exact hg.classify_ne w hw

/-- **A pipeline has the strictest of the variants of its modules**, where all of them have one. -/
theorem variant_eq_ok_iff {p : Pipeline} :
    probe.variant p = .ok v ↔ IsStrictest probe p.modulePaths v := by
  rw [variant, strictest_eq_ok_iff]
  constructor
  · rintro ⟨hall, -, rfl | hattained⟩
    · refine ⟨hall, ?_⟩
      cases hpaths : p.modulePaths with
      | nil => exact .inr ⟨rfl, rfl⟩
      | cons first rest =>
        -- What is at most as strict as the weakest variant is the weakest variant.
        obtain ⟨w, hw, hle⟩ := hall first (by rw [hpaths]; exact .head _)
        obtain rfl : w = .weakest :=
          Variant.strictness_inj.1 (Nat.le_antisymm hle (Variant.strictness_weakest_le w))
        exact .inl ⟨first, .head _, hw⟩
    · exact ⟨hall, .inl hattained⟩
  · rintro ⟨hall, hattained | ⟨-, rfl⟩⟩
    · exact ⟨hall, Variant.strictness_weakest_le v, .inr hattained⟩
    · exact ⟨hall, Nat.le_refl _, .inl rfl⟩

/-- Where every module has a variant, one of these is the strictest. -/
theorem exists_strictest_of_knows (h : probe.Knows paths) :
    ∃ v, probe.strictest best paths = .ok v := by
  cases hv : probe.strictest best paths with
  | ok v => exact ⟨v, rfl⟩
  | error f =>
    obtain ⟨before, path, after, rfl, -, hfails⟩ := strictest_eq_error_iff.1 hv
    obtain ⟨w, hw⟩ := h path (by simp)
    exact absurd hw (hfails.classify_ne w)

end Probe

namespace IsStrictest

variable {probe probe' : Probe} {paths paths' : List String} {v v' : Variant}

/-- The strictest variant of modules is at most that of more modules of which no less is said. -/
theorem strictness_le (h : IsStrictest probe paths v) (h' : IsStrictest probe' paths' v')
    (hpaths : ∀ path ∈ paths, path ∈ paths')
    (hsaid : ∀ path ∈ paths, ∀ w, probe.classify path = .ok (some w) →
      ∃ w', probe'.classify path = .ok (some w') ∧ w.strictness ≤ w'.strictness) :
    v.strictness ≤ v'.strictness := by
  rcases h.attained with ⟨path, hpath, hv⟩ | ⟨-, rfl⟩
  · obtain ⟨w', hw', hle⟩ := hsaid path hpath v hv
    obtain ⟨u, hu, hbound⟩ := h'.atLeast path (hpaths path hpath)
    obtain rfl : w' = u := by simpa [hw'] using hu
    exact Nat.le_trans hle hbound
  · exact Variant.strictness_weakest_le v'

/-- Neither the order of the modules counts, nor how often they are named. -/
theorem of_mem_iff (h : IsStrictest probe paths v) (hpaths : ∀ path, path ∈ paths' ↔ path ∈ paths) :
    IsStrictest probe paths' v := by
  refine ⟨fun path hpath => h.atLeast path ((hpaths path).1 hpath), ?_⟩
  rcases h.attained with ⟨path, hpath, hv⟩ | ⟨rfl, rfl⟩
  · exact .inl ⟨path, (hpaths path).2 hpath, hv⟩
  · refine .inr ⟨List.eq_nil_iff_forall_not_mem.2 fun path hpath => ?_, rfl⟩
    exact absurd ((hpaths path).1 hpath) List.not_mem_nil

end IsStrictest

namespace Pipeline

variable {p p' : Pipeline}

/-- Pipelines with the same references have the same modules. -/
theorem mem_modulePaths_of_references (h : ∀ r, r ∈ p'.references → r ∈ p.references) :
    ∀ path, path ∈ p'.modulePaths → path ∈ p.modulePaths := by
  intro path hpath
  obtain ⟨r, hr, rfl⟩ := mem_modulePaths.1 hpath
  exact mem_modulePaths.2 ⟨r, h r hr, rfl⟩

/-- The references of a pipeline are those of its steps. -/
theorem references_subset_of_steps (h : ∀ s ∈ p'.steps, s ∈ p.steps) :
    ∀ r, r ∈ p'.references → r ∈ p.references := by
  intro r hr
  obtain ⟨s, hs, hr⟩ := List.mem_flatMap.1 hr
  exact List.mem_flatMap.2 ⟨s, h s hs, hr⟩

/-- The modules of a pipeline are those of its steps' handlers, for success and for failure. -/
theorem mem_modulePaths_iff_step {path : String} : path ∈ p.modulePaths ↔
    ∃ s ∈ p.steps, ∃ r, (s.success? = some r ∨ s.failure? = some r) ∧ r.modulePath = path := by
  simp only [mem_modulePaths, references, List.mem_flatMap, Step.references, List.mem_append,
    Option.mem_toList]
  constructor
  · rintro ⟨r, ⟨s, hs, hr⟩, hpath⟩
    exact ⟨s, hs, r, hr, hpath⟩
  · rintro ⟨s, hs, r, hr, hpath⟩
    exact ⟨r, ⟨s, hs, hr⟩, hpath⟩

end Pipeline

namespace Probe

/-! ## Asking -/

/-- One pass over modules: each is asked for in turn, up to the first that has no variant. Whoever
is asked may change with every question. -/
def pass {State : Type} (ask : String → State → Except Failure (Option Variant) × State) :
    Variant → List String → State → Except Failure Variant × State
  | best, [], s => (.ok best, s)
  | best, path :: rest, s =>
    match ask path s with
    | (.ok (some v), s') => pass ask (best.max v) rest s'
    | (.ok none, s') => (.error (.build (.unresolvedModule path)), s')
    | (.error f, s') => (.error f, s')

/-- The probe, which notes the modules that it is asked for. -/
def noting (probe : Probe) (path : String) (noted : List String) :
    Except Failure (Option Variant) × List String :=
  (probe.classify path, noted ++ [path])

variable {probe : Probe} {best : Variant} {paths : List String}

/-- In one pass, the strictest variant is found, and the probe is asked for what `asked` says. -/
theorem pass_noting (noted : List String) : pass probe.noting best paths noted =
    (probe.strictest best paths, noted ++ probe.asked paths) := by
  induction paths generalizing best noted with
  | nil => rw [pass, strictest, asked, List.append_nil]
  | cons path rest ih =>
    rw [pass, noting, strictest, asked, moduleVariant]
    split
    · next v s' h =>
      obtain ⟨hv, rfl⟩ := Prod.mk.inj h
      rw [hv, ih]
      simp [Except.isOk, Except.toBool]
    · next s' h =>
      obtain ⟨hnone, rfl⟩ := Prod.mk.inj h
      rw [hnone]
      rfl
    · next f s' h =>
      obtain ⟨hf, rfl⟩ := Prod.mk.inj h
      rw [hf]
      rfl

/-! ## The variant of a pipeline -/

section Variants

variable {probe' : Probe} {p p' : Pipeline} {v v' : Variant} {f : Failure}

/-- The variant depends on the references of a pipeline alone, and not on their order. -/
theorem variant_eq_ok_congr (h : ∀ r, r ∈ p'.references ↔ r ∈ p.references) :
    probe.variant p' = .ok v ↔ probe.variant p = .ok v := by
  have hpaths : ∀ path, path ∈ p'.modulePaths ↔ path ∈ p.modulePaths := fun path =>
    ⟨Pipeline.mem_modulePaths_of_references (fun r => (h r).1) path,
      Pipeline.mem_modulePaths_of_references (fun r => (h r).2) path⟩
  rw [variant_eq_ok_iff, variant_eq_ok_iff]
  exact ⟨fun hv => hv.of_mem_iff fun path => (hpaths path).symm, fun hv => hv.of_mem_iff hpaths⟩

/-- The failure is that of the first module without a variant, the last one that is asked for. -/
theorem variant_eq_error_iff : probe.variant p = .error f ↔ ∃ before path after,
    p.modulePaths = before ++ path :: after ∧ probe.Knows before ∧ probe.Fails path f ∧
      probe.asked p.modulePaths = before ++ [path] := by
  constructor
  · intro hf
    obtain ⟨before, path, after, hpaths, hbefore, hfails⟩ := strictest_eq_error_iff.1 hf
    refine ⟨before, path, after, hpaths, hbefore, hfails, ?_⟩
    rw [hpaths, asked_append_of_knows hbefore, asked_of_fails hfails]
  · rintro ⟨before, path, after, hpaths, hbefore, hfails, -⟩
    exact strictest_eq_error_iff.2 ⟨before, path, after, hpaths, hbefore, hfails⟩

/-- Further steps do not weaken the variant. -/
theorem exists_variant_of_steps (h : ∀ s ∈ p.steps, s ∈ p'.steps)
    (hv' : probe.variant p' = .ok v') :
    ∃ v, probe.variant p = .ok v ∧ v.strictness ≤ v'.strictness := by
  have hpaths := Pipeline.mem_modulePaths_of_references (Pipeline.references_subset_of_steps h)
  rw [variant_eq_ok_iff] at hv'
  obtain ⟨v, hv⟩ : ∃ v, probe.variant p = .ok v :=
    exists_strictest_of_knows fun path hpath =>
      (hv'.atLeast path (hpaths path hpath)).imp fun _ hw => hw.1
  exact ⟨v, hv, (variant_eq_ok_iff.1 hv).strictness_le hv' hpaths
    fun _ _ w hw => ⟨w, hw, Nat.le_refl _⟩⟩

/-- Stronger answers do not weaken it. -/
theorem exists_variant_of_stronger (hv : probe.variant p = .ok v)
    (h : ∀ path ∈ p.modulePaths, ∀ w, probe.classify path = .ok (some w) →
      ∃ w', probe'.classify path = .ok (some w') ∧ w.strictness ≤ w'.strictness) :
    ∃ v', probe'.variant p = .ok v' ∧ v.strictness ≤ v'.strictness := by
  rw [variant_eq_ok_iff] at hv
  obtain ⟨v', hv'⟩ : ∃ v', probe'.variant p = .ok v' :=
    exists_strictest_of_knows fun path hpath => by
      obtain ⟨w, hw, -⟩ := hv.atLeast path hpath
      exact (h path hpath w hw).imp fun _ hw' => hw'.1
  exact ⟨v', hv', hv.strictness_le (variant_eq_ok_iff.1 hv') (fun _ hpath => hpath) h⟩

end Variants

/-- What a probe is asked for and what comes of it, for one pipeline. -/
structure StrongestLaw (probe : Probe) (p : Pipeline) : Prop where
  /-- The modules are those of the handlers of the steps, for success and for failure, each once. -/
  modules : p.modulePaths.Nodup ∧ ∀ path, path ∈ p.modulePaths ↔
    ∃ s ∈ p.steps, ∃ r, (s.success? = some r ∨ s.failure? = some r) ∧ r.modulePath = path
  /-- They stand in the order in which they first appear in the steps, where the handler for success
  comes before the one for failure. -/
  inOrder : p.modulePaths.Pairwise fun a b =>
    let appearances := (p.steps.flatMap fun s => s.success?.toList ++ s.failure?.toList).map
      Reference.modulePath
    appearances.idxOf a < appearances.idxOf b
  /-- In one pass over them the variant is found, or the failure; the probe is asked for these
  modules in this order, for none twice. -/
  asked : pass probe.noting .weakest p.modulePaths [] =
      (probe.variant p, probe.asked p.modulePaths) ∧
    probe.asked p.modulePaths <+: p.modulePaths ∧ (probe.asked p.modulePaths).Nodup
  /-- There is a variant iff every module has one; it is the strictest of these. -/
  strictest : ∀ v, probe.variant p = .ok v ↔ IsStrictest probe p.modulePaths v
  /-- Where every module has a variant there is one, and the probe is asked for every module. -/
  resolved : probe.Knows p.modulePaths →
    (∃ v, probe.variant p = .ok v) ∧ probe.asked p.modulePaths = p.modulePaths
  /-- Without references, it is the weakest variant. -/
  bare : p.references = [] → probe.variant p = .ok .plain
  /-- Otherwise some module is the first that has no variant; it is the one that is reported, unless
  the probe fails on it, and the last one that is asked for. -/
  failed : ∀ f, probe.variant p = .error f ↔ ∃ before path after,
    p.modulePaths = before ++ path :: after ∧ probe.Knows before ∧ probe.Fails path f ∧
      probe.asked p.modulePaths = before ++ [path]
  /-- Neither the order of the steps counts, nor how often they stand there. -/
  sameSteps : ∀ p' : Pipeline, (∀ s, s ∈ p'.steps ↔ s ∈ p.steps) →
    ∀ v, probe.variant p' = .ok v ↔ probe.variant p = .ok v
  /-- Nor does it count on which side of a step a reference stands. -/
  sameReferences : ∀ p' : Pipeline, (∀ r, r ∈ p'.references ↔ r ∈ p.references) →
    ∀ v, probe.variant p' = .ok v ↔ probe.variant p = .ok v
  /-- Further steps do not weaken it. -/
  grows : ∀ p' : Pipeline, (∀ s ∈ p.steps, s ∈ p'.steps) → ∀ v', probe.variant p' = .ok v' →
    ∃ v, probe.variant p = .ok v ∧ v.strictness ≤ v'.strictness
  /-- Nor do stronger answers. -/
  strengthened : ∀ (probe' : Probe) (v : Variant), probe.variant p = .ok v →
    (∀ path ∈ p.modulePaths, ∀ w, probe.classify path = .ok (some w) →
      ∃ w', probe'.classify path = .ok (some w') ∧ w.strictness ≤ w'.strictness) →
    ∃ v', probe'.variant p = .ok v' ∧ v.strictness ≤ v'.strictness

/-- **The variant of a pipeline is the strongest that its modules have, and its failure is that of
the first module that has none**, behind which nothing is asked. -/
theorem variant_strongest (probe : Probe) (p : Pipeline) : StrongestLaw probe p where
  modules := ⟨p.nodup_modulePaths, fun _ => Pipeline.mem_modulePaths_iff_step⟩
  inOrder := pairwise_firstAppearances _
  asked := by
    have hprefix := probe.asked_prefix p.modulePaths
    exact ⟨pass_noting [], hprefix, p.nodup_modulePaths.sublist hprefix.sublist⟩
  strictest _ := variant_eq_ok_iff
  resolved hknows := by
    have hasked := asked_append_of_knows hknows []
    rw [List.append_nil, Probe.asked, List.append_nil] at hasked
    exact ⟨exists_strictest_of_knows hknows, hasked⟩
  bare hbare := by
    rw [variant, Pipeline.modulePaths, hbare]
    rfl
  failed _ := variant_eq_error_iff
  sameSteps _ h _ := variant_eq_ok_congr fun r =>
    ⟨Pipeline.references_subset_of_steps (fun s => (h s).1) r,
      Pipeline.references_subset_of_steps (fun s => (h s).2) r⟩
  sameReferences _ h _ := variant_eq_ok_congr h
  grows _ h _ hv' := exists_variant_of_steps h hv'
  strengthened _ _ hv h := exists_variant_of_stronger hv h

end Probe

end HandlerPipeline

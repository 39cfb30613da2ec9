import HandlerPipeline.Proofs.Pipeline.Bindings
import Mathlib.Data.List.Nodup

/-!
# Collisions of binding names

Binding goes through the modules of a pipeline in order of first appearance and stops at the first
one whose name is taken (`Pipeline.bindAfter_eq_error_iff`). The names before it differ from each
other, so exactly one module has taken that name, and these two are reported
(`Pipeline.bindings_eq_error_iff`). Binding fails exactly where two modules of a pipeline have one
name (`Pipeline.bindings_collisions`).
-/

namespace HandlerPipeline.Pipeline

variable {p : Pipeline} {reserved paths : List String} {made : List (String × String)}
  {e : BuildError}

/-! ## Where binding stops -/

/-- Binding fails, after other bindings were made, iff some path has a name that is taken by then,
while the paths before it could be bound; the first binding of that name is reported with it. -/
theorem bindAfter_eq_error_iff : bindAfter reserved made paths = .error e ↔
    ∃ before second after bs owner, paths = before ++ second :: after ∧
      bindAfter reserved made before = .ok bs ∧
      (made ++ bs).find? (·.2 = ModulePath.bindingName reserved second) = some owner ∧
      e = .bindingCollision (ModulePath.bindingName reserved second) owner.1 second := by
  induction paths generalizing made with
  | nil => simp [bindAfter]
  | cons path rest ih =>
    cases hfind : made.find? (·.2 = ModulePath.bindingName reserved path) with
    | some owner =>
      rw [bindAfter_cons_of_taken hfind, Except.error.injEq]
      constructor
      · rintro rfl
        exact ⟨[], path, rest, [], owner, rfl, rfl, by rwa [List.append_nil], rfl⟩
      · rintro ⟨before, second, after, bs, owner', heq, hbefore, howner, rfl⟩
        cases before with
        | nil =>
          cases heq
          cases hbefore
          rw [List.append_nil, hfind] at howner
          cases howner
          rfl
        | cons first before =>
          -- The name of the first path is taken, so nothing behind it is bound.
          cases heq
          rw [bindAfter_cons_of_taken hfind] at hbefore
          cases hbefore
    | none =>
      rw [bindAfter_cons_of_free hfind, map_eq_error_iff, ih]
      constructor
      · rintro ⟨before, second, after, bs, owner, rfl, hbefore, howner, rfl⟩
        refine ⟨path :: before, second, after, (path, ModulePath.bindingName reserved path) :: bs,
          owner, rfl, ?_, by rwa [List.append_cons], rfl⟩
        rw [bindAfter_cons_of_free hfind, hbefore]
        rfl
      · rintro ⟨before, second, after, bs, owner, heq, hbefore, howner, rfl⟩
        cases before with
        | nil =>
          cases heq
          cases hbefore
          rw [List.append_nil, hfind] at howner
          cases howner
        | cons first before =>
          cases heq
          rw [bindAfter_cons_of_free hfind] at hbefore
          obtain ⟨bs', hbs', rfl⟩ := map_eq_ok_iff.1 hbefore
          rw [List.append_cons] at howner
          exact ⟨before, second, after, bs', owner, rfl, hbs', howner, rfl⟩

/-- Binding fails with a collision only. -/
theorem eq_bindingCollision_of_bindAfter (h : bindAfter reserved made paths = .error e) :
    ∃ name first second, e = .bindingCollision name first second := by
  obtain ⟨_, second, _, _, owner, _, _, _, he⟩ := bindAfter_eq_error_iff.1 h
  exact ⟨_, owner.1, second, he⟩

/-! ## The two modules that collide -/

/-- `second` is the first of the paths whose name an earlier one has taken, and `first` is the one
that has taken it: the names before `second` differ, and among them only that of `first` is the
name of `second`. -/
def IsFirstCollision (reserved paths : List String) (name first second : String) : Prop :=
  ∃ before after, paths = before ++ second :: after ∧
    (before.map (ModulePath.bindingName reserved)).Nodup ∧
    ModulePath.bindingName reserved second = name ∧ first ∈ before ∧
    ∀ path ∈ before, ModulePath.bindingName reserved path = name ↔ path = first

/-- Where no name is bound twice, the binding of a name is the one that is found. -/
theorem find?_eq_some_iff {bs : List (String × String)} (hnodup : (bs.map Prod.snd).Nodup)
    {name : String} {b : String × String} :
    bs.find? (·.2 = name) = some b ↔ b ∈ bs ∧ b.2 = name := by
  constructor
  · intro h
    exact ⟨List.mem_of_find?_eq_some h, by simpa using List.find?_some h⟩
  · rintro ⟨hb, rfl⟩
    have hfound : (bs.find? (·.2 = b.2)).isSome := List.find?_isSome.2 ⟨b, hb, by simp⟩
    obtain ⟨b', hb'⟩ := Option.isSome_iff_exists.1 hfound
    have hname : b'.2 = b.2 := by simpa using List.find?_some hb'
    rw [hb', List.inj_on_of_nodup_map hnodup (List.mem_of_find?_eq_some hb') hb hname]

/-- Binding fails iff some module is the first one whose name is taken; it is reported with the
module that has taken the name. -/
theorem bindings_eq_error_iff : p.bindings reserved = .error e ↔
    ∃ name first second, e = .bindingCollision name first second ∧
      IsFirstCollision reserved p.modulePaths name first second := by
  rw [bindings, bindAfter_eq_error_iff]
  constructor
  · rintro ⟨before, second, after, bs, owner, hpaths, hbefore, howner, rfl⟩
    obtain ⟨rfl, hnodup, -⟩ := bindAfter_eq_ok_iff.1 hbefore
    rw [List.nil_append, find?_eq_some_iff hnodup] at howner
    obtain ⟨first, hfirst, rfl⟩ := List.mem_map.1 howner.1
    rw [List.map_map] at hnodup
    refine ⟨_, first, second, rfl, before, after, hpaths, hnodup, rfl, hfirst, ?_⟩
    intro path hpath
    constructor
    · intro h
      exact List.inj_on_of_nodup_map hnodup hpath hfirst (h.trans howner.2.symm)
    · rintro rfl
      exact howner.2
  · rintro ⟨name, first, second, rfl, before, after, hpaths, hnodup, rfl, hfirst, honly⟩
    have hbefore : bindAfter reserved [] before =
        .ok (before.map fun path => (path, ModulePath.bindingName reserved path)) := by
      rw [bindAfter_eq_ok_iff, List.map_map]
      exact ⟨rfl, hnodup, by simp⟩
    refine ⟨before, second, after, _, (first, ModulePath.bindingName reserved first), hpaths,
      hbefore, ?_, rfl⟩
    rw [List.nil_append, find?_eq_some_iff (bindAfter_eq_ok_iff.1 hbefore).2.1]
    exact ⟨List.mem_map_of_mem hfirst, (honly first hfirst).2 rfl⟩

/-! ## Binding as a whole -/

/-- Modules can be bound iff different ones have different names. -/
theorem exists_bindings_iff : (∃ bs, p.bindings reserved = .ok bs) ↔
    ∀ a ∈ p.modulePaths, ∀ b ∈ p.modulePaths,
      ModulePath.bindingName reserved a = ModulePath.bindingName reserved b → a = b := by
  constructor
  · rintro ⟨bs, hbs⟩ a ha b hb hname
    obtain ⟨rfl, hnodup⟩ := bindings_eq_ok_iff.1 hbs
    rw [List.map_map] at hnodup
    exact List.inj_on_of_nodup_map hnodup ha hb hname
  · intro hinjective
    refine ⟨_, bindings_eq_ok_iff.2 ⟨rfl, ?_⟩⟩
    rw [List.map_map]
    exact List.Nodup.map_on hinjective p.nodup_modulePaths

/-- What binding the modules of a pipeline comes to. -/
structure BindingLaw (p : Pipeline) (reserved : List String) : Prop where
  /-- It succeeds iff different modules of the pipeline have different names. -/
  succeeds : (∃ bs, p.bindings reserved = .ok bs) ↔
    ∀ a ∈ p.modulePaths, ∀ b ∈ p.modulePaths,
      ModulePath.bindingName reserved a = ModulePath.bindingName reserved b → a = b
  /-- The modules are those of the references, each once. -/
  modules : p.modulePaths.Nodup ∧
    ∀ path, path ∈ p.modulePaths ↔ ∃ r ∈ p.references, r.modulePath = path
  /-- They stand in the order in which they first appear in the steps, where the handler for success
  comes before the one for failure. -/
  inOrder : p.modulePaths.Pairwise fun a b =>
    let appearances := (p.steps.flatMap fun s => s.success?.toList ++ s.failure?.toList).map
      Reference.modulePath
    appearances.idxOf a < appearances.idxOf b
  /-- On success, every module is bound to its own name, in that order, and no name twice. -/
  bound : ∀ bs, p.bindings reserved = .ok bs →
    bs.map Prod.fst = p.modulePaths ∧ (bs.map Prod.snd).Nodup ∧
      ∀ b ∈ bs, b.2 = ModulePath.bindingName reserved b.1
  /-- On failure, the first collision is reported. -/
  failed : ∀ e, p.bindings reserved = .error e ↔
    ∃ name first second, e = .bindingCollision name first second ∧
      IsFirstCollision reserved p.modulePaths name first second

/-- **Binding fails exactly where two modules have one name**, and then reports the first module
whose name is taken and the one that took it; otherwise it binds every module once, in order of
first appearance, to its own name. -/
theorem bindings_collisions (p : Pipeline) (reserved : List String) : BindingLaw p reserved := by
  refine ⟨exists_bindings_iff, ⟨p.nodup_modulePaths, fun _ => mem_modulePaths⟩,
    pairwise_firstAppearances _, fun bs hbs => ?_, fun _ => bindings_eq_error_iff⟩
  obtain ⟨rfl, hnodup⟩ := bindings_eq_ok_iff.1 hbs
  refine ⟨?_, hnodup, fun b hb => ?_⟩
  · simp [Function.comp_def]
  · obtain ⟨path, -, rfl⟩ := List.mem_map.1 hb
    rfl

end HandlerPipeline.Pipeline

import HandlerPipeline.Pipeline
import HandlerPipeline.Proofs.Results
import Mathlib.Data.List.Basic

/-!
# The modules of a pipeline and their names

`firstAppearances` keeps every member of a list once, in the order in which the members first appear
(`mem_firstAppearances`, `pairwise_firstAppearances`). Binding succeeds exactly when no name is
taken twice, and gives every path the name that it has by itself (`Pipeline.bindings_eq_ok_iff`).
-/

namespace HandlerPipeline

/-! ## First appearances -/

/-- The members of a list are those of its first appearances. -/
theorem mem_firstAppearances {l : List String} {a : String} :
    a ∈ firstAppearances l ↔ a ∈ l := by
  induction l with
  | nil => rfl
  | cons p rest ih =>
    simp only [firstAppearances, List.mem_cons, List.mem_filter, ih, decide_eq_true_eq]
    by_cases h : a = p <;> simp [h]

/-- First appearances stand in the order of their places in the list; so none stands twice. -/
theorem pairwise_firstAppearances (l : List String) :
    (firstAppearances l).Pairwise fun a b => l.idxOf a < l.idxOf b := by
  induction l with
  | nil => exact .nil
  | cons p rest ih =>
    have hne : ∀ a ∈ (firstAppearances rest).filter (· ≠ p), p ≠ a := by
      intro a ha hpa
      have := (List.mem_filter.1 ha).2
      simp [hpa] at this
    refine .cons (fun a ha => ?_) ((ih.filter _).imp_of_mem fun {a b} ha hb hab => ?_)
    · rw [List.idxOf_cons_self, List.idxOf_cons_ne _ (hne a ha)]
      exact Nat.succ_pos _
    · rw [List.idxOf_cons_ne _ (hne a ha), List.idxOf_cons_ne _ (hne b hb)]
      exact Nat.succ_lt_succ hab

/-! ## Modules and bindings -/

namespace Pipeline

/-- The paths of a pipeline's modules are those of its references. -/
theorem mem_modulePaths {p : Pipeline} {path : String} :
    path ∈ p.modulePaths ↔ ∃ r ∈ p.references, r.modulePath = path := by
  rw [modulePaths, mem_firstAppearances, List.mem_map]

/-- No two of them are the same. -/
theorem nodup_modulePaths (p : Pipeline) : p.modulePaths.Nodup :=
  (pairwise_firstAppearances _).imp fun hlt heq => by
    subst heq
    exact Nat.lt_irrefl _ hlt

section BindAfter

variable {reserved : List String} {made : List (String × String)} {path : String}

/-- A path whose name is taken cannot be bound. -/
theorem bindAfter_cons_of_taken {owner : String × String}
    (h : made.find? (·.2 = ModulePath.bindingName reserved path) = some owner)
    (rest : List String) : bindAfter reserved made (path :: rest) =
      .error (.bindingCollision (ModulePath.bindingName reserved path) owner.1 path) := by
  rw [bindAfter]
  simp only [h]

/-- A path whose name is free is bound to it, and the paths behind it are bound after that. -/
theorem bindAfter_cons_of_free
    (h : made.find? (·.2 = ModulePath.bindingName reserved path) = none) (rest : List String) :
    bindAfter reserved made (path :: rest) =
      (bindAfter reserved (made ++ [(path, ModulePath.bindingName reserved path)]) rest).map
        ((path, ModulePath.bindingName reserved path) :: ·) := by
  rw [bindAfter]
  simp only [h]

/-- Binding succeeds, after other bindings were made, iff the paths take names that differ from each
other and from those; then every path has its own name. -/
theorem bindAfter_eq_ok_iff {paths : List String} :
    ∀ {made bs : List (String × String)}, bindAfter reserved made paths = .ok bs ↔
      bs = paths.map (fun path => (path, ModulePath.bindingName reserved path)) ∧
        (bs.map Prod.snd).Nodup ∧ ∀ b ∈ bs, ∀ m ∈ made, m.2 ≠ b.2 := by
  induction paths with
  | nil =>
    intro made bs
    simp only [bindAfter, Except.ok.injEq, List.map_nil]
    constructor
    · rintro rfl; simp
    · rintro ⟨rfl, -⟩; rfl
  | cons path rest ih =>
    intro made bs
    cases hfind : made.find? fun m => m.2 = ModulePath.bindingName reserved path with
    | some owner =>
      have howner := List.find?_some hfind
      rw [bindAfter_cons_of_taken hfind]
      simp only [reduceCtorEq, false_iff]
      rintro ⟨rfl, -, hmade⟩
      exact hmade (path, ModulePath.bindingName reserved path) (by simp) owner
        (List.mem_of_find?_eq_some hfind) (by simpa using howner)
    | none =>
      have hfree : ∀ m ∈ made, m.2 ≠ ModulePath.bindingName reserved path := by
        simpa using hfind
      simp only [bindAfter_cons_of_free hfind, map_eq_ok_iff, ih]
      constructor
      · rintro ⟨bs', ⟨rfl, hnodup, hmade⟩, rfl⟩
        refine ⟨rfl, ?_, ?_⟩
        · rw [List.map_cons, List.nodup_cons]
          refine ⟨fun hmem => ?_, hnodup⟩
          obtain ⟨b, hb, hname⟩ := List.mem_map.1 hmem
          exact hmade b hb (path, _) (by simp) hname.symm
        · intro b hb m hm
          rcases List.mem_cons.1 hb with rfl | hb
          · exact hfree m hm
          · exact hmade b hb m (List.mem_append_left _ hm)
      · rintro ⟨rfl, hnodup, hmade⟩
        rw [List.map_cons, List.map_cons, List.nodup_cons] at hnodup
        refine ⟨_, ⟨rfl, hnodup.2, fun b hb m hm => ?_⟩, rfl⟩
        rcases List.mem_append.1 hm with hm | hm
        · exact hmade b (List.mem_cons_of_mem _ hb) m hm
        · rw [List.mem_singleton.1 hm]
          intro hname
          exact hnodup.1 (hname ▸ List.mem_map_of_mem hb)

end BindAfter

/-- **Binding succeeds iff no two modules take one name**; then every module has its own name. -/
theorem bindings_eq_ok_iff {p : Pipeline} {reserved : List String} {bs : List (String × String)} :
    p.bindings reserved = .ok bs ↔
      bs = p.modulePaths.map (fun path => (path, ModulePath.bindingName reserved path)) ∧
        (bs.map Prod.snd).Nodup := by
  rw [bindings, bindAfter_eq_ok_iff]
  simp

end Pipeline

end HandlerPipeline

import HandlerPipeline.Proofs.BuildPass.Ending
import Mathlib.Data.List.Nodup

/-!
# The names of artifacts

An artifact takes its names from its function: its file is called after the function, and its entry
point is that file's handler in the artifact folder (`IsNamedFor`). So the artifacts of a build bear
what the names of their functions give, in the order of the functions (`map_eq_of_collect`), those
of the functions with one name are the artifacts with that name (`collect_filter_name`), and
different names give different files and entry points (`nodup_of_collect`).
-/

namespace HandlerPipeline.BuildPass

variable {pass : BuildPass} {d : Declaration} {a : Artifact} {outcome : Outcome}
  {resolves : Pipeline → Except Failure Variant → Prop}
  {outcomes : List (Declaration × Outcome)} {artifacts : List Artifact}

/-- The artifact is named for the function. -/
structure IsNamedFor (pass : BuildPass) (d : Declaration) (a : Artifact) : Prop where
  functionName : a.functionName = d.name
  filename : a.filename = d.name ++ ".py"
  entryPoint : a.entryPoint = pass.settings.folder ++ "/" ++ d.name ++ ".handler"

/-! ## One function -/

/-- The pipeline of a function is named for it. -/
theorem functionName_of_assemble {p : Pipeline} (h : pass.assemble d = .ok p) :
    p.functionName = d.name := by
  have named : ∀ {before own after : List Value},
      Pipeline.assemble before own after d.name = .ok p → p.functionName = d.name := by
    intro before own after h
    obtain ⟨steps, -, rfl⟩ := map_eq_ok_iff.1 h
    rfl
  rw [assemble, Declaration.pipeline] at h
  split at h
  · cases h
  · split at h
    · cases h
    · split at h
      · exact named h
      · exact named h

/-- What is written of a pipeline is named for the pipeline's function. -/
theorem isNamedFor_of_write {p : Pipeline} {v : Variant} (hname : p.functionName = d.name)
    (h : (pass.write p v).1 = .ok a) : IsNamedFor pass d a := by
  unfold write at h
  dsimp only at h
  split at h
  · cases h
  · next source log _ =>
    cases h
    have hsuffix : "." ++ v.extension = ".py" := by cases v <;> rfl
    refine ⟨hname, ?_, ?_⟩
    · rw [hname, Artifact.filenameOf, String.append_assoc, hsuffix]
    · rw [hname, entryPoint, Artifact.entryPointOf]

/-- Whatever resolves its pipeline, a function comes to an artifact that is named for it. -/
theorem MayEnd.isNamedFor (h : MayEnd pass resolves d (.ok (some a))) : IsNamedFor pass d a := by
  generalize houtcome : (.ok (some a) : Outcome) = outcome at h
  cases h with
  | misdeclared => cases houtcome
  | empty => cases houtcome
  | unresolved => cases houtcome
  | written h _ =>
    obtain ⟨a', hwrite, ha'⟩ := map_eq_ok_iff.1 houtcome.symm
    cases ha'
    exact isNamedFor_of_write (functionName_of_assemble h.1) hwrite

/-- Whatever is remembered, a function is built to an artifact that is named for it. -/
theorem buildFunction_isNamedFor {memory : Resolved}
    (h : (pass.buildFunction memory d).outcome = .ok (some a)) : IsNamedFor pass d a := by
  rw [buildFunction_outcome] at h
  exact (mayEnd_iff.2 h.symm).isNamedFor

/-! ## All functions -/

/-- The artifacts that are collected are named for the functions with steps, in their order. -/
theorem named_of_collect (hend : ∀ o ∈ outcomes, MayEnd pass resolves o.1 o.2)
    (h : collect outcomes = .ok artifacts) :
    List.Forall₂ (fun o a => IsNamedFor pass o.1 a) (outcomes.filter fun o => pass.hasSteps o.1)
      artifacts := by
  have hbuilt := artifacts_of_collect hend h
  unfold AreArtifactsOf at hbuilt
  have hmem : ∀ o ∈ outcomes.filter fun o => pass.hasSteps o.1, MayEnd pass resolves o.1 o.2 :=
    fun o ho => hend o (List.mem_of_mem_filter ho)
  clear h hend
  generalize outcomes.filter (fun o => pass.hasSteps o.1) = built at hbuilt hmem
  induction hbuilt with
  | nil => exact .nil
  | cons hoa _ ih =>
    obtain ⟨ho, hrest⟩ := List.forall_mem_cons.1 hmem
    rw [hoa] at ho
    exact .cons ho.isNamedFor (ih hrest)

/-- What an artifact takes from the name of its function, the artifacts that are collected take from
the names of the functions with steps. -/
theorem map_eq_of_collect {f : Artifact → String} {g : String → String}
    (hfg : ∀ d a, IsNamedFor pass d a → f a = g d.name)
    (hend : ∀ o ∈ outcomes, MayEnd pass resolves o.1 o.2) (h : collect outcomes = .ok artifacts) :
    artifacts.map f = ((outcomes.filter fun o => pass.hasSteps o.1).map (·.1.name)).map g := by
  have hnamed := named_of_collect hend h
  clear h hend
  generalize outcomes.filter (fun o => pass.hasSteps o.1) = built at hnamed
  induction hnamed with
  | nil => rfl
  | cons hoa _ ih => rw [List.map_cons, List.map_cons, List.map_cons, hfg _ _ hoa, ih]

/-- The artifacts of the functions with one name are the artifacts with that name. -/
theorem collect_filter_name (name : String) (hend : ∀ o ∈ outcomes, MayEnd pass resolves o.1 o.2)
    (h : collect outcomes = .ok artifacts) :
    collect (outcomes.filter (·.1.name = name)) =
      .ok (artifacts.filter (·.functionName = name)) := by
  induction outcomes generalizing artifacts with
  | nil =>
    cases h
    rfl
  | cons o rest ih =>
    obtain ⟨d, outcome⟩ := o
    cases outcome with
    | error f => cases h
    | ok artifact? =>
      obtain ⟨later, hlater, rfl⟩ := map_eq_ok_iff.1 h
      have hrest := ih (fun o ho => hend o (.tail _ ho)) hlater
      -- The function's own artifact is kept exactly where the function is.
      have hhead : artifact?.toList.filter (·.functionName = name) =
          if d.name = name then artifact?.toList else [] := by
        cases artifact? with
        | none => simp
        | some a =>
          have hnamed : IsNamedFor pass d a := (hend _ (.head _)).isNamedFor
          simp [List.filter_cons, hnamed.functionName]
      rw [List.filter_append, hhead, List.filter_cons]
      by_cases hd : d.name = name
      · simp [hd, collect, hrest, Except.map]
      · simp [hd, hrest]

/-- **Functions with different names have different files and different entry points.** -/
theorem nodup_of_collect (hend : ∀ o ∈ outcomes, MayEnd pass resolves o.1 o.2)
    (hnames : (outcomes.map (·.1.name)).Nodup) (h : collect outcomes = .ok artifacts) :
    (artifacts.map (·.filename)).Nodup ∧ (artifacts.map (·.entryPoint)).Nodup := by
  have hbuilt : ((outcomes.filter fun o => pass.hasSteps o.1).map (·.1.name)).Nodup :=
    hnames.sublist (List.filter_sublist.map _)
  have hfile : Function.Injective fun name : String => name ++ ".py" :=
    fun _ _ h => (String.append_left_inj _).1 h
  have hpoint : Function.Injective fun name : String =>
      pass.settings.folder ++ "/" ++ name ++ ".handler" :=
    fun _ _ h => (String.append_right_inj _).1 ((String.append_left_inj _).1 h)
  constructor
  · rw [map_eq_of_collect (g := fun name => name ++ ".py") (fun _ _ ha => ha.filename) hend h]
    exact hbuilt.map hfile
  · rw [map_eq_of_collect (g := fun name => pass.settings.folder ++ "/" ++ name ++ ".handler")
      (fun _ _ ha => ha.entryPoint) hend h]
    exact hbuilt.map hpoint

end HandlerPipeline.BuildPass

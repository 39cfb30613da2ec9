import HandlerPipeline.Artifact.Load
import HandlerPipeline.Artifact.Run
import HandlerPipeline.Proofs.Artifact.ReadBack
import HandlerPipeline.Proofs.Artifact.Scopes

/-!
# Captured names

A binding captures a name if the artifact looks that name up, or defines it, for itself. What the
artifact defines is reserved, so it is never captured. What comes with the language is not reserved:
a module whose path is such a name is bound to it (`Artifact.emit_capture`), and the chain finds the
module in its place. With `isinstance` or `dict` bound, or with `setattr` bound and a context that is
no map, every run fails before a handler is called; with `Exception` bound, no failure handler is
ever called (`Artifact.runOn_congr_of_exception`). In all other artifacts a run is that of the chain.
Runs are those of artifacts that can be loaded. One that binds a name whose meaning the language
keeps to itself is not (`Artifact.exists_load_eq_error`).
-/

namespace HandlerPipeline

open Chain

/-! ## Runs in which nothing is caught -/

namespace Chain

variable {World : Type}

/-- The state is on the success arm, or was when it was settled. -/
def State.HasSucceeded : State → Prop
  | .succeeded _ | .stopped (.succeeded _) => True
  | .failed _ | .stopped (.failed _) | .stopped (.stopped _) => False

/-- The two links have one success handler and one label. -/
def SameSuccess (link link' : Link World) : Prop :=
  link.success? = link'.success? ∧ link.label = link'.label

variable {control : Nat} {state state' : State} {s s' : Session World} {link link' : Link World}
  {links links' : List (Link World)}

/-- A checkpoint does not lead off the success arm. -/
theorem hasSucceeded_checkpoint (h : state.HasSucceeded) (control : Nat) (s : Session World) :
    (checkpoint control s state).HasSucceeded := by
  cases state with
  | succeeded d =>
    rw [checkpoint]
    · split <;> trivial
    · exact fun _ => State.noConfusion
  | failed e => exact h.elim
  | stopped settled => exact h

/-- On the success arm there is nothing to do for a failure handler. -/
theorem failurePhase_of_hasSucceeded (h : state.HasSucceeded) (link : Link World)
    (s : Session World) : failurePhase link state s = (s, .ok state) := by
  cases state with
  | failed e => exact h.elim
  | succeeded d | stopped settled => rfl

/-- A handler whose errors nothing catches leaves the chain on the success arm, or ends the run. -/
theorem hasSucceeded_of_settle {h : Handler World}
    (hsettle : settle h.uncaught s = (s', .ok state)) : state.HasSucceeded := by
  obtain ⟨after, o, hinvoke⟩ : ∃ after o, h.invoke s = (after, o) := ⟨_, _, rfl⟩
  cases o with
  | returned d =>
    have huncaught : h.uncaught s = (after, .done (.returned d)) := by
      rw [Handler.uncaught, hinvoke]
    rw [settle, Handler.invoke, huncaught] at hsettle
    cases hsettle
    trivial
  | raised e =>
    have huncaught : h.uncaught s = (after, .done (.raised ⟨.abort, none⟩)) := by
      rw [Handler.uncaught, hinvoke]
    rw [settle, Handler.invoke, huncaught] at hsettle
    cases hsettle

/-- The phase of such a success handler does not lead off the success arm. -/
theorem hasSucceeded_of_successPhase (h : state.HasSucceeded)
    (hphase : successPhase link.uncaught state s = (s', .ok state')) : state'.HasSucceeded := by
  obtain ⟨success?, failure?, label⟩ := link
  cases state with
  | failed e => exact h.elim
  | stopped settled =>
    cases hphase
    exact h
  | succeeded d =>
    cases success? with
    | none =>
      cases hphase
      exact h
    | some handler => exact hasSucceeded_of_settle hphase

/-- On the success arm, the phases of links with one success handler are the same, and do not lead
off that arm. -/
theorem bothPhases_uncaught (h : state.HasSucceeded) (hlink : link.success? = link'.success?)
    (control : Nat) (s : Session World) :
    bothPhases control link.uncaught state s = bothPhases control link'.uncaught state s ∧
      ∀ s' state', bothPhases control link.uncaught state s = (s', .ok state') →
        state'.HasSucceeded := by
  have hsame : successPhase link.uncaught state s = successPhase link'.uncaught state s := by
    simp only [successPhase, Link.uncaught, hlink]
  obtain ⟨after, result, hphase⟩ : ∃ after result,
      successPhase link.uncaught state s = (after, result) := ⟨_, _, rfl⟩
  rw [bothPhases, bothPhases, ← hsame, hphase]
  cases result with
  | error e => exact ⟨rfl, fun _ _ hboth => by cases hboth⟩
  | ok entered =>
    have hentered := hasSucceeded_checkpoint (hasSucceeded_of_successPhase h hphase) control after
    dsimp only
    rw [failurePhase_of_hasSucceeded hentered, failurePhase_of_hasSucceeded hentered]
    refine ⟨rfl, fun s' state' hboth => ?_⟩
    cases hboth
    exact hentered

/-- On the success arm, links with one success handler and one label are passed alike, and the
chain stays on that arm. -/
theorem advance_uncaught (h : state.HasSucceeded) (hlink : SameSuccess link link')
    (control : Nat) (s : Session World) :
    advance control link.uncaught state s = advance control link'.uncaught state s ∧
      ∀ s' state', advance control link.uncaught state s = (s', .ok state') →
        state'.HasSucceeded := by
  have hentered := hasSucceeded_checkpoint h control s
  rw [advance, advance]
  cases hstate : checkpoint control s state with
  | failed e =>
    rw [hstate] at hentered
    exact hentered.elim
  | stopped settled =>
    rw [hstate] at hentered
    have hlabel : link.uncaught.label = link'.uncaught.label := hlink.2
    rw [hlabel]
    refine ⟨rfl, fun s' state' hadvance => ?_⟩
    cases hadvance
    exact hentered
  | succeeded d =>
    rw [hstate] at hentered
    exact bothPhases_uncaught hentered hlink.1 control s

/-- So are chains of such links. -/
theorem advanceAll_uncaught (h : state.HasSucceeded)
    (hlinks : List.Forall₂ SameSuccess links links') (control : Nat) (s : Session World) :
    advanceAll control (links.map Link.uncaught) state s =
      advanceAll control (links'.map Link.uncaught) state s := by
  induction hlinks generalizing state s with
  | nil => rfl
  | @cons link link' links links' hlink _ ih =>
    obtain ⟨hsame, hstays⟩ := advance_uncaught h hlink control s
    rw [List.map_cons, List.map_cons, advanceAll, advanceAll, ← hsame]
    split
    · rfl
    · next s' state' hadvance => exact ih (hstays s' state' hadvance) s'

end Chain

namespace Artifact

variable {World : Type} {variant : Variant} {importBase : String} {p : Pipeline}
  {bs : List (String × String)} {names : List String}

/-! ## Runs of an artifact -/

/-- **Where `Exception` is bound, no failure handler is called**: a run does not depend on them. -/
theorem runOn_congr_of_exception (hname : "Exception" ∈ names) (context : Context)
    {links links' : List (Link World)} (hlinks : List.Forall₂ SameSuccess links links')
    (s : Session World) : runOn names context links s = runOn names context links' s := by
  have hrun : ∀ s : Session World,
      Chain.run (links.map Link.uncaught) s = Chain.run (links'.map Link.uncaught) s := by
    intro s
    have hstart : (State.succeeded .null).HasSucceeded := trivial
    simp only [Chain.run, advanceAll_uncaught hstart hlinks]
  rw [runOn, runOn]
  split
  · rfl
  · rw [if_pos (List.contains_iff_mem.2 hname), if_pos (List.contains_iff_mem.2 hname),
      runUncaught, runUncaught]
    simp only [hrun]

/-- The entries of the context cannot be put where a name is bound that this takes. -/
theorem exists_exposeError {context : Context} (h : "isinstance" ∈ names ∨ "dict" ∈ names ∨
      "setattr" ∈ names ∧ context.hasItems = false) :
    ∃ e, exposeError? names context = some e ∧ e.kind = .type := by
  simp only [← List.contains_iff_mem] at h
  rw [exposeError?]
  split
  · exact ⟨_, rfl, rfl⟩
  · next hisinstance =>
    split
    · exact ⟨_, rfl, rfl⟩
    · next hdict =>
      obtain ⟨hsetattr, hitems⟩ := (h.resolve_left hisinstance).resolve_left hdict
      rw [hsetattr, hitems]
      exact ⟨_, rfl, rfl⟩

/-- Where they cannot be put, a run fails before a handler is called. -/
theorem runOn_of_exposeError {context : Context} {e : Error}
    (h : exposeError? names context = some e) (links : List (Link World)) (s : Session World) :
    runOn names context links s = (s, .raised e) := by
  rw [runOn, h]

/-- Where no name of the language is bound, a run is that of the chain. -/
theorem runOn_eq_of_disjoint (variant : Variant)
    (h : ∀ name ∈ languageNames variant, name ∉ names) (context : Context)
    (links : List (Link World)) (s : Session World) :
    runOn names context links s = Chain.runOn context links s := by
  have hfree : ∀ name ∈ languageNames variant, names.contains name = false := by
    simpa using h
  have hruntime : ∀ name ∈ ["isinstance", "dict", "setattr", "Exception"],
      names.contains name = false := by
    intro name hname
    refine hfree name ?_
    cases variant with
    | plain => exact List.mem_append_left ["ImportError"] hname
    | typed => exact hname
  have hexpose : exposeError? names context = none := by
    rw [exposeError?, hruntime "isinstance" (by decide), hruntime "dict" (by decide),
      hruntime "setattr" (by decide)]
    rfl
  rw [runOn, hexpose, hruntime "Exception" (by decide)]
  rfl

/-! ## Names that are bound -/

/-- A name of the language is bound iff it is the path of a module. -/
theorem mem_boundNames_iff {name : String} (hname : name ∈ languageNames variant) :
    name ∈ boundNames p ↔ ∃ r ∈ p.references, r.modulePath = name := by
  have hword : name.toList.all Char.isAlpha = true ∧ Text.isKeyword name = false ∧
      name ∉ reservedNames := by
    revert name
    cases variant <;> decide +kernel
  rw [boundNames, List.mem_map, ← Pipeline.mem_modulePaths]
  constructor
  · rintro ⟨path, hpath, heq⟩
    rwa [(ModulePath.bindingName_eq_iff hword.1 hword.2.1 hword.2.2).1 heq] at hpath
  · intro hpath
    exact ⟨name, hpath, (ModulePath.bindingName_eq_iff hword.1 hword.2.1 hword.2.2).2 rfl⟩

/-- No name that the artifact defines for itself is bound. -/
theorem notMem_definedNames {name : String} (hname : name ∈ boundNames p) :
    name ∉ definedNames variant := by
  obtain ⟨path, -, rfl⟩ := List.mem_map.1 hname
  exact fun hdefined => ModulePath.bindingName_notMem (by decide +kernel) path
    (definedNames_subset_reservedNames hdefined)

/-- The names that bindings are made to are those of the pipeline's artifact. -/
theorem map_snd_of_bindings (hbs : p.bindings reservedNames = .ok bs) :
    bs.map Prod.snd = boundNames p := by
  obtain ⟨rfl, -⟩ := Pipeline.bindings_eq_ok_iff.1 hbs
  rw [List.map_map]
  rfl

/-! ## Artifacts that are not loaded -/

/-- What loading modules says of the place of the annotations is that one of them is bound there. -/
theorem eq_of_loadModules {Export : Type} {host : Host Export} {root paths : List String}
    {taken taken' : Bool} (h : loadModules host root variant taken paths = .ok taken') :
    taken' = (taken || paths.any fun path =>
      ModulePath.bindingName reservedNames path == annotationsName) := by
  induction paths generalizing taken with
  | nil =>
    cases h
    simp
  | cons path rest ih =>
    rw [loadModules] at h
    split at h
    · cases h
    · dsimp only at h
      split at h
      · cases h
      · rw [ih h, List.any_cons, Bool.or_assoc]

/-- **An artifact that binds a name whose meaning the language keeps is not loaded**, whatever the
host has: no source binds `__debug__`, and a typed one has its annotations under `__annotations__`. -/
theorem exists_load_eq_error
    (h : keptName ∈ boundNames p ∨ variant = .typed ∧ annotationsName ∈ boundNames p)
    {Export : Type} (host : Host Export) (service : List String) (folder : String) :
    ∃ e, load host service folder importBase variant p = .error e := by
  rw [load]
  cases hkept : keptNameError? variant importBase p with
  | some e => exact ⟨e, rfl⟩
  | none =>
    have hnone : keptName ∉ boundNames p := by
      rw [keptNameError?, Option.map_eq_none_iff, List.findIdx?_eq_none_iff] at hkept
      intro hmem
      simpa using hkept keptName hmem
    obtain ⟨rfl, hbound⟩ := h.resolve_left hnone
    dsimp only
    split
    · next e _ => exact ⟨e, rfl⟩
    · next taken htaken =>
      have htrue : taken = true := by
        rw [eq_of_loadModules htaken, Bool.false_or, List.any_eq_true]
        obtain ⟨path, hpath, hname⟩ := List.mem_map.1 hbound
        exact ⟨path, hpath, beq_iff_eq.2 hname⟩
      split
      · next e _ => exact ⟨e, rfl⟩
      · exact ⟨.noAnnotations, by rw [htrue]; rfl⟩

/-! ## The law -/

/-- What is said of the names that the source of a pipeline binds. -/
structure CaptureLaw (variant : Variant) (importBase : String) (p : Pipeline) (source : String) :
    Prop where
  /-- The names can be read off the source. -/
  read : ∃ r, Reading.ofSource source = some r ∧ r.modules.map Prod.fst = boundNames p
  /-- The source has the lines of the fixed text. -/
  frame : ∃ ls, source = ofLines ls ∧ (frame variant importBase).Sublist ls
  /-- No bound name is one that the artifact defines. -/
  notDefined : ∀ name ∈ boundNames p, name ∉ definedNames variant
  /-- A bound name is looked up iff it comes with the language and is the path of a module. -/
  lookedUp_iff : ∀ name, name ∈ boundNames p ∧ name ∈ lookedUpNames variant ↔
    name ∈ languageNames variant ∧ ∃ r ∈ p.references, r.modulePath = name
  /-- Without such a path, a run is that of the chain. -/
  free : (∀ r ∈ p.references, r.modulePath ∉ languageNames variant) →
    ∀ {World : Type} (context : Context) (links : List (Link World)) (s : Session World),
      runOn (boundNames p) context links s = Chain.runOn context links s
  /-- With the path of a name that entries are put with, a run fails before a handler is called. -/
  exposes : ∀ context : Context, (∃ r ∈ p.references, r.modulePath = "isinstance" ∨
      r.modulePath = "dict" ∨ r.modulePath = "setattr" ∧ context.hasItems = false) →
    ∃ e : Error, e.kind = .type ∧ ∀ {World : Type} (links : List (Link World)) (s : Session World),
      runOn (boundNames p) context links s = (s, .raised e)
  /-- With the path of the name that errors are caught with, no failure handler is called. -/
  catches : (∃ r ∈ p.references, r.modulePath = "Exception") →
    ∀ {World : Type} (context : Context) (links links' : List (Link World)) (s : Session World),
      List.Forall₂ SameSuccess links links' →
      runOn (boundNames p) context links s = runOn (boundNames p) context links' s
  /-- With a binding to a name whose meaning the language keeps, the artifact is not loaded, and
  there are no runs. -/
  unloaded : keptName ∈ boundNames p ∨ variant = .typed ∧ annotationsName ∈ boundNames p →
    ∀ {Export : Type} (host : Host Export) (service : List String) (folder : String),
      ∃ e, load host service folder importBase variant p = .error e

/-- A bound name is looked up iff it comes with the language and is the path of a module. -/
theorem mem_lookedUpNames_iff {name : String} :
    name ∈ boundNames p ∧ name ∈ lookedUpNames variant ↔
      name ∈ languageNames variant ∧ ∃ r ∈ p.references, r.modulePath = name := by
  constructor
  · rintro ⟨hbound, hlooked⟩
    have hname := mem_languageNames_iff.2 ⟨hlooked, notMem_definedNames hbound⟩
    exact ⟨hname, (mem_boundNames_iff hname).1 hbound⟩
  · rintro ⟨hname, hpath⟩
    exact ⟨(mem_boundNames_iff hname).2 hpath, (mem_languageNames_iff.1 hname).1⟩

/-- The law holds of the source of bindings. -/
theorem captureLaw_of_bindings (variant : Variant) (importBase : String)
    (hsteps : ∀ s ∈ p.steps, s.IsAccepted) (hbs : p.bindings reservedNames = .ok bs) :
    CaptureLaw variant importBase p (ofLines (lines variant importBase p bs)) where
  read := by
    refine ⟨_, Reading.ofSource_ofLines variant importBase hsteps hbs, ?_⟩
    rw [← map_snd_of_bindings hbs, List.map_map]
    rfl
  frame := ⟨_, rfl, frame_sublist variant importBase p bs⟩
  notDefined _ hname := notMem_definedNames hname
  lookedUp_iff _ := mem_lookedUpNames_iff
  free hfree World context links s := by
    refine runOn_eq_of_disjoint variant (fun name hname hbound => ?_) context links s
    obtain ⟨r, hr, rfl⟩ := (mem_boundNames_iff hname).1 hbound
    exact hfree r hr hname
  exposes context hpath := by
    have hlanguage : ∀ name ∈ ["isinstance", "dict", "setattr"], name ∈ languageNames .typed :=
      by decide
    have hbound : "isinstance" ∈ boundNames p ∨ "dict" ∈ boundNames p ∨
        "setattr" ∈ boundNames p ∧ context.hasItems = false := by
      obtain ⟨r, hr, hname | hname | ⟨hname, hitems⟩⟩ := hpath
      · exact .inl ((mem_boundNames_iff (hlanguage _ (by decide))).2 ⟨r, hr, hname⟩)
      · exact .inr (.inl ((mem_boundNames_iff (hlanguage _ (by decide))).2 ⟨r, hr, hname⟩))
      · exact .inr (.inr ⟨(mem_boundNames_iff (hlanguage _ (by decide))).2 ⟨r, hr, hname⟩, hitems⟩)
    obtain ⟨e, hexpose, hkind⟩ := exists_exposeError hbound
    exact ⟨e, hkind, fun links s => runOn_of_exposeError hexpose links s⟩
  catches hpath World context links links' s hlinks := by
    have hname : "Exception" ∈ languageNames .typed := by decide
    exact runOn_congr_of_exception ((mem_boundNames_iff hname).2 hpath) context hlinks s
  unloaded := exists_load_eq_error

/-- **A binding captures a name iff a module's path is a name of the language that the artifact looks
up**; no binding captures a name that the artifact defines. -/
theorem emit_capture {checks : Bool} {source : String} {logged : List Log.Line}
    (hsteps : ∀ s ∈ p.steps, ∃ raw, Step.read raw = .ok s)
    (hemit : emit checks variant importBase p = .ok (source, logged)) :
    CaptureLaw variant importBase p source := by
  obtain ⟨bs, hbs, rfl⟩ := bindings_of_emit_eq_ok hemit
  exact captureLaw_of_bindings variant importBase (Pipeline.isAccepted_of_read hsteps) hbs

/-- A pipeline whose only module is called like a type of the language. -/
def capturing : Pipeline := ⟨"fn", [.onSuccess ⟨"dict", "check"⟩]⟩

/-- The step of the pipeline is read from a text. -/
theorem read_capturing : ∀ s ∈ capturing.steps, ∃ raw, Step.read raw = .ok s := by
  intro s hs
  rw [capturing, List.mem_singleton] at hs
  exact ⟨.text "dict.check", by rw [hs]; rfl⟩

/-- The pipeline is emitted. -/
theorem emit_capturing (variant : Variant) :
    ∃ source, emit true variant ".." capturing = .ok (source, [emittedLine variant capturing]) := by
  have hbs : capturing.bindings reservedNames = .ok [("dict", "dict")] :=
    Pipeline.bindings_eq_ok_iff.2 ⟨by decide +kernel, by decide⟩
  exact ⟨_, emit_eq_of_bindings true variant ".." hbs⟩

/-- Its artifact binds `dict` to the module, and every run of it fails. -/
theorem emit_capture_capturing :
    (∀ s ∈ capturing.steps, ∃ raw, Step.read raw = .ok s) ∧
      ∃ source, emit true .plain ".." capturing =
          .ok (source, [emittedLine .plain capturing]) ∧
        CaptureLaw .plain ".." capturing source ∧ "dict" ∈ boundNames capturing ∧
        ∃ e : Error, e.kind = .type ∧ ∀ {World : Type} (links : List (Link World))
          (s : Session World), runOn (boundNames capturing) .absent links s = (s, .raised e) := by
  obtain ⟨source, hemit⟩ := emit_capturing .plain
  have hlaw := emit_capture read_capturing hemit
  have hpath : ∃ r ∈ capturing.references, r.modulePath = "dict" :=
    ⟨⟨"dict", "check"⟩, .head _, rfl⟩
  obtain ⟨r, hr, hdict⟩ := hpath
  exact ⟨read_capturing, source, hemit, hlaw,
    (hlaw.lookedUp_iff "dict").2 ⟨by decide, r, hr, hdict⟩ |>.1,
    hlaw.exposes .absent ⟨r, hr, .inr (.inl hdict)⟩⟩

/-- Bindings do capture names: not for every pipeline are the bound names other than those that its
artifact looks up. -/
theorem emit_captures :
    ¬ ∀ (checks : Bool) (variant : Variant) (importBase : String) (p : Pipeline) (source : String)
        (logged : List Log.Line), (∀ s ∈ p.steps, ∃ raw, Step.read raw = .ok s) →
      emit checks variant importBase p = .ok (source, logged) →
      ∀ name ∈ boundNames p, name ∉ lookedUpNames variant ∧ name ∉ definedNames variant := by
  intro h
  obtain ⟨source, hemit⟩ := emit_capturing .plain
  have hbound : "dict" ∈ boundNames capturing := by decide +kernel
  refine (h true .plain ".." capturing source _ read_capturing hemit "dict" hbound).1 ?_
  rw [names_plain.1]
  decide

end Artifact

end HandlerPipeline

import HandlerPipeline.Chain.Script
import HandlerPipeline.Proofs.Chain.Stop
import Mathlib.Data.List.Forall2
import Mathlib.Data.Set.Basic

/-!
# Sessions that look alike

A chain has two entries in the context for its handlers. Sessions look alike when they agree in
these, in the world, and in the number of the next control (`Session.Alike`); what else their
contexts hold, what was logged, and which controls were asked to stop may differ. A handler that
does alike in sessions that look alike is modest (`Handler.IsModest`): it knows the context by those
two entries, and the requests to stop not at all. Every scripted handler is modest
(`Script.Role.isModest`).

A run puts both entries into the context before anything reads them, so it begins in sessions that
look alike whatever the contexts were (`Session.alike_enter`). From there on handlers that match
each other make calls that are alike one by one (`Traced.of_matches`), and so do whole runs
(`run_of_matches`).
-/

namespace HandlerPipeline.Chain

variable {World : Type}

/-- Handlers that know the context by the entries of the chain cannot tell the sessions apart. -/
structure Session.Alike (s t : Session World) : Prop where
  prev_eq : s.prev = t.prev
  end_eq : s.record.get "end" = t.record.get "end"
  issued_eq : s.issued = t.issued
  world_eq : s.world = t.world

/-- What came of two calls, or of two runs, that began in the sessions `s` and `t`: the same result,
in sessions that look alike. Of the given controls, those that had been asked to stop in both
sessions or in neither have been so still. -/
structure EndAlike {Result : Type} (controls : Set Nat) (s t : Session World)
    (r r' : Session World × Result) : Prop where
  result_eq : r.2 = r'.2
  alike : r.1.Alike r'.1
  asked : ∀ control ∈ controls, s.isStopped control = t.isStopped control →
    r.1.isStopped control = r'.1.isStopped control
  /-- The number of a control is never given to another one. -/
  issued_le : s.issued ≤ r.1.issued

/-- In sessions that look alike the handlers do alike. -/
def Handler.Matches (controls : Set Nat) (h h' : Handler World) : Prop :=
  ∀ s t, s.Alike t → EndAlike controls s t (h.invoke s) (h'.invoke t)

/-- What the handler does depends on the world and on the entries of the chain alone. -/
def Handler.IsModest (h : Handler World) : Prop := h.Matches Set.univ h

/-- The slots have the same arm, and handlers that match. -/
structure Slot.Matches (controls : Set Nat) (slot slot' : Slot World) : Prop where
  arm_eq : slot.arm = slot'.arm
  handler : slot.handler.Matches controls slot'.handler

/-- The calls cannot be told apart by handlers: the same place is called in sessions that look
alike, with the same outcome. -/
structure Call.Alike (c c' : Call World) : Prop where
  place_eq : c.place = c'.place
  before : c.before.Alike c'.before
  after : c.after.Alike c'.after
  outcome_eq : c.outcome = c'.outcome

/-! ## Sessions -/

section Sessions

variable {s t u : Session World} {Result Result' : Type} {controls : Set Nat}
  {r r' : Session World × Result} {q q' : Session World × Result'}

theorem Session.Alike.refl (s : Session World) : s.Alike s := ⟨rfl, rfl, rfl, rfl⟩

theorem Session.Alike.trans (h : s.Alike t) (h' : t.Alike u) : s.Alike u :=
  ⟨h.prev_eq.trans h'.prev_eq, h.end_eq.trans h'.end_eq, h.issued_eq.trans h'.issued_eq,
    h.world_eq.trans h'.world_eq⟩

/-- Entries that are set alike look alike. -/
theorem Session.Alike.set (h : s.Alike t) (name : String) (d : Datum) :
    (s.set name d).Alike (t.set name d) := by
  have hget : ∀ entry, s.record.get entry = t.record.get entry →
      (s.set name d).record.get entry = (t.set name d).record.get entry := by
    intro entry hentry
    rw [Session.set, Session.set]
    by_cases hname : entry = name
    · rw [hname, Record.get_set, Record.get_set]
    · rw [Record.get_set_of_ne _ hname, Record.get_set_of_ne _ hname, hentry]
  exact ⟨hget "prev" h.prev_eq, hget "end" h.end_eq, h.issued_eq, h.world_eq⟩

/-- The two entries that a run puts into a context are all that its handlers may know of it. -/
theorem Session.alike_enter (hissued : s.issued = t.issued) (hworld : s.world = t.world) :
    s.enter.1.Alike t.enter.1 where
  prev_eq := by rw [enter, enter, prev_setPrev, prev_setPrev]
  end_eq := by
    rw [end_enter, end_enter]
    exact congrArg Datum.stop hissued
  issued_eq := congrArg (· + 1) hissued
  world_eq := hworld

/-- After a control was made, the others have been asked to stop as before. -/
theorem Session.isStopped_enter_of_ne {control : Nat} (h : control ≠ s.issued) :
    s.enter.1.isStopped control = s.isStopped control := by
  rw [Bool.eq_iff_iff]
  simp [enter, isStopped, set, setPrev, h]

/-- Lines that are logged make no difference. -/
theorem Session.Alike.logging (h : s.Alike t) (lines lines' : List Log.Line) :
    (s.logging lines).Alike (t.logging lines') :=
  ⟨h.prev_eq, h.end_eq, h.issued_eq, h.world_eq⟩

theorem EndAlike.trans (h : EndAlike controls s t r r') (h' : EndAlike controls r.1 r'.1 q q') :
    EndAlike controls s t q q' where
  result_eq := h'.result_eq
  alike := h'.alike
  asked control hmem hs := h'.asked control hmem (h.asked control hmem hs)
  issued_le := h.issued_le.trans h'.issued_le

/-- What is made of results that are the same, in sessions that look alike, is the same. -/
theorem EndAlike.map (h : EndAlike controls s t r r') (f : Result → Session World → Result')
    (hf : ∀ result s t, s.Alike t → f result s = f result t) :
    EndAlike controls s t (r.1, f r.2 r.1) (r'.1, f r'.2 r'.1) where
  result_eq := h.result_eq ▸ hf r.2 _ _ h.alike
  alike := h.alike
  asked := h.asked
  issued_le := h.issued_le

/-- Nothing comes of what changes nothing. -/
theorem EndAlike.unchanged (h : s.Alike t) (result : Result) :
    EndAlike controls s t (s, result) (t, result) :=
  ⟨rfl, h, fun _ _ hs => hs, Nat.le_refl _⟩

/-- Setting an entry leaves the requests to stop as they were. -/
theorem EndAlike.set (h : s.Alike t) (name : String) (d : Datum) (result : Result) :
    EndAlike controls s t (s.set name d, result) (t.set name d, result) :=
  ⟨rfl, h.set name d, fun _ _ hs => hs, Nat.le_refl _⟩

/-- The world is changed alike. -/
theorem EndAlike.setWorld (h : s.Alike t) {w w' : World} (hw : w = w') (result : Result) :
    EndAlike controls s t ({ s with world := w }, result) ({ t with world := w' }, result) :=
  ⟨rfl, ⟨h.prev_eq, h.end_eq, h.issued_eq, hw⟩, fun _ _ hs => hs, Nat.le_refl _⟩

/-- The same control is asked to stop. -/
theorem EndAlike.stop (h : s.Alike t) (control : Nat) (result : Result) :
    EndAlike controls s t (s.stop control, result) (t.stop control, result) where
  result_eq := rfl
  alike := ⟨h.prev_eq, h.end_eq, h.issued_eq, h.world_eq⟩
  asked other _ hs := by rw [Session.isStopped_stop, Session.isStopped_stop, hs]
  issued_le := Nat.le_refl _

end Sessions

/-! ## Runs -/

section Runs

variable {controls : Set Nat} {control start : Nat} {o o' : Outcome} {s s' t : Session World}
  {seq seq' : List (Slot World)} {cs : List (Call World)}

/-- Slots that match stand on the same arms. -/
theorem map_arm_of_matches (h : List.Forall₂ (Slot.Matches controls) seq seq') :
    seq.map Slot.arm = seq'.map Slot.arm := by
  rw [← List.forall₂_eq_eq_eq, List.forall₂_map_left_iff, List.forall₂_map_right_iff]
  exact h.imp fun _ _ hslot => hslot.arm_eq

/-- A slot is matched by the one at its place. -/
theorem exists_slot_of_matches {place : Nat} {slot : Slot World}
    (h : List.Forall₂ (Slot.Matches controls) seq seq') (hslot : seq[place]? = some slot) :
    ∃ slot', seq'[place]? = some slot' ∧ slot.Matches controls slot' := by
  obtain ⟨hlt, rfl⟩ := List.getElem?_eq_some_iff.1 hslot
  have hlt' : place < seq'.length := h.length_eq ▸ hlt
  exact ⟨seq'[place], List.getElem?_eq_getElem hlt', h.get hlt hlt'⟩

/-- Where the handlers of two sequences match, a trace of the one is followed by a trace of the
other in every session that looks alike, as long as the same is asked of the control. -/
theorem Traced.of_matches (hslots : List.Forall₂ (Slot.Matches controls) seq seq')
    (hcontrol : control ∈ controls) (h : Traced seq control start o s cs s' o') (halike : s.Alike t)
    (hasked : s.isStopped control = t.isStopped control) :
    ∃ cs' t', Traced seq' control start o t cs' t' o' ∧ List.Forall₂ Call.Alike cs cs' ∧
      EndAlike controls s t (s', o') (t', o') := by
  induction h generalizing t with
  | done hplace =>
    refine ⟨[], t, .done ?_, .nil, .unchanged halike _⟩
    rw [← hplace]
    exact nextPlace_congr (map_arm_of_matches hslots).symm hasked.symm
  | @call start o o' s s' c cs slot hplace hslot hbefore hinvoke _ ih =>
    obtain ⟨place, before, after, outcome⟩ := c
    dsimp only at *
    have hset : EndAlike controls s t (before, o) (t.setPrev o.datum, o) :=
      hbefore ▸ .set halike "prev" o.datum o
    obtain ⟨slot', hslot', hmatches⟩ := exists_slot_of_matches hslots hslot
    -- The next call is of handlers that match, in sessions that look alike.
    have hcall := hmatches.handler _ _ hset.alike
    rw [hinvoke] at hcall
    obtain ⟨cs', t', htraced, hcs, hend⟩ :=
      ih hcall.alike (hcall.asked control hcontrol (hset.asked control hcontrol hasked))
    refine ⟨⟨place, t.setPrev o.datum, (slot'.handler.invoke (t.setPrev o.datum)).1, outcome⟩ ::
      cs', t', .call ?_ hslot' rfl ?_ htraced, .cons ⟨rfl, hset.alike, hcall.alike, rfl⟩ hcs,
      (hset.trans hcall).trans hend⟩
    · rw [← hplace]
      exact nextPlace_congr (map_arm_of_matches hslots).symm hasked.symm
    · exact Prod.ext rfl hcall.result_eq.symm

/-- A run whose handlers match those of another makes calls that are alike, and ends alike. It may
begin in any session with that world and that number of the next control. -/
theorem run_of_matches {links links' : List (Link World)}
    (hslots : List.Forall₂ (Slot.Matches controls) (slots links) (slots links'))
    (hcontrol : s.issued ∈ controls) (hissued : s.issued = t.issued) (hworld : s.world = t.world) :
    List.Forall₂ Call.Alike (calls links s) (calls links' t) ∧
      EndAlike controls s t (run links s) (run links' t) := by
  obtain ⟨s', o', _, htraced, hrun, -⟩ := run_traced links s
  obtain ⟨t', o'', _, htraced', hrun', -⟩ := run_traced links' t
  have hasked : s.enter.1.isStopped s.issued = t.enter.1.isStopped s.issued := by
    have ht : t.enter.1.isStopped s.issued = false := hissued ▸ isStopped_enter t
    rw [ht]
    exact isStopped_enter s
  obtain ⟨cs', _, hmatched, hcs, hend⟩ :=
    htraced.of_matches hslots hcontrol (Session.alike_enter hissued hworld) hasked
  rw [hissued] at hmatched
  obtain ⟨rfl, rfl, rfl⟩ := hmatched.det htraced'
  refine ⟨hcs, by rw [hrun, hrun'], ?_, fun c hc hs => ?_, ?_⟩
  · rw [hrun, hrun']
    exact hend.alike.logging _ _
  · rw [hrun, hrun']
    refine hend.asked c hc ?_
    by_cases hown : c = s.issued
    · rw [hown, hasked]
    · rw [Session.isStopped_enter_of_ne hown, Session.isStopped_enter_of_ne (hissued ▸ hown), hs]
  · rw [hrun]
    exact (Nat.le_succ _).trans hend.issued_le

/-- The slot of a side has the handler of that side. -/
theorem handler_mem_of_mem_slotOf {arm : Arm} {handler? : Option (Handler World)}
    {slot : Slot World} (h : slot ∈ slotOf arm handler?) : slot.handler ∈ handler? := by
  rw [slotOf, List.mem_map] at h
  obtain ⟨handler, hmem, rfl⟩ := h
  exact Option.mem_toList.1 hmem

/-- Modest handlers match themselves. -/
theorem forall₂_matches_of_isModest {links : List (Link World)}
    (hmodest : ∀ slot ∈ slots links, slot.handler.IsModest) :
    List.Forall₂ (Slot.Matches Set.univ) (slots links) (slots links) :=
  List.forall₂_same.2 fun slot hslot => ⟨rfl, hmodest slot hslot⟩

/-- So a chain of modest handlers, run by a handler over the context that it was given itself, is
no more than modest. -/
theorem run_of_isModest {links : List (Link World)}
    (hmodest : ∀ slot ∈ slots links, slot.handler.IsModest) (halike : s.Alike t) :
    EndAlike Set.univ s t (run links s) (run links t) :=
  (run_of_matches (forall₂_matches_of_isModest hmodest) (Set.mem_univ _) halike.issued_eq
    halike.world_eq).2

/-- Two runs over contexts of their own: neither the kinds of these contexts nor their entries make
a difference. -/
theorem runOn_of_matches {context context' : Context} {record record' : Record}
    {links links' : List (Link World)} (hopen : context.opened = .ok record)
    (hopen' : context'.opened = .ok record')
    (hslots : List.Forall₂ (Slot.Matches controls) (slots links) (slots links'))
    (hcontrol : s.issued ∈ controls) (hissued : s.issued = t.issued) (hworld : s.world = t.world) :
    List.Forall₂ Call.Alike (callsOn context links s) (callsOn context' links' t) ∧
      EndAlike controls { s with record := record } { t with record := record' }
        (runOn context links s) (runOn context' links' t) := by
  rw [callsOn_of_opened hopen, callsOn_of_opened hopen', runOn, runOn, hopen, hopen']
  exact run_of_matches hslots hcontrol hissued hworld

/-- A chain of modest handlers that a handler runs over a context of its own does alike, too. -/
theorem runBeside_of_isModest {links : List (Link World)} (context : Context)
    (hmodest : ∀ slot ∈ slots links, slot.handler.IsModest) (halike : s.Alike t) :
    EndAlike Set.univ s t (runBeside context links s) (runBeside context links t) := by
  cases hopen : context.opened with
  | error e =>
    rw [runBeside, runBeside, runOn, runOn, hopen]
    exact .unchanged halike _
  | ok record =>
    have hend := (runOn_of_matches hopen hopen (forall₂_matches_of_isModest hmodest)
      (Set.mem_univ _) halike.issued_eq halike.world_eq).2
    exact ⟨hend.result_eq, ⟨halike.prev_eq, halike.end_eq, hend.alike.issued_eq,
      hend.alike.world_eq⟩, hend.asked, hend.issued_le⟩

/-- A run of modest handlers uses up the number of its control. -/
theorem lt_issued_run {links : List (Link World)}
    (hmodest : ∀ slot ∈ slots links, slot.handler.IsModest) (s : Session World) :
    s.issued < (run links s).1.issued := by
  obtain ⟨s', o', _, htraced, hrun, -⟩ := run_traced links s
  obtain ⟨_, _, -, -, hend⟩ := htraced.of_matches (forall₂_matches_of_isModest hmodest)
    (Set.mem_univ _) (.refl _) rfl
  rw [hrun]
  exact hend.issued_le

end Runs

/-! ## Scripts -/

namespace Script

variable {s t : Scene} {name : String} {ending : Ending} {controls : Set Nat}

/-- Leaving a note does alike. -/
theorem endAlike_noteOf {Result : Type} (h : s.Alike t) (name what : String) (d : Datum)
    (result : Result) :
    EndAlike controls s t (noteOf name what d s, result) (noteOf name what d t, result) :=
  .setWorld h (by rw [h.world_eq]) result

/-- Setting entries of the event does alike. -/
theorem endAlike_setEvent {Result : Type} (h : s.Alike t) (entries : List (Value × Value))
    (result : Result) :
    EndAlike controls s t (setEvent entries s, result) (setEvent entries t, result) :=
  .setWorld h (by rw [h.world_eq]) result

/-- Setting entries of the context does alike, whichever they are. -/
theorem endAlike_setContext {Result : Type} (h : s.Alike t) (entries : List (String × Value))
    (result : Result) :
    EndAlike controls s t (setContext entries s, result) (setContext entries t, result) := by
  induction entries generalizing s t with
  | nil => exact .unchanged h result
  | cons e rest ih =>
    have hset : EndAlike controls s t (s.set e.1 (.value e.2), result)
        (t.set e.1 (.value e.2), result) := .set h _ _ result
    exact hset.trans (ih hset.alike)

/-- Calling the end does alike, where there is one. -/
theorem endAlike_callEnd (h : s.Alike t) :
    EndAlike controls s t (Action.perform name .callEnd s) (Action.perform name .callEnd t) := by
  rw [Action.perform, Action.perform, Session.callEnd, Session.callEnd, h.end_eq]
  cases t.record.get "end" with
  | stop control => exact .stop h control none
  | value v => exact .unchanged h _
  | error e => exact .unchanged h _

/-- Endings give the same outcome. -/
theorem outcome_of_alike (h : s.Alike t) (ending : Ending) :
    ending.outcome s = ending.outcome t := by
  cases ending <;> simp only [Ending.outcome, h.prev_eq, h.world_eq]

/-- What a nested chain comes to is noted alike. -/
theorem endAlike_noteNested {r r' : Scene × Outcome} (h : EndAlike controls s t r r') :
    EndAlike controls s t (noteNested name r) (noteNested name r') := by
  obtain ⟨s', o⟩ := r
  obtain ⟨t', o'⟩ := r'
  obtain rfl : o = o' := h.result_eq
  have hend : ∀ e?, EndAlike controls s t (s', (e? : Option Error)) (t', e?) := fun _ =>
    ⟨rfl, h.alike, h.asked, h.issued_le⟩
  cases o with
  | returned d => exact (hend none).trans (endAlike_noteOf h.alike name "nested" d none)
  | raised e => exact hend (some e)

/-- The outcome of a script in a mode, when its actions have failed or have all been performed. -/
def Ending.outcomeIn (ending : Ending) (mode : Mode) (failure? : Option Error) (s : Scene) :
    Outcome :=
  match mode, failure? with
  | .called, some e | .deferred, some e => .raised e
  | .routine, some e => (Outcome.raised e).leaving "coroutine"
  | .called, none => ending.outcome s
  | .routine, none => (ending.outcome s).leaving "coroutine"
  | .deferred, none => (ending.outcome s).leaving "generator"

/-- A script notes its call, performs its actions, and ends. -/
theorem invoke_handlerOf (name : String) (mode : Mode) (perform : Scene → Scene × Option Error)
    (ending : Ending) (s : Scene) :
    (handlerOf name mode perform ending).invoke s =
      ((perform (noteOf name "called" s.prev s)).1,
        ending.outcomeIn mode (perform (noteOf name "called" s.prev s)).2
          (perform (noteOf name "called" s.prev s)).1) := by
  unfold Handler.invoke handlerOf
  cases mode <;> dsimp only <;> cases perform (noteOf name "called" s.prev s) with
  | mk s' failure? => cases failure? <;> rfl

/-- A script is modest in every mode, if its actions are performed alike. -/
theorem isModest_handlerOf {perform : Scene → Scene × Option Error} (mode : Mode)
    (hperform : ∀ s t, s.Alike t → EndAlike Set.univ s t (perform s) (perform t)) :
    (handlerOf name mode perform ending).IsModest := by
  intro s t h
  have hnoted : EndAlike Set.univ s t (noteOf name "called" s.prev s, ())
      (noteOf name "called" t.prev t, ()) := h.prev_eq ▸ endAlike_noteOf h name "called" s.prev ()
  have hperformed := hnoted.trans (hperform _ _ hnoted.alike)
  rw [invoke_handlerOf, invoke_handlerOf]
  refine hperformed.map (ending.outcomeIn mode) fun failure? s t h => ?_
  unfold Ending.outcomeIn
  rw [outcome_of_alike h]

/-- What is no function fails to be called, whatever the session. -/
theorem isModest_uncallable (typeName : String) :
    (Handler.uncallable typeName : Handler Stage).IsModest :=
  fun _ _ h => .unchanged h _

-- The induction is on scripts: a handler performs actions, and an action may run a chain of
-- scripts.
mutual
/-- **Every scripted handler is modest.** -/
theorem Role.isModest (role : Role) {h : Handler Stage} (hrole : h ∈ role.handler?) :
    h.IsModest := by
  cases role with
  | absent => cases hrole
  | constant typeName =>
    cases hrole
    exact isModest_uncallable typeName
  | scripted name mode actions ending =>
    cases hrole
    exact isModest_handlerOf mode fun s t h => endAlike_performAll name actions h

/-- An action is performed alike. -/
theorem endAlike_perform (name : String) (action : Action) {s t : Scene} (h : s.Alike t) :
    EndAlike Set.univ s t (action.perform name s) (action.perform name t) := by
  cases action with
  | callEnd => exact endAlike_callEnd h
  | note v => exact endAlike_noteOf h name "after" (.value v) none
  | setEvent entries => exact endAlike_setEvent h entries none
  | setContext entries => exact endAlike_setContext h entries none
  | pause => exact .unchanged h none
  | nested links context =>
    cases context with
    | none => exact endAlike_noteNested (run_of_isModest (isModest_chain links) h)
    | some context =>
      exact endAlike_noteNested (runBeside_of_isModest context (isModest_chain links) h)

/-- Actions are performed alike, up to the first that fails. -/
theorem endAlike_performAll (name : String) (actions : List Action) {s t : Scene}
    (h : s.Alike t) :
    EndAlike Set.univ s t (performAll name actions s) (performAll name actions t) := by
  cases actions with
  | nil => exact .unchanged h none
  | cons action rest =>
    have hfirst := endAlike_perform name action h
    rw [performAll, performAll]
    cases hs : action.perform name s with
    | mk s' failure? =>
      cases ht : action.perform name t with
      | mk t' failure?' =>
        rw [hs, ht] at hfirst
        obtain rfl : failure? = failure?' := hfirst.result_eq
        cases failure? with
        | some e => exact hfirst
        | none => exact hfirst.trans (endAlike_performAll name rest hfirst.alike)

/-- A chain of scripts has modest handlers. -/
theorem isModest_chain (links : List ScriptedLink) :
    ∀ slot ∈ slots (chain links), slot.handler.IsModest := by
  cases links with
  | nil => simp [chain, slots]
  | cons link rest =>
    obtain ⟨label, success, failure⟩ := link
    intro slot hslot
    rw [chain, ScriptedLink.link, slots_cons, Link.slots, List.mem_append, List.mem_append] at hslot
    rcases hslot with (hslot | hslot) | hslot
    · exact success.isModest (handler_mem_of_mem_slotOf hslot)
    · exact failure.isModest (handler_mem_of_mem_slotOf hslot)
    · exact isModest_chain rest slot hslot
end

end Script

end HandlerPipeline.Chain

import HandlerPipeline.Proofs.Chain.Alike
import Mathlib.Data.Set.Insert

/-!
# Invocations do not leak into each other

A host invokes chains one after the other over one context, which each of them leaves to the next
(`invocations`). What an invocation reads of the context it has put there itself, and its control is
a new one. So, where handlers are modest, every invocation makes the calls that it makes alone, over
any other context and with nothing asked or done before (`Invocation.alone`), and has the same
outcome. Requests to stop name the control that they are meant for: ends that handlers have kept
from other invocations stop none but those (`Invocation.recalling`). The theorem
`invocations_isolated` says both for every invocation among others.
-/

namespace HandlerPipeline.Chain

variable {World : Type}

/-- What a host asks for: a chain, to be run for an event. -/
structure Request (World : Type) where
  links : List (Link World)
  /-- What the arrival of the event makes of the world. -/
  arrive : World → World

/-- An invocation: a chain, and the context and the session that it finds. -/
structure Invocation (World : Type) where
  links : List (Link World)
  context : Context
  session : Session World

namespace Invocation

/-- The session that an invocation leaves, and its outcome. -/
def result (i : Invocation World) : Session World × Outcome := runOn i.context i.links i.session

/-- The context as the host holds it after an invocation. -/
def contextAfter (i : Invocation World) : Context := i.context.after i.result.1.record

/-- The calls of an invocation. -/
def calls (i : Invocation World) : List (Call World) := callsOn i.context i.links i.session

/-- The invocation alone, over another context: the world is as it finds it, but nobody was asked to
stop and nothing was logged. Its control bears the same number, so a request to stop another control
is one there, too. -/
def alone (i : Invocation World) (context : Context) : Invocation World :=
  ⟨i.links, context, ⟨.fresh, [], i.session.issued, [], i.session.world⟩⟩

/-- Two invocations are the same for their handlers and their hosts: their calls are alike one by
one, and they have the same outcome. -/
structure Same (i j : Invocation World) : Prop where
  calls : List.Forall₂ Call.Alike i.calls j.calls
  outcome_eq : i.result.2 = j.result.2

end Invocation

/-- The invocations that some requests lead to, one after the other over one context. -/
def invocations : List (Request World) → Context → Session World → List (Invocation World)
  | [], _, _ => []
  | request :: rest, context, s =>
    let i : Invocation World := ⟨request.links, context, { s with world := request.arrive s.world }⟩
    i :: invocations rest i.contextAfter i.result.1

/-- Runs that are repeated for one event are invocations. -/
theorem runRepeatedly_eq (links : List (Link World)) (n : Nat) (context : Context)
    (s : Session World) :
    runRepeatedly links n context s =
      (invocations (List.replicate n ⟨links, id⟩) context s).map fun i =>
        (i.result.1, i.result.2, i.contextAfter) := by
  induction n generalizing context s with
  | zero => rfl
  | succ n ih =>
    rw [runRepeatedly, List.replicate_succ, invocations, List.map_cons, ← ih]
    rfl

/-! ## Requests of other invocations -/

/-- Asks some controls to stop. -/
def Session.stopAll (asked : List Nat) (s : Session World) : Session World :=
  asked.foldl (fun s control => s.stop control) s

/-- The handler that also calls ends which it has kept, before and after what it does else. -/
def Handler.recalling (recalled : Session World → List Nat) (h : Handler World) : Handler World :=
  fun s =>
    let r := h.invoke (s.stopAll (recalled s))
    (r.1.stopAll (recalled r.1), .done r.2)

/-- The invocation whose handlers also call ends which they have kept. -/
def Invocation.recalling (recalled : Session World → List Nat) (i : Invocation World) :
    Invocation World :=
  { i with links := i.links.map (Link.mapHandlers (Handler.recalling recalled)) }

section Recalling

variable {s : Session World} {control : Nat} {recalled : Session World → List Nat}

/-- Requests to stop cannot be told by handlers. -/
theorem Session.alike_stopAll (asked : List Nat) (s : Session World) :
    (s.stopAll asked).Alike s := by
  induction asked generalizing s with
  | nil => exact .refl s
  | cons first rest ih => exact (ih (s.stop first)).trans ⟨rfl, rfl, rfl, rfl⟩

/-- Requests to other controls are none to the control. -/
theorem Session.isStopped_stopAll {asked : List Nat} (h : control ∉ asked) :
    (s.stopAll asked).isStopped control = s.isStopped control := by
  induction asked generalizing s with
  | nil => rfl
  | cons first rest ih =>
    rw [List.mem_cons, not_or] at h
    exact (ih h.2).trans (by rw [isStopped_stop, beq_false_of_ne h.1, Bool.false_or])

/-- The same controls are asked to stop. -/
theorem EndAlike.stopAll {t : Session World} {Result : Type} {controls : Set Nat} (h : s.Alike t)
    (asked : List Nat) (result : Result) :
    EndAlike controls s t (s.stopAll asked, result) (t.stopAll asked, result) := by
  induction asked generalizing s t with
  | nil => exact .unchanged h result
  | cons first rest ih =>
    have hfirst : EndAlike controls s t (s.stop first, result) (t.stop first, result) :=
      .stop h first result
    exact hfirst.trans (ih hfirst.alike)

/-- A modest handler that calls ends of other invocations matches the handler that does not. -/
theorem Handler.IsModest.recalling_matches {h : Handler World} (hmodest : h.IsModest)
    (hother : ∀ s, control ∉ recalled s) : (h.recalling recalled).Matches {control} h := by
  intro s t halike
  have hbefore := Session.alike_stopAll (recalled s) s
  have hend := hmodest (s.stopAll (recalled s)) t (hbefore.trans halike)
  have hafter := Session.alike_stopAll (recalled (h.invoke (s.stopAll (recalled s))).1)
    (h.invoke (s.stopAll (recalled s))).1
  refine ⟨hend.result_eq, hafter.trans hend.alike, ?_, ?_⟩
  · rintro _ rfl hs
    refine (Session.isStopped_stopAll (hother _)).trans (hend.asked _ (Set.mem_univ _) ?_)
    rw [Session.isStopped_stopAll (hother s), hs]
  · calc
      s.issued = (s.stopAll (recalled s)).issued := hbefore.issued_eq.symm
      _ ≤ (h.invoke (s.stopAll (recalled s))).1.issued := hend.issued_le
      _ = _ := hafter.issued_eq.symm

/-- So it is for the slots of a chain. -/
theorem forall₂_recalling_matches {links : List (Link World)}
    (hmodest : ∀ slot ∈ slots links, slot.handler.IsModest) (hother : ∀ s, control ∉ recalled s) :
    List.Forall₂ (Slot.Matches {control})
      (slots (links.map (Link.mapHandlers (Handler.recalling recalled)))) (slots links) := by
  rw [slots_mapHandlers, List.forall₂_map_left_iff, List.forall₂_same]
  exact fun slot hslot => ⟨rfl, (hmodest slot hslot).recalling_matches hother⟩

end Recalling

/-! ## One invocation among others -/

/-- What came before an invocation makes no difference to it. -/
structure IsIsolated (request : Request World) (i : Invocation World) : Prop where
  /-- It runs the chain that was asked for, in the world that its event has made. -/
  requested : i.links = request.links ∧ ∃ earlier, i.session.world = request.arrive earlier
  /-- It is the same as alone, over any context that takes entries. -/
  same_alone : ∀ fresh record, fresh.opened = .ok record → i.Same (i.alone fresh)
  /-- So it is when its handlers call ends that they have kept from other invocations. -/
  kept : ∀ recalled, (∀ s, i.session.issued ∉ recalled s) → ∀ fresh record,
    fresh.opened = .ok record → (i.recalling recalled).Same (i.alone fresh)

/-- What is said of invocations one after the other. -/
structure IsolationLaw (requests : List (Request World)) (is : List (Invocation World)) : Prop where
  /-- Each of them is isolated from those before it. -/
  isolated : List.Forall₂ IsIsolated requests is
  /-- The ends that they put into the context belong to different controls. -/
  numbered : is.Pairwise fun i j => i.session.issued < j.session.issued

/-- An invocation whose handlers match those of a chain is the same as that chain alone. -/
theorem Invocation.same_of_matches {i j : Invocation World} {record record' : Record}
    {controls : Set Nat} (hopen : i.context.opened = .ok record)
    (hopen' : j.context.opened = .ok record')
    (hslots : List.Forall₂ (Slot.Matches controls) (slots i.links) (slots j.links))
    (hcontrol : i.session.issued ∈ controls) (hissued : i.session.issued = j.session.issued)
    (hworld : i.session.world = j.session.world) : i.Same j := by
  obtain ⟨hcalls, hend⟩ := runOn_of_matches hopen hopen' hslots hcontrol hissued hworld
  exact ⟨hcalls, hend.result_eq⟩

/-- An invocation of modest handlers is isolated. -/
theorem Invocation.isIsolated {request : Request World} {i : Invocation World} {record : Record}
    (hlinks : i.links = request.links) {earlier : World}
    (hworld : i.session.world = request.arrive earlier) (hopen : i.context.opened = .ok record)
    (hmodest : ∀ slot ∈ slots request.links, slot.handler.IsModest) : IsIsolated request i := by
  rw [← hlinks] at hmodest
  refine ⟨⟨hlinks, earlier, hworld⟩, fun fresh record' hfresh => ?_,
    fun recalled hother fresh record' hfresh => ?_⟩
  · exact same_of_matches hopen hfresh (forall₂_matches_of_isModest hmodest) (Set.mem_univ _) rfl
      rfl
  · have hslots := forall₂_recalling_matches hmodest hother
    exact @same_of_matches _ (i.recalling recalled) (i.alone fresh) _ _ _ hopen hfresh hslots
      (Set.mem_singleton _) rfl rfl

/-- A run with modest handlers leaves a greater number to the next control. -/
theorem Invocation.issued_lt_result {i : Invocation World} {record : Record}
    (hopen : i.context.opened = .ok record)
    (hmodest : ∀ slot ∈ slots i.links, slot.handler.IsModest) :
    i.session.issued < i.result.1.issued := by
  rw [result, runOn, hopen]
  exact lt_issued_run hmodest { i.session with record := record }

/-- The controls of invocations are numbered from the next number on. -/
theorem issued_le_of_mem_invocations {requests : List (Request World)} {record : Record}
    {s : Session World} {i : Invocation World}
    (hmodest : ∀ request ∈ requests, ∀ slot ∈ slots request.links, slot.handler.IsModest)
    (hi : i ∈ invocations requests (.record record) s) : s.issued ≤ i.session.issued := by
  induction requests generalizing record s with
  | nil => cases hi
  | cons request rest ih =>
    rw [List.forall_mem_cons] at hmodest
    rcases List.mem_cons.1 hi with rfl | hi
    · exact Nat.le_refl _
    · exact (Nat.le_of_lt (Invocation.issued_lt_result rfl hmodest.1)).trans (ih hmodest.2 hi)

/-- **Invocations over one context do not leak into each other**: each makes the calls that it makes
alone, with what handlers read alike, and has the same outcome, whatever those before it have asked,
raised or left in the context, and whichever of their ends it calls. -/
theorem invocations_isolated (requests : List (Request World))
    (hmodest : ∀ request ∈ requests, ∀ slot ∈ slots request.links, slot.handler.IsModest)
    (record : Record) (s : Session World) :
    IsolationLaw requests (invocations requests (.record record) s) := by
  induction requests generalizing record s with
  | nil => exact ⟨.nil, .nil⟩
  | cons request rest ih =>
    have hrest := hmodest
    rw [List.forall_mem_cons] at hrest
    obtain ⟨hisolated, hnumbered⟩ := ih hrest.2 _ _
    refine ⟨.cons (Invocation.isIsolated rfl rfl rfl hrest.1) hisolated,
      .cons (fun i hi => ?_) hnumbered⟩
    exact (Invocation.issued_lt_result rfl hrest.1).trans_le
      (issued_le_of_mem_invocations hrest.2 hi)

/-! ## Handlers that keep ends -/

/-- Calls the ends that it has kept before, and keeps that of its own invocation. -/
def keeper : Handler (List Nat) := fun s =>
  match s.record.get "end" with
  | .stop control =>
    ({ s.stopAll s.world with world := control :: s.world }, .done (.returned .null))
  | d => (s, .done (.raised (.uncallable d.typeName)))

/-- Calls the end of its own invocation, and fails. -/
def quitter : Handler (List Nat) := fun s =>
  match s.callEnd with
  | .ok s' => (s', .done (.raised ⟨.value, some "quit"⟩))
  | .error e => (s, .done (.raised e))

/-- The second call of this chain stops it and fails; it could be caught and followed by more. -/
def quitting : List (Link (List Nat)) :=
  [⟨some keeper, none, ""⟩, ⟨some quitter, some keeper, ""⟩, ⟨some keeper, none, ""⟩]

/-- A handler that keeps ends is modest. -/
theorem isModest_keeper : keeper.IsModest := by
  intro s t h
  unfold Handler.invoke keeper
  rw [h.end_eq, h.world_eq]
  cases t.record.get "end" with
  | stop control =>
    have hasked : EndAlike Set.univ s t (s.stopAll t.world, ()) (t.stopAll t.world, ()) :=
      .stopAll h t.world ()
    exact hasked.trans (.setWorld hasked.alike rfl (Outcome.returned .null))
  | value v => exact .unchanged h _
  | error e => exact .unchanged h _

/-- So is one that calls the end. -/
theorem isModest_quitter : quitter.IsModest := by
  intro s t h
  unfold Handler.invoke quitter Session.callEnd
  rw [h.end_eq]
  cases t.record.get "end" with
  | stop control => exact .stop h control _
  | value v => exact .unchanged h _
  | error e => exact .unchanged h _

/-- Three invocations of that chain over one map: each makes two calls, although the first handler
calls the ends of all invocations before. -/
theorem invocations_isolated_quitting :
    let requests : List (Request (List Nat)) := List.replicate 3 ⟨quitting, id⟩
    let is := invocations requests (.record ⟨.items, []⟩) (.start .fresh [])
    (∀ request ∈ requests, ∀ slot ∈ slots request.links, slot.handler.IsModest) ∧
      IsolationLaw requests is ∧ is.map (fun i => (i.session.world, i.calls.length)) =
        [([], 2), ([0], 2), ([1, 0], 2)] := by
  intro requests is
  have hmodest : ∀ request ∈ requests, ∀ slot ∈ slots request.links, slot.handler.IsModest := by
    intro request hrequest
    rw [List.eq_of_mem_replicate hrequest]
    simp [slots, Link.slots, slotOf, quitting, isModest_keeper, isModest_quitter]
  exact ⟨hmodest, invocations_isolated requests hmodest _ _, rfl⟩

end HandlerPipeline.Chain

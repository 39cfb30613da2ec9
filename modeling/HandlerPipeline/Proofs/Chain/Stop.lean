import HandlerPipeline.Proofs.Chain.DataFlow

/-!
# Stopping a chain

A handler asks its run to stop by calling what the run has put into the context for that
(`Session.end_enter`, `Session.callEnd_eq_ok`). A run is compared with the free run of the same
handlers, in which such requests have no effect: each handler is muted, so that nothing is left of
its request when it ends (`Handler.muted`). As long as no call asks to stop, both runs are the same.
The first call that asks is the last one of the run; it is made as in the free run, and its outcome
is the run's (`run_stop`).
-/

namespace HandlerPipeline.Chain

variable {World : Type}

/-! ## Requests to stop -/

/-- A run puts the request to stop its own control into the context. -/
theorem Session.end_enter (s : Session World) :
    s.enter.1.record.get "end" = .stop s.enter.2 := by
  have hprev := Record.get_set_of_ne (s.record.set "end" (.stop s.issued))
    (show "end" ≠ "prev" by decide) .null
  rw [Record.get_set] at hprev
  exact hprev

/-- A handler that calls the end of its context asks the control to stop, and does nothing else. -/
theorem Session.callEnd_eq_ok {control : Nat} {s : Session World}
    (h : s.record.get "end" = .stop control) :
    s.callEnd = .ok (s.stop control) ∧ (s.stop control).isStopped control = true := by
  refine ⟨by rw [callEnd, h], ?_⟩
  rw [isStopped_stop, beq_self_eq_true, Bool.true_or]

/-! ## Muted handlers -/

/-- The session in which nobody has asked the control to stop. -/
def Session.forget (control : Nat) (s : Session World) : Session World :=
  { s with stopped := s.stopped.filter (· != control) }

/-- The handler whose requests to stop the control have no effect. -/
def Handler.muted (control : Nat) (h : Handler World) : Handler World := fun s =>
  ((h.invoke s).1.forget control, .done (h.invoke s).2)

/-- The link of muted handlers. -/
def Link.muted (control : Nat) (link : Link World) : Link World :=
  ⟨link.success?.map (Handler.muted control), link.failure?.map (Handler.muted control), link.label⟩

/-- The slot of a muted handler. -/
def Slot.muted (control : Nat) (slot : Slot World) : Slot World :=
  ⟨slot.arm, slot.handler.muted control⟩

/-- Called at a place of the chain, in that session, the handler asks the control to stop. -/
def asksAt (seq : List (Slot World)) (control place : Nat) (before : Session World) : Bool :=
  seq[place]?.any fun slot => (slot.handler.invoke before).1.isStopped control

/-- What is seen of a call, apart from the session that it leaves. -/
def Call.seen (c : Call World) : Nat × Session World × Outcome := (c.place, c.before, c.outcome)

section Muted

variable {seq : List (Slot World)} {control start : Nat} {o : Outcome} {s : Session World}

/-- Nothing is left of a request to stop that is forgotten. -/
theorem Session.isStopped_forget (control : Nat) (s : Session World) :
    (s.forget control).isStopped control = false := by
  simp [Session.forget, Session.isStopped]

/-- Where nobody has asked there is nothing to forget. -/
theorem Session.forget_of_not_isStopped (h : s.isStopped control = false) :
    s.forget control = s := by
  have hkeep : s.stopped.filter (· != control) = s.stopped := by
    rw [List.filter_eq_self]
    intro asked hasked
    rw [bne_iff_ne]
    rintro rfl
    rw [Session.isStopped, List.contains_iff_mem.2 hasked] at h
    cases h
  rw [Session.forget, hkeep]

/-- The slots of muted links are the muted slots. -/
theorem slots_muted (control : Nat) (links : List (Link World)) :
    slots (links.map (Link.muted control)) = (slots links).map (Slot.muted control) :=
  slots_mapHandlers (Handler.muted control) links

/-- Muting changes no place. -/
theorem nextPlace_muted :
    nextPlace (seq.map (Slot.muted control)) control start o s =
      nextPlace seq control start o s :=
  nextPlace_congr (by rw [List.map_map]; rfl) rfl

/-- A muted slot stands where the slot stands. -/
theorem getElem?_muted {place : Nat} {muted : Slot World}
    (h : (seq.map (Slot.muted control))[place]? = some muted) :
    ∃ slot, seq[place]? = some slot ∧ muted = slot.muted control := by
  rw [List.getElem?_map] at h
  obtain ⟨slot, hslot, rfl⟩ := Option.map_eq_some_iff.1 h
  exact ⟨slot, hslot, rfl⟩

/-- A call of a muted handler leaves no request, and is one of the handler itself where that does
not ask to stop. -/
theorem invoke_muted {place : Nat} {slot : Slot World} {before after : Session World}
    (hslot : seq[place]? = some slot)
    (h : (slot.muted control).handler.invoke before = (after, o)) :
    after.isStopped control = false ∧ (slot.handler.invoke before).2 = o ∧
      (asksAt seq control place before = false → slot.handler.invoke before = (after, o)) := by
  have hmuted : ((slot.handler.invoke before).1.forget control, (slot.handler.invoke before).2) =
      (after, o) := h
  obtain ⟨rfl, rfl⟩ := Prod.mk.inj hmuted
  refine ⟨Session.isStopped_forget _ _, rfl, fun hasks => ?_⟩
  have hnot : (slot.handler.invoke before).1.isStopped control = false := by
    simpa [asksAt, hslot] using hasks
  rw [Session.forget_of_not_isStopped hnot]

end Muted

/-! ## Two runs -/

section Traced

variable {seq : List (Slot World)} {control start : Nat} {o o' : Outcome} {s s' : Session World}
  {free : List (Call World)}

/-- Where no call asks to stop, the free trace is the trace. -/
theorem Traced.of_muted (h : Traced (seq.map (Slot.muted control)) control start o s free s' o')
    (hs : s.isStopped control = false)
    (hasks : ∀ c ∈ free, asksAt seq control c.place c.before = false) :
    Traced seq control start o s free s' o' ∧ s'.isStopped control = false := by
  induction h with
  | done hplace => exact ⟨.done (nextPlace_muted ▸ hplace), hs⟩
  | call hplace hmuted hbefore hinvoke _ ih =>
    rw [List.forall_mem_cons] at hasks
    obtain ⟨slot, hslot, rfl⟩ := getElem?_muted hmuted
    obtain ⟨hafter, -, hsame⟩ := invoke_muted hslot hinvoke
    obtain ⟨hrest, hs'⟩ := ih hafter hasks.2
    exact ⟨.call (nextPlace_muted ▸ hplace) hslot hbefore (hsame hasks.1) hrest, hs'⟩

/-- The first call that asks to stop is the last one of the trace, which is the free trace up to it;
only what that call leaves is not muted. -/
theorem Traced.take_of_muted
    (h : Traced (seq.map (Slot.muted control)) control start o s free s' o') {k : Nat}
    {c : Call World} (hc : free[k]? = some c) (hasks : asksAt seq control c.place c.before = true)
    (hfirst : ∀ j c', j < k → free[j]? = some c' → asksAt seq control c'.place c'.before = false) :
    ∃ after, Traced seq control start o s (free.take k ++ [{ c with after := after }]) after
      c.outcome := by
  induction h generalizing k with
  | done _ => cases hc
  | call hplace hmuted hbefore hinvoke _ ih =>
    obtain ⟨slot, hslot, rfl⟩ := getElem?_muted hmuted
    obtain ⟨-, houtcome, hsame⟩ := invoke_muted hslot hinvoke
    cases k with
    | zero =>
      cases hc
      have hstopped : (slot.handler.invoke c.before).1.isStopped control = true := by
        simpa [asksAt, hslot] using hasks
      refine ⟨(slot.handler.invoke c.before).1, .call (nextPlace_muted ▸ hplace) hslot hbefore ?_
        (.done (nextPlace_of_ended (.inl hstopped)))⟩
      rw [← houtcome]
    | succ k =>
      obtain ⟨after, hrest⟩ := ih hc fun j c' hj hc' => hfirst (j + 1) c' (by omega) hc'
      exact ⟨after, .call (nextPlace_muted ▸ hplace) hslot hbefore
        (hsame (hfirst 0 _ (by omega) rfl)) hrest⟩

end Traced

/-- The run of a chain, and its free run. -/
structure StopLaw (links : List (Link World)) (s : Session World) (free : List (Call World)) :
    Prop where
  /-- The runs are the same where no call asks to stop. -/
  same : (∀ c ∈ free, asksAt (slots links) s.issued c.place c.before = false) →
    calls links s = free ∧ run links s = run (links.map (Link.muted s.issued)) s
  /-- Otherwise the run makes the calls of the free run up to the first that asks. -/
  stopped : ∀ k c, free[k]? = some c → asksAt (slots links) s.issued c.place c.before = true →
    (∀ j c', j < k → free[j]? = some c' →
      asksAt (slots links) s.issued c'.place c'.before = false) →
    (calls links s).take k = free.take k ∧
      (calls links s).map Call.seen = (free.take (k + 1)).map Call.seen ∧
      (run links s).2 = c.outcome.leaving "coroutine" ∧
      ((run links s).2 = c.outcome ↔ ∀ e, c.outcome = .raised e → e.kind ≠ .stopIteration)

/-- **A stop cuts a run off and changes nothing else**: up to the first call that asks, the calls
are those of the run in which asking has no effect, and the outcome of that call is the run's. -/
theorem run_stop (links : List (Link World)) (s : Session World) :
    StopLaw links s (calls (links.map (Link.muted s.issued)) s) := by
  obtain ⟨s₁, o₁, passed₁, htraced, hrun, hpassed, -⟩ := run_traced links s
  obtain ⟨s₂, o₂, passed₂, hfree, hrunFree, hpassedFree, -⟩ :=
    run_traced (links.map (Link.muted s.issued)) s
  rw [slots_muted] at hfree
  refine ⟨fun hasks => ?_, fun k c hc hasks hfirst => ?_⟩
  · obtain ⟨hsame, hnot⟩ := hfree.of_muted (isStopped_enter s) hasks
    obtain ⟨hcalls, rfl, rfl⟩ := htraced.det hsame
    refine ⟨hcalls, ?_⟩
    rw [hrun, hrunFree, hpassed hnot, hpassedFree hnot]
  · obtain ⟨after, hcut⟩ := hfree.take_of_muted hc hasks hfirst
    obtain ⟨hcalls, rfl, rfl⟩ := htraced.det hcut
    have hlt : k < (calls (links.map (Link.muted s.issued)) s).length :=
      (List.getElem?_eq_some_iff.1 hc).1
    have houtcome : (run links s).2 = c.outcome.leaving "coroutine" := by rw [hrun]
    refine ⟨?_, ?_, houtcome, ?_⟩
    · rw [hcalls, List.take_left']
      rw [List.length_take, Nat.min_eq_left (by omega)]
    · rw [hcalls, List.take_add_one, hc, List.map_append, List.map_append]
      rfl
    · rw [houtcome]
      exact leaving_eq_iff _ _

/-- A chain of one handler, which asks to stop and raises what ends iterations. -/
def stoppedExhausted : List Script.ScriptedLink :=
  [.mk "" (.scripted "a" .called [.callEnd] (.raise ⟨.stopIteration, some "s"⟩)) .absent]

/-- The outcome of a run is not always that of the call that stops it: the error of such a handler
is replaced on its way out. -/
theorem run_ne_outcome_of_stop :
    ¬ ∀ (links : List (Link Script.Stage)) (s : Script.Scene) (k : Nat) (c : Call Script.Stage),
      (calls (links.map (Link.muted s.issued)) s)[k]? = some c →
      asksAt (slots links) s.issued c.place c.before = true →
      (∀ j c', j < k → (calls (links.map (Link.muted s.issued)) s)[j]? = some c' →
        asksAt (slots links) s.issued c'.place c'.before = false) →
      (run links s).2 = c.outcome := by
  intro h
  have hrun := h (Script.chain stoppedExhausted) (.start .fresh ⟨.map [], []⟩) 0 _ rfl rfl
    fun j _ hj => absurd hj (Nat.not_lt_zero j)
  have hkind : (Outcome.raised ⟨.runtime, some "coroutine raised StopIteration"⟩) =
      .raised ⟨.stopIteration, some "s"⟩ := hrun
  cases hkind

end HandlerPipeline.Chain

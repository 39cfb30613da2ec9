import HandlerPipeline.Proofs.Chain.Alike

/-!
# The host's context

A host gives a run its context as it likes: none, a map, or an object with attributes. The run puts
its two entries into it and reads nothing else, so the kind of the context and its other entries
make no difference to modest handlers (`runOn_of_matches`). In turn the run changes no other entry.
Where handlers only read the context and call its end (`Handler.KeepsContext`), the host gets its
context back with these two entries set, and all others as they were (`Traced.record_eq`): the end
is that of the run's own control, and what stands for the handler before is what the last call read.
The theorem `run_hostContext` says both.
-/

namespace HandlerPipeline.Chain

variable {World : Type}

/-- The handler writes nothing into the context. It may read it, and call its end. -/
def Handler.KeepsContext (h : Handler World) : Prop :=
  ∀ s : Session World, (h.invoke s).1.record = s.record

/-- What the last of some calls read of the handler before it; without a call, nothing. -/
def lastRead (cs : List (Call World)) : Datum :=
  (cs.getLast?.map fun c => c.before.prev).getD .null

/-- The record with the two entries of a run, and all others as they were. -/
structure Record.IsFramed (before after : Record) (control : Nat) (d : Datum) : Prop where
  record_eq : after = (before.set "end" (.stop control)).set "prev" d
  shape_eq : after.shape = before.shape
  end_eq : after.entries.lookup "end" = some (.stop control)
  prev_eq : after.entries.lookup "prev" = some d
  others_eq : ∀ name, name ≠ "end" → name ≠ "prev" →
    after.entries.lookup name = before.entries.lookup name

/-! ## What is left in the context -/

/-- Of two values set for an entry, the second counts. -/
theorem Record.set_set (r : Record) (name : String) (d d' : Datum) :
    (r.set name d).set name d' = r.set name d' := by
  obtain ⟨shape, entries⟩ := r
  rw [Record.set_eq, Record.set_eq, Record.set_eq]
  dsimp only
  congr 1
  induction entries with
  | nil => simp [Record.setEntry]
  | cons e rest ih =>
    simp only [Record.setEntry]
    split
    · simp [Record.setEntry]
    · next hne => rw [Record.setEntry, if_neg hne, ih]

/-- Both entries of a run are set, and no other. -/
theorem Record.isFramed_set (r : Record) (control : Nat) (d : Datum) :
    r.IsFramed ((r.set "end" (.stop control)).set "prev" d) control d where
  record_eq := rfl
  shape_eq := by rw [set_eq, set_eq]
  end_eq := by rw [lookup_set_of_ne _ (by decide), lookup_set]
  prev_eq := lookup_set _ _ _
  others_eq name hend hprev := by rw [lookup_set_of_ne _ hprev, lookup_set_of_ne _ hend]

/-- Where handlers keep the context, a trace sets one entry of it, to what its last call read. -/
theorem Traced.record_eq {seq : List (Slot World)} {control start : Nat} {o o' : Outcome}
    {s s' : Session World} {cs : List (Call World)}
    (hkeep : ∀ slot ∈ seq, slot.handler.KeepsContext)
    (h : Traced seq control start o s cs s' o') {base : Record} {d : Datum}
    (hrecord : s.record = base.set "prev" d) :
    s'.record = base.set "prev" ((cs.getLast?.map fun c => c.before.prev).getD d) := by
  induction h generalizing d with
  | done _ => exact hrecord
  | @call _ o _ s _ c cs slot _ hslot hbefore hinvoke _ ih =>
    have hread : c.before.prev = o.datum := by rw [hbefore, Session.prev_setPrev]
    have hafter : c.after.record = base.set "prev" c.before.prev := by
      have hkept := hkeep slot (List.mem_of_getElem? hslot) c.before
      rw [hinvoke] at hkept
      rw [hkept, hread, hbefore, Session.setPrev, Session.set, hrecord, Record.set_set]
    rw [ih hafter, List.getLast?_cons]
    cases cs.getLast? <;> rfl

/-- The context as a run of such handlers leaves it. -/
theorem isFramed_runOn {links : List (Link World)}
    (hkeep : ∀ slot ∈ slots links, slot.handler.KeepsContext) (record : Record)
    (s : Session World) :
    record.IsFramed (runOn (.record record) links s).1.record s.issued
      (lastRead (callsOn (.record record) links s)) := by
  have hopen : (Context.record record).opened = .ok record := rfl
  obtain ⟨s', o', _, htraced, hrun, -⟩ := run_traced links { s with record := record }
  have hframe := htraced.record_eq hkeep rfl
  have hrecord : (runOn (.record record) links s).1.record = s'.record := by
    rw [runOn, hopen]
    dsimp only
    rw [hrun]
    rfl
  rw [hrecord, hframe, callsOn_of_opened hopen]
  exact record.isFramed_set _ _

/-- What a chain makes of the context that the host gives it. -/
structure HostContextLaw (links : List (Link World)) (s : Session World) : Prop where
  /-- Modest handlers get the same calls and come to the same outcome over every context that takes
  entries, be it none, a map or an object. -/
  same : (∀ slot ∈ slots links, slot.handler.IsModest) → ∀ context context' record record',
    context.opened = .ok record → context'.opened = .ok record' →
    List.Forall₂ Call.Alike (callsOn context links s) (callsOn context' links s) ∧
      (runOn context links s).2 = (runOn context' links s).2
  /-- Handlers that write nothing into the context leave it to the host with the two entries of the
  run set, and all others as they were. -/
  framed : (∀ slot ∈ slots links, slot.handler.KeepsContext) → ∀ record,
    ∃ after, (Context.record record).after (runOn (.record record) links s).1.record =
        .record after ∧
      record.IsFramed after s.issued (lastRead (callsOn (.record record) links s))

/-- **The kind of the context makes no difference, and two entries of it are all that changes.** -/
theorem run_hostContext (links : List (Link World)) (s : Session World) :
    HostContextLaw links s := by
  refine ⟨fun hmodest context context' record record' hopen hopen' => ?_,
    fun hkeep record => ⟨_, rfl, isFramed_runOn hkeep record s⟩⟩
  obtain ⟨hcalls, hend⟩ := runOn_of_matches hopen hopen' (forall₂_matches_of_isModest hmodest)
    (Set.mem_univ _) rfl rfl
  exact ⟨hcalls, hend.result_eq⟩

/-! ## Scripts that keep the context -/

namespace Script

/-- The action writes nothing into the context. -/
inductive Action.Keeps : Action → Prop where
  | callEnd : Keeps .callEnd
  | note (v : Value) : Keeps (.note v)
  | setEvent (entries : List (Value × Value)) : Keeps (.setEvent entries)
  | pause : Keeps .pause
  /-- A chain over a context of its own. -/
  | nested (links : List ScriptedLink) (context : Context) : Keeps (.nested links (some context))

/-- Such an action leaves the context as it was. -/
theorem Action.Keeps.record_perform {action : Action} (h : action.Keeps) (name : String)
    (s : Scene) : (action.perform name s).1.record = s.record := by
  cases h with
  | callEnd =>
    rw [Action.perform, Session.callEnd]
    cases s.record.get "end" <;> rfl
  | note v => rfl
  | setEvent entries => rfl
  | pause => rfl
  | nested links context =>
    rw [Action.perform]
    have hbeside : (runBeside context (chain links) s).1.record = s.record := rfl
    cases hrun : runBeside context (chain links) s with
    | mk s' o =>
      rw [hrun] at hbeside
      cases o <;> exact hbeside

/-- So do several of them. -/
theorem record_performAll {actions : List Action} (h : ∀ action ∈ actions, action.Keeps)
    (name : String) (s : Scene) : (performAll name actions s).1.record = s.record := by
  induction actions generalizing s with
  | nil => rfl
  | cons action rest ih =>
    rw [List.forall_mem_cons] at h
    have hfirst := h.1.record_perform name s
    rw [performAll]
    split
    · next s' e heq =>
      rw [heq] at hfirst
      exact hfirst
    · next s' heq =>
      rw [heq] at hfirst
      exact (ih h.2 s').trans hfirst

/-- A script of such actions keeps the context. -/
theorem keepsContext_handlerOf {actions : List Action} (h : ∀ action ∈ actions, action.Keeps)
    (name : String) (mode : Mode) (ending : Ending) :
    (handlerOf name mode (performAll name actions) ending).KeepsContext := by
  intro s
  rw [invoke_handlerOf]
  exact record_performAll h name _

/-- The second handler of this chain calls the end, so the third one is passed over. -/
def cutShort : List ScriptedLink :=
  [.mk "" (.scripted "a" .called [] (.give (.int 1))) .absent,
    .mk "" (.scripted "b" .called [.callEnd] (.give (.int 2))) .absent,
    .mk "" (.scripted "c" .called [] .givePrev) .absent]

/-- Its handlers keep the context. -/
theorem keepsContext_cutShort : ∀ slot ∈ slots (chain cutShort), slot.handler.KeepsContext := by
  simp only [cutShort, chain, ScriptedLink.link, slots, Link.slots, slotOf, Role.handler?,
    List.flatMap_cons, List.flatMap_nil, Option.toList_some, Option.toList_none, List.map_cons,
    List.map_nil, List.append_nil, List.cons_append, List.nil_append, List.forall_mem_cons]
  exact ⟨keepsContext_handlerOf (List.forall_mem_nil _) _ _ _,
    keepsContext_handlerOf (List.forall_mem_singleton.2 .callEnd) _ _ _,
    keepsContext_handlerOf (List.forall_mem_nil _) _ _ _, List.forall_mem_nil _⟩

end Script

/-- A map has an entry of its own, and one that an earlier run has left. It gets the end behind
them, and holds what the last call read: not what that call gave. -/
theorem run_hostContext_map :
    let links := Script.chain Script.cutShort
    let s : Script.Scene := .start .fresh ⟨.map [], []⟩
    let given : Record := ⟨.items, [("x", .value (.int 0)), ("prev", .value (.int 9))]⟩
    (runOn .absent links s).2 = (runOn (.record given) links s).2 ∧
      given.IsFramed (runOn (.record given) links s).1.record 0 (.value (.int 1)) ∧
      (runOn (.record given) links s).1.record.entries =
        [("x", .value (.int 0)), ("prev", .value (.int 1)), ("end", .stop 0)] := by
  intro links s given
  have hlaw := run_hostContext links s
  refine ⟨(hlaw.same (Script.isModest_chain _) .absent (.record given) _ _ rfl rfl).2, ?_, rfl⟩
  obtain ⟨after, hafter, hframed⟩ := hlaw.framed Script.keepsContext_cutShort given
  cases hafter
  exact hframed

end HandlerPipeline.Chain

import HandlerPipeline.Proofs.Chain.Calls

/-!
# The next handler

Which handlers a run calls is a law about the sequence of the chain's handlers alone
(`NextHandlerLaw`): after a value the next one is the first handler for success that stands later,
after an ordinary error the first one for failure, and after a stop or any other error there is
none. Links are no part of it: chains with one sequence run alike (`SameRun`), however their
handlers are spread over links. The theorem `run_nextHandler` says that every run keeps the law.
-/

namespace HandlerPipeline.Chain

variable {World : Type}

/-- Two chains run alike in a session: they make the same calls, have the same outcome, and leave
the same session but for the lines of links that are passed over. -/
structure SameRun (links links' : List (Link World)) (s : Session World) : Prop where
  calls_eq : calls links s = calls links' s
  outcome_eq : (run links s).2 = (run links' s).2
  session_eq : ∃ (s' : Session World) (lines lines' : List Log.Line),
    (run links s).1 = s'.logging lines ∧ (run links' s).1 = s'.logging lines'

/-- The law of the next handler, for the run of a chain in a session. -/
structure NextHandlerLaw (links : List (Link World)) (s : Session World) : Prop where
  /-- The first call is that of the first handler for success. -/
  first : (calls links s).head?.map Call.place = firstFrom (slots links) .success 0
  /-- Behind every call stands the call of the next place, where there is one. -/
  next : ∀ k c, (calls links s)[k]? = some c → (calls links s)[k + 1]?.map Call.place =
    nextPlace (slots links) s.issued (c.place + 1) c.outcome c.after
  /-- A call is one of the handler at its place, which finds its control not yet asked to stop. -/
  invoked : ∀ c ∈ calls links s, c.before.isStopped s.issued = false ∧
    ∃ slot, (slots links)[c.place]? = some slot ∧
      slot.handler.invoke c.before = (c.after, c.outcome)
  /-- An error that no chain holds ends the run at once, and is the run's outcome. -/
  ends : ∀ c ∈ calls links s, ∀ e, c.outcome = .raised e → e.isOrdinary = false →
    (calls links s).getLast? = some c ∧ (run links s).2 = .raised e
  /-- Chains with one sequence of handlers run alike. -/
  same : ∀ links', slots links' = slots links → SameRun links' links s
  /-- So do a link with both handlers and two links with one each. -/
  split : ∀ above success failure label label₁ label₂ below,
    links = above ++ ⟨some success, some failure, label⟩ :: below →
    SameRun (above ++ ⟨some success, none, label₁⟩ :: ⟨none, some failure, label₂⟩ :: below) links s

/-- Chains with one sequence of handlers run alike. -/
theorem sameRun_of_slots_eq {links links' : List (Link World)} (h : slots links = slots links')
    (s : Session World) : SameRun links links' s := by
  obtain ⟨s₁, o₁, passed₁, htraced₁, hrun₁, -⟩ := run_traced links s
  obtain ⟨s₂, o₂, passed₂, htraced₂, hrun₂, -⟩ := run_traced links' s
  rw [h] at htraced₁
  obtain ⟨hcalls, rfl, rfl⟩ := htraced₁.det htraced₂
  exact ⟨hcalls, by rw [hrun₁, hrun₂], s₁, _, _, by rw [hrun₁], by rw [hrun₂]⟩

/-- A link with both handlers has the slots of two links with one each. -/
theorem slots_split (above below : List (Link World)) (success failure : Handler World)
    (label label₁ label₂ : String) :
    slots (above ++ ⟨some success, none, label₁⟩ :: ⟨none, some failure, label₂⟩ :: below) =
      slots (above ++ ⟨some success, some failure, label⟩ :: below) := by
  simp [slots, Link.slots, slotOf]

/-- Nothing is called behind an outcome that ends the run, and it is the outcome of the run. -/
theorem Traced.eq_last_of_endsRun {seq : List (Slot World)} {control start : Nat} {o o' : Outcome}
    {s s' : Session World} {cs : List (Call World)} (h : Traced seq control start o s cs s' o')
    {c : Call World} (hc : c ∈ cs) (hends : c.outcome.endsRun = true) :
    cs.getLast? = some c ∧ o' = c.outcome := by
  obtain ⟨k, hk⟩ := List.mem_iff_getElem?.1 hc
  have hbehind := h.drop hk
  cases hcs : cs.drop (k + 1) with
  | nil =>
    rw [hcs] at hbehind
    have hlast : cs.getLast? = some c := by
      have hlt : k < cs.length := (List.getElem?_eq_some_iff.1 hk).1
      have hle : cs.length ≤ k + 1 := List.drop_eq_nil_iff.1 hcs
      rw [List.getLast?_eq_getElem?, show cs.length - 1 = k by omega]
      exact hk
    exact ⟨hlast, hbehind.last.2.symm⟩
  | cons next rest =>
    rw [hcs] at hbehind
    have hplace := hbehind.head
    rw [nextPlace_of_ended (.inr hends)] at hplace
    cases hplace

/-- **Every run keeps the law of the next handler**: which handlers it calls depends on the sequence
of the chain's handlers alone, and is what one pass over that sequence gives. -/
theorem run_nextHandler (links : List (Link World)) (s : Session World) :
    NextHandlerLaw links s := by
  obtain ⟨s', o', passed, htraced, hrun, -⟩ := run_traced links s
  refine ⟨?_, fun k c hc => ?_, htraced.invoked, fun c hc e he hordinary => ?_, fun links' h =>
    sameRun_of_slots_eq h s, ?_⟩
  · have hs : s.enter.1.isStopped s.issued = false := isStopped_enter s
    rw [htraced.head]
    exact nextPlace_eq_firstFrom hs rfl
  · have hnext := (htraced.drop hc).head
    rw [List.head?_drop] at hnext
    exact hnext
  · have hends : c.outcome.endsRun = true := by
      rw [he, Outcome.endsRun, hordinary]
      rfl
    obtain ⟨hlast, ho⟩ := htraced.eq_last_of_endsRun hc hends
    refine ⟨hlast, ?_⟩
    have hkind : e.kind ≠ .stopIteration := by
      intro hkind
      rw [Error.isOrdinary, hkind] at hordinary
      cases hordinary
    rw [hrun, ho, he, Outcome.leaving, if_neg hkind]
  · rintro above success failure label label₁ label₂ below rfl
    exact sameRun_of_slots_eq (slots_split above below success failure label label₁ label₂) s

end HandlerPipeline.Chain

/-!
# Results

What a mapped result tells of the result under it, and which member of a list is the first to fail.
Readers of this library end in `Except.map` or go on with `bind`, and go through lists up to the
first failure, so their inversion lemmas begin here.
-/

namespace HandlerPipeline

variable {ε α β : Type}

/-- A mapped result is a success iff the result under it is one. -/
theorem map_eq_ok_iff {f : α → β} {x : Except ε α} {b : β} :
    x.map f = .ok b ↔ ∃ a, x = .ok a ∧ f a = b := by
  cases x <;> simp [Except.map]

/-- A mapped result is an error iff the result under it is that error. -/
theorem map_eq_error_iff {f : α → β} {x : Except ε α} {e : ε} :
    x.map f = .error e ↔ x = .error e := by
  cases x <;> simp [Except.map]

/-- What goes on from a result is a success iff the result is one and what goes on from its value
is. -/
theorem bind_eq_ok_iff {x : Except ε α} {f : α → Except ε β} {b : β} :
    (x >>= f) = .ok b ↔ ∃ a, x = .ok a ∧ f a = .ok b := by
  cases x <;> simp [bind, Except.bind]

/-- What can be computed from a result tells that it is a success. -/
theorem exists_ok_of_toOption_map {f : α → β} {x : Except ε α} {b : β}
    (h : x.toOption.map f = some b) : ∃ a, x = .ok a ∧ f a = b := by
  cases x with
  | error e => cases h
  | ok a => exact ⟨a, rfl, Option.some.inj h⟩

/-! ## First failures -/

/-- The member stands in the list behind members that satisfy `p`, and behind no others. -/
def StandsBehind (p : α → Prop) (l : List α) (a : α) : Prop :=
  ∃ before behind, l = before ++ a :: behind ∧ ∀ b ∈ before, p b

variable {p : α → Prop} {a b : α} {l : List α}

/-- Nothing stands in the empty list. -/
theorem not_standsBehind_nil : ¬ StandsBehind p [] a := by
  rintro ⟨before, behind, heq, -⟩
  cases before <;> cases heq

/-- A member stands in a list as its first one, or behind the first one, if that satisfies `p`. -/
theorem standsBehind_cons_iff : StandsBehind p (b :: l) a ↔ a = b ∨ p b ∧ StandsBehind p l a := by
  constructor
  · rintro ⟨before, behind, heq, hbefore⟩
    cases before with
    | nil =>
      cases heq
      exact .inl rfl
    | cons c before =>
      cases heq
      obtain ⟨hb, hbefore⟩ := List.forall_mem_cons.1 hbefore
      exact .inr ⟨hb, before, behind, rfl, hbefore⟩
  · rintro (rfl | ⟨hb, before, behind, rfl, hbefore⟩)
    · exact ⟨[], l, rfl, by simp⟩
    · exact ⟨b :: before, behind, rfl, List.forall_mem_cons.2 ⟨hb, hbefore⟩⟩

end HandlerPipeline

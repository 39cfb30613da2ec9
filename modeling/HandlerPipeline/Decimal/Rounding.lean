/-!
# Rounding quotients

A quotient of natural numbers is rounded to the nearest integer, and a half to the even neighbour.
Every rounding of the library is one of these, of an exact quotient.
-/

namespace HandlerPipeline.Decimal

/-- The nearest integer to `num / den`; a half goes to the even neighbour. -/
def roundedQuotient (num den : Nat) : Nat :=
  let below := num / den
  let twice := 2 * (num % den)
  if twice < den ∨ (twice = den ∧ below % 2 = 0) then below else below + 1

example : roundedQuotient 5 2 = 2 ∧ roundedQuotient 7 2 = 4 ∧ roundedQuotient 8 3 = 3 := by decide

end HandlerPipeline.Decimal

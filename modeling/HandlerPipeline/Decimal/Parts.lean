/-!
# Doubles taken apart

A double is a sign, a natural number and an exponent of two, unless it is infinite or no number at
all. What is computed from a double is computed from these parts, in exact arithmetic.
-/

namespace HandlerPipeline.Decimal

/-- A double taken apart: `± m · 2 ^ q`, or one of the values that are not finite. -/
inductive Parts where
  | finite (negative : Bool) (m : Nat) (q : Int)
  | infinite (negative : Bool)
  | notANumber
  deriving DecidableEq, Repr

namespace Parts

/-- The parts of a double, read off its bits. -/
def ofFloat (x : Float) : Parts :=
  let bits : Nat := x.toBits.toNat
  let negative := bits / Nat.pow 2 63 == 1
  let field : Nat := bits / Nat.pow 2 52 % Nat.pow 2 11
  let fraction := bits % Nat.pow 2 52
  if field = 2047 then if fraction = 0 then .infinite negative else .notANumber
  else if field = 0 then .finite negative fraction (-1074)
  else .finite negative (Nat.pow 2 52 + fraction) ((field : Int) - 1075)

/-- An integer with a sign. -/
def signed (negative : Bool) (n : Nat) : Int := if negative then -(n : Int) else n

/-- The integer that is left without the fraction. -/
def truncated? : Parts → Option Int
  | finite negative m q =>
    some (signed negative (if q < 0 then m / Nat.pow 2 (-q).toNat else m * Nat.pow 2 q.toNat))
  | _ => none

/-- The integer that the double is, if it has no fraction. -/
def integer? : Parts → Option Int
  | finite negative m q =>
    if q < 0 ∧ m % Nat.pow 2 (-q).toNat ≠ 0 then none else (finite negative m q).truncated?
  | _ => none

example : (finite true 5 (-1)).truncated? = some (-2) ∧ (finite true 5 (-1)).integer? = none := by
  decide
example : (finite false 6 (-1)).integer? = some 3 ∧ (infinite true).integer? = none := by decide

end Parts

end HandlerPipeline.Decimal

import HandlerPipeline.Decimal.Shortest

/-!
# Decimals with given digits

A double is written with a given number of digits after the point, or with a given number of
significant digits. The digits are those of the nearest number on that decimal grid, and of two
equally near ones that with the even last digit; the arithmetic is exact.
-/

namespace HandlerPipeline.Decimal

/-- `m · 2 ^ q` in units of `10 ^ e`. -/
def gridUnits (m : Nat) (q e : Int) : Nat :=
  roundedQuotient (m * Nat.pow 2 q.toNat * Nat.pow 10 (-e).toNat)
    (Nat.pow 2 (-q).toNat * Nat.pow 10 e.toNat)

/-- Digits with a point before the last `places` of them; the point is left out where nothing
follows it. -/
def withPoint (places : Nat) (digits : List Char) : List Char :=
  let whole := digits.length - places
  if places = 0 then digits else digits.take whole ++ '.' :: digits.drop whole

/-- The digits of `m · 2 ^ q` with `places` of them after the point. -/
def fixedDigits (m : Nat) (q : Int) (places : Nat) : List Char :=
  withPoint places (zeroPadded (places + 1) (Nat.toDigits 10 (gridUnits m q (-(places : Int)))))

/-- The decimal of `m · 2 ^ q` that has `count` digits, the first of them not zero unless `m` is.
Rounding up to one digit more moves the point. -/
def significant (m : Nat) (q : Int) (count : Nat) : Decimal :=
  if m = 0 then ⟨0, 1 - (count : Int)⟩
  else
    let e := (Neighbourhood.ofBinary m q).pointPlace - (count : Int)
    let units := gridUnits m q e
    if units = Nat.pow 10 count then ⟨Nat.pow 10 (count - 1), e + 1⟩ else ⟨units, e⟩

/-- The exponent of the first of `count` digits. -/
def leadingExponent (d : Decimal) (count : Nat) : Int := d.exponent + (count : Int) - 1

/-- Digits without the zeros at their end, and without a point that nothing follows. A number
without a point is left as it is. -/
def withoutTrailingZeros (digits : List Char) : List Char :=
  if digits.contains '.' then
    ((digits.reverse.dropWhile (· == '0')).dropWhile (· == '.')).reverse
  else digits

example : fixedDigits 5 (-1) 0 = ['2'] ∧ fixedDigits 7 (-1) 0 = ['4'] := by decide
example : fixedDigits 1 (-3) 2 = ['0', '.', '1', '2'] := by decide
example : significant 999 0 2 = ⟨10, 2⟩ ∧ significant 125 0 2 = ⟨12, 1⟩ := by decide +kernel
example : withoutTrailingZeros ['1', '0', '.', '0'] = ['1', '0'] := by decide

end HandlerPipeline.Decimal

import HandlerPipeline.Decimal.Rounding
import HandlerPipeline.Decimal.Shortest

/-!
# The nearest double

A decimal numeral stands for the double that is nearest to it, and for the one with the even last
bit where two are equally near. The numeral is first brought to the grid of the doubles of its size,
`r · 2 ^ q` with `r` below `2 ^ 53`; rounding to that grid is exact.
-/

namespace HandlerPipeline.Decimal

/-- The greatest `l` with `2 ^ l ≤ num / den`, for `num` and `den` not zero. -/
def binaryOrder (num den : Nat) : Int :=
  let l : Int := (num.log2 : Int) - den.log2
  if den * Nat.pow 2 l.toNat ≤ num * Nat.pow 2 (-l).toNat then l else l - 1

/-- The exponent of the grid of doubles around numbers of the binary order `l`. -/
def gridExponent (l : Int) : Int := max (l - 52) (-1074)

/-- The bits of `r · 2 ^ q`. A number that has been rounded up to `2 ^ 53` is carried over. -/
def doubleBits (r : Nat) (q : Int) : Nat :=
  if r < Nat.pow 2 52 then r else (q + 1075).toNat * Nat.pow 2 52 + (r - Nat.pow 2 52)

/-- The bits of infinity. -/
def infinityBits : Nat := 2047 * Nat.pow 2 52

/-- The bits of the double that is nearest to `num / den`. -/
def nearestBits (num den : Nat) : Nat :=
  let q := gridExponent (binaryOrder num den)
  let r := roundedQuotient (num * Nat.pow 2 (-q).toNat) (den * Nat.pow 2 q.toNat)
  min (doubleBits r q) infinityBits

/-- The decimal exponents beyond which a numeral stands for infinity or zero. -/
def extremeExponent : Int := 400

/-- The double that is nearest to a decimal. -/
def nearest (d : Decimal) : Float :=
  let place := d.exponent + (digitCount d.digits : Int)
  let bits :=
    if d.digits = 0 ∨ place < -extremeExponent then 0
    else if extremeExponent < place then infinityBits
    else nearestBits (d.digits * Nat.pow 10 d.exponent.toNat) (Nat.pow 10 (-d.exponent).toNat)
  Float.ofBits bits.toUInt64

example : nearestBits 1 1 = 1023 * Nat.pow 2 52 := by decide +kernel
example : nearestBits 9007199254740993 1 = nearestBits 9007199254740992 1 := by decide +kernel

end HandlerPipeline.Decimal

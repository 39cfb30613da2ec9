import HandlerPipeline.Decimal.Parts
import HandlerPipeline.Decimal.Rounding

/-!
# Shortest decimals of floating-point numbers

A finite positive double is `m · 2 ^ q`. The reals that round to it form an interval around it,
whose ends belong to it when `m` is even. Its shortest decimal is taken from the coarsest decimal
grid with a point in that interval; of two such points the nearer one is taken, and of two equally
near ones that with the even last digit. If a grid has a point in the interval, one of the double's
two neighbours on that grid lies in it, so only these are tried. All arithmetic is exact.
-/

namespace HandlerPipeline

/-- A decimal number `digits · 10 ^ exponent`. -/
structure Decimal where
  digits : Nat
  exponent : Int
  deriving DecidableEq, Repr

namespace Decimal

/-- A double and the interval of reals that round to it, over one denominator. -/
structure Neighbourhood where
  value : Nat
  low : Nat
  high : Nat
  scale : Nat
  closed : Bool
  deriving DecidableEq, Repr

/-- The neighbourhood of `m · 2 ^ q`. Below a power of two the neighbour is half as far away,
unless the exponent is the least one. -/
def Neighbourhood.ofBinary (m : Nat) (q : Int) : Neighbourhood :=
  let up := Nat.pow 2 (q - 2).toNat
  let below := if m = Nat.pow 2 52 ∧ q ≠ -1074 then 1 else 2
  { value := 4 * m * up, low := (4 * m - below) * up, high := (4 * m + 2) * up
    scale := Nat.pow 2 (2 - q).toNat, closed := m % 2 == 0 }

/-- The count of decimal digits of `n`. -/
def digitCount (n : Nat) : Nat := (Nat.toDigits 10 n).length

/-- The least `j ≤ fuel` for which `value · 10 ^ j` reaches `scale`. -/
def leadingZeros (value scale : Nat) : Nat → Nat
  | 0 => 0
  | fuel + 1 => if scale ≤ value then 0 else leadingZeros (value * 10) scale fuel + 1

/-- The least `k` with the value below `10 ^ k`: where the decimal point stands, counted from the
first digit that is not zero. -/
def Neighbourhood.pointPlace (n : Neighbourhood) : Int :=
  if n.scale ≤ n.value then (digitCount (n.value / n.scale) : Int)
  else 1 - (leadingZeros n.value n.scale 400 : Int)

/-- The point `c · 10 ^ e` of a grid rounds to the double. -/
def Neighbourhood.covers (n : Neighbourhood) (c : Nat) (e : Int) : Bool :=
  let point := c * Nat.pow 10 e.toNat * n.scale
  let unit := Nat.pow 10 (-e).toNat
  if n.closed then decide (n.low * unit ≤ point) && decide (point ≤ n.high * unit)
  else decide (n.low * unit < point) && decide (point < n.high * unit)

/-- The grid point of exponent `e` that rounds to the double and is nearest to it; of two equally
near ones the even one. -/
def Neighbourhood.onGrid? (n : Neighbourhood) (e : Int) : Option Nat :=
  let num := n.value * Nat.pow 10 (-e).toNat
  let den := n.scale * Nat.pow 10 e.toNat
  let below := num / den
  match n.covers below e, n.covers (below + 1) e with
  | true, true => some (roundedQuotient num den)
  | true, false => some below
  | false, true => some (below + 1)
  | false, false => none

/-- The first of the grids with `count`, `count + 1`, … digits that has a point for the double. -/
def Neighbourhood.coarsest (n : Neighbourhood) (place : Int) : Nat → Nat → Decimal
  | 0, count => ⟨0, place - (count : Int)⟩
  | fuel + 1, count =>
    match n.onGrid? (place - (count : Int)) with
    | some digits => ⟨digits, place - (count : Int)⟩
    | none => n.coarsest place fuel (count + 1)

/-- Moves trailing zeros of the digits into the exponent. -/
def strip : Nat → Decimal → Decimal
  | 0, d => d
  | fuel + 1, d =>
    if d.digits ≠ 0 ∧ d.digits % 10 = 0 then strip fuel ⟨d.digits / 10, d.exponent + 1⟩ else d

/-- The shortest decimal of `m · 2 ^ q`, for `m` not zero. Seventeen digits always suffice. -/
def shortest (m : Nat) (q : Int) : Decimal :=
  let n := Neighbourhood.ofBinary m q
  strip 17 (n.coarsest n.pointPlace 17 1)

/-- How a format writes doubles: the texts of the two kinds that are not finite, and the exponents
(of the first digit) that are written positionally. -/
structure Format where
  infinity : String
  notANumber : String
  leastPositional : Int
  mostPositional : Int

/-- The digits of a positional decimal with a point after the first `place` of them. -/
def positional (digits : List Char) (place : Int) : List Char :=
  if place ≤ 0 then '0' :: '.' :: (List.replicate (-place).toNat '0' ++ digits)
  else
    let whole := place.toNat
    if digits.length ≤ whole then digits ++ List.replicate (whole - digits.length) '0' ++ ['.', '0']
    else digits.take whole ++ '.' :: digits.drop whole

/-- Digits with zeros before them, so that there are at least `count`. -/
def zeroPadded (count : Nat) (digits : List Char) : List Char :=
  List.replicate (count - digits.length) '0' ++ digits

/-- An exponent, signed and of two digits at least. -/
def exponentText (exponent : Int) : List Char :=
  'e' :: (if exponent < 0 then '-' else '+') ::
    zeroPadded 2 (Nat.toDigits 10 exponent.natAbs)

/-- The digits of a decimal in scientific notation. -/
def scientific (digits : List Char) (exponent : Int) : List Char :=
  match digits with
  | [] => []
  | [d] => d :: exponentText exponent
  | d :: rest => d :: '.' :: (rest ++ exponentText exponent)

/-- The text of a double in a format. -/
def Format.text (f : Format) (x : Float) : String :=
  match Parts.ofFloat x with
  | .notANumber => f.notANumber
  | .infinite negative => (if negative then "-" else "") ++ f.infinity
  | .finite negative m q =>
    let body :=
      if m = 0 then ['0', '.', '0']
      else
        let d := shortest m q
        let digits := Nat.toDigits 10 d.digits
        let place := d.exponent + (digits.length : Int)
        if f.leastPositional < place ∧ place ≤ f.mostPositional + 1 then positional digits place
        else scientific digits (place - 1)
    (if negative then "-" else "") ++ String.ofList body

end Decimal

end HandlerPipeline

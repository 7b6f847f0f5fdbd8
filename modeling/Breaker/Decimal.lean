import Breaker.Binary

/-!
# Decimal — the fewest digits that read back

`Decimal.shortest` writes a positive number of a format with as few decimal digits as identify
it: the digits stand for a decimal that rounds to the number, no decimal of fewer digits does,
and of two candidates with that many digits the nearer is taken, the greater one on a tie.

A decimal rounds to the number exactly if it lies between the midpoints to the neighbouring
numbers; a midpoint itself does if the last digit of the number is even.  At a power of two the
lower neighbour is half as far away.
-/

namespace Breaker

/-- The decimal `digits * 10 ^ exponent`. -/
structure Decimal where
  digits : Nat
  exponent : Int
  deriving DecidableEq, Inhabited

/-- The power of ten of an exponent. -/
def tenPow (e : Int) : Rat := scale 10 e

/-- The number of decimal digits of a whole number. -/
def decimalLength (n : Nat) : Nat := (Nat.toDigits 10 n).length

/-- The exponent of the leading decimal digit of a positive magnitude. -/
def leadingTenth (q : Rat) : Int :=
  let e : Int := decimalLength q.num.natAbs - decimalLength q.den
  if tenPow e ≤ q then e else e - 1

/-- The magnitudes that round to one number. -/
structure Neighbourhood where
  low : Rat
  high : Rat
  /-- Whether the ends belong to it. -/
  closed : Bool

namespace Neighbourhood

/-- The magnitudes that round to the positive number `q` of a format. -/
def around (f : Format) (q : Rat) : Neighbourhood :=
  let place := f.lastPlace q
  let ulp := twoPow place
  let digits := (q / ulp).floor.toNat
  let gap := if digits = Nat.pow 2 (f.precision - 1) ∧ f.lowest < place then ulp / 4 else ulp / 2
  ⟨q - gap, q + ulp / 2, digits % 2 = 0⟩

/-- Whether a magnitude is in the neighbourhood. -/
def contains (n : Neighbourhood) (x : Rat) : Bool :=
  if n.closed then n.low ≤ x && x ≤ n.high else n.low < x && x < n.high

end Neighbourhood

namespace Decimal

/-- The value of a decimal. -/
def value (d : Decimal) : Rat := (d.digits : Rat) * tenPow d.exponent

/-- The decimal without the zeros at the end of its digits; `fuel` bounds their number. -/
def trimmed : Nat → Decimal → Decimal
  | 0, d => d
  | fuel + 1, d =>
    if d.digits % 10 = 0 ∧ d.digits ≠ 0 then trimmed fuel ⟨d.digits / 10, d.exponent + 1⟩ else d

/-- On the grid of the multiples of `10 ^ exponent`, the neighbour of `q` that rounds to it. -/
def onGrid? (n : Neighbourhood) (q : Rat) (exponent : Int) : Option Decimal :=
  let grid := tenPow exponent
  let below := (q / grid).floor.toNat
  let lower : Decimal := ⟨below, exponent⟩
  let upper : Decimal := ⟨below + 1, exponent⟩
  match n.contains lower.value, n.contains upper.value with
  | false, false => none
  | true, false => some lower
  | false, true => some upper
  | true, true => if q - lower.value < upper.value - q then some lower else some upper

/-- The shortest decimal that rounds to the positive number `q` of a format.  Seventeen digits
identify every number of the formats used here. -/
def shortest (f : Format) (q : Rat) : Decimal :=
  let n := Neighbourhood.around f q
  let top := leadingTenth q
  let found := (List.range 17).findSome? fun (k : Nat) => onGrid? n q (top - k)
  trimmed 400 (found.getD ⟨0, 0⟩)

end Decimal

end Breaker

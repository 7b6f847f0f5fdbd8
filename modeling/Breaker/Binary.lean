/-!
# Binary — floating-point numbers as exact values

A `Binary` is not a number, an infinity, or a sign and an exact magnitude.  The arithmetic here
is that of a `Format`: every operation forms the exact result and rounds it once, to the nearest
number of the format, ties to an even last place.  `Format.round` is that rounding: magnitudes
below the least place are multiples of it, and those past the greatest number become infinite.

Comparisons are exact, hold for no operand that is not a number, and do not see the sign of zero.
-/

namespace Breaker

/-- A floating-point number. -/
inductive Binary where
  | nan
  | infinite (negative : Bool)
  | finite (negative : Bool) (magnitude : Rat)
  deriving DecidableEq

/-- A floating-point format: numbers have `precision` binary digits, and the last of them stands
at a place between `2 ^ lowest` and `2 ^ highest`. -/
structure Format where
  precision : Nat
  lowest : Int
  highest : Int
  deriving DecidableEq

/-! ### Magnitudes -/

/-- A power of a base with a whole exponent. -/
def scale (base : Nat) (e : Int) : Rat :=
  if 0 ≤ e then (Nat.pow base e.toNat : Rat) else 1 / (Nat.pow base (-e).toNat : Rat)

/-- The power of two of an exponent. -/
def twoPow (e : Int) : Rat := scale 2 e

/-- The exponent of the leading binary digit of a positive magnitude. -/
def leadingPlace (q : Rat) : Int :=
  let e : Int := q.num.natAbs.log2 - q.den.log2
  if twoPow e ≤ q then e else e - 1

/-- The whole number nearest to a magnitude; a half goes to the even neighbour. -/
def nearestEven (q : Rat) : Nat :=
  let below := q.floor.toNat
  let rest := q - (below : Rat)
  if rest < 1 / 2 then below
  else if 1 / 2 < rest then below + 1
  else if below % 2 = 0 then below
  else below + 1

namespace Format

/-- Single precision. -/
def single : Format := ⟨24, -149, 104⟩

/-- Double precision. -/
def double : Format := ⟨53, -1074, 971⟩

/-- The place at which the last digit of a positive magnitude stands. -/
def lastPlace (f : Format) (q : Rat) : Int :=
  max f.lowest (leadingPlace q - (f.precision - 1 : Nat))

/-- The magnitude from which on numbers are infinite. -/
def limit (f : Format) : Rat := twoPow (f.highest + f.precision)

/-- The multiple of the last place nearest to a magnitude. -/
def roundMagnitude (f : Format) (q : Rat) : Rat :=
  if q = 0 then 0
  else
    let place := twoPow (f.lastPlace q)
    (nearestEven (q / place) : Rat) * place

/-- The number of the format nearest to a signed magnitude. -/
def round (f : Format) (negative : Bool) (q : Rat) : Binary :=
  let r := f.roundMagnitude q
  if f.limit ≤ r then .infinite negative else .finite negative r

/-- The number of the format nearest to a signed rational; `negative` is the sign of a zero. -/
def roundSigned (f : Format) (negative : Bool) (q : Rat) : Binary :=
  if q = 0 then .finite negative 0 else f.round (decide (q < 0)) (if q < 0 then -q else q)

/-- The number of the format nearest to a natural number. -/
def ofNat (f : Format) (n : Nat) : Binary := f.round false (n : Rat)

/-- Rounds a number of another format to this one. -/
def convert (f : Format) : Binary → Binary
  | .finite negative q => f.round negative q
  | x => x

end Format

namespace Binary

/-- Positive zero. -/
def zero : Binary := .finite false 0

/-- The number one. -/
def one : Binary := .finite false 1

/-- The number a natural number is, unrounded. -/
def exactly (n : Nat) : Binary := .finite false (n : Rat)

instance : Inhabited Binary := ⟨zero⟩

/-- Whether the number is negative, a negative zero included. -/
def isNegative : Binary → Bool
  | .nan => false
  | .infinite negative => negative
  | .finite negative _ => negative

/-- Whether the number is neither infinite nor not a number. -/
def isFinite : Binary → Bool
  | .finite _ _ => true
  | _ => false

/-- The number with its sign changed. -/
def neg : Binary → Binary
  | .nan => .nan
  | .infinite negative => .infinite (!negative)
  | .finite negative q => .finite (!negative) q

/-- The exact value of a finite number. -/
def signed (negative : Bool) (q : Rat) : Rat := if negative then -q else q

/-! ### Comparison -/

/-- Whether `x ≤ y`. -/
def le : Binary → Binary → Bool
  | .nan, _ | _, .nan => false
  | .infinite a, .infinite b => a || !b
  | .infinite a, .finite _ _ => a
  | .finite _ _, .infinite b => !b
  | .finite a p, .finite b q => decide (signed a p ≤ signed b q)

/-- Whether `x < y`. -/
def lt : Binary → Binary → Bool
  | .nan, _ | _, .nan => false
  | .infinite a, .infinite b => a && !b
  | .infinite a, .finite _ _ => a
  | .finite _ _, .infinite b => !b
  | .finite a p, .finite b q => decide (signed a p < signed b q)

/-- The lesser of two numbers; one that is not a number yields to the other. -/
def least (x y : Binary) : Binary :=
  match x, y with
  | .nan, y => y
  | x, .nan => x
  | x, y => if y.lt x then y else x

/-! ### Arithmetic -/

/-- The product in a format. -/
def mul (f : Format) : Binary → Binary → Binary
  | .nan, _ | _, .nan => .nan
  | .infinite a, .infinite b => .infinite (a != b)
  | .infinite a, .finite b q | .finite b q, .infinite a =>
    if q = 0 then .nan else .infinite (a != b)
  | .finite a p, .finite b q => f.round (a != b) (p * q)

/-- The quotient in a format. -/
def div (f : Format) : Binary → Binary → Binary
  | .nan, _ | _, .nan => .nan
  | .infinite _, .infinite _ => .nan
  | .infinite a, .finite b _ => .infinite (a != b)
  | .finite a _, .infinite b => .finite (a != b) 0
  | .finite a p, .finite b q =>
    if q = 0 then (if p = 0 then .nan else .infinite (a != b)) else f.round (a != b) (p / q)

/-- The sum in a format. -/
def add (f : Format) : Binary → Binary → Binary
  | .nan, _ | _, .nan => .nan
  | .infinite a, .infinite b => if a = b then .infinite a else .nan
  | .infinite a, .finite _ _ | .finite _ _, .infinite a => .infinite a
  | .finite a p, .finite b q => f.roundSigned (a && b) (signed a p + signed b q)

/-- The difference in a format. -/
def sub (f : Format) (x y : Binary) : Binary := add f x (neg y)

/-- Squares `x` and halves `n` once per binary digit of `n`, gathering into `r` the squares that
stand for the digits that are one. -/
def powBySquaring (f : Format) : (digits : Nat) → (r x : Binary) → (n : Nat) → Binary
  | 0, r, _, _ => r
  | digits + 1, r, x, n =>
    let r := if n % 2 = 1 then mul f r x else r
    if n / 2 = 0 then r else powBySquaring f digits r (mul f x x) (n / 2)

/-- A power with a natural exponent, each product rounded in the format. -/
def pow (f : Format) (x : Binary) (n : Nat) : Binary := powBySquaring f (n.log2 + 1) one x n

/-- The whole part as a 64-bit word: negative numbers and those that are not numbers give zero,
those past the largest word give it. -/
def toWord : Binary → Nat
  | .nan => 0
  | .infinite negative => if negative then 0 else 0xffffffffffffffff
  | .finite negative q => if negative then 0 else min q.floor.toNat 0xffffffffffffffff

end Binary

end Breaker

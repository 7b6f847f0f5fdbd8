import Breaker.Decimal

/-!
# Layout — numbers as text

A `Layout` says which decimals are written by position and which with an exponent, and whether a
whole number keeps a point.  Digits are always the fewest that read back.
-/

namespace Breaker

/-- How numbers are written. -/
structure Layout where
  /-- Whether a number written by position always has a fraction. -/
  keepsPoint : Bool
  /-- Whether a number whose leading digit stands at this power of ten is written by position. -/
  positional : Int → Bool

namespace Layout

/-- By position always, and whole numbers without a point. -/
def plain : Layout := ⟨false, fun _ => true⟩

/-- By position from a ten-thousandth up to below `10 ^ 16`, and always with a point. -/
def exact : Layout := ⟨true, fun e => decide (-4 ≤ e ∧ e < 16)⟩

/-- The digits by position: the point stands before the last `-exponent` of them. -/
def byPosition (l : Layout) (d : Decimal) : String :=
  let digits := Nat.toDigits 10 d.digits
  let point := if l.keepsPoint then ".0" else ""
  if 0 ≤ d.exponent then
    String.ofList (digits ++ List.replicate d.exponent.toNat '0') ++ point
  else
    let places := (-d.exponent).toNat
    let padded := List.replicate (places + 1 - digits.length) '0' ++ digits
    let whole := padded.length - places
    String.ofList (padded.take whole ++ '.' :: padded.drop whole)

/-- The digits with the point after the first one, and the power of ten. -/
def byExponent (d : Decimal) : String :=
  let digits := Nat.toDigits 10 d.digits
  let exponent := d.exponent + (digits.length - 1 : Nat)
  let fraction := if digits.length ≤ 1 then [] else '.' :: digits.drop 1
  String.ofList (digits.take 1 ++ fraction) ++ "e" ++ toString exponent

/-- A positive number of a format as text. -/
def magnitudeText (l : Layout) (f : Format) (q : Rat) : String :=
  let d := Decimal.shortest f q
  if l.positional (d.exponent + (decimalLength d.digits - 1 : Nat)) then l.byPosition d
  else byExponent d

/-- A number of a format as text. -/
def text (l : Layout) (f : Format) : Binary → String
  | .nan => "NaN"
  | .infinite negative => (if negative then "-" else "") ++ "inf"
  | .finite negative q =>
    (if negative then "-" else "") ++
      (if q = 0 then l.byPosition ⟨0, 0⟩ else l.magnitudeText f q)

end Layout

end Breaker

import Breaker.Binary

/-!
# Bits — the interchange encoding of single-precision numbers

A sign bit, eight bits of exponent and twenty-three of fraction.  The leading digit of a normal
number is not written, and a biased exponent of zero marks the numbers below the least normal one.
-/

namespace Breaker.Binary

/-- The encoding of a single-precision magnitude: a last place at `2 ^ -149` with the leading digit
missing is the biased exponent zero, and each place above it adds one. -/
def singleMagnitudeBits (q : Rat) : Nat :=
  if q = 0 then 0
  else
    let place := Format.single.lastPlace q
    let digits := (q / twoPow place).floor.toNat
    if digits < 0x800000 then digits
    else (place + 150).toNat * 0x800000 + (digits - 0x800000)

/-- The 32 bits of a single-precision number. -/
def singleBits : Binary → Nat
  | .nan => 0x7fc00000
  | .infinite negative => (if negative then 0x80000000 else 0) + 0x7f800000
  | .finite negative q => (if negative then 0x80000000 else 0) + singleMagnitudeBits q

/-- The bits of a single-precision number as eight hexadecimal digits. -/
def singleHex (x : Binary) : String :=
  let digits := Nat.toDigits 16 x.singleBits
  String.ofList (List.replicate (8 - digits.length) '0' ++ digits)

end Breaker.Binary

import Breaker.Duration

/-!
# Text — durations in their greatest whole unit

A span is written in seconds if it has a whole one, else in milliseconds, microseconds or
nanoseconds, with as much of the fraction as is not zero: `60s`, `1.5s`, `250ms`, `0ns`.
-/

namespace Breaker.Duration

/-- A count of units with a remainder of `places` decimal places, zeros at the end left out. -/
def inUnits (whole rest places : Nat) (unit : String) : String :=
  let digits := Nat.toDigits 10 rest
  let padded := List.replicate (places - digits.length) '0' ++ digits
  let kept := (padded.reverse.dropWhile (· == '0')).reverse
  let fraction := if kept.isEmpty then "" else "." ++ String.ofList kept
  toString whole ++ fraction ++ unit

/-- The span as text. -/
def text (d : Duration) : String :=
  if 0 < d.seconds then inUnits d.seconds d.subsecond 9 "s"
  else if nanosPerMilli ≤ d.nanos then
    inUnits (d.nanos / nanosPerMilli) (d.nanos % nanosPerMilli) 6 "ms"
  else if 1000 ≤ d.nanos then inUnits (d.nanos / 1000) (d.nanos % 1000) 3 "µs"
  else inUnits d.nanos 0 0 "ns"

end Breaker.Duration

import Breaker.Binary
import Breaker.Window.Tally

/-!
# Rate — percentages, once enough calls are known

A rate is measured only when the window holds calls, and at least the minimum number of them.  Its
percentage is computed in double precision and stored in single precision, so a part that is the
whole gives exactly one hundred and no part exactly zero.  An unmeasured rate reads as minus one and
reaches no threshold (`not_reaches_unmeasured`).
-/

namespace Breaker

/-- A percentage of the calls in a window. -/
inductive Rate where
  | unmeasured
  | percent (value : Binary)
  deriving DecidableEq

namespace Rate

/-- A part of a total as a percentage, if the total is measured against a minimum. -/
def of (part total minimum : Nat) : Rate :=
  if total = 0 ∨ total < minimum then .unmeasured
  else
    let f := Format.double
    .percent <| Format.single.convert <|
      Binary.div f (Binary.mul f (f.ofNat part) (Binary.exactly 100)) (f.ofNat total)

/-- The number that stands for the rate. -/
def toBinary : Rate → Binary
  | .unmeasured => .finite true 1
  | .percent value => value

/-- Whether the rate is measured and at or above a threshold. -/
def reaches (r : Rate) (threshold : Binary) : Bool :=
  match r with
  | .unmeasured => false
  | .percent value => threshold.le value

theorem not_reaches_unmeasured (threshold : Binary) : reaches .unmeasured threshold = false := rfl

end Rate

/-- The two rates that decide. -/
structure Rates where
  failure : Rate
  slow : Rate
  deriving DecidableEq

namespace Rates

/-- The rates of a snapshot against a minimum number of calls. -/
def of (s : Snapshot) (minimum : Nat) : Rates :=
  ⟨Rate.of s.failed s.total minimum, Rate.of s.slow s.total minimum⟩

end Rates

/-- What a breaker shows of its current window. -/
structure Metrics where
  rates : Rates
  window : Snapshot
  /-- The requests refused. -/
  rejected : Nat
  deriving DecidableEq

end Breaker

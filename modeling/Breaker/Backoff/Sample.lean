import Breaker.Backoff

/-!
# Sample — waits drawn over and over

The waits of a policy at one attempt, one draw after another, and what can be said of them without
knowing the draws.
-/

namespace Breaker.Backoff

/-- What some waits have in common. -/
structure Sample where
  /-- Every wait lies between the bounds. -/
  inBounds : Bool
  /-- Some wait differs from the first. -/
  varies : Bool
  /-- Every wait is a whole number of milliseconds. -/
  wholeMillis : Bool
  deriving DecidableEq

/-- A number of waits at an attempt, each with a draw of its own. -/
def draws (b : Backoff) (attempt : Nat) : (count : Nat) → Dice → List (Except Abort Duration)
  | 0, _ => []
  | count + 1, dice => (b.wait dice.roll attempt).observe.1 :: draws b attempt count dice.next

/-- Judges some waits against bounds. -/
def Sample.of (waits : List Duration) (low high : Duration) : Sample where
  inBounds := waits.all fun d => low ≤ d && d ≤ high
  varies := waits.any fun d => waits.head?.any (· != d)
  wholeMillis := waits.all (!·.hasPartOfMilli)

/-- Draws waits at an attempt and judges them; a policy that gives up cannot be judged. -/
def sample (b : Backoff) (attempt count : Nat) (low high : Duration) (dice : Dice) :
    Except Abort Sample := do
  let waits ← (draws b attempt count dice).mapM id
  return Sample.of waits low high

end Breaker.Backoff

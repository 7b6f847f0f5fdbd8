import Breaker.Binary
import Breaker.Decimal.Layout
import Breaker.Duration.Text
import Breaker.Text.Labelled
import Breaker.Text.Quoted
import Breaker.Watched

/-!
# Backoff — how long a breaker stays open

The wait is a function of the attempt: one for the first time a breaker opens, and one more for each
probe that fails after it.  Growing waits are computed in double precision and in whole
milliseconds: the first wait times a power of the multiplier, no more than the longest wait, less a
random part of itself up to the jitter.

`Backoff.check?` names the first fault of the parameters; a policy without one is sound.
-/

namespace Breaker

/-- A random draw: a fraction of `2 ^ 53`. -/
structure Roll where
  fraction : Nat
  deriving DecidableEq

/-- The draw as a number between zero and one. -/
def Roll.value (r : Roll) : Binary := .finite false ((r.fraction % Nat.pow 2 53 : Nat) / Nat.pow 2 53)

/-- A source of random draws. -/
structure Dice where
  seed : UInt64
  deriving DecidableEq, Inhabited

namespace Dice

/-- The next draw: the leading bits of the seed. -/
def roll (d : Dice) : Roll := ⟨d.seed.toNat / Nat.pow 2 11⟩

/-- The dice after a draw. -/
def next (d : Dice) : Dice := ⟨d.seed * 6364136223846793005 + 1442695040888963407⟩

end Dice

/-- A policy for the wait before a probe. -/
inductive Backoff where
  /-- The same wait at every attempt. -/
  | fixed (wait : Duration)
  /-- A wait that grows by a factor up to the longest. -/
  | exponential (initial : Duration) (multiplier : Binary) (longest : Duration)
  /-- A wait less a random part of itself. -/
  | randomized (base : Duration) (jitter : Binary)
  /-- A growing wait less a random part of itself. -/
  | exponentialRandomized (initial : Duration) (multiplier : Binary) (longest : Duration)
      (jitter : Binary)
  /-- A function of the user's; it may say when it is asked, and it may know no wait. -/
  | custom (wait? : Nat → Option Duration) (remarks : Bool)

namespace Backoff

/-- The user's wait as a table: its last entry serves every later attempt. -/
def ofTable (table : List (Option Duration)) (remarks : Bool) : Backoff :=
  .custom (fun attempt => (table[min attempt table.length - 1]?).join) remarks

/-! ### Waits -/

/-- The greatest attempt that growing waits count to. -/
def attemptMax : Nat := 255

/-- The part of a wait that jitter leaves: `1 - jitter + draw * jitter`.  Jitter is cut to the range
from zero to one, and one that is not a number takes the whole range. -/
def jitterFactor (jitter : Binary) (roll : Roll) : Binary :=
  let f := Format.double
  let j := match jitter with
    | .nan => .one
    | j => if j.lt .zero then .zero else if Binary.one.lt j then .one else j
  Binary.add f (Binary.sub f .one j) (Binary.mul f roll.value j)

/-- The wait in whole milliseconds at an attempt. -/
def grownMillis (initial : Nat) (multiplier : Binary) (longest attempt : Nat) (jitter : Binary)
    (roll : Roll) : Nat :=
  let f := Format.double
  let grown := Binary.mul f (f.ofNat initial) (Binary.pow f multiplier (attempt - 1))
  let capped := Binary.least grown (f.ofNat longest)
  (Binary.mul f capped (jitterFactor jitter roll)).toWord

/-- The growing wait at an attempt. -/
def grown (initial : Duration) (multiplier : Binary) (longest : Duration) (attempt : Nat)
    (jitter : Binary) (roll : Roll) : Duration :=
  Duration.ofMillis <|
    grownMillis initial.millis multiplier longest.millis (min attempt attemptMax) jitter roll

/-- The wait at an attempt; attempts count from one. -/
def wait (b : Backoff) (roll : Roll) (attempt : Nat) : Watched Duration :=
  let attempt := max attempt 1
  match b with
  | .fixed wait => pure wait
  | .exponential initial multiplier longest =>
    pure (grown initial multiplier longest attempt .zero roll)
  | .randomized base jitter => pure (grown base .one base 1 jitter roll)
  | .exponentialRandomized initial multiplier longest jitter =>
    pure (grown initial multiplier longest attempt jitter roll)
  | .custom wait? remarks => do
    if remarks then Watched.remark (.waitFor attempt)
    match wait? attempt with
    | some d => pure d
    | none => throw (.noWait attempt)

/-! ### Faults -/

/-- What is wrong with a policy's parameters. -/
inductive Fault where
  | multiplier
  | jitter
  | longest
  | partOfMilli
  deriving DecidableEq

/-- The text of a fault. -/
def Fault.reason : Fault → String
  | .multiplier => "multiplier must be a finite value >= 1.0"
  | .jitter => "jitter must be between 0.0 and 1.0"
  | .longest => "max wait must not be shorter than the initial wait"
  | .partOfMilli => "exponential and randomized waits must be whole milliseconds"

/-- The first fault of a growing wait. -/
def checkGrowth? (initial : Duration) (multiplier : Binary) (longest : Duration)
    (jitter : Binary) : Option Fault :=
  if !(multiplier.isFinite && Binary.one.le multiplier) then some .multiplier
  else if !(Binary.zero.le jitter && jitter.le .one) then some .jitter
  else if longest < initial then some .longest
  else if initial.hasPartOfMilli || longest.hasPartOfMilli then some .partOfMilli
  else none

/-- The first fault of a policy, if it has one. -/
def check? : Backoff → Option Fault
  | .fixed _ | .custom _ _ => none
  | .exponential initial multiplier longest => checkGrowth? initial multiplier longest .zero
  | .randomized base jitter => checkGrowth? base .one base jitter
  | .exponentialRandomized initial multiplier longest jitter =>
    checkGrowth? initial multiplier longest jitter

/-! ### Text -/

/-- The policy as text. -/
def describe : Backoff → String
  | .fixed wait => Text.wrapped "Fixed" wait.text
  | .exponential initial multiplier longest =>
    Text.record "Exponential"
      [("initial", initial.text), ("multiplier", Layout.exact.text .double multiplier),
        ("max", longest.text)]
  | .randomized base jitter =>
    Text.record "Randomized" [("base", base.text), ("jitter", Layout.exact.text .double jitter)]
  | .exponentialRandomized initial multiplier longest jitter =>
    Text.record "ExponentialRandomized"
      [("initial", initial.text), ("multiplier", Layout.exact.text .double multiplier),
        ("max", longest.text), ("jitter", Layout.exact.text .double jitter)]
  | .custom _ _ => Text.wrapped "Custom" (Text.quoted "<closure>")

end Backoff

end Breaker

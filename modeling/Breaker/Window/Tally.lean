import Breaker.Duration

/-!
# Tally — counted outcomes

A window counts on five signed 64-bit lanes: calls, failures, slow calls, slow failures, and
nanoseconds.  A `Tally` is a value of the five lanes; tallies add and subtract lane by lane, and a
lane wraps.  An `Outcome` contributes `Tally.of`: one to each lane it belongs to, and its duration,
which counts as at most the greatest value of a lane.  It is read off the outcome's `code`, so that a
window may keep the code of a call and find again what the call contributed.

A `Snapshot` is what a reader sees of a tally.  A negative lane reads as zero, no part exceeds its
whole (`ofTally_failed_le`, `ofTally_slow_le`), and slow failures exceed neither the failures nor
the slow calls (`ofTally_slowFailed_le`).
-/

namespace Breaker

/-- One completed call as a window sees it. -/
structure Outcome where
  failed : Bool
  slow : Bool
  duration : Duration
  deriving DecidableEq

/-- The bit of a code that stands for a call. -/
def callBit : UInt8 := 0b001

/-- The bit of a code that stands for a failure. -/
def failedBit : UInt8 := 0b010

/-- The bit of a code that stands for a slow call. -/
def slowBit : UInt8 := 0b100

namespace Outcome

/-- What an outcome is besides its duration, in bits. -/
def code (o : Outcome) : UInt8 :=
  let code := if o.failed then callBit ||| failedBit else callBit
  if o.slow then code ||| slowBit else code

theorem code_call (o : Outcome) : o.code &&& callBit ≠ 0 := by
  rw [code]
  cases o.failed with
  | true | false => cases o.slow <;> decide

theorem code_failed (o : Outcome) : (o.code &&& failedBit != 0) = o.failed := by
  rw [code]
  cases o.failed with
  | true | false => cases o.slow <;> decide

theorem code_slow (o : Outcome) : (o.code &&& slowBit != 0) = o.slow := by
  rw [code]
  cases o.failed with
  | true | false => cases o.slow <;> decide

end Outcome

/-- The lanes of a window's totals. -/
structure Tally where
  calls : Int64
  failed : Int64
  slow : Int64
  slowFailed : Int64
  nanos : Int64
  deriving DecidableEq

namespace Tally

/-- Nothing counted. -/
def zero : Tally := ⟨0, 0, 0, 0, 0⟩

instance : Inhabited Tally := ⟨zero⟩

/-- Adds lane by lane. -/
def add (a b : Tally) : Tally :=
  ⟨a.calls + b.calls, a.failed + b.failed, a.slow + b.slow, a.slowFailed + b.slowFailed,
    a.nanos + b.nanos⟩

/-- Subtracts lane by lane. -/
def sub (a b : Tally) : Tally :=
  ⟨a.calls - b.calls, a.failed - b.failed, a.slow - b.slow, a.slowFailed - b.slowFailed,
    a.nanos - b.nanos⟩

instance : Add Tally := ⟨add⟩
instance : Sub Tally := ⟨sub⟩

/-- One if the condition holds. -/
def lane (b : Bool) : Int64 := if b then 1 else 0

/-- The greatest value of a lane. -/
def laneMax : Nat := 0x7fffffffffffffff

/-- What a call of some code and length adds to a window; a code without a call adds nothing. -/
def ofCode (code : UInt8) (nanos : Nat) : Tally :=
  if code &&& callBit = 0 then zero
  else
    let failed := code &&& failedBit != 0
    let slow := code &&& slowBit != 0
    ⟨1, lane failed, lane slow, lane (failed && slow), Int64.ofNat (min nanos laneMax)⟩

/-- What an outcome adds to a window. -/
def of (o : Outcome) : Tally := ofCode o.code o.duration.word

/-- An outcome adds one to each lane it belongs to, and its duration. -/
theorem of_eq (o : Outcome) :
    of o = ⟨1, lane o.failed, lane o.slow, lane (o.failed && o.slow),
      Int64.ofNat (min o.duration.word laneMax)⟩ := by
  rw [of, ofCode, if_neg o.code_call, o.code_failed, o.code_slow]

/-- A code of nothing adds nothing. -/
theorem ofCode_zero (nanos : Nat) : ofCode 0 nanos = zero := rfl

/-- A lane as a reader sees it. -/
def read (lane : Int64) : Nat := lane.toInt.toNat

end Tally

/-- The totals of a window at one moment. -/
structure Snapshot where
  total : Nat
  failed : Nat
  slow : Nat
  slowFailed : Nat
  duration : Duration
  deriving DecidableEq

namespace Snapshot

/-- The totals of an empty window. -/
def empty : Snapshot := ⟨0, 0, 0, 0, Duration.zero⟩

/-- The totals as read off a tally. -/
def ofTally (t : Tally) : Snapshot :=
  let calls := Tally.read t.calls
  let failed := min (Tally.read t.failed) calls
  let slow := min (Tally.read t.slow) calls
  ⟨calls, failed, slow, min (min (Tally.read t.slowFailed) failed) slow,
    Duration.ofNanos (Tally.read t.nanos)⟩

/-- The calls that did not fail. -/
def successful (s : Snapshot) : Nat := s.total - s.failed

/-- The slow calls that did not fail. -/
def slowSuccessful (s : Snapshot) : Nat := s.slow - s.slowFailed

/-- The mean duration of the calls, none if there are none.  The duration of `2 ^ 32` calls or more
is first cut to a 64-bit word. -/
def average (s : Snapshot) : Duration :=
  if s.total = 0 then Duration.zero
  else if s.total < Nat.pow 2 32 then s.duration.share s.total
  else (Duration.ofNanos s.duration.word).share s.total

theorem ofTally_failed_le (t : Tally) : (ofTally t).failed ≤ (ofTally t).total :=
  Nat.min_le_right _ _

theorem ofTally_slow_le (t : Tally) : (ofTally t).slow ≤ (ofTally t).total :=
  Nat.min_le_right _ _

theorem ofTally_slowFailed_le (t : Tally) :
    (ofTally t).slowFailed ≤ min (ofTally t).failed (ofTally t).slow :=
  Nat.le_min.mpr ⟨Nat.le_trans (Nat.min_le_left _ _) (Nat.min_le_right _ _), Nat.min_le_right _ _⟩

end Snapshot

end Breaker

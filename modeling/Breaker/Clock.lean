import Breaker.Duration

/-!
# Clock — time that moves only by hand

A `Clock` holds a 64-bit reading in nanoseconds.  `advance` adds a span to the reading, as words
add; `set` jumps forward to a reading and never back (`now_le_set`).
-/

namespace Breaker

/-- A clock that moves only when told to. -/
structure Clock where
  reading : UInt64
  deriving DecidableEq, Inhabited

namespace Clock

/-- The reading in nanoseconds. -/
def now (c : Clock) : Nat := c.reading.toNat

/-- The clock that reads `n`. -/
def startingAt (n : Nat) : Clock := ⟨UInt64.ofNat n⟩

/-- Moves the clock on by a span; the reading wraps at the end of its word. -/
def advance (c : Clock) (d : Duration) : Clock := ⟨c.reading + UInt64.ofNat d.word⟩

/-- Jumps to a reading, unless it lies in the past. -/
def set (c : Clock) (n : Nat) : Clock := ⟨max c.reading (UInt64.ofNat n)⟩

theorem now_le_wordMax (c : Clock) : c.now ≤ wordMax := by
  have := c.reading.toNat_lt
  simp only [now, wordMax]
  omega

theorem now_le_set (c : Clock) (n : Nat) : c.now ≤ (c.set n).now := by
  have h : c.reading ≤ max c.reading (UInt64.ofNat n) := by
    show c.reading ≤ if c.reading ≤ UInt64.ofNat n then UInt64.ofNat n else c.reading
    split
    · assumption
    · exact UInt64.le_refl _
  exact UInt64.le_iff_toNat_le.mp h

end Clock

end Breaker

/-!
# Duration — spans of time in whole nanoseconds

A `Duration` counts nanoseconds and never exceeds `2^64 - 1` seconds and 999999999 nanoseconds.
Clocks and windows work in 64-bit words of nanoseconds; `Duration.word` is the span as such a
word, and a span too long for one counts as the longest word (`word_le`).  Every word is a span again
(`nanos_ofNanos_word`).
-/

namespace Breaker

/-- The largest unsigned 64-bit word. -/
def wordMax : Nat := 0xffffffffffffffff

/-- Nanoseconds in one second. -/
def nanosPerSecond : Nat := 1000000000

/-- Nanoseconds in one millisecond. -/
def nanosPerMilli : Nat := 1000000

/-- The nanoseconds of the longest span. -/
def longestNanos : Nat := wordMax * nanosPerSecond + 999999999

/-- A span of time. -/
structure Duration where
  nanos : Nat
  nanos_le : nanos ≤ longestNanos
  deriving DecidableEq

namespace Duration

/-- The span of `n` nanoseconds, or the longest span if `n` is beyond it. -/
def ofNanos (n : Nat) : Duration := ⟨min n longestNanos, Nat.min_le_right _ _⟩

/-- The span of `n` milliseconds. -/
def ofMillis (n : Nat) : Duration := ofNanos (n * nanosPerMilli)

/-- The span of `n` seconds. -/
def ofSeconds (n : Nat) : Duration := ofNanos (n * nanosPerSecond)

/-- The empty span. -/
def zero : Duration := ofNanos 0

instance : Inhabited Duration := ⟨zero⟩

instance : LE Duration := ⟨fun a b => a.nanos ≤ b.nanos⟩
instance : LT Duration := ⟨fun a b => a.nanos < b.nanos⟩
instance (a b : Duration) : Decidable (a ≤ b) := inferInstanceAs (Decidable (a.nanos ≤ b.nanos))
instance (a b : Duration) : Decidable (a < b) := inferInstanceAs (Decidable (a.nanos < b.nanos))

/-- Whether nothing passes in this span. -/
def isZero (d : Duration) : Bool := d.nanos == 0

/-- The whole seconds of the span. -/
def seconds (d : Duration) : Nat := d.nanos / nanosPerSecond

/-- The nanoseconds left after the whole seconds. -/
def subsecond (d : Duration) : Nat := d.nanos % nanosPerSecond

/-- The span as a 64-bit word of nanoseconds; a longer one counts as the longest word. -/
def word (d : Duration) : Nat := min d.nanos wordMax

/-- The span as a 64-bit word of whole milliseconds; a longer one counts as the longest word. -/
def millis (d : Duration) : Nat := min (d.nanos / nanosPerMilli) wordMax

/-- Whether the span is not a whole number of milliseconds. -/
def hasPartOfMilli (d : Duration) : Bool := d.nanos % nanosPerMilli != 0

/-- An equal share of the span among `n`, rounded down to a nanosecond. -/
def share (d : Duration) (n : Nat) : Duration :=
  ⟨d.nanos / n, Nat.le_trans (Nat.div_le_self _ _) d.nanos_le⟩

theorem ofNanos_nanos (d : Duration) : ofNanos d.nanos = d := by
  cases d with | mk n h => simp [ofNanos, Nat.min_eq_left h]

theorem word_le (d : Duration) : d.word ≤ wordMax := Nat.min_le_right _ _

theorem nanos_ofNanos_word (d : Duration) : (ofNanos d.word).nanos = d.word :=
  Nat.min_eq_left (Nat.le_trans (Nat.min_le_left _ _) d.nanos_le)

end Duration

/-- A reading `n` nanoseconds past `now`; readings stop at the largest word. -/
def later (now n : Nat) : Nat := min (now + n) wordMax

end Breaker

import Breaker.Window.Ring
import Breaker.Window.Buckets

/-!
# Window — what a breaker remembers of its calls

A window remembers the last calls, the calls of the last seconds, or nothing.  `record` adds a call,
`settle` lets time pass up to a reading, and `totals` reads what is left.
-/

namespace Breaker

/-- A sliding window. -/
inductive Window where
  | calls (ring : Ring)
  | seconds (buckets : Buckets)
  | idle

/-- How a window is measured. -/
inductive WindowKind where
  | count
  | time
  deriving DecidableEq

namespace Window

/-- An empty window of a kind and size at a clock reading. -/
def ofKind (kind : WindowKind) (size now : Nat) : Window :=
  match kind with
  | .count => .calls (Ring.empty size)
  | .time => .seconds (Buckets.empty size now)

/-- An empty window of a kind and size; there is none of size zero. -/
def ofKind? (kind : WindowKind) (size now : Nat) : Option Window :=
  if size = 0 then none else some (ofKind kind size now)

/-- The calls or seconds that the window covers, if it remembers any. -/
def size? : Window → Option Nat
  | .calls r => some r.size
  | .seconds b => some b.size
  | .idle => none

/-- Lets time pass up to a clock reading. -/
def settle (w : Window) (now : Nat) : Window :=
  match w with
  | .seconds b => .seconds (b.settle now)
  | w => w

/-- Adds a call at a clock reading. -/
def record (w : Window) (now : Nat) (o : Outcome) : Window :=
  match w with
  | .calls r => .calls (r.record o)
  | .seconds b => .seconds (b.record now o)
  | .idle => .idle

/-- The totals of what the window holds. -/
def totals : Window → Snapshot
  | .calls r => Snapshot.ofTally r.totals
  | .seconds b => Snapshot.ofTally b.totals
  | .idle => Snapshot.empty

end Window

end Breaker

import Breaker.Window.Tally

/-!
# Buckets — the window over the last seconds

A `Buckets` window of size `n` has one bucket per second, and a second is named by its *epoch*: the
whole seconds of the clock reading plus `n`, so that the first lap never falls below zero.  Bucket
`i` holds the epoch that is `i` modulo `n`.  The `head` is the newest epoch seen.

Time passes in the window only when it is used.  `settle` moves the head to the epoch of the
reading, if that is newer, and clears every bucket it passed over: at most one lap of them, however
long the gap (`length_passed`).  The running totals lose what each cleared bucket held.
-/

namespace Breaker

/-- The calls of one second. -/
structure Bucket where
  epoch : Nat
  held : Tally
  deriving DecidableEq, Inhabited

/-- The calls of the last seconds. -/
structure Buckets where
  buckets : Array Bucket
  head : Nat
  totals : Tally

namespace Buckets

/-- The seconds the window covers. -/
def size (w : Buckets) : Nat := w.buckets.size

/-- The epoch of a clock reading. -/
def epochOf (size now : Nat) : Nat := now / nanosPerSecond + size

/-- The epoch up to `head` that bucket `i` of `size` holds. -/
def epochOfBucket (size head i : Nat) : Nat := head - (head + size - i) % size

/-- An empty window of `size` seconds that ends at a reading. -/
def empty (size now : Nat) : Buckets :=
  let head := epochOf size now
  ⟨Array.ofFn fun i : Fin size => ⟨epochOfBucket size head i, Tally.zero⟩, head, Tally.zero⟩

/-- The bucket of an epoch. -/
def bucket (w : Buckets) (epoch : Nat) : Bucket := w.buckets.getD (epoch % w.size) default

/-- Puts a bucket in the place of an epoch, and corrects the totals. -/
def put (w : Buckets) (epoch : Nat) (b : Bucket) (totals : Tally) : Buckets :=
  { w with buckets := w.buckets.setIfInBounds (epoch % w.size) b, totals := totals }

/-- The epochs whose buckets are cleared when the head moves: those after the old head, or the last
lap of them. -/
def passed (size old head : Nat) : List Nat :=
  let first := max (old + 1) (head - (size - 1))
  List.range' first (head + 1 - first)

/-- Clears the bucket of an epoch for it, unless the bucket is there already. -/
def clear (w : Buckets) (epoch : Nat) : Buckets :=
  let b := w.bucket epoch
  if epoch ≤ b.epoch then w else w.put epoch ⟨epoch, Tally.zero⟩ (w.totals - b.held)

/-- Moves the head up to an epoch.  An epoch that is not newer passes no bucket. -/
def moveTo (w : Buckets) (epoch : Nat) : Buckets :=
  { (passed w.size w.head epoch).foldl clear w with head := max w.head epoch }

/-- Brings the window to a clock reading. -/
def settle (w : Buckets) (now : Nat) : Buckets := w.moveTo (epochOf w.size now)

/-- Whether the bucket of the head holds the head's epoch. -/
def isSettled (w : Buckets) : Bool := (w.bucket w.head).epoch == w.head

/-- Adds a call to the bucket of the head. -/
def recordAtHead (w : Buckets) (o : Outcome) : Buckets :=
  let b := w.bucket w.head
  w.put w.head ⟨b.epoch, b.held + Tally.of o⟩ (w.totals + Tally.of o)

/-- Adds a call at a clock reading.  Settling leaves the head's bucket at the head's epoch, so the
call always finds its place. -/
def record (w : Buckets) (now : Nat) (o : Outcome) : Buckets :=
  let settled := w.settle now
  if settled.isSettled then settled.recordAtHead o else settled

theorem passed_eq_nil {size old head : Nat} (h : head ≤ old) : passed size old head = [] := by
  simp only [passed, List.range'_eq_nil_iff]
  omega

theorem length_passed (size old head : Nat) (h : 0 < size) :
    (passed size old head).length = min size (head - old) := by
  simp only [passed, List.length_range']
  omega

end Buckets

end Breaker

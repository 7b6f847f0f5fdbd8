import Breaker.Proofs.Window.LastCalls
import Breaker.Proofs.Window.LastSeconds

/-!
# Checked — windows in words that do not wrap

Windows are computed here a second time, in words.  A sum that does not fit its word, a difference below
zero, a share among none and a place outside an array have no value, and neither has a window of no size
(`Window.fresh?`) or a call that finds no bucket (`Buckets.record?`).  So where a checked function has a
value, nothing went wrong on the way to it.

A window that is used as a breaker uses it (`Window.Fits`) always has one, and it is the value of the
function that does not check: the head of a window of seconds is at least its size, and no reading takes
it near the end of its word.  What is read off a tally has a value whatever its lanes hold
(`Snapshot.checked_ofTally`).
-/

namespace Breaker

/-! ### Words -/

namespace Word

/-- The sum of two words, of at most `max`. -/
def add? (max a b : Nat) : Option Nat := if a + b ≤ max then some (a + b) else none

/-- The difference of two words. -/
def sub? (a b : Nat) : Option Nat := if b ≤ a then some (a - b) else none

/-- The quotient of two words. -/
def div? (a b : Nat) : Option Nat := if b = 0 then none else some (a / b)

/-- The remainder of two words. -/
def rem? (a b : Nat) : Option Nat := if b = 0 then none else some (a % b)

variable {max a b : Nat}

theorem add?_of_le (h : a + b ≤ max) : add? max a b = some (a + b) := if_pos h

theorem sub?_of_le (h : b ≤ a) : sub? a b = some (a - b) := if_pos h

theorem div?_of_pos (h : 0 < b) : div? a b = some (a / b) := if_neg h.ne'

theorem rem?_of_pos (h : 0 < b) : rem? a b = some (a % b) := if_neg h.ne'

end Word

open Word

/-- Where every step has a value, all steps have one. -/
theorem foldlM_eq_some {α β : Type} {f? : β → α → Option β} {f : β → α → β} {P : β → Prop}
    (step : ∀ b a, P b → f? b a = some (f b a)) (keeps : ∀ b a, P b → P (f b a)) (as : List α) {b : β}
    (start : P b) : as.foldlM f? b = some (as.foldl f b) := by
  induction as generalizing b with
  | nil => rfl
  | cons a as ih =>
    rw [List.foldlM_cons, step b a start]
    exact ih (keeps b a start)

/-- Where every item has a value, all items have one. -/
theorem mapM_eq_some {α β : Type} {f? : α → Option β} {f : α → β} {as : List α}
    (item : ∀ a ∈ as, f? a = some (f a)) : as.mapM f? = some (as.map f) := by
  induction as with
  | nil => rfl
  | cons a as ih =>
    obtain ⟨first, rest⟩ := List.forall_mem_cons.mp item
    rw [List.mapM_cons, first, ih rest]
    rfl

/-! ### The last calls -/

namespace Ring

/-- The slot that takes the next call, if there is one. -/
def index? (r : Ring) : Option Nat := do
  let i ← rem? r.cursor r.size
  if i < r.size then some i else none

/-- Adds one call. -/
def record? (r : Ring) (o : Outcome) : Option Ring := do
  let i ← r.index?
  let evicted := (r.slots.getD i Slot.free).held
  some { r with
    slots := store r.slots i (Slot.of o)
    cursor := r.cursor + 1
    totals := r.totals + (Tally.of o - evicted) }

theorem record?_eq {r : Ring} (sized : 0 < r.size) (o : Outcome) : r.record? o = some (r.record o) := by
  have inside : r.cursor % r.size < r.size := Nat.mod_lt _ sized
  simp only [record?, index?, rem?_of_pos sized, Option.bind_eq_bind, Option.bind_some, if_pos inside]
  rfl

end Ring

/-! ### The last seconds -/

namespace Buckets

/-- The epoch of a clock reading. -/
def epochOf? (size now : Nat) : Option Nat := add? wordMax (now / nanosPerSecond) size

/-- The epoch up to `head` that bucket `i` of `size` holds. -/
def epochOfBucket? (size head i : Nat) : Option Nat := do
  let lap ← add? wordMax head size
  let past ← sub? lap i
  let age ← rem? past size
  sub? head age

/-- An empty window of `size` seconds that ends at a reading. -/
def empty? (size now : Nat) : Option Buckets := do
  let head ← epochOf? size now
  let epochs ← (List.range size).mapM (epochOfBucket? size head)
  some ⟨(epochs.map fun epoch => ⟨epoch, Tally.zero⟩).toArray, head, Tally.zero⟩

/-- The bucket of an epoch. -/
def bucket? (w : Buckets) (epoch : Nat) : Option Bucket := do
  let i ← rem? epoch w.size
  w.buckets[i]?

/-- The epochs whose buckets are cleared when the head moves on. -/
def passed? (size old head : Nat) : Option (List Nat) := do
  let next ← add? wordMax old 1
  let before ← sub? size 1
  let first := max next (head - before)
  some (List.range' first (head + 1 - first))

/-- Clears the bucket of an epoch for it, unless the bucket is there already. -/
def clear? (w : Buckets) (epoch : Nat) : Option Buckets := do
  let b ← w.bucket? epoch
  some (if epoch ≤ b.epoch then w else w.put epoch ⟨epoch, Tally.zero⟩ (w.totals - b.held))

/-- Moves the head up to an epoch, if that is newer. -/
def moveTo? (w : Buckets) (epoch : Nat) : Option Buckets :=
  if w.head < epoch then do
    let epochs ← passed? w.size w.head epoch
    let cleared ← epochs.foldlM clear? w
    some { cleared with head := epoch }
  else some w

/-- Brings the window to a clock reading. -/
def settle? (w : Buckets) (now : Nat) : Option Buckets := do
  let epoch ← epochOf? w.size now
  w.moveTo? epoch

/-- Adds a call at a clock reading.  A call that does not find the head's epoch in the head's bucket
would look for it again and again. -/
def record? (w : Buckets) (now : Nat) (o : Outcome) : Option Buckets := do
  let settled ← w.settle? now
  let b ← settled.bucket? settled.head
  if b.epoch = settled.head then
    some (settled.put settled.head ⟨b.epoch, b.held + Tally.of o⟩ (settled.totals + Tally.of o))
  else none

/-- The newest epoch that a window of some size can come to. -/
def lastEpoch (size : Nat) : Nat := wordMax / nanosPerSecond + size

variable {size now : Nat}

theorem epochOf_le (reading : now ≤ wordMax) : epochOf size now ≤ lastEpoch size :=
  Nat.add_le_add_right (Nat.div_le_div_right reading) size

/-- A lap beyond the newest epoch is within a word. -/
theorem lastEpoch_lt (few : size < 2 ^ 32) : lastEpoch size + size < wordMax := by
  have seconds : wordMax / nanosPerSecond = 18446744073 := by decide
  have word : wordMax = 2 ^ 64 - 1 := by decide
  rw [lastEpoch, seconds, word]
  omega

theorem epochOf?_eq (few : size < 2 ^ 32) (reading : now ≤ wordMax) :
    epochOf? size now = some (epochOf size now) := by
  have newest : epochOf size now ≤ lastEpoch size := epochOf_le reading
  have fits := lastEpoch_lt few
  exact add?_of_le (by rw [epochOf] at newest; omega)

theorem epochOfBucket?_eq {head i : Nat} (place : i < size) (lap : size ≤ head)
    (fits : head + size ≤ wordMax) :
    epochOfBucket? size head i = some (epochOfBucket size head i) := by
  have sized : 0 < size := by omega
  have age : (head + size - i) % size < size := Nat.mod_lt _ sized
  have within : i ≤ head + size := by omega
  have below : (head + size - i) % size ≤ head := by omega
  simp only [epochOfBucket?, add?_of_le fits, sub?_of_le within, rem?_of_pos sized, sub?_of_le below,
    Option.bind_eq_bind, Option.bind_some]
  rfl

theorem empty?_eq (few : size < 2 ^ 32) (reading : now ≤ wordMax) :
    empty? size now = some (empty size now) := by
  have newest : epochOf size now ≤ lastEpoch size := epochOf_le reading
  have fits := lastEpoch_lt few
  have lap : size ≤ epochOf size now := Nat.le_add_left ..
  have epochs : (List.range size).mapM (epochOfBucket? size (epochOf size now))
      = some ((List.range size).map (epochOfBucket size (epochOf size now))) :=
    mapM_eq_some fun i place => epochOfBucket?_eq (List.mem_range.mp place) lap (by omega)
  rw [empty?, epochOf?_eq few reading, Option.bind_eq_bind, Option.bind_some, epochs,
    Option.bind_eq_bind, Option.bind_some, empty]
  congr 2
  refine Array.ext (by simp) fun i _ _ => ?_
  simp

variable {w : Buckets} {n epoch : Nat} {recs : List (Nat × Outcome)}

theorem bucket?_eq (sized : 0 < w.size) (epoch : Nat) : w.bucket? epoch = some (w.bucket epoch) := by
  have inside : epoch % w.size < w.buckets.size := Nat.mod_lt _ sized
  rw [bucket?, rem?_of_pos sized, Option.bind_eq_bind, Option.bind_some, bucket,
    Array.getD_eq_getD_getElem?, Array.getElem?_eq_getElem inside, Option.getD_some]

theorem passed?_eq {old head : Nat} (sized : 0 < size) (fits : old < wordMax) :
    passed? size old head = some (passed size old head) := by
  have next : old + 1 ≤ wordMax := fits
  have before : 1 ≤ size := sized
  simp only [passed?, add?_of_le next, sub?_of_le before, Option.bind_eq_bind, Option.bind_some]
  rfl

theorem clear?_eq (sized : 0 < w.size) (epoch : Nat) : w.clear? epoch = some (w.clear epoch) := by
  rw [clear?, bucket?_eq sized, Option.bind_eq_bind, Option.bind_some]
  rfl

theorem moveTo?_eq (sized : 0 < w.size) (fits : w.head < wordMax) (epoch : Nat) :
    w.moveTo? epoch = some (w.moveTo epoch) := by
  unfold moveTo?
  split
  case isTrue newer =>
    have cleared : (passed w.size w.head epoch).foldlM clear? w
        = some ((passed w.size w.head epoch).foldl clear w) :=
      foldlM_eq_some (P := fun w => 0 < w.size) (fun _ epoch sized => clear?_eq sized epoch)
        (fun w epoch sized => by rwa [size_clear]) _ sized
    rw [passed?_eq sized fits, Option.bind_eq_bind, Option.bind_some, cleared, Option.bind_eq_bind,
      Option.bind_some, moveTo, Nat.max_eq_right newer.le]
  case isFalse old =>
    rw [moveTo, passed_eq_nil (Nat.le_of_not_lt old), Nat.max_eq_left (Nat.le_of_not_lt old)]
    rfl

/-- The window covers fewer seconds than a 32-bit word counts, and its head is where a reading may have
taken it. -/
structure Fits (w : Buckets) (n : Nat) (recs : List (Nat × Outcome)) : Prop where
  sized : 0 < n
  few : n < 2 ^ 32
  took : w.Took n recs
  newest : w.head ≤ lastEpoch n

namespace Fits

theorem empty (sized : 0 < n) (few : n < 2 ^ 32) (reading : now ≤ wordMax) :
    Fits (Buckets.empty n now) n [] :=
  ⟨sized, few, took_empty sized now, epochOf_le reading⟩

variable (fits : w.Fits n recs) (reading : now ≤ wordMax)
include fits

/-- **The head is within its word.** -/
theorem head_lt : w.head < wordMax := by
  have := fits.newest
  have := lastEpoch_lt fits.few
  omega

include reading

theorem settle : (w.settle now).Fits n recs where
  sized := fits.sized
  few := fits.few
  took := fits.took.settle fits.sized now
  newest := by
    rw [Buckets.settle, fits.took.size]
    exact max_le fits.newest (epochOf_le reading)

theorem settle?_eq : w.settle? now = some (w.settle now) := by
  have size := fits.took.size
  rw [settle?, size, epochOf?_eq fits.few reading, Option.bind_eq_bind, Option.bind_some,
    moveTo?_eq (by rw [size]; exact fits.sized) fits.head_lt, Buckets.settle, size]

theorem record (o : Outcome) : (w.record now o).Fits n (recs ++ [((w.settle now).head, o)]) where
  sized := fits.sized
  few := fits.few
  took := fits.took.record fits.sized now o
  newest := by
    rw [head_record]
    exact (fits.settle reading).newest

/-- **A call finds its bucket** at once. -/
theorem record?_eq (o : Outcome) : w.record? now o = some (w.record now o) := by
  have settled := fits.settle reading
  have found := settled.took.isSettled settled.sized
  rw [record?, fits.settle?_eq reading, Option.bind_eq_bind, Option.bind_some,
    bucket?_eq (by rw [settled.took.size]; exact settled.sized), Option.bind_eq_bind, Option.bind_some,
    if_pos (beq_iff_eq.mp found), Buckets.record, if_pos found]
  rfl

end Fits

end Buckets

/-! ### Windows -/

namespace Window

/-- An empty window of a kind and size; there is none of size zero. -/
def fresh? (kind : WindowKind) (size now : Nat) : Option Window :=
  if size = 0 then none
  else match kind with
    | .count => some (.calls (Ring.empty size))
    | .time => (Buckets.empty? size now).map .seconds

/-- Lets time pass up to a clock reading. -/
def settle? (w : Window) (now : Nat) : Option Window :=
  match w with
  | .seconds b => (b.settle? now).map .seconds
  | w => some w

/-- Adds a call at a clock reading. -/
def record? (w : Window) (now : Nat) (o : Outcome) : Option Window :=
  match w with
  | .calls r => (r.record? o).map .calls
  | .seconds b => (b.record? now o).map .seconds
  | .idle => some .idle

/-- A window as a breaker uses it. -/
inductive Fits : Window → Prop where
  | calls {r : Ring} {n : Nat} {os : List Outcome} (sized : 0 < n) (took : r.Took n os) : Fits (.calls r)
  | seconds {b : Buckets} {n : Nat} {recs : List (Nat × Outcome)} (fits : b.Fits n recs) :
      Fits (.seconds b)
  | idle : Fits .idle

variable {w : Window} {size now : Nat}

theorem fresh?_eq (kind : WindowKind) (sized : 0 < size) (few : size < 2 ^ 32)
    (reading : now ≤ wordMax) : fresh? kind size now = some (ofKind kind size now) := by
  cases kind with
  | count => exact if_neg sized.ne'
  | time =>
    unfold fresh?
    rw [if_neg sized.ne', Buckets.empty?_eq few reading, Option.map_some]
    rfl

namespace Fits

theorem ofKind (kind : WindowKind) (sized : 0 < size) (few : size < 2 ^ 32)
    (reading : now ≤ wordMax) : Fits (Window.ofKind kind size now) := by
  cases kind with
  | count => exact .calls sized (Ring.took_empty size)
  | time => exact .seconds (.empty sized few reading)

/-- **The head is never less than the size.** -/
theorem size_le_head {b : Buckets} (fits : Fits (.seconds b)) : b.size ≤ b.head := by
  cases fits with
  | seconds fits =>
    rw [fits.took.size]
    exact fits.took.lap

variable (fits : w.Fits) (reading : now ≤ wordMax)
include fits reading

theorem settle : (w.settle now).Fits := by
  cases fits with
  | calls sized took => exact .calls sized took
  | seconds fits => exact .seconds (fits.settle reading)
  | idle => exact .idle

theorem record (o : Outcome) : (w.record now o).Fits := by
  cases fits with
  | calls sized took => exact .calls sized (took.record sized o)
  | seconds fits => exact .seconds (fits.record reading o)
  | idle => exact .idle

theorem settle?_eq : w.settle? now = some (w.settle now) := by
  cases fits with
  | calls | idle => rfl
  | seconds fits => rw [settle?, fits.settle?_eq reading, Option.map_some, Window.settle]

theorem record?_eq (o : Outcome) : w.record? now o = some (w.record now o) := by
  cases fits with
  | calls sized took =>
    rw [record?, Ring.record?_eq (by rw [took.size]; exact sized), Option.map_some, Window.record]
  | seconds fits => rw [record?, fits.record?_eq reading, Option.map_some, Window.record]
  | idle => rfl

end Fits

end Window

/-! ### What is read off a tally -/

/-- An equal share of a span among `n`. -/
def Duration.share? (d : Duration) (n : Nat) : Option Duration := (div? d.nanos n).map ofNanos

theorem Duration.share?_of_pos (d : Duration) {n : Nat} (some : 0 < n) :
    d.share? n = .some (d.share n) := by
  have short : d.nanos / n ≤ longestNanos := (Nat.div_le_self _ _).trans d.nanos_le
  rw [share?, div?_of_pos some, Option.map_some, ofNanos, Option.some.injEq, share, mk.injEq]
  exact Nat.min_eq_left short

namespace Snapshot

/-- The calls that did not fail. -/
def successful? (s : Snapshot) : Option Nat := sub? s.total s.failed

/-- The slow calls that did not fail. -/
def slowSuccessful? (s : Snapshot) : Option Nat := sub? s.slow s.slowFailed

/-- The mean duration of the calls, none if there are none. -/
def average? (s : Snapshot) : Option Duration :=
  if s.total = 0 then some Duration.zero
  else if s.total < Nat.pow 2 32 then s.duration.share? s.total
  else (div? s.duration.word s.total).map Duration.ofNanos

/-- What is shown of a snapshot, computed in words. -/
structure Checked (s : Snapshot) : Prop where
  successful : s.successful? = some s.successful
  slowSuccessful : s.slowSuccessful? = some s.slowSuccessful
  average : s.average? = some s.average

/-- **No part exceeds its whole, and nothing is shared among none.** -/
theorem Checked.of_le {s : Snapshot} (failed : s.failed ≤ s.total) (slowFailed : s.slowFailed ≤ s.slow) :
    s.Checked where
  successful := sub?_of_le failed
  slowSuccessful := sub?_of_le slowFailed
  average := by
    unfold average? Snapshot.average
    by_cases none : s.total = 0
    · rw [if_pos none, if_pos none]
    have some : 0 < s.total := Nat.pos_of_ne_zero none
    rw [if_neg none, if_neg none]
    split
    · exact s.duration.share?_of_pos some
    · rw [← Duration.share?_of_pos _ some, Duration.share?, Duration.nanos_ofNanos_word]

/-- **Whatever the lanes of a tally hold**, what is shown of it can be computed. -/
theorem checked_ofTally (t : Tally) : (ofTally t).Checked :=
  .of_le (ofTally_failed_le t) ((ofTally_slowFailed_le t).trans (Nat.min_le_right _ _))

end Snapshot

theorem Window.checked_totals (w : Window) : w.totals.Checked := by
  cases w with
  | calls | seconds => exact Snapshot.checked_ofTally _
  | idle => exact .of_le (Nat.zero_le _) (Nat.zero_le _)

end Breaker

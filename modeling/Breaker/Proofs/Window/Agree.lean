import Breaker.Proofs.Window.LastCalls
import Breaker.Proofs.Window.LastSeconds

/-!
# Agree — windows that show the same

Two windows agree at a reading if they show the same from then on, whatever is recorded in both: they
are one ring, or took the same outcomes in the same epochs and neither is ahead of the reading, or both
remember nothing.  Asking one of them, and not the other, for its totals changes nothing
(`Agree.settle_left`), as long as readings do not go back.
-/

namespace Breaker.Window

/-- From a reading on, two windows show the same. -/
inductive Agree (now : Nat) : Window → Window → Prop where
  | calls (r : Ring) : Agree now (.calls r) (.calls r)
  | seconds {a b : Buckets} {n : Nat} {recs : List (Nat × Outcome)} (hn : 0 < n)
      (left : a.Took n recs) (right : b.Took n recs) (leftHead : a.head ≤ Buckets.epochOf n now)
      (rightHead : b.head ≤ Buckets.epochOf n now) : Agree now (.seconds a) (.seconds b)
  | idle : Agree now .idle .idle

theorem epochOf_mono {n now later : Nat} (h : now ≤ later) :
    Buckets.epochOf n now ≤ Buckets.epochOf n later :=
  Nat.add_le_add_right (Nat.div_le_div_right h) n

/-- Settling brings a window that is not ahead of a reading to that reading. -/
theorem head_settle_of_le {b : Buckets} {n now : Nat} {recs : List (Nat × Outcome)}
    (took : b.Took n recs) (head : b.head ≤ Buckets.epochOf n now) :
    (b.settle now).head = Buckets.epochOf n now := by
  show max b.head (Buckets.epochOf b.size now) = _
  rw [took.size]
  exact Nat.max_eq_right head

namespace Agree

variable {now later : Nat} {a b : Window}

theorem mono (h : Agree now a b) (le : now ≤ later) : Agree later a b := by
  cases h with
  | calls r => exact .calls r
  | seconds hn left right leftHead rightHead =>
    exact .seconds hn left right (leftHead.trans (epochOf_mono le))
      (rightHead.trans (epochOf_mono le))
  | idle => exact .idle

/-- An outcome goes to the same epoch of both. -/
theorem record (h : Agree now a b) (o : Outcome) : Agree now (a.record now o) (b.record now o) := by
  cases h with
  | calls r => exact .calls (r.record o)
  | @seconds a b n recs hn left right leftHead rightHead =>
    have left' := left.record hn now o
    have right' := right.record hn now o
    have leftHead' := head_settle_of_le left leftHead
    have rightHead' := head_settle_of_le right rightHead
    rw [leftHead'] at left'
    rw [rightHead'] at right'
    refine .seconds hn left' right' ?_ ?_
    · rw [Buckets.head_record, leftHead']
    · rw [Buckets.head_record, rightHead']
  | idle => exact .idle

theorem settle_left (h : Agree now a b) : Agree now (a.settle now) b := by
  cases h with
  | calls r => exact .calls r
  | seconds hn left right leftHead rightHead =>
    exact .seconds hn (left.settle hn now) right (head_settle_of_le left leftHead).le rightHead
  | idle => exact .idle

/-- **Windows that agree show the same**, once they are brought to the reading. -/
theorem totals_eq (h : Agree now a b) : (a.settle now).totals = (b.settle now).totals := by
  cases h with
  | calls r => rfl
  | seconds hn left right leftHead rightHead =>
    have leftTotals := (left.settle hn now).totals_eq
    have rightTotals := (right.settle hn now).totals_eq
    rw [head_settle_of_le left leftHead] at leftTotals
    rw [head_settle_of_le right rightHead] at rightTotals
    exact congrArg Snapshot.ofTally (leftTotals.trans rightTotals.symm)
  | idle => rfl

/-- A fresh window agrees with itself. -/
theorem ofKind (kind : WindowKind) {size : Nat} (h : 0 < size) (now : Nat) :
    Agree now (Window.ofKind kind size now) (Window.ofKind kind size now) := by
  cases kind with
  | count => exact .calls _
  | time =>
    have took := Buckets.took_empty h now
    exact .seconds h took took (Nat.le_refl _) (Nat.le_refl _)

end Agree

end Breaker.Window

import Breaker.Proofs.Window.Aggregate

/-!
# LastCalls — a ring shows the last calls and nothing else

A ring of `n` slots that took the outcomes `os` (`Ring.Took`) holds `os[j]` in slot `j mod n` for each
of the last `n` of them, and its totals are the sum over those.  The slot of the
next call holds the call that is `n` calls old, if there is one (`Took.evicted_eq`), so replacing one
by the other in the totals keeps the invariant (`Took.record`).

`Window.totals_lastCalls` reads this off a window in use: after any uses it shows the aggregate of
the last `n` outcomes recorded.
-/

namespace Breaker

namespace Ring

/-- The last `n` of some outcomes. -/
def lastOf (n : Nat) (os : List Outcome) : List Outcome := os.drop (os.length - n)

theorem length_lastOf (n : Nat) (os : List Outcome) : (lastOf n os).length = min os.length n := by
  rw [lastOf, List.length_drop]
  omega

/-- The ring has `n` slots and took these outcomes, in this order. -/
structure Took (r : Ring) (n : Nat) (os : List Outcome) : Prop where
  size : r.size = n
  cursor : r.cursor = os.length
  used : r.slots.size = min os.length n
  slot : ∀ (j : Nat) (h : j < os.length), os.length ≤ j + n →
    r.slots[j % n]? = some (Slot.of os[j])
  totals : r.totals = Tally.ofAll (lastOf n os)

theorem took_empty (n : Nat) : Took (empty n) n [] where
  size := rfl
  cursor := rfl
  used := by simp [empty]
  slot := fun _ h => absurd h (Nat.not_lt_zero _)
  totals := by simp [empty, lastOf, Tally.zero_eq]

namespace Took

variable {r : Ring} {n : Nat} {os : List Outcome}

theorem index_eq (t : Took r n os) : r.index = os.length % n := by rw [index, t.cursor, t.size]

/-- The slot of the next call holds the oldest call of a full window. -/
theorem evicted_eq (t : Took r n os) (hn : 0 < n) :
    r.evicted = if h : n ≤ os.length then Tally.of os[os.length - n] else 0 := by
  rw [evicted, t.index_eq, Array.getD_eq_getD_getElem?]
  split
  case isTrue full =>
    have oldest := t.slot (os.length - n) (by omega) (by omega)
    rw [Nat.mod_eq_sub_mod full, oldest, Option.getD_some, Slot.held_of]
  case isFalse room =>
    have free : r.slots.size ≤ os.length % n := by
      rw [t.used, Nat.mod_eq_of_lt (by omega)]
      omega
    rw [Array.getElem?_eq_none free, Option.getD_none, Slot.held_free, Tally.zero_eq]

/-- What the totals gain by a call is what the last calls gain by it. -/
theorem totals_record (t : Took r n os) (hn : 0 < n) (o : Outcome) :
    r.totals + (Tally.of o - r.evicted) = Tally.ofAll (lastOf n (os ++ [o])) := by
  rw [t.totals, t.evicted_eq hn, lastOf, lastOf, List.length_append, List.length_singleton]
  split
  case isTrue full =>
    have oldest : os.drop (os.length - n)
        = os[os.length - n] :: os.drop (os.length + 1 - n) := by
      rw [List.drop_eq_getElem_cons (by omega), ← Nat.sub_add_comm full]
    rw [oldest, List.drop_append_of_le_length (by omega), Tally.ofAll_append, Tally.ofAll_cons,
      Tally.ofAll_cons, Tally.ofAll_nil]
    abel
  case isFalse room =>
    rw [show os.length - n = 0 by omega, show os.length + 1 - n = 0 by omega, List.drop_zero,
      List.drop_zero, Tally.ofAll_append, Tally.ofAll_cons, Tally.ofAll_nil]
    abel

theorem used_store (t : Took r n os) (hn : 0 < n) (s : Slot) :
    (store r.slots r.index s).size = min (os.length + 1) n := by
  have := Nat.mod_lt os.length hn
  rw [store, t.index_eq, t.used]
  split
  case isTrue h =>
    -- a first free slot would have the number of the calls so far
    have full : n ≤ os.length := by
      by_contra room
      rw [Nat.mod_eq_of_lt (by omega)] at h
      omega
    rw [Array.size_setIfInBounds, t.used]
    omega
  case isFalse h =>
    rw [Array.size_push, t.used]
    omega

/-- A stored call is in the slot of its place, and the other slots are as they were. -/
theorem getElem?_store (t : Took r n os) (hn : 0 < n) (s : Slot) {i : Nat} :
    (store r.slots r.index s)[i]? = if i = os.length % n then some s else r.slots[i]? := by
  have := Nat.mod_lt os.length hn
  rw [store, t.index_eq, t.used]
  split
  case isTrue h =>
    rw [Array.getElem?_setIfInBounds, t.used, if_pos h]
    simp only [eq_comm]
  case isFalse h =>
    -- the ring has room, so the next slot is the first free one
    have room : os.length < n := by
      by_contra full
      exact h (by omega)
    have place : r.slots.size = os.length % n := by
      rw [t.used, Nat.mod_eq_of_lt room]
      omega
    rw [Array.getElem?_push, place]

theorem record (t : Took r n os) (hn : 0 < n) (o : Outcome) :
    Took (r.record o) n (os ++ [o]) where
  size := t.size
  cursor := by rw [List.length_append, List.length_singleton, ← t.cursor]; rfl
  used := by
    rw [List.length_append, List.length_singleton]
    exact t.used_store hn (Slot.of o)
  slot := by
    intro j h recent
    rw [List.length_append, List.length_singleton] at h recent
    show (store r.slots r.index (Slot.of o))[j % n]? = _
    rw [t.getElem?_store hn]
    -- a call that is still among the last ones has another place than the new one
    rcases Nat.lt_succ_iff_lt_or_eq.mp h with older | rfl
    · have lap : os.length < j + n := by omega
      rw [if_neg (mod_ne_of_lt_lap older lap), List.getElem_append_left older]
      exact t.slot j older lap.le
    · rw [if_pos rfl, List.getElem_concat_length rfl]
  totals := t.totals_record hn o

/-- The totals show the last calls, as long as their number fits a lane. -/
theorem ofTally_totals (t : Took r n os) (fits : min os.length n < 2 ^ 63) :
    Snapshot.ofTally r.totals = Snapshot.ofOutcomes (lastOf n os) := by
  rw [t.totals, Snapshot.ofTally_ofAll (by rwa [length_lastOf])]

theorem total_le_min (t : Took r n os) : (Snapshot.ofTally r.totals).total ≤ min os.length n := by
  have read : (Snapshot.ofTally r.totals).total = Tally.read r.totals.calls := rfl
  rw [read, t.totals, Tally.calls_ofAll, length_lastOf]
  exact Tally.read_ofNat_le _

/-- The totals never show more calls than there are slots. -/
theorem total_le (t : Took r n os) : (Snapshot.ofTally r.totals).total ≤ n :=
  t.total_le_min.trans (Nat.min_le_right ..)

/-- The totals never show more calls than were recorded. -/
theorem total_le_cursor (t : Took r n os) : (Snapshot.ofTally r.totals).total ≤ r.cursor := by
  rw [t.cursor]
  exact t.total_le_min.trans (Nat.min_le_left ..)

end Took

end Ring

/-- A window over calls in use is a ring that took what was recorded. -/
theorem Window.foldl_use_calls {n : Nat} (hn : 0 < n) (uses : List Use) :
    ∀ {r : Ring} {os : List Outcome}, r.Took n os →
      ∃ after : Ring, uses.foldl use (.calls r) = .calls after ∧
        after.Took n (os ++ Use.outcomes uses) := by
  induction uses with
  | nil =>
    intro r os t
    exact ⟨r, rfl, by rwa [Use.outcomes, List.filterMap_nil, List.append_nil]⟩
  | cons u uses ih =>
    intro r os t
    cases u with
    | record now o =>
      obtain ⟨after, run, took⟩ := ih (t.record hn o)
      refine ⟨after, run, ?_⟩
      rwa [List.append_assoc] at took
    | snapshot now => exact ih t

/-- **The last calls**: whatever was recorded and asked of a window over `n` calls, and whenever, it
shows the aggregate of the last `n` outcomes recorded.  Their number is exact as long as a lane can
hold it, which it can for every window that memory can hold; their duration is exact as long as its
sum fits a lane. -/
theorem Window.totals_lastCalls {n : Nat} (hn : 0 < n) (start : Nat) (uses : List Use)
    (fits : min (Use.outcomes uses).length n < 2 ^ 63) :
    (uses.foldl use (ofKind .count n start)).totals
        = Snapshot.ofOutcomes (Ring.lastOf n (Use.outcomes uses)) ∧
      (uses.foldl use (ofKind .count n start)).totals.total = min (Use.outcomes uses).length n ∧
      (((Ring.lastOf n (Use.outcomes uses)).map Outcome.heldNanos).sum ≤ Tally.laneMax →
        (uses.foldl use (ofKind .count n start)).totals.duration.nanos
          = ((Ring.lastOf n (Use.outcomes uses)).map Outcome.heldNanos).sum) := by
  obtain ⟨r, run, took⟩ := foldl_use_calls hn uses (Ring.took_empty n)
  rw [List.nil_append] at took
  have shown : (uses.foldl use (ofKind .count n start)).totals
      = Snapshot.ofOutcomes (Ring.lastOf n (Use.outcomes uses)) := by
    rw [show ofKind .count n start = .calls (Ring.empty n) from rfl, run]
    exact took.ofTally_totals fits
  refine ⟨shown, ?_, ?_⟩
  · rw [shown]
    exact Ring.length_lastOf n _
  · rw [shown]
    exact Snapshot.ofOutcomes_duration_of_le

/-- The third call evicts the first of a window of two. -/
theorem Window.totals_lastCalls_evicted :
    (0 < 2 ∧ min (Use.outcomes [.record 0 ⟨true, true, .zero⟩, .record 0 ⟨false, true, .zero⟩,
        .snapshot 9, .record 0 ⟨true, false, .ofNanos 7⟩]).length 2 < 2 ^ 63) ∧
      ([Use.record 0 ⟨true, true, .zero⟩, .record 0 ⟨false, true, .zero⟩,
        .snapshot 9, .record 0 ⟨true, false, .ofNanos 7⟩].foldl use (ofKind .count 2 0)).totals
        = Snapshot.ofOutcomes [⟨false, true, .zero⟩, ⟨true, false, .ofNanos 7⟩] :=
  ⟨by decide, (totals_lastCalls (by decide) 0 _ (by decide)).1⟩

end Breaker

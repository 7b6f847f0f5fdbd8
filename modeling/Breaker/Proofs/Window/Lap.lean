import Breaker.Proofs.Window.Checked

/-!
# Lap — where each second has its bucket

The buckets of a window of `n` seconds always hold one lap of epochs, the one that ends at the newest epoch
read so far: bucket `i` holds the one epoch of it that is `i` modulo `n` (`Buckets.Took.epoch_eq_iff`).  The
window is made that way, and moving the head clears as many buckets as the head moves on, but no more than
there are (`Buckets.length_passed`).

A call looks for the head's bucket in a loop (`Buckets.seek?`), which goes on with a new reading as long as
that bucket does not hold the head's epoch.  In a window that is used from one thread it always does
(`Buckets.Fits.seek?_eq`), so one pass is enough.  `Window.lap_of_uses` says all of this of a window in use,
at whatever readings, also earlier ones, and in words.
-/

namespace Breaker

/-- The reading at which a window is used. -/
def Use.now : Use → Nat
  | .record now _ => now
  | .snapshot now => now

namespace Buckets

/-! ### Looking for the head's bucket -/

/-- Adds a call in as many passes as it takes.  Each pass takes a reading and brings the window to it, and the
call is added once the head's bucket holds the head's epoch.  The readings that are left come with the window;
there is no window if they run out. -/
def seek? (o : Outcome) : List Nat → Buckets → Option (Buckets × List Nat)
  | [], _ => none
  | now :: later, w => do
    let settled ← w.settle? now
    let b ← settled.bucket? settled.head
    if b.epoch = settled.head then
      let totals := settled.totals + Tally.of o
      some (settled.put settled.head ⟨b.epoch, b.held + Tally.of o⟩ totals, later)
    else seek? o later settled

/-- The window after a use, computed in words; a call takes the reading of the use and no other. -/
def use? (w : Buckets) : Use → Option Buckets
  | .record now o => (seek? o [now] w).map (·.1)
  | .snapshot now => w.settle? now

variable {w after : Buckets} {n now i : Nat} {o : Outcome}

/-- A call that finds its bucket in one pass takes one reading. -/
theorem seek?_of_record? (found : w.record? now o = some after) (later : List Nat) :
    seek? o (now :: later) w = some (after, later) := by
  obtain ⟨settled, isSettled, found⟩ := Option.bind_eq_some_iff.mp found
  obtain ⟨b, isHeld, found⟩ := Option.bind_eq_some_iff.mp found
  obtain ⟨held, found⟩ := Option.ite_none_right_eq_some.mp found
  rw [seek?, isSettled, Option.bind_eq_bind, Option.bind_some, isHeld, Option.bind_eq_bind,
    Option.bind_some, if_pos held, ← Option.some.inj found]

theorem Fits.seek?_eq {recs : List (Nat × Outcome)} (fits : w.Fits n recs) (reading : now ≤ wordMax)
    (o : Outcome) (later : List Nat) : seek? o (now :: later) w = some (w.record now o, later) :=
  seek?_of_record? (fits.record?_eq reading o) later

/-! ### One lap of epochs -/

theorem bucket_of_getElem? {b : Bucket} (here : w.buckets[i]? = some b) : w.bucket i = b := by
  obtain ⟨inside, -⟩ := Array.getElem?_eq_some_iff.mp here
  rw [bucket, size, Nat.mod_eq_of_lt inside, Array.getD_eq_getD_getElem?, here, Option.getD_some]

namespace Took

variable {recs : List (Nat × Outcome)}

/-- **A bucket holds the epoch of its place** in the lap that ends at the head. -/
theorem epoch_eq_iff (t : Took w n recs) {b : Bucket} (here : w.buckets[i]? = some b) (epoch : Nat) :
    epoch = b.epoch ↔ epoch % n = i ∧ w.head < epoch + n ∧ epoch ≤ w.head := by
  have inside : i < n := by
    rw [← t.size]
    exact (Array.getElem?_eq_some_iff.mp here).1
  have place : i % n = i := Nat.mod_eq_of_lt inside
  have holds {epoch : Nat} (same : epoch % n = i) (le : epoch ≤ w.head) (lt : w.head < epoch + n) :
      b.epoch = epoch := by
    have held := t.bucket epoch le lt
    rw [bucket_congr w (j := i) (by rw [t.size, same, place]), bucket_of_getElem? here] at held
    exact congrArg Bucket.epoch held
  constructor
  · rintro rfl
    obtain ⟨epoch, le, lt, same⟩ := exists_mod_eq_of_lap (by omega) t.lap i
    rw [place] at same
    rw [holds same le lt]
    exact ⟨same, lt, le⟩
  · rintro ⟨same, lt, le⟩
    exact (holds same le lt).symm

/-- The lanes of the buckets add up to the totals. -/
theorem sum_held (t : Took w n recs) : (w.buckets.toList.map Bucket.held).sum = w.totals := by
  have held (i : Fin w.buckets.toList.length) : (w.bucket i).held = w.buckets.toList[i].held :=
    congrArg Bucket.held (bucket_of_getElem? (Array.getElem?_eq_getElem i.isLt))
  rw [t.balanced, Finset.sum_range, ← Fin.sum_univ_fun_getElem]
  exact (Finset.sum_congr rfl fun i _ => held i).symm

end Took

/-! ### The newest reading -/

/-- The epochs of some readings. -/
def epochsOf (n : Nat) (taken : List Nat) : Set Nat := {epoch | ∃ now ∈ taken, epoch = epochOf n now}

theorem epochsOf_concat (n : Nat) (taken : List Nat) (now : Nat) :
    epochsOf n (taken ++ [now]) = epochsOf n taken ∪ {epochOf n now} := by
  ext epoch
  simp only [epochsOf, Set.mem_ofPred_eq, Set.mem_union, Set.mem_singleton_iff, List.mem_append,
    List.mem_singleton, or_and_right, exists_or, exists_eq_left]

/-- The window is used in words, and its head is the newest epoch of the readings taken. -/
structure Paced (w : Buckets) (n : Nat) (taken : List Nat) : Prop where
  fits : ∃ recs, w.Fits n recs
  newest : IsGreatest (epochsOf n taken) w.head

namespace Paced

variable {taken : List Nat}

theorem empty (sized : 0 < n) (few : n < 2 ^ 32) (reading : now ≤ wordMax) :
    Paced (Buckets.empty n now) n [now] where
  fits := ⟨[], .empty sized few reading⟩
  newest := by
    have one : epochsOf n [now] = {epochOf n now} := by simp [epochsOf]
    rw [one]
    exact isGreatest_singleton

variable (p : w.Paced n taken)
include p

/-- A reading makes a new head if it is newer than all that were taken. -/
theorem newest_settle (now : Nat) : IsGreatest (epochsOf n (taken ++ [now])) (w.settle now).head := by
  obtain ⟨recs, fits⟩ := p.fits
  have moved : (w.settle now).head = max w.head (epochOf n now) := by
    rw [← fits.took.size]
    rfl
  rw [moved, epochsOf_concat]
  exact p.newest.union isGreatest_singleton

theorem settle (reading : now ≤ wordMax) : (w.settle now).Paced n (taken ++ [now]) where
  fits := p.fits.imp fun _ fits => fits.settle reading
  newest := p.newest_settle now

theorem record (reading : now ≤ wordMax) (o : Outcome) : (w.record now o).Paced n (taken ++ [now]) where
  fits := by
    obtain ⟨recs, fits⟩ := p.fits
    exact ⟨_, fits.record reading o⟩
  newest := by
    rw [head_record]
    exact p.newest_settle now

/-- A use comes to the same in words, where a call takes the reading of the use and no other. -/
theorem use {u : Use} (reading : u.now ≤ wordMax) :
    ∃ after : Buckets, (Window.seconds w).use u = .seconds after ∧ use? w u = some after ∧
      after.Paced n (taken ++ [u.now]) := by
  obtain ⟨recs, fits⟩ := p.fits
  cases u with
  | record now o =>
    have found : seek? o [now] w = some (w.record now o, []) := fits.seek?_eq reading o []
    have used : use? w (.record now o) = some (w.record now o) := by rw [use?, found, Option.map_some]
    exact ⟨_, rfl, used, p.record reading o⟩
  | snapshot now => exact ⟨_, rfl, fits.settle?_eq reading, p.settle reading⟩

theorem run {uses : List Use} (words : ∀ u ∈ uses, u.now ≤ wordMax) :
    ∃ after : Buckets, uses.foldl Window.use (.seconds w) = .seconds after ∧
      uses.foldlM use? w = some after ∧ after.Paced n (taken ++ uses.map Use.now) := by
  induction uses generalizing w taken with
  | nil => exact ⟨w, rfl, rfl, by rwa [List.map_nil, List.append_nil]⟩
  | cons u uses ih =>
    obtain ⟨reading, words⟩ := List.forall_mem_cons.mp words
    obtain ⟨next, used, checked, paced⟩ := p.use reading
    rw [List.foldl_cons, used, List.foldlM_cons, checked, List.map_cons, List.append_cons]
    exact ih paced words

end Paced

end Buckets

/-- **A lap of epochs.**  A window of `n` seconds is made at a reading and used at any readings after it, which
may go back.  Its uses can be computed in words, with one pass for each call.  Bucket `i` then holds the one
epoch of the lap up to the head that is `i` modulo `n`, and the head is the greatest epoch of the readings
taken.  The lanes of all buckets add up to the totals.  A move of the head visits as many buckets as the head
moves on, and no more than `n`.  The next call finds its bucket in its first pass, whatever readings would
follow. -/
theorem Window.lap_of_uses {n start : Nat} (sized : 0 < n) (few : n < 2 ^ 32) {uses : List Use}
    (words : ∀ now ∈ start :: uses.map Use.now, now ≤ wordMax) :
    ∃ w : Buckets, uses.foldl use (ofKind .time n start) = .seconds w ∧
      (Buckets.empty? n start).bind (uses.foldlM Buckets.use?) = some w ∧
      (w.buckets.size = n ∧ ∀ i b, w.buckets[i]? = some b → ∀ epoch,
        epoch = b.epoch ↔ epoch % n = i ∧ w.head < epoch + n ∧ epoch ≤ w.head) ∧
      IsGreatest (Buckets.epochsOf n (start :: uses.map Use.now)) w.head ∧
      (w.buckets.toList.map Bucket.held).sum = w.totals ∧
      (∀ epoch, ∃ visited, Buckets.passed? n w.head epoch = some visited ∧
        visited.length = min n (epoch - w.head) ∧
        w.moveTo epoch = { visited.foldl Buckets.clear w with head := max w.head epoch }) ∧
      ∀ o now later, now ≤ wordMax →
        Buckets.seek? o (now :: later) w = some (w.record now o, later) := by
  obtain ⟨first, words⟩ := List.forall_mem_cons.mp words
  have fresh := Buckets.Paced.empty sized few first
  obtain ⟨w, run, checked, paced⟩ := fresh.run (List.forall_mem_map.mp words)
  obtain ⟨recs, fits⟩ := paced.fits
  refine ⟨w, run, ?_, ⟨fits.took.size, fun i b here => fits.took.epoch_eq_iff here⟩, paced.newest,
    fits.took.sum_held, fun epoch => ?_, fun o now later reading => fits.seek?_eq reading o later⟩
  · rw [Buckets.empty?_eq few first, Option.bind_some, checked]
  · refine ⟨Buckets.passed n w.head epoch, Buckets.passed?_eq sized fits.head_lt,
      Buckets.length_passed _ _ _ sized, ?_⟩
    rw [Buckets.moveTo, fits.took.size]

/-- Uses of a window at readings that go on by a second, go back, and jump. -/
def Use.wayward : List Use :=
  [.record 5000000000 ⟨true, false, .zero⟩, .record 3000000000 ⟨false, true, .zero⟩,
    .record 20000000000 ⟨true, true, .zero⟩, .snapshot 1000000000]

/-- A window of two seconds that was made at the fourth second holds the epochs of the two seconds up to the
twentieth, which was jumped to, and a call at an earlier reading finds its bucket in one pass. -/
theorem Window.lap_of_uses_wayward :
    (0 < 2 ∧ 2 < 2 ^ 32 ∧ ∀ now ∈ 4000000000 :: Use.wayward.map Use.now, now ≤ wordMax) ∧
    ∃ w : Buckets, Use.wayward.foldl use (ofKind .time 2 4000000000) = .seconds w ∧ w.head = 22 ∧
      (∀ b, w.buckets[0]? = some b → b.epoch = 22) ∧ (∀ b, w.buckets[1]? = some b → b.epoch = 21) ∧
      (Buckets.passed? 2 w.head 100).map List.length = some 2 ∧
      ∀ o, Buckets.seek? o [3000000000] w = some (w.record 3000000000 o, []) := by
  have words : ∀ now ∈ 4000000000 :: Use.wayward.map Use.now, now ≤ wordMax := by decide
  obtain ⟨w, run, -, ⟨-, place⟩, newest, -, moves, finds⟩ :=
    lap_of_uses (show 0 < 2 by decide) (by decide) words
  have head : w.head = 22 := by
    refine Nat.le_antisymm ?_ (newest.2 ⟨20000000000, by decide, by decide⟩)
    have each : ∀ now ∈ 4000000000 :: Use.wayward.map Use.now, Buckets.epochOf 2 now ≤ 22 := by decide
    obtain ⟨now, taken, epoch⟩ := newest.1
    exact epoch.trans_le (each now taken)
  refine ⟨⟨by decide, by decide, words⟩, w, run, head, fun b here => ?_, fun b here => ?_, ?_,
    fun o => finds o _ [] (by decide)⟩
  · rw [← (place 0 b here 22).mpr (by rw [head]; decide)]
  · rw [← (place 1 b here 21).mpr (by rw [head]; decide)]
  · obtain ⟨visited, passed, length, -⟩ := moves 100
    rw [passed, Option.map_some, length, head]
    rfl

end Breaker

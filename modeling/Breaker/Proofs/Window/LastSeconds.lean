import Breaker.Proofs.Window.Aggregate

/-!
# LastSeconds — buckets show the calls of the last seconds

A window of `n` seconds that took the outcomes `recs`, each in its epoch (`Buckets.Took`), has for
every epoch of the lap that ends at its head a bucket with that epoch and the tally of its
outcomes, and its totals are the sum over the buckets.  Clearing a bucket keeps that sum
(`balanced_clear`).  Moving the head clears each bucket that it passed over once and no other
(`bucket_foldl_clear`), for a gap below, at and above one lap; so what the buckets hold afterwards
is what belongs to the new lap (`Took.moveTo`).

`Window.totals_lastSeconds` compares a window in use with the plain history of its uses: it shows
the aggregate of the outcomes of the last `n` seconds, where the newest second read so far counts
as the present.
-/

namespace Breaker

namespace Buckets

/-- The outcomes recorded in an epoch. -/
def ofEpoch (recs : List (Nat × Outcome)) (epoch : Nat) : List Outcome :=
  (recs.filter (·.1 == epoch)).map (·.2)

/-- The outcomes recorded in the lap of `n` epochs that ends at `head`. -/
def ofLap (n head : Nat) (recs : List (Nat × Outcome)) : List Outcome :=
  (recs.filter (head < ·.1 + n)).map (·.2)

/-- The totals are the sum over the buckets. -/
def Balanced (w : Buckets) : Prop := w.totals = ∑ i ∈ Finset.range w.size, (w.bucket i).held

/-- The window covers `n` seconds and took these outcomes, each in its epoch. -/
structure Took (w : Buckets) (n : Nat) (recs : List (Nat × Outcome)) : Prop where
  size : w.size = n
  lap : n ≤ w.head
  newest : ∀ r ∈ recs, r.1 ≤ w.head
  bucket : ∀ epoch, epoch ≤ w.head → w.head < epoch + n →
    w.bucket epoch = ⟨epoch, Tally.ofAll (ofEpoch recs epoch)⟩
  balanced : w.Balanced

/-! ### Buckets of a lap -/

theorem bucket_mod (w : Buckets) (epoch : Nat) : w.bucket (epoch % w.size) = w.bucket epoch := by
  rw [bucket, bucket, Nat.mod_mod]

theorem bucket_congr (w : Buckets) {i j : Nat} (h : i % w.size = j % w.size) :
    w.bucket i = w.bucket j := by
  rw [bucket, bucket, h]

@[simp] theorem size_put (w : Buckets) (epoch : Nat) (b : Bucket) (totals : Tally) :
    (w.put epoch b totals).size = w.size := by
  simp [size, put]

theorem bucket_put (w : Buckets) (hn : 0 < w.size) (epoch : Nat) (b : Bucket) (totals : Tally)
    (i : Nat) :
    (w.put epoch b totals).bucket i = if i % w.size = epoch % w.size then b else w.bucket i := by
  have inside : epoch % w.size < w.buckets.size := Nat.mod_lt _ hn
  rw [bucket, size_put, bucket, put, Array.getD_eq_getD_getElem?, Array.getD_eq_getD_getElem?,
    Array.getElem?_setIfInBounds, if_pos inside]
  by_cases same : i % w.size = epoch % w.size
  · rw [if_pos same.symm, if_pos same, Option.getD_some]
  · rw [if_neg (Ne.symm same), if_neg same]

/-- Replacing a bucket changes the sum over the buckets by the difference. -/
theorem balanced_put (w : Buckets) (hn : 0 < w.size) (balanced : w.Balanced) (epoch : Nat)
    (b : Bucket) : (w.put epoch b (w.totals - (w.bucket epoch).held + b.held)).Balanced := by
  have inside : epoch % w.size ∈ Finset.range w.size := Finset.mem_range.mpr (Nat.mod_lt _ hn)
  have others : ∑ i ∈ (Finset.range w.size).erase (epoch % w.size),
        ((w.put epoch b (w.totals - (w.bucket epoch).held + b.held)).bucket i).held
      = ∑ i ∈ (Finset.range w.size).erase (epoch % w.size), (w.bucket i).held := by
    refine Finset.sum_congr rfl fun i hi => ?_
    obtain ⟨other, here⟩ := Finset.mem_erase.mp hi
    rw [bucket_put w hn, if_neg (by rwa [Nat.mod_eq_of_lt (Finset.mem_range.mp here)])]
  rw [Balanced] at balanced ⊢
  rw [size_put, ← Finset.add_sum_erase _ _ inside, others, bucket_put w hn,
    if_pos (Nat.mod_mod ..)]
  show w.totals - (w.bucket epoch).held + b.held = _
  rw [balanced, ← Finset.add_sum_erase _ _ inside, bucket_mod]
  abel

/-! ### Clearing the buckets that are passed over -/

/-- A bucket cleared for an epoch, unless it is there already. -/
def cleared (epoch : Nat) (b : Bucket) : Bucket := if epoch ≤ b.epoch then b else ⟨epoch, 0⟩

@[simp] theorem size_clear (w : Buckets) (epoch : Nat) : (w.clear epoch).size = w.size := by
  simp only [clear]
  split
  · rfl
  · exact size_put ..

theorem bucket_clear (w : Buckets) (hn : 0 < w.size) (epoch i : Nat) :
    (w.clear epoch).bucket i
      = if i % w.size = epoch % w.size then cleared epoch (w.bucket i) else w.bucket i := by
  simp only [clear]
  by_cases same : i % w.size = epoch % w.size
  · rw [if_pos same, cleared, bucket_congr w same]
    split
    · exact bucket_congr w same
    · rw [bucket_put w hn, if_pos same]
      rfl
  · rw [if_neg same]
    split
    · rfl
    · rw [bucket_put w hn, if_neg same]

theorem balanced_clear (w : Buckets) (hn : 0 < w.size) (balanced : w.Balanced) (epoch : Nat) :
    (w.clear epoch).Balanced := by
  simp only [clear]
  split
  · exact balanced
  · have := balanced_put w hn balanced epoch ⟨epoch, 0⟩
    rwa [add_zero] at this

@[simp] theorem size_foldl_clear (w : Buckets) (epochs : List Nat) :
    (epochs.foldl clear w).size = w.size := by
  induction epochs generalizing w with
  | nil => rfl
  | cons epoch epochs ih => rw [List.foldl_cons, ih, size_clear]

theorem balanced_foldl_clear (epochs : List Nat) {w : Buckets} (hn : 0 < w.size)
    (balanced : w.Balanced) : (epochs.foldl clear w).Balanced := by
  induction epochs generalizing w with
  | nil => exact balanced
  | cons epoch epochs ih => exact ih (by rwa [size_clear]) (balanced_clear w hn balanced epoch)

/-- Clearing the buckets of other places leaves a bucket as it was. -/
theorem bucket_foldl_clear_of_ne (epochs : List Nat) {w : Buckets} (hn : 0 < w.size) {i : Nat}
    (other : ∀ epoch ∈ epochs, i % w.size ≠ epoch % w.size) :
    (epochs.foldl clear w).bucket i = w.bucket i := by
  induction epochs generalizing w with
  | nil => rfl
  | cons epoch epochs ih =>
    have rest : ∀ later ∈ epochs, i % (w.clear epoch).size ≠ later % (w.clear epoch).size := by
      intro later h
      rw [size_clear]
      exact other later (List.mem_cons_of_mem _ h)
    rw [List.foldl_cons, ih (by rwa [size_clear]) rest, bucket_clear w hn,
      if_neg (other epoch List.mem_cons_self)]

/-- Clearing the buckets of different places clears each of them once. -/
theorem bucket_foldl_clear (epochs : List Nat) {w : Buckets} (hn : 0 < w.size)
    (apart : epochs.Pairwise fun i j => i % w.size ≠ j % w.size) {epoch : Nat}
    (h : epoch ∈ epochs) : (epochs.foldl clear w).bucket epoch = cleared epoch (w.bucket epoch) := by
  induction epochs generalizing w with
  | nil => exact absurd h List.not_mem_nil
  | cons first epochs ih =>
    obtain ⟨fromFirst, rest⟩ := List.pairwise_cons.mp apart
    rw [List.foldl_cons]
    rcases List.mem_cons.mp h with rfl | later
    · have others : ∀ j ∈ epochs, epoch % (w.clear epoch).size ≠ j % (w.clear epoch).size := by
        intro j hj
        rw [size_clear]
        exact fromFirst j hj
      rw [bucket_foldl_clear_of_ne epochs (by rwa [size_clear]) others, bucket_clear w hn,
        if_pos rfl]
    · rw [ih (by rwa [size_clear]) (by rwa [size_clear]) later, bucket_clear w hn,
        if_neg (Ne.symm (fromFirst epoch later))]

/-! ### The epochs that are passed over -/

theorem mem_passed_iff {n old head epoch : Nat} (hn : 0 < n) :
    epoch ∈ passed n old head ↔ old < epoch ∧ epoch ≤ head ∧ head < epoch + n := by
  simp only [passed, List.mem_range'_1]
  omega

/-- The epochs passed over have different places in the lap. -/
theorem passed_apart (n old head : Nat) (hn : 0 < n) :
    (passed n old head).Pairwise fun i j => i % n ≠ j % n := by
  refine List.Pairwise.imp_of_mem (fun {i j} hi hj lt => ?_) List.pairwise_lt_range'
  have hi := (mem_passed_iff hn).mp hi
  have hj := (mem_passed_iff hn).mp hj
  exact mod_ne_of_lt_lap lt (by omega)

/-! ### What the window took -/

theorem ofEpoch_append (recs recs' : List (Nat × Outcome)) (epoch : Nat) :
    ofEpoch (recs ++ recs') epoch = ofEpoch recs epoch ++ ofEpoch recs' epoch := by
  rw [ofEpoch, List.filter_append, List.map_append, ofEpoch, ofEpoch]

theorem ofEpoch_eq_nil {recs : List (Nat × Outcome)} {epoch : Nat}
    (h : ∀ r ∈ recs, r.1 ≠ epoch) : ofEpoch recs epoch = [] := by
  rw [ofEpoch, List.map_eq_nil_iff, List.filter_eq_nil_iff]
  intro r hr
  rw [beq_iff_eq]
  exact h r hr

/-- The epochs of a lap together hold the outcomes of the lap. -/
theorem sum_ofEpoch (recs : List (Nat × Outcome)) {n head : Nat} (lap : n ≤ head)
    (newest : ∀ r ∈ recs, r.1 ≤ head) :
    ∑ epoch ∈ Finset.Ico (head + 1 - n) (head + 1 - n + n), Tally.ofAll (ofEpoch recs epoch)
      = Tally.ofAll (ofLap n head recs) := by
  induction recs with
  | nil => exact Finset.sum_const_zero
  | cons r recs ih =>
    have one (epoch : Nat) : Tally.ofAll (ofEpoch (r :: recs) epoch)
        = (if r.1 = epoch then Tally.of r.2 else 0) + Tally.ofAll (ofEpoch recs epoch) := by
      rw [← List.singleton_append, ofEpoch_append, Tally.ofAll_append]
      congr 1
      by_cases h : r.1 = epoch <;> simp [ofEpoch, h]
    have := newest r List.mem_cons_self
    rw [Finset.sum_congr rfl fun epoch _ => one epoch, Finset.sum_add_distrib, Finset.sum_ite_eq,
      ih fun s hs => newest s (List.mem_cons_of_mem _ hs), ofLap, ofLap, List.filter_cons]
    by_cases h : head < r.1 + n
    · rw [if_pos (Finset.mem_Ico.mpr ⟨by omega, by omega⟩), if_pos (decide_eq_true h),
        List.map_cons, Tally.ofAll_cons]
    · rw [if_neg fun inside => h (by rw [Finset.mem_Ico] at inside; omega), zero_add,
        if_neg (by rwa [decide_eq_true_iff])]

namespace Took

variable {w : Buckets} {n : Nat} {recs : List (Nat × Outcome)}

/-- The totals are those of the outcomes of the last lap. -/
theorem totals_eq (t : Took w n recs) : w.totals = Tally.ofAll (ofLap n w.head recs) := by
  have periodic (i : Nat) : (w.bucket (i % n)).held = (w.bucket i).held := by
    rw [← t.size, bucket_mod]
  have lap := t.lap
  rw [← sum_ofEpoch recs t.lap t.newest, t.balanced, t.size,
    sum_places_eq_sum_lap (fun i => (w.bucket i).held) periodic (w.head + 1 - n)]
  refine Finset.sum_congr rfl fun epoch h => ?_
  rw [Finset.mem_Ico] at h
  rw [t.bucket epoch (by omega) (by omega)]

/-- No bucket is ahead of the head. -/
theorem epoch_le_head (t : Took w n recs) (hn : 0 < n) (i : Nat) : (w.bucket i).epoch ≤ w.head := by
  obtain ⟨epoch, le, lt, same⟩ := exists_mod_eq_of_lap hn t.lap i
  rw [bucket_congr w (by rw [t.size, same]), t.bucket epoch le lt]
  exact le

/-- **Moving the head** lets go of what is older than a lap and keeps the rest. -/
theorem moveTo (t : Took w n recs) (hn : 0 < n) (epoch : Nat) : Took (w.moveTo epoch) n recs where
  size := (size_foldl_clear ..).trans t.size
  lap := t.lap.trans (Nat.le_max_left ..)
  newest := fun r hr => (t.newest r hr).trans (Nat.le_max_left ..)
  bucket := by
    intro i le lt
    have hw : 0 < w.size := by rwa [t.size]
    show ((passed w.size w.head epoch).foldl clear w).bucket i = _
    simp only [Buckets.moveTo] at le lt
    have mem {e : Nat} : e ∈ passed w.size w.head epoch ↔ _ := mem_passed_iff hw
    rw [t.size] at mem
    by_cases new : w.head < i
    · -- the bucket was passed over, and nothing was recorded in its new epoch
      have none : ofEpoch recs i = [] :=
        ofEpoch_eq_nil fun r hr => by have := t.newest r hr; omega
      have older := t.epoch_le_head hn i
      rw [bucket_foldl_clear _ hw (passed_apart _ _ _ hw) (by rw [t.size]; exact mem.mpr (by omega)),
        none, cleared, if_neg (by omega)]
      rfl
    · -- it was not, since the places of the newer epochs are others
      rw [bucket_foldl_clear_of_ne _ hw, t.bucket i (by omega) (by omega)]
      intro e he
      have := mem.mp (by rwa [t.size] at he)
      rw [t.size]
      exact mod_ne_of_lt_lap (by omega) (by omega)
  balanced := balanced_foldl_clear _ (by rw [t.size]; exact hn) t.balanced

theorem recordAtHead (t : Took w n recs) (hn : 0 < n) (o : Outcome) :
    Took (w.recordAtHead o) n (recs ++ [(w.head, o)]) where
  size := (size_put ..).trans t.size
  lap := t.lap
  newest := by
    intro r hr
    rcases List.mem_append.mp hr with old | new
    · exact t.newest r old
    · rw [List.mem_singleton.mp new]
      exact Nat.le_refl _
  bucket := by
    intro i le lt
    have hw : 0 < w.size := by rwa [t.size]
    rw [Buckets.recordAtHead, bucket_put w hw, ofEpoch_append, Tally.ofAll_append]
    have lt : w.head < i + n := lt
    -- only the head's bucket gains the call
    rcases Nat.lt_or_eq_of_le (show i ≤ w.head from le) with older | rfl
    · have none : ofEpoch [(w.head, o)] i = [] :=
        ofEpoch_eq_nil fun r hr => by rw [List.mem_singleton.mp hr]; exact Nat.ne_of_gt older
      rw [if_neg (by rw [t.size]; exact mod_ne_of_lt_lap older lt), t.bucket i le lt, none,
        Tally.ofAll_nil, add_zero]
    · have one : ofEpoch [(w.head, o)] w.head = [o] := by simp [ofEpoch]
      rw [if_pos rfl, t.bucket w.head le lt, one, Tally.ofAll_cons, Tally.ofAll_nil, add_zero]
  balanced := by
    have := balanced_put w (by rw [t.size]; exact hn) t.balanced w.head
      ⟨(w.bucket w.head).epoch, (w.bucket w.head).held + Tally.of o⟩
    rwa [show w.totals - (w.bucket w.head).held + ((w.bucket w.head).held + Tally.of o)
      = w.totals + Tally.of o by abel] at this

/-- The head's bucket always holds the head's epoch. -/
theorem isSettled (t : Took w n recs) (hn : 0 < n) : w.isSettled = true := by
  rw [Buckets.isSettled, t.bucket w.head (Nat.le_refl _) (by omega), beq_self_eq_true]

theorem settle (t : Took w n recs) (hn : 0 < n) (now : Nat) : Took (w.settle now) n recs :=
  t.moveTo hn _

theorem record (t : Took w n recs) (hn : 0 < n) (now : Nat) (o : Outcome) :
    Took (w.record now o) n (recs ++ [((w.settle now).head, o)]) := by
  have settled := t.settle hn now
  simp only [Buckets.record, settled.isSettled hn, if_true]
  exact settled.recordAtHead hn o

end Took

theorem head_record (w : Buckets) (now : Nat) (o : Outcome) :
    (w.record now o).head = (w.settle now).head := by
  simp only [record]
  split <;> rfl

/-- The bucket of a place in an empty window holds the epoch of the lap that belongs there. -/
theorem epochOfBucket_mod {n head epoch : Nat} (le : epoch ≤ head) (lt : head < epoch + n) :
    epochOfBucket n head (epoch % n) = epoch := by
  have parts := Nat.div_add_mod epoch n
  have rest := Nat.mod_lt epoch (show 0 < n by omega)
  have age : (head + n - epoch % n) % n = head - epoch := by
    rw [show head + n - epoch % n = (head - epoch) + n * (epoch / n + 1) by
      rw [Nat.mul_add, Nat.mul_one]; omega, Nat.add_mul_mod_self_left, Nat.mod_eq_of_lt (by omega)]
  rw [epochOfBucket, age]
  omega

theorem bucket_empty {n : Nat} (hn : 0 < n) (now i : Nat) :
    (empty n now).bucket i = ⟨epochOfBucket n (epochOf n now) (i % n), 0⟩ := by
  have size : (empty n now).size = n := Array.size_ofFn
  rw [bucket, size, empty, Array.getD_eq_getD_getElem?,
    Array.getElem?_ofFn, dif_pos (Nat.mod_lt _ hn), Option.getD_some]
  rfl

theorem took_empty {n : Nat} (hn : 0 < n) (now : Nat) : Took (empty n now) n [] where
  size := Array.size_ofFn
  lap := Nat.le_add_left ..
  newest := fun _ h => absurd h List.not_mem_nil
  bucket := by
    intro epoch le lt
    have place : epochOfBucket n (epochOf n now) (epoch % n) = epoch := epochOfBucket_mod le lt
    rw [bucket_empty hn, place]
    rfl
  balanced := by
    refine (Finset.sum_eq_zero fun i _ => ?_).symm
    rw [bucket_empty hn]

/-! ### The history of a window -/

/-- What a plain record of the uses of a window says: the newest second that was read, and the
outcomes, each with the newest second at its time. -/
structure History where
  newest : Nat
  recorded : List (Nat × Outcome)

namespace History

/-- The history of a window made at a clock reading. -/
def start (now : Nat) : History := ⟨now / nanosPerSecond, []⟩

/-- Adds a use to the history. -/
def use (h : History) : Use → History
  | .record now o =>
    let newest := max h.newest (now / nanosPerSecond)
    ⟨newest, h.recorded ++ [(newest, o)]⟩
  | .snapshot now => { h with newest := max h.newest (now / nanosPerSecond) }

/-- The outcomes of the last `n` seconds. -/
def lastSeconds (h : History) (n : Nat) : List Outcome :=
  (h.recorded.filter (h.newest < ·.1 + n)).map (·.2)

/-- The outcomes, each in its epoch for a window of `n` seconds. -/
def inEpochs (h : History) (n : Nat) : List (Nat × Outcome) :=
  h.recorded.map fun r => (r.1 + n, r.2)

theorem ofLap_inEpochs (h : History) (n : Nat) :
    ofLap n (h.newest + n) (h.inEpochs n) = h.lastSeconds n := by
  have shifted : (fun r : Nat × Outcome => decide (h.newest + n < r.1 + n)) ∘
      (fun r : Nat × Outcome => (r.1 + n, r.2)) = fun r => decide (h.newest < r.1 + n) := by
    funext r
    simp only [Function.comp_apply, decide_eq_decide]
    omega
  rw [ofLap, inEpochs, List.filter_map, shifted, List.map_map, lastSeconds]
  rfl

theorem length_recorded_foldl (uses : List Use) (h : History) :
    (uses.foldl use h).recorded.length = h.recorded.length + (Use.outcomes uses).length := by
  induction uses generalizing h with
  | nil => rfl
  | cons u uses ih =>
    rw [List.foldl_cons, ih]
    cases u with
    | record now o =>
      have one : Use.outcomes (.record now o :: uses) = o :: Use.outcomes uses := rfl
      simp only [use, one, List.length_append, List.length_cons, List.length_nil]
      omega
    | snapshot now => rfl

/-- No more outcomes are left than were recorded. -/
theorem length_lastSeconds_le (h : History) (n : Nat) :
    (h.lastSeconds n).length ≤ h.recorded.length := by
  rw [lastSeconds, List.length_map]
  exact List.length_filter_le ..

end History

/-- The window took what its history tells, and its head is the newest second. -/
structure Follows (w : Buckets) (n : Nat) (h : History) : Prop where
  took : Took w n (h.inEpochs n)
  head : w.head = h.newest + n

namespace Follows

variable {w : Buckets} {n : Nat} {h : History}

theorem start {n : Nat} (hn : 0 < n) (now : Nat) : Follows (empty n now) n (History.start now) :=
  ⟨took_empty hn now, rfl⟩

theorem head_settle (f : Follows w n h) (now : Nat) :
    (w.settle now).head = max h.newest (now / nanosPerSecond) + n := by
  show max w.head (epochOf w.size now) = _
  rw [f.head, f.took.size, epochOf]
  omega

theorem snapshot (f : Follows w n h) (hn : 0 < n) (now : Nat) :
    Follows (w.settle now) n (h.use (.snapshot now)) :=
  ⟨f.took.settle hn now, f.head_settle now⟩

theorem record (f : Follows w n h) (hn : 0 < n) (now : Nat) (o : Outcome) :
    Follows (w.record now o) n (h.use (.record now o)) where
  took := by
    have took := f.took.record hn now o
    rw [f.head_settle] at took
    rwa [History.inEpochs, History.use, List.map_append]
  head := by rw [head_record, f.head_settle]; rfl

theorem totals_eq (f : Follows w n h) : w.totals = Tally.ofAll (h.lastSeconds n) := by
  rw [f.took.totals_eq, f.head, History.ofLap_inEpochs]

end Follows

end Buckets

/-- A window over seconds in use follows the history of its uses. -/
theorem Window.foldl_use_seconds {n : Nat} (hn : 0 < n) (uses : List Use) :
    ∀ {b : Buckets} {h : Buckets.History}, b.Follows n h →
      ∃ after : Buckets, uses.foldl use (.seconds b) = .seconds after ∧
        after.Follows n (uses.foldl Buckets.History.use h) := by
  induction uses with
  | nil => exact fun {b h} f => ⟨b, rfl, f⟩
  | cons u uses ih =>
    intro b h f
    cases u with
    | record now o => exact ih (f.record hn now o)
    | snapshot now => exact ih (f.snapshot hn now)

/-- **The last seconds**: whatever was recorded and asked of a window over `n` seconds, at whatever
readings, also earlier ones, it shows the aggregate of the outcomes of the last `n` seconds.  The
newest second read so far is the present, and an outcome belongs to the newest second of its time. -/
theorem Window.totals_lastSeconds {n : Nat} (hn : 0 < n) (start : Nat) (uses : List Use)
    (few : (Use.outcomes uses).length < 2 ^ 63) :
    (uses.foldl use (ofKind .time n start)).totals
      = Snapshot.ofOutcomes
          ((uses.foldl Buckets.History.use (Buckets.History.start start)).lastSeconds n) := by
  obtain ⟨b, run, follows⟩ := foldl_use_seconds hn uses (Buckets.Follows.start hn start)
  have fewer : ((uses.foldl Buckets.History.use (Buckets.History.start start)).lastSeconds n).length
      < 2 ^ 63 := by
    refine Nat.lt_of_le_of_lt (Buckets.History.length_lastSeconds_le _ n) ?_
    rw [Buckets.History.length_recorded_foldl]
    simpa [Buckets.History.start] using few
  rw [show ofKind .time n start = .seconds (Buckets.empty n start) from rfl, run]
  show Snapshot.ofTally b.totals = _
  rw [follows.totals_eq, Snapshot.ofTally_ofAll fewer]

/-- Two seconds are kept.  A reading that goes back counts as the newest second, and what is two
seconds old is gone, here across a gap of more than a lap. -/
theorem Window.totals_lastSeconds_backwards :
    (0 < 2 ∧ (Use.outcomes [.record 5000000000 ⟨true, false, .zero⟩,
        .record 3000000000 ⟨false, true, .zero⟩, .snapshot 6000000000,
        .record 20000000000 ⟨true, true, .zero⟩, .snapshot 1000000000]).length < 2 ^ 63) ∧
      ([Use.record 5000000000 ⟨true, false, .zero⟩,
        .record 3000000000 ⟨false, true, .zero⟩, .snapshot 6000000000,
        .record 20000000000 ⟨true, true, .zero⟩, .snapshot 1000000000].foldl use
          (ofKind .time 2 4000000000)).totals
        = Snapshot.ofOutcomes [⟨true, true, .zero⟩] :=
  ⟨by decide, totals_lastSeconds (by decide) 4000000000 _ (by decide)⟩

end Breaker

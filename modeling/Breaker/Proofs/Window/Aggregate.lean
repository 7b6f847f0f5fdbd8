import Mathlib
import Breaker.Window

/-!
# Aggregate — what a window should show of some calls

`Snapshot.ofOutcomes` is the aggregate of a list of outcomes, said without lanes: so many calls, so
many of each kind, and the sum of their durations as a signed 64-bit word, where a negative word
reads as nothing.  The sum is exact as long as it fits the word (`ofOutcomes_duration_of_le`).
A window is put to use by recording and by asking for a snapshot (`Use`), each at a clock reading.

A window never sums its calls anew.  It adds and subtracts tallies, which is sound because tallies
are a commutative group: however the totals were arrived at, they are `Tally.ofAll` of what is held.
Fewer than `2 ^ 63` calls are read back from their lanes exactly (`ofTally_ofAll`).
-/

namespace Breaker

attribute [ext] Tally

/-! ### Tallies as a group -/

namespace Tally

instance : Zero Tally := ⟨zero⟩

instance : Neg Tally := ⟨fun a => ⟨-a.calls, -a.failed, -a.slow, -a.slowFailed, -a.nanos⟩⟩

@[simp] theorem calls_add (a b : Tally) : (a + b).calls = a.calls + b.calls := rfl
@[simp] theorem failed_add (a b : Tally) : (a + b).failed = a.failed + b.failed := rfl
@[simp] theorem slow_add (a b : Tally) : (a + b).slow = a.slow + b.slow := rfl
@[simp] theorem slowFailed_add (a b : Tally) : (a + b).slowFailed = a.slowFailed + b.slowFailed := rfl
@[simp] theorem nanos_add (a b : Tally) : (a + b).nanos = a.nanos + b.nanos := rfl

/-- A law that holds of every lane holds of tallies. -/
theorem add_lanes {a b c : Tally} (calls : a.calls + b.calls = c.calls)
    (failed : a.failed + b.failed = c.failed) (slow : a.slow + b.slow = c.slow)
    (slowFailed : a.slowFailed + b.slowFailed = c.slowFailed)
    (nanos : a.nanos + b.nanos = c.nanos) : a + b = c :=
  Tally.ext calls failed slow slowFailed nanos

instance : AddCommGroup Tally where
  add_assoc a b c := add_lanes (Int64.add_assoc ..) (Int64.add_assoc ..) (Int64.add_assoc ..)
    (Int64.add_assoc ..) (Int64.add_assoc ..)
  zero_add a := add_lanes (Int64.zero_add _) (Int64.zero_add _) (Int64.zero_add _)
    (Int64.zero_add _) (Int64.zero_add _)
  add_zero a := add_lanes (Int64.add_zero _) (Int64.add_zero _) (Int64.add_zero _)
    (Int64.add_zero _) (Int64.add_zero _)
  add_comm a b := add_lanes (Int64.add_comm ..) (Int64.add_comm ..) (Int64.add_comm ..)
    (Int64.add_comm ..) (Int64.add_comm ..)
  neg_add_cancel a := add_lanes (Int64.add_left_neg _) (Int64.add_left_neg _)
    (Int64.add_left_neg _) (Int64.add_left_neg _) (Int64.add_left_neg _)
  sub_eq_add_neg a b := Tally.ext (Int64.sub_eq_add_neg ..) (Int64.sub_eq_add_neg ..)
    (Int64.sub_eq_add_neg ..) (Int64.sub_eq_add_neg ..) (Int64.sub_eq_add_neg ..)
  nsmul := nsmulRec
  zsmul := zsmulRec

theorem zero_eq : zero = 0 := rfl

/-- What some outcomes add to a window together. -/
def ofAll (os : List Outcome) : Tally := (os.map of).sum

@[simp] theorem ofAll_nil : ofAll [] = 0 := rfl

@[simp] theorem ofAll_cons (o : Outcome) (os : List Outcome) : ofAll (o :: os) = of o + ofAll os := by
  simp [ofAll]

@[simp] theorem ofAll_append (os os' : List Outcome) : ofAll (os ++ os') = ofAll os + ofAll os' := by
  simp [ofAll]

end Tally

/-! ### The aggregate of some calls -/

/-- The nanoseconds that a window keeps of a call: no more than a lane can hold. -/
def Outcome.heldNanos (o : Outcome) : Nat := min o.duration.nanos Tally.laneMax

namespace Snapshot

/-- The aggregate of some calls. -/
def ofOutcomes (os : List Outcome) : Snapshot where
  total := os.length
  failed := os.countP (·.failed)
  slow := os.countP (·.slow)
  slowFailed := os.countP fun o => o.failed && o.slow
  duration := Duration.ofNanos (((os.map Outcome.heldNanos).sum : Int).bmod (2 ^ 64)).toNat

/-- Durations whose sum fits a lane are summed exactly. -/
theorem ofOutcomes_duration_of_le {os : List Outcome}
    (h : (os.map Outcome.heldNanos).sum ≤ Tally.laneMax) :
    (ofOutcomes os).duration.nanos = (os.map Outcome.heldNanos).sum := by
  have fits : (((os.map Outcome.heldNanos).sum : Int)).bmod (2 ^ 64)
      = ((os.map Outcome.heldNanos).sum : Int) := by
    rw [Tally.laneMax] at h
    apply Int.bmod_eq_of_le
    · omega
    · omega
  have short : (os.map Outcome.heldNanos).sum ≤ longestNanos :=
    h.trans (by decide)
  rw [ofOutcomes, fits, Int.toNat_natCast]
  exact Nat.min_eq_left short

end Snapshot

/-! ### Windows in use -/

/-- What is done with a window, at a clock reading; either way its totals are answered. -/
inductive Use where
  | record (now : Nat) (o : Outcome)
  | snapshot (now : Nat)

/-- The outcome that a use records. -/
def Use.outcome? : Use → Option Outcome
  | .record _ o => some o
  | .snapshot _ => none

/-- The outcomes that some uses record, in order. -/
def Use.outcomes (uses : List Use) : List Outcome := uses.filterMap outcome?

/-- The window after a use; `Window.totals` of it is the answer. -/
def Window.use (w : Window) : Use → Window
  | .record now o => w.record now o
  | .snapshot now => w.settle now

/-! ### Places in a lap -/

/-- Two numbers less than a lap apart have different places in it. -/
theorem mod_ne_of_lt_lap {n i j : Nat} (h : i < j) (lap : j < i + n) : i % n ≠ j % n := by
  intro same
  have divides : n ∣ j - i := (Nat.modEq_iff_dvd' h.le).mp same
  have := Nat.le_of_dvd (by omega) divides
  omega

/-- Every place is taken by a number of the lap that ends at `last`. -/
theorem exists_mod_eq_of_lap {n last : Nat} (hn : 0 < n) (lap : n ≤ last) (place : Nat) :
    ∃ i, i ≤ last ∧ last < i + n ∧ i % n = place % n := by
  have taken : place % n ∈ (Finset.Ico (last + 1 - n) (last + 1 - n + n)).image (· % n) := by
    rw [Nat.image_Ico_mod, Finset.mem_range]
    exact Nat.mod_lt _ hn
  obtain ⟨i, hi, same⟩ := Finset.mem_image.mp taken
  rw [Finset.mem_Ico] at hi
  exact ⟨i, by omega, by omega, same⟩

/-- A sum over the places is a sum over a lap. -/
theorem sum_places_eq_sum_lap {M : Type} [AddCommMonoid M] (f : Nat → M) {n : Nat}
    (periodic : ∀ i, f (i % n) = f i) (first : Nat) :
    ∑ i ∈ Finset.range n, f i = ∑ i ∈ Finset.Ico first (first + n), f i := by
  rw [← Nat.image_Ico_mod first n, Finset.sum_image (Nat.mod_injOn_Ico first n)]
  exact Finset.sum_congr rfl fun i _ => periodic i

/-! ### Lanes read back -/

namespace Tally

theorem lane_eq_ofNat (b : Bool) : lane b = Int64.ofNat b.toNat := by cases b <;> rfl

theorem calls_ofAll (os : List Outcome) : (ofAll os).calls = Int64.ofNat os.length := by
  induction os with
  | nil => rfl
  | cons o os ih =>
    rw [ofAll_cons, calls_add, ih, of_eq, List.length_cons, Nat.add_comm, Int64.ofNat_add]
    rfl

/-- A lane that counts the outcomes of a kind holds their number. -/
theorem countLane_ofAll (f : Tally → Int64) (p : Outcome → Bool) (zero : f 0 = 0)
    (add : ∀ a b, f (a + b) = f a + f b) (one : ∀ o, f (of o) = lane (p o)) (os : List Outcome) :
    f (ofAll os) = Int64.ofNat (os.countP p) := by
  induction os with
  | nil => exact zero
  | cons o os ih =>
    rw [ofAll_cons, add, one, ih, lane_eq_ofNat, ← Int64.ofNat_add, List.countP_cons, Nat.add_comm]
    cases p o <;> rfl

theorem nanos_ofAll (os : List Outcome) :
    (ofAll os).nanos = Int64.ofNat (os.map Outcome.heldNanos).sum := by
  have held (o : Outcome) : min o.duration.word laneMax = o.heldNanos := by
    simp only [Duration.word, Outcome.heldNanos, laneMax, wordMax]
    omega
  induction os with
  | nil => rfl
  | cons o os ih =>
    rw [ofAll_cons, nanos_add, ih, of_eq, List.map_cons, List.sum_cons, Int64.ofNat_add, ← held]

theorem read_ofNat {n : Nat} (h : n < 2 ^ 63) : read (Int64.ofNat n) = n := by
  rw [read, Int64.toInt_ofNat_of_lt h, Int.toNat_natCast]

/-- A lane never reads as more than was put into it. -/
theorem read_ofNat_le (n : Nat) : read (Int64.ofNat n) ≤ n := by
  have word : (Int64.ofNat n).toInt = (n : Int).bmod (2 ^ 64) := Int64.toInt_ofNat' ..
  rw [read, word, Int.bmod_def]
  split
  · omega
  · omega

end Tally

/-- **Read-back**: the tally of fewer than `2 ^ 63` calls reads as their aggregate. -/
theorem Snapshot.ofTally_ofAll {os : List Outcome} (h : os.length < 2 ^ 63) :
    Snapshot.ofTally (Tally.ofAll os) = Snapshot.ofOutcomes os := by
  have count (p : Outcome → Bool) : os.countP p ≤ os.length := List.countP_le_length
  have both_failed : (os.countP fun o => o.failed && o.slow) ≤ os.countP (·.failed) :=
    List.countP_mono_left fun o _ h => (Bool.and_eq_true_iff.mp h).1
  have both_slow : (os.countP fun o => o.failed && o.slow) ≤ os.countP (·.slow) :=
    List.countP_mono_left fun o _ h => (Bool.and_eq_true_iff.mp h).2
  have lanes (p : Outcome → Bool) : Tally.read (Int64.ofNat (os.countP p)) = os.countP p :=
    Tally.read_ofNat (Nat.lt_of_le_of_lt (count p) h)
  have nanos : Tally.read (Int64.ofNat (os.map Outcome.heldNanos).sum)
      = (((os.map Outcome.heldNanos).sum : Int).bmod (2 ^ 64)).toNat := by
    rw [Tally.read, Int64.toInt_ofNat']
    rfl
  simp only [Snapshot.ofTally, Snapshot.ofOutcomes, Tally.calls_ofAll, Tally.nanos_ofAll,
    Tally.countLane_ofAll Tally.failed (·.failed) rfl (fun _ _ => rfl)
      (fun o => congrArg Tally.failed (Tally.of_eq o)),
    Tally.countLane_ofAll Tally.slow (·.slow) rfl (fun _ _ => rfl)
      (fun o => congrArg Tally.slow (Tally.of_eq o)),
    Tally.countLane_ofAll Tally.slowFailed (fun o => o.failed && o.slow) rfl (fun _ _ => rfl)
      (fun o => congrArg Tally.slowFailed (Tally.of_eq o)),
    Tally.read_ofNat h, lanes, nanos, Nat.min_eq_left (count _), Nat.min_eq_left both_failed,
    Nat.min_eq_left both_slow]

end Breaker

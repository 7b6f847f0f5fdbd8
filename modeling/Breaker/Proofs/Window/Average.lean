import Breaker.Proofs.Window.Aggregate

/-!
# Average — the mean length of a call

The mean length of the calls of a snapshot is their duration divided by their number, rounded down to a
nanosecond.  The duration of fewer than `2 ^ 32` calls is shared as it is, in whole seconds and nanoseconds
(`Duration.share_eq_apart`).  The duration of more calls is first cut to a word.  The average is still the
mean exactly if the mean of the duration is no greater than that of the longest word (`Snapshot.KeepsMean`);
else it is the mean of the longest word, however long the duration is.

No window shows the cut (`Window.nanos_average_totals`), since a lane holds less than a word.
-/

namespace Breaker

/-- A dividend that is cut gives the quotient of the whole exactly if the whole is below the first multiple
of the divisor after the cut. -/
theorem min_div_eq_iff {a cut n : Nat} (pos : 0 < n) :
    min a cut / n = a / n ↔ a < (cut / n + 1) * n := by
  have quotients : min a cut / n = min (a / n) (cut / n) :=
    Monotone.map_min fun _ _ le => Nat.div_le_div_right le
  rw [quotients, min_eq_left_iff, ← Nat.lt_succ_iff, Nat.div_lt_iff_lt_mul pos]

namespace Duration

/-- An equal share of a span among `n` as whole seconds and nanoseconds: what is left of the seconds is
shared with what is left of the nanoseconds. -/
def shareApart (d : Duration) (n : Nat) : Nat × Nat :=
  let left := d.seconds % n * nanosPerSecond + d.subsecond % n
  (d.seconds / n, d.subsecond / n + left / n)

/-- **Seconds and nanoseconds shared apart** are the share of the span. -/
theorem share_eq_apart (d : Duration) {n : Nat} (pos : 0 < n) :
    ((d.share n).seconds, (d.share n).subsecond) = d.shareApart n := by
  have second : 0 < nanosPerSecond := by decide
  have whole : d.seconds * nanosPerSecond + d.subsecond = d.nanos := Nat.div_add_mod' ..
  have short : d.subsecond < nanosPerSecond := Nat.mod_lt _ second
  have rest : d.subsecond / n + (d.seconds % n * nanosPerSecond + d.subsecond % n) / n
      = (d.seconds % n * nanosPerSecond + d.subsecond) / n := by
    conv_rhs => rw [← Nat.div_add_mod d.subsecond n, Nat.add_left_comm, Nat.mul_add_div pos]
  -- what is left of the seconds is less than `n` of them, so its share is less than a second
  have carried : (d.seconds % n * nanosPerSecond + d.subsecond) / n < nanosPerSecond := by
    rw [Nat.div_lt_iff_lt_mul pos, Nat.mul_comm nanosPerSecond]
    calc d.seconds % n * nanosPerSecond + d.subsecond
        < (d.seconds % n + 1) * nanosPerSecond := by rw [Nat.add_mul]; omega
      _ ≤ n * nanosPerSecond := Nat.mul_le_mul_right _ (Nat.mod_lt _ pos)
  have shared : (d.seconds % n * nanosPerSecond + d.subsecond) / n + nanosPerSecond * (d.seconds / n)
      = d.nanos / n := by
    rw [← whole]
    conv_rhs => rw [← Nat.div_add_mod d.seconds n]
    rw [Nat.add_mul, Nat.mul_assoc, Nat.add_assoc, Nat.mul_add_div pos, Nat.add_comm,
      Nat.mul_comm nanosPerSecond]
  obtain ⟨seconds, subsecond⟩ := (Nat.div_mod_unique second).mpr ⟨shared, carried⟩
  rw [shareApart, rest]
  exact Prod.ext seconds subsecond

end Duration

namespace Snapshot

/-- The duration gives the same mean once it is cut as the average cuts it. -/
def KeepsMean (s : Snapshot) : Prop :=
  s.total < 2 ^ 32 ∨ s.duration.nanos < (wordMax / s.total + 1) * s.total

theorem average_of_few {s : Snapshot} (called : 0 < s.total) (few : s.total < 2 ^ 32) :
    s.average = s.duration.share s.total := by
  rw [average, if_neg called.ne']
  exact if_pos few

theorem nanos_average_of_many {s : Snapshot} (many : ¬s.total < 2 ^ 32) :
    s.average.nanos = s.duration.word / s.total := by
  have called : s.total ≠ 0 := by omega
  rw [average, if_neg called, if_neg (show ¬s.total < Nat.pow 2 32 from many)]
  exact congrArg (· / s.total) s.duration.nanos_ofNanos_word

theorem nanos_average_eq_iff {s : Snapshot} (called : 0 < s.total) :
    s.average.nanos = s.duration.nanos / s.total ↔ s.KeepsMean := by
  by_cases few : s.total < 2 ^ 32
  · rw [average_of_few called few]
    exact iff_of_true rfl (.inl few)
  · rw [nanos_average_of_many few, Duration.word, min_div_eq_iff called, KeepsMean, or_iff_right few]

/-- What is read off a tally is less than a word. -/
theorem keepsMean_ofTally {t : Tally} (called : 0 < (ofTally t).total) : (ofTally t).KeepsMean := by
  have lane : (ofTally t).duration.nanos ≤ wordMax := by
    have := t.nanos.toInt_lt
    refine (Nat.min_le_left ..).trans ?_
    simp only [Tally.read, wordMax]
    omega
  exact .inr (lane.trans_lt (Nat.lt_mul_of_div_lt (Nat.lt_succ_self _) called))

/-- **When the average is the mean.**  The average never exceeds the mean, and is the mean rounded down to a
nanosecond exactly if the duration keeps its mean when it is cut, as that of fewer than `2 ^ 32` calls does,
whose average is computed in seconds and nanoseconds.  Else the average is that of the longest word. -/
theorem average_eq_mean_iff (s : Snapshot) (called : 0 < s.total) :
    s.average.nanos * s.total ≤ s.duration.nanos ∧
    (s.average.nanos = s.duration.nanos / s.total ↔ s.KeepsMean) ∧
    (s.duration.nanos < (s.average.nanos + 1) * s.total ↔ s.KeepsMean) ∧
    (¬s.KeepsMean → s.average.nanos = wordMax / s.total) ∧
    (s.total < 2 ^ 32 →
      (s.average.seconds, s.average.subsecond) = s.duration.shareApart s.total) := by
  have least : s.average.nanos ≤ s.duration.nanos / s.total := by
    by_cases few : s.total < 2 ^ 32
    · rw [average_of_few called few]
      exact Nat.le_refl _
    · rw [nanos_average_of_many few]
      exact Nat.div_le_div_right (Nat.min_le_left ..)
  refine ⟨(Nat.le_div_iff_mul_le called).mp least, nanos_average_eq_iff called, ?_, fun cut => ?_,
    fun few => ?_⟩
  · rw [← nanos_average_eq_iff called, ← Nat.div_lt_iff_lt_mul called, Nat.lt_succ_iff]
    exact ⟨fun most => Nat.le_antisymm least most, fun mean => mean.ge⟩
  · have many : ¬s.total < 2 ^ 32 := fun few => cut (.inl few)
    have beyond : wordMax / s.total < s.duration.nanos / s.total := by
      have := Nat.le_of_not_lt fun within => cut (.inr within)
      rwa [← Nat.le_div_iff_mul_le called] at this
    have long : wordMax ≤ s.duration.nanos := (Nat.lt_of_div_lt_div beyond).le
    rw [nanos_average_of_many many, Duration.word, Nat.min_eq_right long]
  · rw [average_of_few called few]
    exact s.duration.share_eq_apart called

/-- So many calls that took a duration together, none of which failed or was slow. -/
def ofSuccesses (calls : Nat) (d : Duration) : Snapshot := ⟨calls, 0, 0, 0, d⟩

/-- On either side of `2 ^ 32` calls the average is the mean: of as long as a word, and of one call less for
as long as there are durations. -/
theorem average_eq_mean_iff_boundary :
    (0 < (ofSuccesses (2 ^ 32) (.ofNanos wordMax)).total ∧
      0 < (ofSuccesses (2 ^ 32 - 1) (.ofNanos longestNanos)).total) ∧
    (ofSuccesses (2 ^ 32) (.ofNanos wordMax)).average.nanos = wordMax / 2 ^ 32 ∧
    (ofSuccesses (2 ^ 32 - 1) (.ofNanos longestNanos)).average.nanos = longestNanos / (2 ^ 32 - 1) := by
  obtain ⟨-, many, -⟩ := average_eq_mean_iff (ofSuccesses (2 ^ 32) (.ofNanos wordMax)) (by decide)
  obtain ⟨-, few, -⟩ := average_eq_mean_iff (ofSuccesses (2 ^ 32 - 1) (.ofNanos longestNanos)) (by decide)
  exact ⟨⟨by decide, by decide⟩, many.mpr (.inr (by decide)), few.mpr (.inl (by decide))⟩

/-- **The longest duration** of `2 ^ 32` calls is cut: their average is some four seconds, and their mean more
than a hundred years, as is the average of one call less. -/
theorem average_of_longest :
    (¬∀ s : Snapshot, 0 < s.total → s.average.nanos = s.duration.nanos / s.total) ∧
    (ofSuccesses (2 ^ 32) (.ofNanos longestNanos)).average.nanos = 4294967295 ∧
    (ofSuccesses (2 ^ 32) (.ofNanos longestNanos)).duration.nanos / 2 ^ 32 = 4294967295999999999 ∧
    (ofSuccesses (2 ^ 32 - 1) (.ofNanos longestNanos)).average.nanos = 4294967297000000000 := by
  have cut : (ofSuccesses (2 ^ 32) (.ofNanos longestNanos)).average.nanos = 4294967295 := by decide
  have mean : (ofSuccesses (2 ^ 32) (.ofNanos longestNanos)).duration.nanos / 2 ^ 32
      = 4294967295999999999 := by decide
  refine ⟨fun exact => ?_, cut, mean, by decide⟩
  have same := exact (ofSuccesses (2 ^ 32) (.ofNanos longestNanos)) (by decide)
  rw [cut, show (ofSuccesses (2 ^ 32) (.ofNanos longestNanos)).total = 2 ^ 32 from rfl, mean] at same
  exact absurd same (by decide)

end Snapshot

/-- **What a window shows of the mean** is exact. -/
theorem Window.nanos_average_totals (w : Window) (called : 0 < w.totals.total) :
    w.totals.average.nanos = w.totals.duration.nanos / w.totals.total := by
  rw [Snapshot.nanos_average_eq_iff called]
  cases w with
  | calls r => exact Snapshot.keepsMean_ofTally called
  | seconds b => exact Snapshot.keepsMean_ofTally called
  | idle => exact absurd called (Nat.lt_irrefl 0)

end Breaker

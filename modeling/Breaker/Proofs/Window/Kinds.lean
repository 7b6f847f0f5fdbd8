import Breaker.Proofs.Window.LastSeconds
import Breaker.Proofs.Window.LastCalls

/-!
# Kinds — windows whose calls are all of one kind

A ring of `n` slots that took `n` failures in a row shows `n` failed calls of `n`, whatever it took before
(`Ring.Took.totals_of_failures`): the slots hold the last `n` calls and nothing else.

A window is `Window.Only` of a kind if it took no outcome of another kind, over calls or over seconds and
at whatever readings.  A window that only took clean outcomes shows neither failures nor slow calls
(`Window.Only.totals_of_clean`), also if it has let some of them go.
-/

namespace Breaker

/-- Whether a call neither failed nor was slow. -/
def Outcome.IsClean (o : Outcome) : Prop := o.failed = false ∧ o.slow = false

/-! ### Failures in a row -/

namespace Ring

/-- Enough outcomes at the end are all that is left. -/
theorem lastOf_append {n : Nat} (before : List Outcome) {os : List Outcome} (many : n ≤ os.length) :
    lastOf n (before ++ os) = lastOf n os := by
  rw [lastOf, lastOf, List.length_append, List.drop_append]
  have none : before.drop (before.length + os.length - n) = [] := List.drop_eq_nil_of_le (by omega)
  rw [none, List.nil_append]
  congr 1
  omega

/-- **Failures in a row** fill the window: it shows as many calls as it has slots, and all failed. -/
theorem Took.totals_of_failures {r : Ring} {n : Nat} {before os : List Outcome}
    (took : r.Took n (before ++ os)) (failures : ∀ o ∈ os, o.failed = true) (many : n ≤ os.length)
    (fits : n < 2 ^ 63) :
    (Snapshot.ofTally r.totals).total = n ∧ (Snapshot.ofTally r.totals).failed = n := by
  have length : (lastOf n os).length = n := by rw [length_lastOf, Nat.min_eq_right many]
  have last : ∀ o ∈ lastOf n os, o.failed = true := fun o mem => failures o (List.mem_of_mem_drop mem)
  have failed : (lastOf n os).countP (·.failed) = n := by rw [List.countP_eq_length.mpr last, length]
  have shown := took.ofTally_totals (Nat.lt_of_le_of_lt (Nat.min_le_right ..) fits)
  rw [lastOf_append before many] at shown
  rw [shown]
  exact ⟨length, failed⟩

end Ring

/-! ### Windows of one kind -/

namespace Window

/-- Every outcome that the window took is of a kind. -/
inductive Only (p : Outcome → Prop) : Window → Prop where
  | calls {r : Ring} {n : Nat} {os : List Outcome} (hn : 0 < n) (took : r.Took n os)
      (all : ∀ o ∈ os, p o) : Only p (.calls r)
  | seconds {b : Buckets} {n : Nat} {recs : List (Nat × Outcome)} (hn : 0 < n) (took : b.Took n recs)
      (all : ∀ rec ∈ recs, p rec.2) : Only p (.seconds b)
  | idle : Only p .idle

namespace Only

variable {p : Outcome → Prop} {w : Window}

/-- An empty window is of every kind. -/
theorem ofKind (kind : WindowKind) {size : Nat} (h : 0 < size) (now : Nat) :
    Only p (Window.ofKind kind size now) := by
  cases kind with
  | count => exact .calls h (Ring.took_empty size) fun _ mem => absurd mem List.not_mem_nil
  | time => exact .seconds h (Buckets.took_empty h now) fun _ mem => absurd mem List.not_mem_nil

theorem record (h : Only p w) (now : Nat) {o : Outcome} (kind : p o) : Only p (w.record now o) := by
  cases h with
  | calls hn took all =>
    refine .calls hn (took.record hn o) fun other mem => ?_
    obtain old | new := List.mem_append.mp mem
    · exact all other old
    · rw [List.mem_singleton.mp new]
      exact kind
  | seconds hn took all =>
    refine .seconds hn (took.record hn now o) fun rec mem => ?_
    obtain old | new := List.mem_append.mp mem
    · exact all rec old
    · rw [List.mem_singleton.mp new]
      exact kind
  | idle => exact .idle

theorem settle (h : Only p w) (now : Nat) : Only p (w.settle now) := by
  cases h with
  | calls hn took all => exact .calls hn took all
  | seconds hn took all => exact .seconds hn (took.settle hn now) all
  | idle => exact .idle

/-- Clean outcomes leave the lanes of failures and of slow calls at zero, however many they are. -/
theorem ofTally_ofAll_of_clean {os : List Outcome} (clean : ∀ o ∈ os, o.IsClean) :
    (Snapshot.ofTally (Tally.ofAll os)).failed = 0 ∧
      (Snapshot.ofTally (Tally.ofAll os)).slow = 0 := by
  have failed : os.countP (·.failed) = 0 :=
    List.countP_eq_zero.mpr fun o mem => by simp [(clean o mem).1]
  have slow : os.countP (·.slow) = 0 :=
    List.countP_eq_zero.mpr fun o mem => by simp [(clean o mem).2]
  have none : Tally.read (Int64.ofNat 0) = 0 := Tally.read_ofNat (by decide)
  simp only [Snapshot.ofTally,
    Tally.countLane_ofAll Tally.failed (·.failed) rfl (fun _ _ => rfl)
      (fun o => congrArg Tally.failed (Tally.of_eq o)),
    Tally.countLane_ofAll Tally.slow (·.slow) rfl (fun _ _ => rfl)
      (fun o => congrArg Tally.slow (Tally.of_eq o)), failed, slow, none, Nat.zero_min, and_self]

/-- **Clean calls** show as neither failed nor slow. -/
theorem totals_of_clean (h : Only Outcome.IsClean w) : w.totals.failed = 0 ∧ w.totals.slow = 0 := by
  cases h with
  | calls hn took all =>
    rw [totals, took.totals]
    exact ofTally_ofAll_of_clean fun o mem => all o (List.mem_of_mem_drop mem)
  | @seconds b n recs hn took all =>
    rw [totals, took.totals_eq]
    refine ofTally_ofAll_of_clean fun o mem => ?_
    obtain ⟨rec, kept, rfl⟩ := List.mem_map.mp mem
    exact all rec (List.mem_of_mem_filter kept)
  | idle => exact ⟨rfl, rfl⟩

end Only

end Window

end Breaker

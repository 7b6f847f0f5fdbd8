import Mathlib
import Breaker.Rate
import Breaker.Settings

/-!
# Rate — a part that is the whole, and a part of nothing

A rate is a quotient that is rounded four times on its way to a percentage.  None of these roundings
matters at the two ends.  A whole number with no more binary digits than a format keeps is a number of
that format (`Format.round_natCast`), so the whole of up to `2 ^ 32` calls is exactly one hundred percent
of them and reaches every valid threshold (`Rate.of_whole_reaches`).  Zero stays zero whatever it is
divided by, so a part without calls reaches no valid threshold (`Rate.of_zero_reaches`).
-/

namespace Breaker

/-! ### Whole numbers in a format -/

theorem twoPow_natCast (k : Nat) : twoPow k = (2 : Rat) ^ k := by
  rw [twoPow, scale, if_pos (Int.natCast_nonneg k), Int.toNat_natCast]
  exact Nat.cast_pow 2 k

theorem twoPow_neg_natCast (k : Nat) : twoPow (-k) = 1 / (2 : Rat) ^ k := by
  cases k with
  | zero => simp [twoPow, scale]
  | succ k =>
    rw [twoPow, scale, if_neg (by omega), neg_neg, Int.toNat_natCast]
    exact congrArg (1 / ·) (Nat.cast_pow 2 (k + 1))

theorem nearestEven_natCast (n : Nat) : nearestEven (n : Rat) = n := by
  have below : (n : Rat).floor.toNat = n := by
    rw [← Int.cast_natCast, Rat.floor_intCast, Int.toNat_natCast]
  rw [nearestEven]
  simp only [below, sub_self]
  exact if_pos (by norm_num)

/-- The leading digit of a whole number stands at its binary logarithm. -/
theorem leadingPlace_natCast {n : Nat} (positive : n ≠ 0) : leadingPlace (n : Rat) = n.log2 := by
  have reached : twoPow n.log2 ≤ (n : Rat) := by
    rw [twoPow_natCast]
    exact_mod_cast Nat.log2_self_le positive
  have one : Nat.log2 1 = 0 := by decide
  simp only [leadingPlace, Rat.num_natCast, Rat.den_natCast, Int.natAbs_natCast, one, Nat.cast_zero,
    sub_zero, if_pos reached]

namespace Format

/-- A format whose last digits stand at the places of whole numbers and of parts of them. -/
structure IsWhole (f : Format) : Prop where
  lowest : f.lowest ≤ 0
  highest : 0 ≤ f.highest

variable {f : Format} {n : Nat}

/-- The last digit of a whole number that fits a format is not rounded away. -/
theorem lastPlace_natCast (whole : f.IsWhole) (positive : n ≠ 0) (fits : n < 2 ^ f.precision) :
    ∃ k : Nat, f.lastPlace n = -k := by
  have digits : n.log2 < f.precision := (Nat.log2_lt positive).mpr fits
  have lowest := whole.lowest
  rw [lastPlace, leadingPlace_natCast positive]
  exact ⟨(-(max f.lowest ((n.log2 : Int) - (f.precision - 1 : Nat)))).toNat, by omega⟩

theorem roundMagnitude_natCast (whole : f.IsWhole) (fits : n < 2 ^ f.precision) :
    f.roundMagnitude n = n := by
  rw [roundMagnitude]
  split
  case isTrue zero => exact zero.symm
  case isFalse nonzero =>
    obtain ⟨k, place⟩ := lastPlace_natCast whole (by exact_mod_cast nonzero) fits
    have quotient : (n : Rat) / (1 / 2 ^ k) = ((n * 2 ^ k : Nat) : Rat) := by
      push_cast
      field_simp
    simp only [place, twoPow_neg_natCast, quotient, nearestEven_natCast]
    push_cast
    field_simp

/-- **A whole number that fits a format** is a number of the format. -/
theorem round_natCast (whole : f.IsWhole) (fits : n < 2 ^ f.precision) (negative : Bool) :
    f.round negative n = .finite negative n := by
  have below : (n : Rat) < f.limit := by
    obtain ⟨k, wide⟩ := Int.eq_ofNat_of_zero_le whole.highest
    rw [limit, wide, ← Int.natCast_add, twoPow_natCast]
    calc (n : Rat) < 2 ^ f.precision := by exact_mod_cast fits
      _ ≤ 2 ^ (k + f.precision) := pow_le_pow_right₀ (by norm_num) (Nat.le_add_left ..)
  rw [round]
  simp only [roundMagnitude_natCast whole fits, if_neg (not_le.mpr below)]

theorem round_zero (whole : f.IsWhole) (negative : Bool) : f.round negative 0 = .finite negative 0 := by
  have rounds : f.round negative ((0 : Nat) : Rat) = .finite negative ((0 : Nat) : Rat) :=
    round_natCast whole (Nat.two_pow_pos _) negative
  simpa using rounds

theorem isWhole_single : single.IsWhole := ⟨by decide, by decide⟩

theorem isWhole_double : double.IsWhole := ⟨by decide, by decide⟩

end Format

/-! ### Thresholds -/

namespace Settings

theorem zero_lt_of_isThreshold {x : Binary} (valid : isThreshold x = true) : Binary.zero.lt x = true :=
  (Bool.and_eq_true_iff.mp valid).1

theorem le_hundred_of_isThreshold {x : Binary} (valid : isThreshold x = true) :
    x.le (Binary.exactly 100) = true := (Bool.and_eq_true_iff.mp valid).2

/-- Both thresholds of valid settings are percentages above zero. -/
theorem thresholds_of_check {s : Settings} (h : s.check? = none) :
    isThreshold s.failureRateThreshold = true ∧ isThreshold s.slowCallRateThreshold = true := by
  unfold check? at h
  split_ifs at h with failure slow
  simp only [Bool.not_eq_true', Bool.not_eq_false] at failure slow
  exact ⟨failure, slow⟩

end Settings

namespace Binary

/-- A number above zero is not at most zero, whatever the sign of that is. -/
theorem not_le_zero_of_lt {x : Binary} (above : zero.lt x = true) (negative : Bool) :
    x.le (.finite negative 0) = false := by
  cases x with
  | nan => rfl
  | infinite sign =>
    cases sign with
    | false => rfl
    | true => cases above
  | finite sign q =>
    have positive : 0 < signed sign q := by simpa [zero, lt, signed] using above
    have none : signed negative 0 = 0 := by cases negative <;> simp [signed]
    rw [le, none]
    exact decide_eq_false (not_le.mpr positive)

end Binary

/-! ### Rates -/

namespace Rate

open Format

/-- **The whole of some calls** is exactly one hundred percent of them. -/
theorem of_whole {calls minimum : Nat} (some : calls ≠ 0) (enough : minimum ≤ calls)
    (fits : calls < 2 ^ 32) : of calls calls minimum = .percent (Binary.exactly 100) := by
  have exact (n : Nat) (small : n < 2 ^ 53) : double.round false n = .finite false n :=
    round_natCast isWhole_double small false
  have counted : double.ofNat calls = .finite false calls := exact calls (by omega)
  have multiplied : Binary.mul double (.finite false calls) (Binary.exactly 100)
      = .finite false ((calls * 100 : Nat) : Rat) := by
    rw [← exact (calls * 100) (by omega), Nat.cast_mul]
    rfl
  have divided : Binary.div double (.finite false ((calls * 100 : Nat) : Rat)) (.finite false calls)
      = .finite false ((100 : Nat) : Rat) := by
    have nonzero : (calls : Rat) ≠ 0 := by exact_mod_cast some
    rw [Binary.div, if_neg nonzero, Nat.cast_mul, mul_div_cancel_left₀ _ nonzero]
    exact exact 100 (by decide)
  have stored : single.convert (.finite false ((100 : Nat) : Rat)) = Binary.exactly 100 :=
    round_natCast isWhole_single (by decide) false
  rw [of, if_neg (by omega)]
  simp only [counted, multiplied, divided, stored]

/-- The whole of some calls reaches every valid threshold. -/
theorem of_whole_reaches {calls minimum : Nat} (some : calls ≠ 0) (enough : minimum ≤ calls)
    (fits : calls < 2 ^ 32) {threshold : Binary} (valid : Settings.isThreshold threshold = true) :
    (of calls calls minimum).reaches threshold = true := by
  rw [of_whole some enough fits]
  exact Settings.le_hundred_of_isThreshold valid

/-- **A part without calls** reaches no valid threshold, however many calls there are. -/
theorem of_zero_reaches (calls minimum : Nat) {threshold : Binary}
    (valid : Settings.isThreshold threshold = true) :
    (of 0 calls minimum).reaches threshold = false := by
  have below := Binary.not_le_zero_of_lt (Settings.zero_lt_of_isThreshold valid)
  have zero : Binary.mul double (double.ofNat 0) (Binary.exactly 100) = .finite false 0 := by
    have counted : double.ofNat 0 = .finite false 0 := by
      rw [Format.ofNat, Nat.cast_zero, round_zero isWhole_double]
    rw [counted, Binary.exactly, Binary.mul, zero_mul]
    exact round_zero isWhole_double _
  rw [of]
  split
  case isTrue => rfl
  case isFalse =>
    simp only [zero, reaches]
    -- whatever the number of calls was rounded to, the quotient is zero or no number
    cases double.ofNat calls with
    | nan => cases threshold <;> rfl
    | infinite sign =>
      rw [Binary.div, Format.convert, round_zero isWhole_single]
      exact below _
    | finite sign q =>
      rw [Binary.div]
      split
      case isTrue => cases threshold <;> rfl
      case isFalse =>
        rw [zero_div, round_zero isWhole_double, Format.convert, round_zero isWhole_single]
        exact below _

end Rate

end Breaker

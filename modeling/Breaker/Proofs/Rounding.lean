import Breaker.Proofs.Backoff

/-!
# Rounding — order is kept, and what is rounded stays

Rounding to a format keeps the order of magnitudes (`Format.roundMagnitude_mono`), and a number that
was rounded once is left as it is (`Format.roundMagnitude_self`).  So products and powers of numbers that
are at least one keep order (`Binary.Rises.mul`, `Binary.Rises.pow`): whatever a computation with the least
factor of a range is shown to reach, one with a greater factor reaches as well.
-/

namespace Breaker

/-! ### Whole numbers -/

/-- The nearest whole number is no further away than a half. -/
theorem abs_nearestEven_sub_le {q : Rat} (h : 0 ≤ q) : |(nearestEven q : Rat) - q| ≤ 1 / 2 := by
  have floor : ((q.floor.toNat : Nat) : Rat) = q.floor := by
    exact_mod_cast Int.toNat_of_nonneg (Rat.le_floor_iff.mpr (by simpa using h))
  have below : (q.floor : Rat) ≤ q := Rat.floor_le q
  have above : q - 1 < q.floor := Rat.lt_floor
  unfold nearestEven
  dsimp only
  rw [abs_le, floor]
  split_ifs
  all_goals
    push_cast [floor]
    constructor <;> linarith

theorem nearestEven_mono {q q' : Rat} (h : 0 ≤ q) (h' : q ≤ q') : nearestEven q ≤ nearestEven q' := by
  by_contra falls
  have step : (nearestEven q' : Rat) + 1 ≤ nearestEven q := by exact_mod_cast not_le.mp falls
  have near := abs_le.mp (abs_nearestEven_sub_le h)
  have near' := abs_le.mp (abs_nearestEven_sub_le (h.trans h'))
  have same : q = q' := by linarith
  exact falls (same ▸ le_refl _)

theorem nearestEven_le {n : Nat} {q : Rat} (h : 0 ≤ q) (h' : q ≤ n) : nearestEven q ≤ n :=
  (nearestEven_mono h h').trans_eq (nearestEven_natCast n)

namespace Format

variable {f : Format} {q q' : Rat}

/-! ### Places -/

theorem lastPlace_mono (positive : 0 < q) (h : q ≤ q') : f.lastPlace q ≤ f.lastPlace q' := by
  have leads : leadingPlace q ≤ leadingPlace q' :=
    le_leadingPlace ((leadingPlace_bounds positive).1.trans h)
  rw [lastPlace, lastPlace]
  omega

/-- A magnitude has no more digits than a format keeps. -/
theorem lt_zpow_lastPlace (digits : 0 < f.precision) (positive : 0 < q) :
    q < 2 ^ (f.lastPlace q + f.precision) := by
  have place : leadingPlace q + 1 ≤ f.lastPlace q + f.precision := by
    rw [lastPlace]
    omega
  exact (leadingPlace_bounds positive).2.trans_le (zpow_le_zpow_right₀ (by norm_num) place)

theorem roundMagnitude_eq (positive : 0 < q) :
    f.roundMagnitude q = nearestEven (q / 2 ^ f.lastPlace q) * 2 ^ f.lastPlace q := by
  rw [roundMagnitude, if_neg positive.ne']
  simp only [twoPow_eq_zpow]

/-- What is rounded has no more digits than a format keeps, but for a power of two. -/
theorem nearestEven_le_digits (digits : 0 < f.precision) (positive : 0 < q) :
    nearestEven (q / 2 ^ f.lastPlace q) ≤ 2 ^ f.precision := by
  have place : (0 : Rat) < 2 ^ f.lastPlace q := zpow_pos (by norm_num) _
  refine nearestEven_le (by positivity) ?_
  rw [div_le_iff₀ place, Nat.cast_pow, Nat.cast_ofNat, ← zpow_natCast, ← zpow_add₀ (by norm_num),
    add_comm]
  exact (lt_zpow_lastPlace digits positive).le

/-! ### Order -/

theorem roundMagnitude_nonneg (f : Format) (q : Rat) : 0 ≤ f.roundMagnitude q := by
  rw [roundMagnitude]
  split
  · exact le_refl _
  · simp only [twoPow_eq_zpow]
    positivity

/-- **Rounding keeps order.** -/
theorem roundMagnitude_mono (digits : 0 < f.precision) (h : 0 ≤ q) (h' : q ≤ q') :
    f.roundMagnitude q ≤ f.roundMagnitude q' := by
  obtain rfl | positive := h.eq_or_lt
  · rw [roundMagnitude, if_pos rfl]
    exact roundMagnitude_nonneg f q'
  have positive' : 0 < q' := positive.trans_le h'
  have place : (0 : Rat) < 2 ^ f.lastPlace q := zpow_pos (by norm_num) _
  obtain same | further := (lastPlace_mono (f := f) positive h').eq_or_lt
  · have near : nearestEven (q / 2 ^ f.lastPlace q) ≤ nearestEven (q' / 2 ^ f.lastPlace q) :=
      nearestEven_mono (by positivity) (by gcongr)
    rw [roundMagnitude_eq positive, roundMagnitude_eq positive', ← same]
    gcongr
  -- A power of two lies between the two, and rounding passes none.
  · have leads : f.lowest ≤ leadingPlace q' ∧
        f.lastPlace q + f.precision ≤ leadingPlace q' := by
      unfold lastPlace at *
      omega
    calc f.roundMagnitude q = nearestEven (q / 2 ^ f.lastPlace q) * 2 ^ f.lastPlace q :=
          roundMagnitude_eq positive
      _ ≤ ((2 ^ f.precision : Nat) : Rat) * 2 ^ f.lastPlace q := by
          gcongr
          exact nearestEven_le_digits digits positive
      _ = 2 ^ (f.lastPlace q + f.precision) := by
          rw [Nat.cast_pow, Nat.cast_ofNat, ← zpow_natCast, ← zpow_add₀ (by norm_num), add_comm]
      _ ≤ 2 ^ leadingPlace q' := zpow_le_zpow_right₀ (by norm_num) leads.2
      _ ≤ f.roundMagnitude q' := zpow_le_roundMagnitude leads.1 (leadingPlace_bounds positive').1

/-! ### What is rounded stays -/

theorem roundMagnitude_of_lt {n : Nat} {e : Int} (placed : f.lowest ≤ e) (few : n < 2 ^ f.precision) :
    f.roundMagnitude (n * 2 ^ e) = n * 2 ^ e := by
  obtain rfl | some := Nat.eq_zero_or_pos n
  · rw [Nat.cast_zero, zero_mul, roundMagnitude, if_pos rfl]
  have positive : (0 : Rat) < n * 2 ^ e := by positivity
  have below : (n : Rat) * 2 ^ e < 2 ^ (e + f.precision) := by
    rw [add_comm, zpow_add₀ (by norm_num), zpow_natCast]
    gcongr
    exact_mod_cast few
  have leads : leadingPlace (n * 2 ^ e : Rat) < e + f.precision :=
    (zpow_lt_zpow_iff_right₀ (by norm_num)).mp ((leadingPlace_bounds positive).1.trans_lt below)
  obtain ⟨k, place⟩ : ∃ k : Nat, e = f.lastPlace (n * 2 ^ e) + k :=
    ⟨(e - f.lastPlace (n * 2 ^ e)).toNat, by rw [lastPlace]; omega⟩
  have quotient : (n * 2 ^ e : Rat) / 2 ^ f.lastPlace (n * 2 ^ e) = ((n * 2 ^ k : Nat) : Rat) := by
    rw [div_eq_iff (zpow_ne_zero _ (by norm_num)), Nat.cast_mul, Nat.cast_pow, Nat.cast_ofNat,
      mul_assoc, ← zpow_natCast, ← zpow_add₀ (by norm_num), add_comm, ← place]
  rw [roundMagnitude_eq positive, quotient, nearestEven_natCast, ← quotient]
  exact div_mul_cancel₀ _ (zpow_ne_zero _ (by norm_num))

/-- A number with no more digits than a format keeps is not rounded. -/
theorem roundMagnitude_of_le {n : Nat} {e : Int} (digits : 0 < f.precision) (placed : f.lowest ≤ e)
    (few : n ≤ 2 ^ f.precision) : f.roundMagnitude (n * 2 ^ e) = n * 2 ^ e := by
  obtain less | rfl := few.lt_or_eq
  · exact roundMagnitude_of_lt placed less
  -- A power of two has its only digit one place further up.
  · have shifted : (((2 ^ f.precision : Nat) : Rat)) * 2 ^ e
        = ((2 ^ (f.precision - 1) : Nat) : Rat) * 2 ^ (e + 1) := by
      obtain ⟨k, full⟩ := Nat.exists_eq_succ_of_ne_zero digits.ne'
      rw [full, zpow_add_one₀ (by norm_num), Nat.succ_sub_one, pow_succ]
      push_cast
      ring
    rw [shifted]
    exact roundMagnitude_of_lt (by omega) (Nat.pow_lt_pow_right (by norm_num) (by omega))

/-- **What is rounded stays.** -/
theorem roundMagnitude_self (digits : 0 < f.precision) (h : 0 ≤ q) :
    f.roundMagnitude (f.roundMagnitude q) = f.roundMagnitude q := by
  obtain rfl | positive := h.eq_or_lt
  · rw [show f.roundMagnitude 0 = 0 from if_pos rfl]
    exact if_pos rfl
  · have placed : f.lowest ≤ f.lastPlace q := le_max_left ..
    rw [roundMagnitude_eq positive]
    exact roundMagnitude_of_le digits placed (nearestEven_le_digits digits positive)

end Format

namespace Binary

open Format

/-! ### The order of numbers that are not negative -/

/-- Neither number is negative, and the first one is no greater than the second. -/
def Rises : Binary → Binary → Prop
  | .finite false p, .finite false q => 0 ≤ p ∧ p ≤ q
  | .finite false p, .infinite false => 0 ≤ p
  | .infinite false, .infinite false => True
  | _, _ => False

namespace Rises

variable {x x' y y' z : Binary}

theorem trans (h : Rises x y) (h' : Rises y z) : Rises x z := by
  match x, y, z, h, h' with
  | .finite false _, .finite false _, .finite false _, h, h' => exact ⟨h.1, h.2.trans h'.2⟩
  | .finite false _, .finite false _, .infinite false, h, _ => exact h.1
  | .finite false _, .infinite false, .infinite false, h, _ => exact h
  | .infinite false, .infinite false, .infinite false, _, _ => trivial

theorem round {p q : Rat} (nonneg : 0 ≤ p) (h : p ≤ q) :
    Rises (double.round false p) (double.round false q) := by
  have rises : double.roundMagnitude p ≤ double.roundMagnitude q :=
    roundMagnitude_mono (by decide) nonneg h
  have rounded := roundMagnitude_nonneg double p
  unfold Format.round
  dsimp only
  split_ifs with past past'
  · trivial
  · exact absurd (past.trans rises) past'
  · exact rounded
  · exact ⟨rounded, rises⟩

theorem exactly {m n : Nat} (h : m ≤ n) : Rises (.exactly m) (.exactly n) :=
  ⟨Nat.cast_nonneg m, Nat.cast_le.mpr h⟩

theorem one_one : Rises .one .one := ⟨zero_le_one, le_refl 1⟩

theorem one_cases (h : Rises .one x) : (∃ q, 1 ≤ q ∧ x = .finite false q) ∨ x = .infinite false := by
  match x, h with
  | .finite false q, h => exact .inl ⟨q, h.2, rfl⟩
  | .infinite false, _ => exact .inr rfl

theorem infinite (h : Rises .one x) : Rises x (.infinite false) := by
  obtain ⟨q, some, rfl⟩ | rfl := h.one_cases
  · exact zero_le_one.trans some
  · trivial

theorem mul_infinite (h : Rises .one x) : mul double x (.infinite false) = .infinite false ∧
    mul double (.infinite false) x = .infinite false := by
  obtain ⟨q, some, rfl⟩ | rfl := h.one_cases
  · have nonzero : q ≠ 0 := (zero_lt_one.trans_le some).ne'
    exact ⟨if_neg nonzero, if_neg nonzero⟩
  · exact ⟨rfl, rfl⟩

theorem round_one : double.round false 1 = .one := by
  rw [← Nat.cast_one]
  exact ofNat_eq (by decide)

theorem one_mul (hx : Rises .one x) (hy : Rises .one y) : Rises .one (mul double x y) := by
  obtain ⟨p, left, rfl⟩ | rfl := hx.one_cases
  · obtain ⟨q, right, rfl⟩ | rfl := hy.one_cases
    · have more : 1 ≤ p * q := one_le_mul_of_one_le_of_one_le left right
      exact round_one ▸ round zero_le_one more
    · rw [hx.mul_infinite.1]
      exact hy
  · rw [hy.mul_infinite.2]
    exact hx

/-- **Products** of numbers that are at least one keep order. -/
theorem mul (hx : Rises .one x) (hy : Rises .one y) (h : Rises x x') (h' : Rises y y') :
    Rises (mul double x y) (mul double x' y') := by
  have hx' := hx.trans h
  have hy' := hy.trans h'
  obtain ⟨p', -, rfl⟩ | rfl := hx'.one_cases
  · obtain ⟨q', -, rfl⟩ | rfl := hy'.one_cases
    · match x, y, h, h' with
      | .finite false p, .finite false q, h, h' =>
        exact round (mul_nonneg h.1 h'.1) (mul_le_mul h.2 h'.2 h'.1 (h.1.trans h.2))
    · rw [hx'.mul_infinite.1]
      exact (hx.one_mul hy).infinite
  · rw [hy'.mul_infinite.2]
    exact (hx.one_mul hy).infinite

/-- **Powers by squaring** of numbers that are at least one keep order, and are at least one. -/
theorem powBySquaring {digits k : Nat} {r r' : Binary} (hr : Rises .one r) (hx : Rises .one x)
    (h : Rises r r') (h' : Rises x x') :
    Rises .one (powBySquaring double digits r x k) ∧
      Rises (powBySquaring double digits r x k) (powBySquaring double digits r' x' k) := by
  induction digits generalizing r r' x x' k with
  | zero => exact ⟨hr, h⟩
  | succ digits ih =>
    rw [Binary.powBySquaring, Binary.powBySquaring]
    by_cases odd : k % 2 = 1
    · simp only [if_pos odd]
      split_ifs
      · exact ⟨hr.one_mul hx, hr.mul hx h h'⟩
      · exact ih (hr.one_mul hx) (hx.one_mul hx) (hr.mul hx h h') (hx.mul hx h' h')
    · simp only [if_neg odd]
      split_ifs
      · exact ⟨hr, h⟩
      · exact ih hr (hx.one_mul hx) h (hx.mul hx h' h')

/-- **Powers** of numbers that are at least one keep order, and are at least one. -/
theorem pow (hx : Rises .one x) (h : Rises x x') (k : Nat) :
    Rises .one (pow double x k) ∧ Rises (pow double x k) (pow double x' k) :=
  powBySquaring one_one hx one_one h

theorem total (hx : Rises .one x) (hy : Rises .one y) : Rises x y ∨ Rises y x := by
  obtain ⟨p, left, rfl⟩ | rfl := hx.one_cases
  · obtain ⟨q, right, rfl⟩ | rfl := hy.one_cases
    · exact (le_total p q).imp (⟨zero_le_one.trans left, ·⟩) (⟨zero_le_one.trans right, ·⟩)
    · exact .inl hx.infinite
  · exact .inr hy.infinite

/-- **The lesser** of two numbers in order is the first, from whichever side it is asked for. -/
theorem least (h : Rises x y) : least x y = x ∧ least y x = x := by
  match x, y, h with
  | .finite false p, .finite false q, h =>
    refine ⟨if_neg (by simpa [lt, signed] using h.2), ?_⟩
    obtain same | less := h.2.eq_or_lt
    · rw [same]
      exact if_neg (by simp [lt])
    · exact if_pos (by simpa [lt, signed] using less)
  | .finite false p, .infinite false, _ => exact ⟨rfl, rfl⟩
  | .infinite false, .infinite false, _ => exact ⟨rfl, rfl⟩

theorem of_le {n : Nat} (hx : Rises .one x) (h : (Binary.exactly n).le x = true) :
    Rises (.exactly n) x := by
  obtain ⟨q, -, rfl⟩ | rfl := hx.one_cases
  · exact ⟨Nat.cast_nonneg n, of_decide_eq_true h⟩
  · exact Nat.cast_nonneg n

end Rises

/-- **What is rounded stays** when it is multiplied by one. -/
theorem round_mul_one {q : Rat} (h : 0 ≤ q) :
    mul double (double.round false q) .one = double.round false q := by
  have stays : double.roundMagnitude (double.roundMagnitude q) = double.roundMagnitude q :=
    roundMagnitude_self (by decide) h
  unfold Format.round
  dsimp only
  split_ifs with past
  · exact Rises.one_one.mul_infinite.2
  · show double.round false (double.roundMagnitude q * 1) = _
    unfold Format.round
    dsimp only
    rw [mul_one, stays, if_neg past]

/-- A product is rounded, so it stays when it is multiplied by one. -/
theorem mul_mul_one {x y : Binary} (hx : Rises .one x) (hy : Rises .one y) :
    mul double (mul double x y) .one = mul double x y := by
  obtain ⟨p, left, rfl⟩ | rfl := hx.one_cases
  · obtain ⟨q, right, rfl⟩ | rfl := hy.one_cases
    · exact round_mul_one (mul_nonneg (zero_le_one.trans left) (zero_le_one.trans right))
    · rw [hx.mul_infinite.1]
      exact Rises.one_one.mul_infinite.2
  · rw [hy.mul_infinite.2]
    exact Rises.one_one.mul_infinite.2

end Binary

end Breaker

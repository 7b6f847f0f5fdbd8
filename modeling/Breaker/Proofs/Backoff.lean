import Breaker.Backoff
import Breaker.Proofs.Rate

/-!
# Backoff — waits that grow by a whole factor

A growing wait is computed in double precision: a power by repeated squaring, a product, the lesser of
two, and a cut to a whole number.  Double precision counts exactly up to `2 ^ 53` and never falls below
it again once it is past it (`Binary.CountsTo`), so for whole factors and for waits below that many
milliseconds nothing is lost by rounding, by an overflow to infinity, or by not counting attempts past
`attemptMax`: either the result is exact, or the longest wait is shorter.

There is one exception.  Nothing times infinity is no number, and one that is not a number yields to the
longest wait.  So a first wait of nothing is followed by the longest wait once the power overflows
(`wait_of_whole_factor`, `wait_of_whole_factor_from_nothing`).
-/

namespace Breaker

/-! ### The leading digit -/

theorem twoPow_eq_zpow (e : Int) : twoPow e = (2 : Rat) ^ e := by
  obtain ⟨k, rfl | rfl⟩ := e.eq_nat_or_neg
  · rw [twoPow_natCast, zpow_natCast]
  · rw [twoPow_neg_natCast, zpow_neg, zpow_natCast, one_div]

/-- A positive magnitude lies between the power of two at its leading digit and the next. -/
theorem leadingPlace_bounds {q : Rat} (positive : 0 < q) :
    (2 : Rat) ^ leadingPlace q ≤ q ∧ q < 2 ^ (leadingPlace q + 1) := by
  have top : 0 < q.num := Rat.num_pos.mpr positive
  have whole : (q.num.natAbs : Rat) / q.den = q := by
    rw [← Int.cast_natCast, Int.natAbs_of_nonneg top.le, Rat.num_div_den]
  have below : (0 : Rat) < q.den := by exact_mod_cast q.den_pos
  have num : (2 : Rat) ^ q.num.natAbs.log2 ≤ q.num.natAbs := by
    exact_mod_cast Nat.log2_self_le (Int.natAbs_pos.mpr top.ne').ne'
  have num' : (q.num.natAbs : Rat) < 2 ^ (q.num.natAbs.log2 + 1) := by exact_mod_cast Nat.lt_log2_self
  have den : (2 : Rat) ^ q.den.log2 ≤ q.den := by exact_mod_cast Nat.log2_self_le q.den_nz
  have den' : (q.den : Rat) < 2 ^ (q.den.log2 + 1) := by exact_mod_cast Nat.lt_log2_self
  have quotient (a b : Nat) : (2 : Rat) ^ ((a : Int) - b) = 2 ^ a / 2 ^ b := by
    rw [zpow_sub₀ (by norm_num), zpow_natCast, zpow_natCast]
  unfold leadingPlace
  simp only [twoPow_eq_zpow]
  split
  case isTrue reached =>
    refine ⟨reached, ?_⟩
    calc q = q.num.natAbs / q.den := whole.symm
      _ < 2 ^ (q.num.natAbs.log2 + 1) / 2 ^ q.den.log2 := by gcongr
      _ = 2 ^ ((q.num.natAbs.log2 : Int) - q.den.log2 + 1) := by
        rw [← quotient]
        congr 1
        push_cast
        ring
  case isFalse short =>
    refine ⟨?_, by simpa using short⟩
    calc (2 : Rat) ^ ((q.num.natAbs.log2 : Int) - q.den.log2 - 1)
        = 2 ^ q.num.natAbs.log2 / 2 ^ (q.den.log2 + 1) := by
          rw [← quotient]
          congr 1
          push_cast
          ring
      _ ≤ q.num.natAbs / q.den := by gcongr
      _ = q := whole

theorem le_leadingPlace {q : Rat} {e : Int} (h : (2 : Rat) ^ e ≤ q) : e ≤ leadingPlace q := by
  have positive : 0 < q := (zpow_pos (by norm_num) e).trans_le h
  have below : (2 : Rat) ^ e < 2 ^ (leadingPlace q + 1) :=
    h.trans_lt (leadingPlace_bounds positive).2
  exact Int.lt_add_one_iff.mp ((zpow_lt_zpow_iff_right₀ (by norm_num)).mp below)

/-- Rounding falls below no whole number. -/
theorem le_nearestEven {n : Nat} {q : Rat} (h : (n : Rat) ≤ q) : n ≤ nearestEven q := by
  have floor : n ≤ q.floor.toNat := by
    rw [Int.le_toNat (Rat.le_floor_iff.mpr (by simpa using le_trans (Nat.cast_nonneg n) h))]
    exact Rat.le_floor_iff.mpr (by simpa using h)
  unfold nearestEven
  dsimp only
  split_ifs
  all_goals omega

namespace Format

variable {f : Format} {q : Rat} {e : Int}

/-- Rounding falls below no power of two that has a place in the format. -/
theorem zpow_le_roundMagnitude (placed : f.lowest ≤ e) (h : (2 : Rat) ^ e ≤ q) :
    (2 : Rat) ^ e ≤ f.roundMagnitude q := by
  have positive : 0 < q := (zpow_pos (by norm_num) e).trans_le h
  have leads : e ≤ leadingPlace q := le_leadingPlace h
  obtain ⟨k, place⟩ : ∃ k : Nat, leadingPlace q = k + f.lastPlace q :=
    ⟨(leadingPlace q - f.lastPlace q).toNat, by rw [lastPlace]; omega⟩
  have digits : ((2 ^ k : Nat) : Rat) ≤ q / 2 ^ f.lastPlace q := by
    rw [le_div_iff₀ (zpow_pos (by norm_num) _), Nat.cast_pow, ← zpow_natCast, Nat.cast_ofNat,
      ← zpow_add₀ (by norm_num), ← place]
    exact (leadingPlace_bounds positive).1
  rw [roundMagnitude, if_neg positive.ne']
  simp only [twoPow_eq_zpow]
  calc (2 : Rat) ^ e ≤ 2 ^ leadingPlace q := zpow_le_zpow_right₀ (by norm_num) leads
    _ = ((2 ^ k : Nat) : Rat) * 2 ^ f.lastPlace q := by
      rw [place, zpow_add₀ (by norm_num), zpow_natCast, Nat.cast_pow, Nat.cast_ofNat]
    _ ≤ nearestEven (q / 2 ^ f.lastPlace q) * 2 ^ f.lastPlace q := by
      have rounded : (2 ^ k : Nat) ≤ nearestEven (q / 2 ^ f.lastPlace q) := le_nearestEven digits
      gcongr

end Format

/-! ### Counting in double precision -/

namespace Binary

open Format

/-- The number of whole numbers that double precision counts without a gap. -/
def countMax : Nat := 2 ^ 53

/-- A number stands for a whole number: it is that number, or both are past what double precision
counts to. -/
def CountsTo (n : Nat) : Binary → Prop
  | .finite false q => n < countMax ∧ q = n ∨ countMax ≤ n ∧ (countMax : Rat) ≤ q
  | .infinite false => countMax ≤ n
  | _ => False

namespace CountsTo

variable {m n : Nat} {x y : Binary}

theorem exactly (n : Nat) : CountsTo n (.exactly n) := by
  obtain below | past := lt_or_ge n countMax
  · exact .inl ⟨below, rfl⟩
  · exact .inr ⟨past, by exact_mod_cast past⟩

/-- **Rounding** keeps the count. -/
theorem round {q : Rat} (h : CountsTo n (.finite false q)) : CountsTo n (double.round false q) := by
  obtain ⟨below, rfl⟩ | ⟨past, large⟩ := h
  · rw [round_natCast isWhole_double below]
    exact exactly n
  · have power : ((countMax : Nat) : Rat) = 2 ^ (53 : Int) := by norm_num [countMax]
    have rounded : (countMax : Rat) ≤ double.roundMagnitude q := by
      rw [power] at large ⊢
      exact zpow_le_roundMagnitude (by decide) large
    rw [Format.round]
    split
    · exact past
    · exact .inr ⟨past, rounded⟩

/-- What stands for a number above zero is at least one. -/
theorem one_le {q : Rat} (h : CountsTo n (.finite false q)) (some : 0 < n) : 1 ≤ q := by
  obtain ⟨-, rfl⟩ | ⟨-, large⟩ := h
  · exact_mod_cast some
  · exact le_trans (by norm_num [countMax]) large

/-- **A product** of numbers above zero keeps the count. -/
theorem mul (hx : CountsTo m x) (hy : CountsTo n y) (some : 0 < m) (some' : 0 < n) :
    CountsTo (m * n) (mul double x y) := by
  have past_left (h : countMax ≤ m) : countMax ≤ m * n := h.trans (Nat.le_mul_of_pos_right m some')
  have past_right (h : countMax ≤ n) : countMax ≤ m * n := h.trans (Nat.le_mul_of_pos_left n some)
  match x, y, hx, hy with
  | .infinite false, .infinite false, hx, _ => exact past_left hx
  | .infinite false, .finite false q, hx, hy =>
    have nonzero : q ≠ 0 := (zero_lt_one.trans_le (one_le hy some')).ne'
    rw [Binary.mul, if_neg nonzero]
    exact past_left hx
  | .finite false p, .infinite false, hx, hy =>
    have nonzero : p ≠ 0 := (zero_lt_one.trans_le (one_le hx some)).ne'
    rw [Binary.mul, if_neg nonzero]
    exact past_right hy
  | .finite false p, .finite false q, hx, hy =>
    refine round ?_
    have left := one_le hx some
    have right := one_le hy some'
    obtain ⟨-, rfl⟩ | ⟨past, large⟩ := hx
    · obtain ⟨-, rfl⟩ | ⟨past, large⟩ := hy
      · rw [← Nat.cast_mul]
        exact exactly (m * n)
      · exact .inr ⟨past_right past, large.trans (le_mul_of_one_le_left (zero_le_one.trans right) left)⟩
    · exact .inr ⟨past_left past, large.trans (le_mul_of_one_le_right (zero_le_one.trans left) right)⟩

/-- **A power by squaring** keeps the count. -/
theorem powBySquaring {digits k : Nat} {r : Binary} (enough : k < 2 ^ digits) (hr : CountsTo m r)
    (hx : CountsTo n x) (some : 0 < m) (some' : 0 < n) :
    CountsTo (m * n ^ k) (powBySquaring double digits r x k) := by
  induction digits generalizing m n r x k with
  | zero =>
    have none : k = 0 := by simpa using enough
    rw [none, pow_zero, mul_one]
    exact hr
  | succ digits ih =>
    have gathered : CountsTo (m * n ^ (k % 2)) (if k % 2 = 1 then Binary.mul double r x else r) := by
      split
      case isTrue odd =>
        rw [odd, pow_one]
        exact hr.mul hx some some'
      case isFalse even =>
        rw [Nat.mod_two_ne_one.mp even, pow_zero, mul_one]
        exact hr
    have split_power : m * n ^ k = m * n ^ (k % 2) * (n * n) ^ (k / 2) := by
      conv_lhs => rw [← Nat.mod_add_div k 2]
      rw [pow_add, pow_mul, pow_two, mul_assoc]
    rw [Binary.powBySquaring, split_power]
    split
    case isTrue last =>
      rw [last, pow_zero, mul_one]
      exact gathered
    case isFalse =>
      have fewer : k / 2 < 2 ^ digits := by
        rw [pow_succ] at enough
        omega
      exact ih fewer gathered (hx.mul hx some' some') (by positivity) (by positivity)

/-- **Powers** keep the count. -/
theorem pow (hx : CountsTo n x) (some : 0 < n) (k : Nat) : CountsTo (n ^ k) (pow double x k) := by
  have whole := (exactly 1).powBySquaring Nat.lt_log2_self hx Nat.one_pos some (k := k)
  rwa [one_mul] at whole

/-- **The lesser** of two numbers, of which one is below what is counted to, is exact. -/
theorem least (hx : CountsTo m x) (below : n < countMax) :
    least x (.exactly n) = .exactly (min m n) := by
  match x, hx with
  | .infinite false, past => rw [Nat.min_eq_right (below.le.trans past)]; rfl
  | .finite false q, hx =>
    have less : (n : Rat) < countMax := by exact_mod_cast below
    have order : (n : Rat) < q ↔ n < m := by
      obtain ⟨-, rfl⟩ | ⟨past, large⟩ := hx
      · exact Nat.cast_lt
      · exact ⟨fun _ => below.trans_le past, fun _ => less.trans_le large⟩
    have chosen : Binary.least (.finite false q) (.exactly n)
        = if n < m then .exactly n else .finite false q := by
      show (if decide ((n : Rat) < q) = true then _ else _) = _
      simp only [decide_eq_true_eq, order]
    rw [chosen]
    split
    case isTrue shorter => rw [Nat.min_eq_right shorter.le]
    case isFalse longer =>
      rw [Nat.min_eq_left (not_lt.mp longer)]
      obtain ⟨-, rfl⟩ | ⟨past, -⟩ := hx
      · rfl
      · exact absurd (below.trans_le past) longer

end CountsTo

theorem ofNat_eq {n : Nat} (below : n < countMax) : double.ofNat n = .exactly n :=
  round_natCast isWhole_double below false

theorem toWord_mul_one {n : Nat} (below : n < countMax) :
    (mul double (.exactly n) .one).toWord = n := by
  have same : mul double (.exactly n) .one = .exactly n := by
    rw [exactly, one, mul, mul_one]
    exact round_natCast isWhole_double below _
  have word : n ≤ 0xffffffffffffffff := below.le.trans (by decide)
  have floor : (n : Rat).floor.toNat = n := by
    rw [← Int.cast_natCast, Rat.floor_intCast, Int.toNat_natCast]
  rw [same, exactly, toWord, if_neg (by simp), floor, Nat.min_eq_left word]

end Binary

/-! ### Waits -/

namespace Backoff

open Format

/-- Without jitter nothing is taken off a wait. -/
theorem jitterFactor_zero (roll : Roll) : jitterFactor .zero roll = .one := by
  have one : double.round false 1 = .one := by
    rw [← Nat.cast_one]
    exact Binary.ofNat_eq (by decide)
  have whole : Binary.sub double .one .zero = .one := by
    show double.roundSigned false (1 + -0) = _
    rw [neg_zero, add_zero, roundSigned, if_neg one_ne_zero, if_neg (by norm_num),
      decide_eq_false (by norm_num), one]
  have nothing : Binary.mul double roll.value .zero = .zero := by
    rw [Roll.value, Binary.zero, Binary.mul, mul_zero]
    exact round_zero isWhole_double _
  have kept : Binary.add double .one .zero = .one := by
    show double.roundSigned false (1 + 0) = _
    rw [add_zero, roundSigned, if_neg one_ne_zero, if_neg (by norm_num),
      decide_eq_false (by norm_num), one]
  show Binary.add double (Binary.sub double .one .zero) (Binary.mul double roll.value .zero) = _
  rw [whole, nothing, kept]

/-- The power of a whole factor overflows. -/
def Overflows (factor k : Nat) : Prop := (Binary.pow double (.exactly factor) k).isFinite = false

instance (factor k : Nat) : Decidable (Overflows factor k) := inferInstanceAs (Decidable (_ = _))

variable {initial factor longest attempt : Nat}

/-- What a wait grows to before jitter, where a power of a whole factor was computed. -/
private theorem least_growth {power : Binary} {k : Nat}
    (counts : power.CountsTo (factor ^ k)) (positive : 0 < factor)
    (short : initial < Binary.countMax) (short' : longest < Binary.countMax) :
    Binary.least (Binary.mul double (.exactly initial) power) (.exactly longest) =
      .exactly (if initial = 0 ∧ power.isFinite = false then longest
        else min (initial * factor ^ k) longest) := by
  by_cases nothing : initial = 0
  · subst nothing
    match power, counts with
    | .infinite false, _ =>
      -- nothing times infinity is no number
      have undefined : Binary.mul double (.exactly 0) (.infinite false) = .nan := by
        rw [Binary.exactly, Nat.cast_zero, Binary.mul, if_pos rfl]
      rw [undefined, if_pos ⟨rfl, rfl⟩]
      rfl
    | .finite false q, _ =>
      have zero : Binary.mul double (.exactly 0) (.finite false q) = .exactly 0 := by
        rw [Binary.exactly, Binary.mul, Nat.cast_zero, zero_mul]
        exact round_zero isWhole_double _
      rw [zero, if_neg (by simp [Binary.isFinite]), zero_mul]
      exact (Binary.CountsTo.exactly 0).least short'
  · have grown : (Binary.mul double (.exactly initial) power).CountsTo (initial * factor ^ k) :=
      (Binary.CountsTo.exactly initial).mul counts (Nat.pos_of_ne_zero nothing) (Nat.pow_pos positive)
    rw [grown.least short', if_neg fun both => nothing both.1]

/-- **Growth by a whole factor** in whole milliseconds, with the one exception. -/
theorem grownMillis_of_whole_factor (positive : 0 < factor) (short : initial < Binary.countMax)
    (short' : longest < Binary.countMax) (roll : Roll) :
    grownMillis initial (.exactly factor) longest attempt .zero roll =
      if initial = 0 ∧ Overflows factor (attempt - 1) then longest
      else min (initial * factor ^ (attempt - 1)) longest := by
  have counts := (Binary.CountsTo.exactly factor).pow positive (attempt - 1)
  have grown := least_growth counts positive short short'
  rw [grownMillis, jitterFactor_zero, Binary.ofNat_eq short, Binary.ofNat_eq short', grown]
  refine Binary.toWord_mul_one ?_
  split
  · exact short'
  · exact (Nat.min_le_right _ _).trans_lt short'

/-- Attempts past the greatest that is counted to make no difference to a wait that has grown by then. -/
theorem min_growth_attemptMax (positive : 0 < factor) (short : longest < Binary.countMax) :
    min (initial * factor ^ (min attempt attemptMax - 1)) longest
      = min (initial * factor ^ (attempt - 1)) longest := by
  obtain counted | past := le_total attempt attemptMax
  · rw [Nat.min_eq_left counted]
  · rw [Nat.min_eq_right past]
    obtain one | more : factor = 1 ∨ 2 ≤ factor := by omega
    · simp [one]
    obtain nothing | some := Nat.eq_zero_or_pos initial
    · simp [nothing]
    have grown {k : Nat} (many : attemptMax - 1 ≤ k) : longest ≤ initial * factor ^ k :=
      calc longest ≤ Binary.countMax := short.le
        _ ≤ 2 ^ (attemptMax - 1) := Nat.pow_le_pow_right Nat.two_pos (by decide)
        _ ≤ factor ^ (attemptMax - 1) := Nat.pow_le_pow_left more _
        _ ≤ factor ^ k := Nat.pow_le_pow_right positive many
        _ ≤ initial * factor ^ k := Nat.le_mul_of_pos_left _ some
    rw [Nat.min_eq_right (grown le_rfl), Nat.min_eq_right (grown (by omega))]

/-- The factor of a sound policy is at least one. -/
theorem factor_pos_of_check {first last : Duration}
    (sound : (exponential first (.exactly factor) last).check? = none) : 0 < factor := by
  rw [check?, checkGrowth?] at sound
  split_ifs at sound with faulty
  refine Nat.pos_of_ne_zero ?_
  simpa [Binary.exactly, Binary.isFinite, Binary.one, Binary.le, Binary.signed] using faulty

/-- **Waits that grow by a whole factor.**  Whatever the attempt, the wait is the first wait times the
power of the factor, or the longest wait if that is shorter, to the millisecond; only a first wait of
nothing is followed by the longest wait from the attempt on whose power overflows. -/
theorem wait_of_whole_factor {first last : Duration}
    (sound : (exponential first (.exactly factor) last).check? = none)
    (short : first.millis < 2 ^ 53) (short' : last.millis < 2 ^ 53) (roll : Roll) (attempt : Nat) :
    (exponential first (.exactly factor) last).wait roll attempt = pure (.ofMillis
      (if first.millis = 0 ∧ Overflows factor (min attempt attemptMax - 1) then last.millis
        else min (first.millis * factor ^ (attempt - 1)) last.millis)) := by
  have positive := factor_pos_of_check sound
  have counted : min (max attempt 1) attemptMax - 1 = min attempt attemptMax - 1 := by
    rw [attemptMax]
    omega
  have millis : grownMillis first.millis (.exactly factor) last.millis
      (min (max attempt 1) attemptMax) .zero roll = _ :=
    grownMillis_of_whole_factor positive short short' roll
  rw [counted, min_growth_attemptMax positive short'] at millis
  show pure (grown first (.exactly factor) last (max attempt 1) .zero roll) = _
  rw [grown, millis]

/-- Three milliseconds that grow tenfold are counted exactly up to the sixteenth attempt. -/
theorem wait_of_whole_factor_tenfold :
    (exponential (.ofMillis 3) (.exactly 10) (.ofMillis (2 ^ 53 - 1))).check? = none ∧
      (exponential (.ofMillis 3) (.exactly 10) (.ofMillis (2 ^ 53 - 1))).wait ⟨0⟩ 16
        = pure (.ofMillis 3000000000000000) := by
  have sound : (exponential (.ofMillis 3) (.exactly 10) (.ofMillis (2 ^ 53 - 1))).check? = none := by
    decide +kernel
  refine ⟨sound, ?_⟩
  rw [wait_of_whole_factor sound (by decide) (by decide)]
  exact congrArg pure (by decide +kernel)

/-- A first wait of nothing that grows by 32 is followed by the longest wait at attempt 206, though
nothing times any power is nothing. -/
theorem wait_of_whole_factor_from_nothing :
    (exponential .zero (.exactly 32) (.ofSeconds 1)).check? = none ∧
      Duration.zero.millis < 2 ^ 53 ∧ (Duration.ofSeconds 1).millis < 2 ^ 53 ∧
      (exponential .zero (.exactly 32) (.ofSeconds 1)).wait ⟨0⟩ 206 = pure (.ofSeconds 1) ∧
      Duration.ofMillis (min (Duration.zero.millis * 32 ^ (206 - 1)) (Duration.ofSeconds 1).millis)
        = .zero ∧ Duration.ofSeconds 1 ≠ .zero := by
  have wait : grown .zero (.exactly 32) (.ofSeconds 1) 206 .zero ⟨0⟩ = .ofSeconds 1 := by
    decide +kernel
  refine ⟨by decide +kernel, by decide, by decide, congrArg pure wait, ?_, by decide⟩
  rw [show Duration.zero.millis = 0 from by decide, zero_mul]
  decide

end Backoff

end Breaker

import Breaker.Proofs.Rounding

/-!
# Longest — when a growing wait has grown to the longest one

Growing waits count no attempt past `attemptMax`, and from there on the wait stays what it is.  It is the
longest wait exactly if the growth has come up to that by then.  With a factor of six fifths or more it
always has, whatever the first wait and the longest one (`wait_past_attemptMax`); with a slower one it need
not (`wait_past_attemptMax_slow`).

Waits of `2 ^ 53` milliseconds and more are not counted exactly, and the longest wait is then the number of
double precision next to it (`inDouble`).
-/

namespace Breaker

namespace Duration

theorem millis_le (d : Duration) : d.millis ≤ wordMax := Nat.min_le_right ..

theorem ofMillis_millis {d : Duration} (whole : d.hasPartOfMilli = false) (short : d.millis < wordMax) :
    ofMillis d.millis = d := by
  have parts : d.nanos % nanosPerMilli = 0 := by simpa [hasPartOfMilli] using whole
  have millis : d.millis = d.nanos / nanosPerMilli := by
    rw [Duration.millis] at short ⊢
    omega
  have nanos : d.nanos / nanosPerMilli * nanosPerMilli = d.nanos :=
    Nat.div_mul_cancel (Nat.dvd_of_mod_eq_zero parts)
  rw [ofMillis, millis, nanos, ofNanos_nanos]

theorem millis_ofMillis {n : Nat} (word : n ≤ wordMax) : (ofMillis n).millis = n := by
  have longest : wordMax * nanosPerMilli ≤ longestNanos := by decide
  have within : n * nanosPerMilli ≤ longestNanos := (Nat.mul_le_mul_right _ word).trans longest
  show min (min (n * nanosPerMilli) longestNanos / nanosPerMilli) wordMax = n
  rw [Nat.min_eq_left within, Nat.mul_div_cancel _ (by decide), Nat.min_eq_left word]

end Duration

namespace Binary

theorem toWord_le (x : Binary) : x.toWord ≤ wordMax := by
  cases x with
  | nan => exact Nat.zero_le _
  | infinite negative => cases negative <;> decide
  | finite negative q =>
    rw [toWord]
    split
    · exact Nat.zero_le _
    · exact Nat.min_le_right ..

theorem toWord_lt {n : Nat} {q : Rat} (nonneg : 0 ≤ q) (h : q < n) :
    (Binary.finite false q).toWord < n := by
  have floor : ((q.floor.toNat : Nat) : Rat) ≤ q := by
    have whole : ((q.floor.toNat : Nat) : Int) = q.floor :=
      Int.toNat_of_nonneg (Rat.le_floor_iff.mpr (by simpa using nonneg))
    calc ((q.floor.toNat : Nat) : Rat) = (q.floor : Rat) := by exact_mod_cast whole
      _ ≤ q := Rat.floor_le q
  have below : q.floor.toNat < n := by exact_mod_cast floor.trans_lt h
  exact (Nat.min_le_left ..).trans_lt below

end Binary

namespace Backoff

open Format

/-- What a wait grows to by an attempt, in milliseconds and not yet cut to the longest. -/
def growth (first : Duration) (factor : Binary) (attempt : Nat) : Binary :=
  Binary.mul double (double.ofNat first.millis) (Binary.pow double factor (attempt - 1))

/-- A span in whole milliseconds, as double precision counts them. -/
def inDouble (d : Duration) : Duration := .ofMillis (double.ofNat d.millis).toWord

variable {first last : Duration} {m : Rat}

/-! ### The parameters of a sound policy -/

theorem sound_of_check (sound : (exponential first (.finite false m) last).check? = none) :
    1 ≤ m ∧ first ≤ last ∧ last.hasPartOfMilli = false := by
  rw [check?, checkGrowth?] at sound
  split_ifs at sound with faulty _ shorter parts
  refine ⟨?_, Nat.le_of_not_lt shorter, ?_⟩
  · simpa [Binary.isFinite, Binary.one, Binary.le, Binary.signed] using faulty
  · exact Bool.eq_false_iff.mpr (not_or.mp (Bool.or_eq_true .. ▸ parts)).2

theorem millis_mono (h : first ≤ last) : first.millis ≤ last.millis :=
  min_le_min_right wordMax (Nat.div_le_div_right h)

theorem one_rises_ofNat {n : Nat} (some : 0 < n) : Binary.Rises .one (double.ofNat n) := by
  have more : (1 : Rat) ≤ n := by exact_mod_cast some
  exact Binary.Rises.round_one ▸ Binary.Rises.round zero_le_one more

theorem inDouble_of_short (whole : last.hasPartOfMilli = false) (short : last.millis < 2 ^ 53) :
    inDouble last = last := by
  have counted : (double.ofNat last.millis).toWord = last.millis := by
    have rounded := Binary.toWord_mul_one short
    rwa [← Binary.ofNat_eq short, Format.ofNat, Binary.round_mul_one (Nat.cast_nonneg _)] at rounded
  rw [inDouble, counted, Duration.ofMillis_millis whole (short.trans (by decide))]

/-! ### Growth -/

/-- The wait of an attempt is what was grown to by it, cut to the longest wait. -/
theorem wait_exponential (first last : Duration) (factor : Binary) (roll : Roll) (attempt : Nat) :
    (exponential first factor last).wait roll attempt = pure (.ofMillis (Binary.mul double
      (Binary.least (growth first factor (min (max attempt 1) attemptMax)) (double.ofNat last.millis))
      .one).toWord) := by
  show pure (grown first factor last (max attempt 1) .zero roll) = _
  rw [grown, grownMillis, jitterFactor_zero]
  rfl

theorem one_rises_growth (some : 0 < first.millis) (large : 1 ≤ m) (attempt : Nat) :
    Binary.Rises .one (growth first (.finite false m) attempt) := by
  have factor : Binary.Rises .one (.finite false m) := ⟨zero_le_one, large⟩
  have self : Binary.Rises (.finite false m) (.finite false m) :=
    ⟨zero_le_one.trans large, le_refl m⟩
  exact (one_rises_ofNat some).one_mul (factor.pow self _).1

/-- What is cut to the longest wait is not rounded again. -/
theorem least_growth_mul_one (some : 0 < first.millis) (some' : 0 < last.millis) (large : 1 ≤ m)
    (attempt : Nat) :
    Binary.mul double (Binary.least (growth first (.finite false m) attempt)
        (double.ofNat last.millis)) .one
      = Binary.least (growth first (.finite false m) attempt) (double.ofNat last.millis) := by
  have factor : Binary.Rises .one (.finite false m) := ⟨zero_le_one, large⟩
  have self : Binary.Rises (.finite false m) (.finite false m) :=
    ⟨zero_le_one.trans large, le_refl m⟩
  obtain short | reached := (one_rises_growth some large attempt).total (one_rises_ofNat some')
  · rw [short.least.1]
    exact Binary.mul_mul_one (one_rises_ofNat some) (factor.pow self _).1
  · rw [reached.least.2]
    exact Binary.round_mul_one (Nat.cast_nonneg _)

/-- **A factor of six fifths** grows past every word within the attempts that are counted. -/
theorem word_rises_growth (some : 0 < first.millis) (large : 6 / 5 ≤ m) :
    Binary.Rises (.exactly (2 ^ 64)) (growth first (.finite false m) attemptMax) := by
  have factor : Binary.Rises .one (.finite false (6 / 5)) := ⟨zero_le_one, by norm_num⟩
  have least : Binary.Rises (.finite false (6 / 5)) (.finite false m) := ⟨by norm_num, large⟩
  obtain ⟨one, power⟩ := factor.pow least (attemptMax - 1)
  have reached : (Binary.exactly (2 ^ 64)).le (Binary.pow double (.finite false (6 / 5)) 254) = true := by
    decide +kernel
  have word : Binary.Rises .one (.exactly (2 ^ 64)) := ⟨zero_le_one, by norm_num [Binary.exactly]⟩
  have whole : Binary.mul double .one (.exactly (2 ^ 64)) = .exactly (2 ^ 64) := by decide +kernel
  have grown := Binary.Rises.one_one.mul word (one_rises_ofNat some) ((one.of_le reached).trans power)
  rwa [whole] at grown

theorem ofNat_rises_word {n : Nat} (word : n ≤ wordMax) :
    Binary.Rises (double.ofNat n) (.exactly (2 ^ 64)) := by
  have whole : double.ofNat (2 ^ 64) = .exactly (2 ^ 64) := by decide +kernel
  have below : (n : Rat) ≤ ((2 ^ 64 : Nat) : Rat) := by exact_mod_cast word.trans (by decide)
  exact whole ▸ Binary.Rises.round (Nat.cast_nonneg _) below

/-- A wait is the longest one exactly if the growth has come up to that. -/
theorem least_growth_eq_longest_iff (some : 0 < first.millis) (large : 1 ≤ m)
    (whole : last.hasPartOfMilli = false) (some' : 0 < last.millis) (short : last.millis < 2 ^ 53)
    (attempt : Nat) :
    Duration.ofMillis (Binary.least (growth first (.finite false m) attempt)
        (double.ofNat last.millis)).toWord = last ↔
      (double.ofNat last.millis).Rises (growth first (.finite false m) attempt) := by
  have grows := one_rises_growth some large attempt
  constructor
  · intro longest
    obtain less | reached := grows.total (one_rises_ofNat some')
    · obtain ⟨q, more, grown⟩ | past := grows.one_cases
      · by_contra behind
        rw [less.least.1, grown] at longest
        rw [grown, Binary.ofNat_eq short] at less behind
        have below : q < last.millis := lt_of_not_ge fun reached => behind ⟨Nat.cast_nonneg _, reached⟩
        have fewer := Binary.toWord_lt (zero_le_one.trans more) below
        have millis := congrArg Duration.millis longest
        rw [Duration.millis_ofMillis (Binary.toWord_le _)] at millis
        exact absurd millis fewer.ne
      · rw [past]
        exact (one_rises_ofNat some').infinite
    · exact reached
  · intro reached
    rw [reached.least.2]
    exact inDouble_of_short whole short

/-- **Waits past the greatest attempt that is counted.**  From `attemptMax` on the wait of a sound policy
that starts from a millisecond or more is the one of `attemptMax`.  It is the longest wait exactly if the
growth has come up to that, and with a factor of six fifths or more it always is; a longest wait that double
precision does not count is rounded to one that it does. -/
theorem wait_past_attemptMax (sound : (exponential first (.finite false m) last).check? = none)
    (some : Duration.ofMillis 1 ≤ first) (roll : Roll) {attempt : Nat} (past : 255 ≤ attempt) :
    (exponential first (.finite false m) last).wait roll attempt
      = (exponential first (.finite false m) last).wait roll 255 ∧
    (last.millis < 2 ^ 53 →
      ((exponential first (.finite false m) last).wait roll attempt = pure last ↔
        (double.ofNat last.millis).Rises (growth first (.finite false m) 255))) ∧
    (6 / 5 ≤ m → (exponential first (.finite false m) last).wait roll attempt = pure (inDouble last) ∧
      (last.millis < 2 ^ 53 → inDouble last = last)) := by
  obtain ⟨large, ordered, whole⟩ := sound_of_check sound
  have some : 0 < first.millis := (millis_mono some).trans_lt' (by decide)
  have some' : 0 < last.millis := some.trans_le (millis_mono ordered)
  have counted (n : Nat) (past : 255 ≤ n) : min (max n 1) attemptMax = 255 := by
    rw [attemptMax]
    omega
  have wait (n : Nat) (past : 255 ≤ n) : (exponential first (.finite false m) last).wait roll n
      = pure (.ofMillis (Binary.least (growth first (.finite false m) 255)
          (double.ofNat last.millis)).toWord) := by
    rw [wait_exponential, counted n past, least_growth_mul_one some some' large]
  rw [wait attempt past, wait 255 (le_refl _)]
  refine ⟨rfl, fun short => ?_, fun quick => ⟨?_, inDouble_of_short whole⟩⟩
  · rw [← least_growth_eq_longest_iff some large whole some' short]
    exact ⟨fun same => (EStateM.Result.ok.inj (congrFun same #[])).1, congrArg pure⟩
  · have reached := (ofNat_rises_word last.millis_le).trans (word_rises_growth some quick)
    rw [show (255 : Nat) = attemptMax from rfl, reached.least.2]
    rfl

/-- One millisecond that grows by half has grown to a day at attempt 255, and stays there. -/
theorem wait_past_attemptMax_half :
    (exponential (.ofMillis 1) (.finite false (3 / 2)) (.ofSeconds 86400)).check? = none ∧
      (exponential (.ofMillis 1) (.finite false (3 / 2)) (.ofSeconds 86400)).wait ⟨0⟩ 4294967295
        = pure (.ofSeconds 86400) := by
  have sound : (exponential (.ofMillis 1) (.finite false (3 / 2)) (.ofSeconds 86400)).check? = none := by
    decide +kernel
  obtain ⟨-, -, quick⟩ := wait_past_attemptMax sound (Nat.le_refl _) ⟨0⟩
    (show 255 ≤ 4294967295 by decide)
  obtain ⟨wait, counted⟩ := quick (by norm_num)
  exact ⟨sound, wait.trans (congrArg pure (counted (by decide)))⟩

/-- One millisecond that grows by a hundred-and-twenty-eighth has grown to seven at attempt 255 and stays
there, though the power alone comes up to the longest wait of an hour before attempt 3000. -/
theorem wait_past_attemptMax_slow :
    (exponential (.ofMillis 1) (.finite false (129 / 128)) (.ofSeconds 3600)).check? = none ∧
    Duration.ofMillis 1 ≤ Duration.ofMillis 1 ∧ (1 : Rat) < 129 / 128 ∧
    (exponential (.ofMillis 1) (.finite false (129 / 128)) (.ofSeconds 3600)).wait ⟨0⟩ 3000
      = pure (.ofMillis 7) ∧
    (exponential (.ofMillis 1) (.finite false (129 / 128)) (.ofSeconds 3600)).wait ⟨0⟩ 4294967295
      = pure (.ofMillis 7) ∧
    Duration.ofMillis 7 ≠ .ofSeconds 3600 ∧
    ((Duration.ofSeconds 3600).millis : Rat) ≤ (Duration.ofMillis 1).millis * (129 / 128) ^ (3000 - 1) := by
  have wait (attempt : Nat) (past : 255 ≤ attempt) :
      (exponential (.ofMillis 1) (.finite false (129 / 128)) (.ofSeconds 3600)).wait ⟨0⟩ attempt
        = pure (.ofMillis 7) := by
    have counted : min (max attempt 1) attemptMax = 255 := by
      rw [attemptMax]
      omega
    have grown : Duration.ofMillis (grownMillis (Duration.ofMillis 1).millis (.finite false (129 / 128))
        (Duration.ofSeconds 3600).millis 255 .zero ⟨0⟩) = .ofMillis 7 := by decide +kernel
    show pure (Backoff.grown _ _ _ (max attempt 1) .zero ⟨0⟩) = _
    rw [Backoff.grown, counted, grown]
  have first : (Duration.ofMillis 1).millis = 1 := by decide
  have last : (Duration.ofSeconds 3600).millis = 3600000 := by decide
  refine ⟨by decide +kernel, Nat.le_refl _, by norm_num, wait 3000 (by decide), wait 4294967295 (by decide),
    by decide, ?_⟩
  rw [first, last, Nat.cast_one, one_mul]
  have doubled : (2 : Rat) ≤ (129 / 128) ^ 128 := by norm_num
  calc ((3600000 : Nat) : Rat) ≤ 2 ^ 23 := by norm_num
    _ ≤ ((129 / 128) ^ 128) ^ 23 := by gcongr
    _ = (129 / 128) ^ (128 * 23) := (pow_mul ..).symm
    _ ≤ (129 / 128) ^ (3000 - 1) := pow_le_pow_right₀ (by norm_num) (by decide)

end Backoff

end Breaker

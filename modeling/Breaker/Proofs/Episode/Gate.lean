import Breaker.Proofs.Episode.Trial
import Breaker.Proofs.Rate
import Breaker.Proofs.Window.Kinds

/-!
# Gate — when thresholds must be reached, and when they cannot be

A closed breaker that counts calls is in a streak (`Episode.Streak`) if the outcomes at the end of what its
window took are known.  Failures as many as its window has places are all that the window shows, so they
ask for the breaker to open, whatever it held before (`Streak.followUp_of_failures`): the minimum of calls
is capped at the size of the window, and the whole of some calls is a hundred percent of them.

A breaker in whose window no call failed or was slow reaches no threshold (`not_breached_of_clean`).  Trials
are decided alike, by calls that all failed or that were all clean (`Tries.followUp_of_failures`,
`Tries.followUp_of_clean`).
-/

namespace Breaker

namespace Trial

variable {failureThreshold slowThreshold : Binary} {calls : Nat}

/-- A trial in which all calls failed opens the breaker. -/
theorem verdict_of_failures (valid : Settings.isThreshold failureThreshold = true) (some : calls ≠ 0)
    (fits : calls < 2 ^ 32) (slow : Nat) :
    verdict failureThreshold slowThreshold calls calls slow = .opened := by
  rw [verdict, Rate.of_whole_reaches some (Nat.le_refl _) fits valid, Bool.true_or]
  rfl

/-- A trial in which no call failed or was slow closes the breaker. -/
theorem verdict_of_clean (failure : Settings.isThreshold failureThreshold = true)
    (slow : Settings.isThreshold slowThreshold = true) :
    verdict failureThreshold slowThreshold calls 0 0 = .closed := by
  rw [verdict, Rate.of_zero_reaches calls calls failure, Rate.of_zero_reaches calls calls slow]
  rfl

end Trial

namespace Episode

variable {s : Settings} {now : Nat} {e : Episode} {os : List Outcome}

/-! ### Thresholds -/

/-- A window that shows nothing but failures reaches the threshold for them. -/
theorem breached_of_failures (valid : s.check? = none) (some : e.window.totals.total ≠ 0)
    (enough : e.minimum ≤ e.window.totals.total) (fits : e.window.totals.total < 2 ^ 32)
    (failed : e.window.totals.failed = e.window.totals.total) : breached s e.rates = true := by
  have reached := Rate.of_whole_reaches some enough fits (Settings.thresholds_of_check valid).1
  rw [breached, rates, Rates.of, failed, reached, Bool.true_or]

/-- A window that shows neither failures nor slow calls reaches no threshold. -/
theorem not_breached_of_clean (valid : s.check? = none) (failed : e.window.totals.failed = 0)
    (slow : e.window.totals.slow = 0) : breached s e.rates = false := by
  obtain ⟨failure, slowness⟩ := Settings.thresholds_of_check valid
  rw [breached, rates, Rates.of, failed, slow, Rate.of_zero_reaches _ _ failure,
    Rate.of_zero_reaches _ _ slowness, Bool.false_or]

/-! ### Closed breakers that count calls -/

/-- What holds of the window of a closed breaker that counts calls: it took some outcomes, and these at
the end. -/
structure Streak (s : Settings) (e : Episode) (os : List Outcome) : Prop where
  state : e.state = .closed
  minimum : e.minimum = s.effectiveMinimum
  window : ∃ (r : Ring) (before : List Outcome),
    e.window = .calls r ∧ r.Took s.windowSize (before ++ os)

namespace Streak

/-- A mark that stays adds the outcome that it records. -/
theorem after (h : Streak s e os) (sized : s.Sized) {m : Mark} (stays : m.stays = true) :
    Streak s (e.after s now m) (os ++ m.outcome?.toList) := by
  have keeps : Keeps s e (e.after s now m) := keeps_after stays e
  obtain ⟨r, before, window, took⟩ := h.window
  refine ⟨keeps.state.trans h.state, keeps.minimum.trans h.minimum, ?_⟩
  rw [window_after stays, window]
  cases m with
  | recorded o =>
    refine ⟨r.record o, before, rfl, ?_⟩
    have recorded := took.record sized.1 o
    rwa [List.append_assoc] at recorded
  | granted | refused | released | told | settled =>
    exact ⟨r, before, rfl, by simpa [Mark.outcome?] using took⟩
  | entered => cases stays

/-- What was taken before does not matter to those at the end. -/
theorem forget (h : Streak s e os) : Streak s e [] := by
  obtain ⟨r, before, window, took⟩ := h.window
  exact ⟨h.state, h.minimum, r, before ++ os, window, by rwa [List.append_nil]⟩

/-- **Failures in a row** open a closed breaker, once they are as many as its window has places. -/
theorem followUp_of_failures (h : Streak s e os) (valid : s.check? = none)
    (count : s.windowKind = .count) (fits : s.windowSize < 2 ^ 32)
    (failures : ∀ o ∈ os, o.failed = true) (many : s.windowSize ≤ os.length) :
    e.followUp s now = some (.trip e.rates) := by
  obtain ⟨r, before, window, took⟩ := h.window
  obtain ⟨total, failed⟩ := took.totals_of_failures failures many (by omega)
  have sized := Settings.sized_of_check valid
  have capped : s.effectiveMinimum ≤ s.windowSize := by
    rw [Settings.effectiveMinimum, count]
    exact Nat.min_le_right ..
  have breach : breached s e.rates = true := by
    apply breached_of_failures valid
    · rw [window, Window.totals, total]
      exact Nat.ne_of_gt sized.1
    · rwa [window, Window.totals, total, h.minimum]
    · rwa [window, Window.totals, total]
    · rw [window, Window.totals, total, failed]
  rw [followUp_of_closed h.state, if_pos breach]

/-- **One more failure** opens a closed breaker, or there are still fewer than its window has places. -/
theorem reports (h : Streak s e os) (valid : s.check? = none) (count : s.windowKind = .count)
    (fits : s.windowSize < 2 ^ 32) {o : Outcome} (failures : ∀ other ∈ os ++ [o], other.failed = true)
    {marks : List Mark} (reports : Reports s now e o marks) :
    (e.turns s now marks = [] ∧ Streak s (e.course s now marks) (os ++ [o]) ∧
        (os ++ [o]).length < s.windowSize) ∨
      e.turns s now marks = [⟨⟨.closed, .opened⟩, false⟩] := by
  have observed : Streak s (e.observe now o) (os ++ [o]) :=
    h.after (m := .recorded o) (Settings.sized_of_check valid) rfl
  by_cases breach : breached s (e.observe now o).rates = true
  · have asks : (e.observe now o).followUp s now = some (.trip (e.observe now o).rates) := by
      rw [followUp_of_closed observed.state, if_pos breach]
    rw [← h.state]
    exact .inr (reports.of_trip asks).1
  · have asks : (e.observe now o).followUp s now = none := by
      rw [followUp_of_closed observed.state, if_neg breach]
    rw [reports.of_none asks]
    refine .inl ⟨rfl, observed, ?_⟩
    by_contra many
    rw [observed.followUp_of_failures valid count fits failures (Nat.le_of_not_lt many)] at asks
    cases asks

end Streak

/-! ### Trials -/

namespace Tries

/-- **A trial in which every call failed** opens the breaker. -/
theorem followUp_of_failures (h : Tries s e os) (valid : s.check? = none)
    (fits : s.trialCalls < 2 ^ 32) (failures : ∀ o ∈ os, o.failed = true)
    (complete : os.length = s.trialCalls) : e.followUp s now = some (.trip e.rates) := by
  cases overdue : e.isOverdue now with
  | true => exact h.followUp_of_overdue overdue
  | false =>
    have sized := Settings.sized_of_check valid
    have failed : os.countP (·.failed) = s.trialCalls := by
      rw [List.countP_eq_length.mpr failures, complete]
    obtain ⟨asks, -⟩ | ⟨-, passed⟩ := h.followUp_of_complete overdue complete (by omega)
    · exact asks
    · rw [failed, Trial.verdict_of_failures (Settings.thresholds_of_check valid).1
        (Nat.ne_of_gt sized.2) fits] at passed
      cases passed

/-- **A trial in which every call was clean** closes the breaker, unless its time is over. -/
theorem followUp_of_clean (h : Tries s e os) (valid : s.check? = none) (fits : s.trialCalls < 2 ^ 32)
    (clean : ∀ o ∈ os, o.IsClean) (inTime : e.isOverdue now = false)
    (complete : os.length = s.trialCalls) : e.followUp s now = some .close := by
  obtain ⟨failure, slowness⟩ := Settings.thresholds_of_check valid
  have failed : os.countP (·.failed) = 0 :=
    List.countP_eq_zero.mpr fun o mem => by simp [(clean o mem).1]
  have slow : os.countP (·.slow) = 0 :=
    List.countP_eq_zero.mpr fun o mem => by simp [(clean o mem).2]
  obtain ⟨-, failed'⟩ | ⟨asks, -⟩ := h.followUp_of_complete inTime complete (by omega)
  · rw [failed, slow, Trial.verdict_of_clean failure slowness] at failed'
    cases failed'
  · exact asks

/-- **One more failure** opens the breaker, or the trial still lacks outcomes. -/
theorem reports_of_failures (h : Tries s e os) (valid : s.check? = none) (fits : s.trialCalls < 2 ^ 32)
    {o : Outcome} (failures : ∀ other ∈ os ++ [o], other.failed = true)
    (few : os.length < s.trialCalls) {marks : List Mark} (reports : Reports s now e o marks) :
    (e.turns s now marks = [] ∧ Tries s (e.course s now marks) (os ++ [o]) ∧
        (os ++ [o]).length < s.trialCalls) ∨
      e.turns s now marks = [⟨⟨.halfOpen, .opened⟩, false⟩] := by
  have observed : Tries s (e.observe now o) (os ++ [o]) :=
    h.after (m := .recorded o) (Settings.sized_of_check valid) rfl
  rw [List.length_append, List.length_singleton, ← h.state]
  cases overdue : (e.observe now o).isOverdue now with
  | true => exact .inr (reports.of_trip (observed.followUp_of_overdue overdue)).1
  | false =>
    obtain more | complete := Nat.lt_or_eq_of_le (Nat.succ_le_of_lt few)
    · have asks : (e.observe now o).followUp s now = none :=
        observed.followUp_of_few overdue (by simpa using more) (by omega)
      rw [reports.of_none asks]
      exact .inl ⟨rfl, observed, more⟩
    · exact .inr (reports.of_trip
        (observed.followUp_of_failures valid fits failures (by simpa using complete))).1

/-- **One more clean call** in time closes the breaker, or the trial still lacks outcomes. -/
theorem reports_of_clean (h : Tries s e os) (valid : s.check? = none) (fits : s.trialCalls < 2 ^ 32)
    {o : Outcome} (clean : ∀ other ∈ os ++ [o], other.IsClean) (few : os.length < s.trialCalls)
    (inTime : e.isOverdue now = false) {marks : List Mark} (reports : Reports s now e o marks) :
    (e.turns s now marks = [] ∧ Tries s (e.course s now marks) (os ++ [o]) ∧
        (os ++ [o]).length < s.trialCalls) ∨
      e.turns s now marks = [⟨⟨.halfOpen, .closed⟩, false⟩] := by
  have observed : Tries s (e.observe now o) (os ++ [o]) :=
    h.after (m := .recorded o) (Settings.sized_of_check valid) rfl
  rw [List.length_append, List.length_singleton, ← h.state]
  obtain more | complete := Nat.lt_or_eq_of_le (Nat.succ_le_of_lt few)
  · have asks : (e.observe now o).followUp s now = none :=
      observed.followUp_of_few inTime (by simpa using more) (by omega)
    rw [reports.of_none asks]
    exact .inl ⟨rfl, observed, more⟩
  · exact .inr (reports.of_close
      (observed.followUp_of_clean valid fits clean inTime (by simpa using complete))).1

end Tries

/-! ### Breakers without failures -/

/-- A closed breaker whose window took clean outcomes only. -/
structure Spotless (e : Episode) : Prop where
  state : e.state = .closed
  window : e.window.Only Outcome.IsClean

namespace Spotless

theorem after (h : Spotless e) {m : Mark} (stays : m.stays = true)
    (clean : ∀ o, m.outcome? = some o → o.IsClean) : Spotless (e.after s now m) := by
  have keeps : Keeps s e (e.after s now m) := keeps_after stays e
  refine ⟨keeps.state.trans h.state, ?_⟩
  rw [window_after stays]
  cases m with
  | recorded o => exact h.window.record now (clean o rfl)
  | settled => exact h.window.settle now
  | granted | refused | released | told => exact h.window
  | entered => cases stays

/-- **Without failures and slow calls** a closed breaker asks for nothing. -/
theorem followUp_eq_none (h : Spotless e) (valid : s.check? = none) : e.followUp s now = none := by
  obtain ⟨failed, slow⟩ := h.window.totals_of_clean
  rw [followUp_of_closed h.state, not_breached_of_clean valid failed slow,
    if_neg Bool.false_ne_true]

/-- **One more clean call** changes no state. -/
theorem reports (h : Spotless e) (valid : s.check? = none) {o : Outcome} (clean : o.IsClean)
    {marks : List Mark} (reports : Reports s now e o marks) :
    e.turns s now marks = [] ∧ Spotless (e.course s now marks) := by
  have observed : Spotless (e.observe now o) := by
    refine h.after (s := s) (m := .recorded o) rfl fun other recorded => ?_
    obtain rfl := Option.some.inj recorded
    exact clean
  rw [reports.of_none (observed.followUp_eq_none valid)]
  exact ⟨rfl, observed⟩

end Spotless

end Episode

end Breaker

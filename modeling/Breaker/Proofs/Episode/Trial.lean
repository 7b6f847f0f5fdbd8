import Breaker.Proofs.Episode.Edges
import Breaker.Proofs.Window.LastCalls

/-!
# Trial — how a half-open episode is decided

A trial admits a number of calls, and its window holds as many.  `Episode.Tries` says which outcomes it
has taken so far.  It is decided by the outcome that completes it, or by one past its deadline, and
asks for nothing before (`Tries.followUp_of_few`).

The decision on a complete trial is `Trial.verdict`: a function of the two thresholds, of the number of
calls, and of how many of them failed and how many were slow.  The order of the calls, their durations
and everything that was recorded before the trial do not enter it.
-/

namespace Breaker

/-- The state that a trial of some calls leads to, by how many of them failed and were slow. -/
def Trial.verdict (failureThreshold slowThreshold : Binary) (calls failed slow : Nat) : State :=
  if (Rate.of failed calls calls).reaches failureThreshold ||
    (Rate.of slow calls calls).reaches slowThreshold then .opened
  else .closed

namespace Episode

variable {s : Settings} {now : Nat} {e : Episode} {os : List Outcome} {o : Outcome}

/-- A half-open episode and the outcomes that it took. -/
structure Tries (s : Settings) (e : Episode) (os : List Outcome) : Prop where
  state : e.state = .halfOpen
  minimum : e.minimum = s.trialCalls
  window : ∃ r : Ring, e.window = .calls r ∧ r.Took s.trialCalls os

namespace Tries

/-- A trial is entered with no outcome. -/
theorem of_entered (e : Episode) (wait : Duration) (manual : Bool) (timer : Option Nat) :
    Tries s (e.after s now (.entered .halfOpen wait manual timer)) [] := by
  have fresh : e.next s now .halfOpen wait manual = _ := next_of_fresh (fun trip => by cases trip.1) wait
  rw [after, fresh]
  exact ⟨rfl, rfl, Ring.empty s.trialCalls, rfl, Ring.took_empty _⟩

/-- A mark that stays adds the outcome that it records. -/
theorem after (h : Tries s e os) (sized : s.Sized) {m : Mark} (stays : m.stays = true) :
    Tries s (e.after s now m) (os ++ m.outcome?.toList) := by
  have keeps : Keeps s e (e.after s now m) := keeps_after stays e
  obtain ⟨r, window, took⟩ := h.window
  refine ⟨keeps.state.trans h.state, keeps.minimum.trans h.minimum, ?_⟩
  rw [window_after stays, window]
  cases m with
  | recorded o => exact ⟨r.record o, rfl, took.record sized.2 o⟩
  | granted | refused | released | told | settled =>
    exact ⟨r, rfl, by simpa [Mark.outcome?] using took⟩
  | entered => cases stays

/-- Marks that stay and record nothing leave a trial with what it had. -/
theorem course (h : Tries s e os) (sized : s.Sized) {marks : List Mark}
    (stay : ∀ m ∈ marks, m.stays = true ∧ m.outcome? = none) :
    Tries s (e.course s now marks) os := by
  refine course_preserves (P := fun e : Episode => Tries s e os) (fun m mem e tries => ?_) h
  have after : Tries s (e.after s now m) _ := tries.after sized (stay m mem).1
  rwa [(stay m mem).2, Option.toList_none, List.append_nil] at after

/-- The window shows the outcomes that were taken, as long as there are no more than admitted. -/
theorem totals_eq (h : Tries s e os) (few : os.length ≤ s.trialCalls) (fits : s.trialCalls < 2 ^ 63) :
    e.window.totals = Snapshot.ofOutcomes os := by
  obtain ⟨r, window, took⟩ := h.window
  have all : Ring.lastOf s.trialCalls os = os := by
    rw [Ring.lastOf, Nat.sub_eq_zero_of_le few, List.drop_zero]
  have shown := took.ofTally_totals (Nat.lt_of_le_of_lt (Nat.min_le_right ..) fits)
  rwa [window, Window.totals, ← all]

theorem followUp_of_overdue (h : Tries s e os) (overdue : e.isOverdue now = true) :
    e.followUp s now = some (.trip e.rates) := by
  rw [followUp_of_halfOpen h.state, if_pos overdue]

/-- **A trial asks for nothing** before it is complete. -/
theorem followUp_of_few (h : Tries s e os) (inTime : e.isOverdue now = false)
    (few : os.length < s.trialCalls) (fits : s.trialCalls < 2 ^ 63) : e.followUp s now = none := by
  have shown : e.window.totals.total = os.length := by rw [h.totals_eq few.le fits]; rfl
  rw [followUp_of_halfOpen h.state, inTime, if_neg Bool.false_ne_true, h.minimum, shown, if_pos few]

/-- **A complete trial** asks for what its verdict is. -/
theorem followUp_of_complete (h : Tries s e os) (inTime : e.isOverdue now = false)
    (complete : os.length = s.trialCalls) (fits : s.trialCalls < 2 ^ 63) :
    (e.followUp s now = some (.trip e.rates) ∧
        Trial.verdict s.failureRateThreshold s.slowCallRateThreshold s.trialCalls
          (os.countP (·.failed)) (os.countP (·.slow)) = .opened) ∨
      (e.followUp s now = some .close ∧
        Trial.verdict s.failureRateThreshold s.slowCallRateThreshold s.trialCalls
          (os.countP (·.failed)) (os.countP (·.slow)) = .closed) := by
  have shown := h.totals_eq complete.le fits
  have total : e.window.totals.total = s.trialCalls := by rw [shown, ← complete]; rfl
  have rates : e.rates = ⟨Rate.of (os.countP (·.failed)) s.trialCalls s.trialCalls,
      Rate.of (os.countP (·.slow)) s.trialCalls s.trialCalls⟩ := by
    rw [Episode.rates, h.minimum, shown, Rates.of, ← complete]
    rfl
  have breach : breached s e.rates
      = ((Rate.of (os.countP (·.failed)) s.trialCalls s.trialCalls).reaches s.failureRateThreshold ||
        (Rate.of (os.countP (·.slow)) s.trialCalls s.trialCalls).reaches
          s.slowCallRateThreshold) := by rw [rates, breached]
  rw [followUp_of_halfOpen h.state, inTime, if_neg Bool.false_ne_true, h.minimum, total,
    if_neg (Nat.lt_irrefl _), Trial.verdict, ← breach]
  cases breached s e.rates with
  | true => exact .inl ⟨rfl, rfl⟩
  | false => exact .inr ⟨rfl, rfl⟩

end Tries

/-! ### How a trial begins -/

/-- An episode is still the current one, or another one was entered and nothing recorded since. -/
def Begun (s : Settings) (now : Nat) (e e' : Episode) : Prop :=
  e'.number = e.number ∨
    ∃ (before : Episode) (target : State) (wait : Duration) (manual : Bool) (timer : Option Nat)
      (rest : List Mark),
      e' = (before.after s now (.entered target wait manual timer)).course s now rest ∧
        ∀ m ∈ rest, m.stays = true ∧ m.outcome? = none

theorem Begun.of_stays {m : Mark} (stays : m.stays = true) (e : Episode) :
    Begun s now e (e.after s now m) := .inl (keeps_after (s := s) stays e).number

/-- A trial that has begun took nothing yet. -/
theorem Begun.tries {e' : Episode} (h : Begun s now e e') (sized : s.Sized)
    (another : e'.number ≠ e.number) (trial : e'.state = .halfOpen) : Tries s e' [] := by
  obtain same | ⟨before, target, wait, manual, timer, rest, rfl, stay⟩ := h
  · exact absurd same another
  · have entered : (before.after s now (.entered target wait manual timer)).state = target :=
      next_state ..
    rw [(keeps_course (fun m mem => (stay m mem).1) _).state, entered] at trial
    subst trial
    exact (Tries.of_entered before wait manual timer).course sized stay

/-- If the time of some episodes was over, another one was entered. -/
theorem Lapses.entered {e' : Episode} {marks : List Mark} (h : Lapses s now e marks e') :
    marks = [] ∨ ∃ (before : Episode) (target : State) (wait : Duration) (timer : Option Nat),
      e' = before.after s now (.entered target wait false timer) := by
  induction h with
  | refl => exact .inl rfl
  | @more e _ target wait timer marks _ t ih =>
    cases t with
    | refl => exact .inr ⟨e, target, wait, timer, rfl⟩
    | more => exact .inr (ih.resolve_left (List.cons_ne_nil _ _))

/-- So was one if an outcome asked for it. -/
theorem Reports.begun {marks : List Mark} (h : Reports s now e o marks) :
    Begun s now e (e.course s now marks) := by
  cases h with
  | alone => exact .inl rfl
  | told => exact (Begun.of_stays rfl (e.observe now o) : Begun s now _ (after s now _ .told))
  | tripped _ wait timer =>
    exact .inr ⟨_, .opened, wait, false, timer, [], rfl, List.forall_mem_nil _⟩
  | passed _ wait timer =>
    exact .inr ⟨_, .closed, wait, false, timer, [], rfl, List.forall_mem_nil _⟩

end Episode

end Breaker

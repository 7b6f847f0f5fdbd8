import Breaker.Proofs.World.Overdue

/-!
# Answered — where a request ends

A request goes on from each episode whose time is over to the next, and the first one whose time is not
over answers it.  That episode denies the request if it bars calls (`Episode.Bars`), and then counts one
more refusal; else it lets the call pass.  `answered_within_three` says so of every request, and that three
episodes are enough for one.

They are enough because a trial that has just begun is not overdue.  At the end of readings a deadline can
no longer be ahead of the reading it is set at, so a trial with a deadline is overdue as it begins, the
breaker opens again with its wait over, and the request is never answered (`never_answered`).
-/

namespace Breaker

variable {γ : Type}

namespace Episode

variable {s : Settings} {now : Nat} {e e' : Episode} {marks : List Mark}

/-- No call may pass at a reading: an open breaker still waits, or keeps calls out for good, or no permit
of a trial is left. -/
def Bars (e : Episode) (now : Nat) : Prop :=
  match e.phase with
  | .opened retryAt => now < retryAt
  | .forcedOpen => True
  | .halfOpen permits _ => permits.available = 0
  | .closed | .disabled | .metricsOnly _ => False

/-- A request is denied by an episode that bars calls and whose time is not over. -/
theorem request_eq_denied_iff : e.request now = .denied ↔ e.Bars now ∧ e.isOverdue now = false := by
  rw [request, Bars, isOverdue]
  cases e.phase with
  | closed | disabled | metricsOnly | forcedOpen => simp
  | opened retryAt =>
    by_cases passed : retryAt ≤ now
    · simp [passed]
    · simp [passed, Nat.lt_of_not_le passed]
  | halfOpen permits deadline =>
    cases passed : deadline.any (· ≤ now) with
    | true => simp [passed]
    | false =>
      cases take : permits.take? with
      | none => simp [passed, take, Permits.take?_eq_none_iff.mp take]
      | some left =>
        have left : permits.available ≠ 0 := fun empty => by
          rw [Permits.take?_eq_none_iff.mpr empty] at take
          cases take
        simp [passed, take, left]

theorem not_bars_of_granted {taken : Episode} (granted : e.request now = .granted taken) :
    ¬e.Bars now := by
  intro bars
  cases overdue : e.isOverdue now with
  | false =>
    rw [request_eq_denied_iff.mpr ⟨bars, overdue⟩] at granted
    cases granted
  | true =>
    rw [request_eq_expired_iff.mpr (.inr ⟨overdue, rfl⟩)] at granted
    cases granted

/-- Each episode whose time is over is one change of state. -/
theorem Lapses.length_turns (h : Lapses s now e marks e') :
    (e.turns s now marks).length = marks.length := by
  induction h with
  | refl => rfl
  | more _ _ ih => rw [turns_cons, List.length_append, ih, List.length_cons, Nat.add_comm]; rfl

/-! ### The end of readings -/

/-- At the end of readings, the time of a state that follows on a state whose time was over is over. -/
theorem request_entered_at_end (limited : s.trialLimit.isZero = false) {target : State}
    (expired : e.request wordMax = .expired target) (wait : Duration) (timer : Option Nat) :
    ∃ next, (e.after s wordMax (.entered target wait false timer)).request wordMax
      = .expired next := by
  have phase : (e.after s wordMax (.entered target wait false timer)).phase
      = phaseOf s target wordMax wait := next_phase ..
  have past (word : Nat) : later wordMax word ≤ wordMax := Nat.min_le_right ..
  obtain ⟨-, rfl⟩ | ⟨-, rfl⟩ := request_eq_expired_iff.mp expired
  · refine ⟨.opened, request_eq_expired_iff.mpr (.inr ⟨?_, rfl⟩)⟩
    rw [isOverdue, phase, phaseOf, limited]
    exact decide_eq_true (past _)
  · refine ⟨.halfOpen, request_eq_expired_iff.mpr (.inl ⟨?_, rfl⟩)⟩
    rw [isWaitOver, phase]
    exact decide_eq_true (past _)

/-- At the end of readings, the episodes that a request finds over lead to one that is over. -/
theorem Lapses.expired_at_end (limited : s.trialLimit.isZero = false)
    (h : Lapses s wordMax e marks e') {target : State} (expired : e.request wordMax = .expired target) :
    ∃ next, e'.request wordMax = .expired next := by
  induction h generalizing target with
  | refl => exact ⟨target, expired⟩
  | more expired' _ ih =>
    obtain ⟨next, again⟩ := request_entered_at_end limited expired' _ _
    exact ih again

end Episode

namespace World

variable {react : React γ} {w : World γ} {id : CircuitId}

/-- **Where a request ends**, however many episodes it may go through. -/
theorem Asks.ends {permitted : Bool} {marks : List Mark} {after : World γ}
    (asks : w.Asks id permitted marks) (course : Course id w marks after) :
    ∃ lapses e, Episode.Lapses (w.circuit id).settings (w.reading id) (w.episode id) lapses e ∧
      (Journal.turnsOf id (after.entriesSince w)).length = lapses.length ∧
      (permitted = false ↔ e.Bars (w.reading id)) ∧
      (permitted = true → e.request (w.reading id) = .granted (after.episode id)) ∧
      (permitted = false → e.request (w.reading id) = .denied ∧
        after.episode id = { e with rejected := e.rejected + 1 }) := by
  obtain ⟨lapses, e, lapse, -, answered⟩ := asks
  have told := course.turnsOf_entriesSince
  have last := course.episode
  refine ⟨lapses, e, lapse, ?_⟩
  obtain ⟨rfl, ⟨taken, granted⟩, rfl⟩ | ⟨rfl, denied, rfl⟩ := answered
  · rw [Episode.course_append, lapse.course_eq, Episode.course_cons, Episode.course_nil,
      Episode.after, granted] at last
    refine ⟨?_, iff_of_false Bool.noConfusion (Episode.not_bars_of_granted granted), fun _ => ?_,
      fun no => Bool.noConfusion no⟩
    · rw [told, Episode.turns_append, List.length_append, lapse.length_turns]
      rfl
    · rw [granted, last]
  · rw [Episode.course_append, lapse.course_eq] at last
    refine ⟨?_, iff_of_true rfl (Episode.request_eq_denied_iff.mp denied).1,
      fun no => Bool.noConfusion no, fun _ => ⟨denied, last⟩⟩
    rw [told, Episode.turns_append, List.length_append, lapse.length_turns]
    rfl

/-- **A request is answered within three episodes.**  Under consumers that do not call back and a wait
function that returns, a request that is answered went from one episode to the next, a change of state
each, while their time was over; the last one denied it exactly if it bars calls, and then counts one more
refusal.  Three episodes and so two changes of state are enough, unless trials have a deadline and readings
have come to their end. -/
theorem answered_within_three (quiet : Quiet react) (there : id < w.circuits.size)
    (returns : ∀ cause, ¬(w.circuit id).settings.WaitFails cause) :
    (∀ tries permitted after, tryAcquire react id tries w = .ok permitted after →
      ∃ lapses e, Episode.Lapses (w.circuit id).settings (w.reading id) (w.episode id) lapses e ∧
        (Journal.turnsOf id (after.entriesSince w)).length = lapses.length ∧
        (permitted = false ↔ e.Bars (w.reading id)) ∧
        (permitted = true → e.request (w.reading id) = .granted (after.episode id)) ∧
        (permitted = false → e.request (w.reading id) = .denied ∧
          after.episode id = { e with rejected := e.rejected + 1 })) ∧
    (((w.circuit id).settings.trialLimit.isZero = false → w.reading id < 2 ^ 64 - 1) →
      ∃ permitted after, (∀ tries, 3 ≤ tries → tryAcquire react id tries w = .ok permitted after) ∧
        (Journal.turnsOf id (after.entriesSince w)).length ≤ 2) := by
  have ended {tries : Nat} {permitted : Bool} {after : World γ}
      (run : tryAcquire react id tries w = .ok permitted after) :
      ∃ marks, w.Asks id permitted marks ∧ Course id w marks after := by
    have asked : Yields (tryAcquire react id tries) w
        (fun permitted after => ∃ marks, w.Asks id permitted marks ∧ Course id w marks after)
        fun _ _ => True :=
      @Operation.yields_tryAcquire γ (fun _ => react) w id quiet tries there _ _
        (fun permitted marks after asks goes => ⟨marks, asks, goes.course there⟩)
        (fun _ _ _ => trivial) fun _ _ _ _ _ => trivial
    exact asked.of_ok run
  refine ⟨fun tries permitted after run => ?_, fun early => ?_⟩
  · obtain ⟨marks, asks, course⟩ := ended run
    exact asks.ends course
  · obtain ⟨permitted, after, run⟩ := tryAcquire_answers quiet there returns early (Nat.le_refl 3)
    refine ⟨permitted, after, fun tries enough => ?_, ?_⟩
    · induction tries, enough using Nat.le_induction with
      | base => exact run
      | succ tries _ ih => exact tryAcquire_succ ih
    · obtain ⟨marks, asks, course⟩ := ended run
      obtain ⟨lapses, e, lapse, length, -⟩ := asks.ends course
      exact length ▸ lapse.length_le early

/-- An overdue trial with a deadline of one nanosecond, in a breaker that need not wait, is ended by a
request that begins the next trial. -/
theorem answered_within_three_hasty :
    ∃ w : World Unit, (w.episode 0).isOverdue (w.reading 0) = true ∧
      ∃ after, (∀ tries, 3 ≤ tries → tryAcquire .silent 0 tries w = .ok true after) ∧
        (after.episode 0).number = (w.episode 0).number + 2 ∧
        (Journal.turnsOf 0 (after.entriesSince w)).length ≤ 2 := by
  obtain ⟨c, built, w, forced, there, fixed, overdue, early, v, run, number⟩ :
      ∃ c : Circuit, (Blueprint.ofChoices "" [.trialLimit (.ofNanos 1), .wait .zero,
          .timeSource .shared]).build (World.empty 0 ⟨0⟩ ()) = .ok c ∧
      ∃ w : World Unit, (do
          force .silent 0 .halfOpen
          modify fun w => { w with clock := w.clock.set 1 } : Act Unit Unit)
        ((World.empty 0 ⟨0⟩ ()).addCircuit c) = .ok () w ∧
      0 < w.circuits.size ∧ (w.circuit 0).settings.backoff = .fixed .zero ∧
      (w.episode 0).isOverdue (w.reading 0) = true ∧ w.reading 0 < 2 ^ 64 - 1 ∧
      ∃ v, tryAcquire .silent 0 3 w = .ok true v ∧
        (v.episode 0).number = (w.episode 0).number + 2 :=
    ⟨_, rfl, _, rfl, by decide +kernel, rfl, by decide +kernel, by decide +kernel, _, rfl, rfl⟩
  have returns (cause : Abort) : ¬(w.circuit 0).settings.WaitFails cause := by
    rintro ⟨roll, attempt, fails⟩
    rw [fixed] at fails
    cases fails
  obtain ⟨-, answered⟩ := answered_within_three Quiet.silent there returns
  obtain ⟨permitted, after, runs, few⟩ := answered fun _ => early
  obtain ⟨rfl, rfl⟩ := EStateM.Result.ok.inj ((runs 3 (Nat.le_refl 3)).symm.trans run)
  exact ⟨w, overdue, after, runs, number, few⟩

/-- **At the end of readings** a request to a breaker whose time is over is never answered, if trials have
a deadline: however many episodes it may go through, it goes through them all. -/
theorem never_answered (quiet : Quiet react) (there : id < w.circuits.size)
    (returns : ∀ cause, ¬(w.circuit id).settings.WaitFails cause)
    (limited : (w.circuit id).settings.trialLimit.isZero = false) (ended : w.reading id = 2 ^ 64 - 1)
    {target : State} (expired : (w.episode id).request (w.reading id) = .expired target)
    (tries : Nat) : ∃ after, tryAcquire react id tries w = .error .unsettled after := by
  have ended : w.reading id = wordMax := ended
  rw [ended] at expired
  have leads {lapses : List Mark} {e : Episode} (lapse : Episode.Lapses (w.circuit id).settings
      (w.reading id) (w.episode id) lapses e) : ∃ next, e.request (w.reading id) = .expired next := by
    rw [ended] at lapse ⊢
    exact lapse.expired_at_end limited expired
  have spent : Yields (tryAcquire react id tries) w (fun _ _ => False)
      fun cause _ => cause = .unsettled := by
    refine quiet.tryAcquire tries there (fun lapses e taken after lapse _ granted _ => ?_)
      (fun lapses e after lapse _ denied _ => ?_) (fun cause _ fails => (returns cause fails).elim)
      fun _ _ _ _ _ => rfl
    · obtain ⟨next, again⟩ := leads lapse
      rw [again] at granted
      cases granted
    · obtain ⟨next, again⟩ := leads lapse
      rw [again] at denied
      cases denied
  cases run : tryAcquire react id tries w with
  | ok permitted after => exact (spent.of_ok run).elim
  | error cause after =>
    obtain rfl := spent.of_error run
    exact ⟨after, rfl⟩

end World

end Breaker

import Breaker.Proofs.Scenario.Always
import Breaker.Proofs.World.Ledger

/-!
# Trials — calls in a trial, and calls from before it

A half-open circuit admits a number of calls to its trial.  Both results here are about every world that a
scenario may come to, whatever subscribers do meanwhile, about what its journal tells of permissions
(`Journal.dealings`), and about any way to tell for which permission each report and each release is meant
(`Ledger.Accounts`).

`late_calls_take_part` says what calls do that were granted before the trial: their reports are outcomes
of the trial like any other, and a permission that they give back is one more for the trial.
`late_calls_take_part_overtaken` is a run in which they alone decide one trial, and let more calls into
the next than it admits.  `trial_admits_again` says that a trial cannot lock everybody out: once all its
calls were answered, it is over or admits another one.
-/

namespace Breaker

namespace Scenario

variable {plans : List Plan} {start : Nat} {dice : Dice} {w : World Session} {id : CircuitId}

/-- What a scenario goes through, as a circuit that was built for it sees it.  What it does with the
permissions of the circuit is what the journal tells of them. -/
theorem passage_of_trace (built : plans.foldlM addPlan (World.empty start dice Session.empty) = .ok w)
    (there : id < w.circuits.size) {whole : Prop} {v : World Session} {hs : List Happening}
    (trace : sessions.Trace whole .acts w hs v) :
    (w.circuit id).settings.Sized ∧ (w.episode id).state = .closed ∧
      (w.episode id).Decided (w.circuit id).settings ∧
      (w.episode id).Passage (w.circuit id).settings id hs (v.episode id) ∧
      Happening.dealings id hs = Journal.dealings (w.circuit id) id v.journal.toList := by
  have planned := planned_addPlans built (planned_empty start dice)
  obtain ⟨valid, now, begun⟩ := planned.fresh id there
  have sized := Settings.sized_of_check valid
  refine ⟨sized, by rw [begun]; rfl, ?_, (trace.passes there).passage, ?_⟩
  · rw [begun]
    exact Episode.decided_begin now sized 0 0 .closed
  · rw [trace.dealings, trace.journal, planned.journal]
    simp

/-- A scenario comes to the world that its steps lead to. -/
theorem unfolds_of_built (built : plans.foldlM addPlan (World.empty start dice Session.empty) = .ok w)
    (allowance : Nat) (detail : Detail) (steps : List Step) :
    sessions.Unfolds False .acts w (runSteps allowance detail steps w).2 := by
  have sound : w.Sound := (leads_addPlans built).sound (World.sound_empty ..)
  exact (unfolds_runSteps allowance detail steps sound).mono False.elim

/-! ### Calls from before a trial -/

/-- **Calls from before a trial take part in it.**  Whatever a scenario comes to, and however its reports
and releases are told apart, the window of a trial shows the outcomes reported since it began, those of
its own calls and late ones alike, up to as many as it admits.  A circuit closes of itself only when there
were so many.  The permissions of the trial that were not answered yet are at most as many as it admits,
and as late calls gave back.  So with no late report it takes as many reports of its own calls to close
it, and with no late release no more of its calls are under way than it admits. -/
theorem late_calls_take_part
    (built : plans.foldlM addPlan (World.empty start dice Session.empty) = .ok w)
    (there : id < w.circuits.size) :
    (∀ allowance detail steps,
      sessions.Unfolds False .acts w (runSteps allowance detail steps w).2) ∧
    ∀ v calls admitted, sessions.Unfolds False .acts w v →
      calls = Journal.dealings (w.circuit id) id v.journal.toList →
      admitted = (w.circuit id).settings.trialCalls →
      (∀ l permits deadline, Ledger.Accounts .empty calls l →
        (v.episode id).phase = .halfOpen permits deadline →
        permits.available + l.unanswered ≤ admitted + l.lateReleases ∧
          (min (l.own + l.late) admitted < 2 ^ 63 →
            (v.episode id).window.totals.total = min (l.own + l.late) admitted)) ∧
      ∀ before l, before ++ [.entered .closed false] <+: calls →
        Ledger.Accounts .empty before l → admitted ≤ l.own + l.late := by
  refine ⟨unfolds_of_built built, fun v calls admitted ⟨hs, trace⟩ told eq => ?_⟩
  subst eq
  obtain ⟨sized, closed, -, passage, dealings⟩ := passage_of_trace built there trace
  rw [← dealings] at told
  subst told
  refine ⟨fun l permits deadline accounts phase => ?_, fun before l upTo accounts => ?_⟩
  · obtain ⟨os, balance⟩ := passage.balance sized accounts closed phase
    exact ⟨balance.most, balance.total_eq⟩
  · obtain ⟨hs₁, e, earlier, rfl, proper, complete⟩ := passage.upTo_entered upTo
    have edge : Transition.IsEdge ⟨e.state, .closed⟩ := proper.resolve_left Bool.false_ne_true
    have trial : e.state = .halfOpen := by
      generalize e.state = source at edge
      cases edge
      rfl
    obtain ⟨permits, os, balance⟩ := earlier.balanced sized accounts (.of_closed closed) trial
    exact balance.le_of_complete (complete rfl rfl)

/-- Two calls are let through a closed circuit, which is then half open by hand.  The first of them is
reported.  When the circuit is half open by hand again, the second gives its permission back while a call
of the trial is under way. -/
def overtake : List Step :=
  [.on 0 .tryAcquire, .on 0 .tryAcquire, .on 0 (.to .halfOpen), .on 0 (.success .zero),
    .on 0 (.to .halfOpen), .on 0 .tryAcquire, .on 0 .release, .on 0 .tryAcquire]

/-- What is done until the first trial is passed, and after it. -/
def overtaking : List Dealing := [.granted, .granted, .entered .halfOpen true, .recorded]

def overtakingAgain : List Dealing :=
  [.returned, .entered .halfOpen true, .granted, .released, .granted]

/-- The trial was passed with one outcome, a late one, as it admits one call. -/
theorem late_calls_take_part_one : ∃ w v before l,
    [Plan.hasty].foldlM addPlan (World.empty 0 seed .empty) = .ok w ∧
    (w.circuit 0).settings.trialCalls = 1 ∧ v = (runSteps 2 .none overtake w).2 ∧
    before ++ [.entered .closed false] <+: Journal.dealings (w.circuit 0) 0 v.journal.toList ∧
    Ledger.Accounts .empty before l ∧ l.late = 1 ∧
    (w.circuit 0).settings.trialCalls ≤ l.own + l.late := by
  obtain ⟨w, v, built, there, one, ran, told⟩ : ∃ w v,
      [Plan.hasty].foldlM addPlan (World.empty 0 seed .empty) = .ok w ∧ 0 < w.circuits.size ∧
      (w.circuit 0).settings.trialCalls = 1 ∧ v = (runSteps 2 .none overtake w).2 ∧
      Journal.dealings (w.circuit 0) 0 v.journal.toList
        = overtaking ++ .entered .closed false :: overtakingAgain :=
    ⟨_, _, rfl, Nat.zero_lt_one, rfl, rfl, by decide +kernel⟩
  have accounts : Ledger.Accounts .empty overtaking ⟨0, 0, 1, 0⟩ :=
    .cons (.granted _) (.cons (.granted _) (.cons (.entered _ _ _) (.cons (.reportedLate _) (.nil _))))
  have upTo : overtaking ++ [.entered .closed false]
      <+: Journal.dealings (w.circuit 0) 0 v.journal.toList := ⟨overtakingAgain, by rw [told]; rfl⟩
  obtain ⟨runs, takes⟩ := late_calls_take_part built there
  have led := runs 2 .none overtake
  rw [← ran] at led
  exact ⟨w, v, overtaking, _, built, one, ran, upTo, accounts, rfl,
    (takes v _ _ led rfl rfl).2 overtaking _ upTo accounts⟩

/-- The circuit closes of itself though no call of the trial was reported.  In the next trial, which
admits one call, two are under way.  A run shows it: the only report closes the circuit, before any
request of the trial, and all requests are granted. -/
theorem late_calls_take_part_overtaken : ∃ w rows last before l l',
    [Plan.hasty].foldlM addPlan (World.empty 0 seed .empty) = .ok w ∧
    (w.circuit 0).settings.trialCalls = 1 ∧
    runSteps 2 .none overtake w = (rows, last) ∧
    rows.map (fun row => match row.answer with | .flag granted => some granted | _ => none)
      = [some true, some true, none, none, none, some true, none, some true] ∧
    Journal.turnsOf 0 last.journal.toList = [⟨⟨.closed, .halfOpen⟩, true⟩,
      ⟨⟨.halfOpen, .closed⟩, false⟩, ⟨⟨.closed, .halfOpen⟩, true⟩] ∧
    before ++ [.entered .closed false] <+: Journal.dealings (w.circuit 0) 0 last.journal.toList ∧
    Ledger.Accounts .empty before l ∧ l.own = 0 ∧
    Ledger.Accounts .empty (Journal.dealings (w.circuit 0) 0 last.journal.toList) l' ∧
    l'.unanswered = 2 := by
  obtain ⟨w, rows, last, built, one, ran, answers, turns, told⟩ : ∃ w rows last,
      [Plan.hasty].foldlM addPlan (World.empty 0 seed .empty) = .ok w ∧
      (w.circuit 0).settings.trialCalls = 1 ∧ runSteps 2 .none overtake w = (rows, last) ∧
      rows.map (fun row => match row.answer with | .flag granted => some granted | _ => none)
        = [some true, some true, none, none, none, some true, none, some true] ∧
      Journal.turnsOf 0 last.journal.toList = [⟨⟨.closed, .halfOpen⟩, true⟩,
        ⟨⟨.halfOpen, .closed⟩, false⟩, ⟨⟨.closed, .halfOpen⟩, true⟩] ∧
      Journal.dealings (w.circuit 0) 0 last.journal.toList
        = overtaking ++ .entered .closed false :: overtakingAgain :=
    ⟨_, _, _, rfl, rfl, rfl, by decide +kernel, by decide +kernel, by decide +kernel⟩
  have all : Ledger.Accounts .empty (overtaking ++ .entered .closed false :: overtakingAgain)
      ⟨2, 0, 0, 1⟩ :=
    .cons (.granted _) (.cons (.granted _) (.cons (.entered _ _ _) (.cons (.reportedLate _)
      (.cons (.entered _ _ _) (.cons (.returned _) (.cons (.entered _ _ _) (.cons (.granted _)
        (.cons (.releasedLate _) (.cons (.granted _) (.nil _))))))))))
  refine ⟨w, rows, last, overtaking, ⟨0, 0, 1, 0⟩, ⟨2, 0, 0, 1⟩, built, one, ran, answers, turns, ?_, ?_,
    rfl, ?_, rfl⟩
  · exact ⟨overtakingAgain, by rw [told]; rfl⟩
  · exact .cons (.granted _) (.cons (.granted _) (.cons (.entered _ _ _)
      (.cons (.reportedLate _) (.nil _))))
  · rwa [told]

/-! ### Calls after a trial's calls -/

/-- A request that the current episode grants is granted. -/
theorem exists_tryAcquire {v : World Session} {taken : Episode}
    (granted : (v.episode id).request (v.reading id) = .granted taken) (react : React Session)
    (tries : Nat) : ∃ after, tryAcquire react id (tries + 1) v = .ok true after := by
  have run : Yields (tryAcquire react id (tries + 1)) v (fun permitted _ => permitted = true)
      fun _ _ => False := by
    unfold tryAcquire
    simp only [yields_bind, yields_get, granted, yields_set, yields_pure]
  obtain ⟨permitted, after, answer, rfl⟩ := run.exists_ok
  exact ⟨after, answer⟩

/-- **A trial admits another call** once all its calls were answered.  Whatever a scenario comes to, and
however its reports and releases are told apart, the permits of a trial, the outcomes reported since it
began, and its permissions without an answer are at all times as many as it admits, or more.  So if none
is without an answer, every report has returned and the time of the trial is not over, then the next
request is granted, whoever listens.  (While a report is under way that completes the trial, it has yet
to end it, and a subscriber that is told of the outcome may be refused.  Totals are read back exactly
below `2 ^ 63` calls.) -/
theorem trial_admits_again
    (built : plans.foldlM addPlan (World.empty start dice Session.empty) = .ok w)
    (there : id < w.circuits.size) :
    (∀ allowance detail steps,
      sessions.Unfolds False .acts w (runSteps allowance detail steps w).2) ∧
    ∀ v calls admitted l permits deadline, sessions.Unfolds False .acts w v →
      calls = Journal.dealings (w.circuit id) id v.journal.toList →
      admitted = (w.circuit id).settings.trialCalls → Ledger.Accounts .empty calls l →
      (v.episode id).phase = .halfOpen permits deadline →
      admitted ≤ permits.available + (l.own + l.late) + l.unanswered ∧
      (l.unanswered = 0 → calls.count .returned = calls.count .recorded →
        (v.episode id).isOverdue (v.reading id) = false → admitted < 2 ^ 63 →
        ∀ (react : React Session) (tries : Nat),
          ∃ after, tryAcquire react id (tries + 1) v = .ok true after) := by
  refine ⟨unfolds_of_built built,
    fun v calls admitted l permits deadline ⟨hs, trace⟩ told eq accounts phase => ?_⟩
  subst eq
  obtain ⟨sized, closed, decided, passage, dealings⟩ := passage_of_trace built there trace
  rw [← dealings] at told
  subst told
  obtain ⟨os, balance⟩ := passage.balance sized accounts closed phase
  have least := balance.least
  rw [balance.recorded] at least
  refine ⟨least, fun answered returned inTime fits react tries => ?_⟩
  -- all reports have returned, so the trial is not complete and has a permit left
  obtain ⟨turns, evolves⟩ := passage.evolves
  have undecided := (evolves.mono fun _ => returned).decided sized (.inl decided)
  have few := (undecided.trial balance.tries.state).2.2
  rw [balance.total_eq (by omega)] at few
  obtain ⟨taken, granted⟩ := balance.granted inTime (by omega)
  exact exists_tryAcquire granted react tries

/-- A circuit that a trial was begun at by hand admits another call once the first gave its permission
back. -/
theorem trial_admits_again_released : ∃ w v : World Session,
    [Plan.hasty].foldlM addPlan (World.empty 0 seed .empty) = .ok w ∧
    v = (runSteps 2 .none [.on 0 (.to .halfOpen), .on 0 .tryAcquire, .on 0 .release] w).2 ∧
    Journal.dealings (w.circuit 0) 0 v.journal.toList
      = [.entered .halfOpen true, .granted, .released] ∧
    (v.episode 0).state = .halfOpen ∧
    ∀ react : React Session, ∃ after, tryAcquire react 0 1 v = .ok true after := by
  obtain ⟨w, v, built, there, ran, told, phase, inTime, one⟩ : ∃ w v,
      [Plan.hasty].foldlM addPlan (World.empty 0 seed .empty) = .ok w ∧ 0 < w.circuits.size ∧
      v = (runSteps 2 .none [.on 0 (.to .halfOpen), .on 0 .tryAcquire, .on 0 .release] w).2 ∧
      Journal.dealings (w.circuit 0) 0 v.journal.toList
        = [.entered .halfOpen true, .granted, .released] ∧
      (v.episode 0).phase = .halfOpen (.full 1) none ∧
      (v.episode 0).isOverdue (v.reading 0) = false ∧ (w.circuit 0).settings.trialCalls = 1 :=
    ⟨_, _, rfl, Nat.zero_lt_one, rfl, by decide +kernel, by decide +kernel, by decide +kernel, rfl⟩
  obtain ⟨runs, admits⟩ := trial_admits_again built there
  have led := runs 2 .none [.on 0 (.to .halfOpen), .on 0 .tryAcquire, .on 0 .release]
  rw [← ran] at led
  obtain ⟨-, again⟩ := admits v _ 1 .empty _ none led told.symm one.symm
    (.cons (.entered _ _ _) (.cons (.granted _) (.cons (.released _ Nat.zero_lt_one) (.nil _)))) phase
  exact ⟨w, v, built, ran, told, by rw [Episode.state, phase]; rfl,
    fun react => again rfl rfl inTime (by decide) react 0⟩

end Scenario

end Breaker

import Breaker.Proofs.Episode.Attempts
import Breaker.Proofs.Episode.Decided
import Breaker.Proofs.Scenario.Traced
import Breaker.Proofs.World.Alerts

/-!
# Always — what holds of every circuit in every scenario

A scenario builds its circuits and then carries out steps, while subscribers call back, give up, or are
told of what others did.  `attempts_of_history` says what attempts and waits are then, by the changes of
state in the journal, `alerts_of_history` that each of these changes ended one stay in a state and how
often it may have been published that thresholds were reached, and `nothing_undecided` that a report
never leaves a circuit behind that ought to have changed its state.
-/

namespace Breaker

namespace World

variable {γ : Type} {whole : Prop} {w w' : World γ} {id : CircuitId}

/-- The attempt and the wait of a circuit are those of its history. -/
theorem Leads.counts (h : w.Leads whole w') (there : id < w.circuits.size)
    (counts : (w.episode id).Counts (w.circuit id).settings (Journal.turnsOf id w.journal.toList)) :
    (w'.episode id).Counts (w'.circuit id).settings (Journal.turnsOf id w'.journal.toList) := by
  obtain ⟨-, settings, entries, eq, evolves⟩ := h.story id there
  have turns : Journal.turnsOf id w'.journal.toList
      = Journal.turnsOf id w.journal.toList ++ Journal.turnsOf id entries := by
    rw [eq, Array.toList_append, Journal.turnsOf_append]
  rw [settings, turns]
  exact counts.evolves evolves

theorem Leads.decided (h : w.Leads True w') (there : id < w.circuits.size)
    (sized : (w.circuit id).settings.Sized) (waits : ∀ cause, ¬(w.circuit id).settings.WaitFails cause)
    (start : (w.episode id).Decided (w.circuit id).settings) :
    (w'.episode id).Decided (w'.circuit id).settings := by
  obtain ⟨-, settings, entries, -, evolves⟩ := h.story id there
  rw [settings]
  exact (evolves.mono fun _ => ⟨trivial, waits⟩).decided sized (.inl start)

end World

/-- The cause for which a step was given up, if its answer tells of one. -/
def Answer.abort? : Answer → Option Abort
  | .aborted cause => some cause
  | _ => none

namespace Scenario

/-- A world whose circuits were built, and in which nothing else happened. -/
structure Planned (w : World Session) : Prop where
  journal : w.journal = #[]
  fresh : ∀ id, id < w.circuits.size → (w.circuit id).settings.check? = none ∧
    ∃ now, w.episode id = Episode.begin (w.circuit id).settings 0 0 now .closed

theorem Planned.addPlan {p : Plan} {w w' : World Session} (h : Scenario.addPlan w p = .ok w')
    (planned : Planned w) : Planned w' := by
  unfold Scenario.addPlan at h
  generalize p.parts.foldl addPart (Blueprint.named p.name, w.guest) = parts at h
  cases built : parts.1.build w with
  | error refusal =>
    simp only [built] at h
    cases h
  | ok c =>
    simp only [built] at h
    cases h
    obtain ⟨valid, begun⟩ := Blueprint.build_ok built
    refine ⟨planned.journal, fun id there => ?_⟩
    show ((w.addCircuit c).circuit id).settings.check? = none ∧ ∃ now,
      (w.addCircuit c).episode id = Episode.begin ((w.addCircuit c).circuit id).settings 0 0 now .closed
    by_cases new : id = w.circuits.size
    · subst new
      rw [World.episode, World.circuit_addCircuit_self]
      exact ⟨valid, _, begun⟩
    · have old : id < w.circuits.size + 1 := by
        rwa [← Array.size_push]
      rw [World.episode, World.circuit_addCircuit_of_ne w c new]
      exact planned.fresh id (by omega)

theorem planned_addPlans {plans : List Plan} {w w' : World Session}
    (h : plans.foldlM addPlan w = .ok w') (planned : Planned w) : Planned w' := by
  induction plans generalizing w with
  | nil =>
    cases h
    exact planned
  | cons p plans ih =>
    rw [List.foldlM_cons] at h
    cases added : addPlan w p with
    | error refusal =>
      rw [added] at h
      cases h
    | ok after =>
      rw [added] at h
      exact ih h (planned.addPlan added)

theorem planned_empty (start : Nat) (dice : Dice) :
    Planned (World.empty start dice Session.empty) :=
  ⟨rfl, fun _ there => absurd there (Nat.not_lt_zero _)⟩

variable {plans : List Plan} {start : Nat} {dice : Dice} {w : World Session}

/-- **Attempts and waits are a function of the history.**  Whatever a scenario does, and whatever its
subscribers do meanwhile, the attempt of a circuit is zero unless it is open or half open.  There it is
one, and one more for each trial that failed since the last anchor, up to the largest attempt, and there
is an anchor.  An open circuit may be probed after a wait that its settings gave for this attempt, and no
wait is drawn for an attempt of zero.  The allowance may end a run anywhere, so all this holds in the
middle of a step as well, when a subscriber is being told of it. -/
theorem attempts_of_history
    (built : plans.foldlM addPlan (World.empty start dice Session.empty) = .ok w)
    (allowance : Nat) (detail : Detail) (steps : List Step) {id : CircuitId}
    (there : id < w.circuits.size) :
    ∃ last e turns, last = (runSteps allowance detail steps w).2 ∧ e = last.episode id ∧
      turns = Journal.turnsOf id last.journal.toList ∧ Turn.Path .closed turns e.state ∧
      (e.state = .closed ∨ e.state = .disabled ∨ e.state = .forcedOpen ∨ e.state = .metricsOnly →
        e.attempts = 0) ∧
      (e.state = .opened ∨ e.state = .halfOpen → (∃ t ∈ turns, t.isAnchor = true) ∧
        e.attempts = min (1 + (turns.rtakeWhile fun t => !t.isAnchor).countP (·.isRelapse))
          (2 ^ 32 - 1)) ∧
      (∀ retryAt, e.phase = .opened retryAt → 0 < e.attempts ∧
        ∃ wait, (last.circuit id).settings.Draws e.attempts wait ∧
          retryAt = min (e.enteredAt + wait.nanos) (2 ^ 64 - 1)) ∧
      ∀ source attempts manual, 0 < Episode.attemptsOnEntry source attempts .opened manual := by
  have planned := planned_addPlans built (planned_empty start dice)
  obtain ⟨-, now, begun⟩ := planned.fresh id there
  have counts : (w.episode id).Counts (w.circuit id).settings
      (Journal.turnsOf id w.journal.toList) := by
    rw [begun, planned.journal]
    exact .of_begin 0 now
  have sound : w.Sound := (leads_addPlans built).sound (World.sound_empty ..)
  obtain ⟨path, idle, counted, waits⟩ :=
    (leads_runSteps allowance detail steps sound).counts there counts
  refine ⟨_, _, _, rfl, rfl, rfl, path, fun state => ?_, counted, fun retryAt phase => ?_,
    Episode.attemptsOnEntry_opened_pos⟩
  · obtain state | state | state | state := state
    all_goals exact idle (by rw [state]; decide) (by rw [state]; decide)
  · refine ⟨?_, waits retryAt phase⟩
    rw [(counted (.inl (by rw [Episode.state, phase]; rfl))).2]
    exact Turn.attempts_pos _

/-- **A change by hand is written down.**  Whoever is told of it and whatever they do then: once a step has
returned that resets a circuit or enters a state by hand, this is the first thing that the history tells of
the circuit since. -/
theorem turnsByHand_of_perform {w after : World Session} (sound : w.Sound) {allowance handle : Nat}
    {busy : List CircuitId} {id : CircuitId} (held : w.resolve? handle = some id)
    (there : id < w.circuits.size) {action : Action} {target : State}
    (byHand : action = .to target ∨ action = .reset ∧ target = .closed) {answer : Answer}
    (run : perform allowance busy (.on handle action) w = .ok answer after) :
    w.TurnsByHand id target after := by
  cases allowance with
  | zero => cases run
  | succ allowance =>
    have listens : TracedReact sessions (hear (perform allowance (id :: busy))) :=
      traced_hear (traced_perform allowance (id :: busy))
    have turned : Yields (perform (allowance + 1) busy (.on handle action)) w
        (fun _ after => w.TurnsByHand id target after) fun _ _ => True := by
      obtain rfl | ⟨rfl, rfl⟩ := byHand
      · unfold perform act doOnCircuit onCircuit
        simp only [yields_bind, yields_get, held, yields_pure]
        exact yields_force_byHand listens sound there target
      · unfold perform act doOnCircuit onCircuit
        simp only [yields_bind, yields_get, held, yields_pure]
        exact yields_reset_byHand listens sound there
    exact turned.of_ok run

/-- A circuit that opens for a second at the first failure, and admits one call to a trial. -/
def Plan.hasty : Plan where
  name := ""
  parts := [.choice (.calls 2), .choice (.minimumCalls 1), .choice (.trialCalls 1),
    .choice (.wait (.ofSeconds 1)), .choice (.timeSource .shared)]

/-- A call that fails, and a trial after a second whose call fails as well. -/
def relapse : List Step :=
  [.on 0 (.error .zero .unit), .on 0 (.advance (.ofSeconds 1)), .on 0 .tryAcquire,
    .on 0 (.error .zero .unit)]

/-- After a trip and a relapse the attempt is two. -/
theorem attempts_of_history_relapse :
    ∃ w last : World Session, [Plan.hasty].foldlM addPlan (World.empty 0 seed .empty) = .ok w ∧
      last = (runSteps 2 .none relapse w).2 ∧
      Journal.turnsOf 0 last.journal.toList = [⟨⟨.closed, .opened⟩, false⟩,
        ⟨⟨.opened, .halfOpen⟩, false⟩, ⟨⟨.halfOpen, .opened⟩, false⟩] ∧
      (last.episode 0).attempts = 2 := by
  obtain ⟨w, built, there, opened, history⟩ : ∃ w : World Session,
      [Plan.hasty].foldlM addPlan (World.empty 0 seed .empty) = .ok w ∧ 0 < w.circuits.size ∧
      ((runSteps 2 .none relapse w).2.episode 0).state = .opened ∧
      Journal.turnsOf 0 (runSteps 2 .none relapse w).2.journal.toList
        = [⟨⟨.closed, .opened⟩, false⟩, ⟨⟨.opened, .halfOpen⟩, false⟩,
          ⟨⟨.halfOpen, .opened⟩, false⟩] :=
    ⟨_, rfl, Nat.zero_lt_one, by decide +kernel, by decide +kernel⟩
  obtain ⟨last, e, turns, rfl, rfl, rfl, -, -, counted, -⟩ :=
    attempts_of_history built 2 .none relapse there
  have attempts := (counted (.inl opened)).2
  rw [history] at attempts
  exact ⟨w, _, built, rfl, history, attempts⟩

/-- What a scenario has written is what its trace tells. -/
theorem entries_runSteps (built : plans.foldlM addPlan (World.empty start dice Session.empty) = .ok w)
    (allowance : Nat) (detail : Detail) (steps : List Step) :
    ∃ hs, sessions.Trace (∀ row ∈ (runSteps allowance detail steps w).1,
        row.answer ≠ .aborted .unsettled) .acts w hs (runSteps allowance detail steps w).2 ∧
      (runSteps allowance detail steps w).2.journal.toList = Happening.entries hs := by
  have sound : w.Sound := (leads_addPlans built).sound (World.sound_empty ..)
  obtain ⟨hs, trace⟩ := unfolds_runSteps allowance detail steps sound
  refine ⟨hs, trace, ?_⟩
  rw [trace.journal, (planned_addPlans built (planned_empty start dice)).journal]
  simp

/-- **Each stay in a state ends once, and a breach is told of once.**  Whatever a scenario does, and
whatever its subscribers do meanwhile, the changes of state in the journal lead from closed to the
current state, each out of the state that the one before it led to, and each has ended the stay with the
next number.  At no moment were there more events about the failure rate, or about slow calls, than
changes of state by which the circuit opened of itself or began to watch metrics only.  So of nested
reports that find the same thresholds reached, one opens the circuit and is told of. -/
theorem alerts_of_history
    (built : plans.foldlM addPlan (World.empty start dice Session.empty) = .ok w)
    (allowance : Nat) (detail : Detail) (steps : List Step) {id : CircuitId}
    (there : id < w.circuits.size) :
    ∃ last e turns, last = (runSteps allowance detail steps w).2 ∧ e = last.episode id ∧
      turns = Journal.turnsOf id last.journal.toList ∧ Turn.Path .closed turns e.state ∧
      e.number = turns.length ∧
      ∀ before, before <+: last.journal.toList →
        ∃ events turns, events = Journal.eventsOf id before ∧ turns = Journal.turnsOf id before ∧
          events.countP Event.isFailureRateExceeded
            ≤ turns.countP Turn.trips + turns.countP Turn.watches ∧
          events.countP Event.isSlowCallRateExceeded
            ≤ turns.countP Turn.trips + turns.countP Turn.watches := by
  have planned := planned_addPlans built (planned_empty start dice)
  obtain ⟨-, now, begun⟩ := planned.fresh id there
  obtain ⟨hs, trace, written⟩ := entries_runSteps built allowance detail steps
  obtain ⟨-, -, entries, eq, evolves⟩ := trace.leads.story id there
  rw [planned.journal, Array.empty_append] at eq
  rw [begun] at evolves
  refine ⟨_, _, _, rfl, rfl, rfl, ?_, ?_, fun before first => ?_⟩
  · rw [eq]
    exact ((Episode.Counts.of_begin 0 now).evolves evolves).path
  · rw [evolves.number_eq, eq]
    exact Nat.zero_add _
  · obtain ⟨hs', moment, rfl, early, -⟩ := trace.cut (written ▸ first)
    have fresh : (w.episode id).untold = 0 := by
      rw [begun]
      rfl
    refine ⟨_, _, rfl, rfl, ?_, ?_⟩
    · exact early.countP_eventsOf_le there .failureRate fresh
    · exact early.countP_eventsOf_le there .slowCallRate fresh

/-- A subscriber that reports two more failures when it is told of one, and a call that fails. -/
def echo : List Step :=
  [.on 0 (.subscribe "" .error [.on 0 (.error .zero .unit), .on 0 (.error .zero .unit)] 1 false),
    .on 0 (.error .zero .unit)]

/-- Three reports that each find the threshold reached open the circuit once, and one is told of. -/
theorem alerts_of_history_echo :
    ∃ w last : World Session, [Plan.hasty].foldlM addPlan (World.empty 0 seed .empty) = .ok w ∧
      last = (runSteps 3 .none echo w).2 ∧
      Journal.turnsOf 0 last.journal.toList = [⟨⟨.closed, .opened⟩, false⟩] ∧
      (last.episode 0).number = 1 ∧
      (Journal.eventsOf 0 last.journal.toList).countP (fun | .error _ _ => true | _ => false) = 3 ∧
      (Journal.eventsOf 0 last.journal.toList).countP Event.isFailureRateExceeded ≤ 1 := by
  obtain ⟨w, built, there, history, reports⟩ : ∃ w : World Session,
      [Plan.hasty].foldlM addPlan (World.empty 0 seed .empty) = .ok w ∧ 0 < w.circuits.size ∧
      Journal.turnsOf 0 (runSteps 3 .none echo w).2.journal.toList
        = [⟨⟨.closed, .opened⟩, false⟩] ∧
      (Journal.eventsOf 0 (runSteps 3 .none echo w).2.journal.toList).countP
        (fun | .error _ _ => true | _ => false) = 3 :=
    ⟨_, rfl, Nat.zero_lt_one, by decide +kernel, by decide +kernel⟩
  obtain ⟨last, e, turns, rfl, rfl, rfl, -, number, moments⟩ :=
    alerts_of_history built 3 .none echo there
  obtain ⟨events, turns, rfl, rfl, failure, -⟩ := moments _ (List.prefix_refl _)
  rw [history] at number failure
  exact ⟨w, _, built, rfl, history, number, reports, failure⟩

/-- **No breach and no complete trial is left undecided.**  Once every step of a scenario has returned,
a closed circuit that counts calls holds no rate at its threshold, and a half-open one fewer outcomes
than its trial admits, whatever subscribers did while they were told of outcomes. -/
theorem nothing_undecided
    (built : plans.foldlM addPlan (World.empty start dice Session.empty) = .ok w)
    (allowance : Nat) (detail : Detail) (steps : List Step)
    (returned : ∀ row ∈ (runSteps allowance detail steps w).1, row.answer ≠ .aborted .unsettled)
    {id : CircuitId} (there : id < w.circuits.size)
    (waits : ∀ cause, ¬(w.circuit id).settings.WaitFails cause) :
    ∃ last s e, last = (runSteps allowance detail steps w).2 ∧ s = (last.circuit id).settings ∧
      e = last.episode id ∧
      (e.state = .closed → s.windowKind = .count →
        e.rates.failure.reaches s.failureRateThreshold = false ∧
          e.rates.slow.reaches s.slowCallRateThreshold = false) ∧
      (e.state = .halfOpen → e.window.totals.total < s.trialCalls) := by
  obtain ⟨valid, now, begun⟩ := (planned_addPlans built (planned_empty start dice)).fresh id there
  have sized := Settings.sized_of_check valid
  have sound : w.Sound := (leads_addPlans built).sound (World.sound_empty ..)
  have led : w.Leads True (runSteps allowance detail steps w).2 :=
    (leads_runSteps allowance detail steps sound).mono fun _ => returned
  obtain ⟨closed, trial⟩ := led.decided there sized waits
    (by rw [begun]; exact Episode.decided_begin now sized 0 0 .closed)
  refine ⟨_, _, _, rfl, rfl, rfl, fun state count => ?_, fun state => (trial state).2.2⟩
  have unbreached := (closed state count).2
  rwa [Episode.breached, Bool.or_eq_false_iff] at unbreached

/-- A subscriber that resets the circuit when it opens, and then gives up, and a call that fails. -/
def meddle : List Step :=
  [.on 0 (.subscribe "" .transition [.on 0 .reset] 1 true), .on 0 (.error .zero .unit)]

/-- A circuit that was reset while it told of opening is closed, and holds no failure. -/
theorem nothing_undecided_meddle :
    ∃ w last : World Session, [Plan.hasty].foldlM addPlan (World.empty 0 seed .empty) = .ok w ∧
      last = (runSteps 3 .none meddle w).2 ∧ (last.episode 0).state = .closed ∧
      (last.episode 0).rates.failure.reaches (last.circuit 0).settings.failureRateThreshold
        = false := by
  obtain ⟨w, built, there, returned, closed, count, backoff⟩ : ∃ w : World Session,
      [Plan.hasty].foldlM addPlan (World.empty 0 seed .empty) = .ok w ∧ 0 < w.circuits.size ∧
      (∀ row ∈ (runSteps 3 .none meddle w).1, row.answer.abort? = none) ∧
      ((runSteps 3 .none meddle w).2.episode 0).state = .closed ∧
      ((runSteps 3 .none meddle w).2.circuit 0).settings.windowKind = .count ∧
      (w.circuit 0).settings.backoff = .fixed (.ofSeconds 1) :=
    ⟨_, rfl, Nat.zero_lt_one, by decide +kernel, by decide +kernel, by decide +kernel, rfl⟩
  have settled : ∀ row ∈ (runSteps 3 .none meddle w).1, row.answer ≠ .aborted .unsettled := by
    intro row mem eq
    have answered := returned row mem
    rw [eq] at answered
    cases answered
  have waits (cause : Abort) : ¬(w.circuit 0).settings.WaitFails cause := by
    intro fails
    obtain ⟨wait?, remarks, policy⟩ := fails.custom
    rw [backoff] at policy
    cases policy
  obtain ⟨last, s, e, rfl, rfl, rfl, undecided, -⟩ :=
    nothing_undecided built 3 .none meddle settled there waits
  exact ⟨w, _, built, rfl, closed, (undecided closed count).1⟩

end Scenario

end Breaker

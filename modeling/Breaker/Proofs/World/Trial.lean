import Breaker.Proofs.World.Traffic

/-!
# Trial — what decides a trial of a circuit

A trial that an operation began has taken no outcome (`Undergoes.tries`), and along traffic it goes on
until it has taken as many as it admits (`Traffic.tries`).  `World.trial_verdict` puts the two
together: the trial survives every outcome but the one that completes it, which decides it by the rates
of the outcomes of this trial, and an outcome past the deadline opens the breaker whatever it is.
-/

namespace Breaker

variable {γ : Type}

namespace World

variable {w : World γ} {id : CircuitId}

/-- What a request leads to is what was current, or has begun. -/
theorem Asks.begun {answer : Bool} {marks : List Mark} (h : w.Asks id answer marks) :
    Episode.Begun (w.circuit id).settings (w.reading id) (w.episode id)
      ((w.episode id).course (w.circuit id).settings (w.reading id) marks) := by
  obtain ⟨lapses, e, lapse, -, answered⟩ := h
  obtain ⟨last, rfl, stays, unrecorded⟩ : ∃ last : Mark, marks = lapses ++ [last] ∧
      last.stays = true ∧ last.outcome? = none := by
    obtain ⟨-, -, rfl⟩ | ⟨-, -, rfl⟩ := answered
    · exact ⟨.granted, rfl, rfl, rfl⟩
    · exact ⟨.refused, rfl, rfl, rfl⟩
  rw [Episode.course_append, lapse.course_eq]
  obtain rfl | ⟨before, target, wait, timer, rfl⟩ := lapse.entered
  · obtain rfl := lapse.course_eq
    exact .of_stays stays _
  · refine .inr ⟨before, target, wait, false, timer, [last], rfl, fun m mem => ?_⟩
    obtain rfl := List.mem_singleton.mp mem
    exact ⟨stays, unrecorded⟩

/-- **What an operation leads to** at a circuit is the episode that was current, or one that has begun
and has nothing recorded since. -/
theorem Undergoes.begun {op : Operation} {answer : Answer} {marks : List Mark}
    (h : w.Undergoes id op answer marks) :
    Episode.Begun (w.circuit id).settings (w.reading id) (w.episode id)
      ((w.episode id).course (w.circuit id).settings (w.reading id) marks) := by
  -- a mark of entering at the end
  have entered (before : Episode) (target : State) (wait : Duration) (manual : Bool)
      (timer : Option Nat) : Episode.Begun (w.circuit id).settings (w.reading id) (w.episode id)
        (before.after (w.circuit id).settings (w.reading id) (.entered target wait manual timer)) :=
    .inr ⟨before, target, wait, manual, timer, [], rfl, fun m mem => by cases mem⟩
  cases h with
  | does does =>
    cases does with
    | request asks | acquired asks | refused asks => exact asks.begun
    | @report d r marks told =>
      unfold Told at told
      split at told
      case h_1 o _ =>
        exact told.begun
      case h_2 =>
        subst told
        exact .of_stays (m := .released) rfl _
    | release => exact .of_stays (m := .released) rfl _
    | metrics => exact .of_stays (m := .settled) rfl _
    | force target wait => exact entered _ target wait true _
    | reset => exact entered _ .closed .zero true _
  | moved _ _ wait timer => exact entered _ _ wait false timer
  | spared | muffled => exact .inl rfl

end World

/-- **Along traffic a trial goes on** until it has taken as many outcomes as it admits. -/
theorem Traffic.tries {react : CircuitId → React γ} (quiet : ∀ id, Quiet (react id))
    {w₀ w : World γ} {id : CircuitId} {os : List Outcome} (sound : w₀.Sound)
    (there : id < w₀.circuits.size) (fits : (w₀.circuit id).settings.trialCalls < 2 ^ 63)
    (start : (w₀.episode id).Tries (w₀.circuit id).settings [])
    (traffic : Traffic react id w₀ w os) (few : os.length < (w₀.circuit id).settings.trialCalls) :
    w.Sound ∧ id < w.circuits.size ∧ (w.circuit id).settings = (w₀.circuit id).settings ∧
      (w.episode id).Tries (w₀.circuit id).settings os ∧
      (w.episode id).number = (w₀.episode id).number := by
  have sized := sound.sized id
  obtain ⟨sound, there, settings, holds⟩ := traffic.preserves quiet sound there
    (P := fun e os => os.length < (w₀.circuit id).settings.trialCalls →
      e.Tries (w₀.circuit id).settings os ∧ e.number = (w₀.episode id).number)
    (fun now e os m stays unrecorded holds few => by
      obtain ⟨tries, number⟩ := holds few
      have keeps : Episode.Keeps (w₀.circuit id).settings e
          (e.after (w₀.circuit id).settings now m) := Episode.keeps_after stays e
      have goesOn : Episode.Tries (w₀.circuit id).settings
          (e.course (w₀.circuit id).settings now [m]) os :=
        tries.course sized (by simp [stays, unrecorded])
      exact ⟨goesOn, keeps.number.trans number⟩)
    (fun now e os o marks inTime reports holds few => by
      have fewer : os.length < (w₀.circuit id).settings.trialCalls := by
        rw [List.length_append] at few
        omega
      obtain ⟨tries, number⟩ := holds fewer
      have observed : (e.observe now o).Tries (w₀.circuit id).settings (os ++ [o]) :=
        tries.after (m := .recorded o) sized rfl
      rw [reports.of_none (observed.followUp_of_few inTime few fits)]
      exact ⟨observed, number⟩)
    fun _ => ⟨start, rfl⟩
  exact ⟨sound, there, settings, holds few⟩

/-- **A report that is recorded** comes to the outcome with what follows from it, if the wait function
of the circuit returns. -/
theorem Quiet.run_report {react : CircuitId → React γ} {w : World γ} {id : CircuitId}
    (quiet : Quiet (react id)) (there : id < w.circuits.size) {d : Duration} {r : Report}
    {o : Outcome} (outcome : (w.circuit id).outcome? d r = some o)
    (waits : ∀ cause, ¬(w.circuit id).settings.WaitFails cause) :
    ∃ after marks, (Operation.report id d r).run react w = .ok .nothing after ∧
      w.Course id marks after ∧
      Episode.Reports (w.circuit id).settings (w.reading id) (w.episode id) o marks := by
  have run : Yields ((Operation.report id d r).run react) w
      (fun answer after => answer = .nothing ∧ ∃ marks, w.Course id marks after ∧
        Episode.Reports (w.circuit id).settings (w.reading id) (w.episode id) o marks)
      fun _ _ => False := by
    unfold Operation.run Operation.onCircuit
    simp only [yields_bind, yields_get, yields_ite, if_pos there, yields_pure]
    refine quiet.report there (fun marks after told goes => ?_) fun cause after fails => ?_
    · rw [World.Told, outcome] at told
      exact ⟨trivial, marks, goes.course there, told⟩
    · obtain verdict | wait := fails
      · rw [Circuit.outcome?, verdict] at outcome
        cases outcome
      · exact waits cause wait
  obtain ⟨answer, after, run, rfl, marks, course, reports⟩ := run.exists_ok
  exact ⟨after, marks, run, course, reports⟩

namespace World

/-- **What decides a trial.**  Let an operation begin a trial, and let any traffic follow that records
fewer outcomes than the trial admits.  Then the trial still goes on, and the next report that is
recorded is carried out.  If it comes past the deadline, the breaker opens.  If it comes in time, it
leaves the trial alone as long as there are too few outcomes, and the one that completes the trial
decides it by the verdict on the outcomes that this trial took.  The number of trial calls is far below
the bound `fits` wherever it is a 32-bit word. -/
theorem trial_verdict {react : CircuitId → React γ} (quiet : ∀ id, Quiet (react id))
    {v w₀ : World γ} (reachable : v.Reachable) {id : CircuitId} (there : id < v.circuits.size)
    {op : Operation} {answer : Answer} (run : op.run react v = .ok answer w₀)
    (another : (w₀.episode id).number ≠ (v.episode id).number)
    (trial : (w₀.episode id).state = .halfOpen)
    (fits : (w₀.circuit id).settings.trialCalls < 2 ^ 63)
    (waits : ∀ cause, ¬(w₀.circuit id).settings.WaitFails cause)
    {w : World γ} {os : List Outcome} (traffic : Traffic react id w₀ w os)
    (few : os.length < (w₀.circuit id).settings.trialCalls) :
    (w.episode id).number = (w₀.episode id).number ∧ (w.episode id).state = .halfOpen ∧
    ∀ d r o, (w.circuit id).outcome? d r = some o →
      ∃ after turns, (Operation.report id d r).run react w = .ok .nothing after ∧
        turns = Journal.turnsOf id (after.entriesSince w) ∧
        ((w.episode id).isOverdue (w.reading id) = true →
          turns = [⟨⟨.halfOpen, .opened⟩, false⟩] ∧ (after.episode id).state = .opened) ∧
        ((w.episode id).isOverdue (w.reading id) = false →
          os.length + 1 < (w₀.circuit id).settings.trialCalls →
          turns = [] ∧ (after.episode id).number = (w₀.episode id).number ∧
            (after.episode id).state = .halfOpen) ∧
        ((w.episode id).isOverdue (w.reading id) = false →
          os.length + 1 = (w₀.circuit id).settings.trialCalls →
          ∃ verdict, verdict = Trial.verdict (w₀.circuit id).settings.failureRateThreshold
              (w₀.circuit id).settings.slowCallRateThreshold (w₀.circuit id).settings.trialCalls
              ((os ++ [o]).countP (·.failed)) ((os ++ [o]).countP (·.slow)) ∧
            turns = [⟨⟨.halfOpen, verdict⟩, false⟩] ∧ (after.episode id).state = verdict) := by
  obtain ⟨reaches, begun, course, undergoes⟩ :=
    (op.yields_undergoes quiet reachable.sound there).of_ok run
  have start : (w₀.episode id).Tries (w₀.circuit id).settings [] := by
    have begins := undergoes.begun
    rw [← course.episode, ← course.settings] at begins
    exact begins.tries (course.settings ▸ reachable.sound.sized id) another trial
  obtain ⟨sound, present, settings, tries, number⟩ := traffic.tries quiet
    (reaches.sound reachable.sound) (Nat.lt_of_lt_of_le there course.size) fits start few
  have sized := sound.sized id
  refine ⟨number, tries.state, fun d r o outcome => ?_⟩
  obtain ⟨after, marks, ran, course, reports⟩ :=
    (quiet id).run_report present outcome (settings ▸ waits)
  rw [settings] at reports sized
  have turns := course.turnsOf_entriesSince
  have last := course.episode
  rw [settings] at turns last
  have observed : ((w.episode id).observe (w.reading id) o).Tries (w₀.circuit id).settings
      (os ++ [o]) := tries.after (m := .recorded o) sized rfl
  have length : (os ++ [o]).length = os.length + 1 := List.length_append
  refine ⟨after, _, ran, rfl, fun overdue => ?_, fun inTime fewer => ?_, fun inTime complete => ?_⟩
  · rw [turns, last, ← tries.state]
    exact reports.of_trip (observed.followUp_of_overdue overdue)
  · rw [turns, last, reports.of_none (observed.followUp_of_few inTime (by rwa [length]) fits)]
    exact ⟨rfl, number, tries.state⟩
  · refine ⟨_, rfl, ?_⟩
    rw [turns, last, ← tries.state]
    obtain ⟨asks, verdict⟩ | ⟨asks, verdict⟩ :=
      observed.followUp_of_complete inTime (by rwa [length]) fits
    · rw [verdict]
      exact reports.of_trip asks
    · rw [verdict]
      exact reports.of_close asks

/-- A trial of two calls that was begun by hand goes on after a call that succeeded, and the failure
that completes it opens the breaker. -/
theorem trial_verdict_failed :
    ∃ w₀ w after : World Unit, Traffic (fun _ => .silent) 0 w₀ w [⟨false, false, .zero⟩] ∧
      (w.episode 0).state = .halfOpen ∧
      (Operation.report 0 .zero (.error .unit)).run (fun _ => .silent) w = .ok .nothing after ∧
      (after.episode 0).state = .opened := by
  -- all is computed at once: the breaker, the world with the trial, and the one after the first call
  obtain ⟨c, built, _, w₀, begun, backoff, trial, another, state, _, w, told, succeeds, early, fails,
      inTime, failed⟩ :
      ∃ c : Circuit, (Blueprint.ofChoices "" [.trialCalls 2, .timeSource .shared]).build
        (World.empty 7 ⟨0⟩ ()) = .ok c ∧
      ∃ (answer : Answer) (w₀ : World Unit), (Operation.force 0 .halfOpen).run (fun _ => .silent)
        ((World.empty 7 ⟨0⟩ ()).addCircuit c) = .ok answer w₀ ∧
      (w₀.circuit 0).settings.backoff = .fixed (.ofSeconds 60) ∧
      (w₀.circuit 0).settings.trialCalls = 2 ∧
      (w₀.episode 0).number ≠ (((World.empty 7 ⟨0⟩ ()).addCircuit c).episode 0).number ∧
      (w₀.episode 0).state = .halfOpen ∧
      ∃ (answer : Answer) (w : World Unit),
        (Operation.report 0 .zero .success).run (fun _ => .silent) w₀ = .ok answer w ∧
      (w₀.circuit 0).outcome? .zero .success = some ⟨false, false, .zero⟩ ∧
      (w₀.episode 0).isOverdue (w₀.reading 0) = false ∧
      (w.circuit 0).outcome? .zero (.error .unit) = some ⟨true, false, .zero⟩ ∧
      (w.episode 0).isOverdue (w.reading 0) = false ∧
      Trial.verdict (w₀.circuit 0).settings.failureRateThreshold
        (w₀.circuit 0).settings.slowCallRateThreshold 2 1 0 = .opened :=
    ⟨_, rfl, _, _, rfl, rfl, rfl, Nat.one_ne_zero, rfl, _, _, rfl, rfl, rfl, rfl, rfl, by decide +kernel⟩
  have reported : (Operation.report 0 .zero .success).reported? w₀ 0
      = some ⟨false, false, .zero⟩ := by
    rw [Operation.reported?, if_pos rfl, succeeds]
  have traffic := Traffic.start.operation _ told (.of_report early)
  rw [reported] at traffic
  have waits (cause : Abort) : ¬(w₀.circuit 0).settings.WaitFails cause := by
    intro fails
    obtain ⟨wait?, remarks, policy⟩ := fails.custom
    rw [backoff] at policy
    cases policy
  obtain ⟨-, stays, verdict⟩ := trial_verdict (fun _ => Quiet.silent)
    ⟨7, ⟨0⟩, (), (Move.build _ _ built).reaches⟩
    (Nat.zero_lt_one : 0 < ((World.empty 7 ⟨0⟩ ()).addCircuit c).circuits.size) begun
    another state (by rw [trial]; decide) waits traffic
    (by rw [trial]; decide)
  obtain ⟨after, _, run, rfl, -, -, decided⟩ := verdict _ _ _ fails
  obtain ⟨_, rfl, -, last⟩ := decided inTime trial.symm
  rw [trial] at last
  exact ⟨w₀, w, after, traffic, stays, run, last.trans failed⟩

end World

end Breaker

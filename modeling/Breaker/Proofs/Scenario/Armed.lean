import Breaker.Proofs.Scenario.Always
import Breaker.Proofs.World.Armed

/-!
# Armed — the timers of a scenario

Steps tend as acts do (`World.Tends`), whatever subscribers do inside them (`tending_perform`), and so do
runs whose steps have all returned (`tends_runSteps`).  Circuits are built closed, and a closed one needs
no timer.  So when the outermost steps have returned each circuit that is held has the timer of its stay,
if a timer ends that stay, and nothing else that can go off (`one_timer_each_stay`).
-/

namespace Breaker.Scenario

open World (Tends)

/-! ### Listeners -/

variable {causes : Abort → Prop}

theorem tending_modifySession (f : Session → Session) : Tending causes (modifySession f) :=
  .modify fun w => .aside (.guest w _)

theorem tending_note (n : Note) : Tending causes (note n) := .modify fun w => .write w fun _ => rfl

section Steps

variable {perform : Step → Deed Answer} (steps : ∀ step, Tending (fun _ => True) (perform step))
include steps

theorem tending_carryOut (subscriber : String) (script : List Step) :
    Tending (fun _ => True) (carryOut perform subscriber script) := by
  induction script with
  | nil => exact .pure ()
  | cons step script ih =>
    exact .bind (steps step) fun _ => .bind (tending_note _) fun _ => ih

/-- **Listeners** tend if the steps that they carry out do. -/
theorem tending_hear : TendingReact (hear perform) := by
  intro consumer circuit event
  refine .bind .get fun w => ?_
  split
  · exact .pure ()
  · exact tending_note _
  case h_3 name script left aborts _ =>
    have giveUp : Tending (fun _ => True) (if aborts then throw .consumer else pure () : Deed Unit) :=
      .ite (.throw trivial) (.pure ())
    refine .bind (tending_note _) fun _ => ?_
    dsimp only
    split
    · exact .bind (tending_modifySession _) fun _ =>
        .bind (tending_carryOut steps _ _) fun _ => giveUp
    · exact giveUp

theorem tending_mapM (script : List Step) : Tending (fun _ => True) (script.mapM perform) := by
  induction script with
  | nil => exact .pure []
  | cons step script ih =>
    rw [List.mapM_cons]
    exact .bind (steps step) fun _ => .bind ih fun _ => .pure _

theorem tending_performRounds (script : List Step) (count : Nat) (last : List Answer) :
    Tending (fun _ => True) (performRounds perform script count last) := by
  induction count generalizing last with
  | zero => exact .pure last
  | succ count ih => exact .bind (tending_mapM steps script) fun _ => ih _

end Steps

/-! ### Steps -/

theorem tending_onCircuit (handle : Nat) {f : CircuitId → Deed Answer}
    (h : ∀ id, Tending causes (f id)) : Tending causes (onCircuit handle f) := by
  refine .bind .get fun w => ?_
  split
  · exact h _
  · exact .pure _

theorem tending_doOnCircuit (handle : Nat) {f : CircuitId → Deed Unit}
    (h : ∀ id, Tending causes (f id)) : Tending causes (doOnCircuit handle f) :=
  tending_onCircuit handle fun id => .bind (h id) fun _ => .pure _

theorem tending_askCircuit (handle : Nat) (f : Circuit → Answer) :
    Tending causes (askCircuit handle f) :=
  tending_onCircuit handle fun _ => .bind .get fun _ => .pure _

theorem tending_subscribe (id : CircuitId) (name : String) (filter : Filter) (l : Listener) :
    Tending causes (subscribe id name filter l) :=
  .bind .get fun _ => .bind (tending_modifySession _) fun _ =>
    .bind (.modify fun w => .enrol w id _) fun _ => .bind .get fun _ => .pure _

theorem tending_unsubscribe (name : String) : Tending causes (unsubscribe name) := by
  refine .bind .get fun w => ?_
  split
  · exact .pure _
  · exact .bind (tending_modifySession _) fun _ => .bind (.modify fun w => .enrol w _ _) fun _ =>
      .pure _

/-- A handle that is dropped no longer holds its circuit. -/
theorem tends_drop (w : World Session) (handle : Nat) :
    w.Tends { w with handles := w.handles.setIfInBounds handle none } := by
  refine .of_alike (World.Move.hold w _).reaches (.of_circuits rfl rfl rfl) rfl fun id held => ?_
  rw [World.isHeld, Array.any_eq_true] at held ⊢
  obtain ⟨i, bound, holds⟩ := held
  rw [Array.size_setIfInBounds] at bound
  refine ⟨i, bound, ?_⟩
  rw [Array.getElem_setIfInBounds] at holds
  split at holds
  · cases holds
  · exact holds

/-- Another handle of a circuit that has one. -/
theorem tends_clone (w : World Session) {handle : Nat} {id : CircuitId}
    (resolved : w.resolve? handle = some id) :
    w.Tends { w with handles := w.handles.push (some id) } := by
  refine .of_alike (World.Move.hold w _).reaches (.of_circuits rfl rfl rfl) rfl fun other held => ?_
  rw [World.isHeld, Array.any_push, Bool.or_eq_true] at held
  rcases held with held | same
  · exact held
  · obtain rfl : id = other := by simpa using same
    have kept : w.handles[handle]? = some (some id) := Option.join_eq_some_iff.mp resolved
    obtain ⟨bound, eq⟩ := Array.getElem?_eq_some_iff.mp kept
    rw [World.isHeld, Array.any_eq_true]
    exact ⟨handle, bound, by rw [eq]; exact beq_self_eq_true _⟩

theorem tending_clone (handle : Nat) : Tending causes (onCircuit handle fun id => do
    let w ← get
    set { w with handles := w.handles.push (some id) }
    return .count w.handles.size) := by
  intro w _ _
  unfold onCircuit
  simp only [yields_bind, yields_get]
  cases resolved : w.resolve? handle with
  | none =>
    rw [yields_pure]
    exact .refl w
  | some id =>
    simp only [yields_bind, yields_get, yields_set, yields_pure]
    exact tends_clone w resolved

/-- Whether an action neither asks a classifier nor carries out steps of its own. -/
def Action.isPlain : Action → Bool
  | .error _ _ | .result _ _ | .rounds _ _ => false
  | _ => true

section Actions

variable {react : CircuitId → React Session} (tending : ∀ id, TendingReact (react id))
  {perform : Step → Deed Answer}
include tending

theorem tending_act_of_plain (busy : List CircuitId) (tries handle : Nat) {action : Action}
    (plain : action.isPlain = true) :
    Tending (· = .unsettled) (act react perform busy tries handle action) := by
  have time {f : World Session → World Session} (h : ∀ w : World Session, w.Tends (f w)) :
      Tending (· = .unsettled) (do modify f; return .count (← get).clock.now : Deed Answer) :=
    .bind (.modify h) fun _ => .bind .get fun _ => .pure _
  cases action with
  | error | result | rounds => cases plain
  | tryAcquire =>
    exact tending_onCircuit handle fun id =>
      .bind (tending_askAndNote (tending id) tries) fun _ => .pure _
  | acquire =>
    refine tending_onCircuit handle fun id => .bind (tending_acquireAndNote (tending id) tries) fun asked => ?_
    cases asked with
    | ok | error => exact .pure _
  | release => exact tending_doOnCircuit handle fun _ => tending_noteAndRelease
  | success d =>
    exact tending_doOnCircuit handle fun id => tending_noteAndReport (tending_onSuccess (tending id) d)
  | «to» state => exact tending_doOnCircuit handle fun id => tending_force (tending id) state
  | reset => exact tending_doOnCircuit handle fun id => tending_reset (tending id)
  | state | name | settings | describe | consumers =>
    unfold act
    exact tending_askCircuit handle _
  | metrics => exact tending_onCircuit handle fun _ => .bind tending_readMetrics fun _ => .pure _
  | advance | setClock => exact time fun w => .time w _ w.elapsed
  | runTimers => exact .bind (tending_runTimers tending busy) fun _ => .pure _
  | pendingTimers => exact .bind .get fun _ => .pure _
  | clone => exact tending_clone handle
  | drop => exact .bind .get fun w => .bind (.modify fun w => tends_drop w handle) fun _ => .pure _
  | awaitState state =>
    exact tending_onCircuit handle fun id =>
      .bind (tending_awaitState tending busy id state _) fun _ => .pure _
  | subscribe => exact tending_onCircuit handle fun id => tending_subscribe id _ _ _
  | unsubscribe name => exact tending_unsubscribe name

theorem tending_act (steps : ∀ step, Tending (fun _ => True) (perform step))
    (busy : List CircuitId) (tries handle : Nat) (action : Action) :
    Tending (fun _ => True) (act react perform busy tries handle action) := by
  cases plain : action.isPlain with
  | true => exact (tending_act_of_plain tending busy tries handle plain).weaken fun _ _ => trivial
  | false =>
    cases action with
    | error d error =>
      exact tending_doOnCircuit handle fun id =>
        tending_noteAndReport (tending_onError (tending id) d error)
    | result d result =>
      exact tending_doOnCircuit handle fun id =>
        tending_noteAndReport (tending_onResult (tending id) d result)
    | rounds count script =>
      exact .bind (tending_performRounds steps script count []) fun _ => .pure _
    | _ => cases plain

end Actions

/-- **Steps** tend, whatever those who listen do inside them. -/
theorem tending_perform (allowance : Nat) (busy : List CircuitId) (step : Step) :
    Tending (fun _ => True) (perform allowance busy step) := by
  induction allowance generalizing busy step with
  | zero => exact .throw trivial
  | succ allowance ih =>
    obtain ⟨handle, action⟩ := step
    -- listeners act on a circuit that is busy then, so the steps hold for any busy circuits
    exact tending_act (fun id => tending_hear (ih (id :: busy))) (ih busy) busy _ handle action

/-! ### Runs -/

theorem tends_settled {deed : Deed Answer} (h : Tending (fun _ => True) deed) {w : World Session}
    (sound : w.Sound) (waits : w.Waits) (returned : (settled deed w).1 ≠ .aborted .unsettled) :
    w.Tends (settled deed w).2 := by
  have done := h w sound waits
  unfold settled at returned ⊢
  cases result : deed w with
  | ok answer after => exact done.of_ok result
  | error cause after =>
    rw [result] at returned
    exact (done.of_error result).2 fun same => returned (congrArg Answer.aborted same)

theorem tends_showCircuit (detail : Detail) (handle : Nat) (row : Row) {w : World Session}
    (sound : w.Sound) (waits : w.Waits) : w.Tends (showCircuit detail handle row w).2 := by
  unfold showCircuit
  split
  · exact .refl w
  · case h_2 id _ =>
    have read : Tending (fun _ => False) (readMetrics id : Deed Metrics) := tending_readMetrics
    show w.Tends (glance id w).2
    unfold glance
    cases result : (readMetrics id).run w with
    | ok metrics after => exact (read w sound waits).of_ok result
    | error cause after => exact ((read w sound waits).of_error result).1.elim
  · exact .refl w

/-- **Runs** tend, if no step of theirs was left unsettled. -/
theorem tends_runSteps (allowance : Nat) (detail : Detail) (steps : List Step) {w : World Session}
    (sound : w.Sound) (waits : w.Waits)
    (returned : ∀ row ∈ (runSteps allowance detail steps w).1, row.answer ≠ .aborted .unsettled) :
    w.Tends (runSteps allowance detail steps w).2 := by
  induction steps generalizing w with
  | nil => exact .refl w
  | cons step steps ih =>
    have first : (runStep allowance detail step w).1.answer ≠ .aborted .unsettled :=
      returned _ List.mem_cons_self
    have done : w.Tends (runStep allowance detail step w).2 := by
      unfold runStep rowOf at first ⊢
      rw [answer_showCircuit] at first
      have performed := tends_settled (tending_perform allowance [] step) sound waits first
      exact performed.trans
        (tends_showCircuit detail _ _ (performed.sound sound) (performed.waits waits))
    exact done.trans (ih (done.sound sound) (done.waits waits) fun row mem =>
      returned row (List.mem_cons_of_mem _ mem))

variable {plans : List Plan} {start : Nat} {dice : Dice} {w : World Session}

/-- What the attempts and waits of a circuit are after a scenario. -/
theorem counts_runSteps (built : plans.foldlM addPlan (World.empty start dice Session.empty) = .ok w)
    (allowance : Nat) (detail : Detail) (steps : List Step) {id : CircuitId}
    (there : id < w.circuits.size) :
    ∃ last turns, last = (runSteps allowance detail steps w).2 ∧
      (last.episode id).Counts (last.circuit id).settings turns := by
  have planned := planned_addPlans built (planned_empty start dice)
  obtain ⟨-, now, begun⟩ := planned.fresh id there
  have sound : w.Sound := (leads_addPlans built).sound (World.sound_empty ..)
  refine ⟨_, _, rfl, (leads_runSteps allowance detail steps sound).counts there ?_⟩
  rw [begun, planned.journal]
  exact .of_begin 0 now

/-- No circuit has a timer before the first step, and none needs one. -/
theorem armed_addPlans (built : plans.foldlM addPlan (World.empty start dice Session.empty) = .ok w)
    (id : CircuitId) : w.Armed id := by
  intro t₀ leaves
  obtain ⟨-, due, goal, timeout, -⟩ := World.timerLeft_eq_some.mp leaves
  have closed : (w.episode id).timeout? (w.circuit id).settings = none := by
    by_cases there : id < w.circuits.size
    · obtain ⟨-, now, begun⟩ := (planned_addPlans built (planned_empty start dice)).fresh id there
      rw [begun]
      rfl
    · rw [World.episode, World.circuit_of_size_le w (Nat.le_of_not_lt there)]
      rfl
  rw [closed] at timeout
  cases timeout

/-- The time from an entry to a reading that is some time later. -/
theorem nanos_ofNanos_later (entry : Nat) (span : Duration) :
    (Duration.ofNanos (later entry span.word - entry)).nanos
      = min span.nanos (2 ^ 64 - 1 - entry) := by
  show min (min (entry + min span.nanos wordMax) wordMax - entry) longestNanos
    = min span.nanos (2 ^ 64 - 1 - entry)
  have bound : wordMax ≤ longestNanos := by decide
  have word : wordMax = 2 ^ 64 - 1 := by decide
  omega

/-- **Every stay that a timer ends has its timer, and no other timer is left.**  Whatever a scenario does
with circuits that share their timers, and whatever its subscribers do meanwhile, once every step has
returned, the timers of a circuit that can still go off are these: for an open one that is probed on a
timer, one that was left when it opened, with the wait that was drawn; for a half-open one with a limit,
one with that limit; and none for any other.  A delay never goes past the largest reading.  And running
timers of episodes that are over, cancelled or not and in whatever world, changes nothing. -/
theorem one_timer_each_stay
    (built : plans.foldlM addPlan (World.empty start dice Session.empty) = .ok w)
    (allowance : Nat) (detail : Detail) (steps : List Step)
    (returned : ∀ row ∈ (runSteps allowance detail steps w).1, row.answer ≠ .aborted .unsettled)
    (waits : ∀ id cause, ¬(w.circuit id).settings.WaitFails cause) :
    ∃ last, last = (runSteps allowance detail steps w).2 ∧
      (∀ id, last.isHeld id = true → (last.circuit id).timerSource = some .shared →
        ∃ s e own, s = (last.circuit id).settings ∧ e = last.episode id ∧
          own = last.timers.live.filter (·.task.circuit = id) ∧
          (e.state = .opened ∧ s.probesOnTimer = true → ∃ wait t, s.Draws e.attempts wait ∧
            e.phase = .opened (min (e.enteredAt + wait.nanos) (2 ^ 64 - 1)) ∧
            own = [t] ∧ t.task = ⟨id, e.number, .halfOpen⟩ ∧
            t.delay.nanos = min wait.nanos (2 ^ 64 - 1 - e.enteredAt)) ∧
          (e.state = .halfOpen ∧ s.trialLimit.isZero = false → ∃ t,
            own = [t] ∧ t.task = ⟨id, e.number, .opened⟩ ∧
            t.delay.nanos = min s.trialLimit.nanos (2 ^ 64 - 1 - e.enteredAt)) ∧
          (¬(e.state = .opened ∧ s.probesOnTimer = true) →
            ¬(e.state = .halfOpen ∧ s.trialLimit.isZero = false) → own = [])) ∧
      ∀ (react : CircuitId → React Session) (busy : List CircuitId) (v : World Session)
        (batch : List (Timer Alarm)),
        (∀ t ∈ batch, t.task.episode ≠ (v.episode t.task.circuit).number) →
        ∃ n, Timers.runBatch (fun handle => return (← get).timers.isCancelled handle)
          (ring react busy) batch v = .ok n v := by
  have sound : w.Sound := (leads_addPlans built).sound (World.sound_empty ..)
  have tends := tends_runSteps allowance detail steps sound waits returned
  have reachable := reachable_runSteps built allowance detail steps
  refine ⟨_, rfl, fun id held place => ?_, fun react busy v batch stale => ?_⟩
  case refine_2 =>
    obtain ⟨n, after, run, rfl⟩ := (yields_runBatch_stale busy batch stale).exists_ok
    exact ⟨n, run⟩
  have there : id < w.circuits.size := by
    rw [← tends.size]
    by_contra beyond
    rw [World.circuit_of_size_le _ (Nat.le_of_not_lt beyond)] at place
    cases place
  have armed : (runSteps allowance detail steps w).2.Armed id :=
    (tends.armed id held).resolve_right fun idle => idle.2 (armed_addPlans built id)
  obtain ⟨last, turns, same, counts⟩ := counts_runSteps built allowance detail steps there
  rw [← same] at reachable place armed ⊢
  have sound' := reachable.sound
  have tidy := reachable.tidy
  refine ⟨_, _, _, rfl, rfl, rfl, ?_, ?_, fun noWait noLimit => ?_⟩
  · rintro ⟨state, probes⟩
    obtain ⟨retryAt, phase⟩ := Episode.phase_of_opened state
    obtain ⟨wait, drawn, eq⟩ := counts.waits retryAt phase
    obtain ⟨t, own, task, delay⟩ :=
      armed.live sound' tidy place ((Episode.timeout_of_opened phase).trans (if_pos probes))
    have ends : retryAt = later (last.episode id).enteredAt wait.word := by
      rw [eq, later, Duration.word]
      omega
    exact ⟨wait, t, drawn, eq ▸ phase, own, task, by rw [delay, ends, nanos_ofNanos_later]⟩
  · rintro ⟨state, limited⟩
    have timeout := reachable.endsAtLimit id state
    rw [if_neg (by rw [limited]; exact Bool.false_ne_true)] at timeout
    obtain ⟨t, own, task, delay⟩ := armed.live sound' tidy place timeout
    exact ⟨t, own, task, by rw [delay, nanos_ofNanos_later]⟩
  · exact World.live_of_timeout_eq_none sound' tidy
      ((reachable.endsAtLimit id).timeout_eq_none noWait noLimit)

/-- A circuit like `Plan.hasty` that is probed on a timer of the world. -/
def Plan.probing : Plan :=
  { Plan.hasty with parts := Plan.hasty.parts ++ [.choice (.probesOnTimer true),
      .choice (.timerSource .shared)] }

/-- A subscriber that resets the circuit when it opens and lets it open again, and a call that fails. -/
def reopen : List Step :=
  [.on 0 (.subscribe "" .transition [.on 0 .reset, .on 0 (.error .zero .unit)] 1 false),
    .on 0 (.error .zero .unit)]

/-- A circuit that opened twice has one timer, the second, with the whole wait. -/
theorem one_timer_each_stay_reopened :
    ∃ (w last : World Session) (t : Timer Alarm),
      [Plan.probing].foldlM addPlan (World.empty 0 seed .empty) = .ok w ∧
      last = (runSteps 3 .none reopen w).2 ∧
      last.timers.live.filter (·.task.circuit = 0) = [t] ∧ t.task = ⟨0, 3, .halfOpen⟩ ∧
      t.delay.nanos = 1000000000 ∧ last.timers.pending.length = 2 := by
  obtain ⟨w, built, returned, one, backoff, held, place, state, probes, number, phase, entered, two⟩ :
      ∃ w : World Session,
      [Plan.probing].foldlM addPlan (World.empty 0 seed .empty) = .ok w ∧
      (∀ row ∈ (runSteps 3 .none reopen w).1, row.answer.abort? = none) ∧
      w.circuits.size = 1 ∧ (w.circuit 0).settings.backoff = .fixed (.ofSeconds 1) ∧
      (runSteps 3 .none reopen w).2.isHeld 0 = true ∧
      ((runSteps 3 .none reopen w).2.circuit 0).timerSource = some .shared ∧
      ((runSteps 3 .none reopen w).2.episode 0).state = .opened ∧
      ((runSteps 3 .none reopen w).2.circuit 0).settings.probesOnTimer = true ∧
      ((runSteps 3 .none reopen w).2.episode 0).number = 3 ∧
      ((runSteps 3 .none reopen w).2.episode 0).phase = .opened 1000000000 ∧
      ((runSteps 3 .none reopen w).2.episode 0).enteredAt = 0 ∧
      (runSteps 3 .none reopen w).2.timers.pending.length = 2 :=
    ⟨_, rfl, by decide +kernel, rfl, rfl, by decide +kernel, by decide +kernel,
      by decide +kernel, by decide +kernel, by decide +kernel, by decide +kernel,
      by decide +kernel, by decide +kernel⟩
  have settled : ∀ row ∈ (runSteps 3 .none reopen w).1, row.answer ≠ .aborted .unsettled := by
    intro row mem eq
    have answered := returned row mem
    rw [eq] at answered
    cases answered
  have waits (id : CircuitId) (cause : Abort) : ¬(w.circuit id).settings.WaitFails cause := by
    intro fails
    obtain ⟨wait?, remarks, policy⟩ := fails.custom
    by_cases there : id < w.circuits.size
    · obtain rfl : id = 0 := Nat.lt_one_iff.mp (one ▸ there)
      rw [backoff] at policy
      cases policy
    · rw [World.circuit_of_size_le w (Nat.le_of_not_lt there)] at policy
      cases policy
  obtain ⟨last, rfl, timers, -⟩ := one_timer_each_stay built 3 .none reopen settled waits
  obtain ⟨s, e, own, rfl, rfl, rfl, opened, -⟩ := timers 0 held place
  obtain ⟨wait, t, -, wait_eq, own, task, delay⟩ := opened ⟨state, probes⟩
  rw [phase, entered, Phase.opened.injEq] at wait_eq
  rw [number] at task
  rw [entered] at delay
  exact ⟨w, _, t, built, rfl, own, task, by omega, two⟩

end Breaker.Scenario

import Breaker.Proofs.Episode.Edges
import Breaker.Proofs.World.InStep

/-!
# Overdue — the two ways in which time ends an episode

An episode that ends by a timer is over at the moment the timer is due, whether or not the timers were run
by then: the timer ends it, or the next request does, or, if it is a trial, the next outcome.  Running the
timer first makes no difference that could be seen (`timer_agrees`).

For a request that is so because the timer and the request make one and the same change of state, and a
request is answered alike whether it went through that change itself (`both_tryAcquire`).  An outcome comes
to the window of the trial before the change if it is reported late, and to the window that the open state
inherited after the timer, which makes one window (`Episode.observe_next`).
-/

namespace Breaker

variable {γ : Type}

namespace Episode

variable {s : Settings} {now : Nat} {e : Episode}

/-- A request finds an episode over that a timer would end. -/
theorem request_of_timeout {due : Nat} {target : State} (h : e.timeout? s = some (due, target))
    (overdue : due ≤ now) : e.request now = .expired target := by
  unfold timeout? at h
  rw [request]
  split at h
  case h_1 retryAt phase =>
    split at h
    · cases h
      rw [phase]
      exact if_pos overdue
    · cases h
  case h_2 permits deadline phase =>
    cases h
    rw [phase]
    exact if_pos (decide_eq_true overdue)
  case h_3 => cases h

/-- An outcome that is added to a trial before it trips, or to the open state that follows. -/
theorem observe_next (e : Episode) (wait : Duration) (o : Outcome) :
    (e.next s now .opened wait false).observe now o = (e.observe now o).next s now .opened wait false :=
  rfl

end Episode

open World (Alone Kin Twins Follows Comes Stands)

/-- A request that goes through an episode whose time is over. -/
theorem tryAcquire_of_expired {react : React γ} {id : CircuitId} {tries : Nat} {w : World γ}
    {next : State} (expired : (w.episode id).request (w.reading id) = .expired next) :
    tryAcquire react id (tries + 1) w = (do
      let _ ← transition react id (w.episode id) next false none
      tryAcquire react id tries : Act γ Bool) w := by
  conv => lhs; unfold tryAcquire
  simp only [bind, EStateM.bind, get, getThe, MonadStateOf.get, EStateM.get, expired]

/-- A request that is answered within some episodes is answered alike if there may be one more. -/
theorem tryAcquire_succ {react : React γ} {id : CircuitId} {tries : Nat} {w after : World γ}
    {answer : Bool} (run : tryAcquire react id tries w = .ok answer after) :
    tryAcquire react id (tries + 1) w = .ok answer after := by
  induction tries generalizing w with
  | zero => cases run
  | succ tries ih =>
    cases asked : (w.episode id).request (w.reading id) with
    | expired next =>
      rw [tryAcquire_of_expired asked] at run ⊢
      simp only [bind, EStateM.bind] at run ⊢
      cases turned : transition react id (w.episode id) next false none w with
      | ok made v =>
        rw [turned] at run
        exact ih run
      | error cause v =>
        rw [turned] at run
        cases run
    | granted | denied =>
      rw [← run]
      unfold tryAcquire
      simp only [bind, EStateM.bind, get, getThe, MonadStateOf.get, EStateM.get, asked]

/-- A request is answered within three episodes. -/
theorem tryAcquire_answers {react : React γ} (quiet : Quiet react) {w : World γ} {id : CircuitId}
    (there : id < w.circuits.size) (returns : ∀ cause, ¬(w.circuit id).settings.WaitFails cause)
    (early : (w.circuit id).settings.trialLimit.isZero = false → w.reading id < wordMax)
    {tries : Nat} (patient : 3 ≤ tries) :
    ∃ answer after, tryAcquire react id tries w = .ok answer after := by
  have answered : Yields (tryAcquire react id tries) w (fun _ _ => True) fun _ _ => False := by
    refine quiet.tryAcquire tries there (fun _ _ _ _ _ _ _ _ => trivial)
      (fun _ _ _ _ _ _ _ => trivial) (fun cause _ => returns cause) ?_
    intro lapses e after lapse spent
    have few := lapse.length_le early
    omega
  obtain ⟨answer, after, run, -⟩ := answered.exists_ok
  exact ⟨answer, after, run⟩

/-- A report of a call that is not ignored comes to the record of its outcome. -/
theorem yields_tell_of_some {react : React γ} {w : World γ} {id : CircuitId} {d : Duration}
    {r : Report} {o : Outcome} (counted : (w.circuit id).outcome? d r = some o)
    {ok : Unit → World γ → Prop} {abort : Abort → World γ → Prop}
    (recorded : ∀ event after, w.Asked after → Yields (record react id o (pure event)) after ok abort) :
    Yields (r.tell react id d) w ok abort := by
  refine yields_tell (fun verdict o' after _ counted' asked => ?_) (fun after _ left _ => ?_)
    fun cause after fails _ => ?_
  · rw [counted] at counted'
    cases counted'
    exact recorded _ after asked
  · rw [counted] at left
    cases left
  · rw [Circuit.outcome?, fails] at counted
    cases counted

section Timer

variable {react : React γ} (quiet : Quiet react) {w : World γ} {id : CircuitId} (alone : w.Alone id)
  {f : Nat → Duration} (returns : ∀ roll attempt,
    ((w.circuit id).settings.backoff.wait roll attempt).observe.1 = .ok (f attempt))
include quiet alone returns

/-- **What the timer does** when it goes off: the episode gives way to the next. -/
theorem timer_turns (target : State) :
    Yields (transition react id (w.episode id) target false none)
      { w with timers := w.timers.drain } (fun made v => made = true ∧ Comes id w
        [.transition ⟨(w.episode id).state, target⟩] v ∧
        ∃ wait, (target = .opened → wait = f (Episode.attemptsOnEntry (w.episode id).state
          (w.episode id).attempts target false)) ∧
        Stands id (w.nextEpisode id target wait false).view
          ((w.nextEpisode id target wait false).delays (w.circuit id).settings) v)
      fun _ _ => False := by
  have drained := Comes.drained id w
  refine (quiet.transition_stands (drained.alone alone) target false none).mono ?_ ?_
  · rintro made v ⟨rfl, wait, drawn, comes, stands⟩
    refine ⟨rfl, drained.trans comes, wait, fun opens => ?_, stands⟩
    have drawn := drawn opens
    rw [World.wait?, drained.settings, returns] at drawn
    exact (Except.ok.inj drawn).symm
  · rintro cause v ⟨⟨-, fails⟩, -⟩
    rw [World.wait?, drained.settings, returns] at fails
    cases fails

/-- **A request**, if the timer has run and if it has not. -/
theorem tryAcquire_after_timer {due : Nat} {target : State}
    (timeout : (w.episode id).timeout? (w.circuit id).settings = some (due, target))
    (overdue : due ≤ w.reading id) {v : World γ}
    (ran : transition react id (w.episode id) target false none { w with timers := w.timers.drain }
      = .ok true v) {tries : Nat} {answer : Bool} {after : World γ}
    (run : tryAcquire react id tries w = .ok answer after) :
    ∃ after', tryAcquire react id tries v = .ok answer after' ∧ Twins id id after after' := by
  cases tries with
  | zero => cases run
  | succ tries =>
    have kin : Kin id id w { w with timers := w.timers.drain } :=
      (Kin.refl alone ⟨fun attempt => .ok (f attempt), returns⟩).comes (.refl id w) (.drained id w)
    rw [tryAcquire_of_expired (Episode.request_of_timeout timeout overdue)] at run
    simp only [bind, EStateM.bind] at run
    cases turned : transition react id (w.episode id) target false none w with
    | ok made u =>
      rw [turned] at run
      obtain ⟨v', ran', twins, -⟩ :=
        (both_transition quiet quiet kin none rfl fun _ => rfl).of_ok turned
      obtain ⟨-, rfl⟩ := EStateM.Result.ok.inj (ran'.symm.trans ran)
      obtain ⟨after', run', led⟩ := (inStep_tryAcquire quiet quiet tries u v' twins).of_ok run
      exact ⟨after', tryAcquire_succ run', led.twins⟩
    | error cause u =>
      rw [turned] at run
      cases run

/-- **An outcome that comes late to a trial** opens the breaker, with the outcome in its window. -/
theorem record_overdue (overdue : (w.episode id).isOverdue (w.reading id) = true) (o : Outcome)
    (event : Event) :
    Yields (record react id o (pure event)) w (fun _ after => ∃ e,
        e = ((w.episode id).observe (w.reading id) o).next (w.circuit id).settings (w.reading id)
          .opened (f (Episode.attemptsOnEntry (w.episode id).state (w.episode id).attempts .opened
            false)) false ∧
        Stands id e.view (e.delays (w.circuit id).settings) after)
      fun _ _ => False := by
  have marked : Comes id w [] _ := .mark w id (m := .recorded o) rfl
  have late : ((w.episode id).observe (w.reading id) o).isOverdue (w.reading id) = true := overdue
  have asks : ((w.episode id).observe (w.reading id) o).followUp (w.circuit id).settings
      (w.reading id) = some (.trip ((w.episode id).observe (w.reading id) o).rates) := by
    rw [Episode.followUp_of_halfOpen (Episode.state_of_isOverdue late), if_pos late]
  refine quiet.yields_record alone.there rfl asks fun u said => ?_
  have comes := marked.trans (.told said)
  have current : u.episode id = (w.episode id).observe (w.reading id) o :=
    (said.aside.episode id).trans (World.episode_setEpisode_self w _ alone.there)
  unfold follow
  simp only [yields_bind, yields_pure]
  have turn := quiet.transition_stands (comes.alone alone) .opened false
    (some ((w.episode id).observe (w.reading id) o).rates)
  rw [current] at turn
  refine turn.mono ?_ ?_
  · rintro made after ⟨-, wait, drawn, -, stands⟩
    have drawn := drawn rfl
    rw [World.wait?, comes.settings, returns] at drawn
    rw [World.nextEpisode, current, comes.settings, comes.reading, ← Except.ok.inj drawn] at stands
    exact ⟨_, rfl, stands⟩
  · rintro cause after ⟨⟨-, fails⟩, -⟩
    rw [World.wait?, comes.settings, returns] at fails
    cases fails

/-- A call that is reported late to a trial opens the breaker. -/
theorem tell_overdue (overdue : (w.episode id).isOverdue (w.reading id) = true) {d : Duration}
    {r : Report} {o : Outcome} (counted : (w.circuit id).outcome? d r = some o) :
    Yields (r.tell react id d) w (fun _ after => ∃ e,
        e = ((w.episode id).observe (w.reading id) o).next (w.circuit id).settings (w.reading id)
          .opened (f (Episode.attemptsOnEntry (w.episode id).state (w.episode id).attempts .opened
            false)) false ∧
        Stands id e.view (e.delays (w.circuit id).settings) after)
      fun _ _ => False := by
  refine yields_tell_of_some counted fun event u asked => ?_
  have comes : Comes id w [] u := .asked asked
  have recorded := record_overdue quiet (comes.alone alone) (by rw [comes.settings]; exact returns)
    (by rw [asked.aside.episode, comes.reading]; exact overdue) o event
  rwa [asked.aside.episode, comes.settings, comes.reading] at recorded

omit returns in
/-- An outcome that comes to an open breaker is added to its window. -/
theorem record_opened (opened : (w.episode id).state = .opened) (o : Outcome) (event : Event) :
    Yields (record react id o (pure event)) w (fun _ after =>
        Stands id ((w.episode id).observe (w.reading id) o).view w.timers.delays after)
      fun _ _ => False := by
  have ticket : (w.setEpisode id ((w.episode id).observe (w.reading id) o)).episode id
      = (w.episode id).observe (w.reading id) o := World.episode_setEpisode_self w _ alone.there
  have asks : ((w.episode id).observe (w.reading id) o).followUp (w.circuit id).settings
      (w.reading id) = none := by
    rw [Episode.state] at opened
    rw [Episode.followUp, show (Episode.observe _ _ _).phase = (w.episode id).phase from rfl]
    cases phase : (w.episode id).phase with
    | opened | disabled | forcedOpen => rfl
    | closed | halfOpen | metricsOnly =>
      rw [phase] at opened
      cases opened
  refine quiet.yields_record alone.there rfl asks fun u said => ?_
  unfold follow
  rw [yields_pure]
  have aside : (w.setEpisode id ((w.episode id).observe (w.reading id) o)).Aside u := said.aside
  have stands : Stands id _ _ u := aside.stands
  rwa [ticket] at stands

omit returns in
/-- A call that is reported to an open breaker is added to its window. -/
theorem tell_opened (opened : (w.episode id).state = .opened) {d : Duration} {r : Report}
    {o : Outcome} (counted : (w.circuit id).outcome? d r = some o) :
    Yields (r.tell react id d) w (fun _ after =>
        Stands id ((w.episode id).observe (w.reading id) o).view w.timers.delays after)
      fun _ _ => False := by
  refine yields_tell_of_some counted fun event u asked => ?_
  have comes : Comes id w [] u := .asked asked
  have recorded := record_opened quiet (comes.alone alone) (by rw [asked.aside.episode]; exact opened)
    o event
  rwa [asked.aside.episode, comes.reading, asked.aside.timers] at recorded

end Timer

theorem run_report {react : CircuitId → React γ} {id : CircuitId} {w after : World γ}
    (there : id < w.circuits.size) {d : Duration} {r : Report}
    (run : r.tell (react id) id d w = .ok () after) :
    (Operation.report id d r).run react w = .ok .nothing after := by
  show (if id < w.circuits.size then _ else _ : Act γ Answer) w = _
  rw [if_pos there]
  simp only [bind, EStateM.bind, run]
  rfl

/-- What a request answers follows from whether it was permitted. -/
theorem both_requests {react : CircuitId → React γ} {id : CircuitId} {w v : World γ}
    (there : id < w.circuits.size) (there' : id < v.circuits.size) {tries : Nat}
    (both : Both (tryAcquire (react id) id tries) (tryAcquire (react id) id tries) w v
      (fun _ u u' => Twins id id u u') fun _ _ => False)
    {op : Operation} (asks : op = .request id tries ∨ op = .acquire id tries) :
    Both (op.run react) (op.run react) w v (fun _ u u' => Twins id id u u') fun _ _ => False := by
  rcases asks with rfl | rfl
  · exact both_onCircuit there there' (both_bind (both.mono
      (fun _ _ _ twins => both_pure _ twins) fun _ _ => False.elim))
  · refine both_onCircuit there there' (both_bind (both_bind (both.mono ?_ fun _ _ => False.elim)))
    intro permitted u u' twins
    cases permitted with
    | true => exact both_pure _ (both_pure _ twins)
    | false =>
      have state : (u'.circuit id).episode.state = (u.circuit id).episode.state :=
        Episode.state_of_view twins.view
      refine both_get_bind ?_
      dsimp only
      rw [twins.name, state]
      exact both_pure _ (both_pure _ twins)

/-- **The timer and the request agree, and so do the timer and the outcome.**  Take a breaker whose
timer is the only one that can go off, with a wait that depends on the attempt alone, at a moment when the
timer is due.  Whether a request comes after the timer was run or before, its answer is the same, and it
leaves the same to be seen of the episode, and the same delays; if the breaker is on trial, an outcome that
is reported does so as well. -/
theorem timer_agrees {react : CircuitId → React γ} (quiet : ∀ id, Quiet (react id)) {w : World γ}
    (reachable : w.Reachable) {id : CircuitId} (held : w.isHeld id = true) {t : Timer Alarm}
    (only : w.timers.live = [t]) (own : t.task.circuit = id) {f : Nat → Duration}
    (returns : ∀ roll attempt,
      ((w.circuit id).settings.backoff.wait roll attempt).observe.1 = .ok (f attempt))
    {due : Nat} {target : State}
    (timeout : (w.episode id).timeout? (w.circuit id).settings = some (due, target))
    (overdue : due ≤ w.reading id) (early : w.reading id < wordMax) (busy : List CircuitId) :
    ∃ v, runTimers react busy w = .ok 1 v ∧
      (∀ (tries : Nat) (op : Operation), 3 ≤ tries → (op = .request id tries ∨ op = .acquire id tries) →
        ∃ answer after after', op.run react v = .ok answer after ∧
          op.run react w = .ok answer after' ∧
          (after.episode id).view = (after'.episode id).view ∧
          after.timers.delays = after'.timers.delays) ∧
      ((w.episode id).state = .halfOpen → ∀ d r o, (w.circuit id).outcome? d r = some o →
        ∃ after after', (Operation.report id d r).run react v = .ok .nothing after ∧
          (Operation.report id d r).run react w = .ok .nothing after' ∧
          (after.episode id).view = (after'.episode id).view ∧
          after.timers.delays = after'.timers.delays) := by
  have live : t ∈ w.timers.live := by
    rw [only]
    exact List.mem_singleton_self t
  have sound := reachable.sound
  have there : id < w.circuits.size :=
    own ▸ (sound.serves_timers t (List.mem_of_mem_filter live)).circuit
  obtain ⟨place, -, due', timeout'⟩ := World.held_of_live sound reachable.tidy live
  rw [own] at place timeout'
  rw [timeout] at timeout'
  have goal : t.task.target = target := (Prod.ext_iff.mp (Option.some.inj timeout')).2.symm
  have alone : w.Alone id := by
    refine ⟨there, held, place, sound, reachable.tidy, fun t' live' => ?_⟩
    rw [only] at live'
    rw [List.mem_singleton.mp live', own]
  obtain ⟨made, v, ran, rfl, comes, wait, drawn, stands⟩ :=
    (timer_turns (quiet id) alone returns target).exists_ok
  refine ⟨v, ?_, fun tries op patient asks => ?_, fun trial d r o counted => ?_⟩
  · rw [runTimers_of_one (quiet id) alone only, goal]
    simp only [bind, EStateM.bind]
    rw [ran]
    rfl
  · have returned (cause : Abort) (fails : (w.circuit id).settings.WaitFails cause) : False := by
      obtain ⟨roll, attempt, fails⟩ := fails
      rw [returns] at fails
      cases fails
    obtain ⟨permitted, after', run⟩ :=
      tryAcquire_answers (quiet id) there returned (fun _ => early) patient
    obtain ⟨after, run', twins⟩ :=
      tryAcquire_after_timer (quiet id) alone returns timeout overdue ran run
    have both : Both (tryAcquire (react id) id tries) (tryAcquire (react id) id tries) w v
        (fun _ u u' => Twins id id u u') fun _ _ => False := both_of_ok run run' twins
    obtain ⟨answer, u, u', ran, ran', twins⟩ :=
      (both_requests there (comes.alone alone).there both asks).exists_ok
    exact ⟨answer, u', u, ran', ran, twins.view, twins.delays⟩
  · have late : (w.episode id).isOverdue (w.reading id) = true ∧ target = .opened := by
      obtain ⟨opened, -⟩ | late :=
        Episode.request_eq_expired_iff.mp (Episode.request_of_timeout timeout overdue)
      · rw [Episode.state_of_isWaitOver opened] at trial
        cases trial
      · exact late
    obtain ⟨late, rfl⟩ := late
    have opened : (v.episode id).state = .opened := by
      rw [Episode.state_of_view stands.view]
      exact Episode.next_state ..
    have counted' : (v.circuit id).outcome? d r = some o := by
      rw [← counted, Circuit.outcome?, Circuit.outcome?, comes.settings]
      cases r with
      | success => rfl
      | error | result => rw [Circuit.verdict, Circuit.verdict, comes.settings, comes.name]
    -- the outcome comes to the trial, or to the open state that inherited its window
    obtain ⟨⟨⟩, after', run', e, rfl, direct⟩ :=
      (tell_overdue (quiet id) alone returns late counted).exists_ok
    obtain ⟨⟨⟩, after, run, behind⟩ :=
      (tell_opened (quiet id) (comes.alone alone) opened counted').exists_ok
    have view : ((v.episode id).observe (v.reading id) o).view
        = ((w.nextEpisode id .opened wait false).observe (w.reading id) o).view := by
      rw [comes.reading]
      exact Episode.after_of_view (s := (w.circuit id).settings) stands.view (m := .recorded o) rfl
    refine ⟨after, after', run_report (comes.alone alone).there run, run_report there run', ?_, ?_⟩
    · rw [behind.view, view, direct.view, World.nextEpisode, Episode.observe_next, drawn rfl]
    · rw [behind.delays, stands.delays, direct.delays, World.nextEpisode, drawn rfl]
      rfl

/-- A trial that is overdue ends by its timer as it does by the next request. -/
theorem timer_agrees_trial :
    ∃ w v : World Unit, (w.episode 0).state = .halfOpen ∧ runTimers (fun _ => .silent) [] w = .ok 1 v ∧
      ∃ answer after after', (Operation.request 0 3).run (fun _ => .silent) v = .ok answer after ∧
        (Operation.request 0 3).run (fun _ => .silent) w = .ok answer after' ∧
        (after.episode 0).view = (after'.episode 0).view ∧
        after.timers.delays = after'.timers.delays := by
  -- the trial begins, and then its time passes
  obtain ⟨c, built, fixed, w₀, forced, trial, held, only, timeout, overdue, early⟩ :
      ∃ c : Circuit, (Blueprint.ofChoices "" [.trialLimit (.ofSeconds 1), .wait (.ofSeconds 1),
        .timeSource .shared, .timerSource .shared]).build (World.empty 0 ⟨0⟩ ()) = .ok c ∧
        c.settings.backoff = .fixed (.ofSeconds 1) ∧
      ∃ w₀ : World Unit, (Operation.force 0 .halfOpen).run (fun _ => .silent)
          ((World.empty 0 ⟨0⟩ ()).addCircuit c) = .ok .nothing w₀ ∧
        (w₀.episode 0).state = .halfOpen ∧ w₀.isHeld 0 = true ∧
        w₀.timers.live = [⟨0, .ofNanos 1000000000, ⟨0, 1, .opened⟩⟩] ∧
        (w₀.episode 0).timeout? (w₀.circuit 0).settings = some (1000000000, .opened) ∧
        1000000000 ≤ ({ w₀ with clock := w₀.clock.set 2000000000, elapsed := w₀.elapsed } :
          World Unit).reading 0 ∧
        ({ w₀ with clock := w₀.clock.set 2000000000, elapsed := w₀.elapsed } :
          World Unit).reading 0 < wordMax :=
    ⟨_, rfl, rfl, _, rfl, rfl, by decide +kernel, rfl, rfl, by decide +kernel, by decide +kernel⟩
  have quiet (id : CircuitId) : Quiet ((fun _ => .silent : CircuitId → React Unit) id) := Quiet.silent
  have there : 0 < ((World.empty 0 ⟨0⟩ ()).addCircuit c : World Unit).circuits.size := Nat.one_pos
  obtain ⟨marks, goes, -⟩ := (Operation.yields_run quiet there rfl).of_ok forced
  have reachable : World.Reachable
      ({ w₀ with clock := w₀.clock.set 2000000000, elapsed := w₀.elapsed } : World Unit) :=
    ⟨0, ⟨0⟩, (), (World.Move.build _ _ built).reaches.trans
      (goes.reaches.trans (World.Move.time w₀ _ _).reaches)⟩
  have returns (roll : Roll) (attempt : Nat) :
      ((w₀.circuit 0).settings.backoff.wait roll attempt).observe.1 = .ok (.ofSeconds 1) := by
    rw [(goes.course there).settings]
    show (c.settings.backoff.wait roll attempt).observe.1 = _
    rw [fixed]
    rfl
  obtain ⟨v, ran, requests, -⟩ :=
    timer_agrees quiet reachable held only rfl returns timeout overdue early []
  exact ⟨{ w₀ with clock := w₀.clock.set 2000000000, elapsed := w₀.elapsed }, v, trial, ran,
    requests 3 _ (Nat.le_refl 3) (.inl rfl)⟩

end Breaker

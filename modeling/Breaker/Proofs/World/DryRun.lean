import Breaker.Proofs.World.Bulletin
import Breaker.Proofs.World.Forgets
import Breaker.Proofs.World.Fresh
import Breaker.Proofs.World.Unattended

/-!
# DryRun — what a breaker would do, seen without its doing it

`Chore` is what callers do with a circuit, and time.  A circuit that is closed, or that only watches its
metrics, lets every call through and keeps a record of them; `Chore.Leaves` says what a chore leaves of
such a circuit, and `Chore.sights_cons` that it leaves it.  Between the two it differs only in what follows
from a threshold that was reached: the one opens, the other tells of it and goes on.

So a circuit that watches its metrics is a dry run of one that is closed (`World.dry_run`).  The same is
seen of both up to the report at which the closed one opens, and the other tells of the rates then, and
then only.
-/

namespace Breaker

variable {γ γ' : Type}

namespace Episode

variable {s : Settings} {now : Nat} {e e' : Episode}

/-! ### Episodes with one record -/

/-- Episodes that recorded the same calls, against the same minimum, and refused as many. -/
structure Matches (e e' : Episode) : Prop where
  minimum : e'.minimum = e.minimum
  window : e'.window = e.window
  rejected : e'.rejected = e.rejected

namespace Matches

theorem refl (e : Episode) : Matches e e := ⟨rfl, rfl, rfl⟩

theorem trans {e₁ e₂ e₃ : Episode} (h : Matches e₁ e₂) (h' : Matches e₂ e₃) : Matches e₁ e₃ :=
  ⟨h'.minimum.trans h.minimum, h'.window.trans h.window, h'.rejected.trans h.rejected⟩

theorem symm (h : Matches e e') : Matches e' e :=
  ⟨h.minimum.symm, h.window.symm, h.rejected.symm⟩

theorem observe (h : Matches e e') (now : Nat) (o : Outcome) :
    Matches (e.observe now o) (e'.observe now o) :=
  ⟨h.minimum, congrArg (Window.record · now o) h.window, h.rejected⟩

theorem settle (h : Matches e e') (now : Nat) : Matches (e.settle now) (e'.settle now) :=
  ⟨h.minimum, congrArg (Window.settle · now) h.window, h.rejected⟩

theorem rates (h : Matches e e') : e'.rates = e.rates := by
  rw [Episode.rates, Episode.rates, h.window, h.minimum]

theorem metrics (h : Matches e e') : e'.metrics = e.metrics := by
  rw [Episode.metrics, Episode.metrics, h.rates, h.window, h.rejected]

end Matches

/-- A breaker that trips keeps the record of what it tripped on. -/
theorem matches_tripped (e : Episode) (wait : Duration) (timer : Option Nat) :
    Matches e (e.after s now (.entered .opened wait false timer)) := ⟨rfl, rfl, rfl⟩

theorem matches_noteTold (e : Episode) : Matches e e.noteTold := by
  rw [noteTold]
  split
  · exact ⟨rfl, rfl, rfl⟩
  · exact .refl e

/-! ### Episodes that let every call through -/

/-- An episode that lets every call through and records it. -/
def Admits (e : Episode) : Prop := e.state = .closed ∨ e.state = .metricsOnly

/-- The rates of an episode, if they reach a threshold. -/
def breach? (s : Settings) (e : Episode) : Option Rates :=
  if breached s e.rates then some e.rates else none

/-- Rates that reach a threshold are told of. -/
theorem events_ne_nil_of_breach {rates : Rates} (h : e.breach? s = some rates) :
    rates.events s ≠ [] := by
  rw [breach?] at h
  split at h
  case isTrue reached =>
    obtain rfl := Option.some.inj h
    rw [breached, Bool.or_eq_true] at reached
    rw [Rates.events]
    obtain failure | slow := reached
    · rw [if_pos failure]
      exact List.cons_ne_nil _ _
    · rw [if_pos slow]
      exact List.append_ne_nil_of_right_ne_nil _ (List.cons_ne_nil _ _)
  case isFalse => cases h

namespace Admits

theorem request_eq (h : e.Admits) : e.request now = .granted e := by
  rw [Admits, state] at h
  rw [request]
  cases phase : e.phase with
  | closed | disabled | metricsOnly => rfl
  | opened | halfOpen | forcedOpen =>
    rw [phase] at h
    simp [Phase.state] at h

theorem release_eq (h : e.Admits) : e.release = e := by
  rw [Admits, state] at h
  rw [release]
  cases phase : e.phase with
  | halfOpen =>
    rw [phase] at h
    simp [Phase.state] at h
  | closed | metricsOnly | opened | disabled | forcedOpen => rfl

theorem ne_close (h : e.Admits) : e.followUp s now ≠ some .close := by
  intro closes
  have trial := (followUp_eq_close_iff.mp closes).1
  rw [Admits, trial] at h
  simp at h

end Admits

/-- A closed episode trips at the rates that reach a threshold. -/
theorem followUp_eq_trip (closed : e.state = .closed) :
    e.followUp s now = (e.breach? s).map .trip := by
  rw [followUp_of_closed closed, breach?]
  split
  · rfl
  · rfl

/-- An episode that watches its metrics tells of rates that reach a threshold, once. -/
theorem followUp_eq_tell (watching : e.state = .metricsOnly) :
    e.followUp s now = if e.hasTold then none else (e.breach? s).map .tell := by
  rw [state] at watching
  rw [followUp, hasTold, breach?]
  cases phase : e.phase with
  | metricsOnly reported =>
    cases breached s e.rates with
    | true => cases reported with
      | true | false => rfl
    | false => cases reported with
      | true | false => rfl
  | closed | opened | halfOpen | disabled | forcedOpen =>
    rw [phase] at watching
    cases watching

theorem hasTold_of_ne (h : e.state ≠ .metricsOnly) : e.hasTold = false := by
  rw [state] at h
  rw [hasTold]
  cases phase : e.phase with
  | metricsOnly =>
    rw [phase] at h
    exact absurd rfl h
  | closed | opened | halfOpen | disabled | forcedOpen => rfl

/-- An episode that trips does not watch its metrics, and so has told of nothing. -/
theorem hasTold_of_trip {rates : Rates} (trips : e.followUp s now = some (.trip rates)) :
    e.hasTold = false := by
  refine hasTold_of_ne fun watching => ?_
  obtain ⟨closed, -⟩ | ⟨trial, -⟩ := followUp_eq_trip_iff.mp ⟨rates, trips⟩
  · rw [watching] at closed
    cases closed
  · rw [watching] at trial
    cases trial

/-- **An outcome** is added to the record, whatever it asks for: what trips keeps what it tripped on. -/
theorem Admits.reports (h : e.Admits) {o : Outcome} {marks : List Mark}
    (reports : Reports s now e o marks) :
    Matches (e.observe now o) (e.course s now marks) ∧
      (e.course s now marks).state
        = (((e.observe now o).followUp s now).bind Decision.target?).getD e.state ∧
      (e.course s now marks).hasTold
        = (e.hasTold || ((e.observe now o).followUp s now).any Decision.isTold) := by
  have observed : (e.observe now o).Admits := h
  cases reports with
  | alone none =>
    rw [none]
    exact ⟨.refl _, rfl, (Bool.or_false _).symm⟩
  | told tells =>
    rw [tells]
    have watching := (followUp_eq_tell_iff.mp ⟨_, tells⟩).1
    have keeps : Keeps s (e.observe now o) ((e.observe now o).after s now .told) := keeps_after rfl _
    exact ⟨matches_noteTold _, keeps.state, (hasTold_noteTold watching).trans (Bool.or_true _).symm⟩
  | tripped trips wait timer =>
    rw [trips]
    have untold : e.hasTold = false := hasTold_of_trip (e := e.observe now o) trips
    rw [untold]
    exact ⟨matches_tripped _ wait timer, next_state .., hasTold_entered ..⟩
  | passed closes => exact absurd closes observed.ne_close

end Episode

/-- Whether an event tells of a threshold that was reached. -/
def Event.isBreach : Event → Bool
  | .failureRateExceeded _ | .slowCallRateExceeded _ => true
  | _ => false

/-- The events of rates tell of thresholds, and of no change of state. -/
theorem Rates.events_breach (s : Settings) (rates : Rates) :
    (rates.events s).filter Event.isBreach = rates.events s ∧
      (rates.events s).filterMap Event.transition? = [] := by
  rw [Rates.events]
  split
  · split
    · exact ⟨rfl, rfl⟩
    · exact ⟨rfl, rfl⟩
  · split
    · exact ⟨rfl, rfl⟩
    · exact ⟨rfl, rfl⟩

/-! ### What callers do, and time -/

/-- What callers do with a circuit, or time. -/
inductive Chore where
  | request (tries : Nat)
  | acquire (tries : Nat)
  | report (d : Duration) (r : Report)
  | release
  | metrics
  /-- Sets the clock of the world, and how much of real time has passed. -/
  | time (clock : Clock) (elapsed : Nat)

namespace Chore

/-- Does a chore at a circuit. -/
def run (react : CircuitId → React γ) (id : CircuitId) : Chore → Act γ Answer
  | request tries => (Operation.request id tries).run react
  | acquire tries => (Operation.acquire id tries).run react
  | report d r => (Operation.report id d r).run react
  | release => (Operation.release id).run react
  | metrics => (Operation.metrics id).run react
  | time clock elapsed => do
    modify fun w => { w with clock := clock, elapsed := elapsed }
    return .nothing

/-- All that is seen while chores are done at a circuit, one after another. -/
def sights (react : CircuitId → React γ) (id : CircuitId) : List Chore → World γ → List Sight
  | [], _ => []
  | c :: rest, w =>
    match c.run react id w with
    | .ok answer after => w.sight after id (.ok answer) :: sights react id rest after
    | .error cause after => w.sight after id (.error cause) :: sights react id rest after

theorem length_sights (react : CircuitId → React γ) (id : CircuitId) (cs : List Chore) (w : World γ) :
    (sights react id cs w).length = cs.length := by
  induction cs generalizing w with
  | nil => rfl
  | cons c rest ih =>
    rw [sights]
    cases c.run react id w with
    | ok answer after => exact congrArg (· + 1) (ih after)
    | error cause after => exact congrArg (· + 1) (ih after)

/-- The readings of the clocks after a chore. -/
def clocks (c : Chore) (w : World γ) : Clock × Nat :=
  match c with
  | time clock elapsed => (clock, elapsed)
  | request _ | acquire _ | report _ _ | release | metrics => (w.clock, w.elapsed)

/-- What a chore is answered at a circuit that lets every call through, or why it is given up. -/
def answer (c : Chore) (w : World γ) (id : CircuitId) : Except Abort Answer :=
  match c with
  | request tries => if tries = 0 then .error .unsettled else .ok (.flag true)
  | acquire tries => if tries = 0 then .error .unsettled else .ok .granted
  | report d r => ((w.circuit id).verdict d r).observe.1.map fun _ => .nothing
  | metrics => .ok (.metrics ((w.episode id).settle (w.reading id)).metrics)
  | release | time _ _ => .ok .nothing

/-- The episode of a circuit with what a chore records in it. -/
def recorded (c : Chore) (w : World γ) (id : CircuitId) : Episode :=
  match c with
  | report d r =>
    ((w.circuit id).outcome? d r).elim (w.episode id) ((w.episode id).observe (w.reading id))
  | metrics => (w.episode id).settle (w.reading id)
  | request _ | acquire _ | release | time _ _ => w.episode id

/-- What a chore asks for at a circuit. -/
def decision? (c : Chore) (w : World γ) (id : CircuitId) : Option Decision :=
  match c with
  | report d r => w.decision? id d r
  | request _ | acquire _ | release | metrics | time _ _ => none

/-- The rates that a chore brings to a threshold. -/
def breach? (c : Chore) (w : World γ) (id : CircuitId) : Option Rates :=
  match c with
  | report d r => ((w.circuit id).outcome? d r).bind fun o =>
    ((w.episode id).observe (w.reading id) o).breach? (w.circuit id).settings
  | request _ | acquire _ | release | metrics | time _ _ => none

/-- The event that tells of the call that a chore reports. -/
def callEvents (c : Chore) (w : World γ) (id : CircuitId) : List Event :=
  match c with
  | report d r => match ((w.circuit id).verdict d r).observe.1 with
    | .ok verdict => [r.event d verdict]
    | .error _ => []
  | request _ | acquire _ | release | metrics | time _ _ => []

/-- What a chore leaves of a circuit that lets every call through: what it records, and what the record
asks for. -/
structure Leaves (c : Chore) (w : World γ) (id : CircuitId) (after : World γ) : Prop where
  there : id < after.circuits.size
  name : (after.circuit id).name = (w.circuit id).name
  settings : (after.circuit id).settings = (w.circuit id).settings
  timeSource : (after.circuit id).timeSource = (w.circuit id).timeSource
  clocks : (after.clock, after.elapsed) = c.clocks w
  record : (c.recorded w id).Matches (after.episode id)
  state : (after.episode id).state
    = ((c.decision? w id).bind Decision.target?).getD (w.episode id).state
  told : (after.episode id).hasTold
    = ((w.episode id).hasTold || (c.decision? w id).any Decision.isTold)
  events : Journal.eventsOf id (after.entriesSince w) = c.callEvents w id ++
    (breachEvents (w.circuit id).settings ((c.decision? w id).bind Decision.rates?) ++
      ((c.decision? w id).bind Decision.target?).toList.map fun target =>
        .transition ⟨(w.episode id).state, target⟩)

namespace Leaves

variable {c : Chore} {w after : World γ} {id : CircuitId}

/-- A chore that records nothing leaves the circuit as it is. -/
theorem of_asked (there : id < w.circuits.size) (recorded : c.recorded w id = w.episode id)
    (calm : c.decision? w id = none) (silent : c.callEvents w id = [])
    (clocks : c.clocks w = (w.clock, w.elapsed)) (asked : w.Asked after) : c.Leaves w id after := by
  have aside := asked.aside
  have events : Journal.eventsOf id (after.entriesSince w) = [] := (World.Writes.asked id asked).since.2
  have episode := aside.episode id
  refine ⟨by rwa [aside.circuits], by rw [aside.circuit], by rw [aside.circuit], by rw [aside.circuit],
    ?_, ?_, ?_, ?_, ?_⟩
  · rw [clocks, aside.clock, aside.elapsed]
  · rw [recorded, episode]
    exact .refl _
  · rw [calm, episode]
    rfl
  · rw [calm, episode]
    exact (Bool.or_false _).symm
  · rw [events, calm, silent]
    rfl

/-- **A report** leaves the outcome, and what follows from it. -/
theorem of_goes {d : Duration} {r : Report} {marks : List Mark} (there : id < w.circuits.size)
    (admits : (w.episode id).Admits) (told : w.Told id d r marks) (goes : w.Goes id marks after)
    {verdict : Verdict} (result : ((w.circuit id).verdict d r).observe.1 = .ok verdict)
    {turns : List Turn}
    (turned : turns = ((w.decision? id d r).bind Decision.target?).toList.map
      fun target => ⟨⟨(w.episode id).state, target⟩, false⟩)
    (wrote : World.Writes id turns
      ((if (w.episode id).state.publishesCalls then [r.event d verdict] else []) ++
        (breachEvents (w.circuit id).settings ((w.decision? id d r).bind Decision.rates?) ++
          turns.map Turn.event)) w after) : (report d r).Leaves w id after := by
  have course := goes.course there
  have publishes : (w.episode id).state.publishesCalls = true := by
    obtain closed | watching := admits
    · rw [closed]
      rfl
    · rw [watching]
      rfl
  have events : Journal.eventsOf id (after.entriesSince w) = _ := wrote.since.2
  have left : ((report d r).recorded w id).Matches (after.episode id) ∧
      (after.episode id).state
        = ((w.decision? id d r).bind Decision.target?).getD (w.episode id).state ∧
      (after.episode id).hasTold
        = ((w.episode id).hasTold || (w.decision? id d r).any Decision.isTold) := by
    rw [course.episode]
    unfold World.Told at told
    split at told
    case h_1 o outcome =>
      have asks : w.decision? id d r = ((w.episode id).observe (w.reading id) o).followUp
          (w.circuit id).settings (w.reading id) := by
        rw [World.decision?, outcome]
        rfl
      rw [recorded, outcome, asks]
      exact admits.reports told
    case h_2 ignored =>
      subst told
      have calm : w.decision? id d r = none := by
        rw [World.decision?, ignored]
        rfl
      have released : (w.episode id).course (w.circuit id).settings (w.reading id) [.released]
          = w.episode id := admits.release_eq
      rw [calm, recorded, ignored, released]
      exact ⟨.refl _, rfl, (Bool.or_false _).symm⟩
  refine ⟨by rwa [goes.size], course.name, course.settings, course.timeSource, ?_, left.1, left.2.1,
    left.2.2, ?_⟩
  · rw [goes.clock, goes.elapsed]
    rfl
  · rw [events, publishes, if_pos rfl, callEvents, result, turned, List.map_map]
    rfl

end Leaves

section

variable {react : CircuitId → React γ} {w : World γ} {id : CircuitId}

/-- A request that is let through leaves no trace. -/
theorem yields_admitted (admits : (w.episode id).Admits) (tries : Nat) :
    Yields (tryAcquire (react id) id tries) w
      (fun answer after => tries ≠ 0 ∧ answer = true ∧ after = w)
      fun cause after => tries = 0 ∧ cause = .unsettled ∧ after = w := by
  cases tries with
  | zero =>
    unfold tryAcquire
    rw [yields_throw]
    exact ⟨rfl, rfl, rfl⟩
  | succ tries =>
    unfold tryAcquire
    simp only [yields_bind, yields_get, admits.request_eq, yields_set, yields_pure]
    exact ⟨Nat.succ_ne_zero _, trivial, w.setEpisode_self id⟩

/-- A report that is classified leaves what it records, and what follows from that. -/
theorem yields_reported (quiet : ∀ id, Quiet (react id)) (there : id < w.circuits.size)
    (admits : (w.episode id).Admits) (waits : ∀ cause, ¬(w.circuit id).settings.WaitFails cause)
    {d : Duration} {r : Report} {verdict : Verdict}
    (result : ((w.circuit id).verdict d r).observe.1 = .ok verdict) :
    Yields (r.tell (react id) id d) w (fun _ after => (report d r).Leaves w id after)
      fun _ _ => False := by
  have went : Yields (r.tell (react id) id d) w
      (fun _ after => ∃ marks, w.Told id d r marks ∧ w.Goes id marks after) fun _ _ => False :=
    (quiet id).report there (fun marks _ told goes => ⟨marks, told, goes⟩) fun cause _ fails => by
      obtain unread | fails := fails
      · rw [result] at unread
        cases unread
      · exact waits cause fails
  have wrote : Yields (r.tell (react id) id d) w
      (fun _ after => ∃ (verdict : Verdict) (turns : List Turn),
        ((w.circuit id).verdict d r).observe.1 = .ok verdict ∧
        turns = ((w.decision? id d r).bind Decision.target?).toList.map
          (fun target => ⟨⟨(w.episode id).state, target⟩, false⟩) ∧
        World.Writes id turns
          ((if (w.episode id).state.publishesCalls then [r.event d verdict] else []) ++
            (breachEvents (w.circuit id).settings ((w.decision? id d r).bind Decision.rates?) ++
              turns.map Turn.event)) w after) fun _ _ => True :=
    (quiet id).tell_writes there (fun verdict decision turns _ read asks turned wrote => by
      subst asks
      exact ⟨verdict, turns, read, turned, wrote⟩) fun _ _ => trivial
  refine (went.and wrote).mono ?_ fun _ _ both => both.1
  rintro _ after ⟨⟨marks, told, goes⟩, verdict, turns, read, turned, wrote⟩
  exact .of_goes there admits told goes read turned wrote

/-- **A chore** at a circuit that lets every call through is answered as said, and leaves what is said. -/
theorem yields_run (quiet : ∀ id, Quiet (react id)) (there : id < w.circuits.size)
    (admits : (w.episode id).Admits) (waits : ∀ cause, ¬(w.circuit id).settings.WaitFails cause)
    (c : Chore) :
    Yields (c.run react id) w (fun answer after => c.answer w id = .ok answer ∧ c.Leaves w id after)
      fun cause after => c.answer w id = .error cause ∧ c.Leaves w id after := by
  -- a chore that leaves no trace
  have traceless {c : Chore} (recorded : c.recorded w id = w.episode id)
      (calm : c.decision? w id = none) (silent : c.callEvents w id = [])
      (clocks : c.clocks w = (w.clock, w.elapsed)) : c.Leaves w id w :=
    .of_asked there recorded calm silent clocks (.refl w)
  cases c with
  | request tries =>
    unfold run Operation.run Operation.onCircuit
    simp only [yields_bind, yields_get, yields_ite, if_pos there, yields_pure]
    refine (yields_admitted admits tries).mono ?_ ?_
    · rintro _ _ ⟨some, rfl, rfl⟩
      exact ⟨if_neg some, traceless rfl rfl rfl rfl⟩
    · rintro _ _ ⟨none, rfl, rfl⟩
      exact ⟨if_pos none, traceless rfl rfl rfl rfl⟩
  | acquire tries =>
    unfold run Operation.run Operation.onCircuit Breaker.acquire
    simp only [yields_bind, yields_get, yields_ite, if_pos there]
    refine (yields_admitted admits tries).mono ?_ ?_
    · rintro _ _ ⟨some, rfl, rfl⟩
      simp only [if_true, yields_pure]
      exact ⟨if_neg some, traceless rfl rfl rfl rfl⟩
    · rintro _ _ ⟨none, rfl, rfl⟩
      exact ⟨if_pos none, traceless rfl rfl rfl rfl⟩
  | report d r =>
    cases result : ((w.circuit id).verdict d r).observe.1 with
    | error cause =>
      have none : (w.circuit id).outcome? d r = Option.none := by rw [Circuit.outcome?, result]
      refine (Operation.yields_unread result).mono ?_ ?_
      · rintro _ _ ⟨-, absent, -⟩
        exact absurd there absent
      · rintro _ after ⟨rfl, -, asked⟩
        refine ⟨by rw [answer, result]; rfl, .of_asked there ?_ ?_ ?_ rfl asked⟩
        · rw [recorded, none]
          rfl
        · rw [decision?, World.decision?, none]
          rfl
        · rw [callEvents, result]
    | ok verdict =>
      unfold run Operation.run Operation.onCircuit
      simp only [yields_bind, yields_get, yields_ite, if_pos there, yields_pure]
      refine (yields_reported quiet there admits waits result).mono (fun _ after leaves => ?_)
        fun _ _ => False.elim
      exact ⟨by rw [answer, result]; rfl, leaves⟩
  | release =>
    unfold run Operation.run Operation.onCircuit Breaker.release
    simp only [yields_bind, yields_get, yields_ite, if_pos there, yields_pure, yields_modify,
      World.modifyEpisode_eq, admits.release_eq, w.setEpisode_self]
    exact ⟨rfl, traceless rfl rfl rfl rfl⟩
  | metrics =>
    unfold run Operation.run Operation.onCircuit readMetrics
    simp only [yields_bind, yields_get, yields_ite, if_pos there, yields_pure, yields_modify,
      World.modifyEpisode_eq]
    have settled := World.episode_setEpisode_self w ((w.episode id).settle (w.reading id)) there
    have goes : w.Goes id [.settled] (w.setEpisode id ((w.episode id).settle (w.reading id))) :=
      .mark w rfl
    have course := goes.course there
    refine ⟨by rw [settled]; rfl, by rwa [goes.size], course.name, course.settings, course.timeSource,
      rfl, ?_, ?_, ?_, ?_⟩
    · rw [settled]
      exact .refl _
    · rw [settled]
      rfl
    · rw [settled]
      exact (Bool.or_false _).symm
    · exact (World.Writes.nothing id rfl).since.2
  | time clock elapsed =>
    unfold run
    simp only [yields_bind, yields_modify, yields_pure]
    exact ⟨rfl, there, rfl, rfl, rfl, rfl, .refl _, rfl, (Bool.or_false _).symm,
      (World.Writes.nothing id rfl).since.2⟩

/-- **What is seen of a chore** at a circuit that lets every call through. -/
theorem sights_cons (quiet : ∀ id, Quiet (react id)) (there : id < w.circuits.size)
    (admits : (w.episode id).Admits) (waits : ∀ cause, ¬(w.circuit id).settings.WaitFails cause)
    (c : Chore) (rest : List Chore) :
    ∃ after, c.Leaves w id after ∧
      sights react id (c :: rest) w
        = w.sight after id (c.answer w id) :: sights react id rest after := by
  have yields := c.yields_run quiet there admits waits
  rw [sights]
  cases run : c.run react id w with
  | ok answer after =>
    obtain ⟨answered, leaves⟩ := yields.of_ok run
    exact ⟨after, leaves, by rw [answered]⟩
  | error cause after =>
    obtain ⟨gaveUp, leaves⟩ := yields.of_error run
    exact ⟨after, leaves, by rw [gaveUp]⟩

end

variable {c : Chore} {w : World γ} {id : CircuitId}

/-- A closed circuit opens at the rates that a chore brings to a threshold. -/
theorem decision?_of_closed (closed : (w.episode id).state = .closed) :
    c.decision? w id = (c.breach? w id).map .trip := by
  cases c with
  | report d r =>
    rw [decision?, breach?, World.decision?]
    cases (w.circuit id).outcome? d r with
    | none => rfl
    | some o =>
      have observed : ((w.episode id).observe (w.reading id) o).state = .closed := closed
      exact Episode.followUp_eq_trip observed
  | request | acquire | release | metrics | time => rfl

/-- A circuit that watches its metrics tells of such rates, once. -/
theorem decision?_of_metricsOnly (watching : (w.episode id).state = .metricsOnly) :
    c.decision? w id = if (w.episode id).hasTold then none else (c.breach? w id).map .tell := by
  cases c with
  | report d r =>
    rw [decision?, breach?, World.decision?]
    cases (w.circuit id).outcome? d r with
    | none => exact (ite_self _).symm
    | some o =>
      have observed : ((w.episode id).observe (w.reading id) o).state = .metricsOnly := watching
      exact Episode.followUp_eq_tell observed
  | request | acquire | release | metrics | time => exact (ite_self _).symm

/-- Rates are brought to a threshold by reports only, and then an event tells of them. -/
theorem report_of_breach {rates : Rates} (h : c.breach? w id = some rates) :
    (∃ d r, c = report d r) ∧ rates.events (w.circuit id).settings ≠ [] := by
  cases c with
  | report d r =>
    refine ⟨⟨d, r, rfl⟩, ?_⟩
    obtain ⟨o, -, breach⟩ := Option.bind_eq_some_iff.mp h
    exact Episode.events_ne_nil_of_breach breach
  | request | acquire | release | metrics | time => cases h

/-- What is told of a call tells of no thresholds and of no change of state. -/
theorem callEvents_plain (c : Chore) (w : World γ) (id : CircuitId) :
    (c.callEvents w id).filter Event.isBreach = [] ∧
    (c.callEvents w id).filterMap Event.transition? = [] := by
  cases c with
  | report d r =>
    rw [callEvents]
    split
    case h_1 verdict _ =>
      cases verdict with
      | success | failure | ignored => exact ⟨rfl, rfl⟩
    case h_2 => exact ⟨rfl, rfl⟩
  | request | acquire | release | metrics | time => exact ⟨rfl, rfl⟩

namespace Leaves

variable {after : World γ}

/-- What is told of at a closed circuit: the call, and the rates at which it opens. -/
theorem events_of_closed (h : c.Leaves w id after) (closed : (w.episode id).state = .closed) :
    Journal.eventsOf id (after.entriesSince w) = c.callEvents w id ++
      (c.breach? w id).elim [] fun rates =>
        rates.events (w.circuit id).settings ++ [.transition ⟨.closed, .opened⟩] := by
  rw [h.events, decision?_of_closed closed, closed]
  cases c.breach? w id with
  | none | some => rfl

/-- What is told of at a circuit that watches its metrics: the call, and the rates, once. -/
theorem events_of_metricsOnly (h : c.Leaves w id after)
    (watching : (w.episode id).state = .metricsOnly) :
    Journal.eventsOf id (after.entriesSince w) = c.callEvents w id ++
      if (w.episode id).hasTold then [] else
        (c.breach? w id).elim [] (Rates.events (w.circuit id).settings) := by
  rw [h.events, decision?_of_metricsOnly watching]
  cases (w.episode id).hasTold with
  | true => rfl
  | false =>
    cases c.breach? w id with
    | none => rfl
    | some => exact congrArg _ (List.append_nil _)

/-- A circuit that watches its metrics goes on to do so. -/
theorem state_of_metricsOnly (h : c.Leaves w id after)
    (watching : (w.episode id).state = .metricsOnly) : (after.episode id).state = .metricsOnly := by
  rw [h.state, decision?_of_metricsOnly watching]
  split
  · exact watching
  · cases c.breach? w id with
    | none | some => exact watching

end Leaves

end Chore

/-! ### A circuit and its dry run -/

namespace World

variable {id id' : CircuitId} {w v : World γ} {w' v' : World γ'} {c : Chore}

/-- Circuits of one name, one configuration and one time, whose wait function returns. -/
structure Beside (id id' : CircuitId) (w : World γ) (w' : World γ') : Prop where
  there : id < w.circuits.size
  there' : id' < w'.circuits.size
  name : (w'.circuit id').name = (w.circuit id).name
  settings : (w'.circuit id').settings = (w.circuit id).settings
  timeSource : (w'.circuit id').timeSource = (w.circuit id).timeSource
  clock : w'.clock = w.clock
  elapsed : w'.elapsed = w.elapsed
  waits : ∀ cause, ¬(w.circuit id).settings.WaitFails cause

namespace Beside

theorem reading (h : Beside id id' w w') : w'.reading id' = w.reading id := by
  rw [World.reading, World.reading, h.timeSource]
  cases (w.circuit id).timeSource with
  | shared => rw [timeAt, timeAt, h.clock]
  | own since => rw [timeAt, timeAt, h.elapsed]

theorem verdict (h : Beside id id' w w') (d : Duration) (r : Report) :
    (w'.circuit id').verdict d r = (w.circuit id).verdict d r := by
  cases r with
  | success => rfl
  | error | result => rw [Circuit.verdict, Circuit.verdict, h.name, h.settings]

theorem outcome? (h : Beside id id' w w') (d : Duration) (r : Report) :
    (w'.circuit id').outcome? d r = (w.circuit id).outcome? d r := by
  rw [Circuit.outcome?, Circuit.outcome?, h.verdict, h.settings]

theorem clocks (h : Beside id id' w w') : c.clocks w' = c.clocks w := by
  cases c with
  | time => rfl
  | request | acquire | report | release | metrics =>
    rw [Chore.clocks, Chore.clocks, h.clock, h.elapsed]

theorem callEvents (h : Beside id id' w w') : c.callEvents w' id' = c.callEvents w id := by
  cases c with
  | report d r => rw [Chore.callEvents, Chore.callEvents, h.verdict]
  | request | acquire | release | metrics | time => rfl

theorem answer (h : Beside id id' w w') (record : (w.episode id).Matches (w'.episode id')) :
    c.answer w' id' = c.answer w id := by
  cases c with
  | report d r => rw [Chore.answer, Chore.answer, h.verdict]
  | metrics => rw [Chore.answer, Chore.answer, h.reading, (record.settle _).metrics]
  | request | acquire | release | time => rfl

theorem recorded (h : Beside id id' w w') (record : (w.episode id).Matches (w'.episode id')) :
    (c.recorded w id).Matches (c.recorded w' id') := by
  cases c with
  | report d r =>
    rw [Chore.recorded, Chore.recorded, h.outcome?, h.reading]
    cases (w.circuit id).outcome? d r with
    | none => exact record
    | some o => exact record.observe _ o
  | metrics =>
    rw [Chore.recorded, Chore.recorded, h.reading]
    exact record.settle _
  | request | acquire | release | time => exact record

theorem breach? (h : Beside id id' w w') (record : (w.episode id).Matches (w'.episode id')) :
    c.breach? w' id' = c.breach? w id := by
  cases c with
  | report d r =>
    rw [Chore.breach?, Chore.breach?, h.outcome?, h.reading, h.settings]
    cases (w.circuit id).outcome? d r with
    | none => rfl
    | some o =>
      show Episode.breach? _ _ = Episode.breach? _ _
      rw [Episode.breach?, Episode.breach?, (record.observe _ o).rates]
  | request | acquire | release | metrics | time => rfl

/-- A chore that is done with both leaves both beside each other. -/
theorem leaves (h : Beside id id' w w') (l : c.Leaves w id v) (l' : c.Leaves w' id' v') :
    Beside id id' v v' where
  there := l.there
  there' := l'.there
  name := by rw [l'.name, l.name, h.name]
  settings := by rw [l'.settings, l.settings, h.settings]
  timeSource := by rw [l'.timeSource, l.timeSource, h.timeSource]
  clock := congrArg Prod.fst ((l'.clocks.trans h.clocks).trans l.clocks.symm)
  elapsed := congrArg Prod.snd ((l'.clocks.trans h.clocks).trans l.clocks.symm)
  waits := by
    rw [l.settings]
    exact h.waits

end Beside

/-- A circuit that is closed beside one that watches its metrics, and told of nothing yet, with one
record. -/
structure Rehearses (id id' : CircuitId) (w : World γ) (w' : World γ') : Prop
    extends Beside id id' w w' where
  closed : (w.episode id).state = .closed
  watching : (w'.episode id').state = .metricsOnly
  untold : (w'.episode id').hasTold = false
  record : (w.episode id).Matches (w'.episode id')

/-- A circuit that watches its metrics, and told of a threshold. -/
structure HasAlerted (id : CircuitId) (w : World γ) : Prop where
  there : id < w.circuits.size
  waits : ∀ cause, ¬(w.circuit id).settings.WaitFails cause
  watching : (w.episode id).state = .metricsOnly
  told : (w.episode id).hasTold = true

end World

/-! ### What is seen of both -/

namespace Sight

/-- What who does something with a circuit is shown: the answer, and the metrics. -/
def shown (s : Sight) : Except Abort Answer × Metrics := (s.answer, s.metrics)

/-- The events that tell of thresholds. -/
def breaches (s : Sight) : List Event := s.events.filter Event.isBreach

/-- Something that is seen of a circuit that watches its metrics and goes on to do so. -/
def Watches (s : Sight) : Prop :=
  s.state = .metricsOnly ∧ s.events.filterMap Event.transition? = []

/-- How often a circuit was seen closed, from the first on. -/
def closedRun (sights : List Sight) : Nat := (sights.takeWhile fun s => s.state == .closed).length

end Sight

/-- What is seen of a circuit that is closed, and of its dry run, while the same is done with both. -/
structure DryRun (cs : List Chore) (run dry : List Sight) : Prop where
  all : run.length = cs.length ∧ dry.length = cs.length
  /-- Answers and metrics are the same up to the chore at which the circuit opens, and at it. -/
  shown : (dry.take (Sight.closedRun run + 1)).map Sight.shown
    = (run.take (Sight.closedRun run + 1)).map Sight.shown
  /-- Before that, the events are. -/
  events : (dry.take (Sight.closedRun run)).map Sight.events
    = (run.take (Sight.closedRun run)).map Sight.events
  /-- The dry run stays one. -/
  watches : ∀ sight ∈ dry, sight.Watches
  /-- It tells of thresholds at no other chore. -/
  silent : ∀ (i : Nat) (sight : Sight), dry[i]? = some sight → i ≠ Sight.closedRun run →
    sight.breaches = []
  /-- That chore is a report, at which the circuit opens; the dry run tells of the same rates. -/
  opens : ∀ sight, run[Sight.closedRun run]? = some sight →
    sight.state = .opened ∧ (∃ d r, cs[Sight.closedRun run]? = some (.report d r)) ∧
      ∃ sight', dry[Sight.closedRun run]? = some sight' ∧ sight'.breaches ≠ [] ∧
        sight.events = sight'.events ++ [.transition ⟨.closed, .opened⟩]

namespace DryRun

variable {c : Chore} {cs : List Chore} {run dry : List Sight} {sight sight' : Sight}

theorem nil : DryRun [] [] [] where
  all := ⟨rfl, rfl⟩
  shown := rfl
  events := rfl
  watches := fun _ mem => absurd mem List.not_mem_nil
  silent := fun _ _ some _ => by cases some
  opens := fun _ some => by cases some

/-- A chore after which the circuit is closed. -/
theorem goes (h : DryRun cs run dry) (closed : sight.state = .closed) (watches : sight'.Watches)
    (shown : sight'.shown = sight.shown) (events : sight'.events = sight.events)
    (silent : sight'.breaches = []) : DryRun (c :: cs) (sight :: run) (sight' :: dry) := by
  have more : Sight.closedRun (sight :: run) = Sight.closedRun run + 1 := by
    rw [Sight.closedRun, List.takeWhile_cons_of_pos (by rw [closed]; rfl)]
    rfl
  refine ⟨⟨congrArg (· + 1) h.all.1, congrArg (· + 1) h.all.2⟩, ?_, ?_,
    List.forall_mem_cons.mpr ⟨watches, h.watches⟩, ?_, ?_⟩
  · rw [more, List.take_succ_cons, List.take_succ_cons, List.map_cons, List.map_cons, shown, h.shown]
  · rw [more, List.take_succ_cons, List.take_succ_cons, List.map_cons, List.map_cons, events, h.events]
  · intro i other there ne
    rw [more] at ne
    cases i with
    | zero =>
      obtain rfl := Option.some.inj there
      exact silent
    | succ i => exact h.silent i other there fun same => ne (congrArg (· + 1) same)
  · rw [more]
    exact h.opens

/-- The report at which the circuit opens. -/
theorem trips {d : Duration} {r : Report} (all : run.length = cs.length ∧ dry.length = cs.length)
    (opened : sight.state = .opened) (watches : sight'.Watches) (shown : sight'.shown = sight.shown)
    (tells : sight'.breaches ≠ [])
    (events : sight.events = sight'.events ++ [.transition ⟨.closed, .opened⟩])
    (later : ∀ other ∈ dry, other.Watches ∧ other.breaches = []) :
    DryRun (.report d r :: cs) (sight :: run) (sight' :: dry) := by
  have none : Sight.closedRun (sight :: run) = 0 := by
    rw [Sight.closedRun, List.takeWhile_cons_of_neg (by rw [opened]; decide)]
    rfl
  refine ⟨⟨congrArg (· + 1) all.1, congrArg (· + 1) all.2⟩, ?_, ?_,
    List.forall_mem_cons.mpr ⟨watches, fun other mem => (later other mem).1⟩, ?_, ?_⟩
  · rw [none]
    show [sight'.shown] = [sight.shown]
    rw [shown]
  · rw [none]
    rfl
  · intro i other there ne
    rw [none] at ne
    cases i with
    | zero => exact absurd rfl ne
    | succ i => exact (later other (List.mem_of_getElem? there)).2
  · rw [none]
    intro other there
    obtain rfl := Option.some.inj there
    exact ⟨opened, ⟨d, r, rfl⟩, sight', rfl, tells, events⟩

end DryRun

namespace World

variable {react : CircuitId → React γ} {react' : CircuitId → React γ'} {id id' : CircuitId}
  {w : World γ} {w' : World γ'}

/-- **A circuit that told of a threshold** goes on to watch its metrics, and tells of none again. -/
theorem HasAlerted.sights (quiet : ∀ id, Quiet (react id)) (h : HasAlerted id w) (cs : List Chore) :
    ∀ sight ∈ Chore.sights react id cs w, sight.Watches ∧ sight.breaches = [] := by
  induction cs generalizing w with
  | nil => exact fun _ mem => absurd mem List.not_mem_nil
  | cons c rest ih =>
    obtain ⟨after, leaves, sights⟩ := c.sights_cons quiet h.there (.inr h.watching) h.waits rest
    have watching := leaves.state_of_metricsOnly h.watching
    have events := leaves.events_of_metricsOnly h.watching
    rw [h.told, if_pos rfl, List.append_nil] at events
    obtain ⟨silent, stays⟩ := c.callEvents_plain w id
    have alerted : HasAlerted id after := ⟨leaves.there, leaves.settings ▸ h.waits, watching, by
      rw [leaves.told, h.told, Bool.true_or]⟩
    rw [sights]
    refine List.forall_mem_cons.mpr ⟨⟨⟨watching, ?_⟩, ?_⟩, ih alerted⟩
    · show List.filterMap _ (Journal.eventsOf id (after.entriesSince w)) = []
      rw [events, stays]
    · show List.filter _ (Journal.eventsOf id (after.entriesSince w)) = []
      rw [events, silent]

/-- **What is done with a circuit and with its dry run** is seen alike, but for the change of state. -/
theorem Rehearses.dryRun (quiet : ∀ id, Quiet (react id)) (quiet' : ∀ id, Quiet (react' id))
    (h : Rehearses id id' w w') (cs : List Chore) :
    DryRun cs (Chore.sights react id cs w) (Chore.sights react' id' cs w') := by
  induction cs generalizing w w' with
  | nil => exact .nil
  | cons c rest ih =>
    obtain ⟨v, leaves, sights⟩ := c.sights_cons quiet h.there (.inl h.closed) h.waits rest
    obtain ⟨v', leaves', sights'⟩ :=
      c.sights_cons quiet' h.there' (.inr h.watching) (h.settings ▸ h.waits) rest
    have beside := h.toBeside.leaves leaves leaves'
    have record : (v.episode id).Matches (v'.episode id') :=
      (leaves.record.symm.trans (h.recorded h.record)).trans leaves'.record
    have shown : (w'.sight v' id' (c.answer w' id')).shown
        = (w.sight v id (c.answer w id)).shown := by
      show (c.answer w' id', ((v'.episode id').settle (v'.reading id')).metrics)
        = (c.answer w id, ((v.episode id).settle (v.reading id)).metrics)
      rw [h.answer h.record, beside.reading, (record.settle _).metrics]
    have events := leaves.events_of_closed h.closed
    have events' := leaves'.events_of_metricsOnly h.watching
    rw [h.untold, if_neg Bool.false_ne_true, h.callEvents, h.breach? h.record, h.settings] at events'
    have state := leaves.state
    have told := leaves'.told
    rw [Chore.decision?_of_closed h.closed] at state
    rw [Chore.decision?_of_metricsOnly h.watching, h.untold, if_neg Bool.false_ne_true,
      h.breach? h.record] at told
    have watching := leaves'.state_of_metricsOnly h.watching
    obtain ⟨plain, stays⟩ := c.callEvents_plain w id
    rw [sights, sights']
    cases breach : c.breach? w id with
    | none =>
      rw [breach] at events events' state told
      rw [Option.elim_none, List.append_nil] at events events'
      refine (ih ⟨beside, state.trans h.closed, watching, told, record⟩).goes
        (state.trans h.closed) ⟨watching, ?_⟩ shown (events'.trans events.symm) ?_
      · show List.filterMap _ (Journal.eventsOf id' (v'.entriesSince w')) = []
        rw [events', stays]
      · show List.filter _ (Journal.eventsOf id' (v'.entriesSince w')) = []
        rw [events', plain]
    | some rates =>
      rw [breach] at events events' state told
      rw [Option.elim_some] at events events'
      obtain ⟨⟨d, r, rfl⟩, some⟩ := Chore.report_of_breach breach
      obtain ⟨breaches, unturned⟩ := Rates.events_breach (w.circuit id).settings rates
      have alerted : HasAlerted id' v' := ⟨beside.there', beside.settings ▸ beside.waits, watching, told⟩
      refine .trips ⟨Chore.length_sights .., Chore.length_sights ..⟩ state ⟨watching, ?_⟩ shown ?_ ?_
        (alerted.sights quiet' rest)
      · show List.filterMap _ (Journal.eventsOf id' (v'.entriesSince w')) = []
        rw [events', List.filterMap_append, stays, unturned]
        rfl
      · show List.filter _ (Journal.eventsOf id' (v'.entriesSince w')) ≠ []
        rwa [events', List.filter_append, plain, List.nil_append, breaches]
      · show Journal.eventsOf id (v.entriesSince w) = Journal.eventsOf id' (v'.entriesSince w') ++ _
        rw [events, events', List.append_assoc]

/-- **Metrics-only operation is a dry run of a breaker.**  Take two circuits of one name, one configuration
and one time, of which the one just entered the closed state, and the other metrics-only operation.  While
the same is done with both, answers and metrics are the same up to the report at which the first opens, and
so are the events; at that report the second tells of the rates at which the first opens.  It tells of
thresholds at no other time, and goes on to watch its metrics. -/
theorem dry_run (quiet : ∀ id, Quiet (react id)) (quiet' : ∀ id, Quiet (react' id))
    (there : id < w.circuits.size) (there' : id' < w'.circuits.size)
    (name : (w'.circuit id').name = (w.circuit id).name)
    (settings : (w'.circuit id').settings = (w.circuit id).settings)
    (timeSource : (w'.circuit id').timeSource = (w.circuit id).timeSource)
    (clock : w'.clock = w.clock) (elapsed : w'.elapsed = w.elapsed)
    (waits : ∀ cause, ¬(w.circuit id).settings.WaitFails cause)
    (closed : (w.episode id).state = .closed) (watching : (w'.episode id').state = .metricsOnly)
    (fresh : (w.episode id).Fresh (w.circuit id).settings)
    (fresh' : (w'.episode id').Fresh (w'.circuit id').settings)
    (entered : (w'.episode id').enteredAt = (w.episode id).enteredAt) (cs : List Chore) :
    DryRun cs (Chore.sights react id cs w) (Chore.sights react' id' cs w') := by
  refine Rehearses.dryRun quiet quiet' ⟨⟨there, there', name, settings, timeSource, clock, elapsed,
    waits⟩, closed, watching, fresh'.untold, ?_, ?_, ?_⟩ cs
  · rw [fresh'.minimum, fresh.minimum, watching, closed, settings]
    rfl
  · rw [fresh'.window, fresh.window, watching, closed, settings, entered]
    rfl
  · rw [fresh'.rejected, fresh.rejected]

/-- Two breakers take a failure, an hour, a request and another failure.  With the second failure the one
opens; the other, which only watches its metrics, goes on. -/
theorem dry_run_second : ∃ (c : Circuit) (w' : World Unit) (cs : List Chore),
    cs = [.report .zero (.error .unit), .time (.startingAt 3600000000007) 0, .request 1,
      .report .zero (.error .unit), .metrics] ∧
    (Blueprint.ofChoices "" [.windowSize 2, .minimumCalls 2, .timeSource .shared]).build
      (World.empty 7 ⟨0⟩ ()) = .ok c ∧
    (Operation.force 0 .metricsOnly).run (fun _ => .silent) ((World.empty 7 ⟨0⟩ ()).addCircuit c)
      = .ok .nothing w' ∧
    Sight.closedRun (Chore.sights (fun _ => .silent) 0 cs ((World.empty 7 ⟨0⟩ ()).addCircuit c)) = 3 ∧
    DryRun cs (Chore.sights (fun _ => .silent) 0 cs ((World.empty 7 ⟨0⟩ ()).addCircuit c))
      (Chore.sights (fun _ => .silent) 0 cs w') := by
  obtain ⟨c, w', built, forced, fixed, opens, closed, watching, entered, there', name, settings,
      timeSource, clock, elapsed, another⟩ : ∃ (c : Circuit) (w' : World Unit),
      (Blueprint.ofChoices "" [.windowSize 2, .minimumCalls 2, .timeSource .shared]).build
        (World.empty 7 ⟨0⟩ ()) = .ok c ∧
      (Operation.force 0 .metricsOnly).run (fun _ => .silent) ((World.empty 7 ⟨0⟩ ()).addCircuit c)
        = .ok .nothing w' ∧
      c.settings.backoff = .fixed (.ofSeconds 60) ∧
      Sight.closedRun (Chore.sights (fun _ => .silent) 0 [.report .zero (.error .unit),
        .time (.startingAt 3600000000007) 0, .request 1, .report .zero (.error .unit), .metrics]
        ((World.empty 7 ⟨0⟩ () : World Unit).addCircuit c)) = 3 ∧
      c.episode.state = .closed ∧ (w'.episode 0).state = .metricsOnly ∧
      (w'.episode 0).enteredAt = c.episode.enteredAt ∧ 0 < w'.circuits.size ∧
      (w'.circuit 0).name = c.name ∧ (w'.circuit 0).settings = c.settings ∧
      (w'.circuit 0).timeSource = c.timeSource ∧ w'.clock = .startingAt 7 ∧ w'.elapsed = 0 ∧
      (w'.episode 0).number ≠ c.episode.number :=
    ⟨_, _, rfl, rfl, rfl, by decide +kernel, rfl, rfl, rfl, Nat.one_pos, rfl, rfl, rfl, rfl, rfl,
      Nat.one_ne_zero⟩
  have quiet (id : CircuitId) : Quiet ((fun _ => .silent : CircuitId → React Unit) id) := Quiet.silent
  have reachable : ((World.empty 7 ⟨0⟩ () : World Unit).addCircuit c).Reachable :=
    ⟨7, ⟨0⟩, (), (Move.build _ _ built).reaches⟩
  have waits (cause : Abort) : ¬c.settings.WaitFails cause := by
    intro fails
    obtain ⟨wait?, remarks, policy⟩ := fails.custom
    rw [fixed] at policy
    cases policy
  have there : 0 < ((World.empty 7 ⟨0⟩ () : World Unit).addCircuit c).circuits.size := Nat.one_pos
  obtain ⟨-, marks, course, undergoes⟩ :=
    ((Operation.force 0 .metricsOnly).yields_undergoes quiet reachable.sound there).of_ok forced
  have fresh' : (w'.episode 0).Fresh (w'.circuit 0).settings := by
    have fresh := undergoes.fresh (reachable.sound.sized 0)
    rw [← course.episode, ← course.settings] at fresh
    exact fresh another (by rw [watching]; decide)
  exact ⟨c, w', _, rfl, built, forced, opens, dry_run quiet quiet there there' name settings timeSource
    clock elapsed waits closed watching (fresh_built built) fresh' entered _⟩

end World

end Breaker

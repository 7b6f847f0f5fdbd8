import Breaker.Proofs.World.InStep

/-!
# Forgets — what a change of state by hand leaves of the past

`Handling` is what can be done with a circuit that has a clock and timers to itself, or with these, and
`sights` is all that is seen while one thing after another is done.  Of twins the same is seen, whatever is
done with both (`sights_eq`).

So a change of state by hand, or a reset, leaves nothing of the past to be seen (`past_forgotten`): any two
circuits of one configuration cannot be told apart from then on, and after a reset not from one that was
just built.
-/

namespace Breaker

variable {γ γ' : Type}

/-- What is done with a circuit, or with the clock and the timers that it has for itself. -/
inductive Handling where
  | request (tries : Nat)
  | acquire (tries : Nat)
  | report (d : Duration) (r : Report)
  | release
  | force (target : State)
  | reset
  | metrics
  | runTimers
  /-- Sets the clock, as a function of what it was. -/
  | setClock (move : Clock → Clock)

/-- Does something with a circuit. -/
def Handling.run (react : CircuitId → React γ) (id : CircuitId) : Handling → Act γ Answer
  | request tries => (Operation.request id tries).run react
  | acquire tries => (Operation.acquire id tries).run react
  | report d r => (Operation.report id d r).run react
  | release => (Operation.release id).run react
  | force target => (Operation.force id target).run react
  | reset => (Operation.reset id).run react
  | metrics => (Operation.metrics id).run react
  | runTimers => (Operation.runTimers []).run react
  | setClock move => do
    modify fun w => { w with clock := move w.clock }
    return .count (← get).clock.now

/-- What is seen once something was done with a circuit. -/
structure Sight where
  /-- The answer, or why it was given up. -/
  answer : Except Abort Answer
  state : State
  /-- The metrics, as they would be read now. -/
  metrics : Metrics
  /-- The events that were published. -/
  events : List Event
  /-- The delays of the timers that can still go off. -/
  delays : List Duration

/-- What is seen of a circuit, since an earlier moment. -/
def World.sight (w₀ w : World γ) (id : CircuitId) (answer : Except Abort Answer) : Sight where
  answer := answer
  state := (w.episode id).state
  metrics := ((w.episode id).settle (w.reading id)).metrics
  events := Journal.eventsOf id (w.entriesSince w₀)
  delays := w.timers.delays

/-- All that is seen while one thing after another is done with a circuit. -/
def sights (react : CircuitId → React γ) (id : CircuitId) : List Handling → World γ → List Sight
  | [], _ => []
  | h :: rest, w =>
    match h.run react id w with
    | .ok answer after => w.sight after id (.ok answer) :: sights react id rest after
    | .error cause after => w.sight after id (.error cause) :: sights react id rest after

open World (Alone Kin Twins Follows Comes Reachable)

variable {id id' : CircuitId} {w : World γ} {w' : World γ'}

namespace World

/-- The clock of a circuit that is alone is set. -/
theorem Alone.setClock (alone : Alone id w) (clock : Clock) :
    Alone id { w with clock := clock } where
  there := alone.there
  held := alone.held
  place := alone.place
  sound := (Move.time w clock w.elapsed).sound alone.sound
  tidy := (Move.time w clock w.elapsed).tidy alone.sound alone.tidy
  own := alone.own

/-- The clock that both read is set. -/
theorem Twins.setClock (twins : Twins id id' w w') (clock : Clock) :
    Twins id id' { w with clock := clock } { w' with clock := clock } where
  alone := twins.alone.setClock clock
  alone' := twins.alone'.setClock clock
  name := twins.name
  settings := twins.settings
  steady := twins.steady
  clock := rfl
  reads := twins.reads
  view := twins.view
  delays := twins.delays

/-- Worlds with twins that published the same events since two others. -/
structure Abreast (id id' : CircuitId) (w : World γ) (w' : World γ') (v : World γ)
    (v' : World γ') : Prop where
  twins : Twins id id' v v'
  events : Journal.eventsOf id' (v'.entriesSince w') = Journal.eventsOf id (v.entriesSince w)

theorem Follows.abreast {v : World γ} {v' : World γ'} (h : Follows id id' w w' v v') :
    Abreast id id' w w' v v' := by
  obtain ⟨events, comes, comes'⟩ := h.events
  exact ⟨h.twins, by rw [comes.eventsOf_since, comes'.eventsOf_since]⟩

/-- The same is seen of twins. -/
theorem Abreast.sight {v : World γ} {v' : World γ'} (h : Abreast id id' w w' v v')
    (answer : Except Abort Answer) : w'.sight v' id' answer = w.sight v id answer := by
  have settled : ((v'.episode id').settle (v'.reading id')).metrics
      = ((v.episode id).settle (v.reading id)).metrics := by
    rw [h.twins.reading]
    exact Episode.metrics_of_view (Episode.after_of_view (s := (v.circuit id).settings)
      h.twins.view (m := .settled) rfl)
  rw [World.sight, World.sight, Episode.state_of_view h.twins.view, settled, h.events,
    h.twins.delays]

end World

section

open World (Abreast)

variable {react : CircuitId → React γ} {react' : CircuitId → React γ'} (quiet : Quiet (react id))
  (quiet' : Quiet (react' id'))
include quiet quiet'

/-- **What is done with twins** leaves twins, with one answer and the same events. -/
theorem both_handling (twins : Twins id id' w w') (h : Handling) :
    Both (h.run react id) (h.run react' id') w w' (fun _ v v' => Abreast id id' w w' v v')
      (Abreast id id' w w') := by
  have inStep {act : Act γ Answer} {act' : Act γ' Answer} (both : InStep id id' act act') :
      Both act act' w w' (fun _ v v' => Abreast id id' w w' v v') (Abreast id id' w w') :=
    (both w w' twins).mono (fun _ _ _ led => led.abreast) fun _ _ led => led.abreast
  have onCircuit {act : Act γ Answer} {act' : Act γ' Answer} (both : InStep id id' act act') :
      Both (Operation.onCircuit id act) (Operation.onCircuit id' act') w w'
        (fun _ v v' => Abreast id id' w w' v v') (Abreast id id' w w') :=
    both_onCircuit twins.alone.there twins.alone'.there (inStep both)
  cases h with
  | request tries =>
    exact onCircuit (.bind (inStep_tryAcquire quiet quiet' tries) fun _ => .pure _)
  | acquire tries =>
    refine onCircuit (.bind (inStep_acquire quiet quiet' tries) fun answer => ?_)
    cases answer with
    | ok | error => exact .pure _
  | report d r => exact onCircuit (.bind (inStep_tell quiet quiet' d r) fun _ => .pure _)
  | release => exact onCircuit (.bind inStep_release fun _ => .pure _)
  | force target => exact onCircuit (.bind (inStep_force quiet quiet' target) fun _ => .pure _)
  | reset => exact onCircuit (.bind (inStep_reset quiet quiet') fun _ => .pure _)
  | metrics => exact onCircuit (.bind inStep_readMetrics fun _ => .pure _)
  | runTimers => exact inStep (.bind (inStep_runTimers quiet quiet' [] []) fun _ => .pure _)
  | setClock move =>
    have same : move w'.clock = move w.clock := by rw [twins.clock]
    refine both_bind (both_modify (both_get_bind ?_))
    dsimp only
    rw [same]
    refine both_pure _ ⟨twins.setClock _, ?_⟩
    rw [World.entriesSince, World.entriesSince]
    simp [Journal.eventsOf]

/-- **The same is seen of twins**, whatever is done with both. -/
theorem sights_eq (hs : List Handling) {w : World γ} {w' : World γ'} (twins : Twins id id' w w') :
    sights react' id' hs w' = sights react id hs w := by
  induction hs generalizing w w' with
  | nil => rfl
  | cons h rest ih =>
    have both := both_handling quiet quiet' twins h
    unfold Both at both
    unfold sights
    split at both
    case h_1 answer v answer' v' run run' =>
      obtain ⟨rfl, led⟩ := both
      rw [run, run']
      dsimp only
      rw [led.sight, ih led.twins]
    case h_2 cause v cause' v' run run' =>
      obtain ⟨rfl, led⟩ := both
      rw [run, run']
      dsimp only
      rw [led.sight, ih led.twins]
    case h_3 => exact both.elim

end

/-! ### Circuits with a past -/

namespace World

/-- A circuit of a reachable world that uses the world's clock, and has its timers for itself. -/
structure Apart (id : CircuitId) (w : World γ) : Prop where
  reachable : w.Reachable
  there : id < w.circuits.size
  held : w.isHeld id = true
  timeSource : (w.circuit id).timeSource = .shared
  timerSource : (w.circuit id).timerSource = some .shared
  own : ∀ t ∈ w.timers.live, t.task.circuit = id

theorem Apart.alone (h : Apart id w) : Alone id w :=
  ⟨h.there, h.held, h.timerSource, h.reachable.sound, h.reachable.tidy, h.own⟩

theorem Apart.kin (h : Apart id w) (h' : Apart id' w') (name : (w'.circuit id').name
    = (w.circuit id).name) (settings : (w'.circuit id').settings = (w.circuit id).settings)
    (steady : (w.circuit id).settings.Steady) (clock : w'.clock = w.clock) : Kin id id' w w' := by
  refine ⟨h.alone, h'.alone, name, settings, steady, clock, fun clock => ?_⟩
  show timeAt _ (w'.circuit id').timeSource = timeAt _ (w.circuit id).timeSource
  rw [h.timeSource, h'.timeSource]
  rfl

/-- A circuit that was just built, where no timer of another can go off. -/
theorem Apart.built (reachable : w.Reachable) (idle : w.timers.live = []) {b : Blueprint}
    {c : Circuit} (built : b.build w = .ok c) (timeSource : c.timeSource = .shared)
    (timerSource : c.timerSource = some .shared) : Apart w.circuits.size (w.addCircuit c) where
  reachable := reachable.of_reaches (Move.build w b built).reaches
  there := by
    rw [addCircuit, Array.size_push]
    exact Nat.lt_succ_self _
  held := by
    rw [isHeld, addCircuit]
    simp
  timeSource := by rw [circuit_addCircuit_self, timeSource]
  timerSource := by rw [circuit_addCircuit_self, timerSource]
  own := fun t live => by
    have none : t ∈ w.timers.live := live
    rw [idle] at none
    cases none

end World

open World (Apart)

/-- **A change of state by hand, or a reset, leaves nothing of the past to be seen.**  Take two circuits
of one name, one configuration and one clock, each with timers for itself, whatever happened to them.  Once
both enter a state by hand, the same is seen of both from then on; once both are reset, as well, and the
same is seen of one that was just built.  A second reset adds its event and its log record, and is not to
be seen later. -/
theorem past_forgotten {react : CircuitId → React γ} {react' : CircuitId → React γ'}
    (quiet : ∀ id, Quiet (react id)) (quiet' : ∀ id, Quiet (react' id)) (apart : Apart id w)
    (apart' : Apart id' w') (name : (w'.circuit id').name = (w.circuit id).name)
    (settings : (w'.circuit id').settings = (w.circuit id).settings)
    (steady : (w.circuit id).settings.Steady) (clock : w'.clock = w.clock) :
    (∀ target after, force (react id) id target w = .ok () after →
      ∃ after', force (react' id') id' target w' = .ok () after' ∧
        ∀ hs, sights react' id' hs after' = sights react id hs after) ∧
    ∃ after, reset (react id) id w = .ok () after ∧
      (∃ after', reset (react' id') id' w' = .ok () after' ∧
        ∀ hs, sights react' id' hs after' = sights react id hs after) ∧
      (∀ (v : World γ') (b : Blueprint) (c : Circuit), v.Reachable → v.timers.live = [] →
        v.clock = w.clock → b.build v = .ok c → c.name = (w.circuit id).name →
        c.settings = (w.circuit id).settings → c.timeSource = .shared →
        c.timerSource = some .shared →
        ∀ hs, sights react' v.circuits.size hs (v.addCircuit c) = sights react id hs after) ∧
      ∃ last, reset (react id) id after = .ok () last ∧
        (∀ hs, sights react id hs last = sights react id hs after) ∧
        (last.entriesSince after).filter (fun entry => !entry.isNote)
          = [.log id (w.circuit id).name (.reset .closed), .published id .reset] ∧
        last.timers.pending = after.timers.pending ∧
        ∀ other, id ≠ other → last.circuit other = after.circuit other := by
  have kin := apart.kin apart' name settings steady clock
  obtain ⟨⟨⟩, after, run, comes, stands, -⟩ := ((quiet id).reset_stands apart.alone).exists_ok
  have self : Kin id id after after := (Kin.refl apart.alone steady).comes comes comes
  refine ⟨fun target after run => ?_, after, run, ?_, ?_, ?_⟩
  · obtain ⟨after', run', twins, -⟩ := (both_force (quiet id) (quiet' id') kin target).of_ok run
    exact ⟨after', run', fun hs => sights_eq (quiet id) (quiet' id') hs twins⟩
  · obtain ⟨⟨⟩, after', run', comes', stands', -⟩ :=
      ((quiet' id').reset_stands apart'.alone).exists_ok
    rw [settings, kin.reading] at stands'
    exact ⟨after', run', fun hs =>
      sights_eq (quiet id) (quiet' id') hs ((kin.comes comes comes').twins stands stands')⟩
  · intro v b c reachable idle clock built name settings timeSource timerSource hs
    have new := Apart.built reachable idle built timeSource timerSource
    have circuit := v.circuit_addCircuit_self c
    have kin := apart.kin new (by rw [circuit, name]) (by rw [circuit, settings]) steady clock
    have begun : World.Stands v.circuits.size
        (Episode.begin (w.circuit id).settings 0 0 (w.reading id) .closed) [] (v.addCircuit c) := by
      refine ⟨?_, ?_⟩
      · rw [← kin.reading, ← kin.settings, World.reading, World.episode, circuit,
          (Blueprint.build_ok built).2]
        rfl
      · rw [Timers.delays, show (v.addCircuit c).timers.live = [] from idle]
        rfl
    exact sights_eq (quiet id) (quiet' _) hs
      ((kin.comes comes (.refl _ _)).twins stands begun)
  · obtain ⟨⟨⟩, last, again, comes', stands', entries, pending, others⟩ :=
      ((quiet id).reset_stands self.alone).exists_ok
    have closed : (after.episode id).state = .closed :=
      Episode.state_of_view (e := Episode.begin (w.circuit id).settings 0 0 (w.reading id) .closed)
        stands.view
    rw [comes.settings, comes.reading] at stands'
    rw [closed, comes.name] at entries
    exact ⟨last, again, fun hs => sights_eq (quiet id) (quiet id) hs
      ((self.comes (.refl id after) comes').twins stands stands'), entries, pending, others⟩

/-- One breaker is open and waits for its timer, another only watches its metrics; once both are put on
trial by hand, they cannot be told apart. -/
theorem past_forgotten_opened :
    ∃ w w' after after' : World Unit, (w.episode 0).state = .opened ∧ w.timers.live.length = 1 ∧
      (w'.episode 0).state = .metricsOnly ∧ w'.timers.live = [] ∧
      force .silent 0 .halfOpen w = .ok () after ∧ force .silent 0 .halfOpen w' = .ok () after' ∧
      ∀ hs, sights (fun _ => .silent) 0 hs after' = sights (fun _ => .silent) 0 hs after := by
  -- both breakers are computed, with their histories
  obtain ⟨c, built, clock, timers, fixed, ⟨w, after, opened, run, open_, held, now, one, own⟩,
      w', watching, watches, held', now', idle⟩ :
      ∃ c : Circuit, (Blueprint.ofChoices "" [.probesOnTimer true, .timeSource .shared,
        .timerSource .shared]).build (World.empty 7 ⟨0⟩ ()) = .ok c ∧ c.timeSource = .shared ∧
        c.timerSource = some .shared ∧ c.settings.backoff = .fixed (.ofSeconds 60) ∧
      (∃ w after : World Unit, (Operation.force 0 .opened).run (fun _ => .silent)
          ((World.empty 7 ⟨0⟩ ()).addCircuit c) = .ok .nothing w ∧
        force .silent 0 .halfOpen w = .ok () after ∧ (w.episode 0).state = .opened ∧
        w.isHeld 0 = true ∧ w.clock = .startingAt 7 ∧ w.timers.live.length = 1 ∧
        ∀ t ∈ w.timers.live, t.task.circuit = 0) ∧
      ∃ w' : World Unit, (Operation.force 0 .metricsOnly).run (fun _ => .silent)
          ((World.empty 7 ⟨0⟩ ()).addCircuit c) = .ok .nothing w' ∧
        (w'.episode 0).state = .metricsOnly ∧ w'.isHeld 0 = true ∧ w'.clock = .startingAt 7 ∧
        w'.timers.live = [] :=
    ⟨_, rfl, rfl, rfl, rfl,
      ⟨_, _, rfl, rfl, rfl, by decide +kernel, rfl, by decide +kernel, by decide +kernel⟩,
      ⟨_, rfl, rfl, by decide +kernel, rfl, rfl⟩⟩
  have reachable : ((World.empty 7 ⟨0⟩ ()).addCircuit c : World Unit).Reachable :=
    ⟨7, ⟨0⟩, (), (World.Move.build _ _ built).reaches⟩
  have there : 0 < ((World.empty 7 ⟨0⟩ ()).addCircuit c : World Unit).circuits.size := Nat.one_pos
  have quiet (id : CircuitId) : Quiet ((fun _ => .silent : CircuitId → React Unit) id) := Quiet.silent
  obtain ⟨marks, goes, -⟩ := (Operation.yields_run quiet there rfl).of_ok opened
  obtain ⟨marks', goes', -⟩ := (Operation.yields_run quiet there rfl).of_ok watching
  have course := goes.course there
  have course' := goes'.course there
  have apart : Apart 0 w := ⟨reachable.of_reaches goes.reaches,
    Nat.lt_of_lt_of_le there course.size, held, course.timeSource.trans clock,
    course.timerSource.trans timers, own⟩
  have apart' : Apart 0 w' := ⟨reachable.of_reaches goes'.reaches,
    Nat.lt_of_lt_of_le there course'.size, held', course'.timeSource.trans clock,
    course'.timerSource.trans timers, fun t live => by rw [idle] at live; cases live⟩
  have steady : (w.circuit 0).settings.Steady := by
    refine ⟨fun _ => .ok (.ofSeconds 60), fun roll attempt => ?_⟩
    rw [course.settings]
    show (c.settings.backoff.wait roll attempt).observe.1 = _
    rw [fixed]
    rfl
  obtain ⟨forces, -⟩ := past_forgotten quiet quiet apart apart'
    (course'.name.trans course.name.symm) (course'.settings.trans course.settings.symm) steady
    (now'.trans now.symm)
  obtain ⟨after', run', same⟩ := forces .halfOpen after run
  exact ⟨w, w', after, after', open_, one, watches, idle, run, run', same⟩

end Breaker

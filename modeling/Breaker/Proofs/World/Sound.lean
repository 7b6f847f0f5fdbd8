import Mathlib
import Breaker.Proofs.Window.LastCalls
import Breaker.Proofs.World.Move

/-!
# Sound — what every reachable world satisfies

`World.Serves` is the contract between a timer and the circuit it was left for: the episode that left
it is the circuit's current one, and holds its handle, or is over.  Only a timer of the current
episode can still do something, and it is not cancelled and names the state in which that episode
times out.  A timer keeps to it wherever it is, in a queue or in a batch that is being run
(`Move.serves`).

`World.Sound` gathers what holds of a world at all times: its timers serve, its episodes measure
against the minimum of their state, and a trial has a window of as many calls as it admits
(`Move.sound`, `Reachable.sound`).
-/

namespace Breaker

variable {γ : Type}

namespace Episode

/-- What holds of an episode at all times. -/
structure Sound (s : Settings) (e : Episode) : Prop where
  /-- Only an open episode may have inherited another minimum. -/
  minimum : e.state ≠ .opened → e.minimum = minimumOf s e.state
  trial : e.state = .halfOpen → ∃ (r : Ring) (os : List Outcome),
    e.window = .calls r ∧ r.Took s.trialCalls os

namespace Sound

variable {s : Settings} {e : Episode} {now : Nat}

theorem of_begin (number attempts now : Nat) (phase : Phase) :
    Sound s (begin s number attempts now phase) where
  minimum := fun _ => rfl
  trial := by
    intro state
    refine ⟨Ring.empty s.trialCalls, [], ?_, Ring.took_empty _⟩
    show freshWindow s phase.state now = _
    rw [show phase.state = .halfOpen from state, freshWindow]

/-- A trial's window stays one of as many calls as it admits. -/
theorem ring_after (sized : s.Sized) {m : Mark} (stays : m.stays = true)
    {r : Ring} {os : List Outcome} (window : e.window = .calls r) (took : r.Took s.trialCalls os) :
    ∃ (r' : Ring) (os' : List Outcome), (e.after s now m).window = .calls r' ∧
      r'.Took s.trialCalls os' := by
  rw [window_after stays, window]
  cases m with
  | recorded o => exact ⟨r.record o, os ++ [o], rfl, took.record sized.2 o⟩
  | granted | refused | released | told | settled => exact ⟨r, os, rfl, took⟩
  | entered => cases stays

theorem after (h : Sound s e) (sized : s.Sized) {m : Mark} (stays : m.stays = true) :
    Sound s (e.after s now m) := by
  have keeps : Keeps s e (e.after s now m) := keeps_after stays e
  refine ⟨fun state => ?_, fun state => ?_⟩
  · rw [keeps.state] at state ⊢
    rw [keeps.minimum, h.minimum state]
  · rw [keeps.state] at state
    obtain ⟨r, os, window, took⟩ := h.trial state
    exact ring_after sized stays window took

theorem of_next (e : Episode) (target : State) (wait : Duration) (manual : Bool) (timer : Option Nat) :
    Sound s { e.next s now target wait manual with timer := timer } := by
  by_cases trip : target = .opened ∧ manual = false
  · obtain ⟨rfl, rfl⟩ := trip
    refine ⟨fun state => absurd rfl state, fun state => ?_⟩
    cases state
  · rw [next_of_fresh trip]
    have fresh := of_begin (s := s) (e.number + 1)
      (attemptsOnEntry e.state e.attempts target manual) now (phaseOf s target now wait)
    exact ⟨fresh.minimum, fresh.trial⟩

end Sound

end Episode

namespace World

/-! ### Timers and the episodes they were left for -/

/-- The contract between a timer and its circuit. -/
structure Serves (w : World γ) (source : TimerSource) (handle : Nat) (a : Alarm) : Prop where
  given : handle < w.nextHandle source
  circuit : a.circuit < w.circuits.size
  episode : a.episode ≤ (w.episode a.circuit).number
  /-- The circuit holds the handle exactly while the episode is current. -/
  own : ∀ id, (a.circuit = id ∧ a.episode = (w.episode id).number) ↔
    ((w.circuit id).timerSource = some source ∧ (w.episode id).timer = some handle)
  live : a.episode = (w.episode a.circuit).number → w.isCancelled source handle = false
  target : a.episode = (w.episode a.circuit).number →
    ∃ due, (w.episode a.circuit).timeout? (w.circuit a.circuit).settings = some (due, a.target)

/-- What holds of a world at all times. -/
structure Sound (w : World γ) : Prop where
  serves : ∀ (source : TimerSource) (t : Nat × Alarm), t ∈ w.waiting source →
    w.Serves source t.1 t.2
  handles : ∀ (id : CircuitId) (source : TimerSource) (handle : Nat),
    (w.circuit id).timerSource = some source → (w.episode id).timer = some handle →
    handle < w.nextHandle source
  sized : ∀ id, (w.circuit id).settings.Sized
  episodes : ∀ id, (w.episode id).Sound (w.circuit id).settings

/-- The timers of a place, as they are in its queue. -/
theorem Sound.serves_timers {w : World γ} (sound : w.Sound) :
    ∀ t ∈ w.timers.pending, w.Serves .shared t.handle t.task := fun t mem =>
  sound.serves .shared (t.handle, t.task) (List.mem_map.mpr ⟨t, mem, rfl⟩)

theorem Sound.serves_threads {w : World γ} (sound : w.Sound) :
    ∀ t ∈ w.threads.pending, w.Serves .threads t.handle t.task.alarm := fun t mem =>
  sound.serves .threads (t.handle, t.task.alarm) (List.mem_map.mpr ⟨t, mem, rfl⟩)

/-- The circuits and the handles of two worlds are alike, as far as timers see them. -/
structure Alike (w w' : World γ) : Prop where
  size : w'.circuits.size = w.circuits.size
  settings : ∀ id, (w'.circuit id).settings = (w.circuit id).settings
  timerSource : ∀ id, (w'.circuit id).timerSource = (w.circuit id).timerSource
  keeps : ∀ id, Episode.Keeps (w.circuit id).settings (w.episode id) (w'.episode id)
  nextHandle : ∀ source, w'.nextHandle source = w.nextHandle source
  isCancelled : ∀ source, w'.isCancelled source = w.isCancelled source

namespace Alike

variable {w w' : World γ}

theorem serves (h : Alike w w') {source : TimerSource} {handle : Nat} {a : Alarm}
    (serves : w.Serves source handle a) : w'.Serves source handle a where
  given := by
    rw [h.nextHandle]
    exact serves.given
  circuit := by
    rw [h.size]
    exact serves.circuit
  episode := by
    rw [(h.keeps _).number]
    exact serves.episode
  own := fun id => by
    rw [(h.keeps id).number, h.timerSource, (h.keeps id).timer]
    exact serves.own id
  live := by
    rw [(h.keeps _).number, h.isCancelled]
    exact serves.live
  target := by
    rw [(h.keeps _).number, h.settings, (h.keeps _).timeout]
    exact serves.target

theorem of_circuits (circuits : w'.circuits = w.circuits)
    (timers : w'.timers.cancelled = w.timers.cancelled)
    (threads : w'.threads.cancelled = w.threads.cancelled) : Alike w w' := by
  have circuit (id : CircuitId) : w'.circuit id = w.circuit id := by
    rw [World.circuit, circuits]
    rfl
  refine ⟨by rw [circuits], fun id => by rw [circuit], fun id => by rw [circuit], fun id => ?_,
    fun source => ?_, fun source => ?_⟩
  · rw [World.episode, World.episode, circuit]
    exact .refl _
  · cases source with
    | shared => exact congrArg Array.size timers
    | threads => exact congrArg Array.size threads
  · cases source with
    | shared => exact congrArg (fun c handle => c.getD handle false) timers
    | threads => exact congrArg (fun c handle => c.getD handle false) threads

theorem setCircuit {id : CircuitId} {c : Circuit}
    (settings : c.settings = (w.circuit id).settings)
    (timerSource : c.timerSource = (w.circuit id).timerSource)
    (keeps : Episode.Keeps (w.circuit id).settings (w.episode id) c.episode) :
    Alike w (w.setCircuit id c) := by
  have each (other : CircuitId) :
      (w.setCircuit id c).circuit other = w.circuit other ∨
        other = id ∧ (w.setCircuit id c).circuit other = c := by
    by_cases same : id = other
    · subst same
      by_cases there : id < w.circuits.size
      · exact .inr ⟨rfl, circuit_setCircuit_self w c there⟩
      · rw [setCircuit_of_size_le w c (Nat.le_of_not_lt there)]
        exact .inl rfl
    · exact .inl (circuit_setCircuit_of_ne w c same)
  refine ⟨size_setCircuit .., fun other => ?_, fun other => ?_, fun other => ?_, fun source => ?_,
    fun source => ?_⟩
  · rcases each other with eq | ⟨rfl, eq⟩
    · rw [eq]
    · rw [eq, settings]
  · rcases each other with eq | ⟨rfl, eq⟩
    · rw [eq]
    · rw [eq, timerSource]
  · rw [World.episode, World.episode]
    rcases each other with eq | ⟨rfl, eq⟩
    · rw [eq]
      exact .refl _
    · rw [eq]
      exact keeps
  · cases source with
    | shared | threads => rfl
  · cases source with
    | shared | threads => rfl

end Alike

theorem Aside.alike {w w' : World γ} (h : w.Aside w') : Alike w w' :=
  .of_circuits h.circuits (by rw [h.timers]) (by rw [h.threads])

theorem timerFor_eq_some {w : World γ} {id : CircuitId} {e : Episode} {handle : Nat} :
    w.timerFor id e = some handle ↔
      ∃ source a, w.alarmFor id e = some (source, a) ∧ handle = w.nextHandle source := by
  rw [timerFor]
  rcases w.alarmFor id e with _ | ⟨source, a⟩
  · simp
  · simp [eq_comm]

section Enter

variable {w : World γ} {id : CircuitId} {target : State} {wait : Duration} {manual : Bool}

theorem episode_enter_self (there : id < w.circuits.size) :
    (w.enter id target wait manual).episode id
      = { w.nextEpisode id target wait manual with
          timer := w.timerFor id (w.nextEpisode id target wait manual) } := by
  rw [episode, circuit_enter_self w _ _ _ there]

theorem episode_enter_of_ne {other : CircuitId} (ne : id ≠ other) :
    (w.enter id target wait manual).episode other = w.episode other := by
  rw [episode, circuit_enter_of_ne w _ _ _ ne, episode]

theorem nextHandle_le_enter (there : id < w.circuits.size) (source : TimerSource) :
    w.nextHandle source ≤ (w.enter id target wait manual).nextHandle source := by
  rw [nextHandle_enter w _ _ _ there]
  exact Nat.le_add_right ..

/-- **Entering a state keeps the contracts**: a timer of the episode that ends has nothing left to
do, and the others are not touched. -/
theorem Serves.enter {source : TimerSource} {handle : Nat} {a : Alarm}
    (serves : w.Serves source handle a) (there : id < w.circuits.size) :
    (w.enter id target wait manual).Serves source handle a := by
  have number : ((w.enter id target wait manual).episode id).number = (w.episode id).number + 1 := by
    rw [episode_enter_self there]
    exact Episode.next_number ..
  -- no timer that was given out is one of the episode that begins
  have ended (own : a.circuit = id)
      (current : a.episode = ((w.enter id target wait manual).episode id).number) : False := by
    have := serves.episode
    rw [number] at current
    rw [own] at this
    omega
  refine ⟨Nat.lt_of_lt_of_le serves.given (nextHandle_le_enter there source),
    by rw [size_enter]; exact serves.circuit, ?_, fun other => ?_, fun current => ?_,
    fun current => ?_⟩
  · by_cases same : id = a.circuit
    · rw [← same, number, same]
      exact Nat.le_succ_of_le serves.episode
    · rw [episode_enter_of_ne same]
      exact serves.episode
  · by_cases same : id = other
    · subst same
      refine ⟨fun ⟨own, current⟩ => (ended own current).elim, fun ⟨place, timer⟩ => ?_⟩
      rw [episode_enter_self there] at timer
      rw [circuit_enter_self w _ _ _ there] at place
      obtain ⟨source', b, armed, rfl⟩ := timerFor_eq_some.mp timer
      obtain ⟨place', -⟩ := alarmFor_eq_some.mp armed
      obtain rfl : source' = source := Option.some.inj (place'.symm.trans place)
      exact absurd serves.given (Nat.lt_irrefl _)
    · rw [episode_enter_of_ne same, circuit_enter_of_ne w _ _ _ same]
      exact serves.own other
  · by_cases same : id = a.circuit
    · rw [← same] at current
      exact (ended same.symm current).elim
    · rw [episode_enter_of_ne same] at current
      rw [isCancelled_enter, serves.live current, Bool.false_or, decide_eq_false_iff_not]
      rintro ⟨holds, -⟩
      exact same ((serves.own id).mpr holds).1.symm
  · by_cases same : id = a.circuit
    · rw [← same] at current
      exact (ended same.symm current).elim
    · rw [episode_enter_of_ne same] at current ⊢
      rw [circuit_enter_of_ne w _ _ _ same]
      exact serves.target current

/-- The alarm of the episode that begins serves it. -/
theorem Sound.serves_armed (sound : w.Sound) (there : id < w.circuits.size) {source : TimerSource}
    {a : Alarm} (armed : w.alarmFor id (w.nextEpisode id target wait manual) = some (source, a)) :
    (w.enter id target wait manual).Serves source (w.nextHandle source) a := by
  obtain ⟨place, rfl, number, due, timeout⟩ := alarmFor_eq_some.mp armed
  have next : ((w.enter a.circuit target wait manual).episode a.circuit).number
      = (w.nextEpisode a.circuit target wait manual).number := by rw [episode_enter_self there]
  have handle : w.timerFor a.circuit (w.nextEpisode a.circuit target wait manual)
      = some (w.nextHandle source) := timerFor_eq_some.mpr ⟨source, a, armed, rfl⟩
  refine ⟨?_, by rwa [size_enter], by rw [next, number], fun other => ?_, fun _ => ?_, fun _ => ?_⟩
  · rw [nextHandle_enter w _ _ _ there, armed, Option.map_some, if_pos rfl]
    exact Nat.lt_succ_self _
  · by_cases same : a.circuit = other
    · subst same
      rw [next, episode_enter_self there, circuit_enter_self w _ _ _ there]
      exact ⟨fun _ => ⟨place, handle⟩, fun _ => ⟨rfl, number⟩⟩
    · rw [episode_enter_of_ne same, circuit_enter_of_ne w _ _ _ same]
      refine ⟨fun both => absurd both.1 same, fun ⟨place', timer⟩ => ?_⟩
      exact absurd (sound.handles other source _ place' timer) (Nat.lt_irrefl _)
  · have free : w.isCancelled source (w.nextHandle source) = false := by
      cases source with
      | shared | threads => exact Timers.isCancelled_of_le _ (Nat.le_refl _)
    rw [isCancelled_enter, free, Bool.false_or, decide_eq_false_iff_not]
    exact fun both => absurd both.2 (Nat.lt_irrefl _)
  · rw [episode_enter_self there, circuit_enter_self w _ _ _ there]
    exact ⟨due, timeout⟩

/-- **Entering a state keeps a world sound.** -/
theorem Sound.enter (sound : w.Sound) : (w.enter id target wait manual).Sound := by
  by_cases there : id < w.circuits.size
  -- the circuit has an episode that has just begun, and the others are as they were
  · refine ⟨fun source t mem => ?_, fun other source handle place timer => ?_, fun other => ?_,
      fun other => ?_⟩
    · rcases (mem_waiting_enter w _ _ _ there).mp mem with old | ⟨armed, eq⟩
      · exact (sound.serves source t old).enter there
      · rw [eq]
        exact sound.serves_armed there armed
    · by_cases same : id = other
      · subst same
        rw [episode_enter_self there] at timer
        rw [circuit_enter_self w _ _ _ there] at place
        obtain ⟨source', b, armed, rfl⟩ := timerFor_eq_some.mp timer
        obtain ⟨place', -⟩ := alarmFor_eq_some.mp armed
        obtain rfl : source' = source := Option.some.inj (place'.symm.trans place)
        exact (sound.serves_armed there armed).given
      · rw [episode_enter_of_ne same] at timer
        rw [circuit_enter_of_ne w _ _ _ same] at place
        exact (sound.handles other source handle place timer).trans_le
          (nextHandle_le_enter there source)
    · by_cases same : id = other
      · subst same
        rw [circuit_enter_self w _ _ _ there]
        exact sound.sized id
      · rw [circuit_enter_of_ne w _ _ _ same]
        exact sound.sized other
    · by_cases same : id = other
      · subst same
        rw [episode_enter_self there, circuit_enter_self w _ _ _ there]
        exact .of_next ..
      · rw [episode_enter_of_ne same, circuit_enter_of_ne w _ _ _ same]
        exact sound.episodes other
  · rwa [enter_of_size_le w _ _ _ (Nat.le_of_not_lt there)]

end Enter

/-- Alike worlds are both sound, if no timer came to wait. -/
theorem Alike.sound {w w' : World γ} (h : Alike w w') (sound : w.Sound)
    (waiting : ∀ source, w'.waiting source ⊆ w.waiting source)
    (episodes : ∀ id, (w'.episode id).Sound (w.circuit id).settings) : w'.Sound where
  serves := fun source t mem => h.serves (sound.serves source t (waiting source mem))
  handles := by
    intro id source handle place timer
    rw [h.timerSource] at place
    rw [(h.keeps id).timer] at timer
    rw [h.nextHandle]
    exact sound.handles id source handle place timer
  sized := fun id => by
    rw [h.settings]
    exact sound.sized id
  episodes := fun id => by
    rw [h.settings]
    exact episodes id

/-! ### Along moves -/

variable {w w' : World γ}

/-- A circuit that is built has a number and a window of its own. -/
theorem Serves.build {b : Blueprint} {c : Circuit} (built : b.build w = .ok c)
    {source : TimerSource} {handle : Nat} {a : Alarm} (serves : w.Serves source handle a) :
    (w.addCircuit c).Serves source handle a := by
  have old : a.circuit ≠ w.circuits.size := Nat.ne_of_lt serves.circuit
  have same : (w.addCircuit c).circuit a.circuit = w.circuit a.circuit :=
    circuit_addCircuit_of_ne w c old
  refine ⟨?_, ?_, ?_, fun id => ?_, ?_, ?_⟩
  · cases source with
    | shared | threads => exact serves.given
  · rw [addCircuit, Array.size_push]
    exact Nat.lt_succ_of_lt serves.circuit
  · rw [World.episode, same]
    exact serves.episode
  · by_cases new : id = w.circuits.size
    · obtain ⟨-, begun⟩ := Blueprint.build_ok built
      subst new
      rw [World.episode, circuit_addCircuit_self, begun]
      exact ⟨fun both => absurd both.1 old, fun both => by cases both.2⟩
    · rw [World.episode, circuit_addCircuit_of_ne w c new]
      exact serves.own id
  · rw [World.episode, same]
    cases source with
    | shared | threads => exact serves.live
  · rw [World.episode, same]
    exact serves.target

theorem Sound.build {b : Blueprint} {c : Circuit} (sound : w.Sound) (built : b.build w = .ok c) :
    (w.addCircuit c).Sound := by
  obtain ⟨valid, begun⟩ := Blueprint.build_ok built
  refine ⟨fun source t mem => ?_, fun id source handle place timer => ?_, fun id => ?_,
    fun id => ?_⟩
  · have old : t ∈ w.waiting source := by
      cases source with
      | shared | threads => exact mem
    exact (sound.serves source t old).build built
  · have free : w.nextHandle source = (w.addCircuit c).nextHandle source := by
      cases source with
      | shared | threads => rfl
    rw [← free]
    by_cases new : id = w.circuits.size
    · subst new
      rw [episode, circuit_addCircuit_self, begun] at timer
      cases timer
    · rw [circuit_addCircuit_of_ne w c new] at place
      rw [episode, circuit_addCircuit_of_ne w c new] at timer
      exact sound.handles id source handle place timer
  · by_cases new : id = w.circuits.size
    · subst new
      rw [circuit_addCircuit_self]
      exact Settings.sized_of_check valid
    · rw [circuit_addCircuit_of_ne w c new]
      exact sound.sized id
  · by_cases new : id = w.circuits.size
    · subst new
      rw [episode, circuit_addCircuit_self, begun]
      exact .of_begin ..
    · rw [episode, circuit_addCircuit_of_ne w c new]
      exact sound.episodes id

theorem episode_enrol (w : World γ) (id other : CircuitId) (roster : Roster ConsumerId) :
    (w.setCircuit id { w.circuit id with roster := roster }).episode other = w.episode other := by
  by_cases same : id = other
  · subst same
    by_cases there : id < w.circuits.size
    · rw [episode, circuit_setCircuit_self w _ there, episode]
    · rw [setCircuit_of_size_le w _ (Nat.le_of_not_lt there)]
  · rw [episode, circuit_setCircuit_of_ne w _ same, episode]

/-- A change that leaves the circuits alike, and under which no timer comes to wait. -/
structure Minor (w w' : World γ) : Prop where
  alike : Alike w w'
  waiting : ∀ source, w'.waiting source ⊆ w.waiting source
  episodes : w.Sound → ∀ id, (w'.episode id).Sound (w.circuit id).settings

/-- A move is a minor change, or lets a circuit enter a state, or builds one. -/
theorem Move.kinds (h : Move w w') :
    Minor w w' ∨ (∃ id target wait manual, Minor (w.enter id target wait manual) w') ∨
      ∃ (b : Blueprint) (c : Circuit), b.build w = .ok c ∧ w' = w.addCircuit c := by
  have logged (w : World γ) (id : CircuitId) (record : LogRecord) : Minor w (w.log id record) :=
    ⟨.of_circuits rfl rfl rfl, fun _ => List.Subset.refl _, Sound.episodes⟩
  cases h with
  | aside h =>
    refine .inl ⟨h.alike, fun source => ?_, fun sound id => ?_⟩
    · rw [h.waiting]
      exact List.Subset.refl _
    · rw [h.episode]
      exact sound.episodes id
  | time | hold =>
    exact .inl ⟨.of_circuits rfl rfl rfl, fun _ => List.Subset.refl _, Sound.episodes⟩
  | enrol id roster =>
    refine .inl ⟨.setCircuit rfl rfl (.refl _), fun _ => List.Subset.refl _, fun sound other => ?_⟩
    rw [episode_enrol]
    exact sound.episodes other
  | build b built => exact .inr (.inr ⟨b, _, built, rfl⟩)
  | mark id m stays =>
    refine .inl ⟨.setCircuit rfl rfl (Episode.keeps_after stays _), fun _ => List.Subset.refl _,
      fun sound other => ?_⟩
    rw [episode, circuit_setEpisode]
    split
    case isTrue both =>
      obtain ⟨rfl, -⟩ := both
      exact (sound.episodes id).after (sound.sized id) stays
    case isFalse => exact sound.episodes other
  | change id target wait manual => exact .inr (.inl ⟨id, target, wait, manual, logged _ _ _⟩)
  | reset id wait => exact .inr (.inl ⟨id, .closed, wait, true, logged _ _ _⟩)
  | drain =>
    refine .inl ⟨.of_circuits rfl rfl rfl, fun source => ?_, Sound.episodes⟩
    cases source with
    | shared => exact List.nil_subset _
    | threads => exact List.Subset.refl _
  | thin keep =>
    refine .inl ⟨.of_circuits rfl rfl rfl, fun source => ?_, Sound.episodes⟩
    cases source with
    | shared => exact List.Subset.refl _
    | threads =>
      refine List.map_subset _ ?_
      rw [Timers.pending, Array.toList_filter]
      exact List.filter_subset_self _

/-- **A timer keeps to its contract** wherever it is, whatever happens. -/
theorem Move.serves (h : Move w w') {source : TimerSource} {handle : Nat} {a : Alarm}
    (serves : w.Serves source handle a) : w'.Serves source handle a := by
  rcases h.kinds with minor | ⟨id, target, wait, manual, minor⟩ | ⟨b, c, built, rfl⟩
  · exact minor.alike.serves serves
  · refine minor.alike.serves ?_
    by_cases there : id < w.circuits.size
    · exact serves.enter there
    · rwa [enter_of_size_le w _ _ _ (Nat.le_of_not_lt there)]
  · exact serves.build built

/-- **Every move keeps a world sound.** -/
theorem Move.sound (h : Move w w') (sound : w.Sound) : w'.Sound := by
  rcases h.kinds with minor | ⟨id, target, wait, manual, minor⟩ | ⟨b, c, built, rfl⟩
  · exact minor.alike.sound sound minor.waiting (minor.episodes sound)
  · have entered : (w.enter id target wait manual).Sound := sound.enter
    exact minor.alike.sound entered minor.waiting (minor.episodes entered)
  · exact sound.build built

theorem Reaches.serves (h : Reaches w w') {source : TimerSource} {handle : Nat} {a : Alarm} :
    w.Serves source handle a → w'.Serves source handle a :=
  h.preserves fun _ _ move => move.serves

theorem Reaches.sound (h : Reaches w w') : w.Sound → w'.Sound :=
  h.preserves fun _ _ move => move.sound

/-- A world without circuits is sound. -/
theorem sound_empty (start : Nat) (dice : Dice) (guest : γ) :
    (World.empty start dice guest).Sound where
  serves := by
    intro source t mem
    cases source with
    | shared | threads => cases mem
  handles := fun _ _ _ place => by cases place
  sized := fun id => by
    rw [circuit_of_size_le _ (Nat.zero_le id)]
    exact ⟨by decide, by decide⟩
  episodes := fun _ => .of_begin ..

theorem Reachable.sound (h : Reachable w) : w.Sound := by
  obtain ⟨start, dice, guest, reaches⟩ := h
  exact reaches.sound (sound_empty start dice guest)

end World

end Breaker

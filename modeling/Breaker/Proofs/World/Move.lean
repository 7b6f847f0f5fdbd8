import Mathlib
import Breaker.Blueprint
import Breaker.Proofs.World.Frame

/-!
# Move — the steps a world takes

Everything that acts do to a world is made of the `Move`s below: a circuit is built, its episode takes
a mark or gives way to the next one, time passes, timers are taken from the queue, subscriptions and
handles come and go, and things are noted that concern no circuit's state (`Aside`).  `Reaches` is
any number of moves, and a world is `Reachable` if it comes by moves from one without circuits.

A circuit's episodes are numbered upwards: along moves the current episode is a later one, or the
same one in the same state and at the same attempt (`Reaches.isLater`).
-/

namespace Breaker

variable {γ : Type}

/-- Whether an entry tells of no change of state. -/
def Entry.IsAside (entry : Entry) : Prop := ∀ id, entry.turn? id = none

namespace World

/-- What happens beside the circuits: notes, events and log records of other kinds, the dice, and
what the guest remembers. -/
structure Aside (w w' : World γ) : Prop where
  clock : w'.clock = w.clock
  elapsed : w'.elapsed = w.elapsed
  timers : w'.timers = w.timers
  threads : w'.threads = w.threads
  circuits : w'.circuits = w.circuits
  handles : w'.handles = w.handles
  journal : ∃ entries : List Entry, (∀ entry ∈ entries, entry.IsAside) ∧
    w'.journal = w.journal ++ entries.toArray

namespace Aside

theorem refl (w : World γ) : Aside w w where
  clock := rfl
  elapsed := rfl
  timers := rfl
  threads := rfl
  circuits := rfl
  handles := rfl
  journal := ⟨[], fun _ h => absurd h List.not_mem_nil, (Array.append_empty).symm⟩

theorem trans {w₁ w₂ w₃ : World γ} (h : Aside w₁ w₂) (h' : Aside w₂ w₃) : Aside w₁ w₃ where
  clock := h'.clock.trans h.clock
  elapsed := h'.elapsed.trans h.elapsed
  timers := h'.timers.trans h.timers
  threads := h'.threads.trans h.threads
  circuits := h'.circuits.trans h.circuits
  handles := h'.handles.trans h.handles
  journal := by
    obtain ⟨entries, aside, eq⟩ := h.journal
    obtain ⟨entries', aside', eq'⟩ := h'.journal
    refine ⟨entries ++ entries', fun entry mem => ?_, by simp [eq', eq]⟩
    rcases List.mem_append.mp mem with mem | mem
    · exact aside entry mem
    · exact aside' entry mem

theorem write (w : World γ) {entry : Entry} (h : entry.IsAside) : Aside w (w.write entry) where
  clock := rfl
  elapsed := rfl
  timers := rfl
  threads := rfl
  circuits := rfl
  handles := rfl
  journal := by
    refine ⟨[entry], fun other mem => ?_, by simp [World.write]⟩
    rw [List.mem_singleton.mp mem]
    exact h

theorem dice (w : World γ) (dice : Dice) : Aside w { w with dice := dice } where
  clock := rfl
  elapsed := rfl
  timers := rfl
  threads := rfl
  circuits := rfl
  handles := rfl
  journal := ⟨[], fun _ h => absurd h List.not_mem_nil, (Array.append_empty).symm⟩

theorem guest (w : World γ) (guest : γ) : Aside w { w with guest := guest } where
  clock := rfl
  elapsed := rfl
  timers := rfl
  threads := rfl
  circuits := rfl
  handles := rfl
  journal := ⟨[], fun _ h => absurd h List.not_mem_nil, (Array.append_empty).symm⟩

variable {w w' : World γ}

theorem circuit (h : Aside w w') (id : CircuitId) : w'.circuit id = w.circuit id := by
  rw [World.circuit, h.circuits]
  rfl

theorem episode (h : Aside w w') (id : CircuitId) : w'.episode id = w.episode id := by
  rw [World.episode, h.circuit]
  rfl

theorem reading (h : Aside w w') (id : CircuitId) : w'.reading id = w.reading id := by
  rw [World.reading, h.circuit, World.reading]
  cases (w.circuit id).timeSource with
  | shared => rw [timeAt, timeAt, h.clock]
  | own since => rw [timeAt, timeAt, h.elapsed]

theorem waiting (h : Aside w w') (source : TimerSource) : w'.waiting source = w.waiting source := by
  cases source with
  | shared => rw [World.waiting, World.waiting, h.timers]
  | threads => rw [World.waiting, World.waiting, h.threads]

theorem nextHandle (h : Aside w w') (source : TimerSource) :
    w'.nextHandle source = w.nextHandle source := by
  cases source with
  | shared => rw [World.nextHandle, World.nextHandle, h.timers]
  | threads => rw [World.nextHandle, World.nextHandle, h.threads]

end Aside

/-- One step of a world. -/
inductive Move : World γ → World γ → Prop where
  /-- Something happens beside the circuits. -/
  | aside {w w' : World γ} (h : w.Aside w') : Move w w'
  /-- Time passes, or the clock is set. -/
  | time (w : World γ) (clock : Clock) (elapsed : Nat) :
      Move w { w with clock := clock, elapsed := elapsed }
  /-- Handles are given out or dropped. -/
  | hold (w : World γ) (handles : Array (Option CircuitId)) : Move w { w with handles := handles }
  /-- The subscriptions of a circuit change. -/
  | enrol (w : World γ) (id : CircuitId) (roster : Roster ConsumerId) :
      Move w (w.setCircuit id { w.circuit id with roster := roster })
  /-- A circuit is built. -/
  | build (w : World γ) (b : Blueprint) {c : Circuit} (h : b.build w = .ok c) :
      Move w (w.addCircuit c)
  /-- The current episode of a circuit changes and stays current. -/
  | mark (w : World γ) (id : CircuitId) (m : Mark) (h : m.stays = true) :
      Move w (w.setEpisode id ((w.episode id).after (w.circuit id).settings (w.reading id) m))
  /-- A circuit enters another state. -/
  | change (w : World γ) (id : CircuitId) (target : State) (wait : Duration) (manual : Bool) :
      Move w ((w.enter id target wait manual).log id (.transition ⟨(w.episode id).state, target⟩
        (Episode.attemptsOnEntry (w.episode id).state (w.episode id).attempts target manual)
        ((w.reading id - (w.episode id).enteredAt) / nanosPerMilli) manual))
  /-- A circuit is reset. -/
  | reset (w : World γ) (id : CircuitId) (wait : Duration) :
      Move w ((w.enter id .closed wait true).log id (.reset (w.episode id).state))
  /-- The timers that wait are taken from the queue. -/
  | drain (w : World γ) : Move w { w with timers := w.timers.drain }
  /-- Some of the timers in real time are taken from the queue. -/
  | thin (w : World γ) (keep : Timer Wakeup → Bool) :
      Move w { w with threads := { w.threads with queue := w.threads.queue.filter keep } }

/-- Any number of moves. -/
inductive Reaches : World γ → World γ → Prop where
  | refl (w : World γ) : Reaches w w
  | more {w₁ w₂ w₃ : World γ} (h : Move w₁ w₂) (t : Reaches w₂ w₃) : Reaches w₁ w₃

/-- A world that comes by moves from one without circuits. -/
def Reachable (w : World γ) : Prop :=
  ∃ start dice guest, Reaches (World.empty start dice guest) w

theorem Move.reaches {w w' : World γ} (h : Move w w') : Reaches w w' := .more h (.refl _)

theorem Reaches.trans {w₁ w₂ w₃ : World γ} (h : Reaches w₁ w₂) (h' : Reaches w₂ w₃) :
    Reaches w₁ w₃ := by
  induction h with
  | refl => exact h'
  | more h _ ih => exact .more h (ih h')

theorem Aside.reaches {w w' : World γ} (h : Aside w w') : Reaches w w' := (Move.aside h).reaches

/-- What every move preserves holds along moves. -/
theorem Reaches.preserves {P : World γ → Prop} (step : ∀ w w', Move w w' → P w → P w')
    {w w' : World γ} (h : Reaches w w') : P w → P w' := by
  induction h with
  | refl => exact id
  | more h _ ih => exact fun holds => ih (step _ _ h holds)

theorem Reachable.of_reaches {w w' : World γ} (h : Reachable w) (along : Reaches w w') :
    Reachable w' := by
  obtain ⟨start, dice, guest, reaches⟩ := h
  exact ⟨start, dice, guest, reaches.trans along⟩

end World

/-- A circuit is built closed, with valid settings and nothing recorded. -/
theorem Blueprint.build_ok {b : Blueprint} {w : World γ} {c : Circuit} (h : b.build w = .ok c) :
    c.settings.check? = none ∧
      c.episode = Episode.begin c.settings 0 0 (w.timeAt c.timeSource) .closed := by
  unfold build at h
  dsimp only at h
  split at h
  case h_1 => cases h
  case h_2 valid =>
    cases h
    exact ⟨valid, rfl⟩

/-! ### Episodes along moves -/

/-- Of two current episodes of a circuit: a later one, or the same in the same state. -/
def Episode.IsLater (e e' : Episode) : Prop :=
  e.number < e'.number ∨ e'.number = e.number ∧ e'.state = e.state ∧ e'.attempts = e.attempts

theorem Episode.IsLater.refl (e : Episode) : e.IsLater e := .inr ⟨rfl, rfl, rfl⟩

theorem Episode.IsLater.trans {e₁ e₂ e₃ : Episode} (h : e₁.IsLater e₂) (h' : e₂.IsLater e₃) :
    e₁.IsLater e₃ := by
  rcases h with h | ⟨number, state, attempts⟩
  · rcases h' with h' | ⟨number', -, -⟩
    · exact .inl (h.trans h')
    · exact .inl (by rwa [number'])
  · rcases h' with h' | ⟨number', state', attempts'⟩
    · exact .inl (by rwa [number] at h')
    · exact .inr ⟨number'.trans number, state'.trans state, attempts'.trans attempts⟩

theorem Episode.IsLater.number_le {e e' : Episode} (h : e.IsLater e') : e.number ≤ e'.number := by
  obtain newer | ⟨same, -⟩ := h
  · exact newer.le
  · exact same.ge

theorem Episode.Keeps.isLater {s : Settings} {e e' : Episode} (h : Episode.Keeps s e e') :
    e.IsLater e' := .inr ⟨h.number, h.state, h.attempts⟩

namespace World

theorem isLater_setCircuit {w : World γ} {id : CircuitId} {c : Circuit}
    (h : (w.episode id).IsLater c.episode) (other : CircuitId) :
    (w.episode other).IsLater ((w.setCircuit id c).episode other) := by
  by_cases same : id = other
  · subst same
    by_cases exists? : id < w.circuits.size
    · rwa [episode, episode, circuit_setCircuit_self w c exists?]
    · rw [setCircuit_of_size_le w c (Nat.le_of_not_lt exists?)]
      exact .refl _
  · rw [episode, episode, circuit_setCircuit_of_ne w c same]
    exact .refl _

theorem isLater_enter (w : World γ) (id : CircuitId) (target : State) (wait : Duration)
    (manual : Bool) (other : CircuitId) :
    (w.episode other).IsLater ((w.enter id target wait manual).episode other) := by
  by_cases same : id = other
  · subst same
    by_cases exists? : id < w.circuits.size
    · refine .inl ?_
      rw [episode, episode, circuit_enter_self w target wait manual exists?]
      show _ < (w.nextEpisode id target wait manual).number
      rw [nextEpisode, Episode.next_number]
      exact Nat.lt_succ_self _
    · rw [enter_of_size_le w _ _ _ (Nat.le_of_not_lt exists?)]
      exact .refl _
  · rw [episode, episode, circuit_enter_of_ne w _ _ _ same]
    exact .refl _

theorem circuit_addCircuit_self (w : World γ) (c : Circuit) :
    (w.addCircuit c).circuit w.circuits.size = c := by
  simp [circuit, addCircuit]

theorem circuit_addCircuit_of_ne (w : World γ) (c : Circuit) {id : CircuitId}
    (h : id ≠ w.circuits.size) : (w.addCircuit c).circuit id = w.circuit id := by
  simp only [circuit, addCircuit, Array.getD_eq_getD_getElem?, Array.getElem?_push, if_neg h]

theorem Move.isLater {w w' : World γ} (h : Move w w') (id : CircuitId) :
    (w.episode id).IsLater (w'.episode id) := by
  cases h with
  | aside h =>
    rw [h.episode]
    exact .refl _
  | time | hold | drain | thin => exact .refl _
  | enrol id' roster =>
    refine isLater_setCircuit ?_ id
    exact .refl _
  | build b built =>
    by_cases new : id = w.circuits.size
    · -- the number was free, and what stands for a missing circuit is closed as well
      obtain ⟨-, begun⟩ := Blueprint.build_ok built
      subst new
      rw [episode, episode, circuit_addCircuit_self, circuit_of_size_le w (Nat.le_refl _), begun]
      exact .inr ⟨rfl, rfl, rfl⟩
    · rw [episode, episode, circuit_addCircuit_of_ne w _ new]
      exact .refl _
  | mark id' m stays => exact isLater_setCircuit (Episode.keeps_after stays _).isLater id
  | change id' target wait manual => exact isLater_enter w id' target wait manual id
  | reset id' wait => exact isLater_enter w id' .closed wait true id

/-- **Numbers only grow**: along moves the current episode is a later one, or still the same. -/
theorem Reaches.isLater {w w' : World γ} (h : Reaches w w') (id : CircuitId) :
    (w.episode id).IsLater (w'.episode id) := by
  induction h with
  | refl => exact .refl _
  | more h _ ih => exact (h.isLater id).trans ih

end World

end Breaker

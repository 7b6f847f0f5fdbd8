import Mathlib
import Breaker.Proofs.Episode.Course
import Breaker.World.Succession

/-!
# Frame — what a change of episode touches

`World.enter` is a change of state without its log record: a manual or automatic change is one with a
`transition` record (`change_eq`), and a reset one into the closed state with a `reset` record
(`reset_eq`).  It puts the next episode in its place (`circuit_enter_self`), cancels the timer of the
old one (`isCancelled_enter`), may leave an alarm under the next handle (`mem_waiting_enter`), and
touches nothing else (`enter_eq`, `circuit_enter_of_ne`).

The timers of the world and those in real time are seen alike here, as handles with alarms.
-/

namespace Breaker.World

variable {γ : Type}

/-! ### The circuits of a world -/

/-- A number beyond the circuits refers to none. -/
theorem setCircuit_of_size_le (w : World γ) {id : CircuitId} (c : Circuit)
    (h : w.circuits.size ≤ id) : w.setCircuit id c = w := by
  rw [setCircuit, Array.setIfInBounds, dif_neg (by omega)]

theorem circuit_of_size_le (w : World γ) {id : CircuitId} (h : w.circuits.size ≤ id) :
    w.circuit id = Circuit.blank := by
  rw [circuit, Array.getD_eq_getD_getElem?, Array.getElem?_eq_none h]
  rfl

theorem setEpisode_of_size_le (w : World γ) {id : CircuitId} (e : Episode)
    (h : w.circuits.size ≤ id) : w.setEpisode id e = w := setCircuit_of_size_le w _ h

theorem circuit_setEpisode_self (w : World γ) {id : CircuitId} (e : Episode)
    (h : id < w.circuits.size) :
    (w.setEpisode id e).circuit id = { w.circuit id with episode := e } :=
  circuit_setCircuit_self w _ h

theorem circuit_setEpisode_of_ne (w : World γ) {id other : CircuitId} (e : Episode)
    (h : id ≠ other) : (w.setEpisode id e).circuit other = w.circuit other :=
  circuit_setCircuit_of_ne w _ h

/-- An episode that is put in its own place. -/
theorem setEpisode_self (w : World γ) (id : CircuitId) : w.setEpisode id (w.episode id) = w := by
  have same : w.circuits.setIfInBounds id (w.circuit id) = w.circuits := by
    by_cases there : id < w.circuits.size
    · rw [circuit, Array.getD_eq_getD_getElem?, Array.getElem?_eq_getElem there]
      exact (dif_pos there).trans (Array.set_getElem_self there)
    · exact Array.setIfInBounds_eq_of_size_le (Nat.le_of_not_lt there)
  show { w with circuits := w.circuits.setIfInBounds id (w.circuit id) } = w
  rw [same]

/-- Of two episodes that are put in one place, the second stays. -/
theorem setEpisode_setEpisode (w : World γ) (id : CircuitId) (e e' : Episode) :
    (w.setEpisode id e).setEpisode id e' = w.setEpisode id e' := by
  by_cases there : id < w.circuits.size
  · rw [setEpisode, circuit_setEpisode_self w e there, setEpisode, setEpisode, setCircuit, setCircuit,
      setCircuit, Array.setIfInBounds_setIfInBounds]
  · have beyond := Nat.le_of_not_lt there
    rw [setEpisode_of_size_le w e beyond]

theorem modifyEpisode_eq (w : World γ) (id : CircuitId) (f : Episode → Episode) :
    w.modifyEpisode id f = w.setEpisode id (f (w.episode id)) := by
  have circuits : w.circuits.modify id (fun c => { c with episode := f c.episode })
      = w.circuits.setIfInBounds id { w.circuit id with episode := f (w.episode id) } := by
    refine Array.ext_getElem? fun i => ?_
    rw [Array.getElem?_modify, Array.getElem?_setIfInBounds]
    by_cases same : id = i
    · subst same
      by_cases h : id < w.circuits.size
      · simp [h, circuit, episode]
      · simp [h]
    · rw [if_neg same, if_neg same]
  rw [modifyEpisode, circuits]
  rfl

/-- A circuit after an episode was put into one. -/
theorem circuit_setEpisode (w : World γ) (id other : CircuitId) (e : Episode) :
    (w.setEpisode id e).circuit other
      = if id = other ∧ other < w.circuits.size then { w.circuit id with episode := e }
        else w.circuit other := by
  by_cases same : id = other
  · subst same
    by_cases h : id < w.circuits.size
    · rw [if_pos ⟨rfl, h⟩, circuit_setEpisode_self w e h]
    · rw [if_neg fun both => h both.2, setEpisode_of_size_le w e (Nat.le_of_not_lt h)]
  · rw [if_neg fun both => same both.1, circuit_setEpisode_of_ne w e same]

theorem roster_setEpisode (w : World γ) (id other : CircuitId) (e : Episode) :
    ((w.setEpisode id e).circuit other).roster = (w.circuit other).roster := by
  rw [circuit_setEpisode]
  split_ifs with own
  · rw [own.1]
  · rfl

/-! ### The timers of a world -/

/-- The timers that wait at a place, each as its handle and its alarm. -/
def waiting (w : World γ) : TimerSource → List (Nat × Alarm)
  | .shared => w.timers.pending.map fun t => (t.handle, t.task)
  | .threads => w.threads.pending.map fun t => (t.handle, t.task.alarm)

/-- The handle of the next timer at a place. -/
def nextHandle (w : World γ) : TimerSource → Nat
  | .shared => w.timers.nextHandle
  | .threads => w.threads.nextHandle

/-- Whether a handle of a place is cancelled. -/
def isCancelled (w : World γ) : TimerSource → Nat → Bool
  | .shared => w.timers.isCancelled
  | .threads => w.threads.isCancelled

/-- The alarm that an episode of a circuit leaves, and where. -/
def alarmFor (w : World γ) (id : CircuitId) (e : Episode) : Option (TimerSource × Alarm) :=
  match (w.circuit id).timerSource, e.timeout? (w.circuit id).settings with
  | some source, some (_, target) => some (source, ⟨id, e.number, target⟩)
  | _, _ => none

/-- The handle under which an episode of a circuit would leave its alarm. -/
def timerFor (w : World γ) (id : CircuitId) (e : Episode) : Option Nat :=
  (w.alarmFor id e).map fun p => w.nextHandle p.1

theorem alarmFor_eq_some {w : World γ} {id : CircuitId} {e : Episode} {source : TimerSource}
    {a : Alarm} : w.alarmFor id e = some (source, a) ↔
      (w.circuit id).timerSource = some source ∧ a.circuit = id ∧ a.episode = e.number ∧
        ∃ due, e.timeout? (w.circuit id).settings = some (due, a.target) := by
  rw [alarmFor]
  cases (w.circuit id).timerSource with
  | none => simp
  | some place =>
    cases e.timeout? (w.circuit id).settings with
    | none => simp
    | some ending =>
      obtain ⟨due, target⟩ := ending
      obtain ⟨circuit, episode, goal⟩ := a
      simp only [Option.some.injEq, Prod.mk.injEq, Alarm.mk.injEq, exists_eq_left']
      constructor
      · rintro ⟨rfl, rfl, rfl, rfl⟩
        exact ⟨rfl, rfl, rfl, rfl⟩
      · rintro ⟨rfl, rfl, rfl, rfl⟩
        exact ⟨rfl, rfl, rfl, rfl⟩

theorem alarmFor_eq_none {w : World γ} {id : CircuitId} {e : Episode}
    (h : (w.circuit id).timerSource = none ∨ e.timeout? (w.circuit id).settings = none) :
    w.alarmFor id e = none := by
  rw [alarmFor]
  rcases h with h | h
  · rw [h]
  · rw [h]
    cases (w.circuit id).timerSource with
    | none | some => rfl

end Breaker.World

namespace Breaker.Timers

variable {τ : Type}

theorem nextHandle_schedule (t : Timers τ) (delay : Duration) (task : τ) :
    (t.schedule delay task).nextHandle = t.nextHandle + 1 := Array.size_push ..

theorem nextHandle_cancel (t : Timers τ) (handle : Nat) :
    (t.cancel handle).nextHandle = t.nextHandle := Array.size_setIfInBounds

theorem isCancelled_schedule (t : Timers τ) (delay : Duration) (task : τ) (handle : Nat) :
    (t.schedule delay task).isCancelled handle = t.isCancelled handle := by
  simp only [isCancelled, schedule, Array.getD_eq_getD_getElem?, Array.getElem?_push]
  split
  case isTrue new => rw [new, Array.getElem?_eq_none (Nat.le_refl _)]; rfl
  case isFalse => rfl

theorem isCancelled_of_le (t : Timers τ) {handle : Nat} (h : t.nextHandle ≤ handle) :
    t.isCancelled handle = false := by
  rw [isCancelled, Array.getD_eq_getD_getElem?, Array.getElem?_eq_none h]
  rfl

theorem isCancelled_cancel (t : Timers τ) (handle other : Nat) :
    (t.cancel handle).isCancelled other
      = (t.isCancelled other || decide (handle = other ∧ other < t.nextHandle)) := by
  simp only [isCancelled, cancel, nextHandle, Array.getD_eq_getD_getElem?,
    Array.getElem?_setIfInBounds]
  by_cases same : handle = other
  · subst same
    by_cases h : handle < t.cancelled.size
    · simp [h]
    · simp [h]
  · simp [same]

end Breaker.Timers

namespace Breaker.World

variable {γ : Type}

/-! ### Disarming and arming -/

theorem disarm_eq (w : World γ) (id : CircuitId) (e : Episode) :
    w.disarm id e
      = { w with timers := (w.disarm id e).timers, threads := (w.disarm id e).threads } := by
  unfold disarm
  split
  case h_1 | h_2 | h_3 => rfl

/-- A circuit without a place for timers has none to cancel. -/
theorem disarm_of_none {w : World γ} {id : CircuitId} (e : Episode)
    (h : (w.circuit id).timerSource = none) : w.disarm id e = w := by
  unfold disarm
  rw [h]

theorem circuit_disarm (w : World γ) (id other : CircuitId) (e : Episode) :
    (w.disarm id e).circuit other = w.circuit other := by
  rw [disarm_eq]
  rfl

theorem waiting_disarm (w : World γ) (id : CircuitId) (e : Episode) (source : TimerSource) :
    (w.disarm id e).waiting source = w.waiting source := by
  unfold disarm
  split
  case h_1 | h_2 | h_3 => cases source <;> rfl

theorem nextHandle_disarm (w : World γ) (id : CircuitId) (e : Episode) (source : TimerSource) :
    (w.disarm id e).nextHandle source = w.nextHandle source := by
  unfold disarm
  split
  case h_1 | h_2 =>
    cases source with
    | shared | threads => first | rfl | exact Timers.nextHandle_cancel ..
  case h_3 => rfl

theorem isCancelled_disarm (w : World γ) (id : CircuitId) (e : Episode) (source : TimerSource)
    (handle : Nat) : (w.disarm id e).isCancelled source handle
      = (w.isCancelled source handle || decide (((w.circuit id).timerSource = some source ∧
          e.timer = some handle) ∧ handle < w.nextHandle source)) := by
  unfold disarm
  split
  case h_1 own place timer =>
    rw [place, timer]
    cases source with
    | shared => simp [isCancelled, nextHandle, Timers.isCancelled_cancel]
    | threads => simp [isCancelled]
  case h_2 own place timer =>
    rw [place, timer]
    cases source with
    | shared => simp [isCancelled]
    | threads => simp [isCancelled, nextHandle, Timers.isCancelled_cancel]
  case h_3 other shared threads =>
    have no : ¬((w.circuit id).timerSource = some source ∧ e.timer = some handle) := by
      rintro ⟨place, timer⟩
      cases source with
      | shared => exact shared handle place timer
      | threads => exact threads handle place timer
    simp [no]

theorem arm_of_none {w : World γ} {id : CircuitId} (now : Nat)
    (h : w.alarmFor id (w.episode id) = none) : w.arm id now = w := by
  unfold arm
  dsimp only
  split
  case h_1 source due target place timeout =>
    have armed : w.alarmFor id (w.episode id)
        = some (source, ⟨id, (w.episode id).number, target⟩) :=
      alarmFor_eq_some.mpr ⟨place, rfl, rfl, due, timeout⟩
    rw [h] at armed
    cases armed
  case h_2 => rfl

/-- An episode that ends by a timer leaves it among the timers of the world, with the time that is
left. -/
theorem arm_of_timeout {w : World γ} {id : CircuitId} {due : Nat} {target : State} (now : Nat)
    (place : (w.circuit id).timerSource = some .shared)
    (timeout : (w.episode id).timeout? (w.circuit id).settings = some (due, target)) :
    w.arm id now = { w with
        timers := w.timers.schedule (Duration.ofNanos (due - now)) (Alarm.mk id
          (w.episode id).number target) }.setEpisode id
      { w.episode id with timer := some w.timers.nextHandle } := by
  simp only [arm, place]
  rw [show (w.circuit id).episode.timeout? _ = some (due, target) from timeout]
  rfl

/-- An alarm among the timers of the world is scheduled under the next handle. -/
theorem arm_of_shared {w : World γ} {id : CircuitId} {a : Alarm} (now : Nat)
    (h : w.alarmFor id (w.episode id) = some (.shared, a)) :
    ∃ delay, w.arm id now = { w with timers := w.timers.schedule delay a }.setEpisode id
      { w.episode id with timer := some w.timers.nextHandle } := by
  obtain ⟨circuit, number, target⟩ := a
  obtain ⟨place, own, current, due, timeout⟩ := alarmFor_eq_some.mp h
  dsimp only at own current timeout
  subst own current
  exact ⟨_, arm_of_timeout now place timeout⟩

/-- An alarm in real time is scheduled under the next handle. -/
theorem arm_of_threads {w : World γ} {id : CircuitId} {a : Alarm} (now : Nat)
    (h : w.alarmFor id (w.episode id) = some (.threads, a)) :
    ∃ delay due, w.arm id now = { w with threads := w.threads.schedule delay ⟨due, a⟩ }.setEpisode id
      { w.episode id with timer := some w.threads.nextHandle } := by
  obtain ⟨circuit, number, target⟩ := a
  obtain ⟨place, own, current, due, timeout⟩ := alarmFor_eq_some.mp h
  dsimp only at own current timeout
  subst own current
  refine ⟨Duration.ofNanos (due - now), w.elapsed + (Duration.ofNanos (due - now)).nanos, ?_⟩
  simp only [arm, place]
  rw [show (w.circuit circuit).episode.timeout? _ = some (due, target) from timeout]
  rfl

section Arm

variable (w : World γ) (id : CircuitId) (now : Nat)

theorem arm_eq : w.arm id now = { w with
    timers := (w.arm id now).timers
    threads := (w.arm id now).threads
    circuits := (w.arm id now).circuits } := by
  rcases armed : w.alarmFor id (w.episode id) with _ | ⟨_ | _, a⟩
  · rw [arm_of_none now armed]
  · obtain ⟨delay, eq⟩ := arm_of_shared now armed
    rw [eq]
    rfl
  · obtain ⟨delay, due, eq⟩ := arm_of_threads now armed
    rw [eq]
    rfl

theorem size_arm : (w.arm id now).circuits.size = w.circuits.size := by
  rcases armed : w.alarmFor id (w.episode id) with _ | ⟨_ | _, a⟩
  · rw [arm_of_none now armed]
  · obtain ⟨delay, eq⟩ := arm_of_shared now armed
    rw [eq]
    exact size_setCircuit ..
  · obtain ⟨delay, due, eq⟩ := arm_of_threads now armed
    rw [eq]
    exact size_setCircuit ..

theorem circuit_arm_of_ne {id other : CircuitId} (h : id ≠ other) :
    (w.arm id now).circuit other = w.circuit other := by
  rcases armed : w.alarmFor id (w.episode id) with _ | ⟨_ | _, a⟩
  · rw [arm_of_none now armed]
  · obtain ⟨delay, eq⟩ := arm_of_shared now armed
    rw [eq]
    exact circuit_setEpisode_of_ne _ _ h
  · obtain ⟨delay, due, eq⟩ := arm_of_threads now armed
    rw [eq]
    exact circuit_setEpisode_of_ne _ _ h

theorem circuit_arm_self {id : CircuitId} (h : id < w.circuits.size)
    (fresh : (w.episode id).timer = none) :
    (w.arm id now).circuit id = { w.circuit id with
      episode := { w.episode id with timer := w.timerFor id (w.episode id) } } := by
  rcases armed : w.alarmFor id (w.episode id) with _ | ⟨_ | _, a⟩
  · have same : w.episode id = { w.episode id with timer := none } := by rw [← fresh]
    rw [arm_of_none now armed, timerFor, armed, Option.map_none, ← same]
    rfl
  · obtain ⟨delay, eq⟩ := arm_of_shared now armed
    rw [eq, timerFor, armed]
    exact circuit_setEpisode_self _ _ h
  · obtain ⟨delay, due, eq⟩ := arm_of_threads now armed
    rw [eq, timerFor, armed]
    exact circuit_setEpisode_self _ _ h

theorem mem_waiting_arm {source : TimerSource} {t : Nat × Alarm} :
    t ∈ (w.arm id now).waiting source ↔ t ∈ w.waiting source ∨
      w.alarmFor id (w.episode id) = some (source, t.2) ∧ t.1 = w.nextHandle source := by
  rcases armed : w.alarmFor id (w.episode id) with _ | ⟨_ | _, a⟩
  · rw [arm_of_none now armed]
    simp
  · obtain ⟨delay, eq⟩ := arm_of_shared now armed
    rw [eq]
    cases source with
    | shared =>
      simp [waiting, setEpisode, setCircuit, Timers.pending_schedule, nextHandle, Prod.ext_iff,
        and_comm, eq_comm]
    | threads => simp [waiting, setEpisode, setCircuit]
  · obtain ⟨delay, due, eq⟩ := arm_of_threads now armed
    rw [eq]
    cases source with
    | shared => simp [waiting, setEpisode, setCircuit]
    | threads =>
      simp [waiting, setEpisode, setCircuit, Timers.pending_schedule, nextHandle, Prod.ext_iff,
        and_comm, eq_comm]

theorem nextHandle_arm (source : TimerSource) :
    (w.arm id now).nextHandle source = w.nextHandle source +
      if (w.alarmFor id (w.episode id)).map Prod.fst = some source then 1 else 0 := by
  rcases armed : w.alarmFor id (w.episode id) with _ | ⟨_ | _, a⟩
  · rw [arm_of_none now armed]
    rfl
  · obtain ⟨delay, eq⟩ := arm_of_shared now armed
    rw [eq]
    cases source with
    | shared => exact Timers.nextHandle_schedule ..
    | threads => rfl
  · obtain ⟨delay, due, eq⟩ := arm_of_threads now armed
    rw [eq]
    cases source with
    | shared => rfl
    | threads => exact Timers.nextHandle_schedule ..

theorem isCancelled_arm (source : TimerSource) (handle : Nat) :
    (w.arm id now).isCancelled source handle = w.isCancelled source handle := by
  rcases armed : w.alarmFor id (w.episode id) with _ | ⟨_ | _, a⟩
  · rw [arm_of_none now armed]
  · obtain ⟨delay, eq⟩ := arm_of_shared now armed
    rw [eq]
    cases source with
    | shared => exact Timers.isCancelled_schedule ..
    | threads => rfl
  · obtain ⟨delay, due, eq⟩ := arm_of_threads now armed
    rw [eq]
    cases source with
    | shared => rfl
    | threads => exact Timers.isCancelled_schedule ..

end Arm

/-! ### Entering a state -/

/-- Puts the next episode of a circuit in the place of the current one, with its timers. -/
def enter (w : World γ) (id : CircuitId) (target : State) (wait : Duration) (manual : Bool) :
    World γ :=
  let e := w.episode id
  let now := w.reading id
  (w.succeed id (Episode.phaseOf (w.circuit id).settings target now wait)
    (Episode.attemptsOnEntry e.state e.attempts target manual) now manual).arm id now

/-- The episode that follows at a circuit when it enters a state. -/
def nextEpisode (w : World γ) (id : CircuitId) (target : State) (wait : Duration) (manual : Bool) :
    Episode :=
  (w.episode id).next (w.circuit id).settings (w.reading id) target wait manual

section Enter

variable (w : World γ) (id : CircuitId) (target : State) (wait : Duration) (manual : Bool)

theorem succeed_eq :
    w.succeed id (Episode.phaseOf (w.circuit id).settings target (w.reading id) wait)
      (Episode.attemptsOnEntry (w.episode id).state (w.episode id).attempts target manual)
      (w.reading id) manual
      = (w.setEpisode id (w.nextEpisode id target wait manual)).disarm id (w.episode id) := by
  simp only [succeed, Episode.phaseOf_state]
  rfl

/-- The next episode in its place, with the timer of the old one cancelled. -/
private def replaced : World γ :=
  (w.setEpisode id (w.nextEpisode id target wait manual)).disarm id (w.episode id)

private theorem enter_eq_arm :
    w.enter id target wait manual = (w.replaced id target wait manual).arm id (w.reading id) := by
  rw [enter, succeed_eq]
  rfl

private theorem size_replaced :
    (w.replaced id target wait manual).circuits.size = w.circuits.size := by
  rw [replaced, disarm_eq]
  exact size_setCircuit ..

variable {id} in
private theorem circuit_replaced_self (h : id < w.circuits.size) :
    (w.replaced id target wait manual).circuit id
      = { w.circuit id with episode := w.nextEpisode id target wait manual } := by
  rw [replaced, circuit_disarm, circuit_setEpisode_self w _ h]

variable {id} in
private theorem alarmFor_replaced (h : id < w.circuits.size) (e : Episode) :
    (w.replaced id target wait manual).alarmFor id e = w.alarmFor id e := by
  rw [alarmFor, alarmFor, circuit_replaced_self w target wait manual h]

private theorem nextHandle_replaced (source : TimerSource) :
    (w.replaced id target wait manual).nextHandle source = w.nextHandle source := by
  rw [replaced, nextHandle_disarm]
  cases source with
  | shared | threads => rfl

private theorem waiting_replaced (source : TimerSource) :
    (w.replaced id target wait manual).waiting source = w.waiting source := by
  rw [replaced, waiting_disarm]
  cases source with
  | shared | threads => rfl

theorem enter_of_size_le {id : CircuitId} (h : w.circuits.size ≤ id) :
    w.enter id target wait manual = w := by
  have placeless : (w.circuit id).timerSource = none := by rw [circuit_of_size_le w h]; rfl
  rw [enter_eq_arm, replaced, setEpisode_of_size_le w _ h, disarm_of_none _ placeless]
  exact arm_of_none _ (alarmFor_eq_none (.inl placeless))

theorem enter_eq : w.enter id target wait manual = { w with
    timers := (w.enter id target wait manual).timers
    threads := (w.enter id target wait manual).threads
    circuits := (w.enter id target wait manual).circuits } := by
  rw [enter_eq_arm, arm_eq, replaced, disarm_eq]
  rfl

theorem clock_enter : (w.enter id target wait manual).clock = w.clock := by
  rw [enter_eq]

theorem elapsed_enter : (w.enter id target wait manual).elapsed = w.elapsed := by
  rw [enter_eq]

theorem handles_enter : (w.enter id target wait manual).handles = w.handles := by
  rw [enter_eq]

theorem journal_enter : (w.enter id target wait manual).journal = w.journal := by
  rw [enter_eq]

theorem guest_enter : (w.enter id target wait manual).guest = w.guest := by
  rw [enter_eq]

theorem size_enter : (w.enter id target wait manual).circuits.size = w.circuits.size := by
  rw [enter_eq_arm, size_arm, size_replaced]

theorem circuit_enter_of_ne {id other : CircuitId} (h : id ≠ other) :
    (w.enter id target wait manual).circuit other = w.circuit other := by
  rw [enter_eq_arm, circuit_arm_of_ne _ _ h, replaced, circuit_disarm,
    circuit_setEpisode_of_ne w _ h]

theorem circuit_enter_self {id : CircuitId} (h : id < w.circuits.size) :
    (w.enter id target wait manual).circuit id = { w.circuit id with
      episode := { w.nextEpisode id target wait manual with
        timer := w.timerFor id (w.nextEpisode id target wait manual) } } := by
  have self := circuit_replaced_self w target wait manual h
  have current : (w.replaced id target wait manual).episode id
      = w.nextEpisode id target wait manual := by rw [episode, self]
  have fresh : (w.nextEpisode id target wait manual).timer = none := Episode.next_timer ..
  rw [enter_eq_arm, circuit_arm_self _ _ (by rwa [size_replaced]) (by rwa [current]), self, current,
    timerFor, timerFor, alarmFor_replaced w target wait manual h]
  simp only [nextHandle_replaced]

/-- Nothing of a circuit changes but its episode. -/
theorem circuit_enter (other : CircuitId) : ∃ e : Episode,
    (w.enter id target wait manual).circuit other = { w.circuit other with episode := e } := by
  by_cases same : id = other
  · subst same
    by_cases h : id < w.circuits.size
    · exact ⟨_, circuit_enter_self w target wait manual h⟩
    · exact ⟨_, by rw [enter_of_size_le w target wait manual (Nat.le_of_not_lt h)]⟩
  · exact ⟨_, circuit_enter_of_ne w target wait manual same⟩

theorem roster_enter (other : CircuitId) :
    ((w.enter id target wait manual).circuit other).roster = (w.circuit other).roster := by
  obtain ⟨e, circuit⟩ := w.circuit_enter id target wait manual other
  rw [circuit]

theorem mem_waiting_enter {id : CircuitId} (h : id < w.circuits.size) {source : TimerSource}
    {t : Nat × Alarm} :
    t ∈ (w.enter id target wait manual).waiting source ↔ t ∈ w.waiting source ∨
      w.alarmFor id (w.nextEpisode id target wait manual) = some (source, t.2) ∧
        t.1 = w.nextHandle source := by
  rw [enter_eq_arm, mem_waiting_arm, waiting_replaced, nextHandle_replaced,
    alarmFor_replaced w target wait manual h, episode, circuit_replaced_self w target wait manual h]

theorem nextHandle_enter {id : CircuitId} (h : id < w.circuits.size) (source : TimerSource) :
    (w.enter id target wait manual).nextHandle source = w.nextHandle source +
      if (w.alarmFor id (w.nextEpisode id target wait manual)).map Prod.fst = some source
        then 1 else 0 := by
  rw [enter_eq_arm, nextHandle_arm, nextHandle_replaced, alarmFor_replaced w target wait manual h,
    episode, circuit_replaced_self w target wait manual h]

theorem isCancelled_enter (source : TimerSource) (handle : Nat) :
    (w.enter id target wait manual).isCancelled source handle
      = (w.isCancelled source handle || decide (((w.circuit id).timerSource = some source ∧
          (w.episode id).timer = some handle) ∧ handle < w.nextHandle source)) := by
  rw [enter_eq_arm, isCancelled_arm, replaced, isCancelled_disarm]
  have place : ((w.setEpisode id (w.nextEpisode id target wait manual)).circuit id).timerSource
      = (w.circuit id).timerSource := by
    rw [circuit_setEpisode]
    split
    · rfl
    · rfl
  rw [place]
  cases source with
  | shared | threads => rfl

/-- The timer that an episode of a circuit leaves among the timers of the world, under a handle. -/
def timerLeft (w : World γ) (id : CircuitId) (e : Episode) (handle : Nat) : Option (Timer Alarm) :=
  match (w.circuit id).timerSource, e.timeout? (w.circuit id).settings with
  | some .shared, some (due, target) =>
    some ⟨handle, Duration.ofNanos (due - e.enteredAt), ⟨id, e.number, target⟩⟩
  | _, _ => none

variable {w id} in
theorem timerLeft_eq_some {e : Episode} {handle : Nat} {t : Timer Alarm} :
    w.timerLeft id e handle = some t ↔ (w.circuit id).timerSource = some .shared ∧
      ∃ due goal, e.timeout? (w.circuit id).settings = some (due, goal) ∧
        t = ⟨handle, Duration.ofNanos (due - e.enteredAt), ⟨id, e.number, goal⟩⟩ := by
  rw [timerLeft]
  cases (w.circuit id).timerSource with
  | none => simp
  | some source =>
    cases source with
    | threads => simp
    | shared =>
      cases e.timeout? (w.circuit id).settings with
      | none => simp
      | some ending =>
        obtain ⟨due, goal⟩ := ending
        simp only [Option.some.injEq, Prod.mk.injEq, true_and]
        constructor
        · rintro rfl
          exact ⟨due, goal, ⟨rfl, rfl⟩, rfl⟩
        · rintro ⟨_, _, ⟨rfl, rfl⟩, rfl⟩
          rfl

/-- **The timers that wait** once a state was entered: the same as before, and that of the episode
that begins. -/
theorem pending_enter {id : CircuitId} (h : id < w.circuits.size) :
    (w.enter id target wait manual).timers.pending = w.timers.pending ++
      (w.timerLeft id (w.nextEpisode id target wait manual) w.timers.nextHandle).toList := by
  have self := circuit_replaced_self w target wait manual h
  have current : (w.replaced id target wait manual).episode id
      = w.nextEpisode id target wait manual := by rw [episode, self]
  have entered : (w.nextEpisode id target wait manual).enteredAt = w.reading id :=
    Episode.next_enteredAt ..
  have before : (w.replaced id target wait manual).timers.pending = w.timers.pending := by
    rw [replaced]
    unfold disarm
    split
    case h_1 | h_2 | h_3 => rfl
  have handle : (w.replaced id target wait manual).timers.nextHandle = w.timers.nextHandle :=
    nextHandle_replaced w id target wait manual .shared
  rw [enter_eq_arm]
  cases left : w.timerLeft id (w.nextEpisode id target wait manual) w.timers.nextHandle with
  | none =>
    have idle : ∀ a, w.alarmFor id (w.nextEpisode id target wait manual) ≠ some (.shared, a) := by
      intro a armed
      obtain ⟨place, -, -, due, timeout⟩ := alarmFor_eq_some.mp armed
      have leaves : w.timerLeft id (w.nextEpisode id target wait manual) w.timers.nextHandle
          = some _ := timerLeft_eq_some.mpr ⟨place, due, a.target, timeout, rfl⟩
      rw [left] at leaves
      cases leaves
    rcases armed : w.alarmFor id (w.nextEpisode id target wait manual) with _ | ⟨_ | _, a⟩
    · rw [arm_of_none _ (by rw [current, alarmFor_replaced w target wait manual h, armed]), before]
      exact (List.append_nil _).symm
    · exact absurd armed (idle a)
    · obtain ⟨delay, due, eq⟩ := arm_of_threads (w.reading id)
        ((congrArg _ current).trans ((alarmFor_replaced w target wait manual h _).trans armed))
      rw [eq]
      exact before.trans (List.append_nil _).symm
  | some t =>
    obtain ⟨place, due, goal, timeout, rfl⟩ := timerLeft_eq_some.mp left
    rw [arm_of_timeout (w.reading id) (by rw [self]; exact place)
      (by rw [current, self]; exact timeout)]
    show (Timers.schedule _ _ _).pending = _
    rw [Timers.pending_schedule, before, handle, current, entered]
    rfl

/-- A change of state enters it and logs that. -/
theorem change_eq :
    w.change id (Episode.phaseOf (w.circuit id).settings target (w.reading id) wait)
      (Episode.attemptsOnEntry (w.episode id).state (w.episode id).attempts target manual)
      (w.reading id) manual
      = (w.enter id target wait manual).log id (.transition ⟨(w.episode id).state, target⟩
          (Episode.attemptsOnEntry (w.episode id).state (w.episode id).attempts target manual)
          ((w.reading id - (w.episode id).enteredAt) / nanosPerMilli) manual) := by
  simp only [change, Episode.phaseOf_state]
  rfl

/-- A reset enters the closed state by hand. -/
theorem reset_eq :
    w.succeed id .closed 0 (w.reading id) true = w.enter id .closed wait true := by
  by_cases h : id < w.circuits.size
  · have idle : w.alarmFor id (w.nextEpisode id .closed wait true) = none :=
      alarmFor_eq_none (.inr rfl)
    have current : (w.replaced id .closed wait true).episode id
        = w.nextEpisode id .closed wait true := by
      rw [episode, circuit_replaced_self w .closed wait true h]
    rw [enter_eq_arm, arm_of_none _ (by rw [current, alarmFor_replaced w .closed wait true h, idle])]
    exact succeed_eq w id .closed wait true
  · have beyond := Nat.le_of_not_lt h
    have placeless : (w.circuit id).timerSource = none := by rw [circuit_of_size_le w beyond]; rfl
    rw [enter_of_size_le w _ _ _ beyond, succeed, setEpisode_of_size_le w _ beyond,
      disarm_of_none _ placeless]

end Enter

-- from here on a change of episode is known by the lemmas above alone
attribute [irreducible] enter

end Breaker.World

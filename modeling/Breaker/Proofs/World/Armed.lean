import Breaker.Proofs.Episode.Attempts
import Breaker.Proofs.World.Tidy
import Breaker.Proofs.World.Traced

/-!
# Armed — stays that a timer ends have one

An episode that times out leaves a timer among those of the world, with the time from its entry to its
end (`World.Armed`).  While timers are being run those of a batch are in no queue, and consumers that are
told of a change may drop, force and reset circuits and run timers themselves.  So what acts keep to is
said of two worlds: a circuit is armed after an act, or it was not armed before and its episode did not
change (`World.Tends`).  Running timers as a whole arms again what the batch took
(`yields_runBatch_tends`): each timer that is not cancelled ends the episode that left it.

`Tending` is the class of acts that tend, whoever listens, as long as the reactions of those who listen
tend.  It takes every act on circuits and timers in, as long as no wait function gives up.
-/

namespace Breaker

variable {γ α β : Type}

namespace Episode

variable {s : Settings} {e e' : Episode}

/-- An open stay times out only where it is probed on a timer. -/
theorem timeout_of_opened {retryAt : Nat} (phase : e.phase = .opened retryAt) :
    e.timeout? s = if s.probesOnTimer then some (retryAt, .halfOpen) else none := by
  rw [timeout?, phase]

/-- A trial ends at its limit, counted from its entry, unless there is none. -/
def EndsAtLimit (s : Settings) (e : Episode) : Prop :=
  e.state = .halfOpen → e.timeout? s = if s.trialLimit.isZero then none
    else some (later e.enteredAt s.trialLimit.word, .opened)

/-- A stay that is open and not probed, or half open and not limited, or neither, times out never. -/
theorem EndsAtLimit.timeout_eq_none (h : EndsAtLimit s e)
    (noWait : ¬(e.state = .opened ∧ s.probesOnTimer = true))
    (noLimit : ¬(e.state = .halfOpen ∧ s.trialLimit.isZero = false)) : e.timeout? s = none := by
  rcases timeout : e.timeout? s with _ | ⟨due, goal⟩
  · rfl
  obtain ⟨state, -⟩ | ⟨state, -⟩ := timeout_eq timeout
  · obtain ⟨retryAt, phase⟩ := phase_of_opened state
    rw [timeout_of_opened phase, if_neg fun probes => noWait ⟨state, probes⟩] at timeout
    cases timeout
  · have unlimited : s.trialLimit.isZero = true := by
      by_contra limited
      exact noLimit ⟨state, Bool.eq_false_of_not_eq_true limited⟩
    rw [h state, if_pos unlimited] at timeout
    cases timeout

theorem EndsAtLimit.keeps (h : EndsAtLimit s e) (keeps : Keeps s e e') : EndsAtLimit s e' := by
  intro state
  rw [keeps.state] at state
  rw [keeps.timeout, keeps.enteredAt]
  exact h state

theorem endsAtLimit_next (e : Episode) (now : Nat) (target : State) (wait : Duration) (manual : Bool)
    (timer : Option Nat) : EndsAtLimit s { e.next s now target wait manual with timer := timer } := by
  intro trial
  obtain rfl : target = .halfOpen := (next_state target wait manual).symm.trans trial
  show (e.next s now .halfOpen wait manual).timeout? s = if s.trialLimit.isZero then none
    else some (later (e.next s now .halfOpen wait manual).enteredAt s.trialLimit.word, .opened)
  rw [next_enteredAt, timeout?, next_phase, phaseOf]
  cases s.trialLimit.isZero with
  | true | false => rfl

end Episode

namespace World

variable {w w' w₁ w₂ w₃ : World γ} {id : CircuitId}

/-- **Every move** lets trials end at their limits. -/
theorem Move.endsAtLimit (h : Move w w')
    (ends : ∀ id, (w.episode id).EndsAtLimit (w.circuit id).settings) (id : CircuitId) :
    (w'.episode id).EndsAtLimit (w'.circuit id).settings := by
  rcases h.kinds with minor | ⟨other, target, wait, manual, minor⟩ | ⟨b, c, built, rfl⟩
  · rw [minor.alike.settings]
    exact (ends id).keeps (minor.alike.keeps id)
  · have entered : ((w.enter other target wait manual).episode id).EndsAtLimit
        ((w.enter other target wait manual).circuit id).settings := by
      by_cases there : other < w.circuits.size
      · by_cases same : other = id
        · subst same
          rw [episode_enter_self there, circuit_enter_self w _ _ _ there]
          exact Episode.endsAtLimit_next _ _ target wait manual _
        · rw [episode_enter_of_ne same, circuit_enter_of_ne w _ _ _ same]
          exact ends id
      · rw [enter_of_size_le w _ _ _ (Nat.le_of_not_lt there)]
        exact ends id
    rw [minor.alike.settings]
    exact entered.keeps (minor.alike.keeps id)
  · by_cases new : id = w.circuits.size
    · subst new
      rw [episode, circuit_addCircuit_self, (Blueprint.build_ok built).2]
      intro trial
      cases trial
    · rw [episode, circuit_addCircuit_of_ne w c new]
      exact ends id

theorem Reachable.endsAtLimit (h : Reachable w) (id : CircuitId) :
    (w.episode id).EndsAtLimit (w.circuit id).settings := by
  obtain ⟨start, dice, guest, reaches⟩ := h
  refine reaches.preserves (P := fun w => ∀ id, (w.episode id).EndsAtLimit (w.circuit id).settings)
    (fun _ _ move => move.endsAtLimit) (fun id trial => ?_) id
  cases trial

/-- If the current episode of a circuit leaves a timer among those of the world, the episode holds that
timer, and it waits. -/
def Armed (w : World γ) (id : CircuitId) : Prop :=
  ∀ t₀, w.timerLeft id (w.episode id) 0 = some t₀ → ∃ t ∈ w.timers.pending,
    (w.episode id).timer = some t.handle ∧ w.timerLeft id (w.episode id) t.handle = some t

/-- No wait function gives up. -/
def Waits (w : World γ) : Prop := ∀ id cause, ¬(w.circuit id).settings.WaitFails cause

/-- What an episode leaves was settled when it was entered. -/
theorem Alike.timerLeft (h : Alike w w') (id : CircuitId) (handle : Nat) :
    w'.timerLeft id (w'.episode id) handle = w.timerLeft id (w.episode id) handle := by
  have keeps := h.keeps id
  rw [World.timerLeft, World.timerLeft, h.timerSource, h.settings, keeps.timeout, keeps.enteredAt,
    keeps.number]

theorem Alike.armed (h : Alike w w') (pending : w'.timers.pending = w.timers.pending) :
    w'.Armed id ↔ w.Armed id := by
  simp only [Armed, h.timerLeft, pending, (h.keeps id).timer]

/-- **Entering a state arms the circuit.** -/
theorem armed_enter (w : World γ) (id : CircuitId) (target : State) (wait : Duration)
    (manual : Bool) : (w.enter id target wait manual).Armed id := by
  by_cases there : id < w.circuits.size
  · have self := circuit_enter_self w target wait manual there
    have left (handle : Nat) : (w.enter id target wait manual).timerLeft id
        ((w.enter id target wait manual).episode id) handle
        = w.timerLeft id (w.nextEpisode id target wait manual) handle := by
      rw [timerLeft, timerLeft, episode_enter_self there, self]
      rfl
    intro t₀ leaves
    rw [left] at leaves
    obtain ⟨place, due, goal, timeout, -⟩ := timerLeft_eq_some.mp leaves
    obtain ⟨t, next, handle⟩ : ∃ t, w.timerLeft id (w.nextEpisode id target wait manual)
        w.timers.nextHandle = some t ∧ t.handle = w.timers.nextHandle :=
      ⟨_, timerLeft_eq_some.mpr ⟨place, due, goal, timeout, rfl⟩, rfl⟩
    refine ⟨t, ?_, ?_, by rw [left, handle, next]⟩
    · rw [pending_enter w _ _ _ there, next]
      exact List.mem_append_right _ (List.mem_singleton_self _)
    · rw [episode_enter_self there, handle]
      have alarm : w.alarmFor id (w.nextEpisode id target wait manual)
          = some (.shared, ⟨id, (w.nextEpisode id target wait manual).number, goal⟩) :=
        alarmFor_eq_some.mpr ⟨place, rfl, rfl, due, timeout⟩
      exact timerFor_eq_some.mpr ⟨_, _, alarm, rfl⟩
  · rw [enter_of_size_le w _ _ _ (Nat.le_of_not_lt there)]
    intro t₀ leaves
    obtain ⟨place, -⟩ := timerLeft_eq_some.mp leaves
    rw [circuit_of_size_le w (Nat.le_of_not_lt there)] at place
    cases place

/-- The other circuits stay armed. -/
theorem Armed.enter_of_ne (armed : w.Armed id) {other : CircuitId} (ne : other ≠ id) (target : State)
    (wait : Duration) (manual : Bool) : (w.enter other target wait manual).Armed id := by
  by_cases there : other < w.circuits.size
  · have left (handle : Nat) : (w.enter other target wait manual).timerLeft id
        ((w.enter other target wait manual).episode id) handle
        = w.timerLeft id (w.episode id) handle := by
      rw [timerLeft, timerLeft, episode_enter_of_ne ne, circuit_enter_of_ne w _ _ _ ne]
    intro t₀ leaves
    rw [left] at leaves
    obtain ⟨t, mem, timer, same⟩ := armed t₀ leaves
    refine ⟨t, ?_, by rwa [episode_enter_of_ne ne], (left _).trans same⟩
    rw [pending_enter w _ _ _ there]
    exact List.mem_append_left _ mem
  · rwa [enter_of_size_le w _ _ _ (Nat.le_of_not_lt there)]

/-- **A circuit that is armed** has exactly the timer of its stay among those that can still go off. -/
theorem Armed.live (armed : w.Armed id) (sound : w.Sound) (tidy : w.Tidy)
    (place : (w.circuit id).timerSource = some .shared) {due : Nat} {goal : State}
    (timeout : (w.episode id).timeout? (w.circuit id).settings = some (due, goal)) :
    ∃ t, w.timers.live.filter (·.task.circuit = id) = [t] ∧
      t.task = ⟨id, (w.episode id).number, goal⟩ ∧
      t.delay = Duration.ofNanos (due - (w.episode id).enteredAt) := by
  obtain ⟨t, mem, -, left⟩ := armed _ (timerLeft_eq_some.mpr ⟨place, due, goal, timeout, rfl⟩)
  obtain ⟨-, due', goal', timeout', eq⟩ := timerLeft_eq_some.mp left
  obtain ⟨rfl, rfl⟩ := Prod.mk.inj (Option.some.inj (timeout.symm.trans timeout'))
  have own : t.task.circuit = id := by rw [eq]
  have current : t.task.episode = (w.episode t.task.circuit).number := by rw [eq]
  refine ⟨t, ?_, by rw [eq], by rw [eq]⟩
  rw [← own]
  exact live_of_circuit sound tidy ((mem_live_iff sound tidy).mpr ⟨mem, current⟩)

/-- A circuit whose stay never times out has none. -/
theorem live_of_timeout_eq_none (sound : w.Sound) (tidy : w.Tidy)
    (timeout : (w.episode id).timeout? (w.circuit id).settings = none) :
    w.timers.live.filter (·.task.circuit = id) = [] := by
  rw [List.filter_eq_nil_iff]
  intro t live own
  obtain rfl : t.task.circuit = id := of_decide_eq_true own
  obtain ⟨-, -, due, timeout'⟩ := held_of_live sound tidy live
  rw [timeout] at timeout'
  cases timeout'

/-- What acts keep to: a circuit is armed after an act, unless it was not armed before and the act left
its episode as it was. -/
structure Tends (w w' : World γ) : Prop where
  reaches : w.Reaches w'
  size : w'.circuits.size = w.circuits.size
  settings : ∀ id, (w'.circuit id).settings = (w.circuit id).settings
  /-- Only a circuit that is held can be cloned. -/
  held : ∀ id, w'.isHeld id = true → w.isHeld id = true
  armed : ∀ id, w'.isHeld id = true →
    w'.Armed id ∨ (w'.episode id).number = (w.episode id).number ∧ ¬w.Armed id

namespace Tends

theorem sound (h : Tends w w') : w.Sound → w'.Sound := h.reaches.sound

theorem waits (h : Tends w w') (waits : w.Waits) : w'.Waits := by
  intro id cause
  rw [h.settings]
  exact waits id cause

theorem trans (h : Tends w₁ w₂) (h' : Tends w₂ w₃) : Tends w₁ w₃ where
  reaches := h.reaches.trans h'.reaches
  size := h'.size.trans h.size
  settings := fun id => (h'.settings id).trans (h.settings id)
  held := fun id held => h.held id (h'.held id held)
  armed := by
    intro id held
    rcases h'.armed id held with armed | ⟨same', idle'⟩
    · exact .inl armed
    · rcases h.armed id (h'.held id held) with armed | ⟨same, idle⟩
      · exact absurd armed idle'
      · exact .inr ⟨same'.trans same, idle⟩

/-- The timers that wait and the stays in a state are as they were. -/
theorem of_alike (reaches : w.Reaches w') (alike : Alike w w')
    (pending : w'.timers.pending = w.timers.pending)
    (held : ∀ id, w'.isHeld id = true → w.isHeld id = true) : Tends w w' where
  reaches := reaches
  size := alike.size
  settings := alike.settings
  held := held
  armed := by
    intro id _
    by_cases armed : w.Armed id
    · exact .inl ((alike.armed pending).mpr armed)
    · exact .inr ⟨(alike.keeps id).number, armed⟩

theorem aside (h : w.Aside w') : Tends w w' :=
  .of_alike h.reaches h.alike (by rw [h.timers]) fun id held => by
    rwa [isHeld, h.handles] at held

theorem refl (w : World γ) : Tends w w := aside (.refl w)

theorem write (w : World γ) {entry : Entry} (h : entry.IsAside) : Tends w (w.write entry) :=
  aside (.write w h)

theorem time (w : World γ) (clock : Clock) (elapsed : Nat) :
    Tends w { w with clock := clock, elapsed := elapsed } :=
  .of_alike (Move.time w clock elapsed).reaches (.of_circuits rfl rfl rfl) rfl fun _ held => held

theorem enrol (w : World γ) (id : CircuitId) (roster : Roster ConsumerId) :
    Tends w (w.setCircuit id { w.circuit id with roster := roster }) :=
  .of_alike (Move.enrol w id roster).reaches (.setCircuit rfl rfl (.refl _)) rfl fun _ held => held

theorem mark (w : World γ) (id : CircuitId) {m : Mark} (stays : m.stays = true) : Tends w
    (w.setEpisode id ((w.episode id).after (w.circuit id).settings (w.reading id) m)) :=
  .of_alike (Move.mark w id m stays).reaches (.setCircuit rfl rfl (Episode.keeps_after stays _)) rfl
    fun _ held => held

/-- A mark as a function of the episode. -/
theorem modifyEpisode (w : World γ) {id : CircuitId} {m : Mark} (stays : m.stays = true)
    {f : Episode → Episode}
    (eq : (w.episode id).after (w.circuit id).settings (w.reading id) m = f (w.episode id)) :
    Tends w (w.modifyEpisode id f) := by
  rw [modifyEpisode_eq, ← eq]
  exact mark w id stays

/-- A state is entered, and that is logged. -/
theorem entered {target : State} {wait : Duration} {manual : Bool} {record : LogRecord}
    (reaches : w.Reaches ((w.enter id target wait manual).log id record)) :
    Tends w ((w.enter id target wait manual).log id record) where
  reaches := reaches
  size := size_enter ..
  settings := fun other => by
    obtain ⟨e, circuit⟩ := w.circuit_enter id target wait manual other
    rw [circuit_log, circuit]
  held := fun other held => by
    rwa [isHeld, World.log, World.write, handles_enter] at held
  armed := by
    intro other _
    by_cases same : id = other
    · subst same
      exact .inl (w.armed_enter id target wait manual)
    · by_cases armed : w.Armed other
      · exact .inl (armed.enter_of_ne same target wait manual)
      · refine .inr ⟨?_, armed⟩
        rw [episode, circuit_log, circuit_enter_of_ne w _ _ _ same, episode]

end Tends

end World

open World (Tends)

/-- An act that tends, and gives up only for some causes; unless the steps allowed were used up it tends
then as well. -/
def Tending (causes : Abort → Prop) (x : Act γ α) : Prop :=
  ∀ w : World γ, w.Sound → w.Waits → Yields x w (fun _ after => w.Tends after)
    fun cause after => causes cause ∧ (cause ≠ .unsettled → w.Tends after)

/-- Consumers whose reactions tend. -/
def TendingReact (react : React γ) : Prop :=
  ∀ consumer name event, Tending (fun _ => True) (react consumer name event)

variable {causes : Abort → Prop} {x : Act γ α} {w₀ w : World γ}

namespace Tending

/-- An act in the middle of another. -/
theorem mid (h : Tending causes x) (led : w₀.Tends w) (sound : w₀.Sound) (waits : w₀.Waits)
    {ok : α → World γ → Prop} (answered : ∀ b after, w.Tends after → w₀.Tends after → ok b after) :
    Yields x w ok fun cause after => causes cause ∧ (cause ≠ .unsettled → w₀.Tends after) :=
  (h w (led.sound sound) (led.waits waits)).mono
    (fun b after more => answered b after more (led.trans more))
    fun _ _ gaveUp => ⟨gaveUp.1, fun settled => led.trans (gaveUp.2 settled)⟩

theorem weaken {causes' : Abort → Prop} (h : Tending causes x)
    (more : ∀ cause, causes cause → causes' cause) : Tending causes' x := fun w sound waits =>
  (h w sound waits).mono (fun _ _ led => led) fun _ _ gaveUp => ⟨more _ gaveUp.1, gaveUp.2⟩

theorem pure (b : α) : Tending causes (pure b : Act γ α) := by
  intro w _ _
  rw [yields_pure]
  exact .refl w

theorem throw {cause : Abort} (gaveUp : causes cause) : Tending causes (throw cause : Act γ α) := by
  intro w _ _
  rw [yields_throw]
  exact ⟨gaveUp, fun _ => .refl w⟩

theorem get : Tending causes (get : Act γ (World γ)) := by
  intro w _ _
  rw [yields_get]
  exact .refl w

theorem modify {f : World γ → World γ} (h : ∀ w : World γ, w.Tends (f w)) :
    Tending causes (modify f : Act γ PUnit) := by
  intro w _ _
  rw [yields_modify]
  exact h w

theorem bind (h : Tending causes x) {f : α → Act γ β} (h' : ∀ b, Tending causes (f b)) :
    Tending causes (x >>= f) := by
  intro w sound waits
  rw [yields_bind]
  exact h.mid (.refl w) sound waits fun b after _ led =>
    (h' b).mid led sound waits fun _ _ _ led => led

theorem ite {c : Prop} [Decidable c] {y : Act γ α} (h : Tending causes x) (h' : Tending causes y) :
    Tending causes (if c then x else y) := by
  split
  · exact h
  · exact h'

end Tending

section Acts

variable {react : React γ} {id : CircuitId}

/-! ### Publishing -/

theorem tending_isolated {act : Act γ Unit} (h : Tending (fun _ => True) act) (subscription : Nat) :
    Tending (· = .unsettled) (isolated id subscription act) := by
  intro w sound waits
  have reaction := h w sound waits
  unfold Yields at reaction ⊢
  unfold isolated
  cases result : act w with
  | ok _ after =>
    rw [result] at reaction
    exact reaction
  | error cause after =>
    rw [result] at reaction
    have logged (settled : cause ≠ .unsettled) :
        w.Tends (after.log id (.consumerAborted subscription)) :=
      (reaction.2 settled).trans (.write after fun _ => rfl)
    cases cause with
    | unsettled => exact ⟨rfl, fun settled => absurd rfl settled⟩
    | predicate | noWait | unshown | consumer | task | emptyWindow => exact logged nofun

variable (tending : TendingReact react)
include tending

theorem tending_tellEach (name : String) (event : Event)
    (subscriptions : List (Subscription ConsumerId)) :
    Tending (· = .unsettled) (tellEach react id name event subscriptions) := by
  induction subscriptions with
  | nil => exact .pure ()
  | cons s rest ih => exact .bind (tending_isolated (tending _ _ _) _) fun _ => ih

theorem tending_publish (event : Event) : Tending (· = .unsettled) (publish react id event) :=
  .bind (.modify fun w => .write w fun _ => rfl) fun _ => .bind .get fun _ =>
    tending_tellEach tending _ _ _

theorem tending_publishCall (state : State) (event : Event) :
    Tending (· = .unsettled) (publishCall react id state (pure event)) := by
  rw [publishCall_pure]
  exact .ite (tending_publish tending event) (.pure ())

theorem tending_publishBreach (rates : Rates) :
    Tending (· = .unsettled) (publishBreach react id rates) := by
  have slow (s : Settings) : Tending (· = .unsettled)
      (if rates.slow.reaches s.slowCallRateThreshold then
        publish react id (.slowCallRateExceeded rates.slow) else pure () : Act γ Unit) :=
    .ite (tending_publish tending _) (.pure ())
  refine .bind .get fun w => ?_
  dsimp only
  split
  · exact .bind (tending_publish tending _) fun _ => slow _
  · exact slow _

theorem tending_announce (breach : Option Rates) (change : Transition) :
    Tending (· = .unsettled) (announce react id breach change) := by
  have last : Tending (· = .unsettled) (do
      publish react id (.transition change)
      return true : Act γ Bool) := .bind (tending_publish tending _) fun _ => .pure true
  unfold announce
  cases breach with
  | some rates => exact .bind (tending_publishBreach tending rates) fun _ => last
  | none => exact last

/-! ### Changes of state -/

/-- **A change of state** against an episode that was current before tends, and ends that episode. -/
theorem yields_transition_tends (sound : w.Sound) (waits : w.Waits) {ticket : Episode}
    (later : ticket.IsLater (w.episode id)) (target : State) (manual : Bool)
    (breach : Option Rates) :
    Yields (transition react id ticket target manual breach) w
      (fun _ after => w.Tends after ∧
        (id < w.circuits.size → ticket.number < (after.episode id).number))
      fun cause after => cause = .unsettled ∧ (cause ≠ .unsettled → w.Tends after) := by
  refine yields_transition_of later (fun after asked newer => ?_) (fun wait after asked number _ => ?_)
    fun cause _ _ fails _ => absurd ⟨_, _, fails⟩ (waits id cause)
  · refine ⟨.aside asked.aside, fun _ => ?_⟩
    rw [asked.aside.episode]
    exact newer
  · have turned : after.Goes id _ _ := .change after target wait manual
    have entered := (Tends.aside asked.aside).trans (.entered turned.reaches)
    refine (tending_announce tending breach _).mid entered sound waits fun _ last said led => ?_
    refine ⟨led, fun there => ?_⟩
    have course := turned.course (show id < after.circuits.size from asked.aside.circuits ▸ there)
    have next : _ = (after.episode id).number + 1 :=
      (congrArg Episode.number course.episode).trans (Episode.next_number ..)
    exact Nat.lt_of_lt_of_le (by omega) (said.reaches.isLater id).number_le

/-- A change of state against the current episode. -/
theorem tending_transition (target : State) (manual : Bool) {f : Bool → Act γ α}
    (rest : ∀ b, Tending (· = .unsettled) (f b)) (sound : w.Sound) (waits : w.Waits) :
    Yields (transition react id (w.episode id) target manual none >>= f) w
      (fun _ after => w.Tends after)
      fun cause after => cause = .unsettled ∧ (cause ≠ .unsettled → w.Tends after) := by
  rw [yields_bind]
  exact (yields_transition_tends tending sound waits (.refl _) target manual none).mono
    (fun b _ led => (rest b).mid led.1 sound waits fun _ _ _ led => led) fun _ _ gaveUp => gaveUp

theorem tending_force (target : State) : Tending (· = .unsettled) (force react id target) := by
  intro w sound waits
  unfold force
  rw [yields_bind, yields_get]
  exact tending_transition tending target true (fun _ => .pure _) sound waits

theorem tending_reset : Tending (· = .unsettled) (reset react id) := by
  intro w sound waits
  have turned : w.Goes id _ _ := .reset w .zero
  have resets : Tending (· = .unsettled) (publish react id .reset) := tending_publish tending .reset
  have announced : Tending (· = .unsettled) (do
      if (w.episode id).state ≠ .closed then
        publish react id (.transition ⟨(w.episode id).state, .closed⟩)
      publish react id .reset : Act γ Unit) := by
    dsimp only
    split
    · exact .bind (tending_publish tending _) fun _ => resets
    · exact resets
  unfold reset
  simp only [yields_bind, yields_get, yields_modify, World.reset_eq w id .zero]
  exact announced.mid (.entered turned.reaches) sound waits fun _ _ _ led => led

/-! ### Requests -/

omit tending in
theorem tending_release : Tending causes (release id : Act γ Unit) :=
  .modify fun w => .modifyEpisode w (show Mark.released.stays = true from rfl) rfl

theorem tending_refuse : Tending (· = .unsettled) (refuse react id) :=
  .bind (.modify fun w => .modifyEpisode w (show Mark.refused.stays = true from rfl) rfl) fun _ =>
    .bind .get fun _ => .bind (.modify fun w => .write w fun _ => rfl) fun _ =>
      tending_publishCall tending _ _

theorem tending_tryAcquire (tries : Nat) : Tending (· = .unsettled) (tryAcquire react id tries) := by
  induction tries with
  | zero => exact .throw rfl
  | succ tries ih =>
    intro w sound waits
    unfold tryAcquire
    simp only [yields_bind, yields_get]
    cases asked : (w.episode id).request (w.reading id) with
    | granted taken =>
      have mark : w.Tends _ := .mark w id (show Mark.granted.stays = true from rfl)
      rw [Episode.after, asked] at mark
      simp only [yields_bind, yields_set, yields_pure]
      exact mark
    | denied => exact (Tending.bind (tending_refuse tending) fun _ => .pure false) w sound waits
    | expired next => exact tending_transition tending next false (fun _ => ih) sound waits

theorem tending_acquire (tries : Nat) : Tending (· = .unsettled) (acquire react id tries) := by
  refine .bind (tending_tryAcquire tending tries) fun permitted => ?_
  dsimp only
  split
  · exact .pure _
  · exact .bind .get fun w => .pure _

/-! ### Reports -/

/-- What an outcome asked for, against the episode that recorded it. -/
theorem yields_follow_tends (led : w₀.Tends w) (sound : w₀.Sound) (waits : w₀.Waits)
    {ticket : Episode} (later : ticket.IsLater (w.episode id)) (decision : Option Decision) :
    Yields (follow react id ticket decision) w (fun _ after => w₀.Tends after)
      fun cause after => cause = .unsettled ∧ (cause ≠ .unsettled → w₀.Tends after) := by
  have moved (target : State) (breach : Option Rates) :
      Yields (do let _ ← transition react id ticket target false breach : Act γ Unit) w
        (fun _ after => w₀.Tends after)
        fun cause after => cause = .unsettled ∧ (cause ≠ .unsettled → w₀.Tends after) := by
    simp only [yields_bind, yields_pure]
    exact (yields_transition_tends tending (led.sound sound) (led.waits waits) later target false
      breach).mono (fun _ _ more => led.trans more.1)
      fun _ _ gaveUp => ⟨gaveUp.1, fun settled => led.trans (gaveUp.2 settled)⟩
  unfold follow
  cases decision with
  | none =>
    rw [yields_pure]
    exact led
  | some d =>
    cases d with
    | trip rates => exact moved .opened (some rates)
    | close => exact moved .closed none
    | tell rates =>
      have told : Tending (· = .unsettled) (do
          modify (·.log id (.exceeded rates))
          publishBreach react id rates : Act γ Unit) :=
        .bind (.modify fun w => .write w fun _ => rfl) fun _ => tending_publishBreach tending rates
      exact told.mid led sound waits fun _ _ _ led => led

/-- **An outcome**, and all that comes before its report returns. -/
theorem tending_record (o : Outcome) (event : Event) :
    Tending (· = .unsettled) (record react id o (pure event)) := by
  intro w sound waits
  have observed : w.Tends _ := .mark w id (show (Mark.recorded o).stays = true from rfl)
  rw [Episode.after] at observed
  unfold record
  simp only [yields_bind, yields_get, yields_modify, World.modifyEpisode_eq w]
  generalize w.setEpisode id ((w.episode id).observe (w.reading id) o) = w₁ at observed ⊢
  -- consumers are told while the outcome's episode may be ended by them
  have concluded {w₂ : World γ} (led : w.Tends w₂) (later : (w₁.episode id).IsLater (w₂.episode id)) :
      Yields (publishCall react id (w₁.episode id).state (pure event)) w₂
        (fun _ after => Yields (follow react id (w₁.episode id)
            ((w₁.episode id).followUp (w.circuit id).settings (w.reading id))) after
          (fun _ last => w.Tends last)
          fun cause last => cause = .unsettled ∧ (cause ≠ .unsettled → w.Tends last))
        fun cause after => cause = .unsettled ∧ (cause ≠ .unsettled → w.Tends after) :=
    (tending_publishCall tending _ _).mid led sound waits fun _ after said led =>
      yields_follow_tends tending led sound waits (later.trans (said.reaches.isLater id)) _
  split
  · have told : w₁.Tends (w₁.modifyEpisode id Episode.noteTold) :=
      .modifyEpisode w₁ (show Mark.told.stays = true from rfl) rfl
    simp only [yields_bind, yields_modify]
    exact concluded (observed.trans told) (told.reaches.isLater id)
  · simp only [yields_bind]
    exact concluded observed (.refl _)

theorem tending_ignore (event : Event) : Tending (· = .unsettled) (ignore react id (pure event)) :=
  .bind tending_release fun _ => .bind .get fun _ => tending_publishCall tending _ _

omit tending in
theorem tending_watch {y : Watched α} : Tending (fun _ => True) (watch y : Act γ α) := by
  intro w _ _
  exact yields_watch (fun _ _ _ asked => .aside asked.aside)
    fun _ _ _ asked => ⟨trivial, fun _ => .aside asked.aside⟩

theorem tending_onSuccess (d : Duration) : Tending (· = .unsettled) (onSuccess react id d) :=
  .bind .get fun _ => tending_record tending _ _

theorem tending_onError (d : Duration) (error : Value) :
    Tending (fun _ => True) (onError react id d (.plain error)) := by
  rw [onError_plain]
  refine .bind .get fun w => .bind tending_watch fun verdict => ?_
  cases verdict with
  | failure | success => exact (tending_record tending _ _).weaken fun _ _ => trivial
  | ignored => exact (tending_ignore tending _).weaken fun _ _ => trivial

theorem tending_onResult (d : Duration) (result : Value) :
    Tending (fun _ => True) (onResult react id d result) := by
  refine .bind .get fun w => .bind tending_watch fun verdict => ?_
  cases verdict with
  | failure | success => exact (tending_record tending _ _).weaken fun _ _ => trivial
  | ignored => exact (tending_ignore tending _).weaken fun _ _ => trivial

/-! ### What users note -/

omit tending in
theorem tending_noteDeal (deal : Deal) : Tending causes (noteDeal id deal : Act γ Unit) :=
  .modify fun w => .write w fun _ => rfl

theorem tending_askAndNote (tries : Nat) : Tending (· = .unsettled) (askAndNote react id tries) :=
  .bind (tending_noteDeal _) fun _ => .bind (tending_tryAcquire tending tries) fun _ =>
    .bind (tending_noteDeal _) fun _ => .pure _

theorem tending_acquireAndNote (tries : Nat) :
    Tending (· = .unsettled) (acquireAndNote react id tries) :=
  .bind (tending_noteDeal _) fun _ => .bind (tending_acquire tending tries) fun _ =>
    .bind (tending_noteDeal _) fun _ => .pure _

omit tending in
theorem tending_noteAndRelease : Tending causes (noteAndRelease id : Act γ Unit) :=
  .bind (tending_noteDeal _) fun _ => tending_release

omit tending in
theorem tending_noteAndReport {d : Duration} {r : Report} (told : Tending causes (r.tell react id d)) :
    Tending causes (noteAndReport react id d r) :=
  .bind (tending_noteDeal _) fun _ => .bind told fun _ => tending_noteDeal _

omit tending in
theorem tending_readMetrics : Tending causes (readMetrics id : Act γ Metrics) := by
  intro w _ _
  unfold readMetrics
  simp only [yields_bind, yields_get, yields_modify, yields_pure]
  exact .modifyEpisode w (show Mark.settled.stays = true from rfl) rfl

end Acts

section Alarms

variable {react : CircuitId → React γ} (tending : ∀ id, TendingReact (react id))
include tending

/-! ### Timers -/

/-- An alarm of a circuit that is there ends the episode that left it. -/
theorem yields_ring_tends (sound : w.Sound) (waits : w.Waits) (busy : List CircuitId) (a : Alarm) :
    Yields (ring react busy a) w
      (fun _ after => w.Tends after ∧ (a.circuit < w.circuits.size → w.isHeld a.circuit = true →
        a.episode = (w.episode a.circuit).number → a.episode < (after.episode a.circuit).number))
      fun cause after => cause = .unsettled ∧ (cause ≠ .unsettled → w.Tends after) := by
  unfold ring
  simp only [yields_bind, yields_get, yields_ite, yields_pure, Bool.and_eq_true, beq_iff_eq]
  split
  case isTrue both =>
    refine (yields_transition_tends (tending a.circuit) sound waits (.refl _) a.target false
      none).mono (fun _ after done => ⟨done.1, fun there _ current => ?_⟩) fun _ _ gaveUp => gaveUp
    rw [current]
    exact done.2 there
  case isFalse idle =>
    refine ⟨.refl w, fun _ held current => absurd ⟨?_, current.symm⟩ idle⟩
    rw [World.isPresent, held, Bool.true_or]

omit tending in
/-- An alarm of an episode that is over does nothing. -/
theorem yields_ring_stale (busy : List CircuitId) {a : Alarm}
    (stale : a.episode ≠ (w.episode a.circuit).number) {ok : Unit → World γ → Prop}
    {abort : Abort → World γ → Prop} (h : ok () w) : Yields (ring react busy a) w ok abort := by
  have idle : ¬(w.isPresent busy a.circuit = true ∧ (w.episode a.circuit).number = a.episode) :=
    fun both => stale both.2.symm
  unfold ring
  simp only [yields_bind, yields_get, yields_ite, yields_pure, Bool.and_eq_true, beq_iff_eq,
    if_neg idle]
  exact h

omit tending in
/-- **Timers of episodes that are over** do nothing at all, whoever listens. -/
theorem yields_runBatch_stale (busy : List CircuitId) (batch : List (Timer Alarm)) {w : World γ}
    (stale : ∀ t ∈ batch, t.task.episode ≠ (w.episode t.task.circuit).number) :
    Yields (Timers.runBatch (fun handle => return (← get).timers.isCancelled handle)
      (ring react busy) batch) w (fun _ after => after = w) fun _ _ => False := by
  induction batch with
  | nil =>
    unfold Timers.runBatch
    rw [yields_pure]
  | cons t batch ih =>
    obtain ⟨ended, rest⟩ := List.forall_mem_cons.mp stale
    unfold Timers.runBatch
    simp only [yields_bind, yields_get, yields_ite, yields_pure]
    split
    · exact ih rest
    · exact yields_ring_stale busy ended (ih rest)

/-- **A batch of timers**, as long as each keeps to its contract: acts tend, and the episodes whose
timers are in the batch are over then. -/
theorem yields_runBatch_tends (busy : List CircuitId) (batch : List (Timer Alarm)) {w : World γ}
    (sound : w.Sound) (waits : w.Waits)
    (serves : ∀ t ∈ batch, w.Serves .shared t.handle t.task) :
    Yields (Timers.runBatch (fun handle => return (← get).timers.isCancelled handle)
        (ring react busy) batch) w
      (fun _ after => w.Tends after ∧ ∀ id, after.isHeld id = true → ∀ t ∈ batch,
        (w.circuit id).timerSource = some .shared → (w.episode id).timer = some t.handle →
          (w.episode id).number < (after.episode id).number)
      fun cause after => cause = .unsettled ∧ (cause ≠ .unsettled → w.Tends after) := by
  induction batch generalizing w with
  | nil =>
    unfold Timers.runBatch
    rw [yields_pure]
    exact ⟨.refl w, fun _ _ t mem => absurd mem List.not_mem_nil⟩
  | cons t batch ih =>
    obtain ⟨first, later⟩ := List.forall_mem_cons.mp serves
    unfold Timers.runBatch
    simp only [yields_bind, yields_get, yields_ite, yields_pure]
    split
    case isTrue cancelled =>
      -- a timer that is cancelled is of no current episode
      refine (ih sound waits later).mono (fun _ after done => ⟨done.1, ?_⟩) fun _ _ gaveUp => gaveUp
      intro id held t' mem place timer
      rcases List.mem_cons.mp mem with rfl | mem
      · obtain ⟨rfl, current⟩ := (first.own id).mpr ⟨place, timer⟩
        have live : w.timers.isCancelled t'.handle = false := first.live current
        rw [live] at cancelled
        cases cancelled
      · exact done.2 id held t' mem place timer
    case isFalse =>
      refine (yields_ring_tends tending sound waits busy t.task).mono ?_ fun _ _ gaveUp => gaveUp
      rintro _ after ⟨led, ended⟩
      refine (ih (led.sound sound) (led.waits waits)
        fun t' mem => led.reaches.serves (later t' mem)).mono ?_ ?_
      · rintro _ last ⟨more, ends⟩
        refine ⟨led.trans more, fun id held t' mem place timer => ?_⟩
        have grows := (more.reaches.isLater id).number_le
        rcases List.mem_cons.mp mem with rfl | mem
        · obtain ⟨rfl, current⟩ := (first.own id).mpr ⟨place, timer⟩
          have ended' := ended first.circuit (led.held _ (more.held _ held)) current
          omega
        · -- its episode is over already, or still holds the timer
          have before := (led.reaches.isLater id).number_le
          rcases before.lt_or_eq with newer | same
          · omega
          · have own := ((later t' mem).own id).mpr ⟨place, timer⟩
            rw [same] at own
            obtain ⟨place', timer'⟩ := ((led.reaches.serves (later t' mem)).own id).mp own
            have ended' := ends id held t' mem place' timer'
            omega
      · exact fun _ _ gaveUp => ⟨gaveUp.1, fun settled => led.trans (gaveUp.2 settled)⟩

/-- **Running the timers** arms again what it took from the queue. -/
theorem tending_runTimers (busy : List CircuitId) :
    Tending (· = .unsettled) (runTimers react busy) := by
  intro w sound waits
  have drained : w.Reaches w.withoutTimers := (World.Move.drain w).reaches
  have serves : ∀ t ∈ w.timers.pending, w.withoutTimers.Serves .shared t.handle t.task :=
    fun t mem => drained.serves (sound.serves_timers t mem)
  unfold runTimers
  simp only [yields_bind, yields_get, yields_modify]
  refine (yields_runBatch_tends tending busy w.timers.pending (drained.sound sound) waits serves).mono
    ?_ fun cause _ gaveUp => ⟨gaveUp.1, fun settled => absurd gaveUp.1 settled⟩
  rintro _ after ⟨led, ends⟩
  refine ⟨drained.trans led.reaches, led.size, led.settings, led.held, fun id held => ?_⟩
  rcases led.armed id held with armed | ⟨same, idle⟩
  · exact .inl armed
  · refine .inr ⟨same, fun armed => idle fun t₀ leaves => ?_⟩
    obtain ⟨t, mem, timer, -⟩ := armed t₀ leaves
    have newer := ends id held t mem (World.timerLeft_eq_some.mp leaves).1 timer
    exact absurd same newer.ne'

theorem tending_ringAlone (busy : List CircuitId) (wakeup : Wakeup) :
    Tending (· = .unsettled) (ringAlone react busy wakeup) := by
  intro w sound waits
  have rung := yields_ring_tends tending sound waits busy wakeup.alarm
  refine yields_ringAlone (rung.mono (fun _ _ led => led.1) fun cause after gaveUp => ?_)
  exact ⟨fun _ => gaveUp, fun settled => absurd gaveUp.1 settled⟩

theorem tending_runThreads (busy : List CircuitId) :
    Tending (· = .unsettled) (runThreads react busy) := by
  have batch (due : List (Timer Wakeup)) : Tending (· = .unsettled)
      (Timers.runBatch (fun handle => return (← get).threads.isCancelled handle)
        (ringAlone react busy) due) := by
    induction due with
    | nil => exact .pure 0
    | cons t due ih =>
      refine .bind (.bind .get fun _ => .pure _) fun cancelled => ?_
      split
      · exact ih
      · exact .bind (tending_ringAlone tending busy t.task) fun _ => .bind ih fun _ => .pure _
  intro w sound waits
  have thinned : w.Tends w.withoutDue :=
    .of_alike (World.Move.thin w _).reaches (.of_circuits rfl rfl rfl) rfl fun _ held => held
  rw [yields_runThreads_iff]
  exact (batch w.dueThreads).mid thinned sound waits fun _ _ _ led => led

theorem tending_awaitState (busy : List CircuitId) (id : CircuitId) (state : State) (looks : Nat) :
    Tending (· = .unsettled) (awaitState react busy id state looks) := by
  induction looks with
  | zero => exact .bind .get fun _ => .pure _
  | succ looks ih =>
    refine .bind .get fun w => ?_
    split
    · exact .pure true
    · exact .bind (.modify fun w => .time w w.clock _) fun _ =>
        .bind (tending_runThreads tending busy) fun _ => ih

end Alarms

end Breaker

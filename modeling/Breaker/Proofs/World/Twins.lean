import Breaker.Proofs.World.Alone
import Breaker.Proofs.World.Operation

/-!
# Twins — two circuits that cannot be told apart

Two circuits in two worlds are kin if they have one name, one configuration and one clock, each with the
timers of its world for itself (`World.Kin`).  They are twins if besides their episodes look alike and
their timers have the same delays (`World.Twins`).  Kin become twins when both enter a state by hand,
whatever became of them before, and twins stay twins when both enter a state in the same way.

Two acts are in step if from twins they lead to twins, with one answer, or one cause for giving up, and
with the same events (`InStep`).  Acts on the two circuits are, with whatever consumers that do not call
back, as long as the wait does not depend on the dice (`Settings.Steady`).
-/

namespace Breaker

variable {γ γ' α β : Type}

/-- The wait of some settings depends on the attempt alone. -/
def Settings.Steady (s : Settings) : Prop :=
  ∃ wait : Nat → Except Abort Duration, ∀ roll attempt,
    (s.backoff.wait roll attempt).observe.1 = wait attempt

namespace Episode

variable {s : Settings} {e e' : Episode} {now : Nat}

theorem state_of_view (h : e'.view = e.view) : e'.state = e.state := by
  show e'.view.state = e.view.state
  rw [h]

theorem delays_of_view (h : e'.view = e.view) : e'.delays s = e.delays s := by
  show e'.view.delays s = e.view.delays s
  rw [h]

theorem timeout_of_view (h : e'.view = e.view) : e'.timeout? s = e.timeout? s := by
  show e'.view.timeout? s = e.view.timeout? s
  rw [h]

theorem followUp_of_view (h : e'.view = e.view) : e'.followUp s now = e.followUp s now := by
  show e'.view.followUp s now = e.view.followUp s now
  rw [h]

theorem metrics_of_view (h : e'.view = e.view) : e'.metrics = e.metrics := by
  show e'.view.metrics = e.view.metrics
  rw [h]

end Episode

/-- A reply without what is not seen of the episode after it. -/
def Reply.view : Reply → Reply
  | .granted taken => .granted taken.view
  | reply => reply

namespace Episode

variable {s : Settings} {e e' : Episode} {now : Nat}

theorem request_view (e : Episode) (now : Nat) : e.view.request now = (e.request now).view := by
  obtain ⟨number, phase, attempts, enteredAt, minimum, window, rejected, timer⟩ := e
  unfold request
  cases phase with
  | closed | disabled | metricsOnly | forcedOpen => rfl
  | opened retryAt =>
    dsimp only [view]
    split
    · rfl
    · rfl
  | halfOpen permits deadline =>
    dsimp only [view]
    split
    · rfl
    · cases permits.take? with
      | none | some => rfl

/-- What is seen of a mark follows from what is seen of the episode. -/
theorem after_of_view (h : e'.view = e.view) {m : Mark} (stays : m.stays = true) :
    (e'.after s now m).view = (e.after s now m).view := by
  have view (e : Episode) : (e.after s now m).view = e.view.after s now m := by
    cases m with
    | granted =>
      rw [after, after, request_view]
      cases e.request now with
      | granted | denied | expired => rfl
    | released | told =>
      obtain ⟨number, phase, attempts, enteredAt, minimum, window, rejected, timer⟩ := e
      cases phase with
      | closed | disabled | metricsOnly | forcedOpen | opened | halfOpen => rfl
    | refused | recorded | settled => rfl
    | entered => cases stays
  rw [view, view, h]

theorem attempts_of_view (h : e'.view = e.view) : e'.attempts = e.attempts := by
  show e'.view.attempts = e.view.attempts
  rw [h]

/-- Of a state that is entered in the same way the same is seen. -/
theorem next_of_view (h : e'.view = e.view) (target : State) (wait : Duration) (manual : Bool) :
    (e'.next s now target wait manual).view = (e.next s now target wait manual).view := by
  have view (e : Episode) : (e.next s now target wait manual).view
      = (e.view.next s now target wait manual).view := by
    unfold next
    dsimp only
    split <;> rfl
  rw [view, view e, h]

/-- Of a state that is entered by hand the same is seen whatever was before. -/
theorem next_of_manual (e e' : Episode) (target : State) (wait : Duration) :
    (e'.next s now target wait true).view = (e.next s now target wait true).view := by
  have fresh (e : Episode) : (e.next s now target wait true).view
      = (begin s 0 (attemptsOnEntry .closed 0 target true) now (phaseOf s target now wait)).view := by
    rw [next_of_fresh (by simp)]
    cases target with
    | closed | opened | halfOpen | disabled | forcedOpen | metricsOnly => rfl
  rw [fresh, fresh e]

/-- The wait is for the open state only. -/
theorem next_of_ne_opened {target : State} (h : target ≠ .opened) (wait wait' : Duration)
    (manual : Bool) : e.next s now target wait manual = e.next s now target wait' manual := by
  have phase : phaseOf s target now wait = phaseOf s target now wait' := by
    cases target with
    | opened => exact absurd rfl h
    | closed | halfOpen | disabled | forcedOpen | metricsOnly => rfl
  rw [next, next, phase]

end Episode

namespace World

/-- Circuits of one name, one configuration and one clock, each with its timers for itself. -/
structure Kin (id id' : CircuitId) (w : World γ) (w' : World γ') : Prop where
  alone : Alone id w
  alone' : Alone id' w'
  name : (w'.circuit id').name = (w.circuit id).name
  settings : (w'.circuit id').settings = (w.circuit id).settings
  steady : (w.circuit id).settings.Steady
  clock : w'.clock = w.clock
  /-- They read the same time, however the clock is set. -/
  reads : ∀ clock, ({ w' with clock := clock } : World γ').reading id'
    = ({ w with clock := clock } : World γ).reading id

/-- Kin that cannot be told apart. -/
structure Twins (id id' : CircuitId) (w : World γ) (w' : World γ') : Prop
    extends Kin id id' w w' where
  view : (w'.episode id').view = (w.episode id).view
  delays : w'.timers.delays = w.timers.delays

variable {id id' : CircuitId} {w v : World γ} {w' v' : World γ'} {events events' : List Event}

namespace Kin

/-- A circuit is kin of itself. -/
theorem refl (alone : Alone id w) (steady : (w.circuit id).settings.Steady) : Kin id id w w :=
  ⟨alone, alone, rfl, rfl, steady, rfl, fun _ => rfl⟩

theorem reading (h : Kin id id' w w') : w'.reading id' = w.reading id := by
  calc w'.reading id'
      = ({ w' with clock := w.clock } : World γ').reading id' := by rw [← h.clock]
    _ = w.reading id := h.reads w.clock

/-- A wait is the same for both. -/
theorem wait (h : Kin id id' w w') (attempt : Nat) : w'.wait? id' attempt = w.wait? id attempt := by
  obtain ⟨wait, same⟩ := h.steady
  rw [wait?, wait?, h.settings, same, same]

theorem comes (h : Kin id id' w w') (c : Comes id w events v) (c' : Comes id' w' events' v') :
    Kin id id' v v' where
  alone := c.alone h.alone
  alone' := c'.alone h.alone'
  name := by rw [c'.name, c.name, h.name]
  settings := by rw [c'.settings, c.settings, h.settings]
  steady := by
    rw [c.settings]
    exact h.steady
  clock := by rw [c'.clock, c.clock, h.clock]
  reads := by
    intro clock
    have reads := h.reads clock
    have source : ({ v with clock := clock } : World γ).reading id
        = ({ w with clock := clock } : World γ).reading id := by
      show timeAt _ (v.circuit id).timeSource = timeAt _ (w.circuit id).timeSource
      rw [c.timeSource]
      cases (w.circuit id).timeSource with
      | shared => rfl
      | own since => rw [timeAt, timeAt, c.elapsed]
    have source' : ({ v' with clock := clock } : World γ').reading id'
        = ({ w' with clock := clock } : World γ').reading id' := by
      show timeAt _ (v'.circuit id').timeSource = timeAt _ (w'.circuit id').timeSource
      rw [c'.timeSource]
      cases (w'.circuit id').timeSource with
      | shared => rfl
      | own since => rw [timeAt, timeAt, c'.elapsed]
    rw [source, source', reads]

theorem twins (h : Kin id id' w w') {view : Episode} {delays : List Duration}
    (s : Stands id view delays w) (s' : Stands id' view delays w') : Twins id id' w w' :=
  ⟨h, s'.view.trans s.view.symm, s'.delays.trans s.delays.symm⟩

end Kin

/-- Where two worlds with twins came from two others, with the same events. -/
structure Follows (id id' : CircuitId) (w : World γ) (w' : World γ') (v : World γ) (v' : World γ') :
    Prop where
  twins : Twins id id' v v'
  events : ∃ events, Comes id w events v ∧ Comes id' w' events v'

namespace Twins

/-- What happens beside both circuits keeps them twins. -/
theorem aside (h : Twins id id' w w') (a : w.Aside v) (a' : w'.Aside v')
    (c : Comes id w events v) (c' : Comes id' w' events' v') : Twins id id' v v' := by
  have stands' : Stands id' _ _ v' := a'.stands
  rw [h.view, h.delays] at stands'
  exact (h.toKin.comes c c').twins a.stands stands'

theorem beside (h : Twins id id' w w') (a : w.Aside v) (a' : w'.Aside v')
    (c : Comes id w events v) (c' : Comes id' w' events v') : Follows id id' w w' v v' :=
  ⟨h.aside a a' c c', events, c, c'⟩

/-- Both circuits tell of the same events. -/
theorem told (h : Twins id id' w w') (t : Tells id events w v) (t' : Tells id' events w' v') :
    Follows id id' w w' v v' := h.beside t.aside t'.aside (.told t) (.told t')

theorem asked (h : Twins id id' w w') (a : w.Asked v) (a' : w'.Asked v') :
    Follows id id' w w' v v' := h.beside a.aside a'.aside (.asked a) (.asked a')

theorem follows (h : Twins id id' w w') : Follows id id' w w' w w' := ⟨h, [], .refl id w, .refl id' w'⟩

/-- Both episodes take a mark. -/
theorem mark (h : Twins id id' w w') {m : Mark} (stays : m.stays = true) : Follows id id' w w'
    (w.setEpisode id ((w.episode id).after (w.circuit id).settings (w.reading id) m))
    (w'.setEpisode id' ((w'.episode id').after (w'.circuit id').settings (w'.reading id') m)) := by
  have c : Comes id w [] _ := .mark w id stays
  have c' : Comes id' w' [] _ := .mark w' id' stays
  refine ⟨⟨h.toKin.comes c c', ?_, h.delays⟩, [], c, c'⟩
  rw [episode_setEpisode_self w _ h.alone.there, episode_setEpisode_self w' _ h.alone'.there,
    h.settings, h.reading]
  exact Episode.after_of_view h.view stays

end Twins

theorem Follows.trans {w₁ w₂ w₃ : World γ} {w₁' w₂' w₃' : World γ'}
    (h : Follows id id' w₁ w₁' w₂ w₂') (h' : Follows id id' w₂ w₂' w₃ w₃') :
    Follows id id' w₁ w₁' w₃ w₃' := by
  obtain ⟨events, c, c'⟩ := h.events
  obtain ⟨more, d, d'⟩ := h'.events
  exact ⟨h'.twins, events ++ more, c.trans d, c'.trans d'⟩

end World

/-! ### Two acts -/

/-- Two acts answer the same, or give up for the same cause. -/
def Both (x : Act γ α) (x' : Act γ' α) (w : World γ) (w' : World γ')
    (ok : α → World γ → World γ' → Prop) (abort : World γ → World γ' → Prop) : Prop :=
  match x w, x' w' with
  | .ok a v, .ok a' v' => a' = a ∧ ok a v v'
  | .error cause v, .error cause' v' => cause' = cause ∧ abort v v'
  | _, _ => False

section Both

variable {w : World γ} {w' : World γ'} {ok : α → World γ → World γ' → Prop}
  {abort : World γ → World γ' → Prop} {x : Act γ α} {x' : Act γ' α}

/-- One of the acts is run, and then the other. -/
theorem both_of_yields
    (h : Yields x w
      (fun a v => Yields x' w' (fun a' v' => a' = a ∧ ok a v v') fun _ _ => False)
      fun cause v => Yields x' w' (fun _ _ => False) fun cause' v' => cause' = cause ∧ abort v v') :
    Both x x' w w' ok abort := by
  unfold Yields at h
  unfold Both
  cases run : x w with
  | ok a v =>
    rw [run] at h
    dsimp only at h
    cases run' : x' w' with
    | ok a' v' =>
      rw [run'] at h
      exact h
    | error cause' v' =>
      rw [run'] at h
      exact h
  | error cause v =>
    rw [run] at h
    dsimp only at h
    cases run' : x' w' with
    | ok a' v' =>
      rw [run'] at h
      exact h
    | error cause' v' =>
      rw [run'] at h
      exact h

theorem Both.mono (h : Both x x' w w' ok abort) {ok' : α → World γ → World γ' → Prop}
    {abort' : World γ → World γ' → Prop} (answered : ∀ a v v', ok a v v' → ok' a v v')
    (aborted : ∀ v v', abort v v' → abort' v v') : Both x x' w w' ok' abort' := by
  unfold Both at h ⊢
  split at h
  · exact ⟨h.1, answered _ _ _ h.2⟩
  · exact ⟨h.1, aborted _ _ h.2⟩
  · exact h.elim

/-- If one act answers, so does the other. -/
theorem Both.of_ok (h : Both x x' w w' ok abort) {a : α} {v : World γ} (run : x w = .ok a v) :
    ∃ v', x' w' = .ok a v' ∧ ok a v v' := by
  unfold Both at h
  rw [run] at h
  cases run' : x' w' with
  | ok a' v' =>
    rw [run'] at h
    obtain ⟨rfl, holds⟩ := h
    exact ⟨v', rfl, holds⟩
  | error cause v' =>
    rw [run'] at h
    exact h.elim

theorem both_of_ok {a : α} {v : World γ} {v' : World γ'} (run : x w = .ok a v)
    (run' : x' w' = .ok a v') (h : ok a v v') : Both x x' w w' ok abort := by
  unfold Both
  rw [run, run']
  exact ⟨rfl, h⟩

/-- Acts of which none gives up both answer. -/
theorem Both.exists_ok (h : Both x x' w w' ok fun _ _ => False) :
    ∃ a v v', x w = .ok a v ∧ x' w' = .ok a v' ∧ ok a v v' := by
  unfold Both at h
  split at h
  case h_1 a v a' v' run run' =>
    obtain ⟨rfl, holds⟩ := h
    exact ⟨_, v, v', run, run', holds⟩
  case h_2 => exact h.2.elim
  case h_3 => exact h.elim

theorem both_pure (a : α) (h : ok a w w') : Both (pure a) (pure a : Act γ' α) w w' ok abort :=
  ⟨rfl, h⟩

theorem both_throw (cause : Abort) (h : abort w w') :
    Both (throw cause) (throw cause : Act γ' α) w w' ok abort := ⟨rfl, h⟩

theorem both_get_bind {f : World γ → Act γ α} {f' : World γ' → Act γ' α}
    (h : Both (f w) (f' w') w w' ok abort) : Both (get >>= f) (get >>= f') w w' ok abort := h

theorem both_modify {ok : PUnit → World γ → World γ' → Prop} {f : World γ → World γ}
    {f' : World γ' → World γ'} (h : ok ⟨⟩ (f w) (f' w')) :
    Both (modify f : Act γ PUnit) (modify f' : Act γ' PUnit) w w' ok abort := ⟨rfl, h⟩

theorem both_set {ok : PUnit → World γ → World γ' → Prop} {v : World γ} {v' : World γ'}
    (h : ok ⟨⟩ v v') : Both (set v : Act γ PUnit) (set v' : Act γ' PUnit) w w' ok abort := ⟨rfl, h⟩

/-- Other acts may be run, in other worlds, that come to the same. -/
theorem Both.of_eq {y : Act γ α} {y' : Act γ' α} {v : World γ} {v' : World γ'} (same : x w = y v)
    (same' : x' w' = y' v') (h : Both y y' v v' ok abort) : Both x x' w w' ok abort := by
  unfold Both at h ⊢
  rwa [same, same']

theorem both_bind {f : α → Act γ β} {f' : α → Act γ' β} {ok : β → World γ → World γ' → Prop}
    (h : Both x x' w w' (fun a v v' => Both (f a) (f' a) v v' ok abort) abort) :
    Both (x >>= f) (x' >>= f') w w' ok abort := by
  unfold Both at h
  split at h
  case h_1 a v a' v' run run' =>
    obtain ⟨rfl, h⟩ := h
    unfold Both
    simp only [bind, EStateM.bind, run, run']
    exact h
  case h_2 cause v cause' v' run run' =>
    unfold Both
    simp only [bind, EStateM.bind, run, run']
    exact h
  case h_3 => exact h.elim

/-- Something is done with two circuits that are there. -/
theorem both_onCircuit {id id' : CircuitId} {act : Act γ Answer} {act' : Act γ' Answer}
    {ok : Answer → World γ → World γ' → Prop} (there : id < w.circuits.size)
    (there' : id' < w'.circuits.size) (h : Both act act' w w' ok abort) :
    Both (Operation.onCircuit id act) (Operation.onCircuit id' act') w w' ok abort := by
  refine both_get_bind ?_
  rwa [if_pos there, if_pos there']

end Both

open World (Twins Follows Kin)

/-- Two acts that lead twins to twins, with one answer and the same events. -/
def InStep (id id' : CircuitId) (x : Act γ α) (x' : Act γ' α) : Prop :=
  ∀ w w', Twins id id' w w' →
    Both x x' w w' (fun _ v v' => Follows id id' w w' v v') (Follows id id' w w')

namespace InStep

variable {id id' : CircuitId} {x : Act γ α} {x' : Act γ' α}

/-- Acts in step, after others. -/
theorem mid (h : InStep id id' x x') {w₀ w : World γ} {w₀' w' : World γ'}
    (led : Follows id id' w₀ w₀' w w') {ok : α → World γ → World γ' → Prop}
    (answered : ∀ a v v', Follows id id' w w' v v' → Follows id id' w₀ w₀' v v' → ok a v v') :
    Both x x' w w' ok (Follows id id' w₀ w₀') :=
  (h w w' led.twins).mono (fun a v v' more => answered a v v' more (led.trans more))
    fun _ _ more => led.trans more

theorem pure (a : α) : InStep id id' (pure a : Act γ α) (pure a : Act γ' α) :=
  fun _ _ twins => both_pure a twins.follows

theorem throw (cause : Abort) : InStep id id' (throw cause : Act γ α) (throw cause : Act γ' α) :=
  fun _ _ twins => both_throw cause twins.follows

theorem bind (h : InStep id id' x x') {f : α → Act γ β} {f' : α → Act γ' β}
    (h' : ∀ a, InStep id id' (f a) (f' a)) : InStep id id' (x >>= f) (x' >>= f') := by
  intro w w' twins
  exact both_bind (h.mid twins.follows fun a _ _ _ led => (h' a).mid led fun _ _ _ _ led => led)

theorem get_bind {f : World γ → Act γ α} {f' : World γ' → Act γ' α}
    (h : ∀ w w', Twins id id' w w' → InStep id id' (f w) (f' w')) :
    InStep id id' (get >>= f) (get >>= f') :=
  fun w w' twins => both_get_bind (h w w' twins w w' twins)

theorem modify {f : World γ → World γ} {f' : World γ' → World γ'}
    (h : ∀ w w', Twins id id' w w' → Follows id id' w w' (f w) (f' w')) :
    InStep id id' (modify f : Act γ PUnit) (modify f' : Act γ' PUnit) :=
  fun w w' twins => both_modify (h w w' twins)

theorem ite {c : Prop} [Decidable c] {y : Act γ α} {y' : Act γ' α} (h : InStep id id' x x')
    (h' : InStep id id' y y') : InStep id id' (if c then x else y) (if c then x' else y') := by
  split
  · exact h
  · exact h'

end InStep

end Breaker

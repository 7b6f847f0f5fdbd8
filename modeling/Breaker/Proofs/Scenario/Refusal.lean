import Breaker.Proofs.Scenario.Always
import Breaker.Proofs.World.Writes

/-!
# Refusal — the state that a refusal names

A request is denied by the current episode.  The denial is counted and logged, and those who listen for
refusals are told of it, all before the request returns; they may do as they like with the circuit.  The
refusal is made after that, and names the state in which the circuit is then.

`World.Denies` holds together the moment of the denial, the log record with the state that denied the
request, and what was written since.  `refusal_names_last_state` says that each refusal comes of such a
denial, in a state that may deny one, and that the state in the log record and the one in the refusal are
joined by the changes of state in between.  Nothing comes between the two if nobody was to be told.
`refusal_names_last_state_closed` is a run in which the refusal names a state that denies nothing.
-/

namespace Breaker

variable {γ : Type}

/-- The states in which a request may be denied. -/
def State.denies : State → Bool
  | .opened | .halfOpen | .forcedOpen => true
  | .closed | .disabled | .metricsOnly => false

theorem Turn.Path.eq_of_nil {source last : State} (h : Turn.Path source [] last) : last = source := by
  cases h
  rfl

theorem Episode.denies_of_denied {e : Episode} {now : Nat} (denied : e.request now = .denied) :
    e.state.denies = true := by
  rw [state]
  rw [request] at denied
  cases phase : e.phase with
  | opened | halfOpen | forcedOpen => rfl
  | closed | disabled | metricsOnly =>
    rw [phase] at denied
    cases denied

namespace World

variable {w w' : World γ} {id : CircuitId}

/-- A circuit that is there keeps its name. -/
theorem Move.name (h : Move w w') (there : id < w.circuits.size) :
    id < w'.circuits.size ∧ (w'.circuit id).name = (w.circuit id).name := by
  have entered (other : CircuitId) (target : State) (wait : Duration) (manual : Bool) :
      id < (w.enter other target wait manual).circuits.size ∧
        ((w.enter other target wait manual).circuit id).name = (w.circuit id).name := by
    obtain ⟨e, circuit⟩ := w.circuit_enter other target wait manual id
    rw [size_enter, circuit]
    exact ⟨there, rfl⟩
  cases h with
  | aside aside =>
    rw [aside.circuits, aside.circuit]
    exact ⟨there, rfl⟩
  | time | hold | drain | thin => exact ⟨there, rfl⟩
  | enrol other roster =>
    have course := Course.enrol id w other roster
    exact ⟨Nat.lt_of_lt_of_le there course.size, course.name⟩
  | build b built =>
    rw [circuit_addCircuit_of_ne w _ there.ne]
    exact ⟨by simpa [addCircuit] using there.le, rfl⟩
  | mark other m stays =>
    rw [circuit_setEpisode, setEpisode, size_setCircuit]
    refine ⟨there, ?_⟩
    split
    case isTrue both => rw [both.1]
    case isFalse => rfl
  | change other target wait manual => exact entered other target wait manual
  | reset other wait => exact entered other .closed wait true

theorem Reaches.name (h : Reaches w w') (there : id < w.circuits.size) :
    (w'.circuit id).name = (w.circuit id).name := by
  induction h with
  | refl => rfl
  | more move _ ih =>
    obtain ⟨still, name⟩ := move.name there
    rw [ih still, name]

/-- The changes of state that the journal tells of lead from one world to the other. -/
theorem Story.path {whole : Prop} (h : Story whole id w w') :
    ∃ entries : List Entry, w'.journal = w.journal ++ entries.toArray ∧
      Turn.Path (w.episode id).state (Journal.turnsOf id entries) (w'.episode id).state := by
  obtain ⟨entries, eq, evolves⟩ := h.journal
  exact ⟨entries, eq, evolves.path⟩

/-! ### Denials -/

/-- A circuit denied a request in one world, and `later` was written after the log record of it, until
another world. -/
structure Denies (id : CircuitId) (u : World γ) (later : List Entry) (w' : World γ) : Prop where
  denied : (u.episode id).request (u.reading id) = .denied
  journal : w'.journal = u.journal ++ (Entry.log id (u.circuit id).name
    (.refused (u.episode id).state ((u.episode id).rejected + 1)) :: later).toArray
  path : Turn.Path (u.episode id).state (Journal.turnsOf id later) (w'.episode id).state
  /-- Nothing happens in between if nobody is to be told of the refusal. -/
  unheard : (u.episode id).state = .forcedOpen ∨ (u.circuit id).roster.addressees .notPermitted = [] →
    Journal.turnsOf id later = []

end World

open World

variable {a : Audience γ} {react : React γ} {w : World γ} {id : CircuitId}

/-- An event that is not published, or goes to nobody, is written down at most. -/
theorem yields_publishCall_unheard {state : State} {event : Event}
    (unheard : state.publishesCalls = false ∨ (w.circuit id).roster.addressees event = []) :
    Yields (publishCall react id state (pure event)) w (fun _ after => w.Aside after) fun _ _ => False := by
  rw [publishCall_pure]
  by_cases published : state.publishesCalls = true
  · have nobody := unheard.resolve_left (by simp [published])
    rw [if_pos published]
    unfold publish
    simp only [yields_bind, yields_modify, yields_get, circuit_write, nobody]
    unfold tellEach
    rw [yields_pure]
    exact .write w fun _ => rfl
  · rw [if_neg published, yields_pure]
    exact .refl w

/-- A refusal that was counted and logged. -/
def World.refused (w : World γ) (id : CircuitId) : World γ :=
  (w.setEpisode id (w.episode id).reject).log id
    (.refused (w.episode id).state ((w.episode id).rejected + 1))

theorem World.circuit_refused (there : id < w.circuits.size) :
    (w.refused id).circuit id = { w.circuit id with episode := (w.episode id).reject } :=
  circuit_setEpisode_self w _ there

theorem World.state_refused (there : id < w.circuits.size) :
    ((w.refused id).episode id).state = (w.episode id).state := by
  rw [episode, circuit_refused there]
  rfl

theorem World.leads_refused (w : World γ) (id : CircuitId) : w.Leads True (w.refused id) := by
  have mark : w.Leads True (w.setEpisode id (w.episode id).reject) :=
    .mark w id (m := .refused) rfl rfl
  exact mark.trans (.aside (.write _ fun _ => rfl))

/-- What follows on a refusal that was counted and logged. -/
theorem World.Denies.of_refused (there : id < w.circuits.size)
    (denied : (w.episode id).request (w.reading id) = .denied) {later : List Entry} {after : World γ}
    (journal : after.journal = (w.refused id).journal ++ later.toArray)
    (path : Turn.Path ((w.refused id).episode id).state (Journal.turnsOf id later)
      (after.episode id).state)
    (unheard : (w.episode id).state = .forcedOpen ∨
      (w.circuit id).roster.addressees .notPermitted = [] → Journal.turnsOf id later = []) :
    w.Denies id later after where
  denied := denied
  journal := by
    rw [journal, refused, log, circuit_setEpisode_self w _ there, write, setEpisode, setCircuit]
    simp
  path := by rwa [← state_refused there]
  unheard := unheard

/-! ### Refusals -/

/-- **A request that is denied** is counted and logged, and then those who listen are told. -/
theorem yields_refuse (traced : TracedReact a react) (sound : w.Sound) (there : id < w.circuits.size)
    (denied : (w.episode id).request (w.reading id) = .denied) :
    Yields (refuse react id) w (fun _ after => w.Leads True after ∧ ∃ later, w.Denies id later after)
      fun _ _ => True := by
  have rejected : (w.setEpisode id (w.episode id).reject).episode id = (w.episode id).reject :=
    episode_setEpisode_self w _ there
  have led := w.leads_refused id
  unfold refuse
  simp only [yields_bind, yields_modify, yields_get, modifyEpisode_eq, rejected]
  show Yields (publishCall react id (w.episode id).state (pure .notPermitted)) (w.refused id) _ _
  by_cases unheard : (w.episode id).state = .forcedOpen ∨
      (w.circuit id).roster.addressees .notPermitted = []
  · have nobody : (w.episode id).state.publishesCalls = false ∨
        ((w.refused id).circuit id).roster.addressees .notPermitted = [] := by
      rw [circuit_refused there]
      exact unheard.imp_left fun forced => by rw [forced]; rfl
    refine (yields_publishCall_unheard nobody).mono (fun _ after aside => ?_) fun _ _ _ => trivial
    obtain ⟨later, asides, journal⟩ := aside.journal
    have still : Journal.turnsOf id later = [] := Journal.turnsOf_of_aside id asides
    refine ⟨led.trans (.aside aside), later, .of_refused there denied journal ?_ fun _ => still⟩
    rw [still, aside.episode]
    exact .nil _
  · refine (traced_publishCall traced _ rfl).mid (led.sound sound) (fun _ after unfolds => ?_)
      fun _ _ _ _ => trivial
    obtain ⟨later, journal, path⟩ := (unfolds.leads.story id (led.size there)).path
    exact ⟨led.trans unfolds.leads, later,
      .of_refused there denied journal path fun heard => absurd heard unheard⟩

/-- **A request that is not granted** was denied, in the end. -/
theorem yields_tryAcquire_denies (traced : TracedReact a react) (tries : Nat) {w : World γ}
    (sound : w.Sound) (there : id < w.circuits.size) :
    Yields (tryAcquire react id tries) w
      (fun permitted after => permitted = false →
        w.Leads True after ∧ ∃ u later, w.Leads True u ∧ u.Denies id later after)
      fun _ _ => True := by
  induction tries generalizing w with
  | zero =>
    unfold tryAcquire
    rw [yields_throw]
    trivial
  | succ tries ih =>
    unfold tryAcquire
    simp only [yields_bind, yields_get]
    cases asked : (w.episode id).request (w.reading id) with
    | granted taken =>
      simp only [yields_bind, yields_set, yields_pure]
      exact nofun
    | denied =>
      simp only [yields_bind, yields_pure]
      refine (yields_refuse traced sound there asked).mono ?_ fun _ _ _ => trivial
      exact fun _ _ ⟨led, later, denies⟩ _ => ⟨led, w, later, .refl w, denies⟩
    | expired next =>
      simp only [yields_bind]
      have waits : next ≠ .closed := by
        obtain ⟨-, rfl⟩ | ⟨-, rfl⟩ := Episode.request_eq_expired_iff.mp asked
        · nofun
        · nofun
      refine (traces_transition_current traced sound (.inr (Episode.isEdge_of_expired asked))
        fun closes => absurd closes waits).mid (fun _ moved unfolds => ?_) fun _ _ _ _ => trivial
      -- the request is put again to the episode that follows
      have led := unfolds.leads
      refine (ih (led.sound sound) (led.size there)).mono (fun _ _ rest no => ?_) fun _ _ _ => trivial
      obtain ⟨on, u, later, before, denies⟩ := rest no
      exact ⟨led.trans on, u, later, led.trans before, denies⟩

/-- **The state that a refusal names.**  Whatever those do who are told of it, a refusal comes of a
moment at which the circuit denied this very request, being open, half open or forced open, which the log
says with that state.  But the refusal names the state at its return.  The changes of state in between
lead from the one to the other.  So it names the state that denied the request if there was no change in
between; and there was none if nobody was to be told, as it is in a circuit that is forced open. -/
theorem refusal_names_last_state (traced : TracedReact a react) (sound : w.Sound)
    (there : id < w.circuits.size) {tries : Nat} {refusal : Refusal} {after : World γ}
    (refused : acquire react id tries w = .ok (.error refusal) after) :
    ∃ u later denying last, w.Leads True u ∧ u.Denies id later after ∧
      denying = (u.episode id).state ∧ denying.denies = true ∧
      refusal = .notPermitted (w.circuit id).name last ∧ last = (after.episode id).state ∧
      Turn.Path denying (Journal.turnsOf id later) last ∧
      (Journal.turnsOf id later = [] → last = denying) ∧
      (denying = .forcedOpen ∨ (u.circuit id).roster.addressees .notPermitted = [] →
        last = denying) := by
  have run : Yields (acquire react id tries) w (fun answer after => ∀ refusal, answer = .error refusal →
      refusal = .notPermitted (after.circuit id).name (after.episode id).state ∧
        w.Leads True after ∧ ∃ u later, w.Leads True u ∧ u.Denies id later after) fun _ _ => True := by
    unfold acquire
    rw [yields_bind]
    refine (yields_tryAcquire_denies traced tries sound there).mono (fun permitted after denied => ?_)
      fun _ _ _ => trivial
    cases permitted with
    | true =>
      rw [if_pos rfl, yields_pure]
      exact nofun
    | false =>
      rw [if_neg nofun]
      simp only [yields_bind, yields_get, yields_pure]
      rintro refusal ⟨⟩
      exact ⟨rfl, denied rfl⟩
  obtain ⟨rfl, led, u, later, before, denies⟩ := run.of_ok refused refusal rfl
  have still (none : Journal.turnsOf id later = []) :
      (after.episode id).state = (u.episode id).state := by
    have path := denies.path
    rw [none] at path
    exact path.eq_of_nil
  refine ⟨u, later, _, _, before, denies, rfl, Episode.denies_of_denied denies.denied, ?_, rfl,
    denies.path, still, fun unheard => still (denies.unheard unheard)⟩
  rw [led.reaches.name there]

namespace Scenario

/-- A subscriber that resets a circuit when it is told of a refusal. -/
def pardon : List Step :=
  [.on 0 (.subscribe "" .notPermitted [.on 0 .reset] 1 false), .on 0 (.to .opened)]

/-- A circuit that is reset by the subscriber to its refusals was denying the request. -/
theorem refusal_names_last_state_pardoned : ∃ w v u after : World Session, ∃ later refusal,
    [Plan.hasty].foldlM addPlan (World.empty 0 seed .empty) = .ok w ∧
      (runSteps 3 .none pardon w).2 = v ∧
      acquire (hear (perform 2 [0])) 0 1 v = .ok (.error refusal) after ∧
      refusal = .notPermitted "" .closed ∧ u.Denies 0 later after ∧
      (u.episode 0).state.denies = true ∧ Journal.turnsOf 0 later ≠ [] := by
  obtain ⟨w, v, after, built, there, ran, refused⟩ : ∃ w v after : World Session,
      [Plan.hasty].foldlM addPlan (World.empty 0 seed .empty) = .ok w ∧ 0 < v.circuits.size ∧
      (runSteps 3 .none pardon w).2 = v ∧
      acquire (hear (perform 2 [0])) 0 1 v = .ok (.error (.notPermitted "" .closed)) after :=
    ⟨_, _, _, rfl, by decide +kernel, rfl, rfl⟩
  have start : w.Sound := (leads_addPlans built).sound (World.sound_empty ..)
  have sound : v.Sound := by
    rw [← ran]
    exact (leads_runSteps 3 .none pardon start).sound start
  obtain ⟨u, later, denying, last, -, denies, rfl, denied, names, -, -, same, -⟩ :=
    refusal_names_last_state (traced_hear (traced_perform 2 [0])) sound there refused
  refine ⟨w, v, u, after, later, _, built, ran, refused, rfl, denies, denied, fun none => ?_⟩
  -- a closed circuit denies nothing
  obtain ⟨-, rfl⟩ := Refusal.notPermitted.inj names
  rw [← same none] at denied
  cases denied

/-- The refusal names the closed state, in which nothing is denied, and the log record of the same
refusal the open one. -/
theorem refusal_names_last_state_closed : ∃ w rows row,
    [Plan.hasty].foldlM addPlan (World.empty 0 seed .empty) = .ok w ∧
      (runSteps 3 .none (pardon ++ [.on 0 .acquire]) w).1 = rows ∧ rows.getLast? = some row ∧
      row.answer = .refused (.notPermitted "" .closed) ∧ State.closed.denies = false ∧
      row.logs = [("", .refused .opened 1), ("", .reset .opened)] :=
  ⟨_, _, _, rfl, rfl, rfl, rfl, rfl, by decide +kernel⟩

end Scenario

end Breaker

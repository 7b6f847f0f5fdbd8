import Breaker.Proofs.World.Quiet
import Breaker.Proofs.World.Tidy
import Breaker.World.Alarms

/-!
# Alone — a circuit with the timers for itself

A circuit is alone if it is held and all timers of the world that can still go off are its own
(`World.Alone`).  Then what is seen of it from outside is a view of its episode, without the number and
the handle by which the world knows it (`Episode.view`), and the delays of its timers.  When it enters a
state, those are just what the new stay leaves (`delays_enter`): whatever timers it left behind can not go
off any more.

A run of its timers comes to nothing, or to the one change of state that its current episode ends with
(`runTimers_of_none`, `runTimers_of_one`), however many cancelled timers there are.

`Comes id w events w'` gathers what acts on the circuit keep to, and which events they publish.
-/

namespace Breaker

variable {γ : Type}

namespace Episode

/-- An episode without the number and the timer's handle by which the world knows it. -/
def view (e : Episode) : Episode := { e with number := 0, timer := none }

/-- The delay of the timer that an episode leaves, if it leaves one. -/
def delays (s : Settings) (e : Episode) : List Duration :=
  ((e.timeout? s).map fun ending => Duration.ofNanos (ending.1 - e.enteredAt)).toList

end Episode

namespace World

variable {id : CircuitId} {events events' : List Event} {w w' w₁ w₂ w₃ : World γ}

/-- A circuit that is held and has the timers of the world for itself. -/
structure Alone (id : CircuitId) (w : World γ) : Prop where
  there : id < w.circuits.size
  held : w.isHeld id = true
  place : (w.circuit id).timerSource = some .shared
  sound : w.Sound
  tidy : w.Tidy
  own : ∀ t ∈ w.timers.live, t.task.circuit = id

/-- What acts on a circuit keep to, with the events of the circuit that they publish. -/
structure Comes (id : CircuitId) (w : World γ) (events : List Event) (w' : World γ) : Prop where
  reaches : w.Reaches w'
  size : w'.circuits.size = w.circuits.size
  clock : w'.clock = w.clock
  elapsed : w'.elapsed = w.elapsed
  handles : w'.handles = w.handles
  name : (w'.circuit id).name = (w.circuit id).name
  settings : (w'.circuit id).settings = (w.circuit id).settings
  timeSource : (w'.circuit id).timeSource = (w.circuit id).timeSource
  timerSource : (w'.circuit id).timerSource = (w.circuit id).timerSource
  own : Alone id w → ∀ t ∈ w'.timers.live, t.task.circuit = id
  journal : ∃ entries : List Entry, w'.journal = w.journal ++ entries.toArray ∧
    Journal.eventsOf id entries = events

namespace Comes

theorem alone (h : Comes id w events w') (alone : Alone id w) : Alone id w' where
  there := by
    rw [h.size]
    exact alone.there
  held := by
    rw [isHeld, h.handles]
    exact alone.held
  place := by
    rw [h.timerSource]
    exact alone.place
  sound := h.reaches.sound alone.sound
  tidy := h.reaches.tidy alone.sound alone.tidy
  own := h.own alone

theorem reading (h : Comes id w events w') : w'.reading id = w.reading id := by
  rw [World.reading, World.reading, h.timeSource]
  cases (w.circuit id).timeSource with
  | shared => rw [timeAt, timeAt, h.clock]
  | own since => rw [timeAt, timeAt, h.elapsed]

theorem trans (h : Comes id w₁ events w₂) (h' : Comes id w₂ events' w₃) :
    Comes id w₁ (events ++ events') w₃ where
  reaches := h.reaches.trans h'.reaches
  size := h'.size.trans h.size
  clock := h'.clock.trans h.clock
  elapsed := h'.elapsed.trans h.elapsed
  handles := h'.handles.trans h.handles
  name := h'.name.trans h.name
  settings := h'.settings.trans h.settings
  timeSource := h'.timeSource.trans h.timeSource
  timerSource := h'.timerSource.trans h.timerSource
  own := fun alone => h'.own (h.alone alone)
  journal := by
    obtain ⟨entries, eq, told⟩ := h.journal
    obtain ⟨entries', eq', told'⟩ := h'.journal
    refine ⟨entries ++ entries', by simp [eq', eq], ?_⟩
    rw [Journal.eventsOf_append, told, told']

/-- The events of the circuit that were published. -/
theorem eventsOf_since (h : Comes id w events w') :
    Journal.eventsOf id (w'.entriesSince w) = events := by
  obtain ⟨entries, eq, told⟩ := h.journal
  rw [entriesSince_eq eq, told]

theorem of_aside (h : w.Aside w') (journal : ∃ entries : List Entry,
    w'.journal = w.journal ++ entries.toArray ∧ Journal.eventsOf id entries = events) :
    Comes id w events w' where
  reaches := h.reaches
  size := by rw [h.circuits]
  clock := h.clock
  elapsed := h.elapsed
  handles := h.handles
  name := by rw [h.circuit]
  settings := by rw [h.circuit]
  timeSource := by rw [h.circuit]
  timerSource := by rw [h.circuit]
  own := fun alone => by
    rw [h.timers]
    exact alone.own
  journal := journal

/-- Nothing is written to the journal. -/
private theorem nothing_written {journal journal' : Journal} (same : journal' = journal) :
    ∃ entries : List Entry, journal' = journal ++ entries.toArray ∧
      Journal.eventsOf id entries = [] := ⟨[], by simp [same], rfl⟩

theorem refl (id : CircuitId) (w : World γ) : Comes id w [] w :=
  of_aside (.refl w) (nothing_written rfl)

/-- Events are published. -/
theorem told (h : Tells id events w w') : Comes id w events w' := by
  obtain ⟨entries, eq, told⟩ := h.entries
  refine of_aside h.aside ⟨entries, eq, ?_⟩
  rw [← Journal.eventsOf_filter, told, Journal.eventsOf_published]

/-- The user's functions were asked. -/
theorem asked (h : w.Asked w') : Comes id w [] w' := by
  refine of_aside h.aside ?_
  obtain ⟨dice, remarks, rfl⟩ := h
  exact ⟨_, rfl, by simp [Journal.eventsOf]⟩

theorem log (w : World γ) (id : CircuitId) {record : LogRecord}
    (plain : Entry.IsAside (.log id (w.circuit id).name record)) :
    Comes id w [] (w.log id record) :=
  of_aside (.write w plain) ⟨[.log id (w.circuit id).name record], by simp [World.log, write], rfl⟩

/-- The current episode takes a mark. -/
theorem mark (w : World γ) (id : CircuitId) {m : Mark} (stays : m.stays = true) : Comes id w []
    (w.setEpisode id ((w.episode id).after (w.circuit id).settings (w.reading id) m)) := by
  have circuit := w.circuit_setEpisode id id
    ((w.episode id).after (w.circuit id).settings (w.reading id) m)
  refine ⟨(Move.mark w id m stays).reaches, size_setCircuit .., rfl, rfl, rfl, ?_, ?_, ?_, ?_, ?_,
    nothing_written rfl⟩
  · rw [circuit]
    split <;> rfl
  · rw [circuit]
    split <;> rfl
  · rw [circuit]
    split <;> rfl
  · rw [circuit]
    split <;> rfl
  · exact fun alone => alone.own

end Comes

/-! ### Timers -/

/-- What an episode of a circuit leaves among the timers of the world. -/
theorem map_delay_timerLeft (place : (w.circuit id).timerSource = some .shared) (e : Episode)
    (handle : Nat) :
    (w.timerLeft id e handle).toList.map Timer.delay = e.delays (w.circuit id).settings := by
  rw [timerLeft, place, Episode.delays]
  cases e.timeout? (w.circuit id).settings with
  | none | some => rfl

/-- **Entering a state leaves one timer at most**: none that waited before can still go off. -/
theorem Alone.live_enter (alone : Alone id w) (target : State) (wait : Duration) (manual : Bool) :
    (w.enter id target wait manual).timers.live
      = (w.timerLeft id (w.nextEpisode id target wait manual) w.timers.nextHandle).toList := by
  have sound : (w.enter id target wait manual).Sound := alone.sound.enter
  have tidy := alone.tidy.enter alone.sound id target wait manual
  have number : ((w.enter id target wait manual).episode id).number = (w.episode id).number + 1 := by
    rw [episode_enter_self alone.there]
    exact Episode.next_number ..
  have pending := pending_enter w target wait manual alone.there
  rw [Timers.live, pending, List.filter_append]
  have before : w.timers.pending.filter
      (fun t => !(w.enter id target wait manual).timers.isCancelled t.handle) = [] := by
    rw [List.filter_eq_nil_iff]
    intro t mem live
    have live' : t ∈ (w.enter id target wait manual).timers.live := by
      rw [Timers.live, pending, List.mem_filter]
      exact ⟨List.mem_append_left _ mem, live⟩
    have current := ((mem_live_iff sound tidy).mp live').2
    have serves := alone.sound.serves_timers t mem
    by_cases own : id = t.task.circuit
    · have older := serves.episode
      rw [← own] at current older
      omega
    · -- it could go off before, and so is the circuit's own
      rw [episode_enter_of_ne own] at current
      exact own (alone.own t ((mem_live_iff alone.sound alone.tidy).mpr ⟨mem, current⟩)).symm
  have begun : (w.timerLeft id (w.nextEpisode id target wait manual)
      w.timers.nextHandle).toList.filter
        (fun t => !(w.enter id target wait manual).timers.isCancelled t.handle)
      = (w.timerLeft id (w.nextEpisode id target wait manual) w.timers.nextHandle).toList := by
    rw [List.filter_eq_self]
    intro t left
    have mem : t ∈ (w.enter id target wait manual).timers.pending := by
      rw [pending]
      exact List.mem_append_right _ left
    obtain ⟨-, due, goal, -, rfl⟩ := timerLeft_eq_some.mp (Option.mem_toList.mp left)
    have current : (w.nextEpisode id target wait manual).number
        = ((w.enter id target wait manual).episode id).number := by
      rw [episode_enter_self alone.there]
    exact (List.mem_filter.mp ((mem_live_iff sound tidy).mpr ⟨mem, current⟩)).2
  rw [before, begun, List.nil_append]

/-- The delays once a state was entered. -/
theorem Alone.delays_enter (alone : Alone id w) (target : State) (wait : Duration) (manual : Bool) :
    (w.enter id target wait manual).timers.delays
      = (w.nextEpisode id target wait manual).delays (w.circuit id).settings := by
  rw [Timers.delays, alone.live_enter, map_delay_timerLeft alone.place]

/-- A state is entered, and that is logged. -/
theorem Comes.entered (alone : Alone id w) {target : State} {wait : Duration} {manual : Bool}
    {record : LogRecord} (reaches : w.Reaches ((w.enter id target wait manual).log id record)) :
    Comes id w [] ((w.enter id target wait manual).log id record) := by
  have circuit := circuit_enter_self w target wait manual alone.there
  refine ⟨reaches, size_enter .., clock_enter .., elapsed_enter .., handles_enter .., ?_, ?_, ?_, ?_,
    fun _ t live => ?_, ?_⟩
  · rw [circuit_log, circuit]
  · rw [circuit_log, circuit]
  · rw [circuit_log, circuit]
  · rw [circuit_log, circuit]
  · have left : t ∈ (w.enter id target wait manual).timers.live := live
    rw [alone.live_enter, Option.mem_toList] at left
    obtain ⟨-, due, goal, -, rfl⟩ := timerLeft_eq_some.mp left
    rfl
  · refine ⟨[.log id ((w.enter id target wait manual).circuit id).name record], ?_, rfl⟩
    rw [World.log, write, journal_enter]
    exact Array.push_eq_append

/-- The timers of the world are drained. -/
theorem Comes.drained (id : CircuitId) (w : World γ) :
    Comes id w [] { w with timers := w.timers.drain } where
  reaches := (Move.drain w).reaches
  size := rfl
  clock := rfl
  elapsed := rfl
  handles := rfl
  name := rfl
  settings := rfl
  timeSource := rfl
  timerSource := rfl
  own := fun _ _ live => absurd live List.not_mem_nil
  journal := nothing_written rfl

/-- How a circuit stands, for who sees it from outside: its episode and the delays of its timers. -/
structure Stands (id : CircuitId) (view : Episode) (delays : List Duration) (w : World γ) : Prop where
  view : (w.episode id).view = view
  delays : w.timers.delays = delays

theorem Aside.stands (h : w.Aside w') :
    Stands id (w.episode id).view w.timers.delays w' := ⟨by rw [h.episode], by rw [h.timers]⟩

theorem Alone.stands_enter (alone : Alone id w) (target : State) (wait : Duration) (manual : Bool)
    (record : LogRecord) : Stands id (w.nextEpisode id target wait manual).view
      ((w.nextEpisode id target wait manual).delays (w.circuit id).settings)
      ((w.enter id target wait manual).log id record) := by
  refine ⟨?_, alone.delays_enter target wait manual⟩
  rw [episode, circuit_log, circuit_enter_self w _ _ _ alone.there]
  rfl

/-- A circuit that is alone has no timer that can go off, or one. -/
theorem Alone.live_cases (alone : Alone id w) :
    w.timers.live = [] ∨ ∃ t, w.timers.live = [t] := by
  cases live : w.timers.live with
  | nil => exact .inl rfl
  | cons t rest =>
    have mem : t ∈ w.timers.live := by
      rw [live]
      exact List.mem_cons_self
    have only := live_of_circuit alone.sound alone.tidy mem
    have all : w.timers.live.filter (·.task.circuit = t.task.circuit) = w.timers.live := by
      rw [List.filter_eq_self]
      intro t' mem'
      rw [alone.own t' mem', alone.own t mem]
      exact decide_eq_true rfl
    rw [all, live] at only
    exact .inr ⟨t, only⟩

end World

/-! ### Running the timers -/

section Run

variable {w : World γ} {id : CircuitId} {react : CircuitId → React γ} {busy : List CircuitId}

/-- Timers that are cancelled are passed over. -/
theorem runBatch_of_cancelled {run : Alarm → Act γ Unit} {batch : List (Timer Alarm)}
    (cancelled : ∀ t ∈ batch, w.timers.isCancelled t.handle = true) :
    Timers.runBatch (fun handle => return (← get).timers.isCancelled handle) run batch w
      = .ok 0 w := by
  induction batch with
  | nil => rfl
  | cons t rest ih =>
    obtain ⟨first, others⟩ := List.forall_mem_cons.mp cancelled
    unfold Timers.runBatch
    show (if w.timers.isCancelled t.handle = true then _ else _ : Act γ Nat) w = _
    rw [if_pos first]
    exact ih others

/-- A batch with one timer that is not cancelled comes to running that one. -/
theorem runBatch_of_one {run : Alarm → Act γ Unit} {batch : List (Timer Alarm)} {t : Timer Alarm}
    (live : batch.filter (fun t => !w.timers.isCancelled t.handle) = [t])
    (keeps : Yields (run t.task) w (fun _ after => ∀ handle,
      w.timers.isCancelled handle = true → after.timers.isCancelled handle = true) fun _ _ => True) :
    Timers.runBatch (fun handle => return (← get).timers.isCancelled handle) run batch w
      = (do run t.task; return 1 : Act γ Nat) w := by
  induction batch with
  | nil => cases live
  | cons head rest ih =>
    unfold Timers.runBatch
    show (if w.timers.isCancelled head.handle = true then _ else _ : Act γ Nat) w = _
    split
    case isTrue cancelled =>
      rw [List.filter_cons_of_neg (by simp [cancelled])] at live
      exact ih live
    case isFalse waits =>
      rw [List.filter_cons_of_pos (by simp [waits])] at live
      obtain ⟨rfl, none⟩ := List.cons_eq_cons.mp live
      show EStateM.bind _ _ w = EStateM.bind _ _ w
      unfold EStateM.bind
      cases ran : run head.task w with
      | error cause after => rfl
      | ok _ after =>
        -- those that come after it were cancelled before, and still are
        have cancelled : ∀ t ∈ rest, after.timers.isCancelled t.handle = true := by
          intro t mem
          refine keeps.of_ok ran _ ?_
          simpa using List.filter_eq_nil_iff.mp none t mem
        show EStateM.bind _ _ after = _
        unfold EStateM.bind
        rw [runBatch_of_cancelled cancelled]

theorem runTimers_of_none (none : w.timers.live = []) :
    runTimers react busy w = .ok 0 { w with timers := w.timers.drain } := by
  have cancelled (t : Timer Alarm) (mem : t ∈ w.timers.pending) :
      w.timers.isCancelled t.handle = true := by
    simpa using List.filter_eq_nil_iff.mp none t mem
  exact runBatch_of_cancelled (w := { w with timers := w.timers.drain }) cancelled

/-- **The one timer that can go off** ends the current episode of its circuit. -/
theorem runTimers_of_one (quiet : Quiet (react id)) (alone : w.Alone id) {t : Timer Alarm}
    (one : w.timers.live = [t]) :
    runTimers react busy w = (do
        let _ ← transition (react id) id (w.episode id) t.task.target false none
        return 1 : Act γ Nat) { w with timers := w.timers.drain } := by
  have live : t ∈ w.timers.live := by
    rw [one]
    exact List.mem_singleton_self t
  obtain ⟨mem, current⟩ := (World.mem_live_iff alone.sound alone.tidy).mp live
  have own := alone.own t live
  rw [own] at current
  have rings : ring react busy t.task { w with timers := w.timers.drain } = (do
      let _ ← transition (react id) id (w.episode id) t.task.target false none :
        Act γ Unit) { w with timers := w.timers.drain } := by
    have present : ({ w with timers := w.timers.drain } : World γ).isPresent busy id = true := by
      have held : ({ w with timers := w.timers.drain } : World γ).isHeld id = true := alone.held
      rw [World.isPresent, held, Bool.true_or]
    have same : (({ w with timers := w.timers.drain } : World γ).episode id).number
        = t.task.episode := current.symm
    unfold ring
    show (if _ then _ else _ : Act γ Unit) _ = _
    rw [own, present, same, beq_self_eq_true, Bool.and_self, if_pos rfl]
    rfl
  -- what the change of state does leaves cancelled what was
  have keeps : Yields (ring react busy t.task) { w with timers := w.timers.drain }
      (fun _ after => ∀ handle, w.timers.isCancelled handle = true →
        after.timers.isCancelled handle = true) fun _ _ => True := by
    refine .of_eq rings ?_
    simp only [yields_bind, yields_pure]
    refine quiet.transition (w := { w with timers := w.timers.drain })
      (fun wait after _ goes handle cancelled => ?_) fun _ _ _ _ _ => trivial
    have drained : World.isCancelled { w with timers := w.timers.drain } .shared handle = true :=
      cancelled
    exact goes.reaches.isCancelled drained
  refine (runBatch_of_one (w := { w with timers := w.timers.drain }) one keeps).trans ?_
  simp only [bind, EStateM.bind, rings]
  cases transition (react id) id (w.episode id) t.task.target false none
    { w with timers := w.timers.drain } with
  | ok _ after => rfl
  | error cause after => rfl

end Run

/-- **A change of state** leaves what the next episode is seen to be, and its timer. -/
theorem Quiet.transition_stands {react : React γ} (quiet : Quiet react) {w : World γ}
    {id : CircuitId} (alone : w.Alone id) (target : State) (manual : Bool) (breach : Option Rates) :
    Yields (Breaker.transition react id (w.episode id) target manual breach) w
      (fun made after => made = true ∧ ∃ wait,
        (target = .opened → w.wait? id (Episode.attemptsOnEntry (w.episode id).state
          (w.episode id).attempts target manual) = .ok wait) ∧
        World.Comes id w (breachEvents (w.circuit id).settings breach ++
          [.transition ⟨(w.episode id).state, target⟩]) after ∧
        World.Stands id (w.nextEpisode id target wait manual).view
          ((w.nextEpisode id target wait manual).delays (w.circuit id).settings) after)
      fun cause after => (target = .opened ∧ w.wait? id (Episode.attemptsOnEntry
        (w.episode id).state (w.episode id).attempts target manual) = .error cause) ∧
        w.Asked after := by
  refine yields_transition_of (.refl _) (fun _ _ newer => (Nat.lt_irrefl _ newer).elim)
    (fun wait u asked _ drawn => ?_) fun cause u opens fails asked => ⟨⟨opens, fails⟩, asked⟩
  refine quiet.announce fun after told => ⟨rfl, wait, ?_⟩
  have asks : World.Comes id w [] u := .asked asked
  have begins : u.nextEpisode id target wait manual = w.nextEpisode id target wait manual := by
    rw [World.nextEpisode, asked.aside.episode, asked.aside.circuit, asked.aside.reading,
      World.nextEpisode]
  have turned : u.Goes id _ _ := .change u target wait manual
  have enters := World.Comes.entered (asks.alone alone) turned.reaches
  have stands := (asks.alone alone).stands_enter target wait manual (.transition
    ⟨(u.episode id).state, target⟩
    (Episode.attemptsOnEntry (u.episode id).state (u.episode id).attempts target manual)
    ((u.reading id - (u.episode id).enteredAt) / nanosPerMilli) manual)
  rw [begins, asks.settings] at stands
  have settings : ((u.enter id target wait manual).circuit id).settings = (w.circuit id).settings :=
    enters.settings.trans asks.settings
  rw [World.circuit_log, settings] at told
  rw [← asked.aside.episode id]
  refine ⟨drawn, asks.trans (enters.trans (.told told)), ?_⟩
  exact ⟨(congrArg Episode.view (told.aside.episode id)).trans stands.view,
    (congrArg Timers.delays told.aside.timers).trans stands.delays⟩

/-- **A reset** leaves a circuit as it was built, but for the number of its episode. -/
theorem Quiet.reset_stands {react : React γ} (quiet : Quiet react) {w : World γ} {id : CircuitId}
    (alone : w.Alone id) :
    Yields (Breaker.reset react id) w (fun _ after =>
        World.Comes id w (resetEvents (w.episode id).state) after ∧
        World.Stands id (Episode.begin (w.circuit id).settings 0 0 (w.reading id) .closed) [] after ∧
        (after.entriesSince w).filter (fun entry => !entry.isNote)
          = .log id (w.circuit id).name (.reset (w.episode id).state) ::
            (resetEvents (w.episode id).state).map (.published id) ∧
        after.timers.pending = w.timers.pending ∧
        ∀ other, id ≠ other → after.circuit other = w.circuit other)
      fun _ _ => False := by
  refine quiet.reset_tells fun after told => ?_
  have begun : w.nextEpisode id .closed .zero true
      = Episode.begin (w.circuit id).settings ((w.episode id).number + 1) 0 (w.reading id) .closed :=
    Episode.next_of_fresh (by simp) .zero
  have idle : w.timerLeft id (w.nextEpisode id .closed .zero true) w.timers.nextHandle = none := by
    rw [World.timerLeft, begun]
    cases (w.circuit id).timerSource with
    | none => rfl
    | some source =>
      cases source with
      | shared | threads => rfl
  have entered := (World.Move.reset w id .zero).reaches
  refine ⟨(World.Comes.entered alone entered).trans (.told told), ?_, ?_, ?_, fun other ne => ?_⟩
  · have stands := alone.stands_enter .closed .zero true (.reset (w.episode id).state)
    rw [begun] at stands
    exact ⟨(congrArg Episode.view (told.aside.episode id)).trans stands.view,
      (congrArg Timers.delays told.aside.timers).trans stands.delays⟩
  · obtain ⟨entries, eq, filtered⟩ := told.entries
    have journal : after.journal = w.journal ++
        (.log id (w.circuit id).name (.reset (w.episode id).state) :: entries).toArray := by
      rw [eq, World.log, World.write, World.journal_enter,
        World.circuit_enter_self w _ _ _ alone.there]
      simp
    rw [World.entriesSince_eq journal, List.filter_cons_of_pos rfl, filtered]
  · rw [told.aside.timers]
    show (w.enter id .closed .zero true).timers.pending = _
    rw [World.pending_enter w _ _ _ alone.there, idle]
    exact List.append_nil _
  · rw [told.aside.circuit, World.circuit_log, World.circuit_enter_of_ne w _ _ _ ne]

end Breaker

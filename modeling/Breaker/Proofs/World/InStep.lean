import Breaker.Proofs.World.Twins
import Breaker.Proofs.World.Undergoes

/-!
# InStep — the acts on twins

Whatever is done with one of two twins is done with the other (`InStep`): their consumers, which do not
call back, may be different ones.  A change of state by hand, or a reset, even makes twins of kin, whose
histories may be different as well (`both_force`, `both_reset`).

The timers are the one place where more is to be seen than the circuit: a queue may hold any number of
timers that are cancelled, and these are passed over (`runBatch_of_none`, `runBatch_of_one`), so that a
batch comes to the one timer of the circuit, or to nothing.
-/

namespace Breaker

open World (Kin Twins Follows Comes Tells)

variable {γ γ' : Type} {id id' : CircuitId} {w : World γ} {w' : World γ'}

/-! ### At the circuits alone -/

/-- Both episodes take a mark. -/
theorem inStep_modifyEpisode {f : Episode → Episode} (m : Mark) (stays : m.stays = true)
    (is : ∀ (s : Settings) now (e : Episode), f e = e.after s now m) :
    InStep id id' (modify (·.modifyEpisode id f) : Act γ PUnit)
      (modify (·.modifyEpisode id' f) : Act γ' PUnit) := by
  refine .modify fun w w' twins => ?_
  rw [World.modifyEpisode_eq, World.modifyEpisode_eq, is (w.circuit id).settings (w.reading id),
    is (w'.circuit id').settings (w'.reading id')]
  exact twins.mark stays

theorem inStep_release : InStep id id' (release id : Act γ Unit) (release id' : Act γ' Unit) :=
  inStep_modifyEpisode .released rfl fun _ _ _ => rfl

/-- Both circuits log something that is no change of state. -/
theorem inStep_log {record record' : LogRecord}
    (plain : ∀ i name, Entry.IsAside (.log i name record))
    (plain' : ∀ i name, Entry.IsAside (.log i name record')) :
    InStep id id' (modify (·.log id record) : Act γ PUnit)
      (modify (·.log id' record') : Act γ' PUnit) :=
  .modify fun w w' twins => twins.beside (.write w (plain _ _)) (.write w' (plain' _ _))
    (.log w id (plain _ _)) (.log w' id' (plain' _ _))

theorem inStep_watch {α : Type} (x : Watched α) :
    InStep id id' (watch x : Act γ α) (watch x : Act γ' α) := by
  intro w w' twins
  refine both_of_yields (yields_watch (fun a v answered asked => ?_) fun cause v failed asked => ?_)
  · refine yields_watch (fun a' v' answered' asked' => ?_) fun cause' v' failed' _ => ?_
    · rw [answered] at answered'
      exact ⟨(Except.ok.inj answered').symm, twins.asked asked asked'⟩
    · rw [answered] at failed'
      cases failed'
  · refine yields_watch (fun a' v' answered' _ => ?_) fun cause' v' failed' asked' => ?_
    · rw [failed] at answered'
      cases answered'
    · rw [failed] at failed'
      exact ⟨(Except.error.inj failed').symm, twins.asked asked asked'⟩

/-- The metrics of both circuits are the same. -/
theorem inStep_readMetrics :
    InStep id id' (readMetrics id : Act γ Metrics) (readMetrics id' : Act γ' Metrics) := by
  intro w w' twins
  have settled := twins.mark (m := .settled) rfl
  unfold readMetrics
  refine both_get_bind (both_bind (both_modify (both_get_bind ?_)))
  rw [World.modifyEpisode_eq, World.modifyEpisode_eq]
  exact ⟨Episode.metrics_of_view settled.twins.view, settled⟩

section Acts

variable {react : React γ} {react' : React γ'} (quiet : Quiet react) (quiet' : Quiet react')
include quiet quiet'

/-! ### Publishing -/

theorem inStep_publish (event : Event) :
    InStep id id' (publish react id event) (publish react' id' event) := by
  intro w w' twins
  exact both_of_yields (quiet.publish fun v told => quiet'.publish fun v' told' =>
    ⟨rfl, twins.told told told'⟩)

/-- Both circuits tell of a call, or neither does. -/
theorem both_publishCall (w : World γ) (w' : World γ') (state : State) (event : Event) :
    Both (publishCall react id state (pure event)) (publishCall react' id' state (pure event)) w w'
      (fun _ v v' => ∃ events, Tells id events w v ∧ Tells id' events w' v') fun _ _ => False :=
  both_of_yields (quiet.publishCall fun _ told => quiet'.publishCall fun _ told' =>
    ⟨rfl, _, told, told'⟩)

theorem inStep_publishCall (state : State) (event : Event) :
    InStep id id' (publishCall react id state (pure event)) (publishCall react' id' state (pure event)) := by
  rw [publishCall_pure, publishCall_pure]
  exact .ite (inStep_publish quiet quiet' event) (.pure ())

theorem inStep_publishBreach (rates : Rates) :
    InStep id id' (publishBreach react id rates) (publishBreach react' id' rates) := by
  intro w w' twins
  refine both_of_yields (quiet.publishBreach fun v told => quiet'.publishBreach fun v' told' => ?_)
  rw [twins.settings] at told'
  exact ⟨rfl, twins.told told told'⟩

/-! ### Changes of state -/

/-- **A change of state** of kin, if the same is seen of what follows, makes them twins. -/
theorem both_transition (kin : Kin id id' w w') {target : State} {manual : Bool}
    (breach : Option Rates)
    (attempts : Episode.attemptsOnEntry (w'.episode id').state (w'.episode id').attempts target manual
      = Episode.attemptsOnEntry (w.episode id).state (w.episode id).attempts target manual)
    (next : ∀ wait, (w'.nextEpisode id' target wait manual).view
      = (w.nextEpisode id target wait manual).view) :
    Both (transition react id (w.episode id) target manual breach)
      (transition react' id' (w'.episode id') target manual breach) w w'
      (fun _ v v' => Twins id id' v v' ∧
        Comes id w (breachEvents (w.circuit id).settings breach ++
          [.transition ⟨(w.episode id).state, target⟩]) v ∧
        Comes id' w' (breachEvents (w.circuit id).settings breach ++
          [.transition ⟨(w'.episode id').state, target⟩]) v')
      fun v v' => w.Asked v ∧ w'.Asked v' := by
  refine both_of_yields ((quiet.transition_stands kin.alone target manual breach).mono ?_ ?_)
  · rintro made v ⟨rfl, wait, drawn, comes, stands⟩
    refine (quiet'.transition_stands kin.alone' target manual breach).mono ?_ ?_
    · rintro made' v' ⟨rfl, wait', drawn', comes', stands'⟩
      -- the wait is the same, or does not matter
      have next' : (w'.nextEpisode id' target wait' manual).view
          = (w.nextEpisode id target wait manual).view := by
        rw [← next wait]
        by_cases opens : target = .opened
        · have both := drawn' opens
          rw [attempts, kin.wait, drawn opens] at both
          rw [Except.ok.inj both]
        · rw [World.nextEpisode, World.nextEpisode, Episode.next_of_ne_opened opens wait' wait]
      rw [next', kin.settings, Episode.delays_of_view next'] at stands'
      rw [kin.settings] at comes'
      exact ⟨rfl, (kin.comes comes comes').twins stands stands', comes, comes'⟩
    · rintro cause v' ⟨⟨opens, fails⟩, -⟩
      rw [attempts, kin.wait, drawn opens] at fails
      cases fails
  · rintro cause v ⟨⟨opens, fails⟩, asked⟩
    refine (quiet'.transition_stands kin.alone' target manual breach).mono ?_ ?_
    · rintro made' v' ⟨-, wait', drawn', -⟩
      have drawn := drawn' opens
      rw [attempts, kin.wait, fails] at drawn
      cases drawn
    · rintro cause' v' ⟨⟨-, fails'⟩, asked'⟩
      rw [attempts, kin.wait, fails] at fails'
      exact ⟨(Except.error.inj fails').symm, asked, asked'⟩

/-- **A change of state** of twins. -/
theorem both_turn (twins : Twins id id' w w') (target : State) (manual : Bool)
    (breach : Option Rates) :
    Both (transition react id (w.episode id) target manual breach)
      (transition react' id' (w'.episode id') target manual breach) w w'
      (fun _ v v' => Follows id id' w w' v v') (Follows id id' w w') := by
  have state := Episode.state_of_view twins.view
  refine (both_transition quiet quiet' twins.toKin breach ?_ fun wait => ?_).mono ?_ ?_
  · rw [state, Episode.attempts_of_view twins.view]
  · rw [World.nextEpisode, World.nextEpisode, twins.settings, twins.reading]
    exact Episode.next_of_view twins.view target wait manual
  · rintro - v v' ⟨led, comes, comes'⟩
    rw [state] at comes'
    exact ⟨led, _, comes, comes'⟩
  · rintro v v' ⟨asked, asked'⟩
    exact twins.asked asked asked'

/-- **A change of state by hand** makes kin twins, whatever became of them before. -/
theorem both_force (kin : Kin id id' w w') (target : State) :
    Both (force react id target) (force react' id' target) w w'
      (fun _ v v' => Twins id id' v v' ∧
        Comes id w [.transition ⟨(w.episode id).state, target⟩] v ∧
        Comes id' w' [.transition ⟨(w'.episode id').state, target⟩] v')
      fun v v' => w.Asked v ∧ w'.Asked v' := by
  unfold force
  refine both_get_bind (both_bind ?_)
  refine (both_transition quiet quiet' kin none ?_ fun wait => ?_).mono
    (fun _ v v' led => both_pure () led) fun _ _ asked => asked
  · cases target with
    | opened | halfOpen | closed | disabled | forcedOpen | metricsOnly => rfl
  · rw [World.nextEpisode, World.nextEpisode, kin.settings, kin.reading]
    exact Episode.next_of_manual _ _ target wait

/-- **A reset** makes kin twins, whatever became of them before. -/
theorem both_reset (kin : Kin id id' w w') :
    Both (reset react id) (reset react' id') w w'
      (fun _ v v' => Twins id id' v v' ∧ Comes id w (resetEvents (w.episode id).state) v ∧
        Comes id' w' (resetEvents (w'.episode id').state) v')
      fun _ _ => False := by
  refine both_of_yields ((quiet.reset_stands kin.alone).mono ?_ fun _ _ => False.elim)
  rintro - v ⟨comes, stands, -⟩
  refine (quiet'.reset_stands kin.alone').mono ?_ fun _ _ => False.elim
  rintro - v' ⟨comes', stands', -⟩
  rw [kin.settings, kin.reading] at stands'
  exact ⟨rfl, (kin.comes comes comes').twins stands stands', comes, comes'⟩

theorem inStep_force (target : State) :
    InStep id id' (force react id target) (force react' id' target) := by
  intro w w' twins
  unfold force
  exact both_get_bind (both_bind ((both_turn quiet quiet' twins target true none).mono
    (fun _ _ _ led => both_pure () led) fun _ _ led => led))

theorem inStep_reset : InStep id id' (reset react id) (reset react' id') := by
  intro w w' twins
  refine (both_reset quiet quiet' twins.toKin).mono ?_ fun _ _ => False.elim
  rintro - v v' ⟨led, comes, comes'⟩
  rw [Episode.state_of_view twins.view] at comes'
  exact ⟨led, _, comes, comes'⟩

/-! ### Requests -/

theorem inStep_refuse : InStep id id' (refuse react id) (refuse react' id') := by
  unfold refuse
  refine .bind (inStep_modifyEpisode .refused rfl fun _ _ _ => rfl) fun _ => .get_bind ?_
  intro w w' twins
  refine .bind (inStep_log (fun _ _ _ => rfl) fun _ _ _ => rfl) fun _ => ?_
  rw [Episode.state_of_view twins.view]
  exact inStep_publishCall quiet quiet' _ _

/-- **A request**: the answer is the same, however many episodes it goes through. -/
theorem inStep_tryAcquire (tries : Nat) :
    InStep id id' (tryAcquire react id tries) (tryAcquire react' id' tries) := by
  induction tries with
  | zero =>
    unfold tryAcquire
    exact .throw .unsettled
  | succ tries ih =>
    intro w w' twins
    have reply : ((w'.episode id').request (w'.reading id')).view
        = ((w.episode id).request (w.reading id)).view := by
      rw [← Episode.request_view, ← Episode.request_view, twins.view, twins.reading]
    unfold tryAcquire
    refine both_get_bind ?_
    dsimp only
    cases asked : (w.episode id).request (w.reading id) with
    | granted taken =>
      cases asked' : (w'.episode id').request (w'.reading id') with
      | granted taken' =>
        have marked := twins.mark (m := .granted) rfl
        rw [Episode.after, Episode.after, asked, asked'] at marked
        exact both_bind (both_set (both_pure true marked))
      | denied | expired =>
        rw [asked, asked'] at reply
        cases reply
    | denied =>
      cases asked' : (w'.episode id').request (w'.reading id') with
      | denied => exact InStep.bind (inStep_refuse quiet quiet') (fun _ => .pure false) w w' twins
      | granted | expired =>
        rw [asked, asked'] at reply
        cases reply
    | expired next =>
      cases asked' : (w'.episode id').request (w'.reading id') with
      | expired next' =>
        rw [asked, asked'] at reply
        cases reply
        exact both_bind ((both_turn quiet quiet' twins next false none).mono
          (fun _ _ _ led => ih.mid led fun _ _ _ _ led => led) fun _ _ led => led)
      | granted | denied =>
        rw [asked, asked'] at reply
        cases reply

theorem inStep_acquire (tries : Nat) :
    InStep id id' (acquire react id tries) (acquire react' id' tries) := by
  unfold acquire
  refine .bind (inStep_tryAcquire quiet quiet' tries) fun answer => .ite (.pure _) (.get_bind ?_)
  intro w w' twins
  have state : (w'.circuit id').episode.state = (w.circuit id).episode.state :=
    Episode.state_of_view twins.view
  dsimp only
  rw [twins.name, state]
  exact .pure _

/-! ### Reports -/

/-- What follows from an outcome, at the episodes it was recorded in. -/
theorem both_follow (twins : Twins id id' w w') (decision : Option Decision) :
    Both (follow react id (w.episode id) decision) (follow react' id' (w'.episode id') decision) w w'
      (fun _ v v' => Follows id id' w w' v v') (Follows id id' w w') := by
  have turns (target : State) (breach : Option Rates) :
      Both (do let _ ← transition react id (w.episode id) target false breach)
        (do let _ ← transition react' id' (w'.episode id') target false breach) w w'
        (fun _ v v' => Follows id id' w w' v v') (Follows id id' w w') :=
    both_bind ((both_turn quiet quiet' twins target false breach).mono
      (fun _ _ _ led => both_pure () led) fun _ _ led => led)
  cases decision with
  | none => exact both_pure () twins.follows
  | some decision =>
    cases decision with
    | trip rates => exact turns .opened (some rates)
    | close => exact turns .closed none
    | tell rates =>
      exact InStep.bind (inStep_log (fun _ _ _ => rfl) fun _ _ _ => rfl)
        (fun _ => inStep_publishBreach quiet quiet' rates) w w' twins

theorem inStep_record (o : Outcome) (event : Event) :
    InStep id id' (record react id o (pure event)) (record react' id' o (pure event)) := by
  intro w w' twins
  have recorded := twins.mark (m := .recorded o) rfl
  have current : Follows id id' w w' (w.modifyEpisode id (·.observe (w.reading id) o))
      (w'.modifyEpisode id' (·.observe (w'.reading id') o)) := by
    rwa [World.modifyEpisode_eq, World.modifyEpisode_eq]
  unfold record
  refine both_get_bind (both_bind (both_modify (both_get_bind ?_)))
  generalize w.modifyEpisode id _ = v at current ⊢
  generalize w'.modifyEpisode id' _ = v' at current ⊢
  dsimp only
  rw [twins.settings, twins.reading, Episode.followUp_of_view current.twins.view,
    Episode.state_of_view current.twins.view]
  -- what follows from the outcome is made at the episodes it was recorded in
  have follows (decision : Option Decision) :
      Both (do
          publishCall react id (v.episode id).state (pure event)
          follow react id (v.episode id) decision)
        (do
          publishCall react' id' (v.episode id).state (pure event)
          follow react' id' (v'.episode id') decision) v v'
        (fun _ u u' => Follows id id' w w' u u') (Follows id id' w w') := by
    refine both_bind ((both_publishCall quiet quiet' v v' _ event).mono ?_ fun _ _ => False.elim)
    rintro - u u' ⟨events, told, told'⟩
    have led := current.trans (current.twins.told told told')
    rw [← told.aside.episode, ← told'.aside.episode]
    exact (both_follow quiet quiet' led.twins decision).mono (fun _ _ _ more => led.trans more)
      fun _ _ more => led.trans more
  cases (v.episode id).followUp (w.circuit id).settings (w.reading id) with
  | none => exact follows none
  | some decision =>
    cases decision with
    | trip rates => exact follows (some (.trip rates))
    | close => exact follows (some .close)
    | tell rates =>
      have tells : InStep id id'
          (do
            let _ ← modify (·.modifyEpisode id Episode.noteTold)
            publishCall react id (v.episode id).state (pure event)
            follow react id (v.episode id) (some (.tell rates)))
          (do
            let _ ← modify (·.modifyEpisode id' Episode.noteTold)
            publishCall react' id' (v.episode id).state (pure event)
            follow react' id' (v'.episode id') (some (.tell rates))) :=
        .bind (inStep_modifyEpisode .told rfl fun _ _ _ => rfl) fun _ =>
          .bind (inStep_publishCall quiet quiet' _ event) fun _ =>
            .bind (inStep_log (fun _ _ _ => rfl) fun _ _ _ => rfl) fun _ =>
              inStep_publishBreach quiet quiet' rates
      exact tells.mid current fun _ _ _ _ led => led

theorem inStep_ignore (event : Event) :
    InStep id id' (ignore react id (pure event)) (ignore react' id' (pure event)) := by
  unfold ignore
  refine .bind inStep_release fun _ => .get_bind fun w w' twins => ?_
  rw [Episode.state_of_view twins.view]
  exact inStep_publishCall quiet quiet' _ _

/-- **A report** is classified alike, and then recorded or left out. -/
theorem inStep_tell (d : Duration) (r : Report) :
    InStep id id' (r.tell react id d) (r.tell react' id' d) := by
  cases r with
  | success =>
    unfold Report.tell onSuccess
    refine .get_bind fun w w' twins => ?_
    rw [twins.settings]
    exact inStep_record quiet quiet' _ _
  | error e =>
    rw [Report.tell, onError_plain]
    refine .get_bind fun w w' twins => ?_
    dsimp only
    rw [twins.settings, twins.name]
    refine .bind (inStep_watch _) fun verdict => ?_
    cases verdict with
    | success | failure => exact inStep_record quiet quiet' _ _
    | ignored => exact inStep_ignore quiet quiet' _
  | result v =>
    unfold Report.tell onResult
    refine .get_bind fun w w' twins => ?_
    dsimp only
    rw [twins.settings, twins.name]
    refine .bind (inStep_watch _) fun verdict => ?_
    cases verdict with
    | success | failure => exact inStep_record quiet quiet' _ _
    | ignored => exact inStep_ignore quiet quiet' _

end Acts

section Timers

variable {react : CircuitId → React γ} {react' : CircuitId → React γ'}

/-- **A run of the timers**: as many go off, and what they do is the same. -/
theorem inStep_runTimers (quiet : Quiet (react id)) (quiet' : Quiet (react' id'))
    (busy busy' : List CircuitId) :
    InStep id id' (runTimers react busy) (runTimers react' busy') := by
  intro w w' twins
  have comes := Comes.drained id w
  have comes' := Comes.drained id' w'
  have drained : Follows id id' w w' { w with timers := w.timers.drain }
      { w' with timers := w'.timers.drain } :=
    ⟨⟨twins.toKin.comes comes comes', twins.view, rfl⟩, [], comes, comes'⟩
  have delays := twins.delays
  rw [Timers.delays, Timers.delays] at delays
  rcases twins.alone.live_cases with none | ⟨t, one⟩
  · have none' : w'.timers.live = [] := by
      rw [none] at delays
      exact List.map_eq_nil_iff.mp delays
    refine .of_eq ?_ ?_ (both_pure 0 drained)
    · exact runTimers_of_none none
    · exact runTimers_of_none none'
  · obtain ⟨t', one'⟩ : ∃ t', w'.timers.live = [t'] := by
      rw [one] at delays
      obtain ⟨t', eq, -⟩ := List.map_eq_singleton_iff.mp delays
      exact ⟨t', eq⟩
    have live : t ∈ w.timers.live := by
      rw [one]
      exact List.mem_singleton_self t
    have live' : t' ∈ w'.timers.live := by
      rw [one']
      exact List.mem_singleton_self t'
    -- both timers end the current episode in the same way
    obtain ⟨-, -, due, timeout⟩ := World.held_of_live twins.alone.sound twins.alone.tidy live
    obtain ⟨-, -, due', timeout'⟩ := World.held_of_live twins.alone'.sound twins.alone'.tidy live'
    rw [twins.alone.own t live] at timeout
    rw [twins.alone'.own t' live', twins.settings, Episode.timeout_of_view twins.view, timeout]
      at timeout'
    have target : t'.task.target = t.task.target :=
      (Prod.ext_iff.mp (Option.some.inj timeout')).2.symm
    refine .of_eq (runTimers_of_one quiet twins.alone one)
      (runTimers_of_one quiet' twins.alone' one') ?_
    rw [target]
    refine both_bind ((both_turn quiet quiet' drained.twins t.task.target false none).mono ?_ ?_)
    · exact fun _ v v' led => both_pure 1 (drained.trans led)
    · exact fun v v' led => drained.trans led

end Timers

end Breaker

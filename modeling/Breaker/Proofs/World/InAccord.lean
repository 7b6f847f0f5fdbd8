import Breaker.Proofs.Causes
import Breaker.Proofs.World.Accord
import Breaker.World.Alarms

/-!
# InAccord — the acts in worlds that differ only in who listens

Whatever is done in one of two worlds in accord is done in the other, as long as no consumer calls back:
each act on a circuit, and each run of the timers.  A change of state is made against an episode, and the
same one may be given to both.

Only a report of an error whose text cannot be formed may tell the worlds apart (`accord_onError`): it is
given up where somebody listens and the text is to be told.
-/

namespace Breaker

open World (Accords)

variable {γ γ' : Type} {faulty : Prop} {id : CircuitId}

/-- Code of the user's that gives up for the text of an error at most, and only where a text may not be
formed. -/
def Watched.FailsForText {α : Type} (faulty : Prop) (x : Watched α) : Prop :=
  ∀ cause, x.observe.1 = .error cause → faulty ∧ ∃ said, cause = .unshown said

theorem Watched.failsForText_pure {α : Type} (a : α) : FailsForText faulty (pure a : Watched α) :=
  fun cause failed => absurd failed (observe_pure_ne_error a cause)

/-- The event of an error is formed from its text, and fails as the text does. -/
theorem Fault.observe_event {e : Fault} {form : String → Event} {cause : Abort}
    (failed : (Watched.observe (do return form (← e.text))).1 = .error cause) :
    ∃ said, e.shown = .error said ∧ cause = .unshown said := by
  unfold Fault.text at failed
  cases shown : e.shown with
  | ok text =>
    rw [shown] at failed
    cases failed
  | error said =>
    rw [shown] at failed
    cases failed
    exact ⟨said, rfl, rfl⟩

theorem Fault.failsForText {e : Fault} (fault : ∀ said, e.shown = .error said → faulty)
    (form : String → Event) : Watched.FailsForText faulty (do return form (← e.text)) := by
  intro cause failed
  obtain ⟨said, shown, rfl⟩ := observe_event failed
  exact ⟨fault said shown, said, rfl⟩

/-! ### At the circuits alone -/

theorem accord_modifyEpisode (f : Episode → Episode) :
    Accord faulty (modify (·.modifyEpisode id f) : Act γ PUnit)
      (modify (·.modifyEpisode id f) : Act γ' PUnit) :=
  .modify (·.modifyEpisode id f) (World.core_modifyEpisode · id f) (World.core_modifyEpisode · id f)
    fun w other => w.roster_modifyEpisode id other f

theorem accord_log {record : LogRecord} (kept : ∀ name, (Entry.log id name record).isNote = false) :
    Accord faulty (modify (·.log id record) : Act γ PUnit) (modify (·.log id record) : Act γ' PUnit) :=
  .modify (·.log id record) (World.core_log · id kept) (World.core_log · id kept) fun _ _ => rfl

/-- Remarks are made of no circuit. -/
theorem World.roster_remarks (w : World γ) (remarks : Array Remark) (other : CircuitId) :
    ((remarks.foldl (fun w r => w.write (.note (.remark r))) w).circuit other).roster
      = (w.circuit other).roster := by
  rw [(w.asked_remarks remarks).aside.circuit]

theorem accord_watch {α : Type} {x : Watched α}
    (other : ∀ cause, x.observe.1 = .error cause → ∀ said, cause ≠ .unshown said) :
    Accord faulty (watch x : Act γ α) (watch x : Act γ' α) := by
  unfold watch
  generalize x.observe = observed at other ⊢
  obtain ⟨result, remarks⟩ := observed
  have remarked : Accord faulty
      (modify fun w => remarks.foldl (fun w r => w.write (.note (.remark r))) w : Act γ PUnit)
      (modify fun w => remarks.foldl (fun w r => w.write (.note (.remark r))) w : Act γ' PUnit) :=
    .modify (fun u => u) (World.core_remarks · remarks) (World.core_remarks · remarks)
      fun w => w.roster_remarks remarks
  refine .bind remarked fun _ => ?_
  cases result with
  | ok a => exact .pure a
  | error cause => exact .throw (other cause rfl)

/-- Code of the user's may be asked in the first world only. -/
theorem accord_watch_left {α β : Type} {x : Watched α} {y : α → Act γ β} {y' : Act γ' β}
    (answered : ∀ a, x.observe.1 = .ok a → Accord faulty (y a) y')
    (gaveUp : ∀ cause, x.observe.1 = .error cause → Accord faulty (throw cause : Act γ β) y') :
    Accord faulty (watch x >>= y) y' := by
  intro w w' accords
  unfold watch
  generalize x.observe = observed at answered gaveUp ⊢
  obtain ⟨result, remarks⟩ := observed
  have remarked := accords.of_core_eq (World.core_remarks w remarks)
  cases result with
  | ok a => exact answered a rfl _ w' remarked
  | error cause => exact gaveUp cause rfl _ w' remarked

theorem accord_drawWait (attempt : Nat) :
    Accord faulty (drawWait id attempt : Act γ Duration) (drawWait id attempt : Act γ' Duration) := by
  unfold drawWait
  refine .get_bind fun w w' accords => ?_
  rw [accords.dice, accords.settings]
  have rolled : Accords { w with dice := w.dice.next } { w' with dice := w.dice.next } :=
    accords.of_core (fun u => { u with dice := w.dice.next }) rfl rfl
      fun other => World.roster_congr other rfl
  refine .bind (.set rolled) fun _ => accord_watch fun cause failed said => ?_
  have fails : (w.circuit id).settings.WaitFails cause := ⟨_, _, failed⟩
  obtain ⟨attempt, rfl⟩ := fails.noWait
  exact nofun

theorem accord_nextPhase (target : State) (attempts now : Nat) :
    Accord faulty (nextPhase id target attempts now : Act γ Phase)
      (nextPhase id target attempts now : Act γ' Phase) := by
  unfold nextPhase
  refine .get_bind fun w w' accords => ?_
  rw [accords.settings]
  exact .ite (.bind (accord_drawWait attempts) fun _ => .pure _) (.bind (.pure _) fun _ => .pure _)

theorem accord_release : Accord faulty (release id : Act γ Unit) (release id : Act γ' Unit) :=
  accord_modifyEpisode Episode.release

theorem accord_readMetrics :
    Accord faulty (readMetrics id : Act γ Metrics) (readMetrics id : Act γ' Metrics) := by
  unfold readMetrics
  refine .get_bind fun w w' accords => ?_
  dsimp only
  rw [accords.reading]
  refine .bind (accord_modifyEpisode _) fun _ => .get_bind fun v v' accords => ?_
  rw [accords.episode]
  exact .pure _

section Acts

variable {react : React γ} {react' : React γ'} (quiet : Quiet react) (quiet' : Quiet react')
include quiet quiet'

/-! ### Publishing -/

theorem accord_publish (event : Event) :
    Accord faulty (publish react id event) (publish react' id event) := by
  intro w w' accords
  exact .of_both (both_of_yields (quiet.publish fun v told => quiet'.publish fun v' told' =>
    ⟨rfl, accords.told told told'⟩))

/-- **An event that is yet to be formed** is formed for those who listen, and shown as it would be where
nobody does. -/
theorem accord_publishFormed {event : Watched Event} (fails : event.FailsForText faulty) :
    Accord faulty (publishFormed react id event) (publishFormed react' id event) := by
  unfold publishFormed
  refine .get_bind fun w w' accords => ?_
  have nobody : (w'.circuit id).roster.members.isEmpty = true := by rw [accords.nobody]; rfl
  rw [if_pos nobody]
  cases result : event.observe.1 with
  | ok formed =>
    dsimp only
    split
    · exact accord_publish quiet quiet' formed
    · refine accord_watch_left (fun event' same => ?_) fun cause failed => ?_
      · rw [result] at same
        cases same
        exact accord_publish quiet quiet' formed
      · rw [result] at failed
        cases failed
  | error cause =>
    dsimp only
    split
    · exact .pure ()
    · refine accord_watch_left (fun event' same => ?_) fun cause' failed => ?_
      · rw [result] at same
        cases same
      · obtain ⟨fault, said, rfl⟩ := fails cause' failed
        exact .throw_left fault said

theorem accord_publishCall (state : State) {event : Watched Event}
    (fails : event.FailsForText faulty) :
    Accord faulty (publishCall react id state event) (publishCall react' id state event) :=
  .ite (accord_publishFormed quiet quiet' fails) (.pure ())

theorem accord_publishBreach (rates : Rates) :
    Accord faulty (publishBreach react id rates) (publishBreach react' id rates) := by
  intro w w' accords
  refine .of_both (both_of_yields (quiet.publishBreach fun v told =>
    quiet'.publishBreach fun v' told' => ?_))
  rw [accords.settings] at told'
  exact ⟨rfl, accords.told told told'⟩

/-! ### Changes of state -/

/-- **A change of state**, against any episode. -/
theorem accord_transition (ticket : Episode) (target : State) (manual : Bool) (breach : Option Rates) :
    Accord faulty (transition react id ticket target manual breach)
      (transition react' id ticket target manual breach) := by
  unfold transition
  refine .get_bind fun w w' accords => ?_
  dsimp only
  rw [accords.reading]
  refine .bind (accord_nextPhase target _ _) fun phase => .get_bind fun v v' accords => ?_
  rw [accords.episode]
  refine .ite (.pure false) (.bind (.modify (·.change id phase _ _ manual)
    (World.core_change · id phase _ _ manual) (World.core_change · id phase _ _ manual)
    fun w other => w.roster_change id other phase _ _ manual) fun _ => ?_)
  have announced : Accord faulty
      (do
        publish react id (.transition ⟨ticket.state, target⟩)
        return true)
      (do
        publish react' id (.transition ⟨ticket.state, target⟩)
        return true) := .bind (accord_publish quiet quiet' _) fun _ => .pure true
  cases breach with
  | none => exact .bind (.pure ()) fun _ => announced
  | some rates => exact .bind (accord_publishBreach quiet quiet' rates) fun _ => announced

theorem accord_force (target : State) : Accord faulty (force react id target) (force react' id target) := by
  unfold force
  refine .get_bind fun w w' accords => ?_
  rw [accords.episode]
  exact .bind (accord_transition quiet quiet' _ _ _ _) fun _ => .pure ()

theorem accord_reset : Accord faulty (reset react id) (reset react' id) := by
  unfold reset
  refine .get_bind fun w w' accords => ?_
  dsimp only
  rw [accords.episode]
  have core {γ : Type} (v : World γ) :
      ((v.succeed id .closed 0 (v.reading id) true).log id (.reset (w.episode id).state)).core
        = (v.core.succeed id .closed 0 (v.core.reading id) true).log id
          (.reset (w.episode id).state) := by
    rw [World.core_log _ _ fun _ => rfl, World.core_succeed, World.core_reading]
  have closed : Accord faulty
      (modify fun v => (v.succeed id .closed 0 (v.reading id) true).log id
        (.reset (w.episode id).state) : Act γ PUnit)
      (modify fun v => (v.succeed id .closed 0 (v.reading id) true).log id
        (.reset (w.episode id).state) : Act γ' PUnit) :=
    .modify (fun u => (u.succeed id .closed 0 (u.reading id) true).log id
      (.reset (w.episode id).state)) core core
      fun v other => v.roster_succeed id other .closed 0 (v.reading id) true
  refine .bind closed fun _ => .ite ?_ ?_
  · exact .bind (accord_publish quiet quiet' _) fun _ => accord_publish quiet quiet' _
  · exact accord_publish quiet quiet' _

/-! ### Requests -/

theorem accord_refuse : Accord faulty (refuse react id) (refuse react' id) := by
  unfold refuse
  refine .bind (accord_modifyEpisode _) fun _ => .get_bind fun w w' accords => ?_
  dsimp only
  rw [accords.episode]
  exact .bind (accord_log fun _ => rfl) fun _ =>
    accord_publishCall quiet quiet' _ (Watched.failsForText_pure _)

/-- **A request**, however many episodes it goes through. -/
theorem accord_tryAcquire (tries : Nat) :
    Accord faulty (tryAcquire react id tries) (tryAcquire react' id tries) := by
  induction tries with
  | zero =>
    unfold tryAcquire
    exact .throw fun said same => by cases same
  | succ tries ih =>
    unfold tryAcquire
    refine .get_bind fun w w' accords => ?_
    dsimp only
    rw [accords.episode, accords.reading]
    cases (w.episode id).request (w.reading id) with
    | granted taken =>
      have both : Accords (w.setEpisode id taken) (w'.setEpisode id taken) :=
        accords.of_core (·.setEpisode id taken) (World.core_setEpisode ..) (World.core_setEpisode ..)
          fun other => w'.roster_setEpisode id other taken
      exact .bind (.set both) fun _ => .pure true
    | denied => exact .bind (accord_refuse quiet quiet') fun _ => .pure false
    | expired next => exact .bind (accord_transition quiet quiet' _ _ _ _) fun _ => ih

theorem accord_acquire (tries : Nat) :
    Accord faulty (acquire react id tries) (acquire react' id tries) := by
  unfold acquire
  refine .bind (accord_tryAcquire quiet quiet' tries) fun permitted => .ite (.pure _)
    (.get_bind fun w w' accords => ?_)
  have state : (w'.circuit id).episode.state = (w.circuit id).episode.state :=
    congrArg Episode.state (accords.episode id)
  dsimp only
  rw [accords.name, state]
  exact .pure _

/-! ### Reports -/

theorem accord_follow (ticket : Episode) (decision : Option Decision) :
    Accord faulty (follow react id ticket decision) (follow react' id ticket decision) := by
  unfold follow
  cases decision with
  | none => exact .pure ()
  | some decision =>
    cases decision with
    | trip | close => exact .bind (accord_transition quiet quiet' _ _ _ _) fun _ => .pure ()
    | tell rates =>
      exact .bind (accord_log fun _ => rfl) fun _ => accord_publishBreach quiet quiet' rates

section Recorded

variable {event : Watched Event} (fails : event.FailsForText faulty)
include fails

theorem accord_record (o : Outcome) :
    Accord faulty (record react id o event) (record react' id o event) := by
  unfold record
  refine .get_bind fun w w' accords => ?_
  dsimp only
  rw [accords.settings, accords.reading]
  refine .bind (accord_modifyEpisode _) fun _ => .get_bind fun v v' accords => ?_
  rw [accords.episode]
  have rest (decision : Option Decision) : Accord faulty
      (do
        publishCall react id (v.episode id).state event
        follow react id (v.episode id) decision)
      (do
        publishCall react' id (v.episode id).state event
        follow react' id (v.episode id) decision) :=
    .bind (accord_publishCall quiet quiet' _ fails) fun _ => accord_follow quiet quiet' _ _
  exact .ite (.bind (accord_modifyEpisode _) fun _ => rest _) (.bind (.pure _) fun _ => rest _)

theorem accord_ignore : Accord faulty (ignore react id event) (ignore react' id event) := by
  unfold ignore
  refine .bind accord_release fun _ => .get_bind fun w w' accords => ?_
  rw [accords.episode]
  exact accord_publishCall quiet quiet' _ fails

end Recorded

/-- **The report of an error** is classified alike, and then recorded or left out, unless its text is to be
told and cannot be formed. -/
theorem accord_onError (d : Duration) {e : Fault} (fault : ∀ said, e.shown = .error said → faulty) :
    Accord faulty (onError react id d e) (onError react' id d e) := by
  unfold onError
  refine .get_bind fun w w' accords => ?_
  dsimp only
  rw [accords.settings, accords.name]
  refine .bind (accord_watch fun cause failed => ?_) fun verdict => ?_
  · obtain ⟨text, rfl⟩ := Classifier.observe_onError failed
    exact nofun
  cases verdict with
  | success => exact accord_record quiet quiet' (Watched.failsForText_pure _) _
  | failure => exact accord_record quiet quiet' (Fault.failsForText fault (.error d)) _
  | ignored => exact accord_ignore quiet quiet' (Fault.failsForText fault (.ignoredError d))

/-- **A report** is classified alike, and then recorded or left out. -/
theorem accord_tell (d : Duration) (r : Report) :
    Accord faulty (r.tell react id d) (r.tell react' id d) := by
  cases r with
  | success =>
    unfold Report.tell onSuccess
    refine .get_bind fun w w' accords => ?_
    rw [accords.settings]
    exact accord_record quiet quiet' (Watched.failsForText_pure _) _
  | error e => exact accord_onError quiet quiet' d fun _ shown => nomatch shown
  | result v =>
    unfold Report.tell onResult
    refine .get_bind fun w w' accords => ?_
    dsimp only
    rw [accords.settings, accords.name]
    refine .bind (accord_watch fun cause failed => ?_) fun verdict => ?_
    · obtain ⟨text, rfl⟩ := Classifier.observe_onResult failed
      exact nofun
    cases verdict with
    | success | failure => exact accord_record quiet quiet' (Watched.failsForText_pure _) _
    | ignored => exact accord_ignore quiet quiet' (Watched.failsForText_pure _)

end Acts

section Timers

variable {react : CircuitId → React γ} {react' : CircuitId → React γ'}
  (quiet : ∀ id, Quiet (react id)) (quiet' : ∀ id, Quiet (react' id))

/-! ### Timers -/

/-- **A batch of timers**, each of which does the same. -/
theorem accord_runBatch {τ : Type} {isCancelled : Nat → Act γ Bool} {isCancelled' : Nat → Act γ' Bool}
    {run : τ → Act γ Unit} {run' : τ → Act γ' Unit}
    (looks : ∀ handle, Accord faulty (isCancelled handle) (isCancelled' handle))
    (runs : ∀ task, Accord faulty (run task) (run' task)) (batch : List (Timer τ)) :
    Accord faulty (Timers.runBatch isCancelled run batch) (Timers.runBatch isCancelled' run' batch) := by
  induction batch with
  | nil =>
    unfold Timers.runBatch
    exact .pure 0
  | cons t batch ih =>
    unfold Timers.runBatch
    exact .bind (looks t.handle) fun _ => .ite ih
      (.bind (runs t.task) fun _ => .bind ih fun rest => .pure (rest + 1))

include quiet quiet'

theorem accord_ring (busy : List CircuitId) (a : Alarm) :
    Accord faulty (ring react busy a) (ring react' busy a) := by
  unfold ring
  refine .get_bind fun w w' accords => ?_
  have present : w'.isPresent busy a.circuit = w.isPresent busy a.circuit := by
    rw [World.isPresent, World.isHeld, accords.handles]
    rfl
  dsimp only
  rw [accords.episode, present]
  exact .ite (.bind (accord_transition (quiet _) (quiet' _) _ _ _ _) fun _ => .pure ()) (.pure ())

theorem accord_runTimers (busy : List CircuitId) :
    Accord faulty (runTimers react busy) (runTimers react' busy) := by
  unfold runTimers
  refine .get_bind fun w w' accords => ?_
  dsimp only
  rw [accords.timers]
  have drained : Accord faulty (modify fun u => { u with timers := u.timers.drain } : Act γ PUnit)
      (modify fun u => { u with timers := u.timers.drain } : Act γ' PUnit) :=
    .modify (fun u => { u with timers := u.timers.drain }) (fun _ => rfl) (fun _ => rfl)
      fun _ other => World.roster_congr other rfl
  refine .bind drained fun _ => accord_runBatch (fun handle => .get_bind fun v v' accords => ?_)
    (accord_ring quiet quiet' busy) _
  rw [accords.timers]
  exact .pure _

theorem accord_ringAlone (busy : List CircuitId) (wakeup : Wakeup) :
    Accord faulty (ringAlone react busy wakeup) (ringAlone react' busy wakeup) := by
  intro w w' accords
  have rings : Alike False _ _ := accord_ring quiet quiet' busy wakeup.alarm w w' accords
  unfold ringAlone
  generalize ring react busy wakeup.alarm w = r, ring react' busy wakeup.alarm w' = r' at rings ⊢
  cases rings with
  | answered _ led => exact .answered () led
  | unshown fault => exact fault.elim
  | @gaveUp cause other v v' led =>
    cases cause with
    | unsettled => exact .gaveUp other led
    | predicate | noWait | unshown | consumer | task | emptyWindow => exact .answered () led

theorem accord_runThreads (busy : List CircuitId) :
    Accord faulty (runThreads react busy) (runThreads react' busy) := by
  unfold runThreads
  refine .get_bind fun w w' accords => ?_
  dsimp only
  rw [accords.threads, accords.elapsed]
  generalize w.threads.pending.partition (fun t => t.task.due ≤ w.elapsed) = batch
  have taken : Accords { w with threads := { w.threads with queue := batch.2.toArray } }
      { w' with
        elapsed := w.elapsed
        threads := { w.threads with queue := batch.2.toArray } } :=
    accords.of_core (fun u => { u with
      elapsed := w.elapsed
      threads := { w.threads with queue := batch.2.toArray } }) rfl rfl
      fun other => World.roster_congr other rfl
  refine .bind (.set taken) fun _ => .bind
    (accord_runBatch (fun handle => .get_bind fun v v' accords => ?_)
      (accord_ringAlone quiet quiet' busy) _) fun _ => .pure ()
  rw [accords.threads]
  exact .pure _

theorem accord_awaitState (busy : List CircuitId) (id : CircuitId) (state : State) (looks : Nat) :
    Accord faulty (awaitState react busy id state looks) (awaitState react' busy id state looks) := by
  have passed : Accord faulty
      (modify fun u => { u with elapsed := u.elapsed + nanosPerMilli } : Act γ PUnit)
      (modify fun u => { u with elapsed := u.elapsed + nanosPerMilli } : Act γ' PUnit) :=
    .modify (fun u => { u with elapsed := u.elapsed + nanosPerMilli }) (fun _ => rfl) (fun _ => rfl)
      fun _ other => World.roster_congr other rfl
  induction looks with
  | zero =>
    unfold awaitState
    refine .get_bind fun w w' accords => ?_
    rw [accords.episode]
    exact .pure _
  | succ looks ih =>
    unfold awaitState
    refine .get_bind fun w w' accords => ?_
    rw [accords.episode]
    exact .ite (.pure true) (.bind passed fun _ =>
      .bind (accord_runThreads quiet quiet' busy) fun _ => ih)

end Timers

end Breaker

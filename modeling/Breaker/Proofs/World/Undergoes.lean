import Mathlib
import Breaker.Proofs.Causes
import Breaker.Proofs.Episode.Edges
import Breaker.Proofs.World.Operation

/-!
# Undergoes — an operation as a circuit sees it

`World.Undergoes` says, for a circuit and any operation, which marks the circuit takes.  An operation
on the circuit does what `World.Does` says, and one on another circuit does nothing to it.  The timers
are run as a batch, and since each keeps to its contract (`World.Serves`), a batch moves a circuit at
most once, namely if the timer of its current episode is in it (`yields_runBatch`).

`Operation.yields_undergoes` puts this together for every operation in a sound world.
-/

namespace Breaker

variable {γ : Type}

namespace World

/-- What comes of an alarm that goes off. -/
inductive Rings (w : World γ) (busy : List CircuitId) (a : Alarm) (w' : World γ) : Prop where
  | rang (present : w.isPresent busy a.circuit = true)
      (current : a.episode = (w.episode a.circuit).number) (wait : Duration)
      (goes : w.Goes a.circuit [w.entering a.circuit a.target wait false] w')
  | silent (idle : ¬(w.isPresent busy a.circuit = true ∧
      a.episode = (w.episode a.circuit).number)) (same : w' = w)
  /-- The wait function gave up, and nobody learns of it. -/
  | muffled (fails : ∃ cause, (w.circuit a.circuit).settings.WaitFails cause) (aside : w.Aside w')

/-- Whether one of some alarms moves a circuit, if they go off. -/
def Due (w : World γ) (busy : List CircuitId) (id : CircuitId) (alarms : List Alarm) : Prop :=
  w.isPresent busy id = true ∧
    ∃ a ∈ alarms, a.circuit = id ∧ a.episode = (w.episode id).number

/-- What a circuit undergoes by some alarms. -/
inductive Rung (w : World γ) (busy : List CircuitId) (id : CircuitId) (alarms : List Alarm) :
    List Mark → Prop where
  | moved (due : w.Due busy id alarms) {at_ : Nat} {target : State}
      (timeout : (w.episode id).timeout? (w.circuit id).settings = some (at_, target))
      (wait : Duration) (timer : Option Nat) :
      Rung w busy id alarms [.entered target wait false timer]
  | spared (idle : ¬w.Due busy id alarms) : Rung w busy id alarms []
  | muffled (fails : ∃ cause, (w.circuit id).settings.WaitFails cause) : Rung w busy id alarms []

end World

namespace World

/-- What a circuit undergoes by some alarms, as seen from another moment. -/
theorem Rung.congr {w w' : World γ} {busy : List CircuitId} {id : CircuitId}
    {alarms alarms' : List Alarm} {marks : List Mark} (h : w'.Rung busy id alarms' marks)
    (settings : (w'.circuit id).settings = (w.circuit id).settings)
    (episode : w'.episode id = w.episode id)
    (due : w'.Due busy id alarms' ↔ w.Due busy id alarms) : w.Rung busy id alarms marks := by
  cases h with
  | moved due' timeout wait timer =>
    rw [settings, episode] at timeout
    exact .moved (due.mp due') timeout wait timer
  | spared idle => exact .spared fun due' => idle (due.mpr due')
  | muffled fails =>
    rw [settings] at fails
    exact .muffled fails

/-- An alarm that would not move the circuit does not matter to it. -/
theorem due_cons_iff {w w' : World γ} {busy : List CircuitId} {id : CircuitId} {a : Alarm}
    {alarms : List Alarm} (handles : w'.handles = w.handles) (episode : w'.episode id = w.episode id)
    (idle : w.isPresent busy id = true → a.circuit = id → a.episode ≠ (w.episode id).number) :
    w'.Due busy id alarms ↔ w.Due busy id (a :: alarms) := by
  have present : w'.isPresent busy id = w.isPresent busy id := by
    rw [isPresent, isHeld, handles]
    rfl
  rw [Due, Due, present, episode, List.exists_mem_cons_iff]
  constructor
  · exact fun ⟨there, later⟩ => ⟨there, .inr later⟩
  · rintro ⟨there, ⟨own, current⟩ | later⟩
    · exact absurd current (idle there own)
    · exact ⟨there, later⟩

/-- More alarms can only make it due. -/
theorem Due.cons {w : World γ} {busy : List CircuitId} {id : CircuitId} {a : Alarm}
    {alarms : List Alarm} (h : w.Due busy id alarms) : w.Due busy id (a :: alarms) := by
  obtain ⟨present, a', mem, both⟩ := h
  exact ⟨present, a', List.mem_cons_of_mem a mem, both⟩

namespace Rings

variable {w w' : World γ} {busy : List CircuitId} {a : Alarm}

theorem reaches (h : w.Rings busy a w') : w.Reaches w' := by
  cases h with
  | rang present current wait goes => exact goes.reaches
  | silent idle same => exact same ▸ .refl w
  | muffled fails aside => exact aside.reaches

theorem settings (h : w.Rings busy a w') (id : CircuitId) :
    (w'.circuit id).settings = (w.circuit id).settings := by
  cases h with
  | rang present current wait goes => exact goes.settings id
  | silent idle same => rw [same]
  | muffled fails aside => rw [aside.circuit]

theorem handles (h : w.Rings busy a w') : w'.handles = w.handles := by
  cases h with
  | rang present current wait goes => exact goes.handles
  | silent idle same => rw [same]
  | muffled fails aside => exact aside.handles

/-- An alarm does nothing to the other circuits. -/
theorem elsewhere (h : w.Rings busy a w') {id : CircuitId} (other : a.circuit ≠ id) :
    w.Course id [] w' := by
  cases h with
  | rang present current wait goes => exact goes.elsewhere other
  | silent idle same => exact same ▸ .refl id w
  | muffled fails aside => exact .of_aside aside id

/-- **The first of some alarms**: what a circuit undergoes by it and then by the others is what it
undergoes by all of them.  The others are of the episode that is current, or of older ones, so none of
them is of the episode that the first alarm may begin. -/
theorem rung (h : w.Rings busy a w') {id : CircuitId} (there : id < w.circuits.size)
    (target : a.episode = (w.episode a.circuit).number →
      ∃ due, (w.episode a.circuit).timeout? (w.circuit a.circuit).settings = some (due, a.target))
    {alarms : List Alarm} (older : ∀ a' ∈ alarms, a'.episode ≤ (w.episode a'.circuit).number) :
    ∃ marks, w.Course id marks w' ∧ ∀ marks', w'.Rung busy id alarms marks' →
      w.Rung busy id (a :: alarms) (marks ++ marks') := by
  by_cases own : a.circuit = id
  case neg =>
    have course := h.elsewhere own
    refine ⟨[], course, fun marks' rung => rung.congr course.settings course.episode ?_⟩
    exact due_cons_iff h.handles course.episode fun _ own' => absurd own' own
  case pos =>
    subst own
    cases h with
    | rang present current wait goes =>
      have course := goes.course there
      obtain ⟨due, timeout⟩ := target current
      have moved : w.Rung busy a.circuit (a :: alarms) [w.entering a.circuit a.target wait false] :=
        .moved ⟨present, a, List.mem_cons_self, rfl, current⟩ timeout wait _
      refine ⟨_, course, fun marks' rung => ?_⟩
      cases rung with
      | moved again =>
        obtain ⟨-, a', mem, same, newer⟩ := again
        have number : (w'.episode a.circuit).number = (w.episode a.circuit).number + 1 := by
          rw [course.episode]
          exact Episode.next_number ..
        have old := older a' mem
        rw [same] at old
        omega
      | spared => exact moved
      | muffled => exact moved
    | silent idle same =>
      subst same
      refine ⟨[], .refl _ _, fun marks' rung => rung.congr rfl rfl ?_⟩
      exact due_cons_iff rfl rfl fun present _ current => idle ⟨present, current⟩
    | muffled fails aside =>
      have course := Course.of_aside aside a.circuit
      refine ⟨[], course, fun marks' rung => ?_⟩
      -- the alarm was lost, so another one may still move the circuit
      have still : w.Rung busy a.circuit alarms marks' := by
        refine rung.congr course.settings course.episode ?_
        rw [Due, Due, isPresent, isHeld, aside.handles, aside.episode]
        rfl
      cases still with
      | moved due timeout wait timer => exact .moved due.cons timeout wait timer
      | spared => exact .muffled fails
      | muffled => exact .muffled fails

end Rings

end World

section Ring

variable {react : CircuitId → React γ} {w : World γ} {busy : List CircuitId} {a : Alarm}

theorem Quiet.ring (quiet : ∀ id, Quiet (react id)) {ok : Unit → World γ → Prop}
    {abort : Abort → World γ → Prop} (rings : ∀ after, w.Rings busy a after → ok () after)
    (failed : ∀ cause after, (w.circuit a.circuit).settings.WaitFails cause → w.Aside after →
      abort cause after) :
    Yields (ring react busy a) w ok abort := by
  unfold Breaker.ring
  simp only [yields_bind, yields_get, yields_ite, yields_pure, Bool.and_eq_true, beq_iff_eq]
  split
  case isTrue both =>
    refine (quiet a.circuit).transition (fun wait after _ goes => ?_)
      fun cause after _ drawn aside => failed cause after ⟨_, _, drawn⟩ aside
    exact rings after (.rang both.1 both.2.symm wait goes)
  case isFalse idle =>
    exact rings w (.silent (fun both => idle ⟨both.1, both.2.symm⟩) rfl)

/-- In real time nobody learns that an alarm was given up, unless the steps are used up. -/
theorem yields_ringAlone {wakeup : Wakeup} {ok : Unit → World γ → Prop}
    {abort : Abort → World γ → Prop}
    (h : Yields (ring react busy wakeup.alarm) w ok fun cause after =>
      (cause = .unsettled → abort cause after) ∧ (cause ≠ .unsettled → ok () after)) :
    Yields (ringAlone react busy wakeup) w ok abort := by
  unfold Yields at h ⊢
  unfold ringAlone
  cases result : ring react busy wakeup.alarm w with
  | ok _ after =>
    rw [result] at h
    exact h
  | error cause after =>
    rw [result] at h
    cases cause with
    | unsettled => exact h.1 rfl
    | predicate | noWait | unshown | consumer | task | emptyWindow => exact h.2 nofun

theorem Quiet.ringAlone (quiet : ∀ id, Quiet (react id)) {due : Nat} {ok : Unit → World γ → Prop}
    {abort : Abort → World γ → Prop} (rings : ∀ after, w.Rings busy a after → ok () after) :
    Yields (ringAlone react busy ⟨due, a⟩) w ok abort := by
  refine yields_ringAlone (Quiet.ring quiet rings fun cause after fails aside => ⟨?_, fun _ => ?_⟩)
  · exact fun unsettled => absurd unsettled fails.ne_unsettled
  · exact rings after (.muffled ⟨cause, fails⟩ aside)

end Ring

section Batch

variable {τ : Type} {isCancelled : Nat → Act γ Bool} {run : τ → Act γ Unit}

/-- **A batch of timers** moves a circuit at most once, namely if the timer of its current episode is
in it. -/
theorem yields_runBatch {source : TimerSource} (busy : List CircuitId) (alarm : τ → Alarm)
    (looks : ∀ (handle : Nat) (w : World γ),
      Yields (isCancelled handle) w (fun b after => b = w.isCancelled source handle ∧ w = after)
        fun _ _ => False)
    (runs : ∀ (task : τ) (w : World γ),
      Yields (run task) w (fun _ after => w.Rings busy (alarm task) after)
        fun cause _ => (w.circuit (alarm task).circuit).settings.WaitFails cause)
    {id : CircuitId} (batch : List (Timer τ)) {w : World γ} (there : id < w.circuits.size)
    (serves : ∀ t ∈ batch, w.Serves source t.handle (alarm t.task)) :
    Yields (Timers.runBatch isCancelled run batch) w
      (fun _ after => w.Reaches after ∧ ∃ marks, w.Course id marks after ∧
        w.Rung busy id (batch.map fun t => alarm t.task) marks)
      fun cause _ => ∃ i, (w.circuit i).settings.WaitFails cause := by
  induction batch generalizing w with
  | nil =>
    unfold Timers.runBatch
    rw [yields_pure]
    refine ⟨.refl w, [], .refl id w, .spared ?_⟩
    rintro ⟨-, a, mem, -⟩
    cases mem
  | cons t batch ih =>
    obtain ⟨first, later⟩ := List.forall_mem_cons.mp serves
    unfold Timers.runBatch
    simp only [yields_bind, yields_ite, yields_pure]
    refine (looks t.handle w).mono (fun b after seen => ?_) fun _ _ no => no.elim
    obtain ⟨rfl, rfl⟩ := seen
    -- the rest of the batch, after what the first timer did
    have rest {after : World γ} {marks : List Mark} (reaches : w.Reaches after)
        (settings : ∀ i, (after.circuit i).settings = (w.circuit i).settings)
        (course : w.Course id marks after)
        (rung : ∀ marks', after.Rung busy id (batch.map fun t => alarm t.task) marks' →
          w.Rung busy id ((t :: batch).map fun t => alarm t.task) (marks ++ marks')) :
        Yields (Timers.runBatch isCancelled run batch) after
          (fun _ last => w.Reaches last ∧ ∃ marks', w.Course id marks' last ∧
            w.Rung busy id ((t :: batch).map fun t => alarm t.task) marks')
          fun cause _ => ∃ i, (w.circuit i).settings.WaitFails cause := by
      refine (ih (Nat.lt_of_lt_of_le there course.size)
        fun t' mem => reaches.serves (later t' mem)).mono ?_ ?_
      · rintro _ last ⟨reaches', marks', course', rung'⟩
        exact ⟨reaches.trans reaches', _, course.trans course', rung marks' rung'⟩
      · rintro cause _ ⟨i, fails⟩
        exact ⟨i, by rwa [settings] at fails⟩
    split
    case isTrue cancelled =>
      have idle : w.isPresent busy id = true → (alarm t.task).circuit = id →
          (alarm t.task).episode ≠ (w.episode id).number := by
        rintro - rfl current
        rw [first.live current] at cancelled
        cases cancelled
      exact rest (.refl w) (fun _ => rfl) (.refl id w) fun marks' rung =>
        rung.congr rfl rfl (World.due_cons_iff rfl rfl idle)
    case isFalse =>
      refine (runs t.task w).mono (fun _ after rings => ?_)
        fun cause _ fails => ⟨(alarm t.task).circuit, fails⟩
      have older : ∀ a ∈ batch.map fun t => alarm t.task,
          a.episode ≤ (w.episode a.circuit).number := by
        intro a mem
        obtain ⟨t', mem', rfl⟩ := List.mem_map.mp mem
        exact (later t' mem').episode
      obtain ⟨marks, course, rung⟩ := rings.rung there first.target older
      exact rest rings.reaches rings.settings course rung

end Batch

namespace World

/-- Whether an operation runs the timer of a circuit's current episode. -/
def TimerRuns (w : World γ) (id : CircuitId) : Operation → Prop
  | .runTimers busy => w.isPresent busy id = true ∧ (w.circuit id).timerSource = some .shared ∧
    ∃ t ∈ w.timers.pending, (w.episode id).timer = some t.handle
  | .runThreads busy => w.isPresent busy id = true ∧ (w.circuit id).timerSource = some .threads ∧
    ∃ t ∈ w.threads.pending, t.task.due ≤ w.elapsed ∧ (w.episode id).timer = some t.handle
  | _ => False

/-- Running timers is an operation on no circuit. -/
theorem TimerRuns.off {w : World γ} {id : CircuitId} {op : Operation} (h : w.TimerRuns id op) :
    op.circuit? ≠ some id := by
  cases op with
  | runTimers | runThreads =>
    rintro ⟨⟩
  | request | acquire | report | release | force | reset | metrics | subscribe | unsubscribe
  | build | hold => exact h.elim

/-- What a circuit undergoes by an operation, with the answer it gives. -/
inductive Undergoes (w : World γ) (id : CircuitId) (op : Operation) :
    Answer → List Mark → Prop where
  | does {answer : Answer} {marks : List Mark} (h : w.Does id op answer marks) :
      Undergoes w id op answer marks
  | moved {answer : Answer} (runs : w.TimerRuns id op) {due : Nat} {target : State}
      (timeout : (w.episode id).timeout? (w.circuit id).settings = some (due, target))
      (wait : Duration) (timer : Option Nat) :
      Undergoes w id op answer [.entered target wait false timer]
  | spared {answer : Answer} (off : op.circuit? ≠ some id) (idle : ¬w.TimerRuns id op) :
      Undergoes w id op answer []
  /-- The timer ran, but the wait function gave up, and nobody learned of it. -/
  | muffled {answer : Answer} (off : op.circuit? ≠ some id)
      (fails : ∃ cause, (w.circuit id).settings.WaitFails cause) : Undergoes w id op answer []

/-- A request is answered after changes of state along edges. -/
theorem Asks.isProper {w : World γ} {id : CircuitId} {answer : Bool} {marks : List Mark}
    (h : w.Asks id answer marks) :
    ∀ t ∈ (w.episode id).turns (w.circuit id).settings (w.reading id) marks, t.IsProper := by
  obtain ⟨lapses, e, lapse, -, answered⟩ := h
  rcases answered with ⟨-, -, rfl⟩ | ⟨-, -, rfl⟩
  · rw [Episode.turns_append]
    simpa [Mark.turn?] using lapse.isProper
  · rw [Episode.turns_append]
    simpa [Mark.turn?] using lapse.isProper

/-- **Whatever a circuit undergoes**, each change of state is along an edge or made by hand. -/
theorem Undergoes.isProper {w : World γ} {id : CircuitId} {op : Operation} {answer : Answer}
    {marks : List Mark} (h : w.Undergoes id op answer marks) :
    ∀ t ∈ (w.episode id).turns (w.circuit id).settings (w.reading id) marks, t.IsProper := by
  cases h with
  | does does =>
    cases does with
    | request asks | acquired asks | refused asks => exact asks.isProper
    | @report d r marks told =>
      unfold Told at told
      split at told
      case h_1 o outcome => exact told.isProper
      case h_2 =>
        subst told
        simp [Mark.turn?]
    | release | metrics => simp [Mark.turn?]
    | force target wait =>
      intro t mem
      obtain rfl := List.mem_singleton.mp mem
      exact .inl rfl
    | reset =>
      intro t mem
      obtain rfl := List.mem_singleton.mp mem
      exact .inl rfl
  | moved runs timeout wait timer =>
    intro t mem
    obtain rfl := List.mem_singleton.mp mem
    exact .inr (Episode.isEdge_of_timeout timeout)
  | spared | muffled => simp

/-- A batch moves a circuit if the handle of its current episode is in it. -/
theorem due_iff {τ : Type} {w : World γ} {source : TimerSource} (alarm : τ → Alarm)
    {batch : List (Timer τ)} (serves : ∀ t ∈ batch, w.Serves source t.handle (alarm t.task))
    {busy : List CircuitId} {id : CircuitId} :
    w.Due busy id (batch.map fun t => alarm t.task) ↔
      w.isPresent busy id = true ∧ (w.circuit id).timerSource = some source ∧
        ∃ t ∈ batch, (w.episode id).timer = some t.handle := by
  constructor
  · rintro ⟨present, a, mem, both⟩
    obtain ⟨t, mem', rfl⟩ := List.mem_map.mp mem
    obtain ⟨place, timer⟩ := ((serves t mem').own id).mp both
    exact ⟨present, place, t, mem', timer⟩
  · rintro ⟨present, place, t, mem, timer⟩
    exact ⟨present, _, List.mem_map_of_mem mem, ((serves t mem).own id).mpr ⟨place, timer⟩⟩

end World

section Timers

variable {react : CircuitId → React γ} {w : World γ} {id : CircuitId}

/-- What a batch comes to, where running the operation took it from a queue. -/
private theorem undergoes_of_rung {op : Operation} {answer : Answer} {busy : List CircuitId}
    {alarms : List Alarm} {w' : World γ} {marks : List Mark} (off : op.circuit? ≠ some id)
    (rung : w'.Rung busy id alarms marks) (circuit : w'.circuit id = w.circuit id)
    (due : w'.Due busy id alarms ↔ w.TimerRuns id op) : w.Undergoes id op answer marks := by
  have episode : w'.episode id = w.episode id := by rw [World.episode, circuit, World.episode]
  cases rung with
  | moved due' timeout wait timer =>
    rw [circuit, episode] at timeout
    exact .moved (due.mp due') timeout wait timer
  | spared idle => exact .spared off fun runs => idle (due.mpr runs)
  | muffled fails =>
    rw [circuit] at fails
    exact .muffled off fails

/-- The world whose timers were taken from the queue. -/
def World.withoutTimers (w : World γ) : World γ := { w with timers := w.timers.drain }

theorem yields_runTimers (quiet : ∀ id, Quiet (react id)) (sound : w.Sound)
    (there : id < w.circuits.size) (busy : List CircuitId) :
    Yields (runTimers react busy) w
      (fun n after => w.Reaches after ∧ ∃ marks, w.Course id marks after ∧
        w.Undergoes id (.runTimers busy) (.count n) marks)
      fun cause _ => ∃ i, (w.circuit i).settings.WaitFails cause := by
  have drained : w.Reaches w.withoutTimers := (World.Move.drain w).reaches
  have course : w.Course id [] w.withoutTimers :=
    .of_circuit_eq rfl rfl rfl (Nat.le_refl _) ⟨[], (Array.append_empty).symm, rfl⟩
  have serves : ∀ t ∈ w.timers.pending, w.withoutTimers.Serves .shared t.handle t.task :=
    fun t mem => drained.serves (sound.serves_timers t mem)
  have there' : id < w.withoutTimers.circuits.size := there
  unfold Breaker.runTimers
  simp only [yields_bind, yields_get, yields_modify]
  refine (yields_runBatch busy (fun a => a) (fun handle w' => ?_) (fun a w' => ?_) w.timers.pending
    there' serves).mono ?_ fun _ _ fails => fails
  · simp only [yields_bind, yields_get, yields_pure]
    exact ⟨rfl, trivial⟩
  · exact Quiet.ring quiet (fun _ rings => rings) fun _ _ fails _ => fails
  · rintro n after ⟨reaches, marks, course', rung⟩
    refine ⟨drained.trans reaches, marks, course.trans course', ?_⟩
    exact undergoes_of_rung (by rintro ⟨⟩) rung rfl (World.due_iff (fun a => a) serves)

/-- The world with the timers in real time that are not due yet. -/
def World.withoutDue (w : World γ) : World γ :=
  { w with threads := { w.threads with
      queue := w.threads.queue.filter fun t => !decide (t.task.due ≤ w.elapsed) } }

/-- The timers in real time that are due, in the order they go off. -/
def World.dueThreads (w : World γ) : List (Timer Wakeup) :=
  byDue (w.threads.pending.filter fun t => t.task.due ≤ w.elapsed)

theorem World.mem_dueThreads {t : Timer Wakeup} :
    t ∈ w.dueThreads ↔ t ∈ w.threads.pending ∧ t.task.due ≤ w.elapsed := by
  rw [dueThreads, byDue, List.mem_mergeSort, List.mem_filter, decide_eq_true_iff]

/-- The timers that are due are taken from the queue and run as a batch. -/
theorem yields_runThreads_iff {busy : List CircuitId} {ok : Unit → World γ → Prop}
    {abort : Abort → World γ → Prop} :
    Yields (runThreads react busy) w ok abort ↔
      Yields (Timers.runBatch (fun handle => return (← get).threads.isCancelled handle)
        (ringAlone react busy) w.dueThreads) w.withoutDue (fun _ after => ok () after) abort := by
  have queue : (List.filter (not ∘ fun t => decide (t.task.due ≤ w.elapsed))
      w.threads.pending).toArray
      = w.threads.queue.filter fun t => !decide (t.task.due ≤ w.elapsed) := by
    apply Array.ext'
    rw [Array.toList_filter]
    rfl
  unfold Breaker.runThreads
  simp only [yields_bind, yields_get, yields_set, yields_pure, List.partition_eq_filter_filter,
    queue]
  exact Iff.rfl

theorem yields_runThreads (quiet : ∀ id, Quiet (react id)) (sound : w.Sound)
    (there : id < w.circuits.size) (busy : List CircuitId) :
    Yields (runThreads react busy) w
      (fun _ after => w.Reaches after ∧ ∃ marks, w.Course id marks after ∧
        w.Undergoes id (.runThreads busy) .nothing marks)
      fun cause _ => ∃ i, (w.circuit i).settings.WaitFails cause := by
  have thinned : w.Reaches w.withoutDue := (World.Move.thin w _).reaches
  have course : w.Course id [] w.withoutDue :=
    .of_circuit_eq rfl rfl rfl (Nat.le_refl _) ⟨[], (Array.append_empty).symm, rfl⟩
  have serves : ∀ t ∈ w.dueThreads, w.withoutDue.Serves .threads t.handle t.task.alarm :=
    fun t mem => thinned.serves (sound.serves_threads t (World.mem_dueThreads.mp mem).1)
  have there' : id < w.withoutDue.circuits.size := there
  rw [yields_runThreads_iff]
  refine (yields_runBatch busy Wakeup.alarm (fun handle w' => ?_) (fun wakeup w' => ?_) w.dueThreads
    there' serves).mono ?_ fun _ _ fails => fails
  · simp only [yields_bind, yields_get, yields_pure]
    exact ⟨rfl, trivial⟩
  · exact Quiet.ringAlone quiet fun _ rings => rings
  · rintro n after ⟨reaches, marks, course', rung⟩
    refine ⟨thinned.trans reaches, marks, course.trans course', ?_⟩
    refine undergoes_of_rung (by rintro ⟨⟩) rung rfl ((World.due_iff Wakeup.alarm serves).trans ?_)
    refine and_congr Iff.rfl (and_congr Iff.rfl (exists_congr fun t => ?_))
    rw [World.mem_dueThreads, and_assoc]
    exact Iff.rfl

end Timers

namespace Operation

variable {react : CircuitId → React γ} {w : World γ} {id : CircuitId}

/-- An operation on a circuit that is not there does nothing. -/
theorem yields_of_size_le {op : Operation} {i : CircuitId} (on : op.circuit? = some i)
    (beyond : w.circuits.size ≤ i) {ok : Answer → World γ → Prop} {abort : Abort → World γ → Prop}
    (h : ok .noCircuit w) : Yields (op.run react) w ok abort := by
  cases op with
  | request | acquire | report | release | force | reset | metrics =>
    cases on
    unfold run onCircuit
    simp only [yields_bind, yields_get, yields_ite, yields_pure, if_neg (Nat.not_lt.mpr beyond)]
    exact h
  | subscribe | unsubscribe | runTimers | runThreads | build | hold => cases on

theorem not_timerRuns {op : Operation} {i : CircuitId} (on : op.circuit? = some i) :
    ¬w.TimerRuns id op := by
  cases op with
  | request | acquire | report | release | force | reset | metrics => exact fun runs => runs
  | subscribe | unsubscribe | runTimers | runThreads | build | hold => cases on

/-- **An operation, as a circuit sees it**, in any sound world. -/
theorem yields_undergoes (quiet : ∀ id, Quiet (react id)) (sound : w.Sound)
    (there : id < w.circuits.size) (op : Operation) :
    Yields (op.run react) w
      (fun answer after => w.Reaches after ∧ ∃ marks, w.Course id marks after ∧
        w.Undergoes id op answer marks)
      fun cause _ => w.MayFail op cause := by
  cases on : op.circuit? with
  | some i =>
    have idle : ¬w.TimerRuns id op := not_timerRuns on
    by_cases present : i < w.circuits.size
    · refine (yields_run quiet present on).mono ?_ fun _ _ fails => fails
      rintro answer after ⟨marks, goes, does⟩
      refine ⟨goes.reaches, ?_⟩
      by_cases own : i = id
      · subst own
        exact ⟨marks, goes.course there, .does does⟩
      · exact ⟨[], goes.elsewhere own, .spared (by rw [on]; simpa using own) idle⟩
    · have beyond := Nat.le_of_not_lt present
      refine yields_of_size_le on beyond ⟨.refl w, [], .refl id w, .spared ?_ idle⟩
      rintro own
      obtain rfl : i = id := Option.some.inj (on.symm.trans own)
      exact present there
  | none =>
    have off : op.circuit? ≠ some id := by
      rw [on]
      rintro ⟨⟩
    cases op with
    | request | acquire | report | release | force | reset | metrics => cases on
    | runTimers busy =>
      unfold run
      simp only [yields_bind, yields_pure]
      exact (yields_runTimers quiet sound there busy).mono (fun _ _ h => h)
        fun _ _ fails => .inl fails
    | runThreads busy =>
      unfold run
      simp only [yields_bind, yields_pure]
      exact (yields_runThreads quiet sound there busy).mono (fun _ _ h => h)
        fun _ _ fails => .inl fails
    | hold handles =>
      unfold run
      simp only [yields_bind, yields_modify, yields_pure]
      exact ⟨(World.Move.hold w handles).reaches, [],
        .of_circuit_eq rfl rfl rfl (Nat.le_refl _) ⟨[], (Array.append_empty).symm, rfl⟩,
        .spared off fun runs => runs⟩
    | build b =>
      unfold run
      simp only [yields_bind, yields_get]
      cases built : b.build w with
      | ok c =>
        simp only [yields_bind, yields_set, yields_pure]
        have circuit := World.circuit_addCircuit_of_ne w c (Nat.ne_of_lt there)
        have size : w.circuits.size ≤ (w.addCircuit c).circuits.size := by
          rw [World.addCircuit, Array.size_push]
          exact Nat.le_succ _
        exact ⟨(World.Move.build w b built).reaches, [],
          .of_circuit_eq circuit rfl rfl size ⟨[], (Array.append_empty).symm, rfl⟩,
          .spared off fun runs => runs⟩
      | error refusal =>
        rw [yields_pure]
        exact ⟨.refl w, [], .refl id w, .spared off fun runs => runs⟩
    | subscribe i filter consumer =>
      unfold run onCircuit
      simp only [yields_bind, yields_get, yields_ite, yields_modify, yields_pure]
      split
      · exact ⟨(World.Move.enrol w i _).reaches, [], .enrol id w i _,
          .spared off fun runs => runs⟩
      · exact ⟨.refl w, [], .refl id w, .spared off fun runs => runs⟩
    | unsubscribe i number =>
      unfold run onCircuit
      simp only [yields_bind, yields_get, yields_ite, yields_modify, yields_pure]
      split
      · exact ⟨(World.Move.enrol w i _).reaches, [], .enrol id w i _,
          .spared off fun runs => runs⟩
      · exact ⟨.refl w, [], .refl id w, .spared off fun runs => runs⟩

end Operation

end Breaker

import Breaker.Proofs.World.Frame
import Breaker.Proofs.Drill.Fit

/-!
# Turns — whose turn comes when in a drill

The record of a drill tells what became of the timers (`Kept`), and each of its lines fits those before
it.  Runs within runs do not disturb this: what is recorded while a run goes on, between two turns, is not
about that run (`Extends.apart`), and runs that begin meanwhile end meanwhile (`Extends.settled`).  The
induction is on how a drill proceeds (`Proceeds.goes`).

So the record of any drill is `Lawful`.  In a drill whose tasks never give up, every run gives all of its
batch their turn and returns (`batches_in_turn`).  A task that gives up ends the runs under way, and those
of their batches whose turn had not come are lost: they neither wait nor ever get one
(`lost_with_who_gave_up`).  The script of a task is no restriction on what it does, since it runs once.
-/

namespace Breaker.Drill

/-! ### The record and the timers -/

/-- The record tells what became of the timers. -/
structure Kept (m : Moment) : Prop where
  fit : Fit m.record
  waits : m.ground.timers.pending = waiting m.record
  next : m.ground.timers.nextHandle = (scheduled m.record).length
  flags : ∀ handle, m.ground.timers.isCancelled handle = true ↔ handle ∈ cancelled m.record
  /-- Names stand for handles that were given. -/
  known : ∀ p ∈ m.ground.handles, p.2 < m.ground.timers.nextHandle

namespace Kept

variable {m : Moment}

theorem start : Kept .start where
  fit := .nil
  waits := rfl
  next := rfl
  flags := by simp [Moment.start, Ground.empty, Timers.isCancelled, Timers.empty, cancelled]
  known := by simp [Moment.start, Ground.empty]

theorem note (h : Kept m) (n : Note) : Kept (m.note n) := ⟨h.fit, h.waits, h.next, h.flags, h.known⟩

/-- A line that leaves the timers alone. -/
theorem jot (h : Kept m) {line : Line} (fits : line.Fits m.record) (scheduled_eq : line.scheduled? = none)
    (cancelled_eq : line.cancelled? = none) (taken_eq : line.taken = []) : Kept (m.jot line) where
  fit := h.fit.snoc fits
  waits := by
    show m.ground.timers.pending = waiting (m.record ++ [line])
    rw [h.waits, waiting, waiting, scheduled_append, taken_append, scheduled_singleton, taken_singleton,
      scheduled_eq, taken_eq, List.append_nil, Option.toList_none, List.append_nil]
  next := by
    show m.ground.timers.nextHandle = (scheduled (m.record ++ [line])).length
    rw [h.next, scheduled_append, scheduled_singleton, scheduled_eq, Option.toList_none, List.append_nil]
  flags := fun handle => by
    show m.ground.timers.isCancelled handle = true ↔ handle ∈ cancelled (m.record ++ [line])
    rw [h.flags, cancelled_append, cancelled_singleton, cancelled_eq, Option.toList_none,
      List.append_nil]
  known := h.known

/-- A run begins. -/
theorem drain (h : Kept m) : Kept m.drain where
  fit := h.fit.snoc ⟨rfl, h.waits⟩
  waits := by
    show [] = waiting (m.record ++ [.drained m.nextRun m.ground.timers.pending])
    rw [h.waits, Fit.waiting_drained h.fit.taken_append_waiting]
  next := by
    show m.ground.timers.nextHandle = (scheduled (m.record ++ [_])).length
    rw [h.next]
    simp
  flags := fun handle => by
    show m.ground.timers.isCancelled handle = true ↔ handle ∈ cancelled (m.record ++ [_])
    rw [h.flags]
    simp
  known := h.known

theorem schedule (h : Kept m) (name : String) (delay : Duration) (script : List Step) :
    Kept (m.schedule name delay script) where
  fit := h.fit.snoc h.next
  waits := by
    rw [Moment.schedule, Timers.pending_schedule, h.waits]
    exact (h.fit.waiting_scheduled h.fit.taken_append_waiting h.next).symm
  next := by
    rw [Moment.schedule, Timers.nextHandle_schedule, h.next]
    simp
  flags := fun handle => by
    rw [Moment.schedule, Timers.isCancelled_schedule, h.flags]
    simp
  known := fun p mem => by
    rw [Moment.schedule, Timers.nextHandle_schedule, Nat.lt_succ_iff]
    obtain rfl | mem := List.mem_cons.mp mem
    · exact Nat.le_refl _
    · exact (h.known p (List.mem_filter.mp mem).1).le

/-- A handle that a name stands for is cancelled. -/
theorem cancel (h : Kept m) {name : String} {handle : Nat}
    (known : m.ground.handles.lookup name = some handle) : Kept (m.cancel handle) := by
  obtain ⟨before, rest, handles, -⟩ := List.lookup_eq_some_iff.mp known
  have given : handle < m.ground.timers.nextHandle := h.known (name, handle) (by simp [handles])
  have fits : Line.Fits m.record (.cancelled handle) := by
    show handle < (scheduled m.record).length
    rwa [← h.next]
  constructor
  case fit => exact h.fit.snoc fits
  case waits =>
    rw [Moment.cancel, Timers.pending_cancel, h.waits, waiting, waiting]
    simp
  case next =>
    rw [Moment.cancel, Timers.nextHandle_cancel, h.next]
    simp
  case flags =>
    intro other
    rw [Moment.cancel, Timers.isCancelled_cancel, Bool.or_eq_true, h.flags, decide_eq_true_eq]
    simp only [cancelled_append, cancelled_singleton, Line.cancelled?, Option.toList_some,
      List.mem_append, List.mem_singleton]
    refine or_congr_right ⟨fun both => both.1.symm, fun same => ⟨same.symm, same ▸ given⟩⟩
  case known =>
    intro p mem
    rw [Moment.cancel, Timers.nextHandle_cancel]
    exact h.known p mem

theorem delays (h : Kept m) : m.ground.timers.delays
    = ((waiting m.record).filter fun t => t.handle ∉ cancelled m.record).map Timer.delay := by
  rw [Timers.delays, Timers.live, h.waits]
  refine congrArg (List.map _) (List.filter_congr fun t _ => ?_)
  rw [Bool.eq_iff_iff, Bool.not_eq_true', decide_eq_true_eq, ← h.flags, Bool.not_eq_true]

theorem list (h : Kept m) : Kept (m.jot (.listed m.ground.timers.delays)) := by
  have fits : Line.Fits m.record (.listed m.ground.timers.delays) := h.delays
  exact h.jot fits rfl rfl rfl

end Kept

/-! ### Runs within runs -/

/-- What a record gains while the lines about one run, if any, are its own. -/
structure Extends (own : Option Nat) (past record : List Line) : Prop where
  grows : past <+: record
  /-- Nothing is about another run that had begun. -/
  apart : ∀ n ∈ begun past, own ≠ some n → about n record = about n past
  /-- A run that begins meanwhile ends meanwhile. -/
  settled : ∀ n ∈ begun record, n ∈ begun past ∨ ended (about n record) ≠ []

namespace Extends

variable {own : Option Nat} {past record later : List Line}

theorem begun_subset (h : Extends own past record) : begun past ⊆ begun record := by
  obtain ⟨new, rfl⟩ := h.grows
  rw [begun_append]
  exact List.subset_append_left _ _

theorem refl (own : Option Nat) (past : List Line) : Extends own past past :=
  ⟨List.prefix_rfl, fun _ _ _ => rfl, fun _ mem => .inl mem⟩

theorem trans (h : Extends own past record) (h' : Extends own record later) :
    Extends own past later where
  grows := h.grows.trans h'.grows
  apart := fun n mem other => (h'.apart n (h.begun_subset mem) other).trans (h.apart n mem other)
  settled := fun n mem => by
    obtain old | ends := h'.settled n mem
    · refine (h.settled n old).imp_right fun ends => ?_
      obtain ⟨new, rfl⟩ := h'.grows
      rw [about_append, ended_append]
      exact List.append_ne_nil_of_left_ne_nil ends _
    · exact .inr ends

/-- Lines that are about no run but one's own, and with which none begins. -/
theorem append {new : List Line} (begins : begun new = [])
    (mine : ∀ line ∈ new, line.run? = none ∨ line.run? = own) : Extends own past (past ++ new) where
  grows := List.prefix_append _ _
  apart := fun n _ other => by
    have nothing : about n new = [] := by
      refine List.filter_eq_nil_iff.mpr fun line mem same => ?_
      have about_n : line.run? = some n := of_decide_eq_true same
      obtain none | own := mine line mem
      · cases none.symm.trans about_n
      · exact other (own.symm.trans about_n)
    rw [about_append, nothing, List.append_nil]
  settled := fun n mem => by
    rw [begun_append, begins, List.append_nil] at mem
    exact .inl mem

/-- What does not touch other runs does not touch those of one's own batch. -/
theorem weaken (h : Extends none past record) : Extends own past record :=
  ⟨h.grows, fun n mem _ => h.apart n mem (by simp), h.settled⟩

/-- A run that begins, and ends. -/
theorem of_run {batch : List (Timer Task)} {n : Nat} (new : n ∉ begun past)
    (h : Extends (some n) (past ++ [.drained n batch]) record) (ends : ended (about n record) ≠ []) :
    Extends none past record where
  grows := (List.prefix_append _ _).trans h.grows
  apart := fun n' mem _ => by
    have other : n ≠ n' := fun same => new (same ▸ mem)
    rw [h.apart n' (by simp [mem]) (by simpa using other)]
    simp [other]
  settled := fun n' mem => by
    obtain old | ends' := h.settled n' mem
    · rw [begun_append, List.mem_append] at old
      refine old.imp_right fun same => ?_
      obtain rfl : n' = n := by simpa using same
      exact ends
    · exact .inr ends'

end Extends

/-- A run goes on, and the rest of its batch had no turn so far. -/
structure Underway (record : List Line) (n ran : Nat) (rest : List (Timer Task)) : Prop where
  there : n ∈ begun record
  goesOn : ended (about n record) = []
  all : taken (about n record) = turned (about n record) ++ rest
  count : (started (about n record)).length = ran

namespace Underway

variable {past record : List Line} {n ran : Nat} {t : Timer Task} {rest : List (Timer Task)}

theorem due (h : Underway past n ran (t :: rest)) : Due past n t := ⟨h.goesOn, rest, h.all⟩

/-- The turn of a task has come. -/
theorem turn {line : Line} (h : Underway past n ran (t :: rest)) (run : line.run? = some n)
    (turn : line.turn? = some t) (ends : line.ended? = none) (takes : line.taken = []) :
    Underway (past ++ [line]) n (ran + line.start?.toList.length) rest := by
  have about_eq : about n (past ++ [line]) = about n past ++ [line] := by
    rw [about_append, about_singleton, if_pos run]
  constructor
  case there =>
    rw [begun_append]
    exact List.mem_append_left _ h.there
  case goesOn => rw [about_eq, ended_append, ended_singleton, h.goesOn, ends, Option.toList_none,
    List.append_nil]
  case all =>
    rw [about_eq, taken_append, taken_singleton, takes, turned_append, turned_singleton, turn, h.all]
    simp
  case count => rw [about_eq, started_append, started_singleton, List.length_append, h.count]

/-- What is not about a run that goes on leaves it as it is. -/
theorem of_extends (h : Underway past n ran rest) (grows : Extends none past record) :
    Underway record n ran rest := by
  have same : about n record = about n past := grows.apart n h.there (by simp)
  constructor
  case there => exact grows.begun_subset h.there
  case goesOn => rw [same, h.goesOn]
  case all => rw [same, h.all]
  case count => rw [same, h.count]

end Underway

/-- What has to be so when something is about to go on. -/
def Stage.Ready (record : List Line) : Stage → Prop
  | .batch n ran rest => Underway record n ran rest
  | _ => True

/-- What is so when something has ended. -/
def Stage.Done (record : List Line) : Stage → Ending → Prop
  | .batch n _ _, .answered answer => ∃ ran, answer = .count ran ∧ Underway record n ran []
  | .batch n _ _, .gaveUp => ended (about n record) ≠ []
  | _, _ => True

theorem Stage.Done.rest {record : List Line} {n ran ran' : Nat} {rest rest' : List (Timer Task)}
    {e : Ending} (h : Stage.Done record (.batch n ran rest) e) :
    Stage.Done record (.batch n ran' rest') e := by
  cases e with
  | answered answer => exact h
  | gaveUp => exact h

/-- The run whose batch is under way. -/
def Stage.run? : Stage → Option Nat
  | .batch n _ _ => some n
  | _ => none

/-- The next run is about to go on. -/
theorem Kept.underway {m : Moment} (h : Kept m) :
    Underway m.drain.record m.nextRun 0 m.ground.timers.pending := by
  have about_eq : about m.nextRun m.drain.record
      = [.drained m.nextRun m.ground.timers.pending] := by
    rw [Moment.drain, about_append, Moment.nextRun, h.fit.about_next]
    simp
  constructor
  case there => simp [Moment.drain]
  case goesOn | all | count =>
    rw [about_eq]
    simp

/-- A task whose turn comes starts unless it is cancelled. -/
theorem Kept.starts {m : Moment} (h : Kept m) {n ran : Nat} {t : Timer Task}
    {rest : List (Timer Task)} (underway : Underway m.record n ran (t :: rest))
    (live : m.ground.timers.isCancelled t.handle = false) :
    Kept ((m.jot (.started n t)).note (.ran t.task.name)) ∧
      Underway (m.record ++ [.started n t]) n (ran + 1) rest := by
  have fits : Line.Fits m.record (.started n t) := by
    refine ⟨underway.due, fun mem => ?_⟩
    rw [(h.flags t.handle).mpr mem] at live
    cases live
  exact ⟨(h.jot fits rfl rfl rfl).note _, underway.turn rfl rfl rfl rfl⟩

/-- What goes on keeps record of the timers, and of its own run to the end. -/
structure Goes (stage : Stage) (m : Moment) (e : Ending) (m' : Moment) : Prop where
  kept : Kept m'
  grows : Extends stage.run? m.record m'.record
  done : stage.Done m'.record e
  /-- Who gives up ends what is under way. -/
  calm : e ≠ .gaveUp → broken m'.record = broken m.record

/-- **What goes on, goes in order.** -/
theorem Proceeds.goes {stage : Stage} {m m' : Moment} {e : Ending} (h : Proceeds stage m e m')
    (kept : Kept m) (ready : stage.Ready m.record) : Goes stage m e m' := by
  induction h with
  | schedules name delay script m =>
    refine ⟨kept.schedule name delay script, .append rfl (by simp), trivial, fun _ => ?_⟩
    simp [Moment.schedule]
  | @cancels name handle m known =>
    refine ⟨kept.cancel known, .append rfl (by simp), trivial, fun _ => ?_⟩
    simp [Moment.cancel]
  | lists m =>
    refine ⟨kept.list, .append rfl (by simp), trivial, fun _ => ?_⟩
    simp [Moment.jot]
  | cancelsNone | asks | describes | givesUp | scriptDone =>
    exact ⟨kept, .refl _ _, trivial, fun _ => rfl⟩
  | @runs m m' count batch ih =>
    have new : m.nextRun ∉ begun m.record := kept.fit.next_run
    have inner := ih kept.drain kept.underway
    obtain ⟨ran, counted, done⟩ := inner.done
    obtain rfl : count = ran := Answer.count.inj counted
    have fits : Line.Fits m'.record (.returned m.nextRun count) :=
      ⟨done.there, done.goesOn, by rw [done.all, List.append_nil], done.count.symm⟩
    have returns : Extends (some m.nextRun) m'.record (m'.record ++ [.returned m.nextRun count]) :=
      .append rfl (by simp)
    constructor
    case kept => exact inner.kept.jot fits rfl rfl rfl
    case grows => exact .of_run new (inner.grows.trans returns) (by simp [Moment.jot])
    case done => trivial
    case calm =>
      intro _
      show broken (m'.record ++ [_]) = _
      rw [broken_append, inner.calm (by simp)]
      simp [Moment.drain]
  | @breaksOff m m' batch ih =>
    have new : m.nextRun ∉ begun m.record := kept.fit.next_run
    have inner := ih kept.drain kept.underway
    exact ⟨inner.kept, .of_run new inner.grows inner.done, trivial, fun calm => absurd rfl calm⟩
  | @scriptNext name step steps m m₁ m' answer e first rest ih ih' =>
    have head := ih kept trivial
    have tail := ih' (head.kept.note _) trivial
    exact ⟨tail.kept, head.grows.trans tail.grows, trivial,
      fun calm => (tail.calm calm).trans (head.calm (by simp))⟩
  | @scriptGivesUp name step steps m m' first ih =>
    have head := ih kept trivial
    exact ⟨head.kept, head.grows, trivial, fun calm => absurd rfl calm⟩
  | batchDone run ran m => exact ⟨kept, .refl _ _, ⟨ran, rfl, ready⟩, fun _ => rfl⟩
  | @passes run ran t batch m m' e cancelled rest ih =>
    have underway : Underway m.record run ran (t :: batch) := ready
    have fits : Line.Fits m.record (.passed run t) :=
      ⟨underway.due, (kept.flags t.handle).mp cancelled⟩
    have tail := ih (kept.jot fits rfl rfl rfl) (underway.turn rfl rfl rfl rfl)
    have turn : Extends (some run) m.record (m.record ++ [.passed run t]) := .append rfl (by simp)
    refine ⟨tail.kept, turn.trans tail.grows, tail.done.rest, fun calm => (tail.calm calm).trans ?_⟩
    simp [Moment.jot]
  | @starts run ran t batch m m₁ m' e live task rest ih ih' =>
    obtain ⟨begins, underway⟩ := kept.starts ready live
    have head := ih begins trivial
    -- the script of the task leaves the run as it is
    have tail := ih' head.kept (underway.of_extends head.grows)
    have turn : Extends (some run) m.record (m.record ++ [.started run t]) := .append rfl (by simp)
    refine ⟨tail.kept, turn.trans (head.grows.weaken.trans tail.grows), tail.done.rest,
      fun calm => (tail.calm calm).trans ((head.calm (by simp)).trans ?_)⟩
    simp [Moment.jot, Moment.note]
  | @taskGivesUp run ran t batch m m' live task ih =>
    obtain ⟨begins, underway⟩ := kept.starts ready live
    have head := ih begins trivial
    have same : about run m'.record = about run (m.record ++ [.started run t]) :=
      head.grows.apart run underway.there (by simp [Stage.run?])
    have fits : Line.Fits m'.record (.gaveUp run t) := by
      show ended (about run m'.record) = [] ∧ t ∈ started (about run m'.record) ∧
        ∃ had, turned (about run m'.record) = had ++ [t]
      rw [same]
      exact ⟨underway.goesOn, by simp, turned (about run m.record), by simp⟩
    have turn : Extends (some run) m.record (m.record ++ [.started run t]) := .append rfl (by simp)
    have last : Extends (some run) m'.record (m'.record ++ [.gaveUp run t]) := .append rfl (by simp)
    refine ⟨head.kept.jot fits rfl rfl rfl, turn.trans (head.grows.weaken.trans last), ?_,
      fun calm => absurd rfl calm⟩
    show ended (about run (m'.record ++ [_])) ≠ []
    simp

/-- A whole drill keeps record of the timers, and every run that begins in it ends. -/
theorem Recorded.goes {steps : List Step} {m m' : Moment} {rows : List (Answer × List Note)}
    (h : Recorded steps m rows m') (kept : Kept m) :
    Kept m' ∧ Extends none m.record m'.record := by
  induction h with
  | nil m => exact ⟨kept, .refl _ _⟩
  | cons first rest ih =>
    have head := first.goes kept trivial
    obtain ⟨kept', grows⟩ := ih head.kept
    exact ⟨kept', head.grows.trans grows⟩

/-! ### Drills in which nobody gives up -/

mutual

/-- A step does not give up, nor do the tasks that it schedules. -/
def Step.isCalm : Step → Bool
  | .schedule _ _ script => areCalm script
  | .abort => false
  | _ => true

/-- Steps do not give up, nor do the tasks that they schedule. -/
def areCalm : List Step → Bool
  | [] => true
  | step :: steps => step.isCalm && areCalm steps

end

/-- What is under way does not give up. -/
def Stage.IsCalm : Stage → Prop
  | .step s => s.isCalm = true
  | .script _ steps => areCalm steps = true
  | .batch _ _ rest => ∀ t ∈ rest, areCalm t.task.script = true

/-- It ends with an answer. -/
def Ending.Answers (e : Ending) : Prop := ∀ cause, e.answer ≠ .aborted cause

/-- What is calm answers, and leaves tasks that are. -/
theorem Proceeds.answers {stage : Stage} {m m' : Moment} {e : Ending} (h : Proceeds stage m e m')
    (calm : stage.IsCalm) (waits : ∀ t ∈ m.ground.timers.pending, areCalm t.task.script = true) :
    e.Answers ∧ ∀ t ∈ m'.ground.timers.pending, areCalm t.task.script = true := by
  induction h with
  | schedules name delay script m =>
    refine ⟨nofun, fun t mem => ?_⟩
    rw [Moment.schedule, Timers.pending_schedule, List.mem_append, List.mem_singleton] at mem
    obtain old | rfl := mem
    · exact waits t old
    · exact calm
  | cancels | cancelsNone | lists | describes | scriptDone | batchDone => exact ⟨nofun, waits⟩
  | asks name m =>
    refine ⟨fun cause => ?_, waits⟩
    cases known : m.ground.handles.lookup name <;> nofun
  | givesUp => cases calm
  | runs batch ih => exact ⟨nofun, (ih waits nofun).2⟩
  | breaksOff batch ih => exact absurd rfl ((ih waits nofun).1 .task)
  | scriptNext first rest ih ih' =>
    have both := Bool.and_eq_true_iff.mp calm
    exact ih' both.2 (ih both.1 waits).2
  | scriptGivesUp first ih =>
    have both := Bool.and_eq_true_iff.mp calm
    exact absurd rfl ((ih both.1 waits).1 .task)
  | passes cancelled rest ih => exact ih (fun t mem => calm t (List.mem_cons_of_mem _ mem)) waits
  | starts live task rest ih ih' =>
    exact ih' (fun t mem => calm t (List.mem_cons_of_mem _ mem))
      (ih (calm _ List.mem_cons_self) waits).2
  | taskGivesUp live task ih => exact absurd rfl ((ih (calm _ List.mem_cons_self) waits).1 .task)

theorem Recorded.answers {steps : List Step} {m m' : Moment} {rows : List (Answer × List Note)}
    (h : Recorded steps m rows m') (kept : Kept m) (calm : areCalm steps = true)
    (waits : ∀ t ∈ m.ground.timers.pending, areCalm t.task.script = true) :
    (∀ row ∈ rows, ∀ cause, row.1 ≠ .aborted cause) ∧ broken m'.record = broken m.record := by
  induction h with
  | nil m => exact ⟨nofun, rfl⟩
  | @cons step steps m m₁ m' e rows first rest ih =>
    have both := Bool.and_eq_true_iff.mp calm
    have head := first.goes kept trivial
    obtain ⟨answers, waits'⟩ := first.answers both.1 waits
    obtain ⟨others, still⟩ := ih head.kept both.2 waits'
    have goesOn : e ≠ .gaveUp := fun gaveUp => answers .task (by rw [gaveUp]; rfl)
    exact ⟨List.forall_mem_cons.mpr ⟨answers, others⟩, still.trans (head.calm goesOn)⟩

/-- **Batches in turn.**  In a drill whose tasks never give up every step is answered, and the record shows
that each run takes the tasks scheduled so far that no run took, gives each of them its turn, in that
order, and answers how many of them ran, whatever they schedule, cancel and run meanwhile. -/
theorem batches_in_turn (steps : List Step) (calm : areCalm steps = true) :
    (∀ row ∈ run steps, ∀ cause, row.1 ≠ .aborted cause) ∧
      ∃ last, Recorded steps .start (run steps) last ∧ Lawful last.record ∧ Served last.record := by
  obtain ⟨last, recorded⟩ := run_recorded steps
  obtain ⟨kept, grows⟩ := recorded.goes .start
  obtain ⟨answers, unbroken⟩ := recorded.answers .start calm nofun
  refine ⟨answers, last, recorded, kept.fit.lawful, fun before n tasks rest eq => ?_⟩
  have begins : n ∈ begun last.record := mem_begun.mpr ⟨tasks, by simp [eq]⟩
  obtain ⟨count, returns⟩ | ⟨t, gaveUp⟩ := exists_end ((grows.settled n begins).resolve_left nofun)
  · rw [eq] at returns
    exact (eq ▸ kept.fit).served returns
  · have broke : n ∈ broken last.record := List.mem_filterMap.mpr ⟨_, gaveUp, rfl⟩
    rw [unbroken] at broke
    cases broke

/-- A task cancels one of its own batch and runs one that it scheduled itself, before the rest of its
batch has its turn. -/
def nested : List Step :=
  [.schedule "a" (.ofSeconds 1) [.cancel "c", .schedule "d" (.ofSeconds 4) [], .pending, .run],
    .schedule "b" (.ofSeconds 2) [.schedule "e" (.ofSeconds 5) []], .schedule "c" (.ofSeconds 3) [],
    .run, .pending]

theorem batches_in_turn_nested : areCalm nested = true ∧
    run nested = [(.nothing, []), (.nothing, []), (.nothing, []),
      (.count 2, [.ran "a", .did "a" "cancel" (.flag true), .did "a" "schedule" .nothing,
        .did "a" "pending" (.durations [.ofSeconds 4]), .ran "d", .did "a" "run" (.count 1),
        .ran "b", .did "b" "schedule" .nothing]),
      (.durations [.ofSeconds 5], [])] ∧
    ∃ last, Recorded nested .start (run nested) last ∧ Lawful last.record ∧ Served last.record :=
  ⟨rfl, by decide +kernel, (batches_in_turn nested rfl).2⟩

/-! ### Drills in which somebody gives up -/

/-- **Lost with who gave up.**  Whatever its tasks do, a run in a drill gives its batch their turn in order,
up to the end or up to a task that gave up.  The tasks after that one are lost, and no others: every other
task that was scheduled waits or had its turn. -/
theorem lost_with_who_gave_up (steps : List Step) :
    ∃ last, Recorded steps .start (run steps) last ∧ Lawful last.record ∧
      (∀ n tasks, .drained n tasks ∈ last.record →
        ((∃ count, .returned n count ∈ last.record) ∧ turned (about n last.record) = tasks) ∨
        ∃ had first lost, .gaveUp n first ∈ last.record ∧ tasks = had ++ first :: lost ∧
          turned (about n last.record) = had ++ [first]) ∧
      ∀ t ∈ scheduled last.record, IsLost last.record t ↔
        t ∉ last.ground.timers.pending ∧ t ∉ turned last.record := by
  obtain ⟨last, recorded⟩ := run_recorded steps
  obtain ⟨kept, grows⟩ := recorded.goes .start
  have settled (n : Nat) (begins : n ∈ begun last.record) : ended (about n last.record) ≠ [] :=
    (grows.settled n begins).resolve_left nofun
  refine ⟨last, recorded, kept.fit.lawful, fun n tasks drains => ?_, fun t scheduled => ?_⟩
  · exact kept.fit.fate drains (settled n (mem_begun.mpr ⟨tasks, drains⟩))
  · rw [kept.waits]
    exact kept.fit.isLost_iff settled scheduled

/-- The first of two tasks gives up when they are run; the second waits no more, and never runs. -/
theorem lost_with_who_gave_up_second :
    run [.schedule "a" (.ofSeconds 1) [.abort], .schedule "b" (.ofSeconds 2) [], .run, .pending, .run]
      = [(.nothing, []), (.nothing, []), (.aborted .task, [.ran "a"]), (.durations [], []),
        (.count 0, [])] := by
  decide +kernel

end Breaker.Drill

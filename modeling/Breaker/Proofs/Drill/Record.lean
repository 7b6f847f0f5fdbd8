import Mathlib
import Breaker.Drill

/-!
# Record — what happens in a drill, in order

A drill shows what it answers and which tasks ran.  A record shows the rest as well: which tasks were
scheduled and cancelled, which batch each run of the waiting tasks took, and whose turn came when.
`Proceeds` says how a record goes on while a step, the script of a task or a batch is carried out, and
how that ends; `Recorded` says it of a whole drill.  Runs are numbered in the order in which they begin,
so that a run within a run is told from the one around it.

Every drill has a record (`run_recorded`): what it allows for runs within runs is never used up.  Each
task that waits is worth one more than all that its script can schedule (`burden`), and a run spends that
one when it takes the task.
-/

namespace Breaker.Drill

/-! ### Records -/

/-- A line of a record. -/
inductive Line where
  | scheduled (t : Timer Task)
  | cancelled (handle : Nat)
  /-- The delays of the waiting tasks are answered. -/
  | listed (delays : List Duration)
  /-- A run takes the waiting tasks. -/
  | drained (run : Nat) (batch : List (Timer Task))
  /-- The turn of a task comes, and it starts. -/
  | started (run : Nat) (t : Timer Task)
  /-- The turn of a task comes, and it is cancelled. -/
  | passed (run : Nat) (t : Timer Task)
  /-- A task gives up, and the run with it. -/
  | gaveUp (run : Nat) (t : Timer Task)
  /-- A run answers how many tasks ran. -/
  | returned (run count : Nat)

/-- The run that begins. -/
def Line.begun? : Line → Option Nat
  | drained n _ => some n
  | _ => none

/-- The runs, in the order in which they began. -/
def begun (record : List Line) : List Nat := record.filterMap Line.begun?

/-- A drill with the record of what happened so far. -/
structure Moment where
  ground : Ground
  record : List Line

namespace Moment

/-- Writes a line into the record. -/
def jot (m : Moment) (line : Line) : Moment := { m with record := m.record ++ [line] }

/-- Writes down a note. -/
def note (m : Moment) (n : Note) : Moment :=
  { m with ground := { m.ground with notes := m.ground.notes.push n } }

/-- A task is scheduled, under a name. -/
def schedule (m : Moment) (name : String) (delay : Duration) (script : List Step) : Moment where
  ground := { m.ground with
    timers := m.ground.timers.schedule delay ⟨name, script⟩
    handles := (name, m.ground.timers.nextHandle) :: m.ground.handles.filter (·.1 != name) }
  record := m.record ++ [.scheduled ⟨m.ground.timers.nextHandle, delay, ⟨name, script⟩⟩]

/-- A handle is cancelled. -/
def cancel (m : Moment) (handle : Nat) : Moment where
  ground := { m.ground with timers := m.ground.timers.cancel handle }
  record := m.record ++ [.cancelled handle]

/-- The number of the next run. -/
def nextRun (m : Moment) : Nat := (begun m.record).length

/-- The next run takes the tasks that wait. -/
def drain (m : Moment) : Moment where
  ground := { m.ground with timers := m.ground.timers.drain }
  record := m.record ++ [.drained m.nextRun m.ground.timers.pending]

end Moment

/-- What is under way. -/
inductive Stage where
  | step (step : Step)
  | script (name : String) (steps : List Step)
  /-- The rest of a batch, of which some tasks ran already. -/
  | batch (run ran : Nat) (rest : List (Timer Task))

/-- How it ends.  A script is answered with nothing, a batch with the number of tasks that ran. -/
inductive Ending where
  | answered (answer : Answer)
  | gaveUp

/-- The answer that is shown. -/
def Ending.answer : Ending → Answer
  | answered answer => answer
  | gaveUp => .aborted .task

/-- What is under way goes on from one moment to another, and ends there. -/
inductive Proceeds : Stage → Moment → Ending → Moment → Prop where
  | schedules (name : String) (delay : Duration) (script : List Step) (m : Moment) :
      Proceeds (.step (.schedule name delay script)) m (.answered .nothing)
        (m.schedule name delay script)
  | cancels {name : String} {handle : Nat} {m : Moment}
      (known : m.ground.handles.lookup name = some handle) :
      Proceeds (.step (.cancel name)) m
        (.answered (.flag ((m.cancel handle).ground.timers.isCancelled handle))) (m.cancel handle)
  | lists (m : Moment) :
      Proceeds (.step .pending) m (.answered (.durations m.ground.timers.delays))
        (m.jot (.listed m.ground.timers.delays))
  | cancelsNone {name : String} {m : Moment} (unknown : m.ground.handles.lookup name = none) :
      Proceeds (.step (.cancel name)) m (.answered .nothing) m
  | asks (name : String) (m : Moment) :
      Proceeds (.step (.isCancelled name)) m
        (.answered ((m.ground.handles.lookup name).elim .nothing fun handle =>
          .flag (m.ground.timers.isCancelled handle))) m
  | describes (m : Moment) :
      Proceeds (.step .describe) m (.answered (.text m.ground.timers.describe)) m
  | givesUp (m : Moment) : Proceeds (.step .abort) m .gaveUp m
  | runs {m m' : Moment} {count : Nat}
      (batch : Proceeds (.batch m.nextRun 0 m.ground.timers.pending) m.drain
        (.answered (.count count)) m') :
      Proceeds (.step .run) m (.answered (.count count)) (m'.jot (.returned m.nextRun count))
  | breaksOff {m m' : Moment}
      (batch : Proceeds (.batch m.nextRun 0 m.ground.timers.pending) m.drain .gaveUp m') :
      Proceeds (.step .run) m .gaveUp m'
  | scriptDone (name : String) (m : Moment) : Proceeds (.script name []) m (.answered .nothing) m
  | scriptNext {name : String} {step : Step} {steps : List Step} {m m₁ m' : Moment} {answer : Answer}
      {e : Ending} (first : Proceeds (.step step) m (.answered answer) m₁)
      (rest : Proceeds (.script name steps) (m₁.note (.did name step.verb answer)) e m') :
      Proceeds (.script name (step :: steps)) m e m'
  | scriptGivesUp {name : String} {step : Step} {steps : List Step} {m m' : Moment}
      (first : Proceeds (.step step) m .gaveUp m') :
      Proceeds (.script name (step :: steps)) m .gaveUp m'
  | batchDone (run ran : Nat) (m : Moment) :
      Proceeds (.batch run ran []) m (.answered (.count ran)) m
  | passes {run ran : Nat} {t : Timer Task} {batch : List (Timer Task)} {m m' : Moment} {e : Ending}
      (cancelled : m.ground.timers.isCancelled t.handle = true)
      (rest : Proceeds (.batch run ran batch) (m.jot (.passed run t)) e m') :
      Proceeds (.batch run ran (t :: batch)) m e m'
  | starts {run ran : Nat} {t : Timer Task} {batch : List (Timer Task)} {m m₁ m' : Moment}
      {e : Ending} (live : m.ground.timers.isCancelled t.handle = false)
      (task : Proceeds (.script t.task.name t.task.script)
        ((m.jot (.started run t)).note (.ran t.task.name)) (.answered .nothing) m₁)
      (rest : Proceeds (.batch run (ran + 1) batch) m₁ e m') :
      Proceeds (.batch run ran (t :: batch)) m e m'
  | taskGivesUp {run ran : Nat} {t : Timer Task} {batch : List (Timer Task)} {m m' : Moment}
      (live : m.ground.timers.isCancelled t.handle = false)
      (task : Proceeds (.script t.task.name t.task.script)
        ((m.jot (.started run t)).note (.ran t.task.name)) .gaveUp m') :
      Proceeds (.batch run ran (t :: batch)) m .gaveUp (m'.jot (.gaveUp run t))

/-- The steps of a drill are carried out from one moment to another, and its rows are these. -/
inductive Recorded : List Step → Moment → List (Answer × List Note) → Moment → Prop where
  | nil (m : Moment) : Recorded [] m [] m
  | cons {step : Step} {steps : List Step} {m m₁ m' : Moment} {e : Ending}
      {rows : List (Answer × List Note)} (first : Proceeds (.step step) m e m₁)
      (rest : Recorded steps m₁ rows m') :
      Recorded (step :: steps) m
        ((e.answer, (m₁.ground.notes.extract m.ground.notes.size).toList) :: rows) m'

/-- Nothing has happened. -/
def Moment.start : Moment := ⟨Ground.empty, []⟩

/-! ### Every drill has a record -/

/-- What tasks that wait are worth. -/
def burden (tasks : List (Timer Task)) : Nat := (tasks.map fun t => 1 + weightOf t.task.script).sum

/-- The rest of a drill has a record, and leaves tasks that wait up to some worth. -/
def Charts {α : Type} (stage : Stage) (m : Moment) (limit : Nat) (answer : α → Answer) :
    EStateM.Result Abort Ground α → Prop
  | .ok a g => burden g.timers.pending ≤ limit ∧
      ∃ record, Proceeds stage m (.answered (answer a)) ⟨g, record⟩
  | .error cause g => cause = .task ∧ burden g.timers.pending ≤ limit ∧
      ∃ record, Proceeds stage m .gaveUp ⟨g, record⟩

variable {perform : Step → Deed Answer} {allowance : Nat}

theorem burden_cons (t : Timer Task) (tasks : List (Timer Task)) :
    burden (t :: tasks) = 1 + weightOf t.task.script + burden tasks := by
  rw [burden, burden, List.map_cons, List.sum_cons]

theorem burden_schedule (g : Ground) (name : String) (delay : Duration) (script : List Step) :
    burden (g.timers.schedule delay ⟨name, script⟩).pending
      = burden g.timers.pending + (Step.schedule name delay script).weight := by
  rw [Timers.pending_schedule, burden, burden, List.map_append, List.sum_append, Step.weight]
  rfl

/-- A step other than a run has a record, and only a step that schedules adds to what waits. -/
theorem charts_atOnce (perform : Step → Deed Answer) {step : Step} (runs : step ≠ .run) (m : Moment) :
    Charts (.step step) m (burden m.ground.timers.pending + step.weight) id
      (act perform step m.ground) := by
  cases step with
  | schedule name delay script =>
    exact ⟨(burden_schedule m.ground name delay script).le, _, .schedules name delay script m⟩
  | cancel name =>
    unfold act
    simp only [bind, EStateM.bind, get, getThe, MonadStateOf.get, EStateM.get]
    cases known : m.ground.handles.lookup name with
    | none => exact ⟨Nat.le_add_right _ _, _, .cancelsNone known⟩
    | some handle => exact ⟨Nat.le_add_right _ _, _, .cancels known⟩
  | isCancelled name =>
    have asks := Proceeds.asks name m
    unfold act
    simp only [bind, EStateM.bind, get, getThe, MonadStateOf.get, EStateM.get]
    cases known : m.ground.handles.lookup name with
    | none =>
      rw [known] at asks
      exact ⟨Nat.le_add_right _ _, _, asks⟩
    | some handle =>
      rw [known] at asks
      exact ⟨Nat.le_add_right _ _, _, asks⟩
  | pending => exact ⟨Nat.le_add_right _ _, _, .lists m⟩
  | describe => exact ⟨Nat.le_add_right _ _, _, .describes m⟩
  | abort => exact ⟨rfl, Nat.le_add_right _ _, m.record, .givesUp m⟩
  | run => exact absurd rfl runs

namespace Charts

variable {α β : Type} {stage stage' inner : Stage} {m m' m₀ : Moment} {limit limit' limit₀ : Nat}
  {answer : α → Answer} {answer' : β → Answer}

theorem imp {r : EStateM.Result Abort Ground α} (h : Charts stage m limit answer r)
    (le : limit ≤ limit')
    (goes : ∀ e last, Proceeds stage m e last → Proceeds stage' m' e last) :
    Charts stage' m' limit' answer r := by
  cases r with
  | ok a g =>
    obtain ⟨few, record, done⟩ := h
    exact ⟨few.trans le, record, goes _ _ done⟩
  | error cause g =>
    obtain ⟨cause_eq, few, record, gaveUp⟩ := h
    exact ⟨cause_eq, few.trans le, record, goes _ _ gaveUp⟩

/-- Something that is part of what is under way goes first. -/
theorem bind {x : Deed α} {f : α → Deed β} {g : Ground}
    (first : Charts inner m₀ limit₀ answer (x g)) (le : limit₀ ≤ limit)
    (gaveUp : ∀ last, Proceeds inner m₀ .gaveUp last →
      ∃ record, Proceeds stage m .gaveUp ⟨last.ground, record⟩)
    (next : ∀ a after, burden after.ground.timers.pending ≤ limit₀ →
      Proceeds inner m₀ (.answered (answer a)) after →
        Charts stage m limit answer' (f a after.ground)) :
    Charts stage m limit answer' ((x >>= f) g) := by
  simp only [Bind.bind, EStateM.bind]
  cases result : x g with
  | ok a after =>
    rw [result] at first
    obtain ⟨few, record, done⟩ := first
    exact next a ⟨after, record⟩ few done
  | error cause after =>
    rw [result] at first
    obtain ⟨cause_eq, few, record, stops⟩ := first
    exact ⟨cause_eq, few.trans le, gaveUp ⟨after, record⟩ stops⟩

end Charts

/-- The steps of a task have a record, if each step by itself has. -/
theorem charts_carryOut
    (charts : ∀ step m, burden m.ground.timers.pending + step.weight < allowance →
      Charts (.step step) m (burden m.ground.timers.pending + step.weight) id
        (perform step m.ground))
    (name : String) (steps : List Step) (m : Moment)
    (enough : burden m.ground.timers.pending + weightOf steps < allowance) :
    Charts (.script name steps) m (burden m.ground.timers.pending + weightOf steps)
      (fun _ => .nothing) (carryOut perform name steps m.ground) := by
  induction steps generalizing m with
  | nil => exact ⟨Nat.le_add_right _ _, m.record, .scriptDone name m⟩
  | cons step steps ih =>
    rw [weightOf] at enough ⊢
    unfold carryOut
    refine (charts step m (by omega)).bind (by omega)
      (fun last gaveUp => ⟨last.record, .scriptGivesUp gaveUp⟩) fun answer after few done => ?_
    have few' : burden (after.note (.did name step.verb answer)).ground.timers.pending
        ≤ burden m.ground.timers.pending + step.weight := few
    exact (ih (after.note (.did name step.verb answer)) (by omega)).imp (by omega)
      fun e last rest => .scriptNext done rest

/-- A batch has a record, if the steps of its tasks have.  Each task brings along what its script is
worth, and one more. -/
theorem charts_runBatch
    (charts : ∀ step m, burden m.ground.timers.pending + step.weight < allowance →
      Charts (.step step) m (burden m.ground.timers.pending + step.weight) id
        (perform step m.ground))
    (run ran : Nat) (batch : List (Timer Task)) (m : Moment)
    (enough : burden m.ground.timers.pending + burden batch ≤ allowance) :
    Charts (.batch run ran batch) m (burden m.ground.timers.pending + burden batch)
      (fun count => .count (ran + count))
      (Timers.runBatch (fun handle => return (← get).timers.isCancelled handle) (runTask perform)
        batch m.ground) := by
  induction batch generalizing ran m with
  | nil => exact ⟨Nat.le_add_right _ _, m.record, .batchDone run ran m⟩
  | cons t batch ih =>
    rw [burden_cons] at enough ⊢
    unfold Timers.runBatch
    show Charts _ _ _ _
      ((if m.ground.timers.isCancelled t.handle = true then _ else _ : Deed Nat) m.ground)
    split
    case isTrue cancelled =>
      refine (ih ran (m.jot (.passed run t)) ?_).imp ?_ fun e last rest => .passes cancelled rest
      · show burden m.ground.timers.pending + burden batch ≤ allowance
        omega
      · show burden m.ground.timers.pending + burden batch ≤ _
        omega
    case isFalse waits =>
      have live : m.ground.timers.isCancelled t.handle = false := by simpa using waits
      set hears := (m.jot (.started run t)).note (.ran t.task.name) with hears_eq
      have same : burden hears.ground.timers.pending = burden m.ground.timers.pending := rfl
      have task := charts_carryOut charts t.task.name t.task.script hears (by omega)
      refine Charts.bind (x := runTask perform t.task) task (by omega)
        (fun last gaveUp => ⟨_, .taskGivesUp live gaveUp⟩) fun _ after few done => ?_
      refine (ih (ran + 1) after (by omega)).bind (by omega)
        (fun last gaveUp => ⟨last.record, .starts live done gaveUp⟩) fun count last few' rest => ?_
      have counted : ran + 1 + count = ran + (count + 1) := by omega
      rw [counted] at rest
      exact ⟨by omega, last.record, .starts live done rest⟩

/-- **Every step has a record**, with an allowance beyond what waits and what the step can schedule. -/
theorem charts_perform (allowance : Nat) (step : Step) (m : Moment)
    (enough : burden m.ground.timers.pending + step.weight < allowance) :
    Charts (.step step) m (burden m.ground.timers.pending + step.weight) id
      (Drill.perform allowance step m.ground) := by
  induction allowance generalizing step m with
  | zero => exact absurd enough (Nat.not_lt_zero _)
  | succ allowance ih =>
    unfold Drill.perform
    by_cases run : step = .run
    · subst run
      have nothing : burden m.drain.ground.timers.pending = 0 := rfl
      have batch := charts_runBatch ih m.nextRun 0 m.ground.timers.pending m.drain (by omega)
      refine Charts.bind (x := runPending (Drill.perform allowance)) batch (by omega)
        (fun last gaveUp => ⟨last.record, .breaksOff gaveUp⟩) fun count after few done => ?_
      rw [Nat.zero_add] at done
      exact ⟨by show burden after.ground.timers.pending ≤ _; omega, _, .runs done⟩
    · exact charts_atOnce _ run m

theorem runSteps_recorded (allowance : Nat) (steps : List Step) (m : Moment)
    (enough : burden m.ground.timers.pending + weightOf steps < allowance) :
    ∃ last, Recorded steps m (runSteps allowance steps m.ground).1 last := by
  induction steps generalizing m with
  | nil => exact ⟨m, .nil m⟩
  | cons step steps ih =>
    rw [weightOf] at enough
    have first := charts_perform allowance step m (by omega)
    unfold runSteps runStep
    cases result : Drill.perform allowance step m.ground with
    | ok answer after =>
      rw [result] at first
      obtain ⟨few, record, done⟩ := first
      obtain ⟨last, rest⟩ := ih ⟨after, record⟩ (by show burden after.timers.pending + _ < _; omega)
      exact ⟨last, .cons done rest⟩
    | error cause after =>
      rw [result] at first
      obtain ⟨rfl, few, record, gaveUp⟩ := first
      obtain ⟨last, rest⟩ := ih ⟨after, record⟩ (by show burden after.timers.pending + _ < _; omega)
      exact ⟨last, .cons gaveUp rest⟩

/-- **Every drill has a record.** -/
theorem run_recorded (steps : List Step) : ∃ last, Recorded steps .start (run steps) last :=
  runSteps_recorded _ steps .start (Nat.lt_succ_of_le (Nat.zero_add _).le)

end Breaker.Drill

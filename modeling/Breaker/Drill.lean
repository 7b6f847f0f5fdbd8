import Breaker.Timers
import Breaker.Watched

/-!
# Drill — a script for timers alone

A drill schedules, cancels and runs tasks.  Each task has a name and a script of its own, which may
schedule, cancel and run tasks in turn, or give up.  A name stands for the task scheduled under it
last.
-/

namespace Breaker.Drill

/-- One step of a drill. -/
inductive Step where
  | schedule (name : String) (delay : Duration) (script : List Step)
  | cancel (name : String)
  | isCancelled (name : String)
  | pending
  | run
  | describe
  | abort

/-- The word for a step. -/
def Step.verb : Step → String
  | .schedule _ _ _ => "schedule"
  | .cancel _ => "cancel"
  | .isCancelled _ => "is_cancelled"
  | .pending => "pending"
  | .run => "run"
  | .describe => "debug"
  | .abort => "panic"

mutual

/-- How many tasks a step can schedule, by itself and through their scripts. -/
def Step.weight : Step → Nat
  | .schedule _ _ script => 1 + weightOf script
  | _ => 0

/-- How many tasks a script can schedule. -/
def weightOf : List Step → Nat
  | [] => 0
  | step :: steps => step.weight + weightOf steps

end

/-- The answer of a step. -/
inductive Answer where
  | nothing
  | flag (value : Bool)
  | durations (values : List Duration)
  | count (value : Nat)
  | text (value : String)
  | aborted (cause : Abort)
  deriving DecidableEq

/-- What is noted during a drill. -/
inductive Note where
  | ran (name : String)
  | did (name verb : String) (answer : Answer)
  deriving DecidableEq

/-- A task with its script. -/
structure Task where
  name : String
  script : List Step

/-- The state of a drill. -/
structure Ground where
  timers : Timers Task
  /-- The handle that each name stands for. -/
  handles : List (String × Nat)
  notes : Array Note

/-- Nothing is scheduled. -/
def Ground.empty : Ground := ⟨Timers.empty, [], #[]⟩

/-- Something done in a drill. -/
abbrev Deed := EStateM Abort Ground

/-- Writes down a note. -/
def note (n : Note) : Deed Unit := modify fun g => { g with notes := g.notes.push n }

/-- Carries out the script of a task, noting each answer. -/
def carryOut (perform : Step → Deed Answer) (name : String) : List Step → Deed Unit
  | [] => pure ()
  | step :: steps => do
    let answer ← perform step
    note (.did name step.verb answer)
    carryOut perform name steps

/-- Runs a task. -/
def runTask (perform : Step → Deed Answer) (task : Task) : Deed Unit := do
  note (.ran task.name)
  carryOut perform task.name task.script

/-- Runs the tasks that wait; answers how many ran. -/
def runPending (perform : Step → Deed Answer) : Deed Nat := do
  let batch := (← get).timers.pending
  modify fun g => { g with timers := g.timers.drain }
  Timers.runBatch (fun handle => return (← get).timers.isCancelled handle) (runTask perform) batch

/-- Carries out a step; `perform` carries out the steps of tasks. -/
def act (perform : Step → Deed Answer) : Step → Deed Answer
  | .schedule name delay script => do
    let g ← get
    set { g with
      timers := g.timers.schedule delay ⟨name, script⟩
      handles := (name, g.timers.nextHandle) :: g.handles.filter (·.1 != name) }
    return .nothing
  | .cancel name => do
    let g ← get
    match g.handles.lookup name with
    | none => return .nothing
    | some handle =>
      set { g with timers := g.timers.cancel handle }
      return .flag ((← get).timers.isCancelled handle)
  | .isCancelled name => do
    let g ← get
    match g.handles.lookup name with
    | none => return .nothing
    | some handle => return .flag (g.timers.isCancelled handle)
  | .pending => return .durations (← get).timers.delays
  | .run => return .count (← runPending perform)
  | .describe => return .text (← get).timers.describe
  | .abort => throw .task

/-- Carries out a step.  A task runs once, so an allowance of the tasks that can be scheduled is
enough for runs within runs. -/
def perform : (allowance : Nat) → Step → Deed Answer
  | 0, _ => throw .unsettled
  | allowance + 1, step => act (perform allowance) step

/-- The answer of a step with what was noted during it, where there were `start` notes before. -/
def rowOf (start : Nat) : EStateM.Result Abort Ground Answer → (Answer × List Note) × Ground
  | .ok answer after => ((answer, (after.notes.extract start).toList), after)
  | .error cause after => ((.aborted cause, (after.notes.extract start).toList), after)

/-- Carries out a step; giving up is an answer. -/
def runStep (allowance : Nat) (step : Step) (g : Ground) : (Answer × List Note) × Ground :=
  rowOf g.notes.size (perform allowance step g)

/-- Carries out the steps of a script. -/
def runSteps (allowance : Nat) : List Step → Ground → List (Answer × List Note) × Ground
  | [], g => ([], g)
  | step :: steps, g =>
    let (row, after) := runStep allowance step g
    let (rows, final) := runSteps allowance steps after
    (row :: rows, final)

/-- Carries out a drill from the start. -/
def run (steps : List Step) : List (Answer × List Note) :=
  (runSteps (weightOf steps + 1) steps Ground.empty).1

end Breaker.Drill

import Breaker.Duration
import Breaker.Text.Labelled

/-!
# Timers — deferred tasks that run when told to

`Timers` keeps the tasks that wait, in the order they were scheduled.  Each has a handle; a task
whose handle is cancelled never starts.  `drain` takes all waiting tasks as one batch, and
`runBatch` runs a batch in order: whether a task is cancelled is looked at when its turn comes, so
a task can still cancel a later one of its own batch.
-/

namespace Breaker

/-- A task that waits. -/
structure Timer (τ : Type) where
  handle : Nat
  delay : Duration
  task : τ

/-- The tasks that wait, and which handles are cancelled. -/
structure Timers (τ : Type) where
  /-- The tasks that wait, in the order they were scheduled. -/
  queue : Array (Timer τ)
  /-- For each handle given out so far, whether it is cancelled. -/
  cancelled : Array Bool

namespace Timers

variable {τ : Type}

/-- No task waits. -/
def empty : Timers τ := ⟨#[], #[]⟩

instance : Inhabited (Timers τ) := ⟨empty⟩

/-- The tasks that wait, in order. -/
def pending (t : Timers τ) : List (Timer τ) := t.queue.toList

/-- The handle of the next task. -/
def nextHandle (t : Timers τ) : Nat := t.cancelled.size

/-- Adds a task, under the next handle. -/
def schedule (t : Timers τ) (delay : Duration) (task : τ) : Timers τ :=
  { t with
    queue := t.queue.push ⟨t.nextHandle, delay, task⟩
    cancelled := t.cancelled.push false }

/-- Cancels a handle; its task will not start. -/
def cancel (t : Timers τ) (handle : Nat) : Timers τ :=
  { t with cancelled := t.cancelled.setIfInBounds handle true }

/-- Whether a handle is cancelled. -/
def isCancelled (t : Timers τ) (handle : Nat) : Bool := t.cancelled.getD handle false

/-- The waiting tasks that are not cancelled. -/
def live (t : Timers τ) : List (Timer τ) := t.pending.filter fun p => !t.isCancelled p.handle

/-- The delays of the waiting tasks that are not cancelled. -/
def delays (t : Timers τ) : List Duration := t.live.map (·.delay)

/-- Nothing waits any more; `t.pending` is the batch. -/
def drain (t : Timers τ) : Timers τ := { t with queue := #[] }

/-- The tasks as text. -/
def describe (t : Timers τ) : String :=
  Text.record "ManualScheduler" [("pending", toString t.live.length)]

/-- Runs a batch in order, each task only if it is not cancelled when its turn comes.  Answers how
many ran. -/
def runBatch {m : Type → Type} [Monad m] (isCancelled : Nat → m Bool) (run : τ → m Unit) :
    List (Timer τ) → m Nat
  | [] => pure 0
  | t :: batch => do
    if ← isCancelled t.handle then
      runBatch isCancelled run batch
    else
      run t.task
      let rest ← runBatch isCancelled run batch
      return rest + 1

theorem pending_schedule (t : Timers τ) (delay : Duration) (task : τ) :
    (t.schedule delay task).pending = t.pending ++ [⟨t.nextHandle, delay, task⟩] := by
  simp [schedule, pending]

theorem pending_cancel (t : Timers τ) (handle : Nat) : (t.cancel handle).pending = t.pending := rfl

end Timers

end Breaker

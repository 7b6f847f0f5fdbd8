import Breaker.World.Succession

/-!
# Alarms — episodes ended by timers

An alarm moves its circuit on if the circuit is still there and the episode that left the alarm is
still the current one; else it does nothing.  A circuit is there while a handle refers to it or an
act on it is under way (`busy`).

Alarms of the world's timers run when told to.  Those in real time run while somebody waits for a
state, which is done by looking once per millisecond for five seconds.
-/

namespace Breaker

variable {γ : Type}

/-- Whether a circuit is there. -/
def World.isPresent (w : World γ) (busy : List CircuitId) (id : CircuitId) : Bool :=
  w.isHeld id || busy.contains id

/-- Lets an alarm go off. -/
def ring (react : CircuitId → React γ) (busy : List CircuitId) (a : Alarm) : Act γ Unit := do
  let w ← get
  let e := w.episode a.circuit
  if w.isPresent busy a.circuit && e.number == a.episode then
    let _ ← transition (react a.circuit) a.circuit e a.target false none

/-- Runs the alarms that wait; answers how many went off. -/
def runTimers (react : CircuitId → React γ) (busy : List CircuitId) : Act γ Nat := do
  let batch := (← get).timers.pending
  modify fun w => { w with timers := w.timers.drain }
  Timers.runBatch (fun handle => return (← get).timers.isCancelled handle) (ring react busy) batch

/-- Sorts timers by the moment they are due; of two due at once the older comes first. -/
def byDue (batch : List (Timer Wakeup)) : List (Timer Wakeup) :=
  batch.mergeSort fun a b => a.task.due ≤ b.task.due

/-- Lets an alarm go off in real time, where nobody learns that it was given up. -/
def ringAlone (react : CircuitId → React γ) (busy : List CircuitId) (wakeup : Wakeup) :
    Act γ Unit := fun w =>
  match ring react busy wakeup.alarm w with
  | .error .unsettled after => .error .unsettled after
  | .ok _ after | .error _ after => .ok () after

/-- Runs the alarms that are due in real time. -/
def runThreads (react : CircuitId → React γ) (busy : List CircuitId) : Act γ Unit := do
  let w ← get
  let (due, waiting) := w.threads.pending.partition fun t => t.task.due ≤ w.elapsed
  set { w with threads := { w.threads with queue := waiting.toArray } }
  let _ ← Timers.runBatch (fun handle => return (← get).threads.isCancelled handle)
    (ringAlone react busy) (byDue due)

/-- Waits for a state over a number of looks, a millisecond apart. -/
def awaitState (react : CircuitId → React γ) (busy : List CircuitId) (id : CircuitId)
    (state : State) : (looks : Nat) → Act γ Bool
  | 0 => return ((← get).episode id).state == state
  | looks + 1 => do
    if ((← get).episode id).state == state then
      return true
    modify fun w => { w with elapsed := w.elapsed + nanosPerMilli }
    runThreads react busy
    awaitState react busy id state looks

/-- The looks in five seconds. -/
def looksToAwait : Nat := 5000

end Breaker

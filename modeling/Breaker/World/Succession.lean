import Breaker.World.Publication

/-!
# Succession — one episode gives way to the next

A change of state is made against the episode that called for it.  The next episode is formed
first, which for an open one asks the user's wait function and may be given up.  If the episode
that called for the change is no longer the current one, the change is dropped.  Otherwise the next
episode takes its place, the timer of the old one is cancelled and that of the new one armed, and
the change is logged, all at once; thresholds that were reached and the change itself are published
after that.
-/

namespace Breaker

variable {γ : Type}

namespace World

/-- Cancels the timer of a circuit's episode. -/
def disarm (w : World γ) (id : CircuitId) (e : Episode) : World γ :=
  match (w.circuit id).timerSource, e.timer with
  | some .shared, some handle => { w with timers := w.timers.cancel handle }
  | some .threads, some handle => { w with threads := w.threads.cancel handle }
  | _, _ => w

/-- Leaves a timer for the current episode of a circuit, if that episode ends by one. -/
def arm (w : World γ) (id : CircuitId) (now : Nat) : World γ :=
  let c := w.circuit id
  match c.timerSource, c.episode.timeout? c.settings with
  | some source, some (due, target) =>
    let alarm : Alarm := ⟨id, c.episode.number, target⟩
    let delay := Duration.ofNanos (due - now)
    match source with
    | .shared =>
      { w with timers := w.timers.schedule delay alarm }.setEpisode id
        { c.episode with timer := some w.timers.nextHandle }
    | .threads =>
      { w with threads := w.threads.schedule delay ⟨w.elapsed + delay.nanos, alarm⟩ }.setEpisode id
        { c.episode with timer := some w.threads.nextHandle }
  | _, _ => w

/-- Puts a new episode of a phase in the place of the current one.  An episode that opens of itself
inherits what tripped it. -/
def succeed (w : World γ) (id : CircuitId) (phase : Phase) (attempts now : Nat)
    (manual : Bool) : World γ :=
  let c := w.circuit id
  let old := c.episode
  let fresh := Episode.begin c.settings (old.number + 1) attempts now phase
  let next := if phase.state = .opened && !manual then fresh.inherit old else fresh
  (w.setEpisode id next).disarm id old

/-- A change of state, with its timers and its log record. -/
def change (w : World γ) (id : CircuitId) (phase : Phase) (attempts now : Nat)
    (manual : Bool) : World γ :=
  let old := w.episode id
  let millis := (now - old.enteredAt) / nanosPerMilli
  ((w.succeed id phase attempts now manual).arm id now).log id
    (.transition ⟨old.state, phase.state⟩ attempts millis manual)

end World

/-- The wait of a circuit at an attempt. -/
def drawWait (id : CircuitId) (attempt : Nat) : Act γ Duration := do
  let w ← get
  set { w with dice := w.dice.next }
  watch ((w.circuit id).settings.backoff.wait w.dice.roll attempt)

/-- The phase in which a circuit enters a state; only the open state asks for the wait. -/
def nextPhase (id : CircuitId) (target : State) (attempts now : Nat) : Act γ Phase := do
  let settings := ((← get).circuit id).settings
  let wait ← if target = .opened then drawWait id attempts else pure Duration.zero
  return Episode.phaseOf settings target now wait

/-- Publishes the rates that reached their thresholds. -/
def publishBreach (react : React γ) (id : CircuitId) (rates : Rates) : Act γ Unit := do
  let settings := ((← get).circuit id).settings
  if rates.failure.reaches settings.failureRateThreshold then
    publish react id (.failureRateExceeded rates.failure)
  if rates.slow.reaches settings.slowCallRateThreshold then
    publish react id (.slowCallRateExceeded rates.slow)

/-- Moves a circuit to a state, unless `ticket` is no longer its current episode.  `breach` holds
the rates that called for it.  Answers whether the change was made. -/
def transition (react : React γ) (id : CircuitId) (ticket : Episode) (target : State)
    (manual : Bool) (breach : Option Rates) : Act γ Bool := do
  let now := (← get).reading id
  let attempts := Episode.attemptsOnEntry ticket.state ticket.attempts target manual
  let phase ← nextPhase id target attempts now
  if ((← get).episode id).number ≠ ticket.number then
    return false
  modify (·.change id phase attempts now manual)
  match breach with
  | some rates => publishBreach react id rates
  | none => pure ()
  publish react id (.transition ⟨ticket.state, target⟩)
  return true

/-- Moves a circuit to a state by hand. -/
def force (react : React γ) (id : CircuitId) (target : State) : Act γ Unit := do
  let ticket := (← get).episode id
  let _ ← transition react id ticket target true none

/-- Returns a circuit to the closed state with nothing recorded. -/
def reset (react : React γ) (id : CircuitId) : Act γ Unit := do
  let w ← get
  let source := (w.episode id).state
  modify fun w => (w.succeed id .closed 0 (w.reading id) true).log id (.reset source)
  if source ≠ .closed then
    publish react id (.transition ⟨source, .closed⟩)
  publish react id .reset

end Breaker

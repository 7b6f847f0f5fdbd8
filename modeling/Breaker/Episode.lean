import Breaker.Permits
import Breaker.Rate
import Breaker.Settings

/-!
# Episode — one stay in a state

Each time a breaker enters a state a new episode begins, with a number of its own.  An episode holds
its window, its count of refusals and what its state needs: the reading at which an open breaker may
be probed, the permits and the deadline of a half-open one, and whether a metrics-only one has told
of its thresholds.

The functions here evaluate an episode and never replace it.  `request` answers whether a call may
pass, `observe` adds an outcome, and `followUp` says what should follow from it; a `Reply.expired`
and a `Decision` name the change that the breaker then makes.

A breaker that opens because thresholds were reached keeps the window, the minimum and the refusals
of the episode that tripped it (`inherit`), so that its metrics show why it opened.
-/

namespace Breaker

/-- A state with what an episode of it needs. -/
inductive Phase where
  | closed
  | opened (retryAt : Nat)
  | halfOpen (permits : Permits) (deadline : Option Nat)
  | disabled
  | forcedOpen
  | metricsOnly (reported : Bool)
  deriving DecidableEq

/-- The state of a phase. -/
def Phase.state : Phase → State
  | .closed => .closed
  | .opened _ => .opened
  | .halfOpen _ _ => .halfOpen
  | .disabled => .disabled
  | .forcedOpen => .forcedOpen
  | .metricsOnly _ => .metricsOnly

/-- One stay in a state. -/
structure Episode where
  /-- Which episode of its breaker this is. -/
  number : Nat
  phase : Phase
  /-- The attempt of the backoff. -/
  attempts : Nat
  enteredAt : Nat
  /-- The calls needed before rates are measured. -/
  minimum : Nat
  window : Window
  /-- The requests refused. -/
  rejected : Nat
  /-- The handle of the timer that ends the episode. -/
  timer : Option Nat

/-- The answer to a request for permission. -/
inductive Reply where
  /-- The call may pass; the episode after it. -/
  | granted (after : Episode)
  | denied
  /-- The time of the episode is over, and another state follows. -/
  | expired (next : State)

/-- What follows from a recorded outcome. -/
inductive Decision where
  /-- The breaker opens, at these rates. -/
  | trip (rates : Rates)
  /-- The trial was passed. -/
  | close
  /-- Thresholds were reached while metrics are only watched. -/
  | tell (rates : Rates)

/-- Whether thresholds are told of and nothing else follows. -/
def Decision.isTold : Decision → Bool
  | .tell _ => true
  | _ => false

namespace Episode

/-- The state of an episode. -/
def state (e : Episode) : State := e.phase.state

/-- The largest attempt. -/
def attemptsMax : Nat := 0xffffffff

/-- The attempt with which a state is entered.  Opening from closed starts at one, a failed probe
adds one, and a probe keeps the attempt of the stay it probes; by hand everything starts over. -/
def attemptsOnEntry (source : State) (attempts : Nat) (target : State) (manual : Bool) : Nat :=
  match target with
  | .opened =>
    if manual then 1
    else if source = .halfOpen then min (attempts + 1) attemptsMax
    else max attempts 1
  | .halfOpen => if manual then 1 else max attempts 1
  | _ => 0

/-- The phase in which a state is entered at a reading; `wait` is how long an open breaker stays
open. -/
def phaseOf (s : Settings) (state : State) (now : Nat) (wait : Duration) : Phase :=
  match state with
  | .closed => .closed
  | .opened => .opened (later now wait.word)
  | .halfOpen =>
    .halfOpen (Permits.full s.trialCalls)
      (if s.trialLimit.isZero then none else some (later now s.trialLimit.word))
  | .disabled => .disabled
  | .forcedOpen => .forcedOpen
  | .metricsOnly => .metricsOnly false

/-- The empty window of a state. -/
def freshWindow (s : Settings) (state : State) (now : Nat) : Window :=
  match state with
  | .halfOpen => .calls (Ring.empty s.trialCalls)
  | .disabled => .idle
  | _ => s.freshWindow now

/-- The minimum of calls of a state. -/
def minimumOf (s : Settings) (state : State) : Nat :=
  match state with
  | .halfOpen => s.trialCalls
  | .disabled => 0
  | _ => s.effectiveMinimum

/-- A new episode. -/
def begin (s : Settings) (number attempts now : Nat) (phase : Phase) : Episode where
  number := number
  phase := phase
  attempts := attempts
  enteredAt := now
  minimum := minimumOf s phase.state
  window := freshWindow s phase.state now
  rejected := 0
  timer := none

/-- The episode with the window, the minimum and the refusals of the one that tripped it. -/
def inherit (e previous : Episode) : Episode :=
  { e with window := previous.window, minimum := previous.minimum, rejected := previous.rejected }

/-! ### Evaluation -/

/-- Whether a call may pass at a reading. -/
def request (e : Episode) (now : Nat) : Reply :=
  match e.phase with
  | .closed | .disabled | .metricsOnly _ => .granted e
  | .forcedOpen => .denied
  | .opened retryAt => if retryAt ≤ now then .expired .halfOpen else .denied
  | .halfOpen permits deadline =>
    if deadline.any (· ≤ now) then .expired .opened
    else match permits.take? with
      | some left => .granted { e with phase := .halfOpen left deadline }
      | none => .denied

/-- Counts a refusal. -/
def reject (e : Episode) : Episode := { e with rejected := e.rejected + 1 }

/-- Takes back a permission that was not used. -/
def release (e : Episode) : Episode :=
  match e.phase with
  | .halfOpen permits deadline => { e with phase := .halfOpen permits.release deadline }
  | _ => e

/-- Whether rates reach a threshold. -/
def breached (s : Settings) (r : Rates) : Bool :=
  r.failure.reaches s.failureRateThreshold || r.slow.reaches s.slowCallRateThreshold

/-- The episode with an outcome added to its window; nothing is recorded while disabled. -/
def observe (e : Episode) (now : Nat) (o : Outcome) : Episode :=
  { e with window := e.window.record now o }

/-- The rates of an episode. -/
def rates (e : Episode) : Rates := Rates.of e.window.totals e.minimum

/-- What follows from the window of an episode, once an outcome was added to it. -/
def followUp (s : Settings) (e : Episode) (now : Nat) : Option Decision :=
  match e.phase with
  | .disabled | .opened _ | .forcedOpen => none
  | .closed => if breached s e.rates then some (.trip e.rates) else none
  | .halfOpen _ deadline =>
    if deadline.any (· ≤ now) then some (.trip e.rates)
    else if e.window.totals.total < e.minimum then none
    else if breached s e.rates then some (.trip e.rates)
    else some .close
  | .metricsOnly reported =>
    if breached s e.rates && !reported then some (.tell e.rates) else none

/-- Remembers that a metrics-only episode told of its thresholds. -/
def noteTold (e : Episode) : Episode :=
  match e.phase with
  | .metricsOnly _ => { e with phase := .metricsOnly true }
  | _ => e

/-- Lets time pass in the window up to a reading. -/
def settle (e : Episode) (now : Nat) : Episode := { e with window := e.window.settle now }

/-- The metrics of an episode, as of the last time its window was settled. -/
def metrics (e : Episode) : Metrics := ⟨e.rates, e.window.totals, e.rejected⟩

/-- The reading at which a timer ends the episode, and the state that follows. -/
def timeout? (s : Settings) (e : Episode) : Option (Nat × State) :=
  match e.phase with
  | .opened retryAt => if s.probesOnTimer then some (retryAt, .halfOpen) else none
  | .halfOpen _ (some deadline) => some (deadline, .opened)
  | _ => none

end Episode

end Breaker

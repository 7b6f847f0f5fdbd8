import Breaker.Backoff
import Breaker.Classifier
import Breaker.State
import Breaker.Window

/-!
# Settings — what a breaker is built from

Settings are fixed for the life of a breaker.  `Settings.check?` names the first violation in the
order of the fields; a breaker is only built from settings without one.
-/

namespace Breaker

/-- The settings of a breaker. -/
structure Settings where
  /-- The percentage of failures at which the breaker opens. -/
  failureRateThreshold : Binary
  /-- The percentage of slow calls at which the breaker opens. -/
  slowCallRateThreshold : Binary
  /-- Calls at least this long are slow. -/
  slowCallDurationThreshold : Duration
  windowKind : WindowKind
  /-- The calls or seconds that the window covers. -/
  windowSize : Nat
  /-- The calls needed before rates are measured. -/
  minimumCalls : Nat
  /-- The trial calls of a half-open breaker. -/
  trialCalls : Nat
  backoff : Backoff
  /-- The longest stay in the half-open state; none if zero. -/
  trialLimit : Duration
  /-- Whether a timer ends the open state, and not only the next request. -/
  probesOnTimer : Bool
  classifier : Classifier

/-- What is wrong with some settings. -/
inductive Violation where
  | failureRateThreshold (value : Binary)
  | slowCallRateThreshold (value : Binary)
  | slowCallDurationThreshold
  | windowSize
  | minimumCalls
  | trialCalls
  | backoff (fault : Backoff.Fault)
  deriving DecidableEq

namespace Violation

/-- The setting at fault. -/
def field : Violation → String
  | .failureRateThreshold _ => "failure_rate_threshold"
  | .slowCallRateThreshold _ => "slow_call_rate_threshold"
  | .slowCallDurationThreshold => "slow_call_duration_threshold"
  | .windowSize => "sliding_window_size"
  | .minimumCalls => "minimum_number_of_calls"
  | .trialCalls => "permitted_calls_in_half_open"
  | .backoff _ => "wait_interval"

/-- What is wrong with it. -/
def reason : Violation → String
  | .failureRateThreshold value | .slowCallRateThreshold value =>
    "must be in (0, 100], got " ++ Layout.plain.text .single value
  | .backoff fault => fault.reason
  | _ => "must be greater than 0"

end Violation

namespace Settings

/-- The settings in force where none are given. -/
def standard : Settings where
  failureRateThreshold := Binary.exactly 50
  slowCallRateThreshold := Binary.exactly 100
  slowCallDurationThreshold := Duration.ofSeconds 60
  windowKind := .count
  windowSize := 100
  minimumCalls := 100
  trialCalls := 10
  backoff := .fixed (Duration.ofSeconds 60)
  trialLimit := Duration.zero
  probesOnTimer := false
  classifier := .standard

instance : Inhabited Settings := ⟨standard⟩

/-- Whether a number is a percentage above zero. -/
def isThreshold (x : Binary) : Bool := Binary.zero.lt x && x.le (Binary.exactly 100)

/-- The first violation of the settings, if there is one. -/
def check? (s : Settings) : Option Violation :=
  if !isThreshold s.failureRateThreshold then
    some (.failureRateThreshold s.failureRateThreshold)
  else if !isThreshold s.slowCallRateThreshold then
    some (.slowCallRateThreshold s.slowCallRateThreshold)
  else if s.slowCallDurationThreshold.isZero then some .slowCallDurationThreshold
  else if s.windowSize = 0 then some .windowSize
  else if s.minimumCalls = 0 then some .minimumCalls
  else if s.trialCalls = 0 then some .trialCalls
  else s.backoff.check?.map .backoff

/-- The minimum of calls in force: a window of calls can hold no more than its size. -/
def effectiveMinimum (s : Settings) : Nat :=
  match s.windowKind with
  | .count => min s.minimumCalls s.windowSize
  | .time => s.minimumCalls

/-- Whether a call of this duration is slow. -/
def isSlow (s : Settings) (d : Duration) : Bool := decide (s.slowCallDurationThreshold ≤ d)

/-- An empty window as configured. -/
def freshWindow (s : Settings) (now : Nat) : Window := Window.ofKind s.windowKind s.windowSize now

/-- Whether a breaker with these settings ever needs a timer. -/
def needsTimer (s : Settings) : Bool := s.probesOnTimer || !s.trialLimit.isZero

/-- The settings as text. -/
def describe (s : Settings) : String :=
  Text.record "Config"
    [("failure_rate_threshold", Layout.exact.text .single s.failureRateThreshold),
      ("slow_call_rate_threshold", Layout.exact.text .single s.slowCallRateThreshold),
      ("slow_call_duration_threshold", s.slowCallDurationThreshold.text),
      ("sliding_window_type", match s.windowKind with
        | .count => "CountBased"
        | .time => "TimeBased"),
      ("sliding_window_size", toString s.windowSize),
      ("minimum_number_of_calls", toString s.minimumCalls),
      ("permitted_calls_in_half_open", toString s.trialCalls),
      ("wait_interval", s.backoff.describe),
      ("max_wait_in_half_open", s.trialLimit.text),
      ("automatic_transition_to_half_open", Text.truth s.probesOnTimer),
      ("classifier", s.classifier.describe)]

end Settings

/-- Why a breaker refuses. -/
inductive Refusal where
  /-- The call is not permitted in this state. -/
  | notPermitted (circuit : String) (state : State)
  /-- The settings are invalid. -/
  | invalid (violation : Violation)
  deriving DecidableEq

namespace Refusal

/-- The text of a refusal. -/
def message : Refusal → String
  | .notPermitted circuit state =>
    "Circuit '" ++ circuit ++ "' does not permit further calls (state: " ++ state.text ++ ")"
  | .invalid violation =>
    "Invalid circuit breaker configuration: " ++ violation.field ++ " " ++ violation.reason

/-- Whether a call was refused, rather than the settings. -/
def isNotPermitted : Refusal → Bool
  | .notPermitted _ _ => true
  | .invalid _ => false

end Refusal

end Breaker

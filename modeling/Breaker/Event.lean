import Breaker.Duration
import Breaker.Rate
import Breaker.State

/-!
# Event — what a breaker publishes

Every event has a `Kind`, and a `Filter` selects events.
-/

namespace Breaker

/-- Something that happened at a breaker. -/
inductive Event where
  /-- A call counted as a success. -/
  | success (duration : Duration)
  /-- A call counted as a failure. -/
  | error (duration : Duration) (text : String)
  /-- A call was not counted. -/
  | ignoredError (duration : Duration) (text : String)
  /-- A request was refused. -/
  | notPermitted
  /-- The state changed. -/
  | transition (change : Transition)
  /-- The breaker was reset. -/
  | reset
  /-- The failure rate reached its threshold. -/
  | failureRateExceeded (rate : Rate)
  /-- The rate of slow calls reached its threshold. -/
  | slowCallRateExceeded (rate : Rate)
  deriving DecidableEq

namespace Event

/-- The name of the event's kind. -/
def kind : Event → String
  | .success _ => "Success"
  | .error _ _ => "Error"
  | .ignoredError _ _ => "IgnoredError"
  | .notPermitted => "NotPermitted"
  | .transition _ => "StateTransition"
  | .reset => "Reset"
  | .failureRateExceeded _ => "FailureRateExceeded"
  | .slowCallRateExceeded _ => "SlowCallRateExceeded"

/-- The change of state, if the event is one. -/
def transition? : Event → Option Transition
  | .transition change => some change
  | _ => none

end Event

/-- Which events a subscriber receives. -/
inductive Filter where
  | all
  | success
  | error
  | ignoredError
  | notPermitted
  | transition
  | reset
  | failureRateExceeded
  | slowCallRateExceeded
  /-- Successes and errors: the calls that reach the window. -/
  | callRecorded
  /-- Transitions into one state. -/
  | entering (state : State)
  deriving DecidableEq

/-- Whether a filter lets an event through. -/
def Filter.admits : Filter → Event → Bool
  | .all, _ => true
  | .success, .success _ => true
  | .error, .error _ _ => true
  | .ignoredError, .ignoredError _ _ => true
  | .notPermitted, .notPermitted => true
  | .transition, .transition _ => true
  | .reset, .reset => true
  | .failureRateExceeded, .failureRateExceeded _ => true
  | .slowCallRateExceeded, .slowCallRateExceeded _ => true
  | .callRecorded, .success _ => true
  | .callRecorded, .error _ _ => true
  | .entering state, .transition change => change.target == state
  | _, _ => false

end Breaker

import Breaker.Event
import Breaker.Settings
import Breaker.Value

/-!
# Journal — what came of a run, in order

A journal is the record of everything that can be noticed from outside, in the order it happened:
remarks of the user's functions, what hooks and subscribers heard and did, log records, what users did
with permissions, and the events themselves, whether or not somebody listened.
-/

namespace Breaker

/-- The answer of one step. -/
inductive Answer where
  | nothing
  | flag (value : Bool)
  | count (value : Nat)
  | text (value : String)
  | state (value : State)
  | granted
  | refused (refusal : Refusal)
  | metrics (value : Metrics)
  | settings (value : Settings)
  | durations (values : List Duration)
  | several (answers : List Answer)
  /-- The step needs a circuit that is not there. -/
  | noCircuit
  /-- The step was given up. -/
  | aborted (cause : Abort)

/-- A structured log record of one circuit. -/
inductive LogRecord where
  | transition (change : Transition) (attempt millisBefore : Nat) (manual : Bool)
  | reset (source : State)
  | refused (state : State) (rejected : Nat)
  | exceeded (rates : Rates)
  | consumerAborted (subscription : Nat)
  deriving DecidableEq

namespace LogRecord

/-- The level of a record. -/
def level : LogRecord → String
  | .transition _ _ _ _ | .reset _ => "INFO"
  | .refused _ _ | .exceeded _ => "DEBUG"
  | .consumerAborted _ => "WARN"

/-- The message of a record. -/
def message : LogRecord → String
  | .transition _ _ _ _ => "Circuit breaker state transition"
  | .reset _ => "Circuit breaker reset"
  | .refused _ _ => "Call not permitted"
  | .exceeded _ => "Thresholds exceeded in METRICS_ONLY; staying put"
  | .consumerAborted _ => "Event consumer panicked; event skipped for this consumer"

end LogRecord

/-- Something that the user's side noticed or did. -/
inductive Note where
  | remark (r : Remark)
  /-- A hook was called, and was shown the event or only the circuit's name. -/
  | hook (name circuit : String) (event : Option Event)
  /-- A subscriber received an event. -/
  | heard (subscriber circuit : String) (event : Event)
  /-- A subscriber carried out a step. -/
  | did (subscriber verb : String) (answer : Answer)

/-- What a user does with the permissions of a circuit. -/
inductive Deal where
  /-- A request is about to be put. -/
  | asking
  /-- A request was answered. -/
  | asked (granted : Bool)
  /-- A call is about to be reported. -/
  | reporting (duration : Duration) (r : Report)
  /-- The report of a call has returned. -/
  | reported (duration : Duration) (r : Report)
  /-- A permission is about to be given back. -/
  | released

/-- An entry of the journal. -/
inductive Entry where
  | note (n : Note)
  /-- A log record, with the number and the name of its circuit. -/
  | log (circuit : Nat) (name : String) (record : LogRecord)
  /-- An event that a circuit published. -/
  | published (circuit : Nat) (event : Event)
  /-- Something done with the permissions of a circuit. -/
  | dealt (circuit : Nat) (deal : Deal)

/-- The record of a run, oldest entry first. -/
abbrev Journal := Array Entry

namespace Journal

/-- The notes among some entries, in order. -/
def notes (entries : List Entry) : List Note :=
  entries.filterMap fun
    | .note n => some n
    | _ => none

/-- The log records among some entries, in order, with the names of their circuits. -/
def logs (entries : List Entry) : List (String × LogRecord) :=
  entries.filterMap fun
    | .log _ name record => some (name, record)
    | _ => none

/-- The events that a circuit published, in order. -/
def eventsOf (circuit : Nat) (entries : List Entry) : List Event :=
  entries.filterMap fun
    | .published c event => if c = circuit then some event else none
    | _ => none

end Journal

end Breaker

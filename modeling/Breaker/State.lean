/-!
# State — the six operating states

A breaker lets calls through while closed, disabled or in metrics-only operation, refuses them while
open or forced open, and lets a few of them through while half open.
-/

namespace Breaker

/-- The operating state of a breaker. -/
inductive State where
  /-- Calls pass, and their outcomes are held against the thresholds. -/
  | closed
  /-- Calls are refused until the wait is over. -/
  | opened
  /-- A few trial calls probe the dependency. -/
  | halfOpen
  /-- Calls pass, and nothing is recorded. -/
  | disabled
  /-- Calls are refused until the state is changed by hand. -/
  | forcedOpen
  /-- Calls pass and are recorded, and no threshold opens the breaker. -/
  | metricsOnly
  deriving DecidableEq, Inhabited

namespace State

/-- Every state. -/
def all : List State := [.closed, .opened, .halfOpen, .disabled, .forcedOpen, .metricsOnly]

/-- The state's text. -/
def text : State → String
  | .closed => "CLOSED"
  | .opened => "OPEN"
  | .halfOpen => "HALF_OPEN"
  | .disabled => "DISABLED"
  | .forcedOpen => "FORCED_OPEN"
  | .metricsOnly => "METRICS_ONLY"

/-- The state's name as a variant. -/
def variant : State → String
  | .closed => "Closed"
  | .opened => "Open"
  | .halfOpen => "HalfOpen"
  | .disabled => "Disabled"
  | .forcedOpen => "ForcedOpen"
  | .metricsOnly => "MetricsOnly"

/-- The state with a text. -/
def ofText? (s : String) : Option State := all.find? (·.text == s)

/-- Whether the breaker is open, of its own or by force. -/
def isOpen : State → Bool
  | .opened | .forcedOpen => true
  | _ => false

/-- Whether the breaker is closed. -/
def isClosed (s : State) : Bool := s == .closed

/-- Whether calls and refusals are published; transitions and resets always are. -/
def publishesCalls : State → Bool
  | .disabled | .forcedOpen => false
  | _ => true

end State

/-- A change of state. -/
structure Transition where
  source : State
  target : State
  deriving DecidableEq

/-- The transition's text. -/
def Transition.text (t : Transition) : String := t.source.text ++ " -> " ++ t.target.text

end Breaker

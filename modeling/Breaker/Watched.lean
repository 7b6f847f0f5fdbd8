import Breaker.Duration

/-!
# Watched — running code that belongs to the user

Predicates, wait functions, the texts of errors, consumers and tasks are the user's.  They may leave
remarks, and they may give up, which is an `Abort`.  A `Watched` run keeps the remarks made up to the
point where it gave up.
-/

namespace Breaker

/-- Why a run was given up. -/
inductive Abort where
  /-- A predicate gave up with a text of its own. -/
  | predicate (text : String)
  /-- A wait function knows no wait for an attempt. -/
  | noWait (attempt : Nat)
  /-- The text of an error could not be formed. -/
  | unshown (said : String)
  /-- An event consumer gave up. -/
  | consumer
  /-- A timer's task gave up. -/
  | task
  /-- A window of no size was asked for. -/
  | emptyWindow
  /-- The steps allowed for a run were used up. -/
  | unsettled
  deriving DecidableEq

/-- The text of an abort. -/
def Abort.message : Abort → String
  | .predicate text => text
  | .noWait attempt => "no wait for attempt " ++ toString attempt
  | .unshown said => said
  | .consumer => "consumer panic"
  | .task => "task panic"
  | .emptyWindow => "Window size must be greater than 0"
  | .unsettled => "steps used up"

/-- What a predicate or a wait function says about its being asked. -/
inductive Remark where
  | predicate (tag circuit : String) (duration : Duration)
  | waitFor (attempt : Nat)
  deriving DecidableEq

/-- A run of the user's code. -/
abbrev Watched := EStateM Abort (Array Remark)

namespace Watched

/-- Leaves a remark. -/
def remark (r : Remark) : Watched Unit := modify (·.push r)

/-- The result of a run and the remarks it made. -/
def observe {α : Type} (x : Watched α) : Except Abort α × Array Remark :=
  match x.run #[] with
  | .ok a remarks => (.ok a, remarks)
  | .error e remarks => (.error e, remarks)

end Watched

end Breaker

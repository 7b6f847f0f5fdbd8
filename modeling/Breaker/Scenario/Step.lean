import Breaker.Blueprint

/-!
# Step — the script language of scenarios

A scenario is a script of steps over several circuits.  A step names a handle and an action, and an
action may hold steps of its own: a repetition runs them in rounds, and a subscription runs them
when it receives an event.
-/

namespace Breaker.Scenario

mutual

/-- One step of a script, at a handle. -/
inductive Step where
  | on (handle : Nat) (action : Action)

/-- What a step does. -/
inductive Action where
  | tryAcquire
  | acquire
  | release
  | success (d : Duration)
  | error (d : Duration) (error : Value)
  | result (d : Duration) (result : Value)
  /-- Changes the state by hand. -/
  | to (state : State)
  | reset
  | state
  | metrics
  | name
  | settings
  | describe
  | consumers
  | advance (d : Duration)
  | setClock (nanos : Nat)
  | runTimers
  | pendingTimers
  /-- Makes a new handle to the same circuit. -/
  | clone
  /-- Drops the handle. -/
  | drop
  | awaitState (state : State)
  /-- Carries out steps in rounds and answers the answers of the last round. -/
  | rounds (count : Nat) (steps : List Step)
  /-- Subscribes under a name.  On its first `times` events the subscriber carries out the script,
  and it gives up after every event if `aborts`. -/
  | subscribe (name : String) (filter : Filter) (script : List Step) (times : Nat) (aborts : Bool)
  | unsubscribe (name : String)

end

namespace Step

/-- The handle of a step. -/
def handle : Step → Nat
  | .on handle _ => handle

/-- The action of a step. -/
def action : Step → Action
  | .on _ action => action

end Step

/-- The word for an action. -/
def Action.verb : Action → String
  | .tryAcquire => "try_acquire"
  | .acquire => "acquire"
  | .release => "release"
  | .success _ => "success"
  | .error _ _ => "error"
  | .result _ _ => "result"
  | .to _ => "to"
  | .reset => "reset"
  | .state => "state"
  | .metrics => "metrics"
  | .name => "name"
  | .settings => "config"
  | .describe => "debug"
  | .consumers => "consumers"
  | .advance _ => "advance"
  | .setClock _ => "set_clock"
  | .runTimers => "run_timers"
  | .pendingTimers => "pending_timers"
  | .clone => "clone"
  | .drop => "drop"
  | .awaitState _ => "await_state"
  | .rounds _ _ => "repeat"
  | .subscribe _ _ _ _ _ => "subscribe"
  | .unsubscribe _ => "unsubscribe"

mutual

/-- How deep a step can nest, by itself and through the scripts of its subscribers: each reaction
of a subscriber counts once with all its script can nest, and so does each round. -/
def Step.weight : Step → Nat
  | .on _ action => action.weight

/-- How deep an action can nest. -/
def Action.weight : Action → Nat
  | .rounds count steps => 1 + count * weightOf steps
  | .subscribe _ _ script times _ => 1 + times * (1 + weightOf script)
  | _ => 1

/-- How deep a script can nest. -/
def weightOf : List Step → Nat
  | [] => 0
  | step :: steps => step.weight + weightOf steps

end

end Breaker.Scenario

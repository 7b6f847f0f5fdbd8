import Breaker.Scenario.Listener
import Breaker.World.Alarms
import Breaker.World.Dealing

/-!
# Perform — carrying out steps

`perform` carries out one step.  Consumers react inside the step that caused their event and may
carry out steps there, so `perform` takes an allowance for how deep that goes; a script's
`weightOf` is enough of it.  It also takes the circuits on which acts are under way, since those
are there for their timers even if every handle was dropped.
-/

namespace Breaker.Scenario

/-- Does something with the circuit of a handle, if there is one. -/
def onCircuit (handle : Nat) (f : CircuitId → Deed Answer) : Deed Answer := do
  match (← get).resolve? handle with
  | some id => f id
  | none => return .noCircuit

/-- Does something with the circuit of a handle that has no answer. -/
def doOnCircuit (handle : Nat) (f : CircuitId → Deed Unit) : Deed Answer :=
  onCircuit handle fun id => do
    f id
    return .nothing

/-- Answers a question about the circuit of a handle. -/
def askCircuit (handle : Nat) (f : Circuit → Answer) : Deed Answer :=
  onCircuit handle fun id => return f ((← get).circuit id)

/-- Carries out steps in rounds; answers the answers of the last round. -/
def performRounds (perform : Step → Deed Answer) (steps : List Step) :
    Nat → List Answer → Deed (List Answer)
  | 0, last => pure last
  | count + 1, _ => do
    let answers ← steps.mapM perform
    performRounds perform steps count answers

/-- Subscribes a new consumer to a circuit, under a name; answers how many are subscribed. -/
def subscribe (id : CircuitId) (name : String) (filter : Filter) (listener : Listener) :
    Deed Answer := do
  let w ← get
  modifySession fun s => (s.add listener).store name id (w.circuit id).roster.nextId
  modify (·.subscribe id filter w.guest.nextConsumer)
  return .count ((← get).circuit id).roster.count

/-- Ends the subscription stored under a name; answers whether there was one. -/
def unsubscribe (name : String) : Deed Answer := do
  match (← get).guest.subscription? name with
  | none => return .flag false
  | some (id, number) =>
    modifySession (·.forget name)
    modify (·.unsubscribe id number)
    return .flag true

/-- Drops a handle; answers whether it was there. -/
def drop (handle : Nat) : Deed Answer := do
  let held := ((← get).resolve? handle).isSome
  modify fun w => { w with handles := w.handles.setIfInBounds handle none }
  return .flag held

/-- Carries out an action.  `react` is what consumers do with the events of a circuit, `perform`
carries out the steps of a repetition, and `tries` is how often a request may be put. -/
def act (react : CircuitId → React Session) (perform : Step → Deed Answer)
    (busy : List CircuitId) (tries handle : Nat) : Action → Deed Answer
  | .tryAcquire => onCircuit handle fun id => return .flag (← askAndNote (react id) id tries)
  | .acquire => onCircuit handle fun id => do
    match ← acquireAndNote (react id) id tries with
    | .ok _ => return .granted
    | .error refusal => return .refused refusal
  | .release => doOnCircuit handle noteAndRelease
  | .success d => doOnCircuit handle fun id => noteAndReport (react id) id d .success
  | .error d error => doOnCircuit handle fun id => noteAndReport (react id) id d (.error error)
  | .result d result => doOnCircuit handle fun id => noteAndReport (react id) id d (.result result)
  | .to state => doOnCircuit handle fun id => force (react id) id state
  | .reset => doOnCircuit handle fun id => reset (react id) id
  | .state => askCircuit handle (.state ·.episode.state)
  | .metrics => onCircuit handle fun id => return .metrics (← readMetrics id)
  | .name => askCircuit handle (.text ·.name)
  | .settings => askCircuit handle (.settings ·.settings)
  | .describe => askCircuit handle (.text ·.describe)
  | .consumers => askCircuit handle (.count ·.roster.count)
  | .advance d => do
    modify fun w => { w with clock := w.clock.advance d }
    return .count (← get).clock.now
  | .setClock nanos => do
    modify fun w => { w with clock := w.clock.set nanos }
    return .count (← get).clock.now
  | .runTimers => return .count (← runTimers react busy)
  | .pendingTimers => return .durations (← get).timers.delays
  | .clone => onCircuit handle fun id => do
    let w ← get
    set { w with handles := w.handles.push (some id) }
    return .count w.handles.size
  | .drop => drop handle
  | .awaitState state => onCircuit handle fun id =>
    return .flag (← awaitState react busy id state looksToAwait)
  | .rounds count steps => return .several (← performRounds perform steps count [])
  | .subscribe name filter script times aborts => onCircuit handle fun id =>
    subscribe id name filter (.subscriber name script times aborts)
  | .unsubscribe name => unsubscribe name

/-- How often a request may be put: it is settled within three, unless a consumer meddles. -/
def triesFor (allowance : Nat) : Nat := 3 * allowance

/-- Carries out a step. -/
def perform : (allowance : Nat) → (busy : List CircuitId) → Step → Deed Answer
  | 0, _, _ => throw .unsettled
  | allowance + 1, busy, .on handle action =>
    let react (id : CircuitId) : React Session := hear (perform allowance (id :: busy))
    act react (perform allowance busy) busy (triesFor (allowance + 1)) handle action

end Breaker.Scenario

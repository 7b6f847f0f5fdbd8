import Breaker.Scenario.Step

/-!
# Listener — hooks and subscribers of a scenario

A hook notes that it was called.  A subscriber notes each event it receives, carries out its script
while it has runs left, and then gives up if it is one that does.  Runs are counted per subscriber,
whether or not it is still subscribed, and a run is counted before its script begins.
-/

namespace Breaker.Scenario

/-- A consumer of events. -/
inductive Listener where
  /-- A hook; it is shown the event, or only the name of the circuit. -/
  | hook (name : String) (showsEvent : Bool)
  | subscriber (name : String) (script : List Step) (runsLeft : Nat) (aborts : Bool)

/-- What the listening side of a scenario remembers. -/
structure Session where
  /-- Every consumer so far, by its number. -/
  listeners : Array Listener
  /-- The subscriptions that are stored under a name, with circuit and number. -/
  subscriptions : List (String × CircuitId × Nat)

/-- Something done in a scenario. -/
abbrev Deed := Act Session

namespace Session

/-- Nobody listens. -/
def empty : Session := ⟨#[], []⟩

/-- The number of the next consumer. -/
def nextConsumer (s : Session) : ConsumerId := s.listeners.size

/-- Adds a consumer, under the next number. -/
def add (s : Session) (l : Listener) : Session := { s with listeners := s.listeners.push l }

/-- Counts a run of a subscriber's script. -/
def spend (s : Session) (consumer : ConsumerId) : Session :=
  { s with listeners := s.listeners.modify consumer fun
    | .subscriber name script left aborts => .subscriber name script (left - 1) aborts
    | l => l }

/-- The subscription stored under a name. -/
def subscription? (s : Session) (name : String) : Option (CircuitId × Nat) :=
  s.subscriptions.lookup name

/-- Forgets the subscription stored under a name. -/
def forget (s : Session) (name : String) : Session :=
  { s with subscriptions := s.subscriptions.filter (·.1 != name) }

/-- Stores a subscription under a name, in place of any other. -/
def store (s : Session) (name : String) (circuit : CircuitId) (id : Nat) : Session :=
  { s with subscriptions := (name, circuit, id) :: (s.forget name).subscriptions }

end Session

/-- Changes what the listening side remembers. -/
def modifySession (f : Session → Session) : Deed Unit :=
  modify fun w => { w with guest := f w.guest }

/-- Writes a note to the journal. -/
def note (n : Note) : Deed Unit := modify (·.write (.note n))

/-- Carries out the script of a subscriber, noting each answer. -/
def carryOut (perform : Step → Deed Answer) (subscriber : String) : List Step → Deed Unit
  | [] => pure ()
  | step :: steps => do
    let answer ← perform step
    note (.did subscriber step.action.verb answer)
    carryOut perform subscriber steps

/-- What a consumer does with an event of the circuit of a name. -/
def hear (perform : Step → Deed Answer) : React Session := fun consumer circuit event => do
  match (← get).guest.listeners[consumer]? with
  | none => pure ()
  | some (.hook name showsEvent) =>
    note (.hook name circuit (if showsEvent then some event else none))
  | some (.subscriber name script left aborts) =>
    note (.heard name circuit event)
    if !script.isEmpty && 0 < left then
      modifySession (·.spend consumer)
      carryOut perform name script
    if aborts then
      throw .consumer

end Breaker.Scenario

import Breaker.Scenario.Perform

/-!
# Run — a scenario from its plans to its rows

Circuits are built first; one that cannot be built ends the scenario with its refusal.  Then each
step gives a row: its answer, what was noted and logged during it, and what the circuit of its
handle looks like afterwards.  A step that is given up answers so, and the scenario goes on with
the next.
-/

namespace Breaker.Scenario

/-- A hook that a circuit may be built with. -/
inductive Hook where
  | entering (state : State)
  | transition
  deriving DecidableEq

/-- A part of the plan of a circuit. -/
inductive Part where
  | choice (c : Choice)
  /-- A hook, with the name it goes by. -/
  | hook (name : String) (h : Hook)

/-- The plan of a circuit. -/
structure Plan where
  name : String
  parts : List Part

/-- What a row shows of a circuit. -/
inductive Detail where
  | none
  | state
  | full
  deriving DecidableEq

/-- Plans, and steps for the circuits built from them. -/
structure Script where
  plans : List Plan
  /-- The reading at which the clock starts. -/
  start : Nat
  detail : Detail
  steps : List Step

/-- What came of one step. -/
structure Row where
  answer : Answer
  notes : List Note
  logs : List (String × LogRecord)
  state : Option State
  metrics : Option Metrics
  timers : Option (List Duration)

/-- Adds a part to a blueprint; a hook becomes a consumer. -/
def addPart (planned : Blueprint × Session) : Part → Blueprint × Session
  | .choice c => (planned.1.choose c, planned.2)
  | .hook name h =>
    let consumer := planned.2.nextConsumer
    match h with
    | .entering state =>
      (planned.1.choose (.onEntering state consumer), planned.2.add (.hook name false))
    | .transition => (planned.1.choose (.onTransition consumer), planned.2.add (.hook name true))

/-- Builds the circuit of a plan into a world. -/
def addPlan (w : World Session) (p : Plan) : Except Refusal (World Session) := do
  let (blueprint, guest) := p.parts.foldl addPart (Blueprint.named p.name, w.guest)
  let circuit ← blueprint.build w
  return { w.addCircuit circuit with guest := guest }

/-- Carries out an act; giving up is an answer. -/
def settled (deed : Deed Answer) : World Session → Answer × World Session := fun w =>
  match deed w with
  | .ok answer after => (answer, after)
  | .error cause after => (.aborted cause, after)

/-- The metrics of a circuit, and the world after they were read. -/
def glance (id : CircuitId) (w : World Session) : Option Metrics × World Session :=
  match (readMetrics id).run w with
  | .ok m after => (some m, after)
  | .error _ after => (none, after)

/-- What a row shows of the circuit of a handle, added to the row. -/
def showCircuit (detail : Detail) (handle : Nat) (row : Row) (w : World Session) :
    Row × World Session :=
  match detail, w.resolve? handle with
  | .state, some id => ({ row with state := some (w.episode id).state }, w)
  | .full, some id =>
    let (metrics, after) := glance id w
    ({ row with
        state := some (w.episode id).state
        metrics := metrics
        timers := some after.timers.delays },
      after)
  | _, _ => (row, w)

/-- The row of a step with what came of it, where the journal had `start` entries before. -/
def rowOf (detail : Detail) (handle start : Nat) : Answer × World Session → Row × World Session
  | (answer, after) =>
    let entries := (after.journal.extract start).toList
    let row : Row := ⟨answer, Journal.notes entries, Journal.logs entries, none, none, none⟩
    showCircuit detail handle row after

/-- Carries out a step of the script. -/
def runStep (allowance : Nat) (detail : Detail) (step : Step) (w : World Session) :
    Row × World Session :=
  rowOf detail step.handle w.journal.size (settled (perform allowance [] step) w)

/-- Carries out the steps of a script. -/
def runSteps (allowance : Nat) (detail : Detail) :
    List Step → World Session → List Row × World Session
  | [], w => ([], w)
  | step :: steps, w =>
    let (row, after) := runStep allowance detail step w
    let (rows, final) := runSteps allowance detail steps after
    (row :: rows, final)

/-- The seed of the dice of scenarios. -/
def seed : Dice := ⟨88172645463325252⟩

/-- Builds the circuits and carries out the script. -/
def run (s : Script) : Except Refusal (List Row) := do
  let w ← s.plans.foldlM addPlan (World.empty s.start seed Session.empty)
  return (runSteps (weightOf s.steps + 1) s.detail s.steps w).1

end Breaker.Scenario

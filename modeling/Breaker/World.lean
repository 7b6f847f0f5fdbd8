import Breaker.Clock
import Breaker.Episode
import Breaker.Journal
import Breaker.Roster
import Breaker.Timers

/-!
# World — circuits, and the time they share

A `Circuit` guards the calls to one dependency.  A `World` holds circuits together with what they
share: a clock moved by hand, timers run by hand, real time with timers of its own, the journal,
and the dice for random waits.  Circuits are reached through handles; cloning a handle shares the
circuit, and a circuit whose last handle is dropped is no longer there for its timers.

An `Act` is something done in a world; giving up keeps the world as it was left.  The consumers of
events are known here only by number.  What they do is a parameter, `React`, of every act that
publishes, and what they remember is the `guest` of the world, so that the acts on circuits are the
same whatever listens.
-/

namespace Breaker

/-- The number of a circuit in its world. -/
abbrev CircuitId := Nat

/-- The number of a consumer of events. -/
abbrev ConsumerId := Nat

/-- Where a circuit reads the time. -/
inductive TimeSource where
  /-- The clock of the world. -/
  | shared
  /-- Real time since a moment. -/
  | own (since : Nat)
  deriving DecidableEq

/-- Where a circuit leaves its timers. -/
inductive TimerSource where
  /-- The timers of the world. -/
  | shared
  /-- Real time. -/
  | threads
  deriving DecidableEq

/-- A breaker. -/
structure Circuit where
  name : String
  settings : Settings
  timeSource : TimeSource
  /-- A circuit that never needs a timer may have no place for one. -/
  timerSource : Option TimerSource
  roster : Roster ConsumerId
  /-- The current stay in a state. -/
  episode : Episode

namespace Circuit

/-- A circuit that guards nothing. -/
def blank : Circuit where
  name := ""
  settings := Settings.standard
  timeSource := .shared
  timerSource := none
  roster := Roster.empty
  episode := Episode.begin Settings.standard 0 0 0 .closed

instance : Inhabited Circuit := ⟨blank⟩

/-- The circuit as text. -/
def describe (c : Circuit) : String :=
  Text.record "CircuitBreaker"
    [("name", Text.quoted c.name), ("state", c.episode.state.variant),
      ("config", c.settings.describe), ("events", c.roster.describe c.name)]

end Circuit

/-- What a timer does: at its time, an episode gives way to a state. -/
structure Alarm where
  circuit : CircuitId
  episode : Nat
  target : State
  deriving DecidableEq

/-- An alarm at a moment of real time. -/
structure Wakeup where
  due : Nat
  alarm : Alarm
  deriving DecidableEq

/-- Circuits and what they share; `γ` is what the listening side remembers. -/
structure World (γ : Type) where
  clock : Clock
  /-- The real time that passed, in nanoseconds. -/
  elapsed : Nat
  timers : Timers Alarm
  /-- Timers that run in real time. -/
  threads : Timers Wakeup
  circuits : Array Circuit
  /-- The handles given out so far, with the circuits of those that were not dropped. -/
  handles : Array (Option CircuitId)
  journal : Journal
  dice : Dice
  guest : γ

/-- Something done in a world. -/
abbrev Act (γ : Type) := EStateM Abort (World γ)

/-- What a consumer does with an event of the circuit of a name. -/
abbrev React (γ : Type) := ConsumerId → String → Event → Act γ Unit

namespace World

variable {γ : Type}

/-- A world without circuits. -/
def empty (start : Nat) (dice : Dice) (guest : γ) : World γ where
  clock := Clock.startingAt start
  elapsed := 0
  timers := Timers.empty
  threads := Timers.empty
  circuits := #[]
  handles := #[]
  journal := #[]
  dice := dice
  guest := guest

/-- The circuit of a number. -/
def circuit (w : World γ) (id : CircuitId) : Circuit := w.circuits.getD id default

/-- Puts a circuit in the place of a number. -/
def setCircuit (w : World γ) (id : CircuitId) (c : Circuit) : World γ :=
  { w with circuits := w.circuits.setIfInBounds id c }

/-- The current episode of a circuit. -/
def episode (w : World γ) (id : CircuitId) : Episode := (w.circuit id).episode

/-- Puts an episode in the place of the current one. -/
def setEpisode (w : World γ) (id : CircuitId) (e : Episode) : World γ :=
  w.setCircuit id { w.circuit id with episode := e }

/-- Changes the current episode of a circuit. -/
def modifyEpisode (w : World γ) (id : CircuitId) (f : Episode → Episode) : World γ :=
  { w with circuits := w.circuits.modify id fun c => { c with episode := f c.episode } }

/-- Adds a circuit, under the next number and with a handle to it. -/
def addCircuit (w : World γ) (c : Circuit) : World γ :=
  { w with circuits := w.circuits.push c, handles := w.handles.push (some w.circuits.size) }

/-- The circuit that a handle refers to. -/
def resolve? (w : World γ) (handle : Nat) : Option CircuitId := (w.handles[handle]?).join

/-- Whether some handle still refers to a circuit. -/
def isHeld (w : World γ) (id : CircuitId) : Bool := w.handles.any (· == some id)

/-- The time as read from a source. -/
def timeAt (w : World γ) : TimeSource → Nat
  | .shared => w.clock.now
  | .own since => min (w.elapsed - since) wordMax

/-- The time as a circuit reads it. -/
def reading (w : World γ) (id : CircuitId) : Nat := w.timeAt (w.circuit id).timeSource

/-- Subscribes a consumer to a circuit. -/
def subscribe (w : World γ) (id : CircuitId) (filter : Filter) (consumer : ConsumerId) : World γ :=
  w.setCircuit id { w.circuit id with roster := (w.circuit id).roster.subscribe filter consumer }

/-- Ends a subscription at a circuit. -/
def unsubscribe (w : World γ) (id : CircuitId) (number : Nat) : World γ :=
  w.setCircuit id { w.circuit id with roster := (w.circuit id).roster.unsubscribe number }

/-- Writes to the journal. -/
def write (w : World γ) (entry : Entry) : World γ := { w with journal := w.journal.push entry }

/-- Writes a log record of a circuit. -/
def log (w : World γ) (id : CircuitId) (record : LogRecord) : World γ :=
  w.write (.log id (w.circuit id).name record)

/-! ### What a change leaves as it was -/

theorem circuit_setCircuit_self (w : World γ) {id : CircuitId} (c : Circuit)
    (h : id < w.circuits.size) : (w.setCircuit id c).circuit id = c := by
  simp [circuit, setCircuit, h]

theorem circuit_setCircuit_of_ne (w : World γ) {id other : CircuitId} (c : Circuit)
    (h : id ≠ other) : (w.setCircuit id c).circuit other = w.circuit other := by
  simp [circuit, setCircuit, Array.getElem?_setIfInBounds_ne h]

@[simp] theorem size_setCircuit (w : World γ) (id : CircuitId) (c : Circuit) :
    (w.setCircuit id c).circuits.size = w.circuits.size := by
  simp [setCircuit]

theorem episode_setEpisode_self (w : World γ) {id : CircuitId} (e : Episode)
    (h : id < w.circuits.size) : (w.setEpisode id e).episode id = e := by
  simp [episode, setEpisode, circuit_setCircuit_self _ _ h]

theorem episode_modifyEpisode_self (w : World γ) {id : CircuitId} (f : Episode → Episode)
    (h : id < w.circuits.size) : (w.modifyEpisode id f).episode id = f (w.episode id) := by
  simp [episode, circuit, modifyEpisode, h, Array.getElem_modify]

@[simp] theorem circuit_write (w : World γ) (entry : Entry) (id : CircuitId) :
    (w.write entry).circuit id = w.circuit id := rfl

@[simp] theorem episode_write (w : World γ) (entry : Entry) (id : CircuitId) :
    (w.write entry).episode id = w.episode id := rfl

@[simp] theorem circuit_log (w : World γ) (id other : CircuitId) (record : LogRecord) :
    (w.log id record).circuit other = w.circuit other := rfl

@[simp] theorem journal_setCircuit (w : World γ) (id : CircuitId) (c : Circuit) :
    (w.setCircuit id c).journal = w.journal := rfl

end World

/-- Runs code of the user's; its remarks go to the journal. -/
def watch {γ : Type} {α : Type} (x : Watched α) : Act γ α := do
  let (result, remarks) := x.observe
  modify fun w => remarks.foldl (fun w r => w.write (.note (.remark r))) w
  match result with
  | .ok a => pure a
  | .error e => throw e

end Breaker

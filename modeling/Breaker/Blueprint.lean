import Breaker.World

/-!
# Blueprint — assembling a circuit

A `Blueprint` gathers settings, predicates, a place in time and hooks, one `Choice` after another,
and is then built into a circuit if its settings have no violation.  A later choice replaces an
earlier one of the same thing.  Predicates chosen one by one are gathered apart from the settings
and prevail over any classifier in them, until a classifier is chosen, which discards them.  Hooks
are subscribed as they are chosen, so they are told of everything from the first call on.
-/

namespace Breaker

/-- The plan of a circuit. -/
structure Blueprint where
  name : String
  settings : Settings
  /-- Predicates chosen since the last classifier. -/
  predicates : Option Predicates
  timeSource : Option TimeSource
  timerSource : Option TimerSource
  roster : Roster ConsumerId

/-- One choice in assembling a circuit. -/
inductive Choice where
  | settings (s : Settings)
  | failureRateThreshold (percent : Binary)
  | slowCallRateThreshold (percent : Binary)
  | slowCallDurationThreshold (d : Duration)
  | windowKind (kind : WindowKind)
  | windowSize (size : Nat)
  /-- A window over a number of calls. -/
  | calls (size : Nat)
  /-- A window over a number of seconds. -/
  | seconds (size : Nat)
  | minimumCalls (calls : Nat)
  | trialCalls (calls : Nat)
  /-- The same wait at every attempt. -/
  | wait (d : Duration)
  | backoff (b : Backoff)
  | trialLimit (d : Duration)
  | probesOnTimer (enabled : Bool)
  | classifier (c : Classifier)
  | recordError (p : Predicate)
  | ignoreError (p : Predicate)
  | recordResult (p : Predicate)
  | timeSource (source : TimeSource)
  | timerSource (source : TimerSource)
  /-- A consumer to be told when a state is entered. -/
  | onEntering (state : State) (consumer : ConsumerId)
  /-- A consumer to be told of every change of state. -/
  | onTransition (consumer : ConsumerId)

namespace Blueprint

/-- The plan of a circuit of which only the name is chosen. -/
def named (name : String) : Blueprint :=
  ⟨name, Settings.standard, none, none, none, Roster.empty⟩

/-- The plan with its settings changed. -/
def mapSettings (b : Blueprint) (f : Settings → Settings) : Blueprint :=
  { b with settings := f b.settings }

/-- The plan with its predicates changed. -/
def mapPredicates (b : Blueprint) (f : Predicates → Predicates) : Blueprint :=
  { b with predicates := some (f (b.predicates.getD Predicates.none)) }

/-- Makes one choice. -/
def choose (b : Blueprint) : Choice → Blueprint
  | .settings s => { b with settings := s }
  | .failureRateThreshold x => b.mapSettings fun s => { s with failureRateThreshold := x }
  | .slowCallRateThreshold x => b.mapSettings fun s => { s with slowCallRateThreshold := x }
  | .slowCallDurationThreshold d => b.mapSettings fun s => { s with slowCallDurationThreshold := d }
  | .windowKind kind => b.mapSettings fun s => { s with windowKind := kind }
  | .windowSize size => b.mapSettings fun s => { s with windowSize := size }
  | .calls size => b.mapSettings fun s => { s with windowKind := .count, windowSize := size }
  | .seconds size => b.mapSettings fun s => { s with windowKind := .time, windowSize := size }
  | .minimumCalls calls => b.mapSettings fun s => { s with minimumCalls := calls }
  | .trialCalls calls => b.mapSettings fun s => { s with trialCalls := calls }
  | .wait d => b.mapSettings fun s => { s with backoff := .fixed d }
  | .backoff backoff => b.mapSettings fun s => { s with backoff := backoff }
  | .trialLimit d => b.mapSettings fun s => { s with trialLimit := d }
  | .probesOnTimer enabled => b.mapSettings fun s => { s with probesOnTimer := enabled }
  | .classifier c => { b.mapSettings fun s => { s with classifier := c } with predicates := none }
  | .recordError p => b.mapPredicates fun ps => { ps with recordError := some p }
  | .ignoreError p => b.mapPredicates fun ps => { ps with ignoreError := some p }
  | .recordResult p => b.mapPredicates fun ps => { ps with recordResult := some p }
  | .timeSource source => { b with timeSource := some source }
  | .timerSource source => { b with timerSource := some source }
  | .onEntering state consumer => { b with roster := b.roster.subscribe (.entering state) consumer }
  | .onTransition consumer => { b with roster := b.roster.subscribe .transition consumer }

/-- Makes choices in order. -/
def ofChoices (name : String) (choices : List Choice) : Blueprint :=
  choices.foldl choose (named name)

/-- The settings that a circuit built from the plan has. -/
def finalSettings (b : Blueprint) : Settings :=
  match b.predicates with
  | some ps => { b.settings with classifier := .predicates ps }
  | none => b.settings

/-- Builds a circuit in a world, closed and with nothing recorded.  Without a clock it keeps its own
time from now on, and without a place for timers it uses real time if it ever needs one. -/
def build {γ : Type} (b : Blueprint) (w : World γ) : Except Refusal Circuit :=
  let settings := b.finalSettings
  match settings.check? with
  | some violation => .error (.invalid violation)
  | none =>
    let timeSource := b.timeSource.getD (.own w.elapsed)
    .ok {
      name := b.name
      settings := settings
      timeSource := timeSource
      timerSource := b.timerSource <|> if settings.needsTimer then some .threads else none
      roster := b.roster
      episode := Episode.begin settings 0 0 (w.timeAt timeSource) .closed }

end Blueprint

end Breaker

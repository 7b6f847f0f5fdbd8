import Breaker.Blueprint
import Mathlib.Data.List.DropRight

/-!
# Blueprint — the last choice prevails

What a circuit is built from can be read off the choices without making them.  Each setting is the one that
the last choice to give it gave (`lastGiven`), where whole settings give every setting.  Only the classifier
depends on the order of choices of different kinds: predicates chosen one by one prevail over any classifier,
also over that of settings chosen after them, unless a classifier was chosen since (`Classifier.chosen`).
`built_from_last_choices` says so of every sequence of choices.
-/

namespace Breaker

namespace Choice

/-! ### What a choice gives -/

/-- The threshold of failures that a choice gives. -/
def failureRateThreshold? : Choice → Option Binary
  | .settings s => some s.failureRateThreshold
  | .failureRateThreshold percent => some percent
  | _ => none

/-- The threshold of slow calls that a choice gives. -/
def slowCallRateThreshold? : Choice → Option Binary
  | .settings s => some s.slowCallRateThreshold
  | .slowCallRateThreshold percent => some percent
  | _ => none

/-- The duration of slow calls that a choice gives. -/
def slowCallDurationThreshold? : Choice → Option Duration
  | .settings s => some s.slowCallDurationThreshold
  | .slowCallDurationThreshold d => some d
  | _ => none

/-- The kind of window that a choice gives, by itself or along with the size. -/
def windowKind? : Choice → Option WindowKind
  | .settings s => some s.windowKind
  | .windowKind kind => some kind
  | .calls _ => some .count
  | .seconds _ => some .time
  | _ => none

/-- The size of the window that a choice gives, by itself or along with the kind. -/
def windowSize? : Choice → Option Nat
  | .settings s => some s.windowSize
  | .windowSize size | .calls size | .seconds size => some size
  | _ => none

/-- The minimum of calls that a choice gives. -/
def minimumCalls? : Choice → Option Nat
  | .settings s => some s.minimumCalls
  | .minimumCalls n => some n
  | _ => none

/-- The number of trial calls that a choice gives. -/
def trialCalls? : Choice → Option Nat
  | .settings s => some s.trialCalls
  | .trialCalls n => some n
  | _ => none

/-- The waits that a choice gives, as a policy or as one span. -/
def backoff? : Choice → Option Backoff
  | .settings s => some s.backoff
  | .wait d => some (.fixed d)
  | .backoff b => some b
  | _ => none

/-- The longest trial that a choice gives. -/
def trialLimit? : Choice → Option Duration
  | .settings s => some s.trialLimit
  | .trialLimit d => some d
  | _ => none

/-- Whether there are probes on a timer, where a choice says so. -/
def probesOnTimer? : Choice → Option Bool
  | .settings s => some s.probesOnTimer
  | .probesOnTimer enabled => some enabled
  | _ => none

/-- The classifier that a choice gives. -/
def classifier? : Choice → Option Classifier
  | .settings s => some s.classifier
  | .classifier c => some c
  | _ => none

/-- The predicate on errors to record that a choice gives. -/
def recordError? : Choice → Option Predicate
  | .recordError p => some p
  | _ => none

/-- The predicate on errors to ignore that a choice gives. -/
def ignoreError? : Choice → Option Predicate
  | .ignoreError p => some p
  | _ => none

/-- The predicate on results to record that a choice gives. -/
def recordResult? : Choice → Option Predicate
  | .recordResult p => some p
  | _ => none

/-- The place in time that a choice gives. -/
def timeSource? : Choice → Option TimeSource
  | .timeSource source => some source
  | _ => none

/-- The place for timers that a choice gives. -/
def timerSource? : Choice → Option TimerSource
  | .timerSource source => some source
  | _ => none

/-- The subscription that a choice asks for. -/
def hook? : Choice → Option (Filter × ConsumerId)
  | .onEntering state consumer => some (.entering state, consumer)
  | .onTransition consumer => some (.transition, consumer)
  | _ => none

/-- Whether a choice is of a classifier by itself. -/
def isClassifier : Choice → Bool
  | .classifier _ => true
  | _ => false

/-- Whether a choice is of a predicate. -/
def isPredicate : Choice → Bool
  | .recordError _ | .ignoreError _ | .recordResult _ => true
  | _ => false

end Choice

variable {α : Type}

/-- What the last of the choices that give something gives. -/
def lastGiven (gives : Choice → Option α) (choices : List Choice) : Option α :=
  (choices.filterMap gives).getLast?

/-- The choices made since a classifier was last chosen by itself. -/
def sinceClassifier (choices : List Choice) : List Choice := choices.rtakeWhile (!·.isClassifier)

/-- The predicates chosen since a classifier was, the last one of each kind. -/
def Predicates.chosen (choices : List Choice) : Predicates where
  ignoreError := lastGiven Choice.ignoreError? (sinceClassifier choices)
  recordError := lastGiven Choice.recordError? (sinceClassifier choices)
  recordResult := lastGiven Choice.recordResult? (sinceClassifier choices)

/-- The classifier that is last chosen, by itself or in settings, unless predicates were chosen since a
classifier was chosen by itself. -/
def Classifier.chosen (choices : List Choice) : Classifier :=
  if (sinceClassifier choices).any Choice.isPredicate then .predicates (.chosen choices)
  else (lastGiven Choice.classifier? choices).getD .standard

/-- The settings with the classifier `c` and all else as last chosen. -/
def Settings.chosenWith (c : Classifier) (choices : List Choice) : Settings where
  failureRateThreshold :=
    (lastGiven Choice.failureRateThreshold? choices).getD standard.failureRateThreshold
  slowCallRateThreshold :=
    (lastGiven Choice.slowCallRateThreshold? choices).getD standard.slowCallRateThreshold
  slowCallDurationThreshold :=
    (lastGiven Choice.slowCallDurationThreshold? choices).getD standard.slowCallDurationThreshold
  windowKind := (lastGiven Choice.windowKind? choices).getD standard.windowKind
  windowSize := (lastGiven Choice.windowSize? choices).getD standard.windowSize
  minimumCalls := (lastGiven Choice.minimumCalls? choices).getD standard.minimumCalls
  trialCalls := (lastGiven Choice.trialCalls? choices).getD standard.trialCalls
  backoff := (lastGiven Choice.backoff? choices).getD standard.backoff
  trialLimit := (lastGiven Choice.trialLimit? choices).getD standard.trialLimit
  probesOnTimer := (lastGiven Choice.probesOnTimer? choices).getD standard.probesOnTimer
  classifier := c

/-- The settings as last chosen. -/
def Settings.chosen (choices : List Choice) : Settings := .chosenWith (.chosen choices) choices

/-- A roster of hooks in order, numbered from zero. -/
def Roster.ofHooks {κ : Type} (hooks : List (Filter × κ)) : Roster κ where
  members := hooks.zipIdx.map fun (hook, n) => ⟨n, hook.1, hook.2⟩
  nextId := hooks.length

/-! ### One choice more -/

theorem lastGiven_concat (gives : Choice → Option α) (choices : List Choice) (c : Choice) :
    lastGiven gives (choices ++ [c]) = (gives c).or (lastGiven gives choices) := by
  rw [lastGiven, List.filterMap_append, List.getLast?_append, lastGiven]
  cases given : gives c with
  | none => simp [given]
  | some a => simp [given]

theorem sinceClassifier_concat (choices : List Choice) (c : Choice) :
    sinceClassifier (choices ++ [c])
      = if c.isClassifier then [] else sinceClassifier choices ++ [c] := by
  rw [sinceClassifier, List.rtakeWhile_concat, sinceClassifier]
  cases c.isClassifier <;> rfl

theorem Roster.ofHooks_concat {κ : Type} (hooks : List (Filter × κ)) (filter : Filter) (consumer : κ) :
    (ofHooks (hooks ++ [(filter, consumer)])) = (ofHooks hooks).subscribe filter consumer := by
  simp [ofHooks, subscribe, List.zipIdx_append]

namespace Blueprint

variable (name : String) (choices : List Choice) (c : Choice)

theorem ofChoices_concat :
    ofChoices name (choices ++ [c]) = (ofChoices name choices).choose c := by
  rw [ofChoices, ofChoices, List.foldl_append, List.foldl_cons, List.foldl_nil]

theorem name_ofChoices : (ofChoices name choices).name = name := by
  induction choices using List.reverseRecOn with
  | nil => rfl
  | append_singleton choices c ih =>
    rw [ofChoices_concat]
    cases c <;> exact ih

/-- The settings gathered from choices, predicates apart. -/
theorem settings_ofChoices : (ofChoices name choices).settings
    = .chosenWith ((lastGiven Choice.classifier? choices).getD .standard) choices := by
  induction choices using List.reverseRecOn with
  | nil => rfl
  | append_singleton choices c ih =>
    simp only [ofChoices_concat, Settings.chosenWith, lastGiven_concat]
    cases c <;> first | exact ih | (simp only [choose, mapSettings, ih]; rfl)

/-- A plan holds the last predicates of each kind, or none. -/
theorem getD_predicates_ofChoices :
    (ofChoices name choices).predicates.getD .none = .chosen choices := by
  induction choices using List.reverseRecOn with
  | nil => rfl
  | append_singleton choices c ih =>
    rw [ofChoices_concat, Predicates.chosen, sinceClassifier_concat]
    cases c with
    | classifier => rfl
    | recordError p | ignoreError p | recordResult p =>
      simp only [choose, mapPredicates, ih, Choice.isClassifier, Bool.false_eq_true, if_false,
        lastGiven_concat]
      rfl
    | _ =>
      simp only [Choice.isClassifier, Bool.false_eq_true, if_false, lastGiven_concat]
      exact ih

/-- A plan holds predicates exactly if some were chosen since a classifier was. -/
theorem isSome_predicates_ofChoices : (ofChoices name choices).predicates.isSome
    = (sinceClassifier choices).any Choice.isPredicate := by
  induction choices using List.reverseRecOn with
  | nil => rfl
  | append_singleton choices c ih =>
    rw [ofChoices_concat, sinceClassifier_concat]
    cases c with
    | classifier => rfl
    | recordError p | ignoreError p | recordResult p =>
      simp [choose, mapPredicates, Choice.isClassifier, Choice.isPredicate]
    | _ =>
      simp only [Choice.isClassifier, Bool.false_eq_true, if_false, List.any_append]
      exact ih.trans (Bool.or_false _).symm

/-- The settings of a circuit built from choices. -/
theorem finalSettings_ofChoices : (ofChoices name choices).finalSettings = .chosen choices := by
  have gathered := getD_predicates_ofChoices name choices
  have prevail := isSome_predicates_ofChoices name choices
  rw [finalSettings, Settings.chosen, Classifier.chosen, settings_ofChoices]
  cases held : (ofChoices name choices).predicates with
  | none =>
    rw [held, Option.isSome_none] at prevail
    rw [← prevail]
    rfl
  | some ps =>
    rw [held, Option.isSome_some] at prevail
    rw [held, Option.getD_some] at gathered
    rw [← prevail, ← gathered]
    rfl

theorem timeSource_ofChoices :
    (ofChoices name choices).timeSource = lastGiven Choice.timeSource? choices := by
  induction choices using List.reverseRecOn with
  | nil => rfl
  | append_singleton choices c ih =>
    rw [ofChoices_concat, lastGiven_concat, ← ih]
    cases c <;> rfl

theorem timerSource_ofChoices :
    (ofChoices name choices).timerSource = lastGiven Choice.timerSource? choices := by
  induction choices using List.reverseRecOn with
  | nil => rfl
  | append_singleton choices c ih =>
    rw [ofChoices_concat, lastGiven_concat, ← ih]
    cases c <;> rfl

theorem roster_ofChoices :
    (ofChoices name choices).roster = .ofHooks (choices.filterMap Choice.hook?) := by
  induction choices using List.reverseRecOn with
  | nil => rfl
  | append_singleton choices c ih =>
    rw [ofChoices_concat, List.filterMap_append]
    cases c with
    | onEntering state consumer =>
      refine Eq.trans ?_ (Roster.ofHooks_concat _ (.entering state) consumer).symm
      rw [← ih]
      rfl
    | onTransition consumer =>
      refine Eq.trans ?_ (Roster.ofHooks_concat _ .transition consumer).symm
      rw [← ih]
      rfl
    | _ => exact ih.trans (congrArg Roster.ofHooks (List.append_nil _).symm)

/-- **The last choice prevails.**  Building from choices fails exactly if the settings as last chosen have a
violation, with the first one.  Else the circuit has these settings, the place in time and the place for
timers of their own last choices, and all hooks in order. -/
theorem built_from_last_choices {γ : Type} (name : String) (choices : List Choice) (w : World γ) :
    (ofChoices name choices).build w =
      match (Settings.chosen choices).check? with
      | some violation => .error (.invalid violation)
      | none =>
        let timeSource := (lastGiven Choice.timeSource? choices).getD (.own w.elapsed)
        .ok {
          name := name
          settings := .chosen choices
          timeSource := timeSource
          timerSource := lastGiven Choice.timerSource? choices <|>
            if (Settings.chosen choices).needsTimer then some .threads else none
          roster := .ofHooks (choices.filterMap Choice.hook?)
          episode := .begin (.chosen choices) 0 0 (w.timeAt timeSource) .closed } := by
  cases check : (Settings.chosen choices).check? with
  | some violation => simp only [build, finalSettings_ofChoices, check]
  | none =>
    simp only [build, finalSettings_ofChoices, check, name_ofChoices, timeSource_ofChoices,
      timerSource_ofChoices, roster_ofChoices]

/-- Settings chosen after predicates replace all but the predicates, and a classifier replaces these. -/
example (p q : Predicate) (s : Settings) :
    (ofChoices "" [.classifier .bare, .recordError p, .settings s]).finalSettings.classifier
      = .predicates ⟨none, some p, none⟩ ∧
    (ofChoices "" [.recordError p, .classifier .bare, .ignoreError q]).finalSettings.classifier
      = .predicates ⟨some q, none, none⟩ ∧
    (ofChoices "" [.recordError p, .classifier .bare, .settings s]).finalSettings.classifier
      = s.classifier :=
  ⟨rfl, rfl, rfl⟩

end Blueprint

end Breaker

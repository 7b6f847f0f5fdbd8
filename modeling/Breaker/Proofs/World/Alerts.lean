import Breaker.Proofs.World.Trace

/-!
# Alerts — how often it is published that thresholds were reached

A circuit publishes that a rate reached its threshold when it opens of itself, and once in each stay in
the state in which metrics are only watched.  So along a trace such events are at most as many as the
changes of state that may come with one (`Turn.mayAlert`), where a stay that has not yet told of its
thresholds counts as one to come (`Episode.untold`).  The inequality is kept by each happening alone, so
it does not matter what a consumer does while it is told of the thresholds (`Trace.alerts_le`): a report
inside it that finds them reached as well comes too late for the change of state, and without the change
nothing is published.
-/

namespace Breaker

variable {γ : Type}

/-- Whether an event says that the failure rate reached its threshold. -/
def Event.isFailureRateExceeded : Event → Bool
  | .failureRateExceeded _ => true
  | _ => false

/-- Whether an event says that the rate of slow calls reached its threshold. -/
def Event.isSlowCallRateExceeded : Event → Bool
  | .slowCallRateExceeded _ => true
  | _ => false

/-- A kind of events about thresholds: of those that are published about some rates, at most one is of
the kind, and no other event is. -/
structure Event.IsAlert (p : Event → Bool) : Prop where
  once : ∀ (s : Settings) (rates : Rates), (rates.events s).countP p ≤ 1
  only : ∀ event, p event = true →
    event.isFailureRateExceeded = true ∨ event.isSlowCallRateExceeded = true

namespace Event.IsAlert

theorem failureRate : IsAlert isFailureRateExceeded where
  once := fun s rates => by
    unfold Rates.events
    split_ifs
    all_goals simp [List.countP_cons, isFailureRateExceeded]
  only := fun _ => .inl

theorem slowCallRate : IsAlert isSlowCallRateExceeded where
  once := fun s rates => by
    unfold Rates.events
    split_ifs
    all_goals simp [List.countP_cons, isSlowCallRateExceeded]
  only := fun _ => .inr

variable {p : Event → Bool} (alert : IsAlert p)
include alert

theorem eq_false {event : Event} (failure : event.isFailureRateExceeded = false)
    (slow : event.isSlowCallRateExceeded = false) : p event = false := by
  by_contra of_kind
  rw [Bool.not_eq_false] at of_kind
  obtain of_failure | of_slow := alert.only event of_kind
  · rw [failure] at of_failure
    cases of_failure
  · rw [slow] at of_slow
    cases of_slow

theorem countP_of_calls {events : List Event} (calls : ∀ event ∈ events, event.isOfCall = true) :
    events.countP p = 0 := by
  refine List.countP_eq_zero.mpr fun event mem => ?_
  have call := calls event mem
  rw [Bool.not_eq_true]
  cases event with
  | success | error | ignoredError | notPermitted => exact alert.eq_false rfl rfl
  | transition | reset | failureRateExceeded | slowCallRateExceeded => cases call

theorem countP_resetEvents (source : State) : (resetEvents source).countP p = 0 := by
  have none (event : Event) (failure : event.isFailureRateExceeded = false)
      (slow : event.isSlowCallRateExceeded = false) : [event].countP p = 0 := by
    rw [List.countP_singleton, alert.eq_false failure slow]
    rfl
  unfold resetEvents
  rw [List.countP_append, none .reset rfl rfl]
  split
  · rfl
  · exact none _ rfl rfl

end Event.IsAlert

/-- Whether a change of state opens a circuit of itself. -/
def Turn.trips (t : Turn) : Bool := t.change.target = .opened && !t.manual

/-- Whether a change of state enters the state in which metrics are only watched. -/
def Turn.watches (t : Turn) : Bool := t.change.target = .metricsOnly

/-- Whether a change of state may come with an alert of a kind. -/
def Turn.mayAlert (t : Turn) : Bool := t.trips || t.watches

theorem Turn.countP_mayAlert (turns : List Turn) :
    turns.countP Turn.mayAlert = turns.countP Turn.trips + turns.countP Turn.watches := by
  induction turns with
  | nil => rfl
  | cons t turns ih =>
    have apart : t.trips = true → t.watches = false := by
      unfold trips watches
      intro trips
      rw [of_decide_eq_true (Bool.and_eq_true_iff.mp trips).1]
      rfl
    simp only [List.countP_cons, ih, mayAlert]
    by_cases trips : t.trips = true
    · simp [trips, apart trips]
      omega
    · simp [trips]
      omega

/-- Whether an entry is an event of a circuit and of a kind. -/
def Entry.isAlert (id : CircuitId) (p : Event → Bool) : Entry → Bool
  | .published circuit event => decide (circuit = id) && p event
  | _ => false

/-- Whether an entry tells of a change of state of a circuit that may come with an alert. -/
def Entry.mayAlert (id : CircuitId) (entry : Entry) : Bool := (entry.turn? id).any Turn.mayAlert

theorem Entry.mayAlert_transition (id other : CircuitId) (name : String) (change : Transition)
    (attempt millis : Nat) (manual : Bool) :
    mayAlert id (.log other name (.transition change attempt millis manual))
      = (decide (other = id) && Turn.mayAlert ⟨change, manual⟩) := by
  rw [mayAlert, turn?]
  by_cases own : other = id
  · simp [own]
  · simp [own]

theorem Entry.mayAlert_reset (id other : CircuitId) (name : String) (source : State) :
    mayAlert id (.log other name (.reset source)) = false := by
  rw [mayAlert, turn?]
  by_cases own : other = id
  · simp [own, Turn.mayAlert, Turn.trips, Turn.watches]
  · simp [own]

theorem Journal.countP_eventsOf (id : CircuitId) (p : Event → Bool) (entries : List Entry) :
    (eventsOf id entries).countP p = entries.countP (Entry.isAlert id p) := by
  rw [eventsOf, List.countP_filterMap]
  refine List.countP_congr fun entry _ => ?_
  cases entry with
  | note | log | dealt => simp [Entry.isAlert]
  | published circuit event =>
    by_cases own : circuit = id
    · simp [Entry.isAlert, own]
    · simp [Entry.isAlert, own]

theorem Journal.countP_turnsOf (id : CircuitId) (entries : List Entry) :
    (turnsOf id entries).countP Turn.mayAlert = entries.countP (Entry.mayAlert id) := by
  rw [turnsOf, List.countP_filterMap]
  refine List.countP_congr fun entry _ => ?_
  rw [Entry.mayAlert]
  cases entry.turn? id with
  | none => rfl
  | some t => rfl

theorem Entry.mayAlert_dealt (id other : CircuitId) (deal : Deal) :
    mayAlert id (.dealt other deal) = false := rfl

theorem Entry.isAlert_of_isPlain {entry : Entry} (plain : entry.isPlain = true) (id : CircuitId)
    (p : Event → Bool) : entry.isAlert id p = false := by
  cases entry with
  | note | log | dealt => rfl
  | published => cases plain

theorem Entry.mayAlert_of_isPlain {entry : Entry} (plain : entry.isPlain = true) (id : CircuitId) :
    entry.mayAlert id = false := by
  rw [mayAlert, isAside_of_isPlain plain]
  rfl

/-- One if thresholds may still be told of in the current stay. -/
def Episode.untold (e : Episode) : Nat := if e.phase = .metricsOnly false then 1 else 0

/-- The alerts that are still to be published. -/
def Stage.alerts (id : CircuitId) (p : Event → Bool) : Stage → Nat
  | .publishes circuit events => if circuit = id then events.countP p else 0
  | .acts | .tells _ _ _ | .reacts _ _ _ => 0

namespace Episode

theorem Takes.untold {e : Episode} {now : Nat} {m : Mark} (h : e.Takes now m) (s : Settings) :
    (e.after s now m).untold = e.untold := by
  cases m with
  | granted =>
    obtain ⟨taken, granted⟩ := h
    rw [after, granted]
    obtain rfl | ⟨permits, left, deadline, phase, -, rfl⟩ := request_granted granted
    · rfl
    · simp [Episode.untold, phase]
  | released =>
    rw [after, release]
    split
    case h_1 permits deadline phase => simp [Episode.untold, phase]
    case h_2 => rfl
  | refused | settled => rfl
  | recorded | told | entered => exact h.elim

theorem untold_noteTold (e : Episode) : e.noteTold.untold = 0 := by
  rw [noteTold]
  split
  case h_1 => rfl
  case h_2 other => exact if_neg fun phase => other _ phase

theorem untold_entered (e : Episode) (s : Settings) (now : Nat) (target : State) (wait : Duration)
    (manual : Bool) (timer : Option Nat) :
    (e.after s now (.entered target wait manual timer)).untold
      = if target = .metricsOnly then 1 else 0 := by
  show Episode.untold { e.next s now target wait manual with timer := timer } = _
  rw [untold, next_phase]
  cases target with
  | closed | opened | halfOpen | disabled | forcedOpen | metricsOnly => rfl

end Episode

namespace Audience.Trace

open World

variable {a : Audience γ} {whole : Prop} {stage : Stage} {w w' : World γ} {hs : List Happening}
  {id : CircuitId}

/-- An episode that is put in the place of the current one, as any circuit sees it. -/
private theorem untold_setEpisode (there : id < w.circuits.size) (other : CircuitId) (e : Episode) :
    ((w.setEpisode other e).episode id).untold
      = if other = id then e.untold else (w.episode id).untold := by
  rw [episode, circuit_setEpisode]
  by_cases same : other = id
  · rw [if_pos ⟨same, there⟩, if_pos same]
  · rw [if_neg fun both => same both.1, if_neg same]
    rfl

/-- A state that is entered, as any circuit sees it. -/
private theorem untold_enter (there : id < w.circuits.size) (other : CircuitId) (target : State)
    (wait : Duration) (manual : Bool) : ((w.enter other target wait manual).episode id).untold
      = if other = id then (if target = .metricsOnly then 1 else 0) else (w.episode id).untold := by
  by_cases same : other = id
  · subst same
    rw [episode_enter_self there, if_pos rfl]
    exact Episode.untold_entered ..
  · rw [episode_enter_of_ne same, if_neg same]

/-- What is published with a change of state is warranted by it. -/
private theorem countP_announcement {p : Event → Bool} (alert : Event.IsAlert p)
    (change : Transition) {manual : Bool} {told : List Event} (called : told = [] ∨
      change.target = .opened ∧ manual = false ∧ ∃ s, ∃ rates : Rates, told = rates.events s) :
    (told ++ [Event.transition change]).countP p + (if change.target = .metricsOnly then 1 else 0)
      ≤ if Turn.mayAlert ⟨change, manual⟩ then 1 else 0 := by
  have transition : [Event.transition change].countP p = 0 := by
    rw [List.countP_singleton, alert.eq_false rfl rfl]
    rfl
  rw [List.countP_append, transition]
  obtain rfl | ⟨opens, auto, s, rates, rfl⟩ := called
  · by_cases watches : change.target = .metricsOnly
    · simp [Turn.mayAlert, Turn.watches, watches]
    · simp [watches]
  · have once := alert.once s rates
    simpa [Turn.mayAlert, Turn.trips, opens, auto] using once

/-- **Alerts of a kind** are at most as many as the changes of state that may come with one, whatever
consumers do meanwhile. -/
theorem alerts_le (h : a.Trace whole stage w hs w') (there : id < w.circuits.size)
    {p : Event → Bool} (alert : Event.IsAlert p) :
    (Happening.entries hs).countP (Entry.isAlert id p) + (w'.episode id).untold
      ≤ (Happening.entries hs).countP (Entry.mayAlert id) + (w.episode id).untold
        + stage.alerts id p := by
  induction h with
  | refl | said | allTold | unheard => simp
  | trans h _ ih ih' | heard h _ ih ih' =>
    have first := ih there
    have second := ih' (h.leads.size there)
    simp only [Happening.entries_append, List.countP_append, Stage.alerts] at first second ⊢
    omega
  | @beside w w' _ circuits =>
    have same : w'.episode id = w.episode id := by rw [episode, circuit, circuits]; rfl
    simp [same]
  | arranged h => simp [(a.listens h).episode]
  | @wrote w entry plain =>
    have same : (w.write entry).episode id = w.episode id := rfl
    simp [Entry.isAlert_of_isPlain plain, Entry.mayAlert_of_isPlain plain, same]
  | settled w other =>
    have same : ((w.episode other).settle (w.reading other)).untold = (w.episode other).untold := rfl
    rw [untold_setEpisode there, same]
    by_cases own : other = id
    · simp [own]
    · simp [own]
  | @refused w w₁ w' other hs hs' h _ ih ih' =>
    have first := ih there
    have same : (w₁.episode other).reject.untold = (w₁.episode other).untold := rfl
    have within : id < w₁.circuits.size := h.leads.size there
    have second := ih' (by rwa [setEpisode, size_setCircuit])
    have kept : (if other = id then (w₁.episode other).untold else (w₁.episode id).untold)
        = (w₁.episode id).untold := by
      split_ifs with own
      · rw [own]
      · rfl
    rw [untold_setEpisode within, same, kept] at second
    simp only [Happening.entries_wrote, Happening.entries_append, Happening.entries_marked,
      List.countP_cons, List.countP_append, Entry.mayAlert_dealt, Entry.isAlert, Stage.alerts,
      Bool.false_eq_true, if_false, episode_write] at first second ⊢
    omega
  | @dealt w other m deal _ takes =>
    have same := takes.untold (w.circuit other).settings
    have noted : id < (w.write (.dealt other deal)).circuits.size := there
    rw [untold_setEpisode noted, same, episode_write]
    by_cases own : other = id
    · simp [own, Entry.isAlert, Entry.mayAlert_dealt]
    · simp [own, Entry.isAlert, Entry.mayAlert_dealt]
  | @told w w₁ w' other hs hs' s rates untold h _ ih ih' =>
    have first := ih (by rwa [setEpisode, size_setCircuit])
    have second := ih' (h.leads.size (by rwa [setEpisode, size_setCircuit]))
    have once := alert.once s rates
    rw [untold_setEpisode there, Episode.untold_noteTold] at first
    simp only [Happening.entries_marked, Happening.entries_append, List.countP_append,
      Stage.alerts] at first second ⊢
    by_cases own : other = id
    · subst own
      have one : (w.episode other).untold = 1 := if_pos untold
      simp only [if_true] at first second
      omega
    · simp only [if_neg own] at first second
      omega
  | @reported w w' other d r o hs _ _ _ ih | @abandoned w w' other d r o hs _ _ _ ih =>
    have noted : id < (w.write (.dealt other (.reporting d r))).circuits.size := there
    have rest := ih (by rwa [setEpisode, size_setCircuit])
    have same : ((w.episode other).observe (w.reading other) o).untold = (w.episode other).untold :=
      rfl
    rw [untold_setEpisode noted, same, episode_write] at rest
    by_cases own : other = id
    · simpa [own, Entry.isAlert, Entry.mayAlert_dealt] using rest
    · simpa [own, Entry.isAlert, Entry.mayAlert_dealt] using rest
  | @changed w w' other target wait manual breach hs _ _ _ called _ ih =>
    have rest := ih (show id < (w.enter other target wait manual).circuits.size by rwa [size_enter])
    have warranted := countP_announcement alert ⟨(w.episode other).state, target⟩ called
    rw [show World.episode (World.log _ _ _) id = (w.enter other target wait manual).episode id
      from rfl, untold_enter there] at rest
    simp only [Happening.entries_marked, Happening.entries_wrote, List.countP_cons,
      Entry.mayAlert_transition, Entry.isAlert, Stage.alerts] at rest warranted ⊢
    by_cases own : other = id
    · subst own
      simp only [if_true, decide_true, Bool.true_and, Bool.false_eq_true, if_false] at rest ⊢
      omega
    · simpa [own] using rest
  | @reset w w' other hs _ ih =>
    have rest := ih (show id < (w.enter other .closed .zero true).circuits.size by rwa [size_enter])
    rw [show World.episode (World.log _ _ _) id = (w.enter other .closed .zero true).episode id
      from rfl, untold_enter there] at rest
    simp only [Happening.entries_marked, Happening.entries_wrote, List.countP_cons,
      Entry.mayAlert_reset, Entry.isAlert, Stage.alerts, alert.countP_resetEvents, ite_self,
      reduceCtorEq, if_false, Bool.false_eq_true] at rest ⊢
    split at rest
    all_goals omega
  | called calls _ ih =>
    have rest := ih there
    simp only [Stage.alerts, alert.countP_of_calls calls, ite_self] at rest ⊢
    exact rest
  | @published w w₁ w' other event events hs hs' h _ ih ih' =>
    have first := ih there
    have second := ih' (h.leads.size there)
    have quiet : Entry.mayAlert id (.published other event) = false := rfl
    rw [episode_write] at first
    simp only [Happening.entries_wrote, Happening.entries_append, List.countP_cons,
      List.countP_append, Entry.isAlert, quiet, Stage.alerts] at first second ⊢
    by_cases own : other = id
    · subst own
      simp only [if_true, decide_true, Bool.true_and, Bool.false_eq_true, if_false] at second ⊢
      omega
    · simp only [own, if_false, decide_false, Bool.false_and, Bool.false_eq_true] at second ⊢
      omega
  | @unsaid w w' other event events hs _ _ ih =>
    have rest := ih there
    simp only [Stage.alerts, List.countP_cons] at rest ⊢
    by_cases own : other = id
    · simp only [own, if_true] at rest ⊢
      omega
    · simpa only [own, if_false] using rest
  | mute _ _ ih => exact ih there
  | @greeted w w' consumer name event n hs _ _ ih =>
    have rest := ih there
    rw [show (w.write _).episode id = w.episode id from rfl] at rest
    simpa [Entry.isAlert, Entry.mayAlert, Entry.turn?, Stage.alerts] using rest

/-- Where nothing is left to be told of, alerts are at most as many as the changes of state into open
by itself, and into the state in which metrics are only watched. -/
theorem countP_eventsOf_le (h : a.Trace whole .acts w hs w') (there : id < w.circuits.size)
    {p : Event → Bool} (alert : Event.IsAlert p) (fresh : (w.episode id).untold = 0) :
    (Journal.eventsOf id (Happening.entries hs)).countP p
      ≤ (Journal.turnsOf id (Happening.entries hs)).countP Turn.trips
        + (Journal.turnsOf id (Happening.entries hs)).countP Turn.watches := by
  have few := h.alerts_le there alert
  rw [fresh] at few
  rw [← Turn.countP_mayAlert, Journal.countP_turnsOf, Journal.countP_eventsOf]
  exact Nat.le_of_add_right_le few

end Audience.Trace

end Breaker

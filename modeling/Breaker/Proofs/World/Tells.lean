import Mathlib
import Breaker.Proofs.World.Move

/-!
# Tells — exactly which events were published

`Tells id events w w'` says that from `w` to `w'` a circuit published these events, in this order, and
that nothing else happened: consumers that were told left notes, the log says which of them gave up,
and what they remember may have changed.  Up to these notes the journal goes on with the events, and they
tell of no change of state (`Tells.entries`, `Entry.isAside_of_filter`).
-/

namespace Breaker

variable {γ : Type}

/-- The events about rates that reached their thresholds. -/
def Rates.events (s : Settings) (rates : Rates) : List Event :=
  (if rates.failure.reaches s.failureRateThreshold then [.failureRateExceeded rates.failure] else [])
    ++ if rates.slow.reaches s.slowCallRateThreshold then [.slowCallRateExceeded rates.slow] else []

/-- The events about a reset, out of a state. -/
def resetEvents (source : State) : List Event :=
  (if source = .closed then [] else [.transition ⟨source, .closed⟩]) ++ [.reset]

/-- Whether an entry is left by those who were told of an event. -/
def Entry.isNote : Entry → Bool
  | .note _ | .log _ _ (.consumerAborted _) => true
  | _ => false

theorem Entry.isAside_of_isNote {entry : Entry} (h : entry.isNote = true) : entry.IsAside := by
  intro id
  cases entry with
  | note n => rfl
  | published circuit event | dealt circuit deal => cases h
  | log circuit name record =>
    cases record with
    | consumerAborted subscription => rfl
    | transition | reset | refused | exceeded => cases h

/-- An event that was published, with what was left by those who were told of it, tells of no change of
state. -/
theorem Entry.isAside_of_filter {id : CircuitId} {events : List Event} {entries : List Entry}
    (h : (entries.filter fun entry => !entry.isNote) = events.map (.published id)) :
    ∀ entry ∈ entries, entry.IsAside := by
  intro entry mem
  cases note : entry.isNote with
  | true => exact Entry.isAside_of_isNote note
  | false =>
    have mem' : entry ∈ events.map (.published id) := by
      rw [← h, List.mem_filter]
      exact ⟨mem, by rw [note]; rfl⟩
    obtain ⟨event, -, rfl⟩ := List.mem_map.mp mem'
    exact fun _ => rfl

/-- Notes are no events. -/
theorem Journal.eventsOf_filter (id : CircuitId) (entries : List Entry) :
    Journal.eventsOf id (entries.filter fun entry => !entry.isNote)
      = Journal.eventsOf id entries := by
  rw [Journal.eventsOf, Journal.eventsOf, List.filterMap_filter]
  congr 1
  funext entry
  cases entry with
  | note n => rfl
  | published circuit event | dealt circuit deal => rfl
  | log circuit name record =>
    cases record with
    | consumerAborted | transition | reset | refused | exceeded => rfl

theorem Journal.eventsOf_published (id : CircuitId) (events : List Event) :
    Journal.eventsOf id (events.map (.published id)) = events := by
  rw [Journal.eventsOf, List.filterMap_map]
  simp

theorem Journal.eventsOf_published_of_ne {id other : CircuitId} (h : id ≠ other)
    (events : List Event) : Journal.eventsOf other (events.map (.published id)) = [] := by
  rw [Journal.eventsOf, List.filterMap_map, List.filterMap_eq_nil_iff]
  intro event _
  exact if_neg h

theorem Journal.eventsOf_append (id : CircuitId) (entries entries' : List Entry) :
    Journal.eventsOf id (entries ++ entries')
      = Journal.eventsOf id entries ++ Journal.eventsOf id entries' := List.filterMap_append

namespace World

/-- A circuit published some events, and those who were told do not call back. -/
def Tells (id : CircuitId) (events : List Event) (w w' : World γ) : Prop :=
  ∃ (guest : γ) (entries : List Entry),
    (entries.filter fun entry => !entry.isNote) = events.map (.published id) ∧
      w' = { w with guest := guest, journal := w.journal ++ entries.toArray }

namespace Tells

variable {id : CircuitId} {events events' : List Event} {w w' w₁ w₂ w₃ : World γ}

theorem refl (id : CircuitId) (w : World γ) : Tells id [] w w := ⟨w.guest, [], rfl, by simp⟩

theorem trans (h : Tells id events w₁ w₂) (h' : Tells id events' w₂ w₃) :
    Tells id (events ++ events') w₁ w₃ := by
  obtain ⟨_, entries, told, rfl⟩ := h
  obtain ⟨guest, entries', told', rfl⟩ := h'
  refine ⟨guest, entries ++ entries', ?_, by simp⟩
  rw [List.filter_append, told, told', List.map_append]

/-- An event is published. -/
theorem published (id : CircuitId) (w : World γ) (event : Event) :
    Tells id [event] w (w.write (.published id event)) :=
  ⟨w.guest, [.published id event], rfl, by simp [write]⟩

/-- Those who are told leave a note, or give up. -/
theorem noted (id : CircuitId) (w : World γ) {entry : Entry} (h : entry.isNote = true) :
    Tells id [] w (w.write entry) := ⟨w.guest, [entry], by simp [h], by simp [write]⟩

/-- What is told is beside the circuits. -/
theorem aside (h : Tells id events w w') : w.Aside w' := by
  obtain ⟨guest, entries, told, rfl⟩ := h
  exact ⟨rfl, rfl, rfl, rfl, rfl, rfl, entries, Entry.isAside_of_filter told, rfl⟩

/-- What was written, up to what those who were told left. -/
theorem entries (h : Tells id events w w') : ∃ entries : List Entry,
    w'.journal = w.journal ++ entries.toArray ∧
      (entries.filter fun entry => !entry.isNote) = events.map (.published id) := by
  obtain ⟨_, entries, told, rfl⟩ := h
  exact ⟨entries, rfl, told⟩

end Tells

end World

end Breaker

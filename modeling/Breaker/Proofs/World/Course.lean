import Mathlib
import Breaker.Proofs.World.Move

/-!
# Course — what happens at one circuit

`Goes id w marks w'` says that from `w` to `w'` the circuit `id` took the marks, one after another, and
nothing else happened but what is beside the circuits.  `Course id w marks w'` says what this means
for who looks at the circuit: its episode went through the marks, the journal tells of the changes of
state among them, and the rest of the circuit is as it was (`Goes.course`).  Who looks at another
circuit sees no mark (`Goes.elsewhere`).
-/

namespace Breaker.World

variable {γ : Type}

/-- The mark that a circuit takes when it enters a state. -/
def entering (w : World γ) (id : CircuitId) (target : State) (wait : Duration) (manual : Bool) :
    Mark :=
  .entered target wait manual (w.timerFor id (w.nextEpisode id target wait manual))

theorem Aside.entering {w w' : World γ} (h : w.Aside w') (id : CircuitId) (target : State)
    (wait : Duration) (manual : Bool) :
    w'.entering id target wait manual = w.entering id target wait manual := by
  have next : w'.nextEpisode id target wait manual = w.nextEpisode id target wait manual := by
    rw [nextEpisode, nextEpisode, h.episode, h.circuit, h.reading]
  simp only [World.entering, timerFor, alarmFor, next, h.circuit, h.nextHandle]

/-- At one circuit, and beside the circuits, some marks were made. -/
inductive Goes (id : CircuitId) : World γ → List Mark → World γ → Prop where
  | aside {w w' : World γ} (h : w.Aside w') : Goes id w [] w'
  | mark (w : World γ) {m : Mark} (h : m.stays = true) :
      Goes id w [m]
        (w.setEpisode id ((w.episode id).after (w.circuit id).settings (w.reading id) m))
  | change (w : World γ) (target : State) (wait : Duration) (manual : Bool) :
      Goes id w [w.entering id target wait manual]
        ((w.enter id target wait manual).log id (.transition ⟨(w.episode id).state, target⟩
          (Episode.attemptsOnEntry (w.episode id).state (w.episode id).attempts target manual)
          ((w.reading id - (w.episode id).enteredAt) / nanosPerMilli) manual))
  | reset (w : World γ) (wait : Duration) :
      Goes id w [w.entering id .closed wait true]
        ((w.enter id .closed wait true).log id (.reset (w.episode id).state))
  | trans {w₁ w₂ w₃ : World γ} {marks marks' : List Mark} (h : Goes id w₁ marks w₂)
      (h' : Goes id w₂ marks' w₃) : Goes id w₁ (marks ++ marks') w₃

/-- What was written to the journal since another moment. -/
def entriesSince (w' w : World γ) : List Entry := (w'.journal.extract w.journal.size).toList

theorem entriesSince_eq {w w' : World γ} {entries : List Entry}
    (h : w'.journal = w.journal ++ entries.toArray) : w'.entriesSince w = entries := by
  rw [entriesSince, h]
  simp

/-- How a circuit goes through some marks, for who looks at it. -/
structure Course (id : CircuitId) (w : World γ) (marks : List Mark) (w' : World γ) : Prop where
  name : (w'.circuit id).name = (w.circuit id).name
  settings : (w'.circuit id).settings = (w.circuit id).settings
  timeSource : (w'.circuit id).timeSource = (w.circuit id).timeSource
  timerSource : (w'.circuit id).timerSource = (w.circuit id).timerSource
  reading : w'.reading id = w.reading id
  size : w.circuits.size ≤ w'.circuits.size
  episode : w'.episode id = (w.episode id).course (w.circuit id).settings (w.reading id) marks
  journal : ∃ entries : List Entry, w'.journal = w.journal ++ entries.toArray ∧
    Journal.turnsOf id entries
      = (w.episode id).turns (w.circuit id).settings (w.reading id) marks

namespace Course

theorem trans {id : CircuitId} {w₁ w₂ w₃ : World γ} {marks marks' : List Mark}
    (h : Course id w₁ marks w₂) (h' : Course id w₂ marks' w₃) :
    Course id w₁ (marks ++ marks') w₃ where
  name := h'.name.trans h.name
  settings := h'.settings.trans h.settings
  timeSource := h'.timeSource.trans h.timeSource
  timerSource := h'.timerSource.trans h.timerSource
  reading := h'.reading.trans h.reading
  size := h.size.trans h'.size
  episode := by rw [Episode.course_append, ← h.episode, h'.episode, h.settings, h.reading]
  journal := by
    obtain ⟨entries, eq, turns⟩ := h.journal
    obtain ⟨entries', eq', turns'⟩ := h'.journal
    refine ⟨entries ++ entries', by simp [eq', eq], ?_⟩
    rw [Episode.turns_append, ← h.episode, ← h.settings, ← h.reading, ← turns', h.settings,
      h.reading, ← turns, Journal.turnsOf_append]

/-- A circuit that is as it was saw no mark, if the journal tells of none. -/
theorem of_circuit_eq {id : CircuitId} {w w' : World γ} (circuit : w'.circuit id = w.circuit id)
    (clock : w'.clock = w.clock) (elapsed : w'.elapsed = w.elapsed)
    (size : w.circuits.size ≤ w'.circuits.size)
    (journal : ∃ entries : List Entry, w'.journal = w.journal ++ entries.toArray ∧
      Journal.turnsOf id entries = []) : Course id w [] w' where
  name := by rw [circuit]
  settings := by rw [circuit]
  timeSource := by rw [circuit]
  timerSource := by rw [circuit]
  reading := by
    rw [World.reading, World.reading, circuit]
    cases (w.circuit id).timeSource with
    | shared => rw [timeAt, timeAt, clock]
    | own since => rw [timeAt, timeAt, elapsed]
  size := size
  episode := by rw [World.episode, World.episode, circuit]; rfl
  journal := journal

theorem of_aside {w w' : World γ} (h : w.Aside w') (id : CircuitId) : Course id w [] w' := by
  refine of_circuit_eq (h.circuit id) h.clock h.elapsed (by rw [h.circuits]) ?_
  obtain ⟨entries, aside, eq⟩ := h.journal
  exact ⟨entries, eq, List.filterMap_eq_nil_iff.mpr fun entry mem => aside entry mem id⟩

theorem refl (id : CircuitId) (w : World γ) : Course id w [] w := of_aside (.refl w) id

/-- The changes of state that were written to the journal are those among the marks. -/
theorem turnsOf_entriesSince {id : CircuitId} {w w' : World γ} {marks : List Mark}
    (h : Course id w marks w') : Journal.turnsOf id (w'.entriesSince w)
      = (w.episode id).turns (w.circuit id).settings (w.reading id) marks := by
  obtain ⟨entries, eq, turns⟩ := h.journal
  rw [entriesSince_eq eq, turns]

/-- Subscriptions are no mark. -/
theorem enrol (id : CircuitId) (w : World γ) (other : CircuitId) (roster : Roster ConsumerId) :
    Course id w [] (w.setCircuit other { w.circuit other with roster := roster }) := by
  have circuit : (w.setCircuit other { w.circuit other with roster := roster }).circuit id
      = { w.circuit id with roster := ((w.setCircuit other
          { w.circuit other with roster := roster }).circuit id).roster } := by
    by_cases same : other = id
    · subst same
      by_cases there : other < w.circuits.size
      · rw [circuit_setCircuit_self w _ there]
      · rw [setCircuit_of_size_le w _ (Nat.le_of_not_lt there)]
    · rw [circuit_setCircuit_of_ne w _ same]
  refine ⟨by rw [circuit], by rw [circuit], by rw [circuit], by rw [circuit], ?_,
    (size_setCircuit ..).ge, by rw [World.episode, circuit]; rfl, [], (Array.append_empty).symm, rfl⟩
  rw [World.reading, circuit]
  rfl

/-- The episode of a circuit was replaced, and the journal tells of what the mark turned. -/
theorem of_mark {id : CircuitId} {w w' : World γ} {m : Mark}
    (circuit : w'.circuit id = { w.circuit id with
      episode := (w.episode id).after (w.circuit id).settings (w.reading id) m })
    (clock : w'.clock = w.clock) (elapsed : w'.elapsed = w.elapsed)
    (size : w.circuits.size ≤ w'.circuits.size)
    (journal : ∃ entries : List Entry, w'.journal = w.journal ++ entries.toArray ∧
      Journal.turnsOf id entries = (m.turn? (w.episode id).state).toList) :
    Course id w [m] w' where
  name := by rw [circuit]
  settings := by rw [circuit]
  timeSource := by rw [circuit]
  timerSource := by rw [circuit]
  reading := by
    rw [World.reading, World.reading, circuit]
    cases (w.circuit id).timeSource with
    | shared => rw [timeAt, timeAt, clock]
    | own since => rw [timeAt, timeAt, elapsed]
  size := size
  episode := by rw [World.episode, circuit]; rfl
  journal := by
    obtain ⟨entries, eq, turns⟩ := journal
    exact ⟨entries, eq, by rw [turns, Episode.turns_cons, Episode.turns_nil, List.append_nil]⟩

end Course

namespace Goes

variable {id other : CircuitId} {w w' : World γ} {marks : List Mark}

/-- What happens beside the circuits adds no mark. -/
theorem then_aside {w₁ w₂ w₃ : World γ} (h : Goes id w₁ marks w₂) (h' : w₂.Aside w₃) :
    Goes id w₁ marks w₃ := by
  have both := h.trans (.aside h')
  rwa [List.append_nil] at both

theorem aside_then {w₁ w₂ w₃ : World γ} (h : w₁.Aside w₂) (h' : Goes id w₂ marks w₃) :
    Goes id w₁ marks w₃ := (Goes.aside h).trans h'

theorem reaches (h : Goes id w marks w') : Reaches w w' := by
  induction h with
  | aside h => exact h.reaches
  | mark w stays => exact (Move.mark w id _ stays).reaches
  | change w target wait manual => exact (Move.change w id target wait manual).reaches
  | reset w wait => exact (Move.reset w id wait).reaches
  | trans _ _ ih ih' => exact ih.trans ih'

/-- The circuit itself sees the mark of entering a state. -/
private theorem course_enter (w : World γ) (target : State) (wait : Duration) (manual : Bool)
    {record : LogRecord} (there : id < w.circuits.size)
    (turn : Entry.turn? id (.log id (w.circuit id).name record)
      = some ⟨⟨(w.episode id).state, target⟩, manual⟩) :
    Course id w [w.entering id target wait manual]
      ((w.enter id target wait manual).log id record) := by
  have self := circuit_enter_self w target wait manual there
  have clock := clock_enter w id target wait manual
  have elapsed := elapsed_enter w id target wait manual
  have size := size_enter w id target wait manual
  refine Course.of_mark self clock elapsed size.ge
    ⟨[.log id (w.circuit id).name record], ?_, ?_⟩
  · rw [log, write, self, journal_enter]
    rfl
  · rw [Journal.turnsOf, List.filterMap_cons, turn]
    rfl

/-- The circuit itself goes through the marks. -/
theorem course (h : Goes id w marks w') (there : id < w.circuits.size) : Course id w marks w' := by
  induction h with
  | aside h => exact .of_aside h id
  | @mark w m stays =>
    refine .of_mark (circuit_setEpisode_self w _ there) rfl rfl
      (by rw [setEpisode, size_setCircuit]) ⟨[], (Array.append_empty).symm, ?_⟩
    rw [Mark.turn?_of_stays stays]
    rfl
  | change w target wait manual =>
    exact course_enter w target wait manual there (by simp [Entry.turn?])
  | reset w wait => exact course_enter w .closed wait true there (by simp [Entry.turn?])
  | trans _ _ ih ih' =>
    have first := ih there
    exact first.trans (ih' (Nat.lt_of_lt_of_le there first.size))

/-- Another circuit is not touched by entering a state. -/
private theorem elsewhere_enter (w : World γ) (target : State) (wait : Duration) (manual : Bool)
    (record : LogRecord) (h : id ≠ other) :
    Course other w [] ((w.enter id target wait manual).log id record) := by
  have clock := clock_enter w id target wait manual
  have elapsed := elapsed_enter w id target wait manual
  have size := size_enter w id target wait manual
  refine .of_circuit_eq (circuit_enter_of_ne w target wait manual h) clock elapsed size.ge
    ⟨[.log id ((w.enter id target wait manual).circuit id).name record], ?_, ?_⟩
  · rw [log, write, journal_enter]
    rfl
  · have none : Entry.turn? other
        (.log id ((w.enter id target wait manual).circuit id).name record) = none := by
      cases record with
      | transition | reset => exact if_neg h
      | refused | exceeded | consumerAborted => rfl
    rw [Journal.turnsOf, List.filterMap_cons, none]
    rfl

/-- Another circuit sees none of it. -/
theorem elsewhere (h : Goes id w marks w') (ne : id ≠ other) : Course other w [] w' := by
  induction h with
  | aside h => exact .of_aside h other
  | @mark w m stays =>
    exact .of_circuit_eq (circuit_setEpisode_of_ne w _ ne) rfl rfl
      (by rw [setEpisode, size_setCircuit]) ⟨[], (Array.append_empty).symm, rfl⟩
  | change w target wait manual => exact elsewhere_enter w target wait manual _ ne
  | reset w wait => exact elsewhere_enter w .closed wait true _ ne
  | trans _ _ ih ih' => exact ih.trans ih'

theorem handles (h : Goes id w marks w') : w'.handles = w.handles := by
  induction h with
  | aside h => exact h.handles
  | mark => rfl
  | change w target wait manual => exact handles_enter w id target wait manual
  | reset w wait => exact handles_enter w id .closed wait true
  | trans _ _ ih ih' => exact ih'.trans ih

theorem clock (h : Goes id w marks w') : w'.clock = w.clock := by
  induction h with
  | aside h => exact h.clock
  | mark => rfl
  | change w target wait manual => exact clock_enter w id target wait manual
  | reset w wait => exact clock_enter w id .closed wait true
  | trans _ _ ih ih' => exact ih'.trans ih

theorem elapsed (h : Goes id w marks w') : w'.elapsed = w.elapsed := by
  induction h with
  | aside h => exact h.elapsed
  | mark => rfl
  | change w target wait manual => exact elapsed_enter w id target wait manual
  | reset w wait => exact elapsed_enter w id .closed wait true
  | trans _ _ ih ih' => exact ih'.trans ih

theorem size (h : Goes id w marks w') : w'.circuits.size = w.circuits.size := by
  induction h with
  | aside h => rw [h.circuits]
  | mark => exact size_setCircuit ..
  | change w target wait manual => exact size_enter w id target wait manual
  | reset w wait => exact size_enter w id .closed wait true
  | trans _ _ ih ih' => exact ih'.trans ih

/-- The settings of every circuit are as they were. -/
theorem settings (h : Goes id w marks w') (other : CircuitId) :
    (w'.circuit other).settings = (w.circuit other).settings := by
  by_cases same : id = other
  · subst same
    by_cases there : id < w.circuits.size
    · exact (h.course there).settings
    · have beyond := Nat.le_of_not_lt there
      rw [circuit_of_size_le w' (by rwa [h.size]), circuit_of_size_le w beyond]
  · exact (h.elsewhere same).settings

end Goes

end Breaker.World

import Breaker.Proofs.Episode.Told
import Breaker.Proofs.World.Undergoes

/-!
# Fresh — a state that was just entered

An episode is fresh if nothing was recorded in it and nobody was refused: its window is the empty window of
its state as of its entry, and its minimum the one of its state.  A breaker that is built is fresh, and so
is one that entered any state but the open one; a breaker that trips keeps what it tripped on.

`Undergoes.fresh` says this of everything that may be done with a circuit: if another episode is current
after it and is not open, it is fresh, even where the request that began it took its first permit.
-/

namespace Breaker

variable {γ : Type}

namespace Episode

/-- Nothing has happened in an episode but calls that were let through. -/
structure Fresh (s : Settings) (e : Episode) : Prop where
  minimum : e.minimum = minimumOf s e.state
  window : e.window = freshWindow s e.state e.enteredAt
  rejected : e.rejected = 0
  untold : e.hasTold = false

variable {s : Settings} {now : Nat} {e : Episode}

theorem Fresh.of_begin (number attempts now : Nat) {phase : Phase} (untold : phase ≠ .metricsOnly true) :
    Fresh s (begin s number attempts now phase) where
  minimum := rfl
  window := rfl
  rejected := rfl
  untold := by
    show hasTold (begin s number attempts now phase) = false
    cases phase with
    | metricsOnly reported =>
      cases reported with
      | false => rfl
      | true => exact absurd rfl untold
    | closed | opened | halfOpen | disabled | forcedOpen => rfl

/-- A state is entered fresh, unless the breaker trips. -/
theorem Fresh.of_entered (e : Episode) {target : State} {wait : Duration} {manual : Bool}
    (timer : Option Nat) (fresh : ¬(target = .opened ∧ manual = false)) :
    Fresh s (e.after s now (.entered target wait manual timer)) := by
  have begun : e.after s now (.entered target wait manual timer)
      = { begin s (e.number + 1) (attemptsOnEntry e.state e.attempts target manual) now
            (phaseOf s target now wait) with timer := timer } := by
    rw [after, next_of_fresh fresh]
  have state : (e.after s now (.entered target wait manual timer)).state = target := next_state ..
  refine ⟨?_, ?_, ?_, hasTold_entered ..⟩
  · rw [state, begun]
    show minimumOf s (phaseOf s target now wait).state = _
    rw [phaseOf_state]
  · rw [state, begun]
    show freshWindow s (phaseOf s target now wait).state now = freshWindow s target now
    rw [phaseOf_state]
  · rw [begun]
    rfl

/-- A call that is let through leaves an episode fresh. -/
theorem Fresh.granted (h : Fresh s e) : Fresh s (e.after s now .granted) := by
  have keeps : Keeps s e (e.after s now .granted) := keeps_after rfl e
  refine ⟨?_, ?_, ?_, ?_⟩
  · rw [keeps.minimum, keeps.state, h.minimum]
  · rw [window_after rfl, keeps.state, keeps.enteredAt]
    exact h.window
  · rw [after]
    split
    case h_1 taken granted =>
      obtain rfl | ⟨permits, left, deadline, -, -, rfl⟩ := request_granted granted
      · exact h.rejected
      · exact h.rejected
    case h_2 => exact h.rejected
  · rw [hasTold_after rfl Mark.noConfusion]
    exact h.untold

/-- A trial that has just begun denies nobody. -/
theorem request_entered_ne_denied (sized : s.Sized) (e : Episode) (wait : Duration) (manual : Bool)
    (timer : Option Nat) :
    (e.after s now (.entered .halfOpen wait manual timer)).request now ≠ .denied := by
  obtain ⟨deadline, phase⟩ : ∃ deadline, (e.after s now (.entered .halfOpen wait manual timer)).phase
      = .halfOpen (Permits.full s.trialCalls) deadline := ⟨_, next_phase ..⟩
  have some : (Permits.full s.trialCalls).take? ≠ none := by
    rw [Ne, Permits.take?_eq_none_iff]
    exact Nat.ne_of_gt sized.2
  rw [request, phase]
  dsimp only
  split
  · exact Reply.noConfusion
  · split
    case h_1 => exact Reply.noConfusion
    case h_2 none => exact absurd none some

/-- If the time of some episodes was over, the last that was entered is an open breaker or a trial. -/
theorem Lapses.entered_trial {e' : Episode} {marks : List Mark} (h : Lapses s now e marks e') :
    marks = [] ∨ ∃ (before : Episode) (target : State) (wait : Duration) (timer : Option Nat),
      e' = before.after s now (.entered target wait false timer) ∧
        (target = .halfOpen ∨ target = .opened) := by
  induction h with
  | refl => exact .inl rfl
  | @more e _ target wait timer marks expired t ih =>
    cases t with
    | refl =>
      obtain ⟨-, trial⟩ | ⟨-, opens⟩ := request_eq_expired_iff.mp expired
      · exact .inr ⟨e, target, wait, timer, rfl, .inl trial⟩
      · exact .inr ⟨e, target, wait, timer, rfl, .inr opens⟩
    | more => exact .inr (ih.resolve_left (List.cons_ne_nil _ _))

end Episode

namespace World

variable {w : World γ} {id : CircuitId}

/-- A request that leads to another episode, and not to an open breaker, leads to a fresh trial. -/
theorem Asks.fresh {answer : Bool} {marks : List Mark} (h : w.Asks id answer marks)
    (sized : (w.circuit id).settings.Sized)
    (another : ((w.episode id).course (w.circuit id).settings (w.reading id) marks).number
      ≠ (w.episode id).number)
    (running : ((w.episode id).course (w.circuit id).settings (w.reading id) marks).state ≠ .opened) :
    ((w.episode id).course (w.circuit id).settings (w.reading id) marks).Fresh
      (w.circuit id).settings := by
  obtain ⟨lapses, e, lapse, -, answered⟩ := h
  obtain ⟨last, rfl, stays⟩ : ∃ last : Mark, marks = lapses ++ [last] ∧ last.stays = true := by
    obtain ⟨-, -, rfl⟩ | ⟨-, -, rfl⟩ := answered
    · exact ⟨.granted, rfl, rfl⟩
    · exact ⟨.refused, rfl, rfl⟩
  have keeps : Episode.Keeps (w.circuit id).settings e
      (e.after (w.circuit id).settings (w.reading id) last) := Episode.keeps_after stays e
  rw [Episode.course_append, lapse.course_eq] at another running ⊢
  rw [show e.course (w.circuit id).settings (w.reading id) [last]
    = e.after (w.circuit id).settings (w.reading id) last from rfl] at another running ⊢
  obtain rfl | ⟨before, target, wait, timer, rfl, trial | opens⟩ := lapse.entered_trial
  · obtain rfl := lapse.course_eq
    exact absurd keeps.number another
  · subst trial
    obtain ⟨-, -, eq⟩ | ⟨-, denied, -⟩ := answered
    · obtain rfl : last = .granted := by simpa using eq
      exact (Episode.Fresh.of_entered before timer fun trip => by cases trip.1).granted
    · exact absurd denied (Episode.request_entered_ne_denied sized before wait false timer)
  · rw [keeps.state, opens] at running
    exact absurd (Episode.next_state ..) running

/-- **What an operation leads to** at a circuit, if another episode is current then that is not open, is
fresh. -/
theorem Undergoes.fresh {op : Operation} {answer : Answer} {marks : List Mark}
    (h : w.Undergoes id op answer marks) (sized : (w.circuit id).settings.Sized)
    (another : ((w.episode id).course (w.circuit id).settings (w.reading id) marks).number
      ≠ (w.episode id).number)
    (running : ((w.episode id).course (w.circuit id).settings (w.reading id) marks).state ≠ .opened) :
    ((w.episode id).course (w.circuit id).settings (w.reading id) marks).Fresh
      (w.circuit id).settings := by
  have entered (before : Episode) {target : State} (wait : Duration) (manual : Bool)
      (timer : Option Nat) (running : target ≠ .opened) :
      (before.after (w.circuit id).settings (w.reading id)
        (.entered target wait manual timer)).Fresh (w.circuit id).settings :=
    .of_entered before timer fun trip => running trip.1
  have stayed {marks : List Mark} (stay : ∀ m ∈ marks, m.stays = true) :
      ((w.episode id).course (w.circuit id).settings (w.reading id) marks).number
        = (w.episode id).number := (Episode.keeps_course (s := (w.circuit id).settings) stay _).number
  cases h with
  | does does =>
    cases does with
    | request asks | acquired asks | refused asks => exact asks.fresh sized another running
    | @report d r marks told =>
      unfold Told at told
      split at told
      case h_1 o _ =>
        cases told with
        | alone | told => exact absurd (stayed (by simp [Mark.stays])) another
        | tripped => exact absurd (Episode.next_state ..) running
        | passed _ wait timer => exact entered _ wait false timer (by decide)
      case h_2 =>
        subst told
        exact absurd (stayed (by simp [Mark.stays])) another
    | release | metrics => exact absurd (stayed (by simp [Mark.stays])) another
    | force target wait =>
      exact .of_entered _ _ fun trip => by cases trip.2
    | reset => exact entered _ .zero true _ (by decide)
  | @moved _ _ target _ wait timer =>
    refine entered _ wait false timer fun opens => running ?_
    rw [← opens]
    exact Episode.next_state ..
  | spared | muffled => exact absurd rfl another

/-- A circuit that was just built is fresh. -/
theorem fresh_built {b : Blueprint} {c : Circuit} (built : b.build w = .ok c) :
    c.episode.Fresh c.settings := by
  rw [(Blueprint.build_ok built).2]
  exact .of_begin 0 0 _ Phase.noConfusion

end World

end Breaker

import Mathlib.Data.List.DropRight
import Breaker.Proofs.Episode.Evolves

/-!
# Attempts — the backoff of a circuit, by its history

The attempt of an open or half-open breaker is read off the changes of state that led there
(`Turn.attempts`).  It is one at an anchor, which is a trip or a change by hand into one of the two
states, and one more for each relapse since, up to the largest attempt.  So nothing before the last
anchor matters to it.  In all other states the attempt is zero.

`Episode.Counts` says so of an episode, and that it stays open for a wait which the settings gave for
its attempt.  Whatever becomes of the episode, it goes on to hold (`Counts.evolves`).
-/

namespace Breaker

namespace Turn

/-- Whether attempts are counted anew from a change of state on. -/
def isAnchor (t : Turn) : Bool :=
  if t.manual then t.change.target = .opened || t.change.target = .halfOpen
  else t.change = ⟨.closed, .opened⟩

/-- Whether a trial failed by a change of state. -/
def isRelapse (t : Turn) : Bool := !t.manual && t.change = ⟨.halfOpen, .opened⟩

/-- The attempt that some changes of state lead to: one, and one for each relapse since the last
anchor. -/
def attempts (turns : List Turn) : Nat :=
  min (1 + (turns.rtakeWhile fun t => !t.isAnchor).countP (·.isRelapse)) Episode.attemptsMax

variable {t : Turn} {turns : List Turn}

theorem attempts_of_anchor (anchor : t.isAnchor = true) : attempts (turns ++ [t]) = 1 := by
  rw [attempts, List.rtakeWhile_concat_neg _ _ _ (by simp [anchor])]
  rfl

theorem attempts_of_relapse (other : t.isAnchor = false) (relapse : t.isRelapse = true) :
    attempts (turns ++ [t]) = min (attempts turns + 1) Episode.attemptsMax := by
  rw [attempts, attempts, List.rtakeWhile_concat_pos _ _ _ (by simp [other]), List.countP_append,
    List.countP_singleton, if_pos relapse]
  omega

theorem attempts_of_neither (other : t.isAnchor = false) (kept : t.isRelapse = false) :
    attempts (turns ++ [t]) = attempts turns := by
  rw [attempts, attempts, List.rtakeWhile_concat_pos _ _ _ (by simp [other]), List.countP_append,
    List.countP_singleton, kept]
  rfl

theorem attempts_pos (turns : List Turn) : 0 < attempts turns := by
  rw [attempts, Episode.attemptsMax]
  omega

end Turn

namespace Episode

variable {s : Settings} {now : Nat} {e : Episode}

/-- Every wait is drawn at an attempt above zero. -/
theorem attemptsOnEntry_opened_pos (source : State) (attempts : Nat) (manual : Bool) :
    0 < attemptsOnEntry source attempts .opened manual := by
  rw [attemptsOnEntry, attemptsMax]
  split_ifs
  · exact Nat.one_pos
  · omega
  · omega

theorem phase_of_opened (h : e.state = .opened) : ∃ retryAt, e.phase = .opened retryAt := by
  rw [state] at h
  cases phase : e.phase with
  | opened retryAt => exact ⟨retryAt, rfl⟩
  | closed | halfOpen | disabled | forcedOpen | metricsOnly =>
    rw [phase] at h
    cases h

/-- A mark that stays leaves an open episode open until the same reading. -/
theorem phase_after_of_opened {retryAt : Nat} (phase : e.phase = .opened retryAt) {m : Mark}
    (stays : m.stays = true) : (e.after s now m).phase = .opened retryAt := by
  cases m with
  | granted =>
    rw [after]
    split
    case h_1 taken granted =>
      obtain rfl | ⟨permits, left, deadline, trial, -, -⟩ := request_granted granted
      · exact phase
      · rw [phase] at trial
        cases trial
    case h_2 => exact phase
  | released => rw [after, release, phase]; exact phase
  | told => rw [after, noteTold, phase]; exact phase
  | refused | recorded | settled => exact phase
  | entered => cases stays

/-- **The case table of attempts** agrees with the history: a change of state out of an episode whose
attempt is counted leads to one whose attempt is counted. -/
theorem attemptsOnEntry_eq_attempts {source target : State} {attempts : Nat} {manual : Bool}
    {turns : List Turn} (proper : Turn.IsProper ⟨⟨source, target⟩, manual⟩)
    (idle : source = .closed → attempts = 0)
    (counted : source = .opened ∨ source = .halfOpen →
      (∃ t ∈ turns, t.isAnchor = true) ∧ attempts = Turn.attempts turns)
    (probing : target = .opened ∨ target = .halfOpen) :
    (∃ t ∈ turns ++ [⟨⟨source, target⟩, manual⟩], t.isAnchor = true) ∧
      attemptsOnEntry source attempts target manual
        = Turn.attempts (turns ++ [⟨⟨source, target⟩, manual⟩]) := by
  -- an anchor is a first one, and any other change of state follows one
  have anchored (anchor : Turn.isAnchor ⟨⟨source, target⟩, manual⟩ = true)
      (first : attemptsOnEntry source attempts target manual = 1) :
      (∃ t ∈ turns ++ [⟨⟨source, target⟩, manual⟩], t.isAnchor = true) ∧
        attemptsOnEntry source attempts target manual
          = Turn.attempts (turns ++ [⟨⟨source, target⟩, manual⟩]) := by
    rw [first, Turn.attempts_of_anchor anchor]
    exact ⟨⟨_, List.mem_append_right _ (List.mem_singleton_self _), anchor⟩, rfl⟩
  have follows (anchor : ∃ t ∈ turns, t.isAnchor = true) (t : Turn) :
      ∃ t' ∈ turns ++ [t], t'.isAnchor = true := by
    obtain ⟨t', mem, anchor⟩ := anchor
    exact ⟨t', List.mem_append_left _ mem, anchor⟩
  cases manual with
  | true =>
    obtain rfl | rfl := probing
    · exact anchored rfl rfl
    · exact anchored rfl rfl
  | false =>
    have edge : Transition.IsEdge ⟨source, target⟩ := proper.resolve_left Bool.false_ne_true
    cases edge with
    | trip =>
      obtain rfl := idle rfl
      exact anchored rfl rfl
    | probe =>
      obtain ⟨anchor, rfl⟩ := counted (.inl rfl)
      rw [Turn.attempts_of_neither rfl rfl]
      exact ⟨follows anchor _, Nat.max_eq_left (Turn.attempts_pos turns)⟩
    | relapse =>
      obtain ⟨anchor, rfl⟩ := counted (.inr rfl)
      rw [Turn.attempts_of_relapse rfl rfl]
      exact ⟨follows anchor _, rfl⟩
    | recover => obtain probing | probing := probing <;> cases probing

/-- The attempt and the wait of an episode after some changes of state. -/
structure Counts (s : Settings) (turns : List Turn) (e : Episode) : Prop where
  path : Turn.Path .closed turns e.state
  idle : e.state ≠ .opened → e.state ≠ .halfOpen → e.attempts = 0
  counted : e.state = .opened ∨ e.state = .halfOpen →
    (∃ t ∈ turns, t.isAnchor = true) ∧ e.attempts = Turn.attempts turns
  waits : ∀ retryAt, e.phase = .opened retryAt →
    ∃ wait, s.Draws e.attempts wait ∧ retryAt = min (e.enteredAt + wait.nanos) wordMax

namespace Counts

variable {turns : List Turn}

/-- A circuit is built closed, and has no attempts. -/
theorem of_begin (number now : Nat) : Counts s [] (begin s number 0 now .closed) where
  path := .nil _
  idle := fun _ _ => rfl
  counted := by rintro (state | state) <;> cases state
  waits := nofun

/-- Marks that stay change neither. -/
theorem after (h : Counts s turns e) {m : Mark} (stays : m.stays = true) :
    Counts s turns (e.after s now m) := by
  have keeps : Keeps s e (e.after s now m) := keeps_after stays e
  refine ⟨keeps.state ▸ h.path, ?_, ?_, fun retryAt phase => ?_⟩
  · rw [keeps.state, keeps.attempts]
    exact h.idle
  · rw [keeps.state, keeps.attempts]
    exact h.counted
  · obtain ⟨retryAt', before⟩ := phase_of_opened (e := e) (by rw [← keeps.state, state, phase]; rfl)
    rw [phase_after_of_opened before stays] at phase
    cases phase
    rw [keeps.attempts, keeps.enteredAt]
    exact h.waits _ before

/-- **A change of state** is counted, if it is made by hand or along an edge. -/
theorem entered (h : Counts s turns e) {target : State} {wait : Duration} {manual : Bool}
    (timer : Option Nat) (proper : Turn.IsProper ⟨⟨e.state, target⟩, manual⟩)
    (drawn : target = .opened → s.Draws (attemptsOnEntry e.state e.attempts target manual) wait) :
    Counts s (turns ++ [⟨⟨e.state, target⟩, manual⟩])
      (e.after s now (.entered target wait manual timer)) := by
  have state : (e.after s now (.entered target wait manual timer)).state = target := next_state ..
  have attempts : (e.after s now (.entered target wait manual timer)).attempts
      = attemptsOnEntry e.state e.attempts target manual := next_attempts ..
  refine ⟨?_, ?_, ?_, fun retryAt phase => ?_⟩
  · rw [state]
    exact h.path.append (.single ⟨⟨e.state, target⟩, manual⟩)
  · rw [state, attempts]
    intro opened trial
    cases target with
    | closed | disabled | forcedOpen | metricsOnly => rfl
    | opened => exact absurd rfl opened
    | halfOpen => exact absurd rfl trial
  · rw [state, attempts]
    refine attemptsOnEntry_eq_attempts proper (fun closed => ?_) h.counted
    exact h.idle (by rw [closed]; decide) (by rw [closed]; decide)
  · have entered : (e.after s now (.entered target wait manual timer)).phase
        = phaseOf s target now wait := next_phase ..
    have enteredAt : (e.after s now (.entered target wait manual timer)).enteredAt = now :=
      next_enteredAt ..
    rw [entered] at phase
    obtain rfl : target = .opened := by
      rw [← phaseOf_state s now target wait, phase]
      rfl
    refine ⟨wait, by rw [attempts]; exact drawn rfl, ?_⟩
    cases phase
    rw [enteredAt, later, Duration.word]
    omega

/-- **Whatever becomes of an episode**, its attempt and its wait go on to be those of its history. -/
theorem evolves (h : Counts s turns e) {whole : Prop} {turns' : List Turn} {e' : Episode}
    (evolves : Evolves s whole e turns' e') : Counts s (turns ++ turns') e' := by
  induction evolves generalizing turns with
  | refl =>
    rw [List.append_nil]
    exact h
  | trans _ _ ih ih' =>
    rw [← List.append_assoc]
    exact ih' (ih h)
  | mark e now stays =>
    rw [List.append_nil]
    exact h.after stays
  | entered e now timer proper drawn => exact h.entered timer proper drawn
  | recorded e now o _ _ ih => exact ih (h.after (m := .recorded o) rfl)

end Counts

end Episode

end Breaker

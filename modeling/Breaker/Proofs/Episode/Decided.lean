import Breaker.Proofs.Episode.Evolves

/-!
# Decided — no breach and no complete trial is left alone

An episode is `Episode.Decided` if nothing in its window calls for a change of state: a closed breaker
that counts calls holds no rate at its threshold, and a trial holds fewer outcomes than it admits.
Every episode begins so (`decided_entered`).

Only an outcome can bring about more, and then it asks for a change.  A consumer that is told of the
outcome may do anything before that change is made, also report further outcomes, or end the episode.
Either the change is made in the end, or a later episode is current by then, and later episodes are
decided when their own reports return.  So whatever becomes of a decided episode, it comes to a decided
one if it is carried out as a whole (`Evolves.decided`).
-/

namespace Breaker

namespace Episode

variable {s : Settings} {now : Nat} {e e' : Episode}

/-- Nothing in the window of an episode calls for a change of state. -/
structure Decided (s : Settings) (e : Episode) : Prop where
  closed : e.state = .closed → s.windowKind = .count →
    (∃ r, e.window = .calls r) ∧ breached s e.rates = false
  trial : e.state = .halfOpen →
    (∃ r, e.window = .calls r) ∧ e.minimum = s.trialCalls ∧ e.window.totals.total < s.trialCalls

/-- Of no calls no rate is measured. -/
theorem breached_of_total_eq_zero (none : e.window.totals.total = 0) :
    breached s e.rates = false := by
  simp [breached, rates, Rates.of, Rate.of, none, Rate.not_reaches_unmeasured]

/-- A trial with enough outcomes asks to be ended. -/
theorem followUp_of_enough (s : Settings) (now : Nat) (trial : e.state = .halfOpen)
    (complete : e.minimum ≤ e.window.totals.total) :
    ∃ d, e.followUp s now = some d ∧ d.isTold = false := by
  rw [followUp_of_halfOpen trial, if_neg (Nat.not_lt.mpr complete)]
  split_ifs with overdue breach
  · exact ⟨_, rfl, rfl⟩
  · exact ⟨_, rfl, rfl⟩
  · exact ⟨_, rfl, rfl⟩

/-- An episode that has begun is decided. -/
theorem decided_begin (now : Nat) (sized : s.Sized) (number attempts : Nat) (phase : Phase) :
    Decided s (begin s number attempts now phase) where
  closed := by
    intro state count
    have window : (begin s number attempts now phase).window = .calls (Ring.empty s.windowSize) := by
      show freshWindow s phase.state now = _
      rw [show phase.state = .closed from state]
      show s.freshWindow now = _
      rw [Settings.freshWindow, count]
      rfl
    exact ⟨⟨_, window⟩, breached_of_total_eq_zero (by rw [window]; rfl)⟩
  trial := by
    intro state
    have trial : phase.state = .halfOpen := state
    have window : (begin s number attempts now phase).window = .calls (Ring.empty s.trialCalls) := by
      show freshWindow s phase.state now = _
      rw [trial]
      rfl
    refine ⟨⟨_, window⟩, ?_, ?_⟩
    · show minimumOf s phase.state = _
      rw [trial]
      rfl
    · rw [window]
      exact sized.2

theorem decided_entered (sized : s.Sized) (e : Episode) (target : State) (wait : Duration)
    (manual : Bool) (timer : Option Nat) :
    Decided s (e.after s now (.entered target wait manual timer)) := by
  have state : (e.after s now (.entered target wait manual timer)).state = target := next_state ..
  by_cases trip : target = .opened ∧ manual = false
  · obtain ⟨rfl, -⟩ := trip
    refine ⟨fun closed => ?_, fun trial => ?_⟩
    · rw [state] at closed
      cases closed
    · rw [state] at trial
      cases trial
  · have fresh := decided_begin now sized (e.number + 1)
      (attemptsOnEntry e.state e.attempts target manual) (phaseOf s target now wait)
    rw [after, next_of_fresh trip]
    exact ⟨fresh.closed, fresh.trial⟩

namespace Decided

/-- Marks that stay and record nothing bring about nothing. -/
theorem after (h : Decided s e) {m : Mark} (stays : m.stays = true) (unrecorded : m.outcome? = none) :
    Decided s (e.after s now m) := by
  have keeps : Keeps s e (e.after s now m) := keeps_after stays e
  -- a window that counts calls does not change as time passes
  have same (counts : ∃ r, e.window = .calls r) : (e.after s now m).window = e.window := by
    obtain ⟨r, window⟩ := counts
    rw [window_after stays]
    cases m with
    | recorded o => cases unrecorded
    | settled => rw [window]; rfl
    | granted | refused | released | told => rfl
    | entered => cases stays
  refine ⟨fun state count => ?_, fun state => ?_⟩
  · obtain ⟨counts, unbreached⟩ := h.closed (keeps.state.symm.trans state) count
    rw [rates, same counts, keeps.minimum]
    exact ⟨counts, unbreached⟩
  · obtain ⟨counts, minimum, few⟩ := h.trial (keeps.state.symm.trans state)
    rw [same counts, keeps.minimum]
    exact ⟨counts, minimum, few⟩

/-- An outcome that asks for no change of state brings about nothing. -/
theorem observe (h : Decided s e) {o : Outcome}
    (asks : ∀ d, (e.observe now o).followUp s now = some d → d.isTold = true) :
    Decided s (e.observe now o) := by
  have counts {r : Ring} (window : e.window = .calls r) :
      (e.observe now o).window = .calls (r.record o) := by
    rw [Episode.observe, window]
    rfl
  refine ⟨fun state count => ?_, fun state => ?_⟩
  · obtain ⟨⟨r, window⟩, -⟩ := h.closed state count
    refine ⟨⟨_, counts window⟩, ?_⟩
    by_contra breach
    rw [Bool.not_eq_false] at breach
    obtain ⟨rates, trip⟩ : ∃ rates, (e.observe now o).followUp s now = some (.trip rates) :=
      followUp_eq_trip_iff.mpr (.inl ⟨state, breach⟩)
    cases asks _ trip
  · obtain ⟨⟨r, window⟩, minimum, -⟩ := h.trial state
    have minimum : (e.observe now o).minimum = s.trialCalls := minimum
    refine ⟨⟨_, counts window⟩, minimum, ?_⟩
    by_contra many
    rw [Nat.not_lt, ← minimum] at many
    obtain ⟨d, decision, untold⟩ := followUp_of_enough s now state many
    rw [asks d decision] at untold
    cases untold

end Decided

/-- **Whatever becomes of a decided episode** is decided again, and so is an episode that was entered
on the way. -/
theorem Evolves.decided {turns : List Turn} (evolves : Evolves s True e turns e')
    (sized : s.Sized) (start : Decided s e ∨ e.number < e'.number) : Decided s e' := by
  induction evolves with
  | refl => exact start.resolve_right (Nat.lt_irrefl _)
  | @trans e₁ e₂ e₃ _ _ first _ ih ih' =>
    refine ih' ?_
    obtain decided | newer := start
    · exact .inl (ih (.inl decided))
    · obtain began | same := first.number_le.lt_or_eq
      · exact .inl (ih (.inr began))
      · exact .inr (by rwa [← same])
  | mark e now stays unrecorded =>
    refine (start.resolve_right ?_).after stays unrecorded
    rw [(keeps_after (s := s) stays e).number]
    exact Nat.lt_irrefl _
  | entered e now timer => exact decided_entered sized e _ _ _ timer
  | recorded e now o rest settled ih =>
    refine ih ?_
    obtain newer | decided := start.symm
    · exact .inr newer
    · obtain asks | ended := settled trivial
      · exact .inl (decided.observe asks)
      · exact .inr ended

end Episode

end Breaker

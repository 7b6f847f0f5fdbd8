import Breaker.Proofs.Episode.Gate
import Breaker.Proofs.World.Fresh
import Breaker.Proofs.World.Unattended

/-!
# Gate — a breaker opens on failures, and on failures only

What every mark preserves, and holds of a breaker that is built, holds of every circuit of a reachable world
(`Reachable.holds`).  So its settings are valid, and while it is closed and counts calls its window is a ring
of the size that is configured (`Reachable.gated`).

`World.gate_opens_and_spares` puts this together with what windows show of failures in a row and of clean
calls, along a stretch in which the circuit is left unattended.
-/

namespace Breaker

variable {γ : Type}

namespace Episode

/-- What a closed episode that counts calls goes by: valid settings, and a ring of the configured size. -/
structure Gated (s : Settings) (e : Episode) : Prop where
  valid : s.check? = none
  streak : e.state = .closed → s.windowKind = .count → Streak s e []

variable {s : Settings} {now : Nat} {e : Episode}

/-- The time of a closed episode is never over. -/
theorem request_ne_expired_of_closed (closed : e.state = .closed) {target : State} :
    e.request now ≠ .expired target := by
  intro expired
  obtain ⟨ended, -⟩ | ⟨overdue, -⟩ := request_eq_expired_iff.mp expired
  · have opened := state_of_isWaitOver ended
    rw [closed] at opened
    cases opened
  · have trial := state_of_isOverdue overdue
    rw [closed] at trial
    cases trial

/-- A trial whose time is over gives way to the open state. -/
theorem target_of_trial (trial : e.state = .halfOpen) {target : State}
    (expired : e.request now = .expired target) : target = .opened := by
  obtain ⟨ended, -⟩ | ⟨-, opens⟩ := request_eq_expired_iff.mp expired
  · have opened := state_of_isWaitOver ended
    rw [trial] at opened
    cases opened
  · exact opens

/-- A fresh closed episode that counts calls has an empty ring. -/
theorem Fresh.streak (h : Fresh s e) (closed : e.state = .closed) (count : s.windowKind = .count) :
    Streak s e [] := by
  have minimum := h.minimum
  have window := h.window
  rw [closed] at minimum window
  refine ⟨closed, minimum, Ring.empty s.windowSize, [], ?_, Ring.took_empty _⟩
  rw [window]
  show s.freshWindow e.enteredAt = _
  rw [Settings.freshWindow, count]
  rfl

/-- A fresh trial has taken nothing. -/
theorem Fresh.tries (h : Fresh s e) (trial : e.state = .halfOpen) : Tries s e [] := by
  have minimum := h.minimum
  have window := h.window
  rw [trial] at minimum window
  exact ⟨trial, minimum, Ring.empty s.trialCalls, window, Ring.took_empty _⟩

/-- A fresh closed episode has no failures. -/
theorem Fresh.spotless (h : Fresh s e) (sized : s.Sized) (closed : e.state = .closed) :
    Spotless e := by
  have window := h.window
  rw [closed] at window
  refine ⟨closed, ?_⟩
  rw [window]
  exact .ofKind s.windowKind sized.1 e.enteredAt

theorem Gated.begun (now : Nat) (valid : s.check? = none) :
    Gated s (begin s 0 0 now .closed) where
  valid := valid
  streak := (Fresh.of_begin 0 0 now Phase.noConfusion).streak

theorem Gated.after (h : Gated s e) (m : Mark) : Gated s (e.after s now m) := by
  refine ⟨h.valid, fun closed count => ?_⟩
  cases stays : m.stays with
  | true =>
    have keeps : Keeps s e (e.after s now m) := keeps_after stays e
    have streak := h.streak (keeps.state.symm.trans closed) count
    exact (streak.after (Settings.sized_of_check h.valid) stays).forget
  | false =>
    cases m with
    | entered target wait manual timer =>
      have state : (e.after s now (.entered target wait manual timer)).state = target :=
        next_state ..
      refine (Fresh.of_entered e timer fun trip => ?_).streak closed count
      rw [state, trip.1] at closed
      cases closed
    | granted | refused | released | recorded | told | settled => cases stays

end Episode

namespace World

variable {w w' : World γ} {id : CircuitId}

/-- A clock reads words. -/
theorem timeAt_le (w : World γ) (source : TimeSource) : w.timeAt source ≤ wordMax := by
  cases source with
  | shared => exact w.clock.now_le_wordMax
  | own => exact Nat.min_le_right _ _

/-- What every mark preserves, and holds of a breaker that is built, is preserved by every move. -/
theorem Move.holds {P : Settings → Episode → Prop}
    (mark : ∀ (s : Settings) (now : Nat) (e : Episode) (m : Mark), now ≤ wordMax → P s e →
      P s (e.after s now m))
    (begun : ∀ (s : Settings) (now : Nat), now ≤ wordMax → s.check? = none →
      P s (Episode.begin s 0 0 now .closed))
    (h : Move w w') (holds : ∀ id, P (w.circuit id).settings (w.episode id)) (id : CircuitId) :
    P (w'.circuit id).settings (w'.episode id) := by
  have entered (other : CircuitId) (target : State) (wait : Duration) (manual : Bool) :
      P ((w.enter other target wait manual).circuit id).settings
        ((w.enter other target wait manual).episode id) := by
    by_cases there : other < w.circuits.size
    · by_cases same : other = id
      · subst same
        rw [episode_enter_self there, circuit_enter_self w _ _ _ there]
        exact mark _ _ _ (w.entering other target wait manual) (timeAt_le _ _) (holds other)
      · rw [episode_enter_of_ne same, circuit_enter_of_ne w _ _ _ same]
        exact holds id
    · rw [enter_of_size_le w _ _ _ (Nat.le_of_not_lt there)]
      exact holds id
  cases h with
  | aside aside =>
    rw [aside.circuit, aside.episode]
    exact holds id
  | time | hold | drain | thin => exact holds id
  | enrol other roster =>
    rw [episode_enrol, (Course.enrol id w other roster).settings]
    exact holds id
  | @build b c built =>
    by_cases new : id = w.circuits.size
    · obtain ⟨valid, episode⟩ := Blueprint.build_ok built
      subst new
      rw [World.episode, circuit_addCircuit_self, episode]
      exact begun _ _ (timeAt_le _ _) valid
    · rw [World.episode, circuit_addCircuit_of_ne w c new]
      exact holds id
  | mark other m stays =>
    show P ((w.setEpisode other _).circuit id).settings ((w.setEpisode other _).circuit id).episode
    rw [circuit_setEpisode]
    split
    case isTrue both =>
      obtain ⟨rfl, -⟩ := both
      exact mark _ _ _ m (timeAt_le _ _) (holds other)
    case isFalse => exact holds id
  | change other target wait manual => exact entered other target wait manual
  | reset other wait => exact entered other .closed wait true

/-- **What every mark preserves** holds in every reachable world. -/
theorem Reachable.holds {P : Settings → Episode → Prop}
    (mark : ∀ (s : Settings) (now : Nat) (e : Episode) (m : Mark), now ≤ wordMax → P s e →
      P s (e.after s now m))
    (begun : ∀ (s : Settings) (now : Nat), now ≤ wordMax → s.check? = none →
      P s (Episode.begin s 0 0 now .closed))
    (h : Reachable w) (id : CircuitId) : P (w.circuit id).settings (w.episode id) := by
  obtain ⟨start, dice, guest, reaches⟩ := h
  refine reaches.preserves (P := fun w => ∀ id, P (w.circuit id).settings (w.episode id))
    (fun _ _ move => move.holds mark begun) (fun id => ?_) id
  rw [World.episode, circuit_of_size_le _ (Nat.zero_le id)]
  exact begun _ 0 (Nat.zero_le _) (by decide +kernel)

theorem Reachable.gated (h : Reachable w) (id : CircuitId) :
    (w.episode id).Gated (w.circuit id).settings :=
  h.holds (fun _ _ _ m _ gated => gated.after m) (fun _ now _ => .begun now) id

end World

namespace Unattended

variable {react : CircuitId → React γ} {id : CircuitId} {moment : Nat → Episode → Prop}
  {w₀ w : World γ} {os : List Outcome} {turns : List Turn}

/-- Along such a stretch the circuit stays there, with its settings. -/
theorem stands (quiet : ∀ id, Quiet (react id)) (sound : w₀.Sound) (there : id < w₀.circuits.size)
    (run : Unattended react id moment w₀ w os turns) :
    id < w.circuits.size ∧ (w.circuit id).settings = (w₀.circuit id).settings := by
  obtain ⟨-, there, settings, -⟩ := run.first quiet sound there (P := fun _ _ => True)
    (T := fun _ => True) (fun _ _ _ _ _ _ _ => trivial)
    (fun now e os o marks _ _ reports _ => by
      cases reports with
      | alone | told => exact .inl ⟨rfl, trivial⟩
      | tripped | passed => exact .inr ⟨_, rfl, trivial⟩)
    (fun _ _ _ _ _ _ _ => trivial) trivial (fun _ _ => trivial : ∀ o ∈ os, True)
  exact ⟨there, settings⟩

/-- **Failures in a row** open a closed breaker that counts calls, whatever its window held. -/
theorem opens_of_failures (quiet : ∀ id, Quiet (react id)) (sound : w₀.Sound)
    (there : id < w₀.circuits.size) (valid : (w₀.circuit id).settings.check? = none)
    (count : (w₀.circuit id).settings.windowKind = .count)
    (fits : (w₀.circuit id).settings.windowSize < 2 ^ 32)
    (start : (w₀.episode id).Streak (w₀.circuit id).settings [])
    (run : Unattended react id moment w₀ w os turns) (failures : ∀ o ∈ os, o.failed = true)
    (many : (w₀.circuit id).settings.windowSize ≤ os.length) :
    turns.head? = some ⟨⟨.closed, .opened⟩, false⟩ := by
  have sized := Settings.sized_of_check valid
  obtain ⟨-, -, -, ⟨-, -, few⟩ | ⟨t, rest, rfl, kind⟩⟩ := run.first quiet sound there
    (P := fun e os => e.Streak (w₀.circuit id).settings os ∧
      os.length < (w₀.circuit id).settings.windowSize)
    (T := fun t => t = ⟨⟨.closed, .opened⟩, false⟩)
    (fun now e os m stays unrecorded holds => by
      have after : Episode.Streak _ (e.after _ now m) _ := holds.1.after sized stays
      rw [unrecorded, Option.toList_none, List.append_nil] at after
      exact ⟨after, holds.2⟩)
    (fun now e os o marks _ failures reports holds => by
      obtain same | opens := holds.1.reports valid count fits failures reports
      · exact .inl same
      · exact .inr ⟨_, opens, rfl⟩)
    (fun now e os target _ expired holds =>
      absurd expired (Episode.request_ne_expired_of_closed holds.1.state))
    ⟨start, sized.1⟩ failures
  · omega
  · rw [kind]
    rfl

/-- **Failures in a row** open a breaker that is on a fresh trial. -/
theorem reopens_of_failures (quiet : ∀ id, Quiet (react id)) (sound : w₀.Sound)
    (there : id < w₀.circuits.size) (valid : (w₀.circuit id).settings.check? = none)
    (fits : (w₀.circuit id).settings.trialCalls < 2 ^ 32)
    (start : (w₀.episode id).Tries (w₀.circuit id).settings [])
    (run : Unattended react id moment w₀ w os turns) (failures : ∀ o ∈ os, o.failed = true)
    (many : (w₀.circuit id).settings.trialCalls ≤ os.length) :
    turns.head? = some ⟨⟨.halfOpen, .opened⟩, false⟩ := by
  have sized := Settings.sized_of_check valid
  obtain ⟨-, -, -, ⟨-, -, few⟩ | ⟨t, rest, rfl, kind⟩⟩ := run.first quiet sound there
    (P := fun e os => e.Tries (w₀.circuit id).settings os ∧
      os.length < (w₀.circuit id).settings.trialCalls)
    (T := fun t => t = ⟨⟨.halfOpen, .opened⟩, false⟩)
    (fun now e os m stays unrecorded holds => by
      have after : Episode.Tries _ (e.after _ now m) _ := holds.1.after sized stays
      rw [unrecorded, Option.toList_none, List.append_nil] at after
      exact ⟨after, holds.2⟩)
    (fun now e os o marks _ failures reports holds => by
      obtain same | opens := holds.1.reports_of_failures valid fits failures holds.2 reports
      · exact .inl same
      · exact .inr ⟨_, opens, rfl⟩)
    (fun now e os target _ expired holds => by
      -- a trial whose time is over leads to an open breaker as well
      rw [holds.1.state, Episode.target_of_trial holds.1.state expired])
    ⟨start, sized.2⟩ failures
  · omega
  · rw [kind]
    rfl

/-- **Clean calls** leave a fresh closed breaker closed. -/
theorem closed_of_clean (quiet : ∀ id, Quiet (react id)) (sound : w₀.Sound)
    (there : id < w₀.circuits.size) (valid : (w₀.circuit id).settings.check? = none)
    (start : (w₀.episode id).Spotless) (run : Unattended react id moment w₀ w os turns)
    (clean : ∀ o ∈ os, o.IsClean) : turns = [] ∧ (w.episode id).state = .closed := by
  obtain ⟨-, -, -, ⟨none, spotless⟩ | ⟨_, _, _, ⟨⟩⟩⟩ := run.first quiet sound there
    (P := fun e _ => e.Spotless) (T := fun _ => False)
    (fun now e os m stays unrecorded spotless => spotless.after stays fun o recorded => by
      rw [unrecorded] at recorded
      cases recorded)
    (fun now e os o marks _ clean reports spotless => .inl
      (spotless.reports valid (clean o (List.mem_append_right _ (List.mem_singleton_self o))) reports))
    (fun now e os target _ expired spotless =>
      absurd expired (Episode.request_ne_expired_of_closed spotless.state))
    start clean
  exact ⟨none, spotless.state⟩

/-- **Clean calls in time** close a breaker that is on a fresh trial. -/
theorem closes_of_clean (quiet : ∀ id, Quiet (react id)) (sound : w₀.Sound)
    (there : id < w₀.circuits.size) (valid : (w₀.circuit id).settings.check? = none)
    (fits : (w₀.circuit id).settings.trialCalls < 2 ^ 32)
    (start : (w₀.episode id).Tries (w₀.circuit id).settings [])
    (run : Unattended react id (fun now e => e.isOverdue now = false) w₀ w os turns)
    (clean : ∀ o ∈ os, o.IsClean) (many : (w₀.circuit id).settings.trialCalls ≤ os.length) :
    turns.head? = some ⟨⟨.halfOpen, .closed⟩, false⟩ := by
  have sized := Settings.sized_of_check valid
  obtain ⟨-, -, -, ⟨-, -, few⟩ | ⟨t, rest, rfl, kind⟩⟩ := run.first quiet sound there
    (P := fun e os => e.Tries (w₀.circuit id).settings os ∧
      os.length < (w₀.circuit id).settings.trialCalls)
    (T := fun t => t = ⟨⟨.halfOpen, .closed⟩, false⟩)
    (fun now e os m stays unrecorded holds => by
      have after : Episode.Tries _ (e.after _ now m) _ := holds.1.after sized stays
      rw [unrecorded, Option.toList_none, List.append_nil] at after
      exact ⟨after, holds.2⟩)
    (fun now e os o marks inTime clean reports holds => by
      obtain same | closes := holds.1.reports_of_clean valid fits clean holds.2 inTime reports
      · exact .inl same
      · exact .inr ⟨_, closes, rfl⟩)
    (fun now e os target inTime expired holds => by
      obtain ⟨ended, -⟩ | ⟨overdue, -⟩ := Episode.request_eq_expired_iff.mp expired
      · have opened := (Episode.state_of_isWaitOver ended).symm.trans holds.1.state
        cases opened
      · rw [inTime] at overdue
        cases overdue)
    ⟨start, sized.2⟩ clean
  · omega
  · rw [kind]
    rfl

end Unattended

namespace World

/-- **A breaker opens on failures, and on failures only.**  Let a circuit be asked and told by anyone, at any
readings, and moved neither by hand nor by its timer.

A closed breaker that counts calls opens by the time that as many failures in a row were recorded as its
window has places, whatever the window held before; and a fresh trial ends in an open breaker by the time that
as many failures were recorded as it admits.  As long as every recorded call neither failed nor was slow, a
fresh closed breaker stays closed, over either kind of window; and as many such calls as a fresh trial admits
close it, if they come before its deadline.  Each report that is not given up by the classifier returns, so
that such a stretch goes on.

The sizes are 32-bit words, which the rates of that many calls need to be exact. -/
theorem gate_opens_and_spares {react : CircuitId → React γ} (quiet : ∀ id, Quiet (react id))
    {w₀ : World γ} (reachable : w₀.Reachable) {id : CircuitId} (there : id < w₀.circuits.size)
    (windowFits : (w₀.circuit id).settings.windowSize < 2 ^ 32)
    (trialFits : (w₀.circuit id).settings.trialCalls < 2 ^ 32)
    (waits : ∀ cause, ¬(w₀.circuit id).settings.WaitFails cause) :
    ((w₀.episode id).state = .closed → (w₀.circuit id).settings.windowKind = .count →
      ∀ w os turns, Unattended react id (fun _ _ => True) w₀ w os turns →
        (∀ o ∈ os, o.failed = true) → (w₀.circuit id).settings.windowSize ≤ os.length →
        turns.head? = some ⟨⟨.closed, .opened⟩, false⟩) ∧
    ((w₀.episode id).Fresh (w₀.circuit id).settings → (w₀.episode id).state = .halfOpen →
      ∀ w os turns, Unattended react id (fun _ _ => True) w₀ w os turns →
        (∀ o ∈ os, o.failed = true) → (w₀.circuit id).settings.trialCalls ≤ os.length →
        turns.head? = some ⟨⟨.halfOpen, .opened⟩, false⟩) ∧
    ((w₀.episode id).Fresh (w₀.circuit id).settings → (w₀.episode id).state = .closed →
      ∀ w os turns, Unattended react id (fun _ _ => True) w₀ w os turns →
        (∀ o ∈ os, o.IsClean) → turns = [] ∧ (w.episode id).state = .closed) ∧
    ((w₀.episode id).Fresh (w₀.circuit id).settings → (w₀.episode id).state = .halfOpen →
      ∀ w os turns, Unattended react id (fun now e => e.isOverdue now = false) w₀ w os turns →
        (∀ o ∈ os, o.IsClean) → (w₀.circuit id).settings.trialCalls ≤ os.length →
        turns.head? = some ⟨⟨.halfOpen, .closed⟩, false⟩) ∧
    ∀ moment w os turns, Unattended react id moment w₀ w os turns →
      ∀ d r o, (w.circuit id).outcome? d r = some o →
        ∃ after, (Operation.report id d r).run react w = .ok .nothing after := by
  have sound := reachable.sound
  obtain ⟨valid, streak⟩ := reachable.gated id
  refine ⟨fun closed count w os turns run failures many => ?_,
    fun fresh trial w os turns run failures many => ?_, fun fresh closed w os turns run clean => ?_,
    fun fresh trial w os turns run clean many => ?_, fun moment w os turns run d r o outcome => ?_⟩
  · exact run.opens_of_failures quiet sound there valid count windowFits (streak closed count)
      failures many
  · exact run.reopens_of_failures quiet sound there valid trialFits (fresh.tries trial) failures many
  · exact run.closed_of_clean quiet sound there valid
      (fresh.spotless (Settings.sized_of_check valid) closed) clean
  · exact run.closes_of_clean quiet sound there valid trialFits (fresh.tries trial) clean many
  · obtain ⟨present, settings⟩ := run.stands quiet sound there
    obtain ⟨after, _, ran, -⟩ := (quiet id).run_report present outcome (settings ▸ waits)
    exact ⟨after, ran⟩

/-- Five calls are asked for, and the window has two places.  Two failures open the breaker none the less,
from closed and from a trial of two calls; two calls that succeed leave it closed, and close the trial. -/
theorem gate_opens_and_spares_capped :
    ∃ v u w : World Unit, (v.circuit 0).settings.minimumCalls = 5 ∧
      (v.circuit 0).settings.windowSize = 2 ∧ (v.episode 0).state = .closed ∧
      (u.episode 0).state = .halfOpen ∧
      (∃ after turns, Unattended (fun _ => .silent) 0 (fun _ _ => True) v after
        [⟨true, false, .zero⟩, ⟨true, false, .zero⟩] turns ∧
        turns.head? = some ⟨⟨.closed, .opened⟩, false⟩) ∧
      (∃ after turns, Unattended (fun _ => .silent) 0 (fun _ _ => True) u after
        [⟨true, false, .zero⟩, ⟨true, false, .zero⟩] turns ∧
        turns.head? = some ⟨⟨.halfOpen, .opened⟩, false⟩) ∧
      (Unattended (fun _ => .silent) 0 (fun _ _ => True) v w
        [⟨false, false, .zero⟩, ⟨false, false, .zero⟩] [] ∧ (w.episode 0).state = .closed) ∧
      (∃ after turns, Unattended (fun _ => .silent) 0 (fun now e => e.isOverdue now = false) u after
        [⟨false, false, .zero⟩, ⟨false, false, .zero⟩] turns ∧
        turns.head? = some ⟨⟨.halfOpen, .closed⟩, false⟩) ∧
      ∃ after, (Operation.report 0 .zero .success).run (fun _ => .silent) w = .ok .nothing after := by
  -- the breaker and the trial are computed, each with a first failure and with a first success
  obtain ⟨c, built, fixed, count, five, two, trials, closed, ⟨_, f₁, failed₁, fail₁, fail₂⟩,
      ⟨_, g₁, passed₁, pass₁, pass₂⟩, _, u, forced, another, trial,
      ⟨_, p₁, failed₂, fail₃, fail₄⟩, _, q₁, passed₂, pass₃, early₁, pass₄, early₂⟩ :
      ∃ c : Circuit, (Blueprint.ofChoices "" [.windowSize 2, .minimumCalls 5, .trialCalls 2,
        .timeSource .shared]).build (World.empty 7 ⟨0⟩ ()) = .ok c ∧
      c.settings.backoff = .fixed (.ofSeconds 60) ∧ c.settings.windowKind = .count ∧
      c.settings.minimumCalls = 5 ∧ c.settings.windowSize = 2 ∧ c.settings.trialCalls = 2 ∧
      c.episode.state = .closed ∧
      (∃ (a : Answer) (f₁ : World Unit), (Operation.report 0 .zero (.error .unit)).run
          (fun _ => .silent) ((World.empty 7 ⟨0⟩ ()).addCircuit c) = .ok a f₁ ∧
        c.outcome? .zero (.error .unit) = some ⟨true, false, .zero⟩ ∧
        (f₁.circuit 0).outcome? .zero (.error .unit) = some ⟨true, false, .zero⟩) ∧
      (∃ (a : Answer) (g₁ : World Unit), (Operation.report 0 .zero .success).run
          (fun _ => .silent) ((World.empty 7 ⟨0⟩ ()).addCircuit c) = .ok a g₁ ∧
        c.outcome? .zero .success = some ⟨false, false, .zero⟩ ∧
        (g₁.circuit 0).outcome? .zero .success = some ⟨false, false, .zero⟩) ∧
      ∃ (a : Answer) (u : World Unit), (Operation.force 0 .halfOpen).run (fun _ => .silent)
        ((World.empty 7 ⟨0⟩ ()).addCircuit c) = .ok a u ∧
      (u.episode 0).number ≠ (((World.empty 7 ⟨0⟩ ()).addCircuit c).episode 0).number ∧
      (u.episode 0).state = .halfOpen ∧
      (∃ (a : Answer) (p₁ : World Unit), (Operation.report 0 .zero (.error .unit)).run
          (fun _ => .silent) u = .ok a p₁ ∧
        (u.circuit 0).outcome? .zero (.error .unit) = some ⟨true, false, .zero⟩ ∧
        (p₁.circuit 0).outcome? .zero (.error .unit) = some ⟨true, false, .zero⟩) ∧
      ∃ (a : Answer) (q₁ : World Unit), (Operation.report 0 .zero .success).run
          (fun _ => .silent) u = .ok a q₁ ∧
        (u.circuit 0).outcome? .zero .success = some ⟨false, false, .zero⟩ ∧
        (u.episode 0).isOverdue (u.reading 0) = false ∧
        (q₁.circuit 0).outcome? .zero .success = some ⟨false, false, .zero⟩ ∧
        (q₁.episode 0).isOverdue (q₁.reading 0) = false :=
    ⟨_, rfl, rfl, rfl, rfl, rfl, rfl, rfl, ⟨_, _, rfl, rfl, rfl⟩, ⟨_, _, rfl, rfl, rfl⟩, _, _, rfl,
      Nat.one_ne_zero, rfl, ⟨_, _, rfl, rfl, rfl⟩, _, _, rfl, rfl, rfl, rfl, rfl⟩
  have quiet (id : CircuitId) : Quiet ((fun _ => .silent : CircuitId → React Unit) id) := Quiet.silent
  have reachable : ((World.empty 7 ⟨0⟩ () : World Unit).addCircuit c).Reachable :=
    ⟨7, ⟨0⟩, (), (Move.build _ _ built).reaches⟩
  have there : 0 < ((World.empty 7 ⟨0⟩ () : World Unit).addCircuit c).circuits.size := Nat.one_pos
  have waits (cause : Abort) : ¬c.settings.WaitFails cause := by
    intro fails
    obtain ⟨wait?, remarks, policy⟩ := fails.custom
    rw [fixed] at policy
    cases policy
  obtain ⟨reaches, marks, course, undergoes⟩ :=
    ((Operation.force 0 .halfOpen).yields_undergoes quiet reachable.sound there).of_ok forced
  have settings : (u.circuit 0).settings = c.settings := course.settings
  have freshTrial : (u.episode 0).Fresh (u.circuit 0).settings := by
    have fresh := undergoes.fresh (reachable.sound.sized 0)
    rw [← course.episode, ← course.settings] at fresh
    exact fresh another (by rw [trial]; decide)
  obtain ⟨opens, -, spares, -, goes⟩ := gate_opens_and_spares quiet reachable there
    (by show c.settings.windowSize < _; rw [two]; decide)
    (by show c.settings.trialCalls < _; rw [trials]; decide) waits
  obtain ⟨-, reopens, -, closes, goes'⟩ := gate_opens_and_spares quiet
    (reachable.of_reaches reaches) (Nat.lt_of_lt_of_le there course.size)
    (by rw [settings, two]; decide) (by rw [settings, trials]; decide) (settings ▸ waits)
  have begins (w : World Unit) (moment : Nat → Episode → Prop) :
      Unattended (fun _ => .silent) 0 moment w w [] [] := .start
  have failed := (begins _ fun _ _ => True).report failed₁ fail₁ trivial
  have passed := (begins _ fun _ _ => True).report passed₁ pass₁ trivial
  have trialFailed := (begins _ fun _ _ => True).report failed₂ fail₃ trivial
  have trialPassed := (begins _ fun now e => e.isOverdue now = false).report passed₂ pass₃ early₁
  obtain ⟨f₂, again⟩ := goes _ _ _ _ failed _ _ _ fail₂
  obtain ⟨g₂, well⟩ := goes _ _ _ _ passed _ _ _ pass₂
  obtain ⟨p₂, trialAgain⟩ := goes' _ _ _ _ trialFailed _ _ _ fail₄
  obtain ⟨q₂, trialWell⟩ := goes' _ _ _ _ trialPassed _ _ _ pass₄
  have opened := failed.report again fail₂ trivial
  have stayed := passed.report well pass₂ trivial
  have reopened := trialFailed.report trialAgain fail₄ trivial
  have closed' := trialPassed.report trialWell pass₄ early₂
  have failures : ∀ o ∈ [(⟨true, false, .zero⟩ : Outcome), ⟨true, false, .zero⟩], o.failed = true := by
    simp
  have clean : ∀ o ∈ [(⟨false, false, .zero⟩ : Outcome), ⟨false, false, .zero⟩], o.IsClean := by
    simp [Outcome.IsClean]
  obtain ⟨none, stays⟩ := spares (fresh_built built) closed _ _ _ stayed clean
  rw [none] at stayed
  refine ⟨(World.empty 7 ⟨0⟩ ()).addCircuit c, u, g₂, five, two, closed, trial,
    ⟨f₂, _, opened, ?_⟩, ⟨p₂, _, reopened, ?_⟩, ⟨stayed, stays⟩, ⟨q₂, _, closed', ?_⟩,
    goes _ _ _ _ stayed .zero .success _ rfl⟩
  · exact opens closed count _ _ _ opened failures two.le
  · exact reopens freshTrial trial _ _ _ reopened failures (by rw [settings, trials]; decide)
  · exact closes freshTrial trial _ _ _ closed' clean (by rw [settings, trials]; decide)

end World

end Breaker

import Breaker.Proofs.Episode.Decided
import Breaker.Proofs.Episode.Trial
import Breaker.Proofs.World.Passage

/-!
# Ledger — permissions of a trial, and how they are answered

A circuit does not know its calls: a permission is only taken, and a report or a release is only taken
in.  Those who make the calls know which permission an answer is for.  A `Ledger` is what they write
down during one stay in a state, and `Ledger.Accounts` says how they may keep it along what their journal
tells of permissions (`Journal.dealings`): a permission of this stay is answered at most once, and any
other answer is a late one, of a call from before the stay or of one that was never asked for.

`Episode.Balanced` relates the ledger to a trial.  Each mark keeps the balance (`Balanced.marked`,
`Balanced.observe`), and entering a trial begins it (`balanced_entered`), so it is kept by everything
that a circuit goes through (`Passage.balanced`), where what is noted of permissions is what happens to
them (`Trace.dealings`).  It bounds the permits from both sides.  A late
release may add a permit to the pool, and a late report counts as an outcome of the trial, so calls from
before the trial take part in it.  But no permit gets lost: the permits, the outcomes and the permissions
without an answer are always as many as the trial admits.
-/

namespace Breaker

/-- What is known of the calls during one stay of a circuit in a state. -/
structure Ledger where
  /-- The permissions of the stay that were not answered yet. -/
  unanswered : Nat
  /-- The outcomes reported of calls with a permission of the stay. -/
  own : Nat
  /-- The outcomes reported of other calls. -/
  late : Nat
  /-- The permissions that other calls gave back. -/
  lateReleases : Nat
  deriving DecidableEq

namespace Ledger

/-- Nothing is written down. -/
def empty : Ledger := ⟨0, 0, 0, 0⟩

/-- How a ledger goes on. -/
inductive Step : Ledger → Dealing → Ledger → Prop where
  | granted (l : Ledger) : Step l .granted { l with unanswered := l.unanswered + 1 }
  | reported (l : Ledger) (due : 0 < l.unanswered) :
      Step l .recorded { l with unanswered := l.unanswered - 1, own := l.own + 1 }
  | reportedLate (l : Ledger) : Step l .recorded { l with late := l.late + 1 }
  /-- That a report returns is nothing new: its outcome was written down before. -/
  | returned (l : Ledger) : Step l .returned l
  | released (l : Ledger) (due : 0 < l.unanswered) :
      Step l .released { l with unanswered := l.unanswered - 1 }
  | releasedLate (l : Ledger) : Step l .released { l with lateReleases := l.lateReleases + 1 }
  | entered (l : Ledger) (target : State) (manual : Bool) : Step l (.entered target manual) empty

/-- How a ledger is kept while permissions are dealt with. -/
inductive Accounts : Ledger → List Dealing → Ledger → Prop where
  | nil (l : Ledger) : Accounts l [] l
  | cons {l₁ l₂ l₃ : Ledger} {d : Dealing} {ds : List Dealing} (step : Step l₁ d l₂)
      (rest : Accounts l₂ ds l₃) : Accounts l₁ (d :: ds) l₃

variable {l l' : Ledger} {ds ds' : List Dealing}

theorem Accounts.eq_of_nil (accounts : Accounts l [] l') : l' = l := by
  cases accounts
  rfl

theorem Accounts.single {d : Dealing} (accounts : Accounts l [d] l') : Step l d l' := by
  obtain _ | ⟨step, rest⟩ := accounts
  cases rest
  exact step

theorem Accounts.split (accounts : Accounts l (ds ++ ds') l') :
    ∃ middle, Accounts l ds middle ∧ Accounts middle ds' l' := by
  induction ds generalizing l with
  | nil => exact ⟨l, .nil l, accounts⟩
  | cons d ds ih =>
    obtain _ | ⟨step, rest⟩ := accounts
    obtain ⟨middle, first, second⟩ := ih rest
    exact ⟨middle, .cons step first, second⟩

end Ledger

namespace Episode

/-- A trial grants a request by taking a permit. -/
theorem request_granted_of_trial {e taken : Episode} {now : Nat} {permits : Permits}
    {deadline : Option Nat} (phase : e.phase = .halfOpen permits deadline)
    (granted : e.request now = .granted taken) :
    ∃ left, permits.take? = some left ∧ taken = { e with phase := .halfOpen left deadline } := by
  rw [request, phase] at granted
  dsimp only at granted
  split at granted
  · cases granted
  · split at granted
    case h_1 left take =>
      cases granted
      exact ⟨left, take, rfl⟩
    case h_2 => cases granted

/-- How a trial stands, by the ledger of its calls. -/
structure Balance (s : Settings) (e : Episode) (l : Ledger) (permits : Permits) (os : List Outcome) :
    Prop where
  phase : ∃ deadline, e.phase = .halfOpen permits deadline
  limit : permits.limit = s.trialCalls
  tries : Tries s e os
  recorded : os.length = l.own + l.late
  most : permits.available + l.unanswered ≤ s.trialCalls + l.lateReleases
  least : s.trialCalls ≤ permits.available + os.length + l.unanswered

namespace Balance

variable {s : Settings} {e : Episode} {l : Ledger} {permits : Permits} {os : List Outcome} {now : Nat}

/-- The window of a trial shows all outcomes, up to as many as it admits. -/
theorem total_eq (h : Balance s e l permits os) (fits : min (l.own + l.late) s.trialCalls < 2 ^ 63) :
    e.window.totals.total = min (l.own + l.late) s.trialCalls := by
  obtain ⟨r, window, took⟩ := h.tries.window
  rw [← h.recorded] at fits ⊢
  rw [window, Window.totals, took.ofTally_totals fits]
  exact Ring.length_lastOf ..

/-- A trial that is complete took as many outcomes as it admits. -/
theorem le_of_complete (h : Balance s e l permits os) (complete : e.IsComplete) :
    s.trialCalls ≤ l.own + l.late := by
  obtain ⟨r, window, took⟩ := h.tries.window
  obtain ⟨r', window', many⟩ := complete
  rw [window] at window'
  cases window'
  rwa [h.tries.minimum, took.cursor, h.recorded] at many

/-- A trial in time grants a request as long as it has a permit. -/
theorem granted (h : Balance s e l permits os) (inTime : e.isOverdue now = false)
    (some : 0 < permits.available) : ∃ taken, e.request now = .granted taken := by
  obtain ⟨deadline, phase⟩ := h.phase
  have early : deadline.any (· ≤ now) = false := by rwa [isOverdue, phase] at inTime
  obtain ⟨left, take⟩ := Option.ne_none_iff_exists'.mp
    (mt Permits.take?_eq_none_iff.mp (Nat.ne_of_gt some))
  exact ⟨{ e with phase := .halfOpen left deadline }, by simp [request, phase, early, take]⟩

end Balance

/-- A trial has a balance. -/
def Balanced (s : Settings) (e : Episode) (l : Ledger) : Prop :=
  e.state = .halfOpen → ∃ permits os, Balance s e l permits os

variable {s : Settings} {id : CircuitId} {e e' : Episode} {l l' : Ledger} {now : Nat}

/-- A trial is entered with all its permits, and with nothing to be answered. -/
theorem balanced_entered (e : Episode) (target : State) (wait : Duration) (manual : Bool)
    (timer : Option Nat) : Balanced s (e.after s now (.entered target wait manual timer)) .empty := by
  intro trial
  have state : (e.after s now (.entered target wait manual timer)).state = target := next_state ..
  rw [state] at trial
  subst trial
  have phase : (e.after s now (.entered .halfOpen wait manual timer)).phase
      = phaseOf s .halfOpen now wait := next_phase ..
  exact ⟨_, [], ⟨_, phase⟩, rfl, .of_entered e wait manual timer, rfl, le_rfl, Nat.le_add_right ..⟩

namespace Balanced

theorem of_closed (closed : e.state = .closed) : Balanced s e l := by
  intro trial
  rw [closed] at trial
  cases trial

/-- A mark that records nothing keeps the balance. -/
theorem marked (h : Balanced s e l) (sized : s.Sized) {m : Mark} (takes : m = .told ∨ e.Takes now m)
    (accounts : Ledger.Accounts l m.dealing?.toList l') : Balanced s (e.after s now m) l' := by
  obtain ⟨stays, unrecorded⟩ := Passage.stays_of_takes takes
  intro trial
  obtain ⟨permits, os, ⟨deadline, phase⟩, limit, tries, recorded, most, least⟩ :=
    h ((keeps_after (s := s) stays e).state.symm.trans trial)
  have tries' : Tries s (e.after s now m) (os ++ m.outcome?.toList) := tries.after sized stays
  rw [unrecorded, Option.toList_none, List.append_nil] at tries'
  have within := permits.available_le
  cases m with
  | refused | told | settled =>
    obtain rfl := accounts.eq_of_nil
    refine ⟨permits, os, ⟨deadline, ?_⟩, limit, tries', recorded, most, least⟩
    simp [after, reject, noteTold, settle, phase]
  | granted =>
    obtain ⟨taken, granted⟩ := takes.resolve_left fun told => by cases told
    obtain ⟨left, take, rfl⟩ := request_granted_of_trial phase granted
    obtain ⟨limit', less⟩ := Permits.take?_eq_some take
    have became : e.after s now .granted = { e with phase := .halfOpen left deadline } := by
      rw [after, granted]
    rw [became] at tries' ⊢
    cases accounts.single
    refine ⟨left, os, ⟨deadline, rfl⟩, limit'.trans limit, tries', recorded, ?_, ?_⟩
    all_goals
      dsimp only
      omega
  | released =>
    have became : (e.after s now .released).phase = .halfOpen permits.release deadline := by
      rw [after, release, phase]
    have limit' := permits.limit_release.trans limit
    have more := permits.available_release
    cases accounts.single with
    | released due =>
      refine ⟨_, os, ⟨deadline, became⟩, limit', tries', recorded, ?_, ?_⟩
      all_goals
        dsimp only
        omega
    | releasedLate =>
      refine ⟨_, os, ⟨deadline, became⟩, limit', tries', recorded, ?_, ?_⟩
      all_goals
        dsimp only
        omega
  | recorded => cases unrecorded
  | entered => cases stays

/-- An outcome keeps the balance, whose call ever it is of. -/
theorem observe (h : Balanced s e l) (sized : s.Sized) {o : Outcome}
    (step : Ledger.Step l .recorded l') : Balanced s (e.observe now o) l' := by
  intro trial
  obtain ⟨permits, os, phase, limit, tries, recorded, most, least⟩ := h trial
  have tries' : Tries s (e.observe now o) (os ++ [o]) := tries.after (m := .recorded o) sized rfl
  have length : (os ++ [o]).length = os.length + 1 := List.length_append
  cases step with
  | reported due =>
    refine ⟨permits, _, phase, limit, tries', ?_, ?_, ?_⟩
    all_goals
      dsimp only
      omega
  | reportedLate =>
    refine ⟨permits, _, phase, limit, tries', ?_, most, ?_⟩
    all_goals
      dsimp only
      omega

end Balanced

/-- **Everything that a circuit goes through** keeps the balance of its trials. -/
theorem Passage.balanced {hs : List Happening} (h : Passage s id e hs e') (sized : s.Sized)
    (accounts : Ledger.Accounts l (Happening.dealings id hs) l') (start : Balanced s e l) :
    Balanced s e' l' := by
  induction h generalizing l l' with
  | refl =>
    rw [accounts.eq_of_nil]
    exact start
  | trans _ _ ih ih' =>
    rw [Happening.dealings_append] at accounts
    obtain ⟨middle, first, second⟩ := accounts.split
    exact ih' second (ih first start)
  | elsewhere e other =>
    rw [Happening.dealings_of_elsewhere other] at accounts
    rw [accounts.eq_of_nil]
    exact start
  | marked e now takes =>
    rw [Happening.dealings_marked] at accounts
    exact start.marked sized takes accounts
  | entered e now timer =>
    rw [Happening.dealings_marked] at accounts
    cases accounts.single
    exact balanced_entered e _ _ _ timer
  | reported e now o _ _ ih =>
    rw [Happening.dealings_reported] at accounts
    obtain _ | ⟨step, rest⟩ := accounts
    obtain ⟨middle, first, second⟩ := rest.split
    cases second.single
    exact ih first (start.observe sized step)
  | abandoned e now o _ ih =>
    rw [Happening.dealings_recorded] at accounts
    obtain _ | ⟨step, rest⟩ := accounts
    exact ih rest (start.observe sized step)

/-- A trial that a closed circuit has come to has a balance. -/
theorem Passage.balance {hs : List Happening} (h : Passage s id e hs e') (sized : s.Sized)
    (accounts : Ledger.Accounts l (Happening.dealings id hs) l') (closed : e.state = .closed)
    {permits : Permits}
    {deadline : Option Nat} (phase : e'.phase = .halfOpen permits deadline) :
    ∃ os, Balance s e' l' permits os := by
  have trial : e'.state = .halfOpen := by
    rw [state, phase]
    rfl
  obtain ⟨permits', os, balance⟩ := h.balanced sized accounts (.of_closed closed) trial
  obtain ⟨deadline', phase'⟩ := balance.phase
  rw [phase] at phase'
  cases phase'
  exact ⟨os, balance⟩

end Episode

end Breaker

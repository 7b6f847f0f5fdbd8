import Breaker.Proofs.Episode.Course

/-!
# Edges — the changes of state that a breaker makes of itself

There are four of them (`Transition.IsEdge`).  A request that finds the wait of an open breaker over
takes it to a trial, and one that finds a trial overdue ends it (`request_eq_expired_iff`); a timer
does the same.  An outcome that is recorded opens a closed breaker or decides a trial
(`followUp_eq_trip_iff`, `followUp_eq_close_iff`).  So whatever a circuit goes through, each change of
state is along an edge or made by hand.

A request goes along two edges at most, as long as readings have not come to their end
(`Lapses.shape`): a trial that has just begun is not overdue.
-/

namespace Breaker

/-- A change of state that a breaker makes of itself. -/
inductive Transition.IsEdge : Transition → Prop where
  | trip : IsEdge ⟨.closed, .opened⟩
  | probe : IsEdge ⟨.opened, .halfOpen⟩
  | relapse : IsEdge ⟨.halfOpen, .opened⟩
  | recover : IsEdge ⟨.halfOpen, .closed⟩

/-- A change of state that is made by hand or along an edge. -/
def Turn.IsProper (t : Turn) : Prop := t.manual = true ∨ t.change.IsEdge

namespace Episode

/-- Whether an open episode may be probed. -/
def isWaitOver (e : Episode) (now : Nat) : Bool :=
  match e.phase with
  | .opened retryAt => retryAt ≤ now
  | _ => false

/-- Whether a trial has passed its deadline. -/
def isOverdue (e : Episode) (now : Nat) : Bool :=
  match e.phase with
  | .halfOpen _ deadline => deadline.any (· ≤ now)
  | _ => false

variable {s : Settings} {now : Nat} {e : Episode}

theorem state_of_isWaitOver (h : e.isWaitOver now = true) : e.state = .opened := by
  unfold isWaitOver at h
  split at h
  case h_1 phase => rw [state, phase]; rfl
  case h_2 => cases h

theorem state_of_isOverdue (h : e.isOverdue now = true) : e.state = .halfOpen := by
  unfold isOverdue at h
  split at h
  case h_1 phase => rw [state, phase]; rfl
  case h_2 => cases h

/-- A request finds the wait of an open breaker over, or a trial overdue, and nothing else. -/
theorem request_eq_expired_iff {target : State} :
    e.request now = .expired target ↔
      (e.isWaitOver now = true ∧ target = .halfOpen) ∨
        (e.isOverdue now = true ∧ target = .opened) := by
  rw [request, isWaitOver, isOverdue]
  cases e.phase with
  | closed | disabled | metricsOnly | forcedOpen => simp
  | opened retryAt =>
    by_cases passed : retryAt ≤ now
    · simp [passed, @eq_comm _ State.halfOpen]
    · simp [passed]
  | halfOpen permits deadline =>
    cases passed : deadline.any (· ≤ now) with
    | true => simp [passed, @eq_comm _ State.opened]
    | false =>
      cases take : permits.take? with
      | none | some => simp [passed, take]

theorem isEdge_of_expired {target : State} (h : e.request now = .expired target) :
    Transition.IsEdge ⟨e.state, target⟩ := by
  obtain ⟨ended, rfl⟩ | ⟨overdue, rfl⟩ := request_eq_expired_iff.mp h
  · rw [state_of_isWaitOver ended]
    exact .probe
  · rw [state_of_isOverdue overdue]
    exact .relapse

/-- A timer ends the open state, or a trial. -/
theorem timeout_eq {due : Nat} {target : State} (h : e.timeout? s = some (due, target)) :
    (e.state = .opened ∧ target = .halfOpen) ∨ (e.state = .halfOpen ∧ target = .opened) := by
  unfold timeout? at h
  split at h
  case h_1 retryAt phase =>
    split at h
    · cases h
      rw [state, phase]
      exact .inl ⟨rfl, rfl⟩
    · cases h
  case h_2 permits deadline phase =>
    cases h
    rw [state, phase]
    exact .inr ⟨rfl, rfl⟩
  case h_3 => cases h

theorem isEdge_of_timeout {due : Nat} {target : State} (h : e.timeout? s = some (due, target)) :
    Transition.IsEdge ⟨e.state, target⟩ := by
  obtain ⟨state, rfl⟩ | ⟨state, rfl⟩ := timeout_eq h
  · exact state ▸ .probe
  · exact state ▸ .relapse

/-! ### What an outcome asks for -/

theorem followUp_of_closed (h : e.state = .closed) :
    e.followUp s now = if breached s e.rates then some (.trip e.rates) else none := by
  rw [state] at h
  rw [followUp]
  cases phase : e.phase with
  | closed => rfl
  | opened | halfOpen | disabled | forcedOpen | metricsOnly =>
    rw [phase] at h
    cases h

theorem followUp_of_halfOpen (h : e.state = .halfOpen) :
    e.followUp s now =
      if e.isOverdue now then some (.trip e.rates)
      else if e.window.totals.total < e.minimum then none
      else if breached s e.rates then some (.trip e.rates)
      else some .close := by
  rw [state] at h
  rw [followUp, isOverdue]
  cases phase : e.phase with
  | halfOpen => rfl
  | closed | opened | disabled | forcedOpen | metricsOnly =>
    rw [phase] at h
    cases h

/-- Only a closed breaker and a trial change their state at an outcome. -/
theorem followUp_of_ne (s : Settings) (now : Nat) (closed : e.state ≠ .closed)
    (trial : e.state ≠ .halfOpen) :
    e.followUp s now = none ∨ e.followUp s now = some (.tell e.rates) := by
  rw [followUp]
  rw [state] at closed trial
  cases phase : e.phase with
  | closed => exact absurd (by rw [phase]; rfl) closed
  | halfOpen => exact absurd (by rw [phase]; rfl) trial
  | opened | disabled | forcedOpen => exact .inl rfl
  | metricsOnly reported =>
    dsimp only
    split
    · exact .inr rfl
    · exact .inl rfl

/-- An outcome opens a closed breaker at a threshold, and ends a trial past its deadline or, once
there were enough calls, at a threshold. -/
theorem followUp_eq_trip_iff :
    (∃ rates, e.followUp s now = some (.trip rates)) ↔
      (e.state = .closed ∧ breached s e.rates = true) ∨
        (e.state = .halfOpen ∧ (e.isOverdue now = true ∨
          (e.minimum ≤ e.window.totals.total ∧ breached s e.rates = true))) := by
  by_cases closed : e.state = .closed
  · rw [followUp_of_closed closed]
    cases breached s e.rates with
    | true | false => simp [closed]
  · by_cases trial : e.state = .halfOpen
    · rw [followUp_of_halfOpen trial]
      cases overdue : e.isOverdue now with
      | true => simp [trial]
      | false =>
        by_cases few : e.window.totals.total < e.minimum
        · simp [trial, few, Nat.not_le.mpr few]
        · cases breached s e.rates with
          | true | false => simp [trial, few, Nat.not_lt.mp few]
    · obtain nothing | told := followUp_of_ne s now closed trial
      · simp [nothing, closed, trial]
      · simp [told, closed, trial]

/-- An outcome closes a breaker that passed its trial in time. -/
theorem followUp_eq_close_iff :
    e.followUp s now = some .close ↔
      e.state = .halfOpen ∧ e.isOverdue now = false ∧ e.minimum ≤ e.window.totals.total ∧
        breached s e.rates = false := by
  by_cases trial : e.state = .halfOpen
  · rw [followUp_of_halfOpen trial]
    cases e.isOverdue now with
    | true => simp
    | false =>
      by_cases few : e.window.totals.total < e.minimum
      · simp [few, Nat.not_le.mpr few]
      · cases breached s e.rates with
        | true | false => simp [trial, few, Nat.not_lt.mp few]
  · by_cases closed : e.state = .closed
    · rw [followUp_of_closed closed]
      cases breached s e.rates with
      | true | false => simp [closed]
    · obtain nothing | told := followUp_of_ne s now closed trial
      · simp [nothing, trial]
      · simp [told, trial]

/-- Requests that find the time over go along edges. -/
theorem Lapses.isProper {e' : Episode} {marks : List Mark} (h : Lapses s now e marks e') :
    ∀ t ∈ e.turns s now marks, t.IsProper := by
  induction h with
  | refl => simp
  | more expired _ ih =>
    rw [turns_cons]
    intro t mem
    obtain first | later := List.mem_append.mp mem
    · obtain rfl := List.mem_singleton.mp first
      exact .inr (isEdge_of_expired expired)
    · exact ih t later

/-- So does what an outcome comes to. -/
theorem Reports.isProper {o : Outcome} {marks : List Mark} (h : Reports s now e o marks) :
    ∀ t ∈ e.turns s now marks, t.IsProper := by
  have observed : (e.observe now o).state = e.state := rfl
  cases h with
  | alone => simp [Mark.turn?]
  | told => simp [Mark.turn?]
  | tripped trip =>
    intro t mem
    obtain rfl := List.mem_singleton.mp mem
    obtain ⟨state, -⟩ | ⟨state, -⟩ := followUp_eq_trip_iff.mp ⟨_, trip⟩
    · exact .inr (state ▸ .trip)
    · exact .inr (state ▸ .relapse)
  | passed close =>
    intro t mem
    obtain rfl := List.mem_singleton.mp mem
    exact .inr ((followUp_eq_close_iff.mp close).1 ▸ .recover)

/-! ### How far a request goes -/

/-- A deadline is later than the reading it was set at, unless readings have come to their end. -/
theorem lt_later {d : Duration} (early : now < wordMax) (h : d.isZero = false) :
    now < later now d.word := by
  have long : d.nanos ≠ 0 := by simpa [Duration.isZero] using h
  rw [later, Duration.word]
  omega

/-- A trial that has just begun is not over. -/
theorem request_trial_ne_expired (early : s.trialLimit.isZero = false → now < wordMax)
    (e : Episode) (wait : Duration) (timer : Option Nat) (target : State) :
    (e.after s now (.entered .halfOpen wait false timer)).request now ≠ .expired target := by
  intro expired
  have phase : (e.after s now (.entered .halfOpen wait false timer)).phase
      = phaseOf s .halfOpen now wait := next_phase ..
  obtain ⟨ended, -⟩ | ⟨overdue, -⟩ := request_eq_expired_iff.mp expired
  · rw [isWaitOver, phase] at ended
    cases ended
  · rw [isOverdue, phase] at overdue
    cases limit : s.trialLimit.isZero with
    | true => simp [phaseOf, limit] at overdue
    | false =>
      have ahead := lt_later (early limit) limit
      simp [phaseOf, limit, Nat.not_le.mpr ahead] at overdue

/-- A trial that has just begun admits a call, and has one permit less after it. -/
theorem request_trial (early : s.trialLimit.isZero = false → now < wordMax) (admits : 0 < s.trialCalls)
    (e : Episode) (wait : Duration) (timer : Option Nat) :
    ∃ permits deadline, permits.limit = s.trialCalls ∧ permits.available = s.trialCalls - 1 ∧
      (e.after s now (.entered .halfOpen wait false timer)).request now
        = .granted { e.after s now (.entered .halfOpen wait false timer) with
            phase := .halfOpen permits deadline } := by
  obtain ⟨deadline, phase⟩ : ∃ deadline,
      (e.after s now (.entered .halfOpen wait false timer)).phase
        = .halfOpen (Permits.full s.trialCalls) deadline := ⟨_, next_phase ..⟩
  have inTime := request_trial_ne_expired early e wait timer .opened
  have take : (Permits.full s.trialCalls).take?
      = some ⟨s.trialCalls, s.trialCalls - 1, Nat.sub_le _ _⟩ := if_neg (Nat.ne_of_gt admits)
  refine ⟨⟨s.trialCalls, s.trialCalls - 1, Nat.sub_le _ _⟩, deadline, rfl, rfl, ?_⟩
  rw [request, phase] at inTime ⊢
  dsimp only at inTime ⊢
  split at inTime
  · exact absurd rfl inTime
  · rw [if_neg ‹_›, take]

/-- A trial that has just begun and admitted a call. -/
theorem after_granted_of_trial (early : s.trialLimit.isZero = false → now < wordMax)
    (admits : 0 < s.trialCalls) {e : Episode} (attempts : 0 < e.attempts) (wait : Duration) (timer : Option Nat) :
    ∃ permits deadline,
      ((e.after s now (.entered .halfOpen wait false timer)).after s now .granted).phase
        = .halfOpen permits deadline ∧
      permits.limit = s.trialCalls ∧ permits.available = s.trialCalls - 1 ∧
      ((e.after s now (.entered .halfOpen wait false timer)).after s now .granted).window
        = .calls (Ring.empty s.trialCalls) ∧
      ((e.after s now (.entered .halfOpen wait false timer)).after s now .granted).rejected = 0 ∧
      ((e.after s now (.entered .halfOpen wait false timer)).after s now .granted).attempts
        = e.attempts := by
  obtain ⟨permits, deadline, limit, available, granted⟩ := request_trial early admits e wait timer
  refine ⟨permits, deadline, ?_⟩
  rw [show (e.after s now (.entered .halfOpen wait false timer)).after s now .granted
    = { e.after s now (.entered .halfOpen wait false timer) with
        phase := .halfOpen permits deadline } by rw [after, granted]]
  have fresh : e.next s now .halfOpen wait false = _ :=
    next_of_fresh (fun trip => by cases trip.1) wait
  rw [after, fresh]
  exact ⟨rfl, limit, available, rfl, rfl, Nat.max_eq_left attempts⟩

/-- A breaker that has just opened may be probed at once if it need not wait. -/
theorem request_opened_eq_expired_iff {e : Episode} {wait : Duration} {timer : Option Nat}
    {target : State} :
    (e.after s now (.entered .opened wait false timer)).request now = .expired target ↔
      later now wait.word ≤ now ∧ target = .halfOpen := by
  have phase : (e.after s now (.entered .opened wait false timer)).phase
      = phaseOf s .opened now wait := next_phase ..
  rw [request_eq_expired_iff, isWaitOver, isOverdue, phase]
  simp [phaseOf]

/-- No episode follows on a trial that has just begun. -/
theorem Lapses.eq_nil (early : s.trialLimit.isZero = false → now < wordMax) {e e' : Episode}
    {wait : Duration} {timer : Option Nat} {marks : List Mark}
    (h : Lapses s now (e.after s now (.entered .halfOpen wait false timer)) marks e') :
    marks = [] := by
  cases h with
  | refl => rfl
  | more expired => exact absurd expired (request_trial_ne_expired early e wait timer _)

/-- **How far a request goes**: to a trial, or from a trial that is overdue, or from it and on to the
next. -/
theorem Lapses.shape (early : s.trialLimit.isZero = false → now < wordMax) {e' : Episode}
    {marks : List Mark} (h : Lapses s now e marks e') :
    marks = [] ∨
      (e.isWaitOver now = true ∧ ∃ wait timer, marks = [.entered .halfOpen wait false timer]) ∨
      (e.isOverdue now = true ∧ ∃ wait timer, marks = [.entered .opened wait false timer] ∨
        (later now wait.word ≤ now ∧ ∃ wait' timer',
          marks = [.entered .opened wait false timer, .entered .halfOpen wait' false timer'])) := by
  cases h with
  | refl => exact .inl rfl
  | @more _ _ target wait timer rest expired t =>
    obtain ⟨ended, rfl⟩ | ⟨overdue, rfl⟩ := request_eq_expired_iff.mp expired
    · -- a trial begins, and none is over as it begins
      obtain rfl := t.eq_nil early
      exact .inr (.inl ⟨ended, wait, timer, rfl⟩)
    · refine .inr (.inr ⟨overdue, wait, timer, ?_⟩)
      cases t with
      | refl => exact .inl rfl
      | more expired' t' =>
        -- the wait that was just drawn is none, so a second trial begins
        obtain ⟨none, rfl⟩ := request_opened_eq_expired_iff.mp expired'
        obtain rfl := t'.eq_nil early
        exact .inr ⟨none, _, _, rfl⟩

/-- Three episodes are enough for a request. -/
theorem Lapses.length_le (early : s.trialLimit.isZero = false → now < wordMax) {e' : Episode}
    {marks : List Mark} (h : Lapses s now e marks e') : marks.length ≤ 2 := by
  obtain rfl | ⟨-, wait, timer, rfl⟩ | ⟨-, wait, timer, rfl | ⟨-, wait', timer', rfl⟩⟩ :=
    h.shape early
  · exact Nat.zero_le 2
  · exact Nat.le_succ 1
  · exact Nat.le_succ 1
  · exact Nat.le_refl 2

end Episode

end Breaker

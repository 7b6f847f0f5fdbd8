import Breaker.Proofs.World.Undergoes

/-!
# Triggers — which changes of state happen, and when

`World.Triggers` is the whole of what a breaker does of itself: for each edge, the cases in which an
operation takes the circuit along it.  `World.Makes` says that the changes of state in a journal are
those that were triggered, each made once, and those made by hand.

Requests, reports and timers are looked at one by one (`Asks.makes`, `Told.makes`, `makes_of_timer`),
and anything else triggers nothing (`makes_of_idle`).  `Operation.makes` is the statement for every
operation.  It needs the clock to be short of its end where trials have a deadline, since a deadline
could not lie ahead otherwise.
-/

namespace Breaker

variable {γ : Type}

namespace World

/-- What the window of a circuit shows once an outcome is recorded. -/
def shownWith (w : World γ) (id : CircuitId) (o : Outcome) : Snapshot :=
  ((w.episode id).window.record (w.reading id) o).totals

/-- Whether an outcome leaves rates measured, from a number of calls on, and at a threshold. -/
def breachesWith (w : World γ) (id : CircuitId) (o : Outcome) (minimum : Nat) : Bool :=
  Episode.breached (w.circuit id).settings (Rates.of (w.shownWith id o) minimum)

/-- The wait of a circuit, if its trial ends now. -/
def nextWait? (w : World γ) (id : CircuitId) : Except Abort Duration :=
  w.wait? id (Episode.attemptsOnEntry .halfOpen (w.episode id).attempts .opened false)

/-- The cases in which an operation has a circuit change its state of itself. -/
inductive Triggers (w : World γ) (id : CircuitId) (op : Operation) : Transition → Prop where
  /-- A closed breaker opens when an outcome brings a rate to its threshold. -/
  | trip {o : Outcome} (closed : (w.episode id).state = .closed) (records : op.Records w id o)
      (breach : w.breachesWith id o (w.circuit id).settings.effectiveMinimum = true) :
      Triggers w id op ⟨.closed, .opened⟩
  /-- An open breaker is probed when a request finds its wait over. -/
  | probe (ended : (w.episode id).isWaitOver (w.reading id) = true) (requests : op.Requests id) :
      Triggers w id op ⟨.opened, .halfOpen⟩
  /-- The same request that ended a trial probes the breaker again if the next wait is none. -/
  | probeAgain (overdue : (w.episode id).isOverdue (w.reading id) = true)
      (requests : op.Requests id) {wait : Duration} (drawn : w.nextWait? id = .ok wait)
      (none : later (w.reading id) wait.word ≤ w.reading id) :
      Triggers w id op ⟨.opened, .halfOpen⟩
  | probeByTimer (opened : (w.episode id).state = .opened) (runs : w.TimerRuns id op) :
      Triggers w id op ⟨.opened, .halfOpen⟩
  /-- A trial ends when a request or a report comes at or past its deadline. -/
  | relapse (overdue : (w.episode id).isOverdue (w.reading id) = true)
      (occasion : op.Requests id ∨ ∃ o, op.Records w id o) :
      Triggers w id op ⟨.halfOpen, .opened⟩
  | relapseByTimer (trial : (w.episode id).state = .halfOpen) (runs : w.TimerRuns id op) :
      Triggers w id op ⟨.halfOpen, .opened⟩
  /-- A trial fails with the outcome that completes it and brings a rate to its threshold. -/
  | fail {o : Outcome} (trial : (w.episode id).state = .halfOpen) (records : op.Records w id o)
      (complete : (w.shownWith id o).total = (w.circuit id).settings.trialCalls)
      (breach : w.breachesWith id o (w.circuit id).settings.trialCalls = true) :
      Triggers w id op ⟨.halfOpen, .opened⟩
  /-- A trial is passed, before its deadline, with the outcome that completes it and leaves both rates
  below their thresholds. -/
  | recover {o : Outcome} (trial : (w.episode id).state = .halfOpen) (records : op.Records w id o)
      (inTime : (w.episode id).isOverdue (w.reading id) = false)
      (complete : (w.shownWith id o).total = (w.circuit id).settings.trialCalls)
      (passed : w.breachesWith id o (w.circuit id).settings.trialCalls = false) :
      Triggers w id op ⟨.halfOpen, .closed⟩

/-- The changes of state at a circuit are those that an operation triggers, each made once, and those
it makes by hand. -/
structure Makes (w : World γ) (id : CircuitId) (op : Operation) (turns : List Turn) : Prop where
  triggered : ∀ change, ⟨change, false⟩ ∈ turns ↔ w.Triggers id op change
  byHand : ∀ change, ⟨change, true⟩ ∈ turns ↔
    change.source = (w.episode id).state ∧
      (op = .force id change.target ∨ op = .reset id ∧ change.target = .closed)
  once : turns.Nodup

section Kinds

variable {w : World γ} {id : CircuitId} {op : Operation} {change : Transition}

/-! ### What the kinds of operations can trigger -/

/-- Every trigger has an occasion. -/
theorem Triggers.occasion (h : w.Triggers id op change) :
    op.Requests id ∨ (∃ o, op.Records w id o) ∨ w.TimerRuns id op := by
  cases h with
  | trip _ records | fail _ records | recover _ records => exact .inr (.inl ⟨_, records⟩)
  | probe _ requests | probeAgain _ requests => exact .inl requests
  | probeByTimer _ runs | relapseByTimer _ runs => exact .inr (.inr runs)
  | relapse _ occasion =>
    obtain requests | records := occasion
    · exact .inl requests
    · exact .inr (.inl records)

/-- A breaker that is disabled, forced open or only watched does nothing of itself. -/
theorem Triggers.state (h : w.Triggers id op change) :
    (w.episode id).state = .closed ∨ (w.episode id).state = .opened ∨
      (w.episode id).state = .halfOpen := by
  cases h with
  | trip closed => exact .inl closed
  | probe ended => exact .inr (.inl (Episode.state_of_isWaitOver ended))
  | probeByTimer opened => exact .inr (.inl opened)
  | relapseByTimer trial | fail trial | recover trial => exact .inr (.inr trial)
  | relapse overdue | probeAgain overdue =>
    exact .inr (.inr (Episode.state_of_isOverdue overdue))

theorem not_records_of_requests (h : op.Requests id) {o : Outcome} : ¬op.Records w id o := by
  rintro ⟨d, r, rfl, -⟩
  obtain ⟨tries, eq | eq⟩ := h
  · cases eq
  · cases eq

theorem not_timerRuns_of_requests (h : op.Requests id) : ¬w.TimerRuns id op := by
  obtain ⟨tries, rfl | rfl⟩ := h
  · exact fun runs => runs
  · exact fun runs => runs

/-- A request triggers what the time is over for. -/
theorem triggers_of_requests_iff (requests : op.Requests id) :
    w.Triggers id op change ↔
      ((w.episode id).isWaitOver (w.reading id) = true ∧ change = ⟨.opened, .halfOpen⟩) ∨
      ((w.episode id).isOverdue (w.reading id) = true ∧ (change = ⟨.halfOpen, .opened⟩ ∨
        (change = ⟨.opened, .halfOpen⟩ ∧ ∃ wait, w.nextWait? id = .ok wait ∧
          later (w.reading id) wait.word ≤ w.reading id))) := by
  constructor
  · intro h
    cases h with
    | trip _ records | fail _ records | recover _ records =>
      exact absurd records (not_records_of_requests requests)
    | probe ended => exact .inl ⟨ended, rfl⟩
    | probeAgain overdue _ drawn none => exact .inr ⟨overdue, .inr ⟨rfl, _, drawn, none⟩⟩
    | probeByTimer _ runs | relapseByTimer _ runs =>
      exact absurd runs (not_timerRuns_of_requests requests)
    | relapse overdue => exact .inr ⟨overdue, .inl rfl⟩
  · rintro (⟨ended, rfl⟩ | ⟨overdue, rfl | ⟨rfl, wait, drawn, none⟩⟩)
    · exact .probe ended requests
    · exact .relapse overdue (.inl requests)
    · exact .probeAgain overdue requests drawn none

/-- A report of an outcome triggers what the outcome decides. -/
theorem triggers_report_iff {d : Duration} {r : Report} {o : Outcome}
    (outcome : (w.circuit id).outcome? d r = some o) :
    w.Triggers id (.report id d r) change ↔
      ((w.episode id).state = .closed ∧
        w.breachesWith id o (w.circuit id).settings.effectiveMinimum = true ∧
        change = ⟨.closed, .opened⟩) ∨
      ((w.episode id).state = .halfOpen ∧ ((w.episode id).isOverdue (w.reading id) = true ∨
        ((w.shownWith id o).total = (w.circuit id).settings.trialCalls ∧
          w.breachesWith id o (w.circuit id).settings.trialCalls = true)) ∧
        change = ⟨.halfOpen, .opened⟩) ∨
      ((w.episode id).state = .halfOpen ∧ (w.episode id).isOverdue (w.reading id) = false ∧
        (w.shownWith id o).total = (w.circuit id).settings.trialCalls ∧
        w.breachesWith id o (w.circuit id).settings.trialCalls = false ∧
        change = ⟨.halfOpen, .closed⟩) := by
  have records : (Operation.report id d r).Records w id o := ⟨d, r, rfl, outcome⟩
  have same {o' : Outcome} (h : (Operation.report id d r).Records w id o') : o' = o := by
    obtain ⟨d', r', eq, outcome'⟩ := h
    cases eq
    exact Option.some.inj (outcome'.symm.trans outcome)
  have asked : ¬(Operation.report id d r).Requests id := by
    rintro ⟨tries, eq | eq⟩
    · cases eq
    · cases eq
  constructor
  · intro h
    cases h with
    | trip closed records' breach =>
      obtain rfl := same records'
      exact .inl ⟨closed, breach, rfl⟩
    | probe _ requests | probeAgain _ requests => exact absurd requests asked
    | probeByTimer _ runs | relapseByTimer _ runs => exact runs.elim
    | relapse overdue =>
      exact .inr (.inl ⟨Episode.state_of_isOverdue overdue, .inl overdue, rfl⟩)
    | fail trial records' complete breach =>
      obtain rfl := same records'
      exact .inr (.inl ⟨trial, .inr ⟨complete, breach⟩, rfl⟩)
    | recover trial records' inTime complete passed =>
      obtain rfl := same records'
      exact .inr (.inr ⟨trial, inTime, complete, passed, rfl⟩)
  · rintro (⟨closed, breach, rfl⟩ | ⟨trial, overdue | ⟨complete, breach⟩, rfl⟩ |
      ⟨trial, inTime, complete, passed, rfl⟩)
    · exact .trip closed records breach
    · exact .relapse overdue (.inr ⟨o, records⟩)
    · exact .fail trial records complete breach
    · exact .recover trial records inTime complete passed

/-- Running the timer of an episode triggers what the episode ends in. -/
theorem triggers_of_timerRuns_iff (runs : w.TimerRuns id op) :
    w.Triggers id op change ↔
      ((w.episode id).state = .opened ∧ change = ⟨.opened, .halfOpen⟩) ∨
      ((w.episode id).state = .halfOpen ∧ change = ⟨.halfOpen, .opened⟩) := by
  have asked : ¬op.Requests id := fun requests => not_timerRuns_of_requests requests runs
  have recorded {o : Outcome} : ¬op.Records w id o := by
    rintro ⟨d, r, rfl, -⟩
    exact runs
  constructor
  · intro h
    cases h with
    | trip _ records | fail _ records | recover _ records => exact absurd records recorded
    | probe _ requests | probeAgain _ requests => exact absurd requests asked
    | probeByTimer opened => exact .inl ⟨opened, rfl⟩
    | relapseByTimer trial => exact .inr ⟨trial, rfl⟩
    | relapse _ occasion =>
      obtain requests | ⟨o, records⟩ := occasion
      · exact absurd requests asked
      · exact absurd records recorded
  · rintro (⟨opened, rfl⟩ | ⟨trial, rfl⟩)
    · exact .probeByTimer opened runs
    · exact .relapseByTimer trial runs

/-! ### What the kinds of operations make -/

/-- Changes of state that a breaker makes of itself, where nothing is done by hand. -/
theorem Makes.of_automatic {changes : List Transition}
    (triggered : ∀ change, change ∈ changes ↔ w.Triggers id op change) (once : changes.Nodup)
    (alone : ∀ target, op ≠ .force id target) (kept : op ≠ .reset id) :
    w.Makes id op (changes.map fun change => ⟨change, false⟩) where
  triggered := by
    intro change
    rw [← triggered]
    simp
  byHand := by
    intro change
    constructor
    · simp
    · rintro ⟨-, forced | ⟨reset, -⟩⟩
      · exact absurd forced (alone _)
      · exact absurd reset kept
  once := once.map fun _ _ eq => (Turn.mk.inj eq).1

theorem Makes.of_nothing (idle : ∀ change, ¬w.Triggers id op change)
    (alone : ∀ target, op ≠ .force id target) (kept : op ≠ .reset id) : w.Makes id op [] := by
  have none : ∀ change, change ∈ [] ↔ w.Triggers id op change := by simpa using idle
  exact .of_automatic none List.nodup_nil alone kept

/-- A change by hand is made and nothing else. -/
theorem Makes.of_hand {target : State}
    (byHand : op = .force id target ∨ op = .reset id ∧ target = .closed) :
    w.Makes id op [⟨⟨(w.episode id).state, target⟩, true⟩] where
  triggered := by
    intro change
    constructor
    · simp
    · intro h
      obtain ⟨tries, rfl | rfl⟩ | ⟨o, d, r, rfl, -⟩ | runs := h.occasion
      · obtain eq | ⟨eq, -⟩ := byHand <;> cases eq
      · obtain eq | ⟨eq, -⟩ := byHand <;> cases eq
      · obtain eq | ⟨eq, -⟩ := byHand <;> cases eq
      · obtain rfl | ⟨rfl, -⟩ := byHand
        · exact runs.elim
        · exact runs.elim
  byHand := by
    rintro ⟨source, target'⟩
    constructor
    · intro mem
      cases List.mem_singleton.mp mem
      exact ⟨rfl, byHand⟩
    · rintro ⟨rfl, hand⟩
      obtain rfl : target' = target := by
        obtain rfl | ⟨rfl, rfl⟩ := byHand
        · obtain eq | ⟨eq, -⟩ := hand
          · cases eq
            rfl
          · cases eq
        · obtain eq | ⟨-, eq⟩ := hand
          · cases eq
          · exact eq
      exact List.mem_singleton_self _
  once := List.nodup_singleton _

theorem not_byHand_of_requests (h : op.Requests id) :
    (∀ target, op ≠ .force id target) ∧ op ≠ .reset id := by
  obtain ⟨tries, rfl | rfl⟩ := h
  · simp
  · simp

/-- What is answered makes no turn after the episodes whose time was over. -/
theorem Asks.lapses {answer : Bool} {marks : List Mark} (asks : w.Asks id answer marks) :
    ∃ lapses e, Episode.Lapses (w.circuit id).settings (w.reading id) (w.episode id) lapses e ∧
      w.DrawsFirst id lapses ∧ (∀ target, e.request (w.reading id) ≠ .expired target) ∧
      (w.episode id).turns (w.circuit id).settings (w.reading id) marks
        = (w.episode id).turns (w.circuit id).settings (w.reading id) lapses := by
  obtain ⟨lapses, e, lapse, draws, ⟨-, ⟨taken, granted⟩, rfl⟩ | ⟨-, denied, rfl⟩⟩ := asks
  · refine ⟨lapses, e, lapse, draws, fun target => ?_, ?_⟩
    · rw [granted]
      rintro ⟨⟩
    · rw [Episode.turns_append]
      exact List.append_nil _
  · refine ⟨lapses, e, lapse, draws, fun target => ?_, ?_⟩
    · rw [denied]
      rintro ⟨⟩
    · rw [Episode.turns_append]
      exact List.append_nil _

/-- **A request** makes what it triggers. -/
theorem Asks.makes {answer : Bool} {marks : List Mark} (asks : w.Asks id answer marks)
    (requests : op.Requests id)
    (early : (w.circuit id).settings.trialLimit.isZero = false → w.reading id < wordMax) :
    w.Makes id op ((w.episode id).turns (w.circuit id).settings (w.reading id) marks) := by
  obtain ⟨alone, kept⟩ := not_byHand_of_requests requests
  obtain ⟨lapses, e, lapse, draws, settled, turns⟩ := asks.lapses
  have reached := lapse.course_eq
  rw [turns]
  obtain rfl | ⟨ended, wait, timer, rfl⟩ | ⟨overdue, wait, timer, shape⟩ := lapse.shape early
  · -- the current episode answered
    cases reached
    refine .of_nothing (fun change h => ?_) alone kept
    obtain ⟨ended, -⟩ | ⟨overdue, -⟩ := (triggers_of_requests_iff requests).mp h
    · exact settled _ (Episode.request_eq_expired_iff.mpr (.inl ⟨ended, rfl⟩))
    · exact settled _ (Episode.request_eq_expired_iff.mpr (.inr ⟨overdue, rfl⟩))
  · have opened := Episode.state_of_isWaitOver ended
    have inTime : (w.episode id).isOverdue (w.reading id) ≠ true := fun overdue => by
      rw [Episode.state_of_isOverdue overdue] at opened
      cases opened
    have made : w.Makes id op ([⟨.opened, .halfOpen⟩].map fun change => ⟨change, false⟩) := by
      refine .of_automatic (fun change => ?_) (List.nodup_singleton _) alone kept
      rw [triggers_of_requests_iff requests, List.mem_singleton]
      simp [ended, inTime]
    simpa [Mark.turn?, opened] using made
  · have trial := Episode.state_of_isOverdue overdue
    have waits : (w.episode id).isWaitOver (w.reading id) ≠ true := fun ended => by
      rw [Episode.state_of_isWaitOver ended] at trial
      cases trial
    have drawn {rest : List Mark} (first : lapses = .entered .opened wait false timer :: rest) :
        w.nextWait? id = .ok wait := by
      have drawn := draws wait false timer rest first
      rwa [trial] at drawn
    obtain rfl | ⟨none, wait', timer', rfl⟩ := shape
    · -- the next wait is not over at once
      have later : ¬later (w.reading id) wait.word ≤ w.reading id := fun none =>
        settled .halfOpen (reached ▸ Episode.request_opened_eq_expired_iff.mpr ⟨none, rfl⟩)
      have made : w.Makes id op ([⟨.halfOpen, .opened⟩].map fun change => ⟨change, false⟩) := by
        refine .of_automatic (fun change => ?_) (List.nodup_singleton _) alone kept
        rw [triggers_of_requests_iff requests, List.mem_singleton, drawn rfl]
        simp [overdue, waits, later]
      simpa [Mark.turn?, trial] using made
    · have made : w.Makes id op ([⟨.halfOpen, .opened⟩, ⟨.opened, .halfOpen⟩].map
          fun change => ⟨change, false⟩) := by
        refine .of_automatic (fun change => ?_) (by decide) alone kept
        rw [triggers_of_requests_iff requests, List.mem_pair, drawn rfl]
        simp [overdue, waits, none]
      have opened : ((w.episode id).after (w.circuit id).settings (w.reading id)
          (.entered .opened wait false timer)).state = .opened := Episode.next_state ..
      simpa [Mark.turn?, trial, opened] using made

/-- What an outcome asks for in a sound episode, said of what the window shows with it. -/
theorem followUp_observe_iff {o : Outcome}
    (sound : (w.episode id).Sound (w.circuit id).settings)
    (sized : (w.circuit id).settings.Sized) :
    ((∃ rates, ((w.episode id).observe (w.reading id) o).followUp (w.circuit id).settings
        (w.reading id) = some (.trip rates)) ↔
      ((w.episode id).state = .closed ∧
        w.breachesWith id o (w.circuit id).settings.effectiveMinimum = true) ∨
      ((w.episode id).state = .halfOpen ∧ ((w.episode id).isOverdue (w.reading id) = true ∨
        ((w.shownWith id o).total = (w.circuit id).settings.trialCalls ∧
          w.breachesWith id o (w.circuit id).settings.trialCalls = true)))) ∧
    (((w.episode id).observe (w.reading id) o).followUp (w.circuit id).settings (w.reading id)
        = some .close ↔
      (w.episode id).state = .halfOpen ∧ (w.episode id).isOverdue (w.reading id) = false ∧
        (w.shownWith id o).total = (w.circuit id).settings.trialCalls ∧
        w.breachesWith id o (w.circuit id).settings.trialCalls = false) := by
  have state : ((w.episode id).observe (w.reading id) o).state = (w.episode id).state := rfl
  have overdue : ((w.episode id).observe (w.reading id) o).isOverdue (w.reading id)
      = (w.episode id).isOverdue (w.reading id) := rfl
  have shown : ((w.episode id).observe (w.reading id) o).window.totals = w.shownWith id o := rfl
  have minimum (h : (w.episode id).state ≠ .opened) :
      ((w.episode id).observe (w.reading id) o).minimum
        = Episode.minimumOf (w.circuit id).settings (w.episode id).state := sound.minimum h
  -- a trial's window never shows more calls than the trial admits
  have most (trial : (w.episode id).state = .halfOpen) :
      (w.shownWith id o).total ≤ (w.circuit id).settings.trialCalls := by
    have after : ((w.episode id).observe (w.reading id) o).Sound (w.circuit id).settings :=
      sound.after sized (m := .recorded o) rfl
    obtain ⟨r, os, window, took⟩ := after.trial trial
    rw [← shown, window]
    exact took.total_le
  rw [Episode.followUp_eq_trip_iff, Episode.followUp_eq_close_iff, state, overdue, shown,
    Episode.rates, shown]
  constructor
  · refine or_congr (and_congr_right fun closed => ?_) (and_congr_right fun trial => ?_)
    · rw [minimum (by rw [closed]; decide), closed]
      rfl
    · refine or_congr Iff.rfl ?_
      rw [minimum (by rw [trial]; decide), trial]
      exact and_congr_left fun _ => ⟨fun least => Nat.le_antisymm (most trial) least, Eq.ge⟩
  · refine and_congr_right fun trial => and_congr_right fun _ => ?_
    rw [minimum (by rw [trial]; decide), trial]
    exact and_congr_left fun _ => ⟨fun least => Nat.le_antisymm (most trial) least, Eq.ge⟩

/-- **A report** makes what it triggers. -/
theorem Told.makes {d : Duration} {r : Report} {marks : List Mark} (told : w.Told id d r marks)
    (sound : (w.episode id).Sound (w.circuit id).settings)
    (sized : (w.circuit id).settings.Sized) :
    w.Makes id (.report id d r)
      ((w.episode id).turns (w.circuit id).settings (w.reading id) marks) := by
  have alone (target : State) : Operation.report id d r ≠ .force id target := by
    rintro ⟨⟩
  have kept : Operation.report id d r ≠ .reset id := by
    rintro ⟨⟩
  unfold Told at told
  split at told
  case h_2 ignored =>
    subst told
    refine .of_nothing (fun change h => ?_) alone kept
    obtain ⟨tries, eq | eq⟩ | ⟨o, d', r', eq, recorded⟩ | runs := h.occasion
    · cases eq
    · cases eq
    · cases eq
      rw [ignored] at recorded
      cases recorded
    · exact runs
  case h_1 o outcome =>
    obtain ⟨trips, closes⟩ := followUp_observe_iff (o := o) sound sized
    -- an outcome that asks for no change of state triggers none
    have nothing
        (trip : ∀ rates, ((w.episode id).observe (w.reading id) o).followUp
          (w.circuit id).settings (w.reading id) ≠ some (.trip rates))
        (close : ((w.episode id).observe (w.reading id) o).followUp (w.circuit id).settings
          (w.reading id) ≠ some .close) : w.Makes id (.report id d r) [] := by
      refine .of_nothing (fun change h => ?_) alone kept
      obtain ⟨closed, breach, -⟩ | ⟨trial, decided, -⟩ | ⟨trial, inTime, complete, passed, -⟩ :=
        (triggers_report_iff outcome).mp h
      · obtain ⟨rates, asks⟩ := trips.mpr (.inl ⟨closed, breach⟩)
        exact trip rates asks
      · obtain ⟨rates, asks⟩ := trips.mpr (.inr ⟨trial, decided⟩)
        exact trip rates asks
      · exact close (closes.mpr ⟨trial, inTime, complete, passed⟩)
    cases told with
    | alone h => exact nothing (by simp [h]) (by simp [h])
    | told h => exact nothing (by simp [h]) (by simp [h])
    | @tripped rates h wait timer =>
      have made : w.Makes id (.report id d r)
          ([⟨(w.episode id).state, .opened⟩].map fun change => ⟨change, false⟩) := by
        refine .of_automatic (fun change => ?_) (List.nodup_singleton _) alone kept
        rw [triggers_report_iff outcome, List.mem_singleton]
        obtain ⟨closed, breach⟩ | ⟨trial, decided⟩ := trips.mp ⟨rates, h⟩
        · simp [closed, breach]
        · -- one outcome cannot both fail a trial and pass it
          rw [trial]
          constructor
          · rintro rfl
            exact .inr (.inl ⟨rfl, decided, rfl⟩)
          · rintro (⟨⟨⟩, -⟩ | ⟨-, -, eq⟩ | ⟨-, inTime, complete, passed, -⟩)
            · exact eq
            · have close := closes.mpr ⟨trial, inTime, complete, passed⟩
              rw [h] at close
              cases close
      exact made
    | passed h wait timer =>
      obtain ⟨trial, inTime, complete, passed⟩ := closes.mp h
      have made : w.Makes id (.report id d r)
          ([⟨(w.episode id).state, .closed⟩].map fun change => ⟨change, false⟩) := by
        refine .of_automatic (fun change => ?_) (List.nodup_singleton _) alone kept
        rw [triggers_report_iff outcome, List.mem_singleton]
        simp [trial, inTime, complete, passed]
      exact made

/-- **Whatever an operation is**, it makes what it triggers, provided that no wait function gives up. -/
theorem Undergoes.makes {answer : Answer} {marks : List Mark}
    (undergoes : w.Undergoes id op answer marks)
    (waits : ∀ cause, ¬(w.circuit id).settings.WaitFails cause)
    (early : (w.circuit id).settings.trialLimit.isZero = false → w.reading id < wordMax)
    (sound : (w.episode id).Sound (w.circuit id).settings)
    (sized : (w.circuit id).settings.Sized) :
    w.Makes id op ((w.episode id).turns (w.circuit id).settings (w.reading id) marks) := by
  have other (off : op.circuit? ≠ some id) :
      (∀ target, op ≠ .force id target) ∧ op ≠ .reset id := by
    constructor
    · rintro target rfl
      exact off rfl
    · rintro rfl
      exact off rfl
  cases undergoes with
  | does does =>
    cases does with
    | request asks => exact asks.makes ⟨_, .inl rfl⟩ early
    | acquired asks | refused asks => exact asks.makes ⟨_, .inr rfl⟩ early
    | report told => exact told.makes sound sized
    | release | metrics =>
      refine .of_nothing (fun change h => ?_) (by simp) (by simp)
      obtain ⟨tries, eq | eq⟩ | ⟨o, d, r, eq, -⟩ | runs := h.occasion
      · cases eq
      · cases eq
      · cases eq
      · exact runs
    | force target wait => exact .of_hand (.inl rfl)
    | reset => exact .of_hand (.inr ⟨rfl, rfl⟩)
  | @moved runs due target timeout wait timer =>
    obtain ⟨alone, kept⟩ := other runs.off
    have made : w.Makes id op
        ([⟨(w.episode id).state, target⟩].map fun change => ⟨change, false⟩) := by
      refine .of_automatic (fun change => ?_) (List.nodup_singleton _) alone kept
      rw [triggers_of_timerRuns_iff runs, List.mem_singleton]
      obtain ⟨state, rfl⟩ | ⟨state, rfl⟩ := Episode.timeout_eq timeout
      · simp [state]
      · simp [state]
    exact made
  | spared off idle =>
    obtain ⟨alone, kept⟩ := other off
    refine .of_nothing (fun change h => ?_) alone kept
    obtain ⟨tries, rfl | rfl⟩ | ⟨o, d, r, rfl, -⟩ | runs := h.occasion
    · exact off rfl
    · exact off rfl
    · exact off rfl
    · exact idle runs
  | muffled off fails =>
    obtain ⟨cause, fails⟩ := fails
    exact absurd fails (waits cause)

end Kinds

/-- **The changes of state of a circuit.**  In every reachable world, an operation is carried out, and
the changes of state that it makes at a circuit are those that it triggers and those made by hand.
They lead from the state before to the state after, and a breaker makes them of itself only while it is
closed, open or half open, and only on a request, a report that is recorded, or its own timer. -/
theorem run_makes {react : CircuitId → React γ} (quiet : ∀ id, Quiet (react id)) {w : World γ}
    (reachable : w.Reachable) {id : CircuitId} (there : id < w.circuits.size) (op : Operation)
    (waits : ∀ i cause, ¬(w.circuit i).settings.WaitFails cause)
    (classified : ∀ i d r cause, op = .report i d r →
      ((w.circuit i).verdict d r).observe.1 ≠ .error cause)
    (patient : ∀ i tries, op = .request i tries ∨ op = .acquire i tries → 3 ≤ tries)
    (early : ∀ i, (w.circuit i).settings.trialLimit.isZero = false → w.reading i < wordMax) :
    ∃ answer after turns, op.run react w = .ok answer after ∧
      turns = Journal.turnsOf id (after.entriesSince w) ∧ w.Makes id op turns ∧
      Turn.Path (w.episode id).state turns (after.episode id).state ∧
      ∀ turn ∈ turns, turn.manual = false →
        ((w.episode id).state = .closed ∨ (w.episode id).state = .opened ∨
          (w.episode id).state = .halfOpen) ∧
        (op.Requests id ∨ (∃ o, op.Records w id o) ∨ w.TimerRuns id op) := by
  have sound := reachable.sound
  -- nothing of the user's gives up, and three tries are enough for the two edges of a request
  have completes (cause : Abort) : ¬w.MayFail op cause := by
    rintro (⟨i, fails⟩ | ⟨i, d, r, eq, fails⟩ | ⟨i, tries, lapses, e, asks, -, lapse, spent⟩)
    · exact waits i cause fails
    · exact classified i d r cause eq fails
    · have enough := patient i tries asks
      have few := lapse.length_le (early i)
      omega
  obtain ⟨answer, after, run, -, marks, course, undergoes⟩ :=
    ((op.yields_undergoes quiet sound there).mono (fun _ _ h => h)
      fun cause _ fails => completes cause fails).exists_ok
  have makes := undergoes.makes (waits id) (early id) (sound.episodes id) (sound.sized id)
  rw [← course.turnsOf_entriesSince] at makes
  refine ⟨answer, after, _, run, rfl, makes, ?_, ?_⟩
  · rw [course.turnsOf_entriesSince, course.episode]
    exact Episode.path_turns _ marks
  · rintro ⟨change, manual⟩ mem rfl
    have triggers := (makes.triggered change).mp mem
    exact ⟨triggers.state, triggers.occasion⟩

/-- A breaker that needs one call opens at a failure. -/
theorem run_makes_trip :
    ∃ c : Circuit, (Blueprint.ofChoices "" [.calls 2, .minimumCalls 1]).build
        (World.empty 0 ⟨0⟩ ()) = .ok c ∧
      ∃ answer after, (Operation.report 0 .zero (.error .unit)).run (fun _ => .silent)
          ((World.empty 0 ⟨0⟩ ()).addCircuit c) = .ok answer after ∧
        ⟨⟨.closed, .opened⟩, false⟩ ∈ Journal.turnsOf 0
          (after.entriesSince ((World.empty 0 ⟨0⟩ ()).addCircuit c)) := by
  obtain ⟨c, built, backoff, limit, verdict, outcome, breach⟩ : ∃ c : Circuit,
      (Blueprint.ofChoices "" [.calls 2, .minimumCalls 1]).build (World.empty 0 ⟨0⟩ ()) = .ok c ∧
      c.settings.backoff = .fixed (.ofSeconds 60) ∧ c.settings.trialLimit.isZero = true ∧
      (c.verdict .zero (.error .unit)).observe.1 = .ok .failure ∧
      c.outcome? .zero (.error .unit) = some ⟨true, false, .zero⟩ ∧
      ((World.empty 0 ⟨0⟩ ()).addCircuit c).breachesWith 0 ⟨true, false, .zero⟩
        c.settings.effectiveMinimum = true := ⟨_, rfl, rfl, rfl, rfl, rfl, by decide +kernel⟩
  obtain ⟨-, begun⟩ := Blueprint.build_ok built
  have self : ((World.empty 0 ⟨0⟩ ()).addCircuit c).circuit 0 = c := circuit_addCircuit_self ..
  have blank {i : CircuitId} (h : i ≠ 0) :
      ((World.empty 0 ⟨0⟩ ()).addCircuit c).circuit i = .blank :=
    (circuit_addCircuit_of_ne _ c h).trans (circuit_of_size_le _ (Nat.zero_le i))
  have waits (i : CircuitId) (cause : Abort) :
      ¬(((World.empty 0 ⟨0⟩ ()).addCircuit c).circuit i).settings.WaitFails cause := by
    intro fails
    obtain ⟨wait?, remarks, policy⟩ := fails.custom
    by_cases first : i = 0
    · rw [first, self, backoff] at policy
      cases policy
    · rw [blank first] at policy
      cases policy
  have unlimited (i : CircuitId) :
      (((World.empty 0 ⟨0⟩ ()).addCircuit c).circuit i).settings.trialLimit.isZero = true := by
    by_cases first : i = 0
    · rw [first, self, limit]
    · rw [blank first]
      rfl
  have classified (i : CircuitId) (d : Duration) (r : Report) (cause : Abort)
      (eq : Operation.report 0 .zero (.error .unit) = .report i d r) :
      ((((World.empty 0 ⟨0⟩ ()).addCircuit c).circuit i).verdict d r).observe.1
        ≠ .error cause := by
    cases eq
    rw [self, verdict]
    rintro ⟨⟩
  obtain ⟨answer, after, turns, run, rfl, makes, -⟩ :=
    run_makes (fun _ => Quiet.silent) ⟨0, ⟨0⟩, (), (Move.build _ _ built).reaches⟩
      (Nat.zero_lt_one : 0 < ((World.empty 0 ⟨0⟩ ()).addCircuit c).circuits.size)
      (.report 0 .zero (.error .unit)) waits classified
      (fun i tries asks => by obtain eq | eq := asks <;> cases eq)
      fun i limited => by rw [unlimited i] at limited; cases limited
  have closed : (((World.empty 0 ⟨0⟩ ()).addCircuit c).episode 0).state = .closed := by
    rw [episode, self, begun]
    rfl
  have records : (Operation.report 0 .zero (.error .unit)).Records
      ((World.empty 0 ⟨0⟩ ()).addCircuit c) 0 ⟨true, false, .zero⟩ :=
    ⟨.zero, .error .unit, rfl, by rw [self, outcome]⟩
  have tripped := Triggers.trip closed records (by rw [self, breach])
  exact ⟨c, built, answer, after, run, (makes.triggered _).mpr tripped⟩

end World

end Breaker

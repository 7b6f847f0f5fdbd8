import Breaker.Proofs.World.Trial

/-!
# Unattended — a circuit that is only asked and told

A circuit is unattended along a stretch of its history if nobody moves it by hand and its timer does not run
(`Unattended`).  Requests may find the time of an episode over, outcomes may be recorded past a deadline, a
report may be given up by the classifier, and the clock may be set to any reading in between.  The outcomes
recorded on the way are listed, and the changes of state that the journal tells of.

`Unattended.first` is the rule for such a stretch: what marks that stay preserve, and reports that ask for
nothing, holds until the first change of state, and that change is of a kind if every change is that a report
or the time asks for.
-/

namespace Breaker

variable {γ : Type}

/-- **A report that is given up while it is classified** leaves remarks of the classifier and nothing
else. -/
theorem Operation.yields_unread {react : CircuitId → React γ} {w : World γ} {id : CircuitId}
    {d : Duration} {r : Report} {cause : Abort}
    (unread : ((w.circuit id).verdict d r).observe.1 = .error cause) :
    Yields ((Operation.report id d r).run react) w
      (fun answer after => answer = .noCircuit ∧ ¬id < w.circuits.size ∧ after = w)
      fun cause' after => cause' = cause ∧ id < w.circuits.size ∧ w.Asked after := by
  unfold run onCircuit
  simp only [yields_bind, yields_get, yields_ite, yields_pure]
  split
  case isTrue there =>
    refine yields_tell (fun verdict o after counted => ?_) (fun after counted => ?_)
      fun cause' after gaveUp asked => ?_
    · rw [unread] at counted
      cases counted
    · rw [unread] at counted
      cases counted
    · rw [unread] at gaveUp
      exact ⟨(Except.error.inj gaveUp).symm, there, asked⟩
  case isFalse absent => exact ⟨trivial, absent, trivial⟩

/-- Marks that stay make no change of state. -/
theorem Episode.turns_of_stay {s : Settings} {now : Nat} {marks : List Mark}
    (stay : ∀ m ∈ marks, m.stays = true) (e : Episode) : e.turns s now marks = [] := by
  have grows : (e.course s now marks).number = _ := number_course e marks
  rw [(keeps_course stay e).number] at grows
  exact List.eq_nil_of_length_eq_zero (Nat.left_eq_add.mp grows)

/-- A stretch of the history of a circuit in which nobody moves it by hand and its timer does not run, with
the outcomes recorded and the changes of state made there.  What is done with the circuit is done at moments
of a kind, said by the reading and the current episode. -/
inductive Unattended (react : CircuitId → React γ) (id : CircuitId) (moment : Nat → Episode → Prop)
    (w₀ : World γ) : World γ → List Outcome → List Turn → Prop where
  | start : Unattended react id moment w₀ w₀ [] []
  | operation {w w' : World γ} {os : List Outcome} {turns : List Turn}
      (h : Unattended react id moment w₀ w os turns) (op : Operation) {answer : Answer}
      (run : op.run react w = .ok answer w') (unforced : ∀ target, op ≠ .force id target)
      (kept : op ≠ .reset id) (idle : ¬w.TimerRuns id op)
      (now : op.circuit? = some id → moment (w.reading id) (w.episode id)) :
      Unattended react id moment w₀ w' (os ++ (op.reported? w id).toList)
        (turns ++ Journal.turnsOf id (w'.entriesSince w))
  /-- A report is given up by the classifier. -/
  | unread {w w' : World γ} {os : List Outcome} {turns : List Turn}
      (h : Unattended react id moment w₀ w os turns) {i : CircuitId} {d : Duration} {r : Report}
      {cause cause' : Abort} (gaveUp : ((w.circuit i).verdict d r).observe.1 = .error cause)
      (run : (Operation.report i d r).run react w = .error cause' w') :
      Unattended react id moment w₀ w' os turns
  | time {w : World γ} {os : List Outcome} {turns : List Turn}
      (h : Unattended react id moment w₀ w os turns) (clock : Clock) (elapsed : Nat) :
      Unattended react id moment w₀ { w with clock := clock, elapsed := elapsed } os turns

namespace World

variable {w : World γ} {id : CircuitId}

/-- A request marks what stays, or finds the time of the current episode over. -/
theorem Asks.stays_or_lapses {answer : Bool} {marks : List Mark} (h : w.Asks id answer marks) :
    (∀ m ∈ marks, m.stays = true ∧ m.outcome? = none) ∨
      ∃ target wait timer rest, (w.episode id).request (w.reading id) = .expired target ∧
        marks = .entered target wait false timer :: rest := by
  obtain ⟨lapses, e, lapse, -, answered⟩ := h
  cases lapse with
  | refl =>
    left
    obtain ⟨-, -, rfl⟩ | ⟨-, -, rfl⟩ := answered
    · simp [Mark.stays, Mark.outcome?]
    · simp [Mark.stays, Mark.outcome?]
  | @more _ _ target wait timer lapses expired rest =>
    right
    obtain ⟨-, -, rfl⟩ | ⟨-, -, rfl⟩ := answered
    · exact ⟨target, wait, timer, _, expired, rfl⟩
    · exact ⟨target, wait, timer, _, expired, rfl⟩

/-- **What becomes of a circuit that is not moved** by an operation: an outcome with what follows from it,
marks that stay, or a change of state because the time of its episode is over. -/
theorem Undergoes.unattended {op : Operation} {answer : Answer} {marks : List Mark}
    (h : w.Undergoes id op answer marks) (unforced : ∀ target, op ≠ .force id target)
    (kept : op ≠ .reset id) (idle : ¬w.TimerRuns id op) :
    (∃ o, op.reported? w id = some o ∧ op.circuit? = some id ∧
        Episode.Reports (w.circuit id).settings (w.reading id) (w.episode id) o marks) ∨
      (op.reported? w id = none ∧ ∀ m ∈ marks, m.stays = true ∧ m.outcome? = none) ∨
      (op.reported? w id = none ∧ op.circuit? = some id ∧ ∃ target wait timer rest,
        (w.episode id).request (w.reading id) = .expired target ∧
          marks = .entered target wait false timer :: rest) := by
  cases h with
  | does does =>
    cases does with
    | request asks | acquired asks | refused asks =>
      obtain stay | lapses := asks.stays_or_lapses
      · exact .inr (.inl ⟨rfl, stay⟩)
      · exact .inr (.inr ⟨rfl, rfl, lapses⟩)
    | @report d r marks told =>
      have reported : (Operation.report id d r).reported? w id = (w.circuit id).outcome? d r :=
        if_pos rfl
      rw [reported]
      unfold Told at told
      split at told
      case h_1 o outcome => exact .inl ⟨o, outcome, rfl, told⟩
      case h_2 ignored =>
        subst told
        exact .inr (.inl ⟨ignored, by simp [Mark.stays, Mark.outcome?]⟩)
    | release | metrics => exact .inr (.inl ⟨rfl, by simp [Mark.stays, Mark.outcome?]⟩)
    | force target => exact absurd rfl (unforced target)
    | reset => exact absurd rfl kept
  | moved runs => exact absurd runs idle
  | spared off | muffled off => exact .inr (.inl ⟨Operation.reported?_of_off off, by simp⟩)

end World

namespace Unattended

variable {react : CircuitId → React γ} {id : CircuitId} {moment : Nat → Episode → Prop}
  {w₀ w : World γ} {os : List Outcome} {turns : List Turn}

/-- **Until the first change of state** holds what marks that stay preserve, and outcomes that ask for
nothing; and that change is of a kind if every change is that an outcome or the time asks for. -/
theorem first (quiet : ∀ id, Quiet (react id)) (sound : w₀.Sound) (there : id < w₀.circuits.size)
    {P : Episode → List Outcome → Prop} {T : Turn → Prop} {good : Outcome → Prop}
    (mark : ∀ (now : Nat) (e : Episode) (os : List Outcome) (m : Mark), m.stays = true →
      m.outcome? = none → P e os → P (e.after (w₀.circuit id).settings now m) os)
    (report : ∀ (now : Nat) (e : Episode) (os : List Outcome) (o : Outcome) (marks : List Mark),
      moment now e → (∀ other ∈ os ++ [o], good other) →
      Episode.Reports (w₀.circuit id).settings now e o marks → P e os →
      (e.turns (w₀.circuit id).settings now marks = [] ∧
          P (e.course (w₀.circuit id).settings now marks) (os ++ [o])) ∨
        ∃ t, e.turns (w₀.circuit id).settings now marks = [t] ∧ T t)
    (lapse : ∀ (now : Nat) (e : Episode) (os : List Outcome) (target : State), moment now e →
      e.request now = .expired target → P e os → T ⟨⟨e.state, target⟩, false⟩)
    (start : P (w₀.episode id) []) (run : Unattended react id moment w₀ w os turns)
    (all : ∀ o ∈ os, good o) :
    w.Sound ∧ id < w.circuits.size ∧ (w.circuit id).settings = (w₀.circuit id).settings ∧
      ((turns = [] ∧ P (w.episode id) os) ∨ ∃ t rest, turns = t :: rest ∧ T t) := by
  induction run with
  | start => exact ⟨sound, there, rfl, .inl ⟨rfl, start⟩⟩
  | @operation w w' os turns _ op answer run unforced kept idle now ih =>
    obtain ⟨sound, there, settings, holds⟩ := ih fun o mem => all o (List.mem_append_left _ mem)
    obtain ⟨reaches, marks, course, undergoes⟩ :=
      (op.yields_undergoes quiet sound there).of_ok run
    refine ⟨reaches.sound sound, Nat.lt_of_lt_of_le there course.size,
      course.settings.trans settings, ?_⟩
    obtain ⟨rfl, holds⟩ | ⟨t, rest, rfl, kind⟩ := holds
    · rw [List.nil_append, course.turnsOf_entriesSince, course.episode, settings]
      have cases := undergoes.unattended unforced kept idle
      rw [settings] at cases
      obtain ⟨o, reported, on, reports⟩ | ⟨unreported, stay⟩ |
        ⟨unreported, on, target, wait, timer, rest, expired, rfl⟩ := cases
      · rw [reported] at all ⊢
        obtain ⟨none, holds⟩ | ⟨t, one, kind⟩ := report _ _ os o marks (now on) all reports holds
        · exact .inl ⟨none, holds⟩
        · exact .inr ⟨t, [], one, kind⟩
      · rw [unreported, Option.toList_none, List.append_nil]
        left
        refine ⟨?_, ?_⟩
        · exact Episode.turns_of_stay (fun m mem => (stay m mem).1) _
        · exact Episode.course_preserves (P := fun e : Episode => P e os)
            (fun m mem e => mark _ e os m (stay m mem).1 (stay m mem).2) holds
      · exact .inr ⟨_, _, rfl, lapse _ _ os target (now on) expired holds⟩
    · exact .inr ⟨t, _, rfl, kind⟩
  | @unread w w' os turns _ i d r cause cause' gaveUp run ih =>
    obtain ⟨sound, there, settings, holds⟩ := ih all
    obtain ⟨-, -, asked⟩ := (Operation.yields_unread gaveUp).of_error run
    have aside := asked.aside
    refine ⟨aside.reaches.sound sound, by rwa [aside.circuits], ?_, ?_⟩
    · rw [aside.circuit, settings]
    · rwa [aside.episode]
  | @time w os turns _ clock elapsed ih =>
    obtain ⟨sound, rest⟩ := ih all
    exact ⟨(World.Move.time w clock elapsed).sound sound, rest⟩

/-- A report that is recorded. -/
theorem report (h : Unattended react id moment w₀ w os turns) {d : Duration} {r : Report} {o : Outcome}
    {answer : Answer} {w' : World γ} (run : (Operation.report id d r).run react w = .ok answer w')
    (outcome : (w.circuit id).outcome? d r = some o) (now : moment (w.reading id) (w.episode id)) :
    Unattended react id moment w₀ w' (os ++ [o]) (turns ++ Journal.turnsOf id (w'.entriesSince w)) := by
  have reported : (Operation.report id d r).reported? w id = some o := by
    rw [Operation.reported?, if_pos rfl, outcome]
  have unforced (target : State) : Operation.report id d r ≠ .force id target := by
    intro same
    cases same
  have kept : Operation.report id d r ≠ .reset id := by
    intro same
    cases same
  have told := h.operation _ run unforced kept (fun runs => runs) fun _ => now
  rwa [reported] at told

end Unattended

end Breaker

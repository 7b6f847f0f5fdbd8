import Breaker.Proofs.Episode.Edges
import Breaker.Proofs.Window.Agree

/-!
# Account — metrics as a function of what happened

An `Account` is kept without windows and episodes.  It starts over with every change of state but a
breaker's own opening (`Turn.isFresh`), and since then it lists the outcomes that were reported, at
their readings, and counts the requests that were denied.  `Account.metrics` feeds a new window with
those outcomes and reads it.

An episode tallies with an account (`Episode.Tallies`) if it shows the metrics of the account from the
reading on.  Each mark keeps it so, when the account is told of the incident that the mark stands for
(`Tallies.after`), and so do marks one after another (`Tallies.course`).
-/

namespace Breaker

/-- What metrics depend on. -/
inductive Incident where
  | reported (now : Nat) (o : Outcome)
  | turned (now : Nat) (turn : Turn)
  | denied
  deriving DecidableEq

/-- Whether metrics start over with a change of state. -/
def Turn.isFresh (t : Turn) : Bool :=
  t.manual || t.change.target = .halfOpen || t.change.target = .closed

/-- A breaker's own opening is the only change of state with which metrics do not start over. -/
theorem Turn.IsProper.isFresh {t : Turn} (proper : t.IsProper)
    (h : ¬(t.change.target = .opened ∧ t.manual = false)) : t.isFresh = true := by
  obtain ⟨⟨source, target⟩, manual⟩ := t
  cases manual with
  | true => rfl
  | false =>
    obtain byHand | edge := proper
    · cases byHand
    · cases edge with
      | trip | relapse => exact absurd ⟨rfl, rfl⟩ h
      | probe | recover => rfl

/-- What happened since metrics last started over. -/
structure Account where
  state : State
  enteredAt : Nat
  /-- The outcomes reported, each at its reading. -/
  outcomes : List (Nat × Outcome)
  /-- The requests denied. -/
  denials : Nat

namespace Account

/-- An account that starts over when a state is entered. -/
def start (state : State) (now : Nat) : Account := ⟨state, now, [], 0⟩

/-- Adds an incident. -/
def add (a : Account) : Incident → Account
  | .reported now o => { a with outcomes := a.outcomes ++ [(now, o)] }
  | .turned now turn => if turn.isFresh then start turn.change.target now else a
  | .denied => { a with denials := a.denials + 1 }

/-- Adds incidents in order. -/
def addAll (a : Account) (incidents : List Incident) : Account := incidents.foldl add a

/-- The account of a breaker that was built at a reading. -/
def ofIncidents (built : Nat) (incidents : List Incident) : Account :=
  (start .closed built).addAll incidents

variable (s : Settings)

/-- A new window of the kind that the state calls for. -/
def newWindow (a : Account) : Window :=
  match a.state with
  | .halfOpen => .ofKind .count s.trialCalls a.enteredAt
  | .disabled => .idle
  | _ => .ofKind s.windowKind s.windowSize a.enteredAt

/-- A new window fed with the outcomes. -/
def window (a : Account) : Window :=
  a.outcomes.foldl (fun w r => w.record r.1 r.2) (a.newWindow s)

/-- The calls needed before rates are measured. -/
def minimum (a : Account) : Nat :=
  if a.state = .halfOpen then s.trialCalls else s.effectiveMinimum

/-- The metrics at a reading. -/
def metrics (a : Account) (now : Nat) : Metrics :=
  let shown := ((a.window s).settle now).totals
  ⟨Rates.of shown (a.minimum s), shown, a.denials⟩

variable {s} {a : Account}

theorem addAll_append (a : Account) (incidents incidents' : List Incident) :
    a.addAll (incidents ++ incidents') = (a.addAll incidents).addAll incidents' :=
  List.foldl_append

theorem window_reported (a : Account) (now : Nat) (o : Outcome) :
    (a.add (.reported now o)).window s = (a.window s).record now o := by
  rw [window, add, List.foldl_append]
  rfl

theorem window_start (state : State) (now : Nat) :
    (start state now).window s = Episode.freshWindow s state now := by
  cases state with
  | closed | opened | halfOpen | disabled | forcedOpen | metricsOnly => rfl

/-- Nothing is recorded while disabled. -/
theorem window_of_disabled (h : a.state = .disabled) : a.window s = .idle := by
  have idle : a.newWindow s = .idle := by rw [newWindow, h]
  rw [window, idle]
  induction a.outcomes with
  | nil => rfl
  | cons r outcomes ih => exact ih

end Account

/-- The incident that a mark stands for, out of a state. -/
def Mark.incident? (now : Nat) (source : State) : Mark → Option Incident
  | .refused => some .denied
  | .recorded o => some (.reported now o)
  | .entered target _ manual _ => some (.turned now ⟨⟨source, target⟩, manual⟩)
  | .granted | .released | .told | .settled => none

namespace Episode

variable (s : Settings) (now : Nat)

/-- The incidents that some marks stand for. -/
def incidents (e : Episode) : List Mark → List Incident
  | [] => []
  | m :: marks => (m.incident? now e.state).toList ++ incidents (e.after s now m) marks

@[simp] theorem incidents_nil (e : Episode) : e.incidents s now [] = [] := rfl

@[simp] theorem incidents_cons (e : Episode) (m : Mark) (marks : List Mark) :
    e.incidents s now (m :: marks)
      = (m.incident? now e.state).toList ++ (e.after s now m).incidents s now marks := rfl

theorem incidents_append (e : Episode) (marks marks' : List Mark) :
    e.incidents s now (marks ++ marks')
      = e.incidents s now marks ++ (e.course s now marks).incidents s now marks' := by
  induction marks generalizing e with
  | nil => rfl
  | cons m marks ih =>
    rw [List.cons_append, incidents_cons, incidents_cons, ih, course_cons, List.append_assoc]

/-- An episode shows the metrics of an account, from a reading on. -/
structure Tallies (e : Episode) (a : Account) : Prop where
  minimum : e.minimum = minimumOf s a.state
  rejected : e.rejected = a.denials
  window : Window.Agree now e.window (a.window s)

variable {s now} {e : Episode} {a : Account}

/-- A fresh window agrees with itself. -/
theorem agree_freshWindow (sized : s.Sized) (state : State) (now : Nat) :
    Window.Agree now (freshWindow s state now) (freshWindow s state now) := by
  cases state with
  | halfOpen => exact .calls _
  | disabled => exact .idle
  | closed | opened | forcedOpen | metricsOnly => exact .ofKind _ sized.1 now

namespace Tallies

theorem mono {later : Nat} (h : Tallies s now e a) (le : now ≤ later) : Tallies s later e a :=
  ⟨h.minimum, h.rejected, h.window.mono le⟩

/-- A new episode tallies with an account that starts over. -/
theorem of_begin (sized : s.Sized) (number attempts : Nat)
    (phase : Phase) : Tallies s now (begin s number attempts now phase) (.start phase.state now) where
  minimum := rfl
  rejected := rfl
  window := by
    rw [Account.window_start]
    exact agree_freshWindow sized phase.state now

/-- What an episode tallies by is what it shows of its calls. -/
theorem of_eq {e' : Episode} (h : Tallies s now e a) (minimum : e'.minimum = e.minimum)
    (rejected : e'.rejected = e.rejected) (window : e'.window = e.window) : Tallies s now e' a :=
  ⟨by rw [minimum, h.minimum], by rw [rejected, h.rejected], by rw [window]; exact h.window⟩

/-- **An episode that tallies shows the metrics of the account.** -/
theorem metrics_eq (h : Tallies s now e a) : (e.settle now).metrics = a.metrics s now := by
  have shown : (e.window.settle now).totals = ((a.window s).settle now).totals := h.window.totals_eq
  have rates : Rates.of ((a.window s).settle now).totals (minimumOf s a.state)
      = Rates.of ((a.window s).settle now).totals (a.minimum s) := by
    by_cases disabled : a.state = .disabled
    · -- no call is shown, so that no rate is measured whatever the minimum is
      rw [Account.window_of_disabled disabled]
      rfl
    · have same : minimumOf s a.state = a.minimum s := by
        rw [Account.minimum]
        cases state : a.state with
        | disabled => exact absurd state disabled
        | closed | opened | halfOpen | forcedOpen | metricsOnly => rfl
      rw [same]
  rw [metrics, Episode.rates, settle, Account.metrics]
  simp only [shown, h.minimum, rates, h.rejected]

/-- **One mark**: the episode after it tallies with the account that was told of it. -/
theorem after (h : Tallies s now e a) (sized : s.Sized) (m : Mark)
    (proper : ∀ t ∈ m.turn? e.state, t.IsProper) :
    Tallies s now (e.after s now m) (a.addAll (m.incident? now e.state).toList) := by
  cases m with
  | granted =>
    rw [Episode.after]
    split
    case h_1 taken granted =>
      obtain rfl | ⟨permits, left, deadline, -, -, rfl⟩ := request_granted granted
      · exact h
      · exact h.of_eq rfl rfl rfl
    case h_2 => exact h
  | released =>
    rw [Episode.after, release]
    split
    · exact h.of_eq rfl rfl rfl
    · exact h
  | told =>
    rw [Episode.after, noteTold]
    split
    · exact h.of_eq rfl rfl rfl
    · exact h
  | refused => exact ⟨h.minimum, congrArg (· + 1) h.rejected, h.window⟩
  | settled => exact ⟨h.minimum, h.rejected, h.window.settle_left⟩
  | recorded o =>
    refine ⟨h.minimum, h.rejected, ?_⟩
    show Window.Agree now (e.window.record now o) ((a.add (.reported now o)).window s)
    rw [Account.window_reported]
    exact h.window.record o
  | entered target wait manual timer =>
    show Tallies s now _ (a.add (.turned now ⟨⟨e.state, target⟩, manual⟩))
    by_cases trip : target = .opened ∧ manual = false
    · -- what tripped the breaker stays on the account
      obtain ⟨rfl, rfl⟩ := trip
      exact h.of_eq rfl rfl rfl
    · have fresh : Turn.isFresh ⟨⟨e.state, target⟩, manual⟩ = true := (proper _ rfl).isFresh trip
      have begun : Tallies s now (e.next s now target wait manual) (.start target now) := by
        rw [next_of_fresh trip]
        have begun : Tallies s now _ _ := of_begin sized (e.number + 1)
          (attemptsOnEntry e.state e.attempts target manual) (phaseOf s target now wait)
        rwa [phaseOf_state] at begun
      rw [Account.add, if_pos fresh]
      exact begun.of_eq rfl rfl rfl

/-- **Marks one after another** keep an episode in tally. -/
theorem course (h : Tallies s now e a) (sized : s.Sized)
    (marks : List Mark) (proper : ∀ t ∈ e.turns s now marks, t.IsProper) :
    Tallies s now (e.course s now marks) (a.addAll (e.incidents s now marks)) := by
  induction marks generalizing e a with
  | nil => exact h
  | cons m marks ih =>
    rw [turns_cons] at proper
    rw [course_cons, incidents_cons, Account.addAll_append]
    refine ih (h.after sized m fun t mem => ?_) fun t mem => ?_
    · exact proper t (List.mem_append_left _ (Option.mem_toList.mpr mem))
    · exact proper t (List.mem_append_right _ mem)

end Tallies

/-! ### What the incidents are -/

/-- Requests that find the time over are changes of state and nothing else. -/
theorem Lapses.incidents_eq {e' : Episode} {marks : List Mark} (h : Lapses s now e marks e') :
    e.incidents s now marks = (e.turns s now marks).map (.turned now) := by
  induction h with
  | refl => rfl
  | more _ _ ih =>
    rw [incidents_cons, turns_cons, ih, List.map_append]
    rfl

/-- An outcome that is recorded comes first, and then the change of state it asked for. -/
theorem Reports.incidents_eq {o : Outcome} {marks : List Mark} (h : Reports s now e o marks) :
    e.incidents s now marks = .reported now o :: (e.turns s now marks).map (.turned now) := by
  cases h with
  | alone | told | tripped | passed => rfl

end Episode

end Breaker

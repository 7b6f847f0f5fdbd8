import Mathlib
import Breaker.Episode
import Breaker.Journal

/-!
# Course — what the episodes of a circuit go through

Whatever is done with a circuit comes down to `Mark`s.  Most of them change the current episode and
leave it current (`Mark.stays`): a call was let through, a refusal counted, an outcome recorded.  A
mark `entered` replaces it by the next one (`Episode.next`).  `Episode.course` is the episode that
some marks lead to, and `Episode.turns` lists the changes of state among them, each a `Turn`.

A mark that stays keeps the number of the episode, its state and all that was settled when it was
entered (`Episode.Keeps`).
-/

namespace Breaker

/-- Windows of these settings have a size. -/
def Settings.Sized (s : Settings) : Prop := 0 < s.windowSize ∧ 0 < s.trialCalls

theorem Settings.sized_of_check {s : Settings} (h : s.check? = none) : s.Sized := by
  unfold check? at h
  split_ifs at h with failure slow slowCall window minimum trial
  exact ⟨Nat.pos_of_ne_zero window, Nat.pos_of_ne_zero trial⟩

/-- A wait that some settings may give at an attempt. -/
def Settings.Draws (s : Settings) (attempt : Nat) (wait : Duration) : Prop :=
  ∃ roll, (s.backoff.wait roll attempt).observe.1 = .ok wait

/-- A cause for which the wait function of some settings may give up. -/
def Settings.WaitFails (s : Settings) (cause : Abort) : Prop :=
  ∃ roll attempt, (s.backoff.wait roll attempt).observe.1 = .error cause

/-- A change of state, and whether it was made by hand. -/
structure Turn where
  change : Transition
  manual : Bool
  deriving DecidableEq

/-- The change of state that an entry of the journal tells of; a reset closes by hand. -/
def Entry.turn? (id : Nat) : Entry → Option Turn
  | .log circuit _ (.transition change _ _ manual) =>
    if circuit = id then some ⟨change, manual⟩ else none
  | .log circuit _ (.reset source) =>
    if circuit = id then some ⟨⟨source, .closed⟩, true⟩ else none
  | _ => none

/-- The changes of state of a circuit that some entries tell of, in order. -/
def Journal.turnsOf (id : Nat) (entries : List Entry) : List Turn :=
  entries.filterMap (Entry.turn? id)

theorem Journal.turnsOf_append (id : Nat) (entries entries' : List Entry) :
    Journal.turnsOf id (entries ++ entries')
      = Journal.turnsOf id entries ++ Journal.turnsOf id entries' := List.filterMap_append

/-- Changes of state that lead from one state to another, each out of the state that the one before it
led to. -/
inductive Turn.Path : State → List Turn → State → Prop where
  | nil (state : State) : Path state [] state
  | cons {turn : Turn} {turns : List Turn} {last : State}
      (h : Path turn.change.target turns last) : Path turn.change.source (turn :: turns) last

theorem Turn.Path.append {source middle last : State} {turns turns' : List Turn}
    (h : Turn.Path source turns middle) (h' : Turn.Path middle turns' last) :
    Turn.Path source (turns ++ turns') last := by
  induction h with
  | nil => exact h'
  | cons _ ih => exact .cons (ih h')

theorem Turn.Path.single (t : Turn) : Turn.Path t.change.source [t] t.change.target := .cons (.nil _)

/-- What happens at a circuit, as its current episode sees it. -/
inductive Mark where
  | granted
  | refused
  | released
  | recorded (o : Outcome)
  /-- Thresholds were told of. -/
  | told
  /-- The window was brought to the reading. -/
  | settled
  /-- Another state was entered; an open state stays so for the wait. -/
  | entered (target : State) (wait : Duration) (manual : Bool) (timer : Option Nat)

namespace Mark

/-- Whether the episode stays current. -/
def stays : Mark → Bool
  | .entered _ _ _ _ => false
  | _ => true

/-- The outcome that a mark records. -/
def outcome? : Mark → Option Outcome
  | .recorded o => some o
  | _ => none

/-- The change of state that a mark makes, out of a state. -/
def turn? (source : State) : Mark → Option Turn
  | .entered target _ manual _ => some ⟨⟨source, target⟩, manual⟩
  | _ => none

theorem turn?_of_stays {m : Mark} (h : m.stays = true) (source : State) :
    m.turn? source = none := by
  cases m with
  | entered => cases h
  | granted | refused | released | recorded | told | settled => rfl

end Mark

namespace Episode

variable (s : Settings) (now : Nat)

/-- The episode that follows when a state is entered. -/
def next (e : Episode) (target : State) (wait : Duration) (manual : Bool) : Episode :=
  let fresh := begin s (e.number + 1) (attemptsOnEntry e.state e.attempts target manual) now
    (phaseOf s target now wait)
  if target = .opened && !manual then fresh.inherit e else fresh

/-- The current episode after a mark. -/
def after (e : Episode) : Mark → Episode
  | .granted => match e.request now with
    | .granted taken => taken
    | _ => e
  | .refused => e.reject
  | .released => e.release
  | .recorded o => e.observe now o
  | .told => e.noteTold
  | .settled => e.settle now
  | .entered target wait manual timer => { e.next s now target wait manual with timer := timer }

/-- The current episode after some marks. -/
def course (e : Episode) (marks : List Mark) : Episode := marks.foldl (after s now) e

/-- The changes of state among some marks. -/
def turns (e : Episode) : List Mark → List Turn
  | [] => []
  | m :: marks => (m.turn? e.state).toList ++ turns (e.after s now m) marks

@[simp] theorem course_nil (e : Episode) : e.course s now [] = e := rfl

@[simp] theorem course_cons (e : Episode) (m : Mark) (marks : List Mark) :
    e.course s now (m :: marks) = (e.after s now m).course s now marks := rfl

@[simp] theorem turns_nil (e : Episode) : e.turns s now [] = [] := rfl

@[simp] theorem turns_cons (e : Episode) (m : Mark) (marks : List Mark) :
    e.turns s now (m :: marks)
      = (m.turn? e.state).toList ++ (e.after s now m).turns s now marks := rfl

theorem course_append (e : Episode) (marks marks' : List Mark) :
    e.course s now (marks ++ marks') = (e.course s now marks).course s now marks' :=
  List.foldl_append

theorem turns_append (e : Episode) (marks marks' : List Mark) :
    e.turns s now (marks ++ marks')
      = e.turns s now marks ++ (e.course s now marks).turns s now marks' := by
  induction marks generalizing e with
  | nil => rfl
  | cons m marks ih =>
    rw [List.cons_append, turns_cons, turns_cons, ih, course_cons, List.append_assoc]

/-! ### The next episode -/

@[simp] theorem phaseOf_state (target : State) (wait : Duration) :
    (phaseOf s target now wait).state = target := by
  cases target with
  | closed | opened | halfOpen | disabled | forcedOpen | metricsOnly => rfl

variable {s now} {e : Episode}

theorem next_phase (target : State) (wait : Duration) (manual : Bool) :
    (e.next s now target wait manual).phase = phaseOf s target now wait := by
  unfold next
  dsimp only
  split
  · rfl
  · rfl

theorem next_state (target : State) (wait : Duration) (manual : Bool) :
    (e.next s now target wait manual).state = target := by
  rw [state, next_phase, phaseOf_state]

theorem next_number (target : State) (wait : Duration) (manual : Bool) :
    (e.next s now target wait manual).number = e.number + 1 := by
  unfold next
  dsimp only
  split
  · rfl
  · rfl

theorem next_attempts (target : State) (wait : Duration) (manual : Bool) :
    (e.next s now target wait manual).attempts
      = attemptsOnEntry e.state e.attempts target manual := by
  unfold next
  dsimp only
  split
  · rfl
  · rfl

theorem next_enteredAt (target : State) (wait : Duration) (manual : Bool) :
    (e.next s now target wait manual).enteredAt = now := by
  unfold next
  dsimp only
  split
  · rfl
  · rfl

theorem next_timer (target : State) (wait : Duration) (manual : Bool) :
    (e.next s now target wait manual).timer = none := by
  unfold next
  dsimp only
  split
  · rfl
  · rfl

/-- A state other than open, or one entered by hand, starts with nothing recorded. -/
theorem next_of_fresh {target : State} {manual : Bool} (h : ¬(target = .opened ∧ manual = false))
    (wait : Duration) :
    e.next s now target wait manual
      = begin s (e.number + 1) (attemptsOnEntry e.state e.attempts target manual) now
          (phaseOf s target now wait) := by
  have : (decide (target = .opened) && !manual) = false := by
    simpa using h
  rw [next, this]
  rfl

/-! ### Marks that stay -/

variable (s) in
/-- The later of two views of one episode: what was settled when it was entered is the same. -/
structure Keeps (e e' : Episode) : Prop where
  number : e'.number = e.number
  state : e'.state = e.state
  attempts : e'.attempts = e.attempts
  enteredAt : e'.enteredAt = e.enteredAt
  minimum : e'.minimum = e.minimum
  timer : e'.timer = e.timer
  timeout : e'.timeout? s = e.timeout? s

namespace Keeps

theorem refl (e : Episode) : Keeps s e e := ⟨rfl, rfl, rfl, rfl, rfl, rfl, rfl⟩

theorem trans {e₁ e₂ e₃ : Episode} (h : Keeps s e₁ e₂) (h' : Keeps s e₂ e₃) : Keeps s e₁ e₃ where
  number := h'.number.trans h.number
  state := h'.state.trans h.state
  attempts := h'.attempts.trans h.attempts
  enteredAt := h'.enteredAt.trans h.enteredAt
  minimum := h'.minimum.trans h.minimum
  timer := h'.timer.trans h.timer
  timeout := h'.timeout.trans h.timeout

end Keeps

/-- A call that is let through takes at most a permit. -/
theorem request_granted {taken : Episode} (h : e.request now = .granted taken) :
    taken = e ∨ ∃ permits left deadline, e.phase = .halfOpen permits deadline ∧
      permits.take? = some left ∧ taken = { e with phase := .halfOpen left deadline } := by
  unfold request at h
  split at h
  case h_1 | h_2 | h_3 => exact .inl (Reply.granted.inj h).symm
  case h_4 => cases h
  case h_5 =>
    split at h
    · cases h
    · cases h
  case h_6 permits deadline phase =>
    split at h
    · cases h
    · split at h
      case h_1 left take =>
        exact .inr ⟨permits, left, deadline, phase, take, (Reply.granted.inj h).symm⟩
      case h_2 => cases h

theorem keeps_of_phase {phase : Phase} (state : phase.state = e.state)
    (timeout : ({ e with phase := phase } : Episode).timeout? s = e.timeout? s) :
    Keeps s e { e with phase := phase } :=
  ⟨rfl, state, rfl, rfl, rfl, rfl, timeout⟩

theorem keeps_trial {permits left : Permits} {deadline : Option Nat}
    (h : e.phase = .halfOpen permits deadline) :
    Keeps s e { e with phase := .halfOpen left deadline } := by
  refine keeps_of_phase ?_ ?_
  · rw [state, h]
    rfl
  · rw [timeout?, timeout?, h]
    cases deadline with
    | none | some => rfl

/-- **A mark that stays** keeps what was settled when the episode was entered. -/
theorem keeps_after {m : Mark} (h : m.stays = true) (e : Episode) : Keeps s e (e.after s now m) := by
  cases m with
  | granted =>
    rw [after]
    split
    case h_1 taken granted =>
      rcases request_granted granted with rfl | ⟨permits, left, deadline, phase, -, rfl⟩
      · exact .refl _
      · exact keeps_trial phase
    case h_2 => exact .refl _
  | refused => exact ⟨rfl, rfl, rfl, rfl, rfl, rfl, rfl⟩
  | released =>
    rw [after, release]
    split
    case h_1 permits deadline phase => exact keeps_trial phase
    case h_2 => exact .refl _
  | recorded o => exact ⟨rfl, rfl, rfl, rfl, rfl, rfl, rfl⟩
  | told =>
    rw [after, noteTold]
    split
    case h_1 reported phase =>
      refine keeps_of_phase ?_ ?_
      · rw [state, phase]
        rfl
      · rw [timeout?, timeout?, phase]
    case h_2 => exact .refl _
  | settled => exact ⟨rfl, rfl, rfl, rfl, rfl, rfl, rfl⟩
  | entered => cases h

/-- What a mark that stays does to the window. -/
theorem window_after {m : Mark} (h : m.stays = true) (e : Episode) :
    (e.after s now m).window = match m with
      | .recorded o => e.window.record now o
      | .settled => e.window.settle now
      | _ => e.window := by
  cases m with
  | granted =>
    rw [after]
    split
    case h_1 taken granted =>
      obtain rfl | ⟨permits, left, deadline, -, -, rfl⟩ := request_granted granted
      · rfl
      · rfl
    case h_2 => rfl
  | released =>
    rw [after, release]
    split
    · rfl
    · rfl
  | told =>
    rw [after, noteTold]
    split
    · rfl
    · rfl
  | refused | recorded | settled => rfl
  | entered => cases h

/-- What each of some marks preserves holds after all of them. -/
theorem course_preserves {P : Episode → Prop} {marks : List Mark}
    (mark : ∀ m ∈ marks, ∀ e, P e → P (e.after s now m)) {e : Episode} (start : P e) :
    P (e.course s now marks) := by
  induction marks generalizing e with
  | nil => exact start
  | cons m marks ih =>
    obtain ⟨first, rest⟩ := List.forall_mem_cons.mp mark
    exact ih rest (first e start)

theorem keeps_course {marks : List Mark} (stay : ∀ m ∈ marks, m.stays = true) (e : Episode) :
    Keeps s e (e.course s now marks) :=
  course_preserves (P := Keeps s e)
    (fun m mem e' keeps => keeps.trans (keeps_after (stay m mem) e')) (.refl e)

/-- The changes of state among some marks lead to the state after them. -/
theorem path_turns (e : Episode) (marks : List Mark) :
    Turn.Path e.state (e.turns s now marks) (e.course s now marks).state := by
  induction marks generalizing e with
  | nil => exact .nil _
  | cons m marks ih =>
    rw [turns_cons, course_cons]
    cases stays : m.stays with
    | true =>
      have keeps : Keeps s e (e.after s now m) := keeps_after stays e
      have path := ih (e.after s now m)
      rwa [keeps.state, ← List.nil_append (turns ..),
        ← Option.toList_none, ← Mark.turn?_of_stays stays e.state] at path
    | false =>
      cases m with
      | entered target wait manual timer =>
        have path := ih (e.after s now (.entered target wait manual timer))
        rw [show (e.after s now (.entered target wait manual timer)).state = target
          from next_state ..] at path
        exact (.cons path : Turn.Path _ (⟨⟨e.state, target⟩, manual⟩ :: _) _)
      | granted | refused | released | recorded | told | settled => cases stays

/-- Episodes are numbered by the changes of state. -/
theorem number_course (e : Episode) (marks : List Mark) :
    (e.course s now marks).number = e.number + (e.turns s now marks).length := by
  induction marks generalizing e with
  | nil => rfl
  | cons m marks ih =>
    rw [course_cons, turns_cons, ih, List.length_append]
    cases stays : m.stays with
    | true =>
      have keeps : Keeps s e (e.after s now m) := keeps_after stays e
      rw [keeps.number, Mark.turn?_of_stays stays, Option.toList_none, List.length_nil, Nat.zero_add]
    | false =>
      cases m with
      | entered target wait manual timer =>
        have next : (e.after s now (.entered target wait manual timer)).number = e.number + 1 :=
          next_number ..
        rw [next, Nat.add_assoc]
        rfl
      | granted | refused | released | recorded | told | settled => cases stays

/-! ### What a request and a report come to -/

variable (s now) in
/-- Requests that find the time of an episode over, one episode after another. -/
inductive Lapses : Episode → List Mark → Episode → Prop where
  | refl (e : Episode) : Lapses e [] e
  | more {e e' : Episode} {target : State} {wait : Duration} {timer : Option Nat}
      {marks : List Mark} (h : e.request now = .expired target)
      (t : Lapses (e.after s now (.entered target wait false timer)) marks e') :
      Lapses e (.entered target wait false timer :: marks) e'

theorem Lapses.course_eq {e e' : Episode} {marks : List Mark} (h : Lapses s now e marks e') :
    e.course s now marks = e' := by
  induction h with
  | refl => rfl
  | more _ _ ih => exact ih

variable (s now) in
/-- What an outcome that is recorded comes to: it is followed by what the window then asks for. -/
inductive Reports (e : Episode) (o : Outcome) : List Mark → Prop where
  | alone (h : (e.observe now o).followUp s now = none) : Reports e o [.recorded o]
  | told {rates : Rates} (h : (e.observe now o).followUp s now = some (.tell rates)) :
      Reports e o [.recorded o, .told]
  | tripped {rates : Rates} (h : (e.observe now o).followUp s now = some (.trip rates))
      (wait : Duration) (timer : Option Nat) :
      Reports e o [.recorded o, .entered .opened wait false timer]
  | passed (h : (e.observe now o).followUp s now = some .close) (wait : Duration)
      (timer : Option Nat) : Reports e o [.recorded o, .entered .closed wait false timer]

namespace Reports

variable {o : Outcome} {marks : List Mark}

/-- An outcome that asks for nothing is recorded and nothing else. -/
theorem of_none (h : Reports s now e o marks) (asks : (e.observe now o).followUp s now = none) :
    marks = [.recorded o] := by
  cases h with
  | alone => rfl
  | told asked | tripped asked | passed asked =>
    rw [asks] at asked
    cases asked

/-- An outcome that asks for it opens the breaker. -/
theorem of_trip (h : Reports s now e o marks) {rates : Rates}
    (asks : (e.observe now o).followUp s now = some (.trip rates)) :
    e.turns s now marks = [⟨⟨e.state, .opened⟩, false⟩] ∧
      (e.course s now marks).state = .opened := by
  cases h with
  | alone asked | told asked | passed asked =>
    rw [asks] at asked
    cases asked
  | tripped => exact ⟨rfl, next_state ..⟩

/-- An outcome that asks for it closes the breaker. -/
theorem of_close (h : Reports s now e o marks)
    (asks : (e.observe now o).followUp s now = some .close) :
    e.turns s now marks = [⟨⟨e.state, .closed⟩, false⟩] ∧
      (e.course s now marks).state = .closed := by
  cases h with
  | alone asked | told asked | tripped asked =>
    rw [asks] at asked
    cases asked
  | passed => exact ⟨rfl, next_state ..⟩

end Reports

end Episode

end Breaker

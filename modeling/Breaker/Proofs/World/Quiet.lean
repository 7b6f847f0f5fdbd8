import Mathlib
import Breaker.Proofs.World.Course
import Breaker.Proofs.World.Tells
import Breaker.Proofs.World.Yields
import Breaker.World.Report

/-!
# Quiet — acts whose consumers do not call back

A consumer is quiet if it only leaves notes and changes what it remembers, whether or not it gives
up.  Under quiet consumers publishing tells of the event and does nothing else (`Quiet.publish`), so
that each act on a circuit comes down to marks at that circuit.  The rules say which:
`Quiet.transition` for a change of state, and from it `Quiet.tryAcquire`, `Quiet.record` and the others.

A change of state into the open state is given up if the user's wait function gives up, and in no
other case.  Whoever listens, it is made against an episode that was current before, and is dropped if
that episode is over (`yields_transition_of`).
-/

namespace Breaker

variable {γ : Type}

namespace World

/-- What a consumer leaves that does not call back: notes, and what it remembers. -/
def Heard (w w' : World γ) : Prop :=
  ∃ (guest : γ) (notes : List Note), w' = { w with
    guest := guest
    journal := w.journal ++ (notes.map Entry.note).toArray }

/-- Those who hear of an event publish none. -/
theorem Heard.tells (id : CircuitId) {w w' : World γ} (h : w.Heard w') : Tells id [] w w' := by
  obtain ⟨guest, notes, rfl⟩ := h
  exact ⟨guest, notes.map Entry.note, by simp [Entry.isNote], rfl⟩

/-- What the user's functions leave that are asked: remarks, and other dice. -/
def Asked (w w' : World γ) : Prop :=
  ∃ (dice : Dice) (remarks : List Remark), w' = { w with
    dice := dice
    journal := w.journal ++ (remarks.map fun r => Entry.note (.remark r)).toArray }

namespace Asked

theorem roll (w : World γ) (dice : Dice) : w.Asked { w with dice := dice } := ⟨dice, [], by simp⟩

theorem refl (w : World γ) : w.Asked w := roll w w.dice

theorem remark (w : World γ) (r : Remark) : w.Asked (w.write (.note (.remark r))) :=
  ⟨w.dice, [r], by simp [write]⟩

theorem trans {w₁ w₂ w₃ : World γ} (h : w₁.Asked w₂) (h' : w₂.Asked w₃) : w₁.Asked w₃ := by
  obtain ⟨_, remarks, rfl⟩ := h
  obtain ⟨dice, remarks', rfl⟩ := h'
  exact ⟨dice, remarks ++ remarks', by simp⟩

/-- The user's functions were asked before an episode is changed, or after. -/
theorem setEpisode {w w' : World γ} (h : w.Asked w') (id : CircuitId) (e : Episode) :
    (w.setEpisode id e).Asked (w'.setEpisode id e) := by
  obtain ⟨dice, remarks, rfl⟩ := h
  exact ⟨dice, remarks, rfl⟩

theorem aside {w w' : World γ} (h : w.Asked w') : w.Aside w' := by
  obtain ⟨dice, remarks, rfl⟩ := h
  refine ⟨rfl, rfl, rfl, rfl, rfl, rfl, remarks.map _, fun entry mem => ?_, rfl⟩
  obtain ⟨r, -, rfl⟩ := List.mem_map.mp mem
  exact fun _ => rfl

end Asked

/-- What the wait of a circuit is at an attempt, if it is drawn next. -/
def wait? (w : World γ) (id : CircuitId) (attempt : Nat) : Except Abort Duration :=
  ((w.circuit id).settings.backoff.wait w.dice.roll attempt).observe.1

/-- The first of some marks, if it is one of opening, has the wait that was drawn next. -/
def DrawsFirst (w : World γ) (id : CircuitId) (marks : List Mark) : Prop :=
  ∀ wait manual timer rest, marks = .entered .opened wait manual timer :: rest →
    w.wait? id (Episode.attemptsOnEntry (w.episode id).state (w.episode id).attempts .opened manual)
      = .ok wait

theorem DrawsFirst.nil {w : World γ} {id : CircuitId} : w.DrawsFirst id [] := by
  intro wait manual timer rest h
  cases h

theorem DrawsFirst.cons {w : World γ} {id : CircuitId} {target : State} {wait : Duration}
    {manual : Bool} {rest : List Mark}
    (drawn : target = .opened → w.wait? id (Episode.attemptsOnEntry (w.episode id).state
      (w.episode id).attempts target manual) = .ok wait) :
    w.DrawsFirst id (w.entering id target wait manual :: rest) := by
  intro wait' manual' timer rest' h
  obtain ⟨⟨rfl, rfl, rfl, -⟩, -⟩ := by simpa [entering] using h
  exact drawn rfl

end World

/-- Consumers that do not call back. -/
def Quiet (react : React γ) : Prop :=
  ∀ (consumer : ConsumerId) (name : String) (event : Event) (w : World γ),
    Yields (react consumer name event) w (fun _ after => w.Heard after)
      (fun cause after => cause ≠ .unsettled ∧ w.Heard after)

/-- A consumer that does nothing. -/
def React.silent : React γ := fun _ _ _ => pure ()

theorem Quiet.silent : Quiet (React.silent : React γ) := by
  intro consumer name event w
  rw [React.silent, yields_pure]
  exact ⟨w.guest, [], by simp⟩

section User

variable {α : Type} {w : World γ} {abort : Abort → World γ → Prop}

theorem World.asked_remarks (w : World γ) (remarks : Array Remark) :
    w.Asked (remarks.foldl (fun w r => w.write (.note (.remark r))) w) := by
  rw [← Array.foldl_toList]
  induction remarks.toList generalizing w with
  | nil => exact .refl w
  | cons r rest ih => exact (World.Asked.remark w r).trans (ih _)

/-- Code of the user's leaves remarks and has its own result. -/
theorem yields_watch {x : Watched α} {ok : α → World γ → Prop}
    (answered : ∀ a after, x.observe.1 = .ok a → w.Asked after → ok a after)
    (aborted : ∀ cause after, x.observe.1 = .error cause → w.Asked after → abort cause after) :
    Yields (watch x) w ok abort := by
  unfold watch
  simp only [yields_bind, yields_modify]
  have asked := w.asked_remarks x.observe.2
  cases result : x.observe.1 with
  | ok a =>
    rw [yields_pure]
    exact answered a _ result asked
  | error cause =>
    rw [yields_throw]
    exact aborted cause _ result asked

theorem yields_drawWait {id : CircuitId} {attempt : Nat} {ok : Duration → World γ → Prop}
    (answered : ∀ wait after, w.wait? id attempt = .ok wait → w.Asked after → ok wait after)
    (aborted : ∀ cause after, w.wait? id attempt = .error cause → w.Asked after →
      abort cause after) :
    Yields (drawWait id attempt) w ok abort := by
  unfold drawWait
  simp only [yields_bind, yields_get, yields_set]
  have drawn := World.Asked.roll w w.dice.next
  refine yields_watch (fun wait after result asked => ?_) (fun cause after result asked => ?_)
  · exact answered wait after result (drawn.trans asked)
  · exact aborted cause after result (drawn.trans asked)

/-- The phase of a state that is entered is formed from a wait, which is drawn only for the open
state. -/
theorem yields_nextPhase {id : CircuitId} {target : State} {attempts now : Nat}
    {ok : Phase → World γ → Prop}
    (answered : ∀ wait after, (target = .opened → w.wait? id attempts = .ok wait) →
      w.Asked after → ok (Episode.phaseOf (w.circuit id).settings target now wait) after)
    (aborted : ∀ cause after, target = .opened → w.wait? id attempts = .error cause →
      w.Asked after → abort cause after) :
    Yields (nextPhase id target attempts now) w ok abort := by
  unfold nextPhase
  simp only [yields_bind, yields_get]
  by_cases opens : target = .opened
  · simp only [if_pos opens, yields_bind, yields_pure]
    exact yields_drawWait (fun wait after result => answered wait after fun _ => result)
      (fun cause after => aborted cause after opens)
  · rw [if_neg opens, yields_bind, yields_pure, yields_pure]
    exact answered .zero w (fun h => absurd h opens) (.refl w)

end User

section Change

variable {react : React γ} {id : CircuitId} {w : World γ} {abort : Abort → World γ → Prop}

/-- Publishes a change of state, after the rates that called for it. -/
def announce (react : React γ) (id : CircuitId) (breach : Option Rates) (change : Transition) :
    Act γ Bool := do
  match breach with
  | some rates => publishBreach react id rates
  | none => pure ()
  publish react id (.transition change)
  return true

/-- The events about the rates that called for a change of state. -/
def breachEvents (s : Settings) : Option Rates → List Event
  | some rates => rates.events s
  | none => []

/-- **A change of state**, whoever listens, against an episode that was current before.  If it is over
the change is dropped; else the state is entered, and the change is logged and then announced. -/
theorem yields_transition_of {ticket : Episode} (later : ticket.IsLater (w.episode id))
    {target : State} {manual : Bool} {breach : Option Rates} {ok : Bool → World γ → Prop}
    (dropped : ∀ after, w.Asked after → ticket.number < (w.episode id).number → ok false after)
    (entered : ∀ wait after, w.Asked after → (after.episode id).number = ticket.number →
      (target = .opened → w.wait? id (Episode.attemptsOnEntry (after.episode id).state
        (after.episode id).attempts target manual) = .ok wait) →
      Yields (announce react id breach ⟨(after.episode id).state, target⟩)
        ((after.enter id target wait manual).log id (.transition ⟨(after.episode id).state, target⟩
          (Episode.attemptsOnEntry (after.episode id).state (after.episode id).attempts target manual)
          ((after.reading id - (after.episode id).enteredAt) / nanosPerMilli) manual)) ok abort)
    (failed : ∀ cause after, target = .opened →
      w.wait? id (Episode.attemptsOnEntry ticket.state ticket.attempts target manual)
        = .error cause → w.Asked after → abort cause after) :
    Yields (transition react id ticket target manual breach) w ok abort := by
  unfold transition
  simp only [yields_bind, yields_get, yields_ite, yields_pure, yields_modify]
  refine yields_nextPhase (fun wait after drawn asked => ?_) failed
  have aside := asked.aside
  split
  case isTrue ended =>
    rw [aside.episode] at ended
    obtain newer | ⟨same, -⟩ := later
    · exact dropped after asked newer
    · exact absurd same ended
  case isFalse current =>
    rw [aside.episode] at current
    obtain newer | ⟨number, state, attempts⟩ := later
    · omega
    -- the episode is still the current one, and so in the same state
    rw [← aside.episode] at number state attempts
    rw [← state, ← attempts] at drawn ⊢
    rw [← aside.circuit, ← aside.reading, after.change_eq id target wait manual]
    exact entered wait after asked number drawn

end Change

namespace Quiet

open World (Tells)

variable {react : React γ} {w : World γ} {id : CircuitId} {abort : Abort → World γ → Prop}

/-! ### Publishing -/

theorem isolated (quiet : Quiet react) (consumer : ConsumerId) (name : String) (event : Event)
    (subscription : Nat) {ok : Unit → World γ → Prop} (h : ∀ after, Tells id [] w after → ok () after) :
    Yields (isolated id subscription (react consumer name event)) w ok abort := by
  have reaction := quiet consumer name event w
  unfold Yields at reaction ⊢
  unfold Breaker.isolated
  cases result : react consumer name event w with
  | ok _ after =>
    rw [result] at reaction
    exact h after (reaction.tells id)
  | error cause after =>
    rw [result] at reaction
    obtain ⟨settled, heard⟩ := reaction
    have logged : Tells id [] w (after.log id (.consumerAborted subscription)) :=
      (heard.tells id).trans (.noted id after rfl)
    cases cause with
    | unsettled => exact absurd rfl settled
    | predicate | noWait | unshown | consumer | task | emptyWindow => exact h _ logged

theorem tellEach (quiet : Quiet react) (name : String) (event : Event)
    (subscriptions : List (Subscription ConsumerId)) {w : World γ} {ok : Unit → World γ → Prop}
    (h : ∀ after, Tells id [] w after → ok () after) :
    Yields (tellEach react id name event subscriptions) w ok abort := by
  induction subscriptions generalizing w with
  | nil =>
    unfold Breaker.tellEach
    rw [yields_pure]
    exact h w (.refl id w)
  | cons s rest ih =>
    unfold Breaker.tellEach
    rw [yields_bind]
    exact quiet.isolated _ _ _ _ fun after told =>
      ih fun after' told' => h after' (told.trans told')

/-- **Publishing** tells of the event, and that is all. -/
theorem publish (quiet : Quiet react) {event : Event} {ok : Unit → World γ → Prop}
    (h : ∀ after, Tells id [event] w after → ok () after) :
    Yields (publish react id event) w ok abort := by
  unfold Breaker.publish
  simp only [yields_bind, yields_modify, yields_get]
  exact quiet.tellEach _ _ _ fun after told => h after ((World.Tells.published id w event).trans told)

theorem publishCall (quiet : Quiet react) {state : State} {event : Event}
    {ok : Unit → World γ → Prop}
    (h : ∀ after, Tells id (if state.publishesCalls then [event] else []) w after → ok () after) :
    Yields (publishCall react id state (pure event)) w ok abort := by
  rw [publishCall_pure, yields_ite]
  split
  case isTrue shown =>
    rw [if_pos shown] at h
    exact quiet.publish h
  case isFalse hidden =>
    rw [if_neg hidden] at h
    rw [yields_pure]
    exact h w (.refl id w)

theorem publishBreach (quiet : Quiet react) {rates : Rates} {ok : Unit → World γ → Prop}
    (h : ∀ after, Tells id (rates.events (w.circuit id).settings) w after → ok () after) :
    Yields (publishBreach react id rates) w ok abort := by
  have slow {events : List Event} (after : World γ) (told : Tells id events w after)
      (all : events ++ (if rates.slow.reaches (w.circuit id).settings.slowCallRateThreshold then
        [.slowCallRateExceeded rates.slow] else []) = rates.events (w.circuit id).settings) :
      if rates.slow.reaches (w.circuit id).settings.slowCallRateThreshold = true then
        Yields (Breaker.publish react id (.slowCallRateExceeded rates.slow)) after ok abort
      else ok () after := by
    split
    case isTrue reached =>
      rw [if_pos reached] at all
      exact quiet.publish fun last told' => h last (all ▸ told.trans told')
    case isFalse below =>
      rw [if_neg below, List.append_nil] at all
      exact h after (all ▸ told)
  unfold Breaker.publishBreach
  simp only [yields_bind, yields_get, yields_ite, yields_pure]
  split
  case isTrue reached =>
    exact quiet.publish fun after told => slow after told (by rw [Rates.events, if_pos reached])
  case isFalse below =>
    exact slow w (.refl id w) (by rw [Rates.events, if_neg below])

/-! ### Changes of state -/

/-- A change of state is announced after the rates that called for it. -/
theorem announce (quiet : Quiet react) {breach : Option Rates} {change : Transition}
    {ok : Bool → World γ → Prop}
    (h : ∀ after, Tells id (breachEvents (w.circuit id).settings breach ++ [.transition change]) w
      after → ok true after) :
    Yields (announce react id breach change) w ok abort := by
  unfold Breaker.announce
  cases breach with
  | some rates =>
    simp only [yields_bind, yields_pure]
    exact quiet.publishBreach fun told first => quiet.publish fun last then_ => h last (first.trans then_)
  | none =>
    simp only [yields_bind, yields_pure]
    exact quiet.publish h

/-- **A change of state**: it is made, unless the wait is drawn and the wait function gives up. -/
theorem transition (quiet : Quiet react) {target : State} {manual : Bool} {breach : Option Rates}
    {ok : Bool → World γ → Prop}
    (made : ∀ wait after,
      (target = .opened → w.wait? id (Episode.attemptsOnEntry (w.episode id).state
        (w.episode id).attempts target manual) = .ok wait) →
      w.Goes id [w.entering id target wait manual] after → ok true after)
    (failed : ∀ cause after, target = .opened →
      w.wait? id (Episode.attemptsOnEntry (w.episode id).state
        (w.episode id).attempts target manual) = .error cause →
      w.Aside after → abort cause after) :
    Yields (transition react id (w.episode id) target manual breach) w ok abort := by
  refine yields_transition_of (.refl _) (fun _ _ newer => absurd newer (Nat.lt_irrefl _))
    (fun wait after asked _ drawn => ?_)
    fun cause after opens fails asked => failed cause after opens fails asked.aside
  rw [asked.aside.episode] at drawn
  have step : after.Goes id _ _ := .change after target wait manual
  rw [asked.aside.entering] at step
  have goes := World.Goes.aside_then asked.aside step
  exact quiet.announce fun last told => made wait last drawn (goes.then_aside told.aside)

theorem force (quiet : Quiet react) {target : State} {ok : Unit → World γ → Prop}
    (made : ∀ wait after, w.Goes id [w.entering id target wait true] after → ok () after)
    (failed : ∀ cause after, target = .opened →
      w.wait? id (Episode.attemptsOnEntry (w.episode id).state
        (w.episode id).attempts target true) = .error cause →
      w.Aside after → abort cause after) :
    Yields (force react id target) w ok abort := by
  unfold Breaker.force
  simp only [yields_bind, yields_get, yields_pure]
  exact quiet.transition (fun wait after _ => made wait after) failed

/-- **A reset** enters the closed state, and the change is told of if there is one. -/
theorem reset_tells (quiet : Quiet react) {ok : Unit → World γ → Prop}
    (made : ∀ after, Tells id (resetEvents (w.episode id).state)
      ((w.enter id .closed .zero true).log id (.reset (w.episode id).state)) after → ok () after) :
    Yields (reset react id) w ok abort := by
  rw [← World.reset_eq] at made
  unfold Breaker.reset
  simp only [yields_bind, yields_get, yields_modify, yields_ite]
  split
  case isTrue opens =>
    rw [resetEvents, if_neg opens] at made
    exact quiet.publish fun after first => quiet.publish fun last told => made last (first.trans told)
  case isFalse closed =>
    rw [resetEvents, if_pos (not_not.mp closed)] at made
    exact quiet.publish made

theorem reset (quiet : Quiet react) {ok : Unit → World γ → Prop}
    (made : ∀ after, w.Goes id [w.entering id .closed .zero true] after → ok () after) :
    Yields (reset react id) w ok abort := by
  have goes : w.Goes id _ _ := .reset w Duration.zero
  exact quiet.reset_tells fun after told => made after (goes.then_aside told.aside)

/-! ### Requests -/

/-- **A refusal** is counted, and that is all that happens to the circuits. -/
theorem refuse_aside (quiet : Quiet react) {ok : Unit → World γ → Prop}
    (h : ∀ after, (w.setEpisode id (w.episode id).reject).Aside after → ok () after) :
    Yields (refuse react id) w ok abort := by
  unfold Breaker.refuse
  simp only [yields_bind, yields_modify, yields_get, World.modifyEpisode_eq]
  exact quiet.publishCall fun after told =>
    h after ((World.Aside.write _ fun _ => rfl).trans told.aside)

theorem refuse (quiet : Quiet react) {ok : Unit → World γ → Prop}
    (h : ∀ after, w.Goes id [.refused] after → ok () after) :
    Yields (refuse react id) w ok abort := by
  have goes : w.Goes id [.refused] _ := .mark w rfl
  exact quiet.refuse_aside fun after aside => h after (goes.then_aside aside)

/-- **A request**: episodes whose time is over give way, one after another, and the request is put
to the one they lead to. -/
theorem tryAcquire (quiet : Quiet react) {ok : Bool → World γ → Prop} (tries : Nat)
    {w : World γ} (there : id < w.circuits.size)
    (granted : ∀ lapses e taken after,
      Episode.Lapses (w.circuit id).settings (w.reading id) (w.episode id) lapses e →
      w.DrawsFirst id lapses → e.request (w.reading id) = .granted taken →
      w.Goes id (lapses ++ [.granted]) after → ok true after)
    (denied : ∀ lapses e after,
      Episode.Lapses (w.circuit id).settings (w.reading id) (w.episode id) lapses e →
      w.DrawsFirst id lapses → e.request (w.reading id) = .denied →
      w.Goes id (lapses ++ [.refused]) after → ok false after)
    (failed : ∀ cause after, (w.circuit id).settings.WaitFails cause → abort cause after)
    (spent : ∀ lapses e after,
      Episode.Lapses (w.circuit id).settings (w.reading id) (w.episode id) lapses e →
      lapses.length = tries → abort .unsettled after) :
    Yields (tryAcquire react id tries) w ok abort := by
  induction tries generalizing w with
  | zero =>
    unfold Breaker.tryAcquire
    rw [yields_throw]
    exact spent [] _ w (.refl _) rfl
  | succ tries ih =>
    unfold Breaker.tryAcquire
    simp only [yields_bind, yields_get]
    cases asked : (w.episode id).request (w.reading id) with
    | granted taken =>
      simp only [yields_bind, yields_set, yields_pure]
      have goes : w.Goes id [.granted] _ := .mark w rfl
      rw [Episode.after, asked] at goes
      exact granted [] _ taken _ (.refl _) .nil asked goes
    | denied =>
      simp only [yields_bind, yields_pure]
      exact quiet.refuse fun after goes => denied [] _ after (.refl _) .nil asked goes
    | expired next =>
      simp only [yields_bind]
      refine quiet.transition (fun wait after drawn goes => ?_) (fun cause after _ drawn _ => ?_)
      · -- the rest of the request, as seen from where it was first put
        have course := goes.course there
        have first (rest : List Mark) :
            w.DrawsFirst id (w.entering id next wait false :: rest) := .cons drawn
        have lapse {lapses : List Mark} {e : Episode}
            (rest : Episode.Lapses (after.circuit id).settings (after.reading id)
              (after.episode id) lapses e) :
            Episode.Lapses (w.circuit id).settings (w.reading id) (w.episode id)
              (w.entering id next wait false :: lapses) e := by
          rw [course.settings, course.reading, course.episode] at rest
          exact .more asked rest
        refine ih (Nat.lt_of_lt_of_le there course.size) ?_ ?_ ?_ ?_
        · intro lapses e taken last rest _ granted' goes'
          rw [course.reading] at granted'
          exact granted _ e taken last (lapse rest) (first lapses) granted' (goes.trans goes')
        · intro lapses e last rest _ denied' goes'
          rw [course.reading] at denied'
          exact denied _ e last (lapse rest) (first lapses) denied' (goes.trans goes')
        · intro cause last fails
          exact failed cause last (by rwa [course.settings] at fails)
        · intro lapses e last rest length
          exact spent _ e last (lapse rest) (by rw [List.length_cons, length])
      · exact failed cause after ⟨_, _, drawn⟩

/-! ### Reports -/

/-- An outcome is added to the window and told of, and then what it asks for is done. -/
theorem yields_record (quiet : Quiet react) (there : id < w.circuits.size) {o : Outcome}
    {event : Event} {ok : Unit → World γ → Prop} {e : Episode} {decision : Option Decision}
    (observed : (w.episode id).observe (w.reading id) o = e)
    (asks : e.followUp (w.circuit id).settings (w.reading id) = decision)
    (follows : ∀ after, World.Tells id (if (w.episode id).state.publishesCalls then [event] else [])
        (if decision.any Decision.isTold then (w.setEpisode id e).setEpisode id e.noteTold
          else w.setEpisode id e) after →
      Yields (follow react id e decision) after ok abort) :
    Yields (record react id o (pure event)) w ok abort := by
  have ticket : (w.setEpisode id ((w.episode id).observe (w.reading id) o)).episode id
      = (w.episode id).observe (w.reading id) o := World.episode_setEpisode_self w _ there
  subst observed asks
  unfold Breaker.record
  simp only [yields_bind, yields_get, yields_modify, yields_ite, World.modifyEpisode_eq, ticket]
  split
  case isTrue told =>
    rw [if_pos told] at follows
    exact quiet.publishCall follows
  case isFalse other =>
    rw [if_neg other] at follows
    exact quiet.publishCall follows

/-- **An outcome that is recorded**, with what the window asks for after it. -/
theorem record (quiet : Quiet react) {o : Outcome} {event : Event} {ok : Unit → World γ → Prop}
    (there : id < w.circuits.size)
    (made : ∀ marks after,
      Episode.Reports (w.circuit id).settings (w.reading id) (w.episode id) o marks →
      w.Goes id marks after → ok () after)
    (failed : ∀ cause after, (w.circuit id).settings.WaitFails cause →
      w.Goes id [.recorded o] after → abort cause after) :
    Yields (record react id o (pure event)) w ok abort := by
  have recorded : w.Goes id [.recorded o] _ := .mark w rfl
  have ticket : (w.setEpisode id ((w.episode id).observe (w.reading id) o)).episode id
      = (w.episode id).observe (w.reading id) o := (recorded.course there).episode
  -- the change that the outcome asked for, at the episode it was recorded in
  have moved (target : State) (breach : Option Rates) {after : World γ}
      (aside : (w.setEpisode id ((w.episode id).observe (w.reading id) o)).Aside after)
      (report : ∀ wait timer, Episode.Reports (w.circuit id).settings (w.reading id) (w.episode id) o
        [.recorded o, .entered target wait false timer]) :
      Yields (Breaker.transition react id ((w.episode id).observe (w.reading id) o) target false
        breach) after (fun _ last => ok () last) abort := by
    have goes := recorded.then_aside aside
    rw [← ticket, ← aside.episode id]
    refine quiet.transition (fun wait last _ goes' => ?_) (fun cause last _ drawn aside' => ?_)
    · exact made _ last (report _ _) (goes.trans goes')
    · refine failed cause last ?_ (goes.then_aside aside')
      rw [← (goes.course there).settings]
      exact ⟨_, _, drawn⟩
  cases asks : ((w.episode id).observe (w.reading id) o).followUp (w.circuit id).settings
      (w.reading id) with
  | none =>
    refine quiet.yields_record there rfl asks fun after said => ?_
    unfold follow
    rw [yields_pure]
    exact made _ after (.alone asks) (recorded.then_aside said.aside)
  | some decision =>
    refine quiet.yields_record there rfl asks fun after said => ?_
    unfold follow
    cases decision with
    | trip rates =>
      simp only [yields_bind, yields_pure]
      exact moved .opened (some rates) said.aside fun wait timer => .tripped asks wait timer
    | close =>
      simp only [yields_bind, yields_pure]
      exact moved .closed none said.aside fun wait timer => .passed asks wait timer
    | tell rates =>
      have told : World.Goes id _ [.told] _ :=
        .mark (w.setEpisode id ((w.episode id).observe (w.reading id) o)) rfl
      rw [ticket] at told
      simp only [yields_bind, yields_modify]
      refine quiet.publishBreach fun last shown => ?_
      have logged : after.Aside last := (World.Aside.write _ fun _ => rfl).trans shown.aside
      exact made _ last (.told asks) ((recorded.trans told).then_aside (said.aside.trans logged))

theorem ignore (quiet : Quiet react) {event : Event} {ok : Unit → World γ → Prop}
    (h : ∀ after, w.Goes id [.released] after → ok () after) :
    Yields (ignore react id (pure event)) w ok abort := by
  unfold Breaker.ignore release
  simp only [yields_bind, yields_get, yields_modify, World.modifyEpisode_eq]
  have released : w.Goes id [.released] _ := .mark w rfl
  exact quiet.publishCall fun after told => h after (released.then_aside told.aside)

end Quiet

end Breaker

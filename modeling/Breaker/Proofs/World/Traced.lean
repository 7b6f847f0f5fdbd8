import Breaker.Proofs.World.Trace
import Breaker.Proofs.World.Undergoes
import Breaker.World.Dealing

/-!
# Traced — acts have traces, whoever listens

An act is traced if a trace leads from every sound world to the one that the act leaves, whether it
answers or gives up (`TracedBut`, `Traced`).  Only when it stops because the steps allowed were used up,
it was not carried out as a whole.  Whatever consumers do, as long as their reactions are traced
themselves, every act on circuits and timers is traced, a request or a report together with what the user
notes of it.  So what holds along traces holds after every act, also where a consumer calls back or gives up
and where a function of the user's gives up halfway.

Two things ask for an argument.  A change of state is made against an episode that was current some
time ago (`yields_transition`): if it still has the current number, then the state and the attempt are
still the same, since numbers only grow (`Reaches.isLater`).  And a report returns only after what the
outcome asked for was done (`yields_record_seesTo`): publishing gives up only when the steps are used up.
-/

namespace Breaker

variable {γ α β : Type}

/-- What the journal tells of a circuit since another moment begins with a change of state by hand. -/
def World.TurnsByHand (w : World γ) (id : CircuitId) (target : State) (after : World γ) : Prop :=
  ∃ later, Journal.turnsOf id after.journal.toList
    = Journal.turnsOf id w.journal.toList ++ ⟨⟨(w.episode id).state, target⟩, true⟩ :: later

/-- Some trace leads from one world to another. -/
def Audience.Unfolds (a : Audience γ) (whole : Prop) (stage : Stage) (w w' : World γ) : Prop :=
  ∃ hs, a.Trace whole stage w hs w'

/-- A trace does what is to be done in a world, and the act gives up only for some causes. -/
def Traces (a : Audience γ) (causes : Abort → Prop) (stage : Stage) (x : Act γ α) (w : World γ) :
    Prop :=
  Yields x w (fun _ after => a.Unfolds True stage w after)
    fun cause after => causes cause ∧ a.Unfolds (cause ≠ .unsettled) stage w after

/-- An act that has traces from every sound world, and gives up only for some causes. -/
def TracedBut (a : Audience γ) (causes : Abort → Prop) (stage : Stage) (x : Act γ α) : Prop :=
  ∀ w, w.Sound → Traces a causes stage x w

/-- An act that has traces, whether it answers or gives up. -/
def Traced (a : Audience γ) (x : Act γ α) : Prop := TracedBut a (fun _ => True) .acts x

/-- Consumers whose reactions are traced. -/
def TracedReact (a : Audience γ) (react : React γ) : Prop :=
  ∀ (consumer : ConsumerId) (name : String) (event : Event),
    TracedBut a (fun _ => True) (.reacts consumer name event) (react consumer name event)

namespace Audience.Unfolds

variable {a : Audience γ} {whole : Prop} {stage : Stage} {w w' w₁ w₂ w₃ : World γ}

theorem leads (h : a.Unfolds whole stage w w') : w.Leads whole w' := h.elim fun _ => Trace.leads

theorem reaches (h : a.Unfolds whole stage w w') : w.Reaches w' := h.leads.reaches

theorem sound (h : a.Unfolds whole stage w w') : w.Sound → w'.Sound := h.reaches.sound

theorem terms (h : a.Unfolds whole stage w w') (id : CircuitId) :
    (w'.circuit id).terms = (w.circuit id).terms := h.elim fun _ trace => trace.terms id

theorem mono {whole' : Prop} (less : whole' → whole) :
    a.Unfolds whole stage w w' → a.Unfolds whole' stage w w'
  | ⟨hs, h⟩ => ⟨hs, h.mono less⟩

/-- What was carried out as a whole was carried out. -/
theorem of_whole (h : a.Unfolds True stage w w') : a.Unfolds whole stage w w' :=
  h.mono fun _ => trivial

theorem refl (w : World γ) : a.Unfolds whole .acts w w := ⟨_, .refl w⟩

theorem trans : a.Unfolds whole .acts w₁ w₂ → a.Unfolds whole .acts w₂ w₃ →
    a.Unfolds whole .acts w₁ w₃
  | ⟨_, h⟩, ⟨_, h'⟩ => ⟨_, h.trans h'⟩

theorem write (w : World γ) {entry : Entry} (plain : entry.isPlain = true)
    (idle : ∀ id, entry.dealing? (w.circuit id) id = none) :
    a.Unfolds whole .acts w (w.write entry) := ⟨_, .wrote w plain idle⟩

/-- What is noted of a permission that comes to nothing. -/
theorem noted (w : World γ) {id : CircuitId} {deal : Deal}
    (idle : (w.circuit id).dealing? deal = none) :
    a.Unfolds whole .acts w (w.write (.dealt id deal)) := by
  refine write w rfl fun other => ?_
  by_cases own : id = other
  · subst own
    rw [Entry.dealing?, if_pos rfl, idle]
  · rw [Entry.dealing?, if_neg own]

theorem beside (h : w.Move w') (circuits : w'.circuits = w.circuits)
    (journal : w'.journal = w.journal) (guest : w'.guest = w.guest) :
    a.Unfolds whole .acts w w' := ⟨_, .beside h circuits journal guest⟩

theorem time (w : World γ) (clock : Clock) (elapsed : Nat) :
    a.Unfolds whole .acts w { w with clock := clock, elapsed := elapsed } :=
  beside (.time w clock elapsed) rfl rfl rfl

theorem hold (w : World γ) (handles : Array (Option CircuitId)) :
    a.Unfolds whole .acts w { w with handles := handles } := beside (.hold w handles) rfl rfl rfl

theorem remarks (w : World γ) (remarks : List Remark) : a.Unfolds whole .acts w { w with
    journal := w.journal ++ (remarks.map fun r => Entry.note (.remark r)).toArray } := by
  induction remarks generalizing w with
  | nil => exact ⟨[], by simpa using Trace.refl w⟩
  | cons r remarks ih =>
    have said : a.Unfolds whole .acts w (w.write (.note (.remark r))) := write w rfl fun _ => rfl
    have more := said.trans (ih _)
    simpa [World.write] using more

/-- The user's functions were asked. -/
theorem asked (h : w.Asked w') : a.Unfolds whole .acts w w' := by
  obtain ⟨dice, said, rfl⟩ := h
  have rolled : a.Unfolds whole .acts w { w with dice := dice } :=
    beside (.aside (.dice w dice)) rfl rfl rfl
  exact rolled.trans (remarks _ said)

/-- A request that is put is refused in the end. -/
theorem refused {id : CircuitId} (h : a.Unfolds whole .acts (w₁.write (.dealt id .asking)) w₂)
    (h' : a.Unfolds whole .acts (w₂.setEpisode id (w₂.episode id).reject) w₃) :
    a.Unfolds whole .acts w₁ w₃ := by
  obtain ⟨hs, trace⟩ := h
  obtain ⟨hs', trace'⟩ := h'
  exact ⟨_, .refused id trace trace'⟩

/-- A permission is given back, and that is noted. -/
theorem released (w : World γ) {id : CircuitId} {deal : Deal}
    (told : (w.circuit id).dealing? deal = some .released) : a.Unfolds whole .acts w
      ((w.write (.dealt id deal)).setEpisode id (w.episode id).release) :=
  ⟨_, .dealt w id (m := .released) trivial rfl told⟩

/-- Events are published, and then others. -/
theorem publishes_append {id : CircuitId} {events events' : List Event} :
    a.Unfolds whole (.publishes id events) w₁ w₂ → a.Unfolds whole (.publishes id events') w₂ w₃ →
      a.Unfolds whole (.publishes id (events ++ events')) w₁ w₃
  | ⟨_, h⟩, ⟨_, h'⟩ => ⟨_, h.publishes_append h'⟩

end Audience.Unfolds

open Audience

variable {a : Audience γ} {causes : Abort → Prop} {stage : Stage} {x : Act γ α} {w₀ w : World γ}

/-- A traced act in the middle of another. -/
theorem Traces.mid (h : Traces a causes stage x w) {ok : α → World γ → Prop}
    {abort : Abort → World γ → Prop} (answered : ∀ b after, a.Unfolds True stage w after → ok b after)
    (aborted : ∀ cause after, causes cause → a.Unfolds (cause ≠ .unsettled) stage w after →
      abort cause after) : Yields x w ok abort :=
  h.mono answered fun cause after gaveUp => aborted cause after gaveUp.1 gaveUp.2

namespace TracedBut

theorem mid (h : TracedBut a causes stage x) (sound : w.Sound) {ok : α → World γ → Prop}
    {abort : Abort → World γ → Prop} (answered : ∀ b after, a.Unfolds True stage w after → ok b after)
    (aborted : ∀ cause after, causes cause → a.Unfolds (cause ≠ .unsettled) stage w after →
      abort cause after) : Yields x w ok abort := (h w sound).mid answered aborted

/-- A traced act at the end of another. -/
theorem last (h : TracedBut a causes .acts x) (sound : w₀.Sound) (led : a.Unfolds True .acts w₀ w) :
    Yields x w (fun _ after => a.Unfolds True .acts w₀ after)
      fun cause after => causes cause ∧ a.Unfolds (cause ≠ .unsettled) .acts w₀ after :=
  h.mid (led.sound sound) (fun _ _ more => led.trans more)
    fun _ _ cause more => ⟨cause, led.of_whole.trans more⟩

theorem weaken {causes' : Abort → Prop} (h : TracedBut a causes stage x)
    (more : ∀ cause, causes cause → causes' cause) : TracedBut a causes' stage x := by
  intro w sound
  exact h.mid sound (fun _ _ led => led) fun cause _ gaveUp led => ⟨more cause gaveUp, led⟩

theorem traced (h : TracedBut a causes .acts x) : Traced a x := h.weaken fun _ _ => trivial

theorem pure (b : α) : TracedBut a causes .acts (pure b : Act γ α) := by
  intro w _
  rw [Traces, yields_pure]
  exact .refl w

theorem throw {cause : Abort} (gaveUp : causes cause) :
    TracedBut a causes .acts (throw cause : Act γ α) := by
  intro w _
  rw [Traces, yields_throw]
  exact ⟨gaveUp, .refl w⟩

theorem get : TracedBut a causes .acts (get : Act γ (World γ)) := by
  intro w _
  rw [Traces, yields_get]
  exact .refl w

theorem modify {f : World γ → World γ} (h : ∀ w : World γ, a.Unfolds True .acts w (f w)) :
    TracedBut a causes .acts (modify f : Act γ PUnit) := by
  intro w _
  rw [Traces, yields_modify]
  exact h w

theorem bind (h : TracedBut a causes .acts x) {f : α → Act γ β}
    (h' : ∀ b, TracedBut a causes .acts (f b)) : TracedBut a causes .acts (x >>= f) := by
  intro w sound
  rw [Traces, yields_bind]
  exact h.mid sound (fun b _ led => (h' b).last sound led) fun _ _ gaveUp led => ⟨gaveUp, led⟩

end TracedBut

/-- Nobody who listens does anything. -/
def Audience.silent : Audience γ where
  greets _ _ _ _ := none
  arranges _ _ := False
  listens := False.elim

theorem traced_silent : TracedReact .silent (React.silent : React γ) := by
  intro consumer name event w _
  rw [React.silent, Traces, yields_pure]
  exact ⟨_, .mute rfl (.refl w)⟩

section Acts

variable {react : React γ} {id : CircuitId}

/-! ### Publishing -/

theorem traced_isolated {consumer : ConsumerId} {name : String} {event : Event} {act : Act γ Unit}
    (h : TracedBut a (fun _ => True) (.reacts consumer name event) act) (subscription : Nat) :
    TracedBut a (· = .unsettled) (.reacts consumer name event) (isolated id subscription act) := by
  intro w sound
  have reaction := h w sound
  unfold Traces Yields at reaction ⊢
  unfold isolated
  cases result : act w with
  | ok _ after =>
    rw [result] at reaction
    exact reaction
  | error cause after =>
    rw [result] at reaction
    obtain ⟨-, led⟩ := reaction
    -- a consumer that gave up was carried out as a whole
    have logged (settled : cause ≠ .unsettled) : a.Unfolds True (.reacts consumer name event) w
        (after.log id (.consumerAborted subscription)) := by
      have log : a.Trace True .acts after _ (after.log id (.consumerAborted subscription)) :=
        .wrote after rfl fun _ => rfl
      obtain ⟨hs, trace⟩ := led.mono fun _ => settled
      cases trace with
      | greeted greets trace => exact ⟨_, .greeted greets (trace.trans log)⟩
      | mute greets trace => exact ⟨_, .mute greets (trace.trans log)⟩
      | unheard _ cut => exact absurd trivial cut
    cases cause with
    | unsettled => exact ⟨rfl, led⟩
    | predicate | noWait | unshown | consumer | task | emptyWindow => exact logged nofun

theorem traced_tellEach (traced : TracedReact a react) (name : String) (event : Event)
    (subscriptions : List (Subscription ConsumerId)) :
    TracedBut a (· = .unsettled) (.tells name event subscriptions)
      (tellEach react id name event subscriptions) := by
  induction subscriptions with
  | nil =>
    intro w _
    unfold tellEach
    rw [Traces, yields_pure]
    exact ⟨_, .allTold w name event⟩
  | cons s rest ih =>
    intro w sound
    unfold tellEach
    rw [Traces, yields_bind]
    refine (traced_isolated (traced s.consumer name event) s.id).mid sound ?_ ?_
    · rintro _ after ⟨hs, told⟩
      refine ih.mid (told.reaches.sound sound) ?_ ?_
      · rintro _ last ⟨hs', more⟩
        exact ⟨_, .heard told more⟩
      · rintro cause last unsettled ⟨hs', more⟩
        exact ⟨unsettled, _, .heard (told.mono fun _ => trivial) more⟩
    · rintro cause after rfl ⟨hs, told⟩
      exact ⟨rfl, _, .heard told (.neglect (fun settled => settled rfl) after name event rest)⟩

/-- **Publishing** gives up only when the steps allowed are used up. -/
theorem traced_publish (traced : TracedReact a react) (event : Event) :
    TracedBut a (· = .unsettled) (.publishes id [event]) (publish react id event) := by
  intro w sound
  unfold Traces publish
  simp only [yields_bind, yields_modify, yields_get]
  have written : (w.write (.published id event)).Sound := by
    have aside : w.Aside (w.write (.published id event)) := .write w fun _ => rfl
    exact aside.reaches.sound sound
  refine (traced_tellEach traced _ _ _).mid written ?_ ?_
  · rintro _ after ⟨hs, told⟩
    exact ⟨_, .published told (.said after id)⟩
  · rintro cause after unsettled ⟨hs, told⟩
    exact ⟨unsettled, _, .published told (.said after id)⟩

/-- One publication after another. -/
theorem Traces.publish_bind {events events' : List Event} {x : Act γ Unit} {f : Unit → Act γ α}
    (h : Traces a (· = .unsettled) (.publishes id events) x w) (sound : w.Sound)
    (h' : TracedBut a (· = .unsettled) (.publishes id events') (f ())) :
    Traces a (· = .unsettled) (.publishes id (events ++ events')) (x >>= f) w := by
  rw [Traces, yields_bind]
  refine h.mid (fun _ after said => ?_) ?_
  · exact h'.mid (said.sound sound) (fun _ _ more => said.publishes_append more)
      fun _ _ unsettled more => ⟨unsettled, said.of_whole.publishes_append more⟩
  · rintro cause after rfl ⟨hs, said⟩
    exact ⟨rfl, _, said.publishes_append (.silence (fun settled => settled rfl) after id events')⟩

theorem traced_said (b : α) : TracedBut a causes (.publishes id []) (pure b : Act γ α) := by
  intro w _
  rw [Traces, yields_pure]
  exact ⟨_, .said w id⟩

/-- Events about calls are published at any time. -/
theorem TracedBut.called {events : List Event} (calls : ∀ event ∈ events, event.isOfCall = true)
    (h : TracedBut a causes (.publishes id events) x) : TracedBut a causes .acts x := by
  intro w sound
  exact h.mid sound (fun _ _ ⟨_, said⟩ => ⟨_, .called calls said⟩)
    fun _ _ gaveUp ⟨_, said⟩ => ⟨gaveUp, _, .called calls said⟩

theorem traced_publishCall (traced : TracedReact a react) (state : State) {event : Event}
    (call : event.isOfCall = true) :
    TracedBut a (· = .unsettled) .acts (publishCall react id state (pure event)) := by
  rw [publishCall_pure]
  split
  · exact .called (List.forall_mem_singleton.mpr call) (traced_publish traced event)
  · exact .pure ()

theorem traces_publishBreach (traced : TracedReact a react) (rates : Rates) {w : World γ}
    (sound : w.Sound) : Traces a (· = .unsettled)
      (.publishes id (rates.events (w.circuit id).settings)) (publishBreach react id rates) w := by
  have slow : TracedBut a (· = .unsettled) (.publishes id
        (if rates.slow.reaches (w.circuit id).settings.slowCallRateThreshold then
          [.slowCallRateExceeded rates.slow] else []))
      (if rates.slow.reaches (w.circuit id).settings.slowCallRateThreshold then
        publish react id (.slowCallRateExceeded rates.slow) else pure () : Act γ Unit) := by
    split
    · exact traced_publish traced _
    · exact traced_said ()
  unfold Traces publishBreach Rates.events
  simp only [yields_bind, yields_get]
  by_cases failure : rates.failure.reaches (w.circuit id).settings.failureRateThreshold = true
  · simp only [if_pos failure]
    exact (traced_publish traced _ w sound).publish_bind sound slow
  · simp only [if_neg failure]
    exact slow w sound

/-! ### Changes of state -/

theorem traces_announce (traced : TracedReact a react) (breach : Option Rates) (change : Transition)
    {w : World γ} (sound : w.Sound) : Traces a (· = .unsettled)
      (.publishes id (breachEvents (w.circuit id).settings breach ++ [.transition change]))
      (announce react id breach change) w := by
  have announced : TracedBut a (· = .unsettled) (.publishes id [.transition change]) (do
      publish react id (.transition change)
      return true : Act γ Bool) := by
    intro w₁ sound₁
    have finished : TracedBut a (· = .unsettled) (.publishes id []) (pure true : Act γ Bool) :=
      traced_said true
    exact (traced_publish traced _ w₁ sound₁).publish_bind sound₁ finished
  unfold announce
  cases breach with
  | some rates => exact (traces_publishBreach traced rates sound).publish_bind sound announced
  | none => exact announced w sound

/-- **A change of state** against an episode that was current before.  Once it answers, that episode is
over, and only the wait function keeps it from answering, or the steps being used up. -/
theorem yields_transition (traced : TracedReact a react) {w : World γ} (sound : w.Sound)
    {ticket : Episode} (later : ticket.IsLater (w.episode id)) {target : State} {manual : Bool}
    (proper : Turn.IsProper ⟨⟨ticket.state, target⟩, manual⟩)
    (complete : target = .closed → manual = false → (w.episode id).number = ticket.number →
      (w.episode id).IsComplete)
    {breach : Option Rates} (calls : breach ≠ none → target = .opened ∧ manual = false) :
    Yields (transition react id ticket target manual breach) w
      (fun _ after => a.Unfolds True .acts w after ∧
        (id < w.circuits.size → ticket.number < (after.episode id).number))
      fun cause after => (cause = .unsettled ∨ (w.circuit id).settings.WaitFails cause) ∧
        a.Unfolds (cause ≠ .unsettled) .acts w after := by
  refine yields_transition_of later (fun after asked newer => ?_) (fun wait after asked number drawn => ?_)
    fun cause _ _ fails asked => ⟨.inr ⟨_, _, fails⟩, .asked asked⟩
  · refine ⟨.asked asked, fun _ => ?_⟩
    rw [asked.aside.episode]
    exact newer
  · have aside := asked.aside
    have seen : a.Unfolds True .acts w after := .asked asked
    have turned : after.Goes id _ _ := .change after target wait manual
    have state : (after.episode id).state = ticket.state := by
      obtain newer | ⟨-, state, -⟩ := later
      · rw [aside.episode] at number
        exact absurd number newer.ne'
      · rw [aside.episode, state]
    have called (s : Settings) : breachEvents s breach = [] ∨
        target = .opened ∧ manual = false ∧ ∃ s', ∃ rates : Rates,
          breachEvents s breach = rates.events s' := by
      cases breach with
      | none => exact .inl rfl
      | some rates =>
        obtain ⟨opens, auto⟩ := calls nofun
        exact .inr ⟨opens, auto, s, rates, rfl⟩
    have trace {whole : Prop} {hs : List Happening} {last : World γ}
        (said : a.Trace whole _ _ hs last) :=
      Trace.changed after id (by rwa [state])
        (by
          rw [aside.circuit]
          exact fun opens => ⟨_, drawn opens⟩)
        (by
          rw [aside.episode] at number ⊢
          exact fun closes auto => complete closes auto number)
        (called ((after.enter id target wait manual).circuit id).settings) said
    refine (traces_announce traced breach _ (turned.reaches.sound (seen.sound sound))).mid ?_ ?_
    · rintro _ last ⟨hs, said⟩
      refine ⟨seen.trans ⟨_, trace said⟩, fun there => ?_⟩
      have course := turned.course (show id < after.circuits.size from aside.circuits ▸ there)
      have next : _ = (after.episode id).number + 1 :=
        (congrArg Episode.number course.episode).trans (Episode.next_number ..)
      exact Nat.lt_of_lt_of_le (by omega) (said.reaches.isLater id).number_le
    · rintro cause last unsettled ⟨hs, said⟩
      exact ⟨.inl unsettled, seen.of_whole.trans ⟨_, trace said⟩⟩

/-- A change of state against the current episode; only a complete trial closes by itself. -/
theorem traces_transition_current (traced : TracedReact a react) {w : World γ} (sound : w.Sound)
    {target : State} {manual : Bool}
    (proper : Turn.IsProper ⟨⟨(w.episode id).state, target⟩, manual⟩)
    (complete : target = .closed → manual = true) :
    Traces a (fun _ => True) .acts
      (transition react id (w.episode id) target manual none) w := by
  refine (yields_transition traced sound (.refl _) proper (fun closes auto => ?_)
    (fun called => absurd rfl called)).mono (fun _ _ both => both.1) fun _ _ both => ⟨trivial, both.2⟩
  rw [complete closes] at auto
  cases auto

theorem traced_force (traced : TracedReact a react) (target : State) :
    Traced a (force react id target) := by
  intro w sound
  unfold Traces force
  simp only [yields_bind, yields_get, yields_pure]
  exact traces_transition_current traced sound (.inl rfl) fun _ => rfl

/-- A reset is told of once the circuit is closed. -/
theorem traces_announceReset (traced : TracedReact a react) {w : World γ} (sound : w.Sound) :
    Traces a (· = .unsettled) (.publishes id (resetEvents (w.episode id).state)) (do
      if (w.episode id).state ≠ .closed then
        publish react id (.transition ⟨(w.episode id).state, .closed⟩)
      publish react id .reset : Act γ Unit)
      ((w.enter id .closed .zero true).log id (.reset (w.episode id).state)) := by
  have turned : w.Goes id _ _ := .reset w .zero
  have resets : TracedBut a (· = .unsettled) (.publishes id [.reset])
      (publish react id .reset) := traced_publish traced .reset
  have sound₁ := turned.reaches.sound sound
  unfold resetEvents
  by_cases closed : (w.episode id).state = .closed
  · simp only [if_pos closed, if_neg (not_not_intro closed)]
    exact resets _ sound₁
  · simp only [if_neg closed, if_pos closed]
    exact (traced_publish traced _ _ sound₁).publish_bind sound₁ resets

theorem traced_reset (traced : TracedReact a react) : Traced a (reset react id) := by
  intro w sound
  unfold Traces reset
  simp only [yields_bind, yields_get, yields_modify, w.reset_eq id .zero]
  exact (traces_announceReset traced sound).mid (fun _ _ ⟨_, said⟩ => ⟨_, .reset w id said⟩)
    fun _ _ _ ⟨_, said⟩ => ⟨trivial, _, .reset w id said⟩

/-- What is written once a circuit has entered a state by hand begins with this change. -/
theorem turnsByHand_of_goes {w v last : World γ} (there : id < w.circuits.size) {target : State}
    {wait : Duration} (goes : w.Goes id [w.entering id target wait true] v)
    (said : ∃ entries : List Entry, last.journal = v.journal ++ entries.toArray) :
    w.TurnsByHand id target last := by
  obtain ⟨entries, written, turns⟩ := (goes.course there).journal
  obtain ⟨more, grown⟩ := said
  refine ⟨Journal.turnsOf id more, ?_⟩
  rw [grown, written, Array.toList_append, Array.toList_append, Journal.turnsOf_append,
    Journal.turnsOf_append, turns, List.append_assoc]
  rfl

/-- **A change by hand is written down** before anybody is told of it. -/
theorem yields_force_byHand (traced : TracedReact a react) {w : World γ} (sound : w.Sound)
    (there : id < w.circuits.size) (target : State) :
    Yields (force react id target) w (fun _ after => w.TurnsByHand id target after)
      fun _ _ => True := by
  unfold force
  simp only [yields_bind, yields_get, yields_pure]
  refine yields_transition_of (.refl _) (fun _ _ newer => absurd newer (Nat.lt_irrefl _))
    (fun wait after asked _ _ => ?_) fun _ _ _ _ _ => trivial
  have step : after.Goes id _ _ := .change after target wait true
  rw [asked.aside.entering] at step
  have goes := World.Goes.aside_then asked.aside step
  refine (traces_announce traced none _ (goes.reaches.sound sound)).mono ?_ fun _ _ _ => trivial
  rintro _ last ⟨hs, said⟩
  exact turnsByHand_of_goes there goes ⟨_, said.journal⟩

theorem yields_reset_byHand (traced : TracedReact a react) {w : World γ} (sound : w.Sound)
    (there : id < w.circuits.size) :
    Yields (reset react id) w (fun _ after => w.TurnsByHand id .closed after) fun _ _ => True := by
  have goes : w.Goes id _ _ := .reset w .zero
  unfold reset
  simp only [yields_bind, yields_get, yields_modify, w.reset_eq id .zero]
  refine (traces_announceReset traced sound).mono ?_ fun _ _ _ => trivial
  rintro _ last ⟨hs, said⟩
  exact turnsByHand_of_goes there goes ⟨_, said.journal⟩

/-! ### Requests -/

theorem traced_noteAndRelease : Traced a (noteAndRelease id : Act γ Unit) := by
  intro w _
  unfold Traces noteAndRelease noteDeal release
  simp only [yields_bind, yields_modify, World.modifyEpisode_eq]
  exact .released w rfl

/-- The refusal of a request is counted before it is told of. -/
theorem yields_refuse_counted (traced : TracedReact a react) {w : World γ} (sound : w.Sound) :
    Yields (refuse react id) w
      (fun _ after => a.Unfolds True .acts (w.setEpisode id (w.episode id).reject) after)
      fun cause after =>
        a.Unfolds (cause ≠ .unsettled) .acts (w.setEpisode id (w.episode id).reject) after := by
  have counted : (w.setEpisode id (w.episode id).reject).Sound :=
    (World.Move.mark w id .refused rfl).sound sound
  have told : Traced a (do
      let e := (← get).episode id
      modify (·.log id (.refused e.state e.rejected))
      publishCall react id e.state (pure .notPermitted) : Act γ Unit) := by
    refine .bind .get fun w => .bind (.modify fun w => .write w rfl fun _ => rfl) fun _ => ?_
    exact (traced_publishCall traced _ rfl).traced
  unfold refuse
  rw [yields_bind, yields_modify, World.modifyEpisode_eq]
  exact told.mid counted (fun _ _ led => led) fun _ _ _ led => led

/-- What comes before a request is granted or refused, and what comes after it. -/
def Answers (a : Audience γ) (id : CircuitId) (whole : Prop) (w after : World γ) (granted : Bool) :
    Prop :=
  ∃ before, a.Unfolds whole .acts w before ∧ match granted with
    | true => ∃ taken, (before.episode id).request (before.reading id) = .granted taken ∧
        after = before.setEpisode id taken
    | false => a.Unfolds whole .acts (before.setEpisode id (before.episode id).reject) after

theorem yields_tryAcquire_answers (traced : TracedReact a react) (tries : Nat) {w₀ w : World γ}
    (sound : w₀.Sound) (led : a.Unfolds True .acts w₀ w) : Yields (tryAcquire react id tries) w
      (fun granted after => Answers a id True w₀ after granted)
      fun cause after => a.Unfolds (cause ≠ .unsettled) .acts w₀ after ∨
        Answers a id (cause ≠ .unsettled) w₀ after false := by
  induction tries generalizing w with
  | zero => exact (yields_throw .unsettled).mpr (.inl led.of_whole)
  | succ tries ih =>
    unfold tryAcquire
    simp only [yields_bind, yields_get]
    cases asked : (w.episode id).request (w.reading id) with
    | granted taken =>
      simp only [yields_bind, yields_set, yields_pure]
      exact ⟨w, led, taken, asked, rfl⟩
    | denied =>
      simp only [yields_bind, yields_pure]
      exact (yields_refuse_counted traced (led.sound sound)).mono (fun _ _ told => ⟨w, led, told⟩)
        fun _ _ told => .inr ⟨w, led.of_whole, told⟩
    | expired next =>
      simp only [yields_bind]
      have open_or_trial : next ≠ .closed := by
        obtain ⟨-, rfl⟩ | ⟨-, rfl⟩ := Episode.request_eq_expired_iff.mp asked
        · decide
        · decide
      exact (traces_transition_current traced (led.sound sound)
        (.inr (Episode.isEdge_of_expired asked)) fun closes => absurd closes open_or_trial).mid
        (fun _ _ more => ih (led.trans more)) fun _ _ _ more => .inl (led.of_whole.trans more)

/-- A request is put and answered, and both is noted. -/
theorem yields_tryAcquire_noted (traced : TracedReact a react) (tries : Nat) {w : World γ}
    (sound : w.Sound) : Yields (tryAcquire react id tries) (w.write (.dealt id .asking))
      (fun granted after => a.Unfolds True .acts w (after.write (.dealt id (.asked granted))))
      fun cause after => a.Unfolds (cause ≠ .unsettled) .acts w after := by
  have asking : a.Unfolds True .acts w (w.write (.dealt id .asking)) := .noted w rfl
  refine (yields_tryAcquire_answers traced tries (asking.sound sound) (.refl _)).mono
    (fun granted after answers => ?_) fun cause after gaveUp => ?_
  · obtain ⟨before, led, answers⟩ := answers
    cases granted with
    | true =>
      obtain ⟨taken, asked, rfl⟩ := answers
      have granted : (before.circuit id).dealing? (.asked true) = some .granted := rfl
      have taking : a.Unfolds True .acts before _ :=
        ⟨_, .dealt before id (m := .granted) ⟨taken, asked⟩ rfl granted⟩
      rw [Episode.after, asked] at taking
      exact asking.trans (led.trans taking)
    | false => exact (Unfolds.refused led answers).trans (.noted after rfl)
  · obtain led | ⟨before, led, told⟩ := gaveUp
    · exact asking.of_whole.trans led
    · exact .refused led told

theorem traced_askAndNote (traced : TracedReact a react) (tries : Nat) :
    Traced a (askAndNote react id tries) := by
  intro w sound
  unfold Traces askAndNote noteDeal
  simp only [yields_bind, yields_modify, yields_pure]
  exact (yields_tryAcquire_noted traced tries sound).mono (fun _ _ led => led)
    fun _ _ led => ⟨trivial, led⟩

theorem traced_acquireAndNote (traced : TracedReact a react) (tries : Nat) :
    Traced a (acquireAndNote react id tries) := by
  intro w sound
  unfold Traces acquireAndNote acquire noteDeal
  simp only [yields_bind, yields_modify]
  refine (yields_tryAcquire_noted traced tries sound).mono (fun granted after led => ?_)
    fun _ _ led => ⟨trivial, led⟩
  cases granted with
  | true =>
    simp only [if_true, yields_pure]
    exact led
  | false =>
    simp only [Bool.false_eq_true, if_false, yields_bind, yields_get, yields_pure]
    exact led

/-! ### Reports -/

/-- A trial that asks to be closed is complete. -/
theorem Episode.Sound.isComplete {s s' : Settings} {e : Episode} (sound : e.Sound s') {now : Nat}
    (asks : e.followUp s now = some .close) : e.IsComplete := by
  obtain ⟨trial, -, enough, -⟩ := followUp_eq_close_iff.mp asks
  obtain ⟨r, os, window, took⟩ := sound.trial trial
  rw [window] at enough
  exact ⟨r, window, enough.trans took.total_le_cursor⟩

/-- Thresholds are told of once. -/
theorem Episode.untold_of_tell {s : Settings} {e : Episode} {now : Nat} {rates : Rates}
    (asks : e.followUp s now = some (.tell rates)) : e.phase = .metricsOnly false := by
  unfold followUp at asks
  split at asks
  case h_1 | h_2 | h_3 => cases asks
  case h_4 | h_5 =>
    split_ifs at asks
    all_goals cases asks
  case h_6 reported phase =>
    split_ifs at asks with told
    rw [phase]
    simpa using (Bool.and_eq_true_iff.mp told).2

/-- An act that, unless it is given up, has done what an episode of a circuit asked for. -/
def SeesTo (a : Audience γ) (id : CircuitId) (s : Settings) (now : Nat) (ticket : Episode)
    (x : Act γ Unit) (w : World γ) : Prop :=
  Yields x w
    (fun _ after => a.Unfolds True .acts w after ∧ (id < w.circuits.size →
      Episode.Settled s now ticket (after.episode id)))
    fun cause after => a.Unfolds (cause ≠ .unsettled) .acts w after ∧
      (cause ≠ .unsettled → id < w.circuits.size → (w.circuit id).settings.WaitFails cause)

/-- A change of state ends the episode that asked for it, unless the wait function gives up. -/
theorem seesTo_transition (traced : TracedReact a react) {w : World γ} (sound : w.Sound)
    (s : Settings) (now : Nat) {ticket : Episode} (later : ticket.IsLater (w.episode id))
    {target : State} (edge : Transition.IsEdge ⟨ticket.state, target⟩)
    (complete : target = .closed → (w.episode id).number = ticket.number →
      (w.episode id).IsComplete) {breach : Option Rates} (calls : breach ≠ none → target = .opened) :
    SeesTo a id s now ticket (do
      let _ ← transition react id ticket target false breach) w := by
  unfold SeesTo
  simp only [yields_bind, yields_pure]
  refine (yields_transition traced sound later (.inr edge) (fun closes _ => complete closes)
    fun called => ⟨calls called, rfl⟩).mono ?_ ?_
  · rintro _ after ⟨led, ended⟩
    exact ⟨led, fun there => .inr (ended there)⟩
  · rintro cause after ⟨unsettled | fails, led⟩
    · exact ⟨led, fun settled => absurd unsettled settled⟩
    · exact ⟨led, fun _ _ => fails⟩

/-- **What an outcome asked for** is done, in the episode that recorded it or because that episode is
over.  Thresholds that are told of are a matter of their own. -/
theorem seesTo_follow (traced : TracedReact a react) {w : World γ} (sound : w.Sound) (s : Settings)
    (now : Nat) {ticket : Episode} (later : ticket.IsLater (w.episode id))
    (complete : ticket.followUp s now = some .close → (w.episode id).number = ticket.number →
      (w.episode id).IsComplete)
    (untold : ∀ rates, ticket.followUp s now ≠ some (.tell rates)) :
    SeesTo a id s now ticket (follow react id ticket (ticket.followUp s now)) w := by
  unfold follow
  cases decision : ticket.followUp s now with
  | none =>
    unfold SeesTo
    rw [yields_pure]
    exact ⟨.refl w, fun _ => .inl (by rw [decision]; nofun)⟩
  | some d =>
    cases d with
    | trip rates =>
      have edge : Transition.IsEdge ⟨ticket.state, .opened⟩ := by
        obtain ⟨state, -⟩ | ⟨state, -⟩ := Episode.followUp_eq_trip_iff.mp ⟨rates, decision⟩
        · exact state ▸ .trip
        · exact state ▸ .relapse
      exact seesTo_transition traced sound s now later edge nofun fun _ => rfl
    | close =>
      have edge : Transition.IsEdge ⟨ticket.state, .closed⟩ :=
        (Episode.followUp_eq_close_iff.mp decision).1 ▸ .recover
      exact seesTo_transition traced sound s now later edge (fun _ => complete decision)
        fun called => absurd rfl called
    | tell rates => exact absurd decision (untold rates)

/-- What is told of once, with the event of the call that comes before it. -/
theorem traces_tell (traced : TracedReact a react) {w : World γ} (sound : w.Sound) (rates : Rates)
    (untold : (w.episode id).phase = .metricsOnly false) {state : State} {event : Event}
    (call : event.isOfCall = true) :
    Traces a (· = .unsettled) .acts (do
      modify (·.modifyEpisode id Episode.noteTold)
      publishCall react id state (pure event)
      modify (·.log id (.exceeded rates))
      publishBreach react id rates : Act γ Unit) w := by
  have marked : (w.setEpisode id (w.episode id).noteTold).Sound := by
    have mark : w.Leads True _ := .mark w id (m := .told) rfl rfl
    exact mark.sound sound
  have before : TracedBut a (· = .unsettled) .acts (do
      publishCall react id state (pure event)
      modify (·.log id (.exceeded rates)) : Act γ Unit) :=
    .bind (traced_publishCall traced state call) fun _ => .modify fun w => .write w rfl fun _ => rfl
  have reordered : (do
      publishCall react id state (pure event)
      modify (·.log id (.exceeded rates))
      publishBreach react id rates : Act γ Unit) = (do
        publishCall react id state (pure event)
        modify (·.log id (.exceeded rates))) >>= fun _ => publishBreach react id rates := by
    rw [bind_assoc]
  rw [Traces, yields_bind, yields_modify, World.modifyEpisode_eq, reordered, yields_bind]
  refine before.mid marked ?_ ?_
  · rintro _ after ⟨hs, said⟩
    refine (traces_publishBreach traced rates (said.reaches.sound marked)).mid ?_ ?_
    · rintro _ last ⟨hs', more⟩
      exact ⟨_, .told id _ rates untold said more⟩
    · rintro cause last unsettled ⟨hs', more⟩
      exact ⟨unsettled, _, .told id _ rates untold (said.mono fun _ => trivial) more⟩
  · rintro cause after rfl ⟨hs, said⟩
    exact ⟨rfl, _, .told id (w.circuit id).settings rates untold said
      (.silence (fun settled => settled rfl) after id _)⟩

/-- What comes between an outcome and the return of its report. -/
theorem seesTo_conclude (id : CircuitId) (traced : TracedReact a react) {w : World γ}
    (sound : w.Sound) (s : Settings) (now : Nat) {event : Event} (call : event.isOfCall = true) :
    SeesTo a id s now (w.episode id) (do
      if ((w.episode id).followUp s now).any Decision.isTold then
        modify (·.modifyEpisode id Episode.noteTold)
      publishCall react id (w.episode id).state (pure event)
      follow react id (w.episode id) ((w.episode id).followUp s now)) w := by
  by_cases told : ∃ rates, (w.episode id).followUp s now = some (.tell rates)
  · obtain ⟨rates, decision⟩ := told
    have asks (last : Episode) : Episode.Settled s now (w.episode id) last := by
      refine .inl fun d eq => ?_
      rw [decision] at eq
      cases eq
      rfl
    rw [decision]
    exact (traces_tell traced sound rates (Episode.untold_of_tell decision) call).mid
      (fun _ _ led => ⟨led, fun _ => asks _⟩)
      fun _ _ unsettled led => ⟨led, fun settled => absurd unsettled settled⟩
  · have untold (rates : Rates) : (w.episode id).followUp s now ≠ some (.tell rates) :=
      fun eq => told ⟨rates, eq⟩
    have quiet : ((w.episode id).followUp s now).any Decision.isTold = false := by
      cases decision : (w.episode id).followUp s now with
      | none => rfl
      | some d =>
        cases d with
        | trip | close => rfl
        | tell rates => exact absurd decision (untold rates)
    unfold SeesTo
    simp only [quiet, Bool.false_eq_true, if_false]
    simp only [yields_bind]
    refine (traced_publishCall traced _ call).mid sound (fun _ after said => ?_) ?_
    -- consumers were told, and the episode may be over
    · refine (seesTo_follow traced (said.sound sound) s now (said.reaches.isLater id) ?_ untold).mono
        ?_ ?_
      · intro asks same
        by_cases there : id < w.circuits.size
        · obtain ⟨-, -, _, -, evolves⟩ := said.leads.story id there
          exact evolves.isComplete ((sound.episodes id).isComplete asks) same
        · -- what stands for a missing circuit is no trial
          have trial := (Episode.followUp_eq_close_iff.mp asks).1
          rw [World.episode, World.circuit_of_size_le w (Nat.le_of_not_lt there)] at trial
          cases trial
      · rintro _ last ⟨more, settled⟩
        exact ⟨said.trans more, fun there => settled (said.leads.size there)⟩
      · rintro cause last ⟨more, fails⟩
        refine ⟨said.of_whole.trans more, fun settled there => ?_⟩
        rw [← (said.leads.story id there).settings]
        exact fails settled (said.leads.size there)
    -- the steps were used up before all consumers were told
    · intro cause after unsettled said
      exact ⟨said, fun settled => absurd unsettled settled⟩

/-- **An outcome** and all that comes before its report returns. -/
theorem yields_record_seesTo (traced : TracedReact a react) {w : World γ} (sound : w.Sound) (o : Outcome)
    {event : Event} (call : event.isOfCall = true) :
    Yields (record react id o (pure event)) w
      (fun _ after => a.Unfolds True .acts
        (w.setEpisode id ((w.episode id).observe (w.reading id) o)) after ∧
        (id < w.circuits.size → Episode.Settled (w.circuit id).settings (w.reading id)
          ((w.episode id).observe (w.reading id) o) (after.episode id)))
      fun cause after => a.Unfolds (cause ≠ .unsettled) .acts
        (w.setEpisode id ((w.episode id).observe (w.reading id) o)) after ∧
        (cause ≠ .unsettled → id < w.circuits.size →
          ∃ cause, (w.circuit id).settings.WaitFails cause) := by
  have concluded := seesTo_conclude id traced
    ((World.Move.mark w id (.recorded o) rfl).sound sound) (w.circuit id).settings (w.reading id) call
  unfold record
  simp only [yields_bind, yields_get, yields_modify, World.modifyEpisode_eq w]
  refine concluded.mono ?_ ?_
  · rintro _ after ⟨led, settled⟩
    refine ⟨led, fun there => ?_⟩
    rw [← World.episode_setEpisode_self w ((w.episode id).observe (w.reading id) o) there]
    exact settled (by rwa [World.setEpisode, World.size_setCircuit])
  · rintro cause after ⟨led, fails⟩
    refine ⟨led, fun settled there => ⟨cause, ?_⟩⟩
    have waits := fails settled (by rwa [World.setEpisode, World.size_setCircuit])
    rwa [World.circuit_setEpisode_self w _ there] at waits

theorem Report.isOfCall_event (d : Duration) (r : Report) (v : Verdict) :
    (r.event d v).isOfCall = true := by
  cases v with
  | success | failure | ignored => rfl

/-- **A report**, from what the user notes before it to what the user notes after. -/
theorem traced_noteAndReport (traced : TracedReact a react) (d : Duration) (r : Report) :
    Traced a (noteAndReport react id d r) := by
  intro w sound
  have started : (w.write (.dealt id (.reporting d r))).Sound := by
    have aside : w.Aside (w.write (.dealt id (.reporting d r))) := .write w fun _ => rfl
    exact aside.reaches.sound sound
  unfold Traces noteAndReport noteDeal
  simp only [yields_bind, yields_modify]
  refine yields_tell (fun verdict o after _ counts asked => ?_) (fun after ignored uncounted asked => ?_)
    fun cause after unread asked => ?_
  · -- the functions that are asked before the outcome is recorded may as well be asked after it
    have aside := asked.aside
    have recorded : Yields (record react id o (pure (r.event d verdict))) after _ _ :=
      yields_record_seesTo traced (aside.reaches.sound started) o
        (Report.isOfCall_event d r verdict)
    rw [aside.episode, aside.reading, aside.circuit] at recorded
    have classified : a.Unfolds True .acts _ _ := .asked
      (asked.setEpisode id ((w.episode id).observe (w.reading id) o))
    refine recorded.mono ?_ ?_
    · rintro _ last ⟨led, settled⟩
      obtain ⟨hs, trace⟩ := classified.trans led
      exact ⟨_, .reported id counts trace fun there => settled (by rwa [aside.circuits])⟩
    · rintro cause last ⟨led, fails⟩
      obtain ⟨hs, trace⟩ := classified.of_whole.trans led
      exact ⟨trivial, _, .abandoned id counts trace fun done there =>
        fails done (by rwa [aside.circuits])⟩
  · have aside := asked.aside
    have released : a.Unfolds True .acts w (after.setEpisode id (w.episode id).release) :=
      (Unfolds.released w (Circuit.dealing?_reporting_of_ignored ignored)).trans
        (.asked (asked.setEpisode id _))
    unfold ignore release
    simp only [yields_bind, yields_get, yields_modify, World.modifyEpisode_eq, aside.episode]
    refine (traced_publishCall traced _ (Report.isOfCall_event d r .ignored)).mid
      (released.sound sound) (fun _ last more => ?_)
      fun _ _ _ more => ⟨trivial, released.of_whole.trans more⟩
    have led := released.trans more
    refine led.trans (.noted last ?_)
    rw [Circuit.dealing?_congr (led.terms id)]
    exact Circuit.dealing?_reported_of_uncounted uncounted
  · exact ⟨trivial, (Unfolds.noted w (Circuit.dealing?_reporting_of_unread unread)).trans
      (.asked asked)⟩

/-- Reading metrics never gives up. -/
theorem traced_readMetrics : TracedBut a causes .acts (readMetrics id : Act γ Metrics) := by
  intro w _
  unfold Traces readMetrics
  simp only [yields_bind, yields_get, yields_modify, yields_pure]
  rw [World.modifyEpisode_eq]
  exact ⟨_, .settled w id⟩

end Acts

section Alarms

variable {react : CircuitId → React γ}

/-! ### Timers -/

/-- An alarm that keeps to its contract ends the episode that left it, along an edge. -/
theorem traces_ring (traced : ∀ id, TracedReact a (react id)) (busy : List CircuitId) {w : World γ}
    (sound : w.Sound) {source : TimerSource} {handle : Nat} {alarm : Alarm}
    (serves : w.Serves source handle alarm) :
    Traces a (fun _ => True) .acts (ring react busy alarm) w := by
  unfold Traces ring
  simp only [yields_bind, yields_get, yields_ite, yields_pure, Bool.and_eq_true, beq_iff_eq]
  split
  case isTrue both =>
    obtain ⟨due, timeout⟩ := serves.target both.2.symm
    have open_or_trial : alarm.target ≠ .closed := by
      obtain ⟨-, target⟩ | ⟨-, target⟩ := Episode.timeout_eq timeout
      · rw [target]
        decide
      · rw [target]
        decide
    exact traces_transition_current (traced alarm.circuit) sound
      (.inr (Episode.isEdge_of_timeout timeout)) fun closes => absurd closes open_or_trial
  case isFalse => exact .refl w

theorem traces_ringAlone (traced : ∀ id, TracedReact a (react id)) (busy : List CircuitId)
    {w : World γ} (sound : w.Sound) {source : TimerSource} {handle : Nat} {wakeup : Wakeup}
    (serves : w.Serves source handle wakeup.alarm) :
    Traces a (fun _ => True) .acts (ringAlone react busy wakeup) w := by
  have rung := traces_ring traced busy sound serves
  refine yields_ringAlone (rung.mono (fun _ _ led => led) fun cause after gaveUp => ?_)
  exact ⟨fun _ => gaveUp, fun settled => gaveUp.2.mono fun _ => settled⟩

/-- **A batch of timers** has traces, as long as each keeps to its contract when its turn comes. -/
theorem yields_runBatch_traces {τ : Type} {isCancelled : Nat → Act γ Bool} {run : τ → Act γ Unit}
    {source : TimerSource} (alarm : τ → Alarm) (looks : ∀ handle, Traced a (isCancelled handle))
    (runs : ∀ (w : World γ), w.Sound → ∀ handle task, w.Serves source handle (alarm task) →
      Traces a (fun _ => True) .acts (run task) w)
    (batch : List (Timer τ)) {w₀ w : World γ} (sound : w₀.Sound) (led : a.Unfolds True .acts w₀ w)
    (serves : ∀ t ∈ batch, w.Serves source t.handle (alarm t.task)) :
    Yields (Timers.runBatch isCancelled run batch) w (fun _ after => a.Unfolds True .acts w₀ after)
      fun cause after => True ∧ a.Unfolds (cause ≠ .unsettled) .acts w₀ after := by
  induction batch generalizing w with
  | nil =>
    unfold Timers.runBatch
    rw [yields_pure]
    exact led
  | cons t batch ih =>
    unfold Timers.runBatch
    simp only [yields_bind, yields_ite, yields_pure]
    refine (looks t.handle).mid (led.sound sound) (fun cancelled seen looked => ?_)
      fun _ _ _ looked => ⟨trivial, led.of_whole.trans looked⟩
    have reached := led.trans looked
    obtain ⟨first, later⟩ := List.forall_mem_cons.mp serves
    split
    · exact ih reached fun t' mem => looked.reaches.serves (later t' mem)
    · refine (runs seen (reached.sound sound) _ _ (looked.reaches.serves first)).mid
        (fun _ after more => ?_) fun _ _ _ gaveUp => ⟨trivial, reached.of_whole.trans gaveUp⟩
      exact ih (reached.trans more) fun t' mem =>
        more.reaches.serves (looked.reaches.serves (later t' mem))

theorem traced_runTimers (traced : ∀ id, TracedReact a (react id)) (busy : List CircuitId) :
    Traced a (runTimers react busy) := by
  intro w sound
  have drained : a.Unfolds True .acts w w.withoutTimers := .beside (.drain w) rfl rfl rfl
  unfold Traces runTimers
  simp only [yields_bind, yields_get, yields_modify]
  exact yields_runBatch_traces (fun alarm => alarm) (fun _ => .bind .get fun _ => .pure _)
    (fun _ sound _ _ => traces_ring traced busy sound) w.timers.pending sound drained
    fun t mem => drained.reaches.serves (sound.serves_timers t mem)

theorem traced_runThreads (traced : ∀ id, TracedReact a (react id)) (busy : List CircuitId) :
    Traced a (runThreads react busy) := by
  intro w sound
  have thinned : a.Unfolds True .acts w w.withoutDue := .beside (.thin w _) rfl rfl rfl
  rw [Traces, yields_runThreads_iff]
  exact yields_runBatch_traces Wakeup.alarm (fun _ => .bind .get fun _ => .pure _)
    (fun _ sound _ _ => traces_ringAlone traced busy sound) w.dueThreads sound thinned
    fun t mem => thinned.reaches.serves (sound.serves_threads t (World.mem_dueThreads.mp mem).1)

theorem traced_awaitState (traced : ∀ id, TracedReact a (react id)) (busy : List CircuitId)
    (id : CircuitId) (state : State) (looks : Nat) :
    Traced a (awaitState react busy id state looks) := by
  induction looks with
  | zero => exact .bind .get fun _ => .pure _
  | succ looks ih =>
    refine .bind .get fun w => ?_
    split
    · exact .pure true
    · have passed (w : World γ) :
          a.Unfolds True .acts w { w with elapsed := w.elapsed + nanosPerMilli } :=
        .time w w.clock _
      exact .bind (.modify passed) fun _ => .bind (traced_runThreads traced busy) fun _ => ih

end Alarms

end Breaker

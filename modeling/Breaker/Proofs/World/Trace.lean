import Breaker.Proofs.World.Dealings
import Breaker.Proofs.World.Leads

/-!
# Trace — what happens while acts are carried out, in order

A trace lists the `Happening`s between two worlds: what was written to the journal, which marks circuits
took, and which reports returned.  `Audience.Trace` says what traces there are.  It keeps together what
belongs together: a change of state and the events that it publishes, an event and those who are told of
it, an outcome and all that comes before its report returns, and what a user notes of a permission with
the mark that it comes to.  A `Stage` says what is still to be done: events to be published, subscribers
to be told, a consumer to react.

What consumers do is left open.  One takes an event in with a note (`Audience.greets`), and then does
whatever acts may do, so a trace goes on inside a reaction as it does outside.  A run that stops because
its steps are used up leaves events unpublished and subscribers untold; one that is carried out as a
`whole` does not.

A trace is more than what its acts lead to (`Trace.leads`), and it tells what was written
(`Trace.journal`).  What happened to the permissions of a circuit is what its journal tells of them
(`Trace.dealings`).
-/

namespace Breaker

variable {γ : Type}

/-- Whether an entry is neither an event nor tells of one being taken in or of a change of state. -/
def Entry.isPlain : Entry → Bool
  | .note (.remark _) | .note (.did _ _ _) | .dealt _ _ => true
  | .log _ _ (.refused _ _) | .log _ _ (.exceeded _) | .log _ _ (.consumerAborted _) => true
  | _ => false

theorem Entry.isAside_of_isPlain {entry : Entry} (h : entry.isPlain = true) : entry.IsAside := by
  intro id
  unfold isPlain at h
  split at h
  case h_1 | h_2 | h_3 | h_4 | h_5 | h_6 => rfl
  case h_7 => cases h

/-- Whether an event is about a call. -/
def Event.isOfCall : Event → Bool
  | .success _ | .error _ _ | .ignoredError _ _ | .notPermitted => true
  | _ => false

namespace Episode

/-- Whether an episode takes a mark by itself: a request is granted only if a call may pass. -/
def Takes (e : Episode) (now : Nat) : Mark → Prop
  | .granted => ∃ taken, e.request now = .granted taken
  | .refused | .released | .settled => True
  | .recorded _ | .told | .entered _ _ _ _ => False

theorem Takes.stays {e : Episode} {now : Nat} {m : Mark} (h : e.Takes now m) :
    m.stays = true ∧ m.outcome? = none := by
  cases m with
  | granted | refused | released | settled => exact ⟨rfl, rfl⟩
  | recorded | told | entered => exact h.elim

end Episode

/-- The first part of two lists put together ends in the first or in the second. -/
theorem prefix_append_cases {α : Type} {before first second : List α}
    (h : before <+: first ++ second) :
    before <+: first ∨ ∃ more, before = first ++ more ∧ more <+: second := by
  obtain early | ⟨more, rfl⟩ := List.prefix_or_prefix_of_prefix h (List.prefix_append first second)
  · exact .inl early
  · exact .inr ⟨more, rfl, (List.prefix_append_right_inj first).mp h⟩

/-- Something that happened. -/
inductive Happening where
  /-- An entry was written to the journal. -/
  | wrote (entry : Entry)
  /-- A circuit took a mark. -/
  | marked (id : CircuitId) (m : Mark)
  /-- A report returned whose outcome a circuit had recorded. -/
  | returned (id : CircuitId)

/-- What something comes to at a circuit. -/
@[simp] def Happening.dealing? (id : CircuitId) : Happening → Option Dealing
  | .wrote _ => none
  | .marked circuit m => if circuit = id then m.dealing? else none
  | .returned circuit => if circuit = id then some .returned else none

/-- The entry that was written. -/
def Happening.entry? : Happening → Option Entry
  | .wrote entry => some entry
  | _ => none

/-- What was written, in order. -/
def Happening.entries (hs : List Happening) : List Entry := hs.filterMap entry?

section Entries

variable (hs hs' : List Happening)

@[simp] theorem Happening.entries_nil : entries [] = [] := rfl

@[simp] theorem Happening.entries_append : entries (hs ++ hs') = entries hs ++ entries hs' :=
  List.filterMap_append

@[simp] theorem Happening.entries_wrote (entry : Entry) :
    entries (.wrote entry :: hs) = entry :: entries hs := rfl

@[simp] theorem Happening.entries_marked (id : CircuitId) (m : Mark) :
    entries (.marked id m :: hs) = entries hs := rfl

@[simp] theorem Happening.entries_returned (id : CircuitId) :
    entries (.returned id :: hs) = entries hs := rfl

end Entries

/-- What happened to the permissions of a circuit, in order. -/
def Happening.dealings (id : CircuitId) (hs : List Happening) : List Dealing :=
  hs.filterMap (dealing? id)

section Dealings

variable (id : CircuitId) (hs hs' : List Happening)

@[simp] theorem Happening.dealings_nil : dealings id [] = [] := rfl

@[simp] theorem Happening.dealings_append :
    dealings id (hs ++ hs') = dealings id hs ++ dealings id hs' := List.filterMap_append

@[simp] theorem Happening.dealings_cons (h : Happening) :
    dealings id (h :: hs) = (h.dealing? id).toList ++ dealings id hs := by
  unfold dealings
  rw [List.filterMap_cons]
  cases h.dealing? id with
  | none | some => rfl

end Dealings

/-- What is still to be done. -/
inductive Stage where
  /-- Anything. -/
  | acts
  /-- A circuit publishes events, one after another. -/
  | publishes (id : CircuitId) (events : List Event)
  /-- Subscribers are told of an event of the circuit of a name, one after another. -/
  | tells (name : String) (event : Event) (subscriptions : List (Subscription ConsumerId))
  /-- A consumer reacts to an event of the circuit of a name. -/
  | reacts (consumer : ConsumerId) (name : String) (event : Event)

/-- What the listening side does by itself: subscriptions change, and what it remembers. -/
structure World.Listens (w w' : World γ) : Prop where
  reaches : w.Reaches w'
  journal : w'.journal = w.journal
  size : w'.circuits.size = w.circuits.size
  circuit : ∀ id, ∃ roster, w'.circuit id = { w.circuit id with roster := roster }

theorem World.Listens.episode {w w' : World γ} (h : w.Listens w') (id : CircuitId) :
    w'.episode id = w.episode id := by
  obtain ⟨roster, eq⟩ := h.circuit id
  rw [World.episode, eq]
  rfl

namespace World

/-- What a circuit counts calls by stays as it is, whichever episode is marked. -/
theorem terms_setEpisode (w : World γ) (other id : CircuitId) (e : Episode) :
    ((w.setEpisode other e).circuit id).terms = (w.circuit id).terms := by
  rw [circuit_setEpisode]
  split_ifs with own
  · rw [own.1]
    rfl
  · rfl

theorem terms_enter (w : World γ) (other id : CircuitId) (target : State) (wait : Duration)
    (manual : Bool) : ((w.enter other target wait manual).circuit id).terms = (w.circuit id).terms := by
  obtain ⟨e, circuit⟩ := w.circuit_enter other target wait manual id
  rw [circuit]
  rfl

end World

/-- That a request is about to be put comes to nothing. -/
theorem Entry.dealing?_asking (w : World γ) (id other : CircuitId) :
    Entry.dealing? (w.circuit other) other (.dealt id .asking) = none := by
  rw [dealing?, Circuit.dealing?, ite_self]

/-- Those who listen: with which note a consumer takes an event in, and what they do with the
subscriptions and with what they remember. -/
structure Audience (γ : Type) where
  greets : γ → ConsumerId → String → Event → Option Note
  arranges : World γ → World γ → Prop
  listens : ∀ {w w'}, arranges w w' → w.Listens w'

namespace Audience

open World

/-- What happens between two worlds. -/
inductive Trace (a : Audience γ) (whole : Prop) :
    Stage → World γ → List Happening → World γ → Prop where
  | refl (w : World γ) : Trace a whole .acts w [] w
  | trans {w₁ w₂ w₃ : World γ} {hs hs' : List Happening} (h : Trace a whole .acts w₁ hs w₂)
      (h' : Trace a whole .acts w₂ hs' w₃) : Trace a whole .acts w₁ (hs ++ hs') w₃
  | beside {w w' : World γ} (h : w.Move w') (circuits : w'.circuits = w.circuits)
      (journal : w'.journal = w.journal) (guest : w'.guest = w.guest) :
      Trace a whole .acts w [] w'
  | arranged {w w' : World γ} (h : a.arranges w w') : Trace a whole .acts w [] w'
  /-- An entry is written that tells of no permission. -/
  | wrote (w : World γ) {entry : Entry} (plain : entry.isPlain = true)
      (idle : ∀ id, entry.dealing? (w.circuit id) id = none) :
      Trace a whole .acts w [.wrote entry] (w.write entry)
  /-- Metrics are read. -/
  | settled (w : World γ) (id : CircuitId) : Trace a whole .acts w [.marked id .settled]
      (w.setEpisode id ((w.episode id).settle (w.reading id)))
  /-- A request is put, and is refused after episodes whose time was over gave way. -/
  | refused {w w₁ w' : World γ} (id : CircuitId) {hs hs' : List Happening}
      (h : Trace a whole .acts (w.write (.dealt id .asking)) hs w₁)
      (h' : Trace a whole .acts (w₁.setEpisode id (w₁.episode id).reject) hs' w') :
      Trace a whole .acts w (.wrote (.dealt id .asking) :: (hs ++ .marked id .refused :: hs')) w'
  /-- An episode takes the mark that was noted. -/
  | dealt (w : World γ) (id : CircuitId) {m : Mark} {deal : Deal} {dealing : Dealing}
      (takes : (w.episode id).Takes (w.reading id) m) (comes : m.dealing? = some dealing)
      (told : (w.circuit id).dealing? deal = some dealing) :
      Trace a whole .acts w [.wrote (.dealt id deal), .marked id m]
        ((w.write (.dealt id deal)).setEpisode id
          ((w.episode id).after (w.circuit id).settings (w.reading id) m))
  /-- Thresholds are told of for the first time, and rates that reached them are published later. -/
  | told {w w₁ w' : World γ} (id : CircuitId) {hs hs' : List Happening} (s : Settings)
      (rates : Rates) (untold : (w.episode id).phase = .metricsOnly false)
      (h : Trace a whole .acts (w.setEpisode id (w.episode id).noteTold) hs w₁)
      (h' : Trace a whole (.publishes id (rates.events s)) w₁ hs' w') :
      Trace a whole .acts w (.marked id .told :: (hs ++ hs')) w'
  /-- A call is reported whose outcome counts, and the report returns. -/
  | reported {w w' : World γ} (id : CircuitId) {d : Duration} {r : Report} {o : Outcome}
      {hs : List Happening} (counts : (w.circuit id).outcome? d r = some o)
      (h : Trace a whole .acts ((w.write (.dealt id (.reporting d r))).setEpisode id
        ((w.episode id).observe (w.reading id) o)) hs w')
      (settled : id < w.circuits.size → Episode.Settled (w.circuit id).settings (w.reading id)
        ((w.episode id).observe (w.reading id) o) (w'.episode id)) :
      Trace a whole .acts w (.wrote (.dealt id (.reporting d r)) :: .marked id (.recorded o) ::
        (hs ++ [.returned id, .wrote (.dealt id (.reported d r))]))
        (w'.write (.dealt id (.reported d r)))
  /-- A call is reported whose outcome counts, and the report is given up. -/
  | abandoned {w w' : World γ} (id : CircuitId) {d : Duration} {r : Report} {o : Outcome}
      {hs : List Happening} (counts : (w.circuit id).outcome? d r = some o)
      (h : Trace a whole .acts ((w.write (.dealt id (.reporting d r))).setEpisode id
        ((w.episode id).observe (w.reading id) o)) hs w')
      (fails : whole → id < w.circuits.size →
        ∃ cause, (w.circuit id).settings.WaitFails cause) :
      Trace a whole .acts w
        (.wrote (.dealt id (.reporting d r)) :: .marked id (.recorded o) :: hs) w'
  | changed (w : World γ) {w' : World γ} (id : CircuitId) {target : State} {wait : Duration}
      {manual : Bool} {breach : List Event} {hs : List Happening}
      (proper : Turn.IsProper ⟨⟨(w.episode id).state, target⟩, manual⟩)
      (drawn : target = .opened → (w.circuit id).settings.Draws
        (Episode.attemptsOnEntry (w.episode id).state (w.episode id).attempts target manual) wait)
      (complete : target = .closed → manual = false → (w.episode id).IsComplete)
      (told : breach = [] ∨
        target = .opened ∧ manual = false ∧ ∃ s, ∃ rates : Rates, breach = rates.events s)
      (h : Trace a whole (.publishes id (breach ++ [.transition ⟨(w.episode id).state, target⟩]))
        ((w.enter id target wait manual).log id (.transition ⟨(w.episode id).state, target⟩
          (Episode.attemptsOnEntry (w.episode id).state (w.episode id).attempts target manual)
          ((w.reading id - (w.episode id).enteredAt) / nanosPerMilli) manual)) hs w') :
      Trace a whole .acts w (.marked id (w.entering id target wait manual) ::
        .wrote (.log id (w.circuit id).name (.transition ⟨(w.episode id).state, target⟩
          (Episode.attemptsOnEntry (w.episode id).state (w.episode id).attempts target manual)
          ((w.reading id - (w.episode id).enteredAt) / nanosPerMilli) manual)) :: hs) w'
  | reset (w : World γ) {w' : World γ} (id : CircuitId) {hs : List Happening}
      (h : Trace a whole (.publishes id (resetEvents (w.episode id).state))
        ((w.enter id .closed .zero true).log id (.reset (w.episode id).state)) hs w') :
      Trace a whole .acts w (.marked id (w.entering id .closed .zero true) ::
        .wrote (.log id (w.circuit id).name (.reset (w.episode id).state)) :: hs) w'
  /-- Events about calls may be published at any time. -/
  | called {w w' : World γ} {id : CircuitId} {events : List Event} {hs : List Happening}
      (calls : ∀ event ∈ events, event.isOfCall = true)
      (h : Trace a whole (.publishes id events) w hs w') : Trace a whole .acts w hs w'
  | said (w : World γ) (id : CircuitId) : Trace a whole (.publishes id []) w [] w
  | published {w w₁ w' : World γ} {id : CircuitId} {event : Event} {events : List Event}
      {hs hs' : List Happening}
      (h : Trace a whole (.tells (w.circuit id).name event ((w.circuit id).roster.addressees event))
        (w.write (.published id event)) hs w₁)
      (h' : Trace a whole (.publishes id events) w₁ hs' w') :
      Trace a whole (.publishes id (event :: events)) w
        (.wrote (.published id event) :: (hs ++ hs')) w'
  | unsaid {w w' : World γ} {id : CircuitId} {event : Event} {events : List Event}
      {hs : List Happening} (cut : ¬whole) (h : Trace a whole (.publishes id events) w hs w') :
      Trace a whole (.publishes id (event :: events)) w hs w'
  | allTold (w : World γ) (name : String) (event : Event) :
      Trace a whole (.tells name event []) w [] w
  | heard {w w₁ w' : World γ} {name : String} {event : Event} {s : Subscription ConsumerId}
      {rest : List (Subscription ConsumerId)} {hs hs' : List Happening}
      (h : Trace a whole (.reacts s.consumer name event) w hs w₁)
      (h' : Trace a whole (.tells name event rest) w₁ hs' w') :
      Trace a whole (.tells name event (s :: rest)) w (hs ++ hs') w'
  | greeted {w w' : World γ} {consumer : ConsumerId} {name : String} {event : Event} {n : Note}
      {hs : List Happening} (greets : a.greets w.guest consumer name event = some n)
      (h : Trace a whole .acts (w.write (.note n)) hs w') :
      Trace a whole (.reacts consumer name event) w (.wrote (.note n) :: hs) w'
  | mute {w w' : World γ} {consumer : ConsumerId} {name : String} {event : Event}
      {hs : List Happening} (greets : a.greets w.guest consumer name event = none)
      (h : Trace a whole .acts w hs w') : Trace a whole (.reacts consumer name event) w hs w'
  | unheard (w : World γ) {consumer : ConsumerId} {name : String} {event : Event} (cut : ¬whole) :
      Trace a whole (.reacts consumer name event) w [] w

/-- What becomes of the subscriptions and of what the listening side remembers. -/
inductive Rearranges (a : Audience γ) : World γ → World γ → Prop where
  | same {w w' : World γ} (guest : w'.guest = w.guest)
      (roster : ∀ id, (w'.circuit id).roster = (w.circuit id).roster) : Rearranges a w w'
  | arranged {w w' : World γ} (h : a.arranges w w') : Rearranges a w w'
  | trans {w₁ w₂ w₃ : World γ} (h : Rearranges a w₁ w₂) (h' : Rearranges a w₂ w₃) :
      Rearranges a w₁ w₃

namespace Rearranges

variable {a : Audience γ}

theorem refl (w : World γ) : a.Rearranges w w := .same rfl fun _ => rfl

theorem write (w : World γ) (entry : Entry) : a.Rearranges w (w.write entry) := .same rfl fun _ => rfl

theorem setEpisode (w : World γ) (id : CircuitId) (e : Episode) :
    a.Rearranges w (w.setEpisode id e) := .same rfl (w.roster_setEpisode id · e)

theorem entered (w : World γ) (id : CircuitId) (target : State) (wait : Duration) (manual : Bool)
    (record : LogRecord) : a.Rearranges w ((w.enter id target wait manual).log id record) :=
  .same (w.guest_enter id target wait manual) (w.roster_enter id target wait manual)

end Rearranges

namespace Trace

variable {a : Audience γ} {whole : Prop} {stage : Stage} {w w' w₁ w₂ : World γ}
  {hs hs' : List Happening}

/-- Less may be carried out as a whole. -/
theorem mono {whole' : Prop} (less : whole' → whole) (h : a.Trace whole stage w hs w') :
    a.Trace whole' stage w hs w' := by
  induction h with
  | refl w => exact .refl w
  | trans _ _ ih ih' => exact ih.trans ih'
  | beside h circuits journal guest => exact .beside h circuits journal guest
  | arranged h => exact .arranged h
  | wrote w plain idle => exact .wrote w plain idle
  | settled w id => exact .settled w id
  | refused id _ _ ih ih' => exact .refused id ih ih'
  | dealt w id takes comes told => exact .dealt w id takes comes told
  | told id s rates untold _ _ ih ih' => exact .told id s rates untold ih ih'
  | reported id counts _ settled ih => exact .reported id counts ih settled
  | abandoned id counts _ fails ih => exact .abandoned id counts ih fun holds => fails (less holds)
  | changed w id proper drawn complete told _ ih => exact .changed w id proper drawn complete told ih
  | reset w id _ ih => exact .reset w id ih
  | called calls _ ih => exact .called calls ih
  | said w id => exact .said w id
  | published _ _ ih ih' => exact .published ih ih'
  | unsaid cut _ ih => exact .unsaid (fun holds => cut (less holds)) ih
  | allTold w name event => exact .allTold w name event
  | heard _ _ ih ih' => exact .heard ih ih'
  | greeted greets _ ih => exact .greeted greets ih
  | mute greets _ ih => exact .mute greets ih
  | unheard w cut => exact .unheard w fun holds => cut (less holds)

/-! ### What the acts lead to -/

private theorem leads_write (w : World γ) {entry : Entry} (aside : entry.IsAside) :
    w.Leads whole (w.write entry) := .aside (.write w aside)

/-- **A trace leads on.** -/
theorem leads (h : a.Trace whole stage w hs w') : w.Leads whole w' := by
  induction h with
  | refl w | said w | allTold w | unheard w => exact .refl w
  | trans _ _ ih ih' => exact ih.trans ih'
  | beside h circuits journal => exact .of_move h circuits journal
  | arranged h =>
    have listens := a.listens h
    refine ⟨listens.reaches, fun id _ => ?_⟩
    obtain ⟨roster, circuit⟩ := listens.circuit id
    exact .still listens.size.ge (by rw [circuit]) (listens.episode id)
      ⟨[], by rw [listens.journal]; exact (Array.append_empty).symm, rfl⟩
  | wrote w plain => exact leads_write w (Entry.isAside_of_isPlain plain)
  | settled w id => exact .mark w id (m := .settled) rfl rfl
  | @refused _ w₁ _ id _ _ _ _ ih ih' =>
    have mark : w₁.Leads whole _ := .mark w₁ id (m := .refused) rfl rfl
    exact (leads_write _ fun _ => rfl).trans (ih.trans (mark.trans ih'))
  | @dealt w id _ deal _ takes =>
    exact (leads_write w fun _ => rfl).trans
      (.mark (w.write (.dealt id deal)) id takes.stays.1 takes.stays.2)
  | @told w _ _ id _ _ _ _ _ _ _ ih ih' =>
    have mark : w.Leads whole _ := .mark w id (m := .told) rfl rfl
    exact mark.trans (ih.trans ih')
  | @reported w _ id d r _ _ _ _ settled ih =>
    have noted : w.Leads whole (w.write (.dealt id (.reporting d r))) := leads_write w fun _ => rfl
    refine noted.trans (.trans (.recorded rfl ih fun _ there => .inl ?_)
      (leads_write _ fun _ => rfl))
    rw [World.episode_setEpisode_self _ _ there]
    exact settled there
  | @abandoned w _ id d r _ _ _ _ fails ih =>
    have noted : w.Leads whole (w.write (.dealt id (.reporting d r))) := leads_write w fun _ => rfl
    exact noted.trans (.recorded rfl ih fun holds there => .inr (fails holds there))
  | changed w id proper drawn _ _ _ ih => exact .trans (.change w id _ _ _ proper drawn) ih
  | reset w id _ ih => exact .trans (.reset w id) ih
  | called _ _ ih | unsaid _ _ ih | mute _ _ ih => exact ih
  | @published w _ _ _ _ _ _ _ _ _ ih ih' =>
    exact .trans (leads_write w fun _ => rfl) (ih.trans ih')
  | heard _ _ ih ih' => exact ih.trans ih'
  | @greeted w _ _ _ _ _ _ _ _ ih => exact .trans (leads_write w fun _ => rfl) ih

theorem reaches (h : a.Trace whole stage w hs w') : w.Reaches w' := h.leads.reaches

/-- A log record of a circuit that entered a state. -/
private theorem log_enter (w : World γ) (id : CircuitId) (target : State) (wait : Duration)
    (manual : Bool) (record : LogRecord) :
    ((w.enter id target wait manual).log id record).journal
      = w.journal.push (.log id (w.circuit id).name record) := by
  obtain ⟨e, circuit⟩ := w.circuit_enter id target wait manual id
  rw [World.log, World.write, World.journal_enter, circuit]

/-- **A trace tells what was written.** -/
theorem journal (h : a.Trace whole stage w hs w') :
    w'.journal = w.journal ++ (Happening.entries hs).toArray := by
  induction h with
  | refl | said | allTold | unheard => exact (Array.append_empty).symm
  | trans _ _ ih ih' | heard _ _ ih ih' =>
    rw [ih', ih]
    simp
  | beside _ _ journal =>
    rw [journal]
    exact (Array.append_empty).symm
  | arranged h =>
    rw [(a.listens h).journal]
    exact (Array.append_empty).symm
  | wrote => simp [World.write]
  | settled => simp [World.setEpisode]
  | refused _ _ _ ih ih' =>
    rw [ih', World.setEpisode, World.journal_setCircuit, ih, World.write]
    simp
  | dealt => simp [World.setEpisode, World.write]
  | told _ _ _ _ _ _ ih ih' =>
    rw [ih', ih, World.setEpisode, World.journal_setCircuit]
    simp
  | reported _ _ _ _ ih =>
    rw [World.write, ih, World.setEpisode, World.journal_setCircuit, World.write]
    simp
  | abandoned _ _ _ _ ih =>
    rw [ih, World.setEpisode, World.journal_setCircuit, World.write]
    simp
  | @changed w _ id target wait manual _ _ _ _ _ _ _ ih =>
    rw [ih, log_enter]
    simp
  | @reset w _ id _ _ ih =>
    rw [ih, log_enter]
    simp
  | called _ _ ih | unsaid _ _ ih | mute _ _ ih => exact ih
  | published _ _ ih ih' =>
    rw [ih', ih, World.write]
    simp
  | greeted _ _ ih =>
    rw [ih, World.write]
    simp

/-! ### What becomes of the listening side -/

/-- **A trace arranges** the listening side, and touches it in no other way. -/
theorem rearranges (h : a.Trace whole stage w hs w') : a.Rearranges w w' := by
  induction h with
  | refl w | said w | allTold w | unheard w => exact .refl w
  | trans _ _ ih ih' | heard _ _ ih ih' => exact .trans ih ih'
  | beside _ circuits _ guest => exact .same guest fun id => by rw [circuit, circuits]; rfl
  | arranged h => exact .arranged h
  | wrote w => exact .write w _
  | settled w => exact .setEpisode w _ _
  | @refused w w₁ _ _ _ _ _ _ ih ih' =>
    exact .trans (.write w _) (.trans ih (.trans (.setEpisode w₁ _ _) ih'))
  | dealt w => exact .trans (.write w _) (.setEpisode _ _ _)
  | @told w _ _ _ _ _ _ _ _ _ _ ih ih' => exact .trans (.setEpisode w _ _) (.trans ih ih')
  | @reported w _ _ _ _ _ _ _ _ _ ih =>
    exact .trans (.write w _) (.trans (.setEpisode _ _ _) (.trans ih (.write _ _)))
  | @abandoned w _ _ _ _ _ _ _ _ _ ih => exact .trans (.write w _) (.trans (.setEpisode _ _ _) ih)
  | changed w _ _ _ _ _ _ ih | reset w _ _ ih => exact .trans (.entered w _ _ _ _ _) ih
  | called _ _ ih | unsaid _ _ ih | mute _ _ ih => exact ih
  | @published w _ _ _ _ _ _ _ _ _ ih ih' => exact .trans (.write w _) (.trans ih ih')
  | @greeted w _ _ _ _ _ _ _ _ ih => exact .trans (.write w _) ih

/-- What a circuit counts calls by is for its life. -/
theorem terms (h : a.Trace whole stage w hs w') (id : CircuitId) :
    (w'.circuit id).terms = (w.circuit id).terms := by
  induction h with
  | refl | said | allTold | unheard | wrote => rfl
  | trans _ _ ih ih' | heard _ _ ih ih' | published _ _ ih ih' => exact ih'.trans ih
  | beside _ circuits =>
    rw [circuit, circuits]
    rfl
  | arranged h =>
    obtain ⟨roster, circuit⟩ := (a.listens h).circuit id
    rw [circuit]
    rfl
  | settled w other | dealt w other => exact terms_setEpisode _ other id _
  | refused other _ _ ih ih' => exact ih'.trans ((terms_setEpisode _ other id _).trans ih)
  | told other _ _ _ _ _ ih ih' => exact ih'.trans (ih.trans (terms_setEpisode _ other id _))
  | reported other _ _ _ ih | abandoned other _ _ _ ih =>
    exact ih.trans (terms_setEpisode _ other id _)
  | changed w other _ _ _ _ _ ih | reset w other _ ih =>
    exact ih.trans (terms_enter w other id _ _ _)
  | called _ _ ih | unsaid _ _ ih | mute _ _ ih | greeted _ _ ih => exact ih

/-- Settings are for the life of a circuit. -/
theorem settings (h : a.Trace whole stage w hs w') (id : CircuitId) :
    (w'.circuit id).settings = (w.circuit id).settings := congrArg Prod.fst (h.terms id)

/-! ### What the journal tells of permissions -/

/-- **A trace tells of each dealing**: what happens to the permissions of a circuit is what is noted of
them, in the same order. -/
theorem dealings (h : a.Trace whole stage w hs w') (id : CircuitId) :
    Happening.dealings id hs = Journal.dealings (w.circuit id) id (Happening.entries hs) := by
  have later {stage : Stage} {w w' : World γ} {hs : List Happening}
      (h : a.Trace whole stage w hs w') (entries : List Entry) :
      Journal.dealings (w'.circuit id) id entries = Journal.dealings (w.circuit id) id entries :=
    Journal.dealings_congr id entries (h.terms id)
  have marked (w : World γ) (other : CircuitId) (e : Episode) (entries : List Entry) :
      Journal.dealings ((w.setEpisode other e).circuit id) id entries
        = Journal.dealings (w.circuit id) id entries :=
    Journal.dealings_congr id entries (w.terms_setEpisode other id e)
  have entered (w : World γ) (other : CircuitId) (target : State) (wait : Duration) (manual : Bool)
      (record : LogRecord) (entries : List Entry) :
      Journal.dealings (((w.enter other target wait manual).log other record).circuit id) id entries
        = Journal.dealings (w.circuit id) id entries :=
    Journal.dealings_congr id entries (w.terms_enter other id target wait manual)
  induction h with
  | refl | said | allTold | unheard | beside | arranged => rfl
  | trans h _ ih ih' | heard h _ ih ih' =>
    rw [Happening.dealings_append, ih, ih', later h, Happening.entries_append,
      Journal.dealings_append]
  | wrote w plain idle =>
    rw [Happening.entries_wrote, Journal.dealings_cons, idle id]
    rfl
  | settled w other => simp [Mark.dealing?]
  | refused other h h' ih ih' =>
    rw [marked, later h, World.circuit_write] at ih'
    rw [World.circuit_write] at ih
    simp [ih, ih', Mark.dealing?, Circuit.dealing?]
  | dealt w other takes comes told =>
    by_cases own : other = id
    · subst own
      simp [comes, told]
    · simp [own]
  | told other s rates untold h h' ih ih' =>
    rw [later h, marked] at ih'
    rw [marked] at ih
    simp [ih, ih', Mark.dealing?]
  | reported other counts h settled ih =>
    rw [marked, World.circuit_write] at ih
    by_cases own : other = id
    · subst own
      simp [ih, Mark.dealing?, Circuit.dealing?_reporting_of_counted counts,
        Circuit.dealing?_reported_of_counted counts]
    · simp [own, ih]
  | abandoned other counts h fails ih =>
    rw [marked, World.circuit_write] at ih
    by_cases own : other = id
    · subst own
      simp [ih, Mark.dealing?, Circuit.dealing?_reporting_of_counted counts]
    · simp [own, ih]
  | changed w other proper drawn complete told h ih | reset w other h ih =>
    rw [entered] at ih
    simp [ih, World.entering, Mark.dealing?]
  | called _ _ ih | unsaid _ _ ih | mute _ _ ih => exact ih
  | published h h' ih ih' =>
    rw [later h, World.circuit_write] at ih'
    rw [World.circuit_write] at ih
    simp [ih, ih']
  | greeted greets h ih =>
    rw [World.circuit_write] at ih
    simp [ih]

/-! ### Publishing in parts -/

/-- A run that ends early leaves events unpublished. -/
theorem silence (cut : ¬whole) (w : World γ) (id : CircuitId) (events : List Event) :
    a.Trace whole (.publishes id events) w [] w := by
  induction events with
  | nil => exact .said w id
  | cons event events ih => exact .unsaid cut ih

/-- A run that ends early leaves subscribers untold. -/
theorem neglect (cut : ¬whole) (w : World γ) (name : String) (event : Event)
    (subscriptions : List (Subscription ConsumerId)) :
    a.Trace whole (.tells name event subscriptions) w [] w := by
  induction subscriptions with
  | nil => exact .allTold w name event
  | cons s rest ih => exact .heard (.unheard w cut) ih

theorem publishes_append {id : CircuitId} {events events' : List Event}
    (h : a.Trace whole (.publishes id events) w hs w₁)
    (h' : a.Trace whole (.publishes id events') w₁ hs' w') :
    a.Trace whole (.publishes id (events ++ events')) w (hs ++ hs') w' := by
  induction events generalizing w hs with
  | nil =>
    cases h
    exact h'
  | cons event events ih =>
    cases h with
    | @published _ w₂ _ _ _ _ told rest h h'' =>
      have more := Trace.published h (ih h'')
      rwa [← List.append_assoc] at more
    | unsaid cut h => exact .unsaid cut (ih h)

/-! ### Traces that end early -/

/-- **A trace may end anywhere**: whatever was written first was written by a trace of its own, which
ends early.  The listening side goes on from there. -/
theorem cut (h : a.Trace whole stage w hs w') {before : List Entry}
    (first : before <+: Happening.entries hs) :
    ∃ hs' w₁, Happening.entries hs' = before ∧ a.Trace False stage w hs' w₁ ∧
      a.Rearranges w₁ w' := by
  induction h generalizing before with
  | refl w => exact ⟨[], w, (List.prefix_nil.mp first).symm, .refl w, .refl w⟩
  | said w id => exact ⟨[], w, (List.prefix_nil.mp first).symm, .said w id, .refl w⟩
  | allTold w name event =>
    exact ⟨[], w, (List.prefix_nil.mp first).symm, .allTold w name event, .refl w⟩
  | unheard w => exact ⟨[], w, (List.prefix_nil.mp first).symm, .unheard w not_false, .refl w⟩
  | @beside w w' h circuits journal guest =>
    exact ⟨[], w', (List.prefix_nil.mp first).symm, .beside h circuits journal guest, .refl w'⟩
  | @arranged w w' h => exact ⟨[], w', (List.prefix_nil.mp first).symm, .arranged h, .refl w'⟩
  | settled w id =>
    exact ⟨[.marked id .settled], _, (List.prefix_nil.mp first).symm, .settled w id, .refl _⟩
  | @refused w w₁ w' id hs hs' h h' ih ih' =>
    obtain rfl | ⟨more, rfl, later⟩ := List.prefix_cons_iff.mp first
    · exact ⟨[], w, rfl, .refl w, (Trace.refused id h h').rearranges⟩
    · rw [← Happening.entries, Happening.entries_append] at later
      obtain early | ⟨more, rfl, late⟩ := prefix_append_cases later
      · obtain ⟨hs₁, w₂, rfl, t, rest⟩ := ih early
        exact ⟨_, w₂, rfl, .trans (.wrote w rfl (Entry.dealing?_asking w id)) t,
          rest.trans (.trans (.setEpisode w₁ _ _) h'.rearranges)⟩
      · obtain ⟨hs₁, w₂, rfl, t, rest⟩ := ih' late
        refine ⟨_, w₂, ?_, .refused id (h.mono False.elim) t, rest⟩
        simp
  | @wrote w entry plain idle =>
    obtain rfl | ⟨more, rfl, none⟩ := List.prefix_cons_iff.mp first
    · exact ⟨[], w, rfl, .refl w, .write w entry⟩
    · exact ⟨[.wrote entry], _, by rw [List.prefix_nil.mp none]; rfl, .wrote w plain idle, .refl _⟩
  | @dealt w id m deal _ takes comes told =>
    obtain rfl | ⟨more, rfl, none⟩ := List.prefix_cons_iff.mp first
    · exact ⟨[], w, rfl, .refl w, .trans (.write w _) (.setEpisode _ _ _)⟩
    · exact ⟨_, _, by rw [List.prefix_nil.mp none]; rfl, .dealt w id takes comes told, .refl _⟩
  | trans h h' ih ih' =>
    rw [Happening.entries_append] at first
    obtain early | ⟨more, rfl, late⟩ := prefix_append_cases first
    · obtain ⟨hs', w₁, rfl, t, rest⟩ := ih early
      exact ⟨hs', w₁, rfl, t, rest.trans h'.rearranges⟩
    · obtain ⟨hs', w₁, rfl, t, rest⟩ := ih' late
      exact ⟨_, w₁, Happening.entries_append .., (h.mono False.elim).trans t, rest⟩
  | @told w w₁ w' id hs hs' s rates untold h h' ih ih' =>
    rw [Happening.entries_marked, Happening.entries_append] at first
    obtain early | ⟨more, rfl, late⟩ := prefix_append_cases first
    · obtain ⟨hs₁, w₂, rfl, t, rest⟩ := ih early
      refine ⟨_, w₂, ?_, .told id s rates untold t (.silence not_false w₂ id _),
        rest.trans h'.rearranges⟩
      simp
    · obtain ⟨hs₁, w₂, rfl, t, rest⟩ := ih' late
      refine ⟨_, w₂, ?_, .told id s rates untold (h.mono False.elim) t, rest⟩
      simp
  | @reported w w' id d r o hs counts h settled ih =>
    obtain rfl | ⟨more, rfl, later⟩ := List.prefix_cons_iff.mp first
    · exact ⟨[], w, rfl, .refl w, (Trace.reported id counts h settled).rearranges⟩
    · rw [← Happening.entries] at later
      have within : more <+: Happening.entries hs ++ [.dealt id (.reported d r)] := by
        simpa using later
      obtain early | ⟨last, rfl, late⟩ := prefix_append_cases within
      · obtain ⟨hs₁, w₂, rfl, t, rest⟩ := ih early
        exact ⟨_, w₂, rfl, .abandoned id counts t False.elim, rest.trans (.write w' _)⟩
      · obtain rfl | ⟨none, rfl, nil⟩ := List.prefix_cons_iff.mp late
        · exact ⟨_, w', by simp, .abandoned id counts (h.mono False.elim) False.elim, .write w' _⟩
        · refine ⟨_, _, ?_, .reported id counts (h.mono False.elim) settled, .refl _⟩
          rw [List.prefix_nil.mp nil]
          simp
  | @abandoned w w' id d r o hs counts h fails ih =>
    obtain rfl | ⟨more, rfl, later⟩ := List.prefix_cons_iff.mp first
    · exact ⟨[], w, rfl, .refl w, (Trace.abandoned id counts h fails).rearranges⟩
    · obtain ⟨hs₁, w₂, rfl, t, rest⟩ := ih later
      exact ⟨_, w₂, rfl, .abandoned id counts t False.elim, rest⟩
  | changed w id proper drawn complete told h ih =>
    obtain rfl | ⟨more, rfl, later⟩ := List.prefix_cons_iff.mp first
    · exact ⟨[], w, rfl, .refl w, .trans (.entered w id _ _ _ _) h.rearranges⟩
    · obtain ⟨hs₁, w₂, rfl, t, rest⟩ := ih later
      exact ⟨_, w₂, rfl, .changed w id proper drawn complete told t, rest⟩
  | reset w id h ih =>
    obtain rfl | ⟨more, rfl, later⟩ := List.prefix_cons_iff.mp first
    · exact ⟨[], w, rfl, .refl w, .trans (.entered w id _ _ _ _) h.rearranges⟩
    · obtain ⟨hs₁, w₂, rfl, t, rest⟩ := ih later
      exact ⟨_, w₂, rfl, .reset w id t, rest⟩
  | called calls _ ih =>
    obtain ⟨hs₁, w₂, rfl, t, rest⟩ := ih first
    exact ⟨_, w₂, rfl, .called calls t, rest⟩
  | @published w _ _ id event events _ _ h h' ih ih' =>
    obtain rfl | ⟨more, rfl, later⟩ := List.prefix_cons_iff.mp first
    · exact ⟨[], w, rfl, .silence not_false w id _,
        .trans (.write w _) (h.rearranges.trans h'.rearranges)⟩
    · rw [← Happening.entries, Happening.entries_append] at later
      obtain early | ⟨more, rfl, late⟩ := prefix_append_cases later
      · obtain ⟨hs₁, w₂, rfl, t, rest⟩ := ih early
        refine ⟨_, w₂, ?_, .published t (.silence not_false w₂ id events), rest.trans h'.rearranges⟩
        simp
      · obtain ⟨hs₁, w₂, rfl, t, rest⟩ := ih' late
        refine ⟨_, w₂, ?_, .published (h.mono False.elim) t, rest⟩
        simp
  | unsaid _ _ ih =>
    obtain ⟨hs₁, w₂, rfl, t, rest⟩ := ih first
    exact ⟨_, w₂, rfl, .unsaid not_false t, rest⟩
  | @heard _ _ _ name event _ others _ _ h h' ih ih' =>
    rw [Happening.entries_append] at first
    obtain early | ⟨more, rfl, late⟩ := prefix_append_cases first
    · obtain ⟨hs₁, w₂, rfl, t, rest⟩ := ih early
      refine ⟨_, w₂, ?_, .heard t (.neglect not_false w₂ name event others),
        rest.trans h'.rearranges⟩
      simp
    · obtain ⟨hs₁, w₂, rfl, t, rest⟩ := ih' late
      exact ⟨_, w₂, Happening.entries_append .., .heard (h.mono False.elim) t, rest⟩
  | @greeted w _ consumer name event n _ greets h ih =>
    obtain rfl | ⟨more, rfl, later⟩ := List.prefix_cons_iff.mp first
    · exact ⟨[], w, rfl, .unheard w not_false, .trans (.write w _) h.rearranges⟩
    · obtain ⟨hs₁, w₂, rfl, t, rest⟩ := ih later
      exact ⟨_, w₂, rfl, .greeted greets t, rest⟩
  | mute greets _ ih =>
    obtain ⟨hs₁, w₂, rfl, t, rest⟩ := ih first
    exact ⟨_, w₂, rfl, .mute greets t, rest⟩

end Trace

end Audience

end Breaker

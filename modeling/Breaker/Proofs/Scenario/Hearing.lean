import Breaker.Proofs.Scenario.Always

/-!
# Hearing — what a listener is told of the changes of state

A change of state is announced when it is logged, and told of when its event reaches a listener.  In
between, others are told of what came first, and may change the state again.  So listeners that are told
later may be told of the second change before the first (`changes_heard_crossed`).  But each change
reaches each listener exactly once, and a listener that is told of every change before the next one is
announced is told of them in order (`changes_heard`).

Listeners are told apart by their names here, since these are what the journal shows.  The count behind
the theorem is kept by each happening (`Trace.reckons`): what was received, what is still due to
a listener and what it missed add up to what was announced.
-/

namespace Breaker

open Scenario

namespace Scenario

/-! ### Announcing and receiving -/

/-- How the journal names a listener. -/
inductive Ear where
  | hook (name : String)
  | subscriber (name : String)
  deriving DecidableEq

/-- The name of a listener that is shown events. -/
def Listener.ear? : Listener → Option Ear
  | .hook name true => some (.hook name)
  | .hook _ false => none
  | .subscriber name _ _ _ => some (.subscriber name)

/-- The name of a consumer that is shown events. -/
def Session.ear? (s : Session) (consumer : ConsumerId) : Option Ear :=
  (s.listeners[consumer]?).bind Listener.ear?

end Scenario

/-- The event that a listener is shown by a note. -/
def Note.event? (ear : Ear) : Note → Option Event
  | .hook name _ event => if Ear.hook name = ear then event else none
  | .heard name _ event => if Ear.subscriber name = ear then some event else none
  | .remark _ | .did _ _ _ => none

/-- The change of state that a listener is told of by an entry. -/
def Entry.received? (ear : Ear) : Entry → Option Transition
  | .note n => (n.event? ear).bind Event.transition?
  | .log _ _ _ | .published _ _ | .dealt _ _ => none

/-- The change of state that an entry announces to the listeners of a circuit.  A reset of a circuit that
is closed is none to them. -/
def Entry.announced? (id : CircuitId) : Entry → Option Turn
  | .log circuit _ (.transition change _ _ manual) =>
    if circuit = id then some ⟨change, manual⟩ else none
  | .log circuit _ (.reset source) =>
    if circuit = id ∧ source ≠ .closed then some ⟨⟨source, .closed⟩, true⟩ else none
  | _ => none

namespace Journal

/-- The changes of state that a listener was told of, in order. -/
def received (ear : Ear) (entries : List Entry) : List Transition :=
  entries.filterMap (Entry.received? ear)

/-- The changes of state that were announced to the listeners of a circuit, in order. -/
def announced (id : CircuitId) (entries : List Entry) : List Turn :=
  entries.filterMap (Entry.announced? id)

/-- Whether a listener was told of all changes so far whenever one was announced. -/
def Prompt (ear : Ear) (id : CircuitId) (entries : List Entry) : Prop :=
  ∀ n, (h : n < entries.length) → (entries[n].announced? id).isSome = true →
    (received ear (entries.take n)).length = (announced id (entries.take n)).length

instance (ear : Ear) (id : CircuitId) (entries : List Entry) : Decidable (Prompt ear id entries) :=
  Nat.decidableBallLT _ _

variable (ear : Ear) (id : CircuitId) (entries entries' : List Entry)

@[simp] theorem received_nil : received ear [] = [] := rfl

@[simp] theorem received_append :
    received ear (entries ++ entries') = received ear entries ++ received ear entries' :=
  List.filterMap_append

@[simp] theorem received_cons (entry : Entry) :
    received ear (entry :: entries) = (entry.received? ear).toList ++ received ear entries := by
  rw [received, List.filterMap_cons]
  cases entry.received? ear with
  | none => rfl
  | some change => rfl

@[simp] theorem announced_nil : announced id [] = [] := rfl

@[simp] theorem announced_append :
    announced id (entries ++ entries') = announced id entries ++ announced id entries' :=
  List.filterMap_append

@[simp] theorem announced_cons (entry : Entry) :
    announced id (entry :: entries) = (entry.announced? id).toList ++ announced id entries := by
  rw [announced, List.filterMap_cons]
  cases entry.announced? id with
  | none => rfl
  | some t => rfl

variable {ear id entries}

/-- What is announced leads to where the changes of state lead. -/
theorem announced_path {source last : State} (path : Turn.Path source (turnsOf id entries) last) :
    Turn.Path source (announced id entries) last := by
  induction entries generalizing source with
  | nil => exact path
  | cons entry entries ih =>
    -- a change of state that is not announced is a reset out of the closed state
    have cases : entry.announced? id = entry.turn? id ∨
        entry.announced? id = none ∧ entry.turn? id = some ⟨⟨.closed, .closed⟩, true⟩ := by
      cases entry with
      | note | published | dealt => exact .inl rfl
      | log circuit name record =>
        cases record with
        | transition | refused | exceeded | consumerAborted => exact .inl rfl
        | reset source =>
          rw [Entry.announced?, Entry.turn?]
          by_cases own : circuit = id
          · by_cases closed : source = .closed
            · exact .inr ⟨by simp [closed], by simp [own, closed]⟩
            · exact .inl (by simp [own, closed])
          · exact .inl (by simp [own])
    rw [turnsOf, List.filterMap_cons] at path
    rw [announced_cons]
    obtain same | ⟨unsaid, turn⟩ := cases
    · rw [same]
      cases turn : entry.turn? id with
      | none =>
        rw [turn] at path
        exact ih path
      | some t =>
        rw [turn] at path
        obtain _ | ⟨rest⟩ := path
        exact .cons (ih rest)
    · rw [turn] at path
      rw [unsaid]
      obtain _ | ⟨rest⟩ := path
      exact ih rest

/-- No entry announces one change and tells of another. -/
theorem received?_of_announced? {entry : Entry} (announces : (entry.announced? id).isSome = true) :
    entry.received? ear = none := by
  cases entry with
  | note | published | dealt => cases announces
  | log => rfl

/-- **In order.**  A listener that is told of no change more often than it was announced, and of each
before the next one is announced, is told of them in the order in which they were announced. -/
theorem received_inOrder (prompt : Prompt ear id entries)
    (few : ∀ before, before <+: entries → ∀ change, (received ear before).count change
      ≤ ((announced id before).map Turn.change).count change) :
    received ear entries <+: (announced id entries).map Turn.change := by
  -- at most one change is missing at any time
  suffices ∀ n ≤ entries.length,
      received ear (entries.take n) <+: (announced id (entries.take n)).map Turn.change ∧
        (announced id (entries.take n)).length ≤ (received ear (entries.take n)).length + 1 by
    have all := (this entries.length le_rfl).1
    rwa [List.take_length] at all
  intro n bound
  induction n with
  | zero => simp
  | succ n ih =>
    obtain ⟨ordered, close⟩ := ih (by omega)
    have inside : n < entries.length := by omega
    have fewer := few _ (List.take_prefix (n + 1) entries)
    rw [← List.take_append_getElem inside] at fewer ⊢
    simp only [received_append, announced_append, received_cons, announced_cons, received_nil,
      announced_nil, List.append_nil, List.map_append] at fewer ⊢
    cases announces : entries[n].announced? id with
    | some t =>
      have told : (entries[n].announced? id).isSome = true := by rw [announces]; rfl
      have level := prompt n inside told
      rw [received?_of_announced? told]
      refine ⟨?_, ?_⟩
      · rw [Option.toList_none, List.append_nil]
        exact ordered.trans (List.prefix_append ..)
      · simp [level]
    | none =>
      rw [announces] at fewer
      cases told : entries[n].received? ear with
      | none => simpa using ⟨ordered, close⟩
      | some change =>
        obtain ⟨missing, eq⟩ := ordered
        have short : missing.length ≤ 1 := by
          have lengths := congrArg List.length eq
          rw [List.length_append, List.length_map] at lengths
          omega
        have owed := fewer change
        rw [told, ← eq] at owed
        simp only [Option.toList_some, Option.toList_none, List.map_nil, List.append_nil,
          List.count_append, List.count_singleton_self] at owed
        have mem : change ∈ missing := List.count_pos_iff.mp (by omega)
        obtain ⟨last, rfl⟩ : ∃ last, missing = [last] :=
          List.length_eq_one_iff.mp (Nat.le_antisymm short (List.length_pos_of_mem mem))
        rw [List.mem_singleton] at mem
        refine ⟨?_, ?_⟩
        · rw [← eq, mem]
          simp
        · simp
          omega

end Journal

theorem Turn.Path.source_eq {source last : State} {t : Turn} {turns : List Turn}
    (path : Path source (t :: turns) last) : t.change.source = source := by
  cases path
  rfl

/-! ### Who is told -/

/-- The subscriptions of a consumer at a circuit. -/
def World.places (w : World Session) (id : CircuitId) (consumer : ConsumerId) :
    List (Subscription ConsumerId) :=
  (w.circuit id).roster.members.filter (·.consumer = consumer)

/-- The subscriptions of a consumer where the roster of a circuit was changed. -/
private theorem places_enrol (w : World Session) (id other : CircuitId) (roster : Roster ConsumerId)
    (c : ConsumerId) :
    (w.setCircuit id { w.circuit id with roster := roster }).places other c = w.places other c ∨
      other = id ∧ (w.setCircuit id { w.circuit id with roster := roster }).places other c
        = roster.members.filter (·.consumer = c) := by
  unfold World.places
  by_cases same : id = other
  · subst same
    by_cases there : id < w.circuits.size
    · rw [World.circuit_setCircuit_self w _ there]
      exact .inr ⟨rfl, rfl⟩
    · rw [World.setCircuit_of_size_le w _ (Nat.le_of_not_lt there)]
      exact .inl rfl
  · rw [World.circuit_setCircuit_of_ne w _ same]
    exact .inl rfl

theorem World.places_subscribe (w : World Session) (id other : CircuitId) (filter : Filter)
    {consumer c : ConsumerId} (new : consumer ≠ c) :
    (w.subscribe id filter consumer).places other c = w.places other c := by
  rw [World.subscribe]
  obtain eq | ⟨rfl, eq⟩ := places_enrol w id other _ c
  · exact eq
  · rw [eq, Roster.subscribe, List.filter_append]
    simp [new, World.places]

theorem World.places_unsubscribe (w : World Session) (id other : CircuitId) (number : Nat)
    (c : ConsumerId) : ((w.unsubscribe id number).places other c).Sublist (w.places other c) := by
  rw [World.unsubscribe]
  obtain eq | ⟨rfl, eq⟩ := places_enrol w id other _ c
  · rw [eq]
  · rw [eq]
    exact List.filter_sublist.filter _

theorem World.places_of_size_le (w : World Session) {id : CircuitId} (h : w.circuits.size ≤ id)
    (c : ConsumerId) : w.places id c = [] := by
  rw [World.places, World.circuit_of_size_le w h]
  rfl

namespace Scenario

theorem Session.ear?_of_size_le {s : Session} {c : ConsumerId} (h : s.listeners.size ≤ c) :
    s.ear? c = none := by
  rw [Session.ear?, Array.getElem?_eq_none h]
  rfl

theorem Session.ear?_add {s : Session} (l : Listener) {c : ConsumerId} (h : c < s.listeners.size) :
    (s.add l).ear? c = s.ear? c := by
  rw [Session.ear?, Session.ear?, add, Array.getElem?_push_lt h, Array.getElem?_eq_getElem h]

theorem Session.ear?_spend (s : Session) (consumer c : ConsumerId) :
    (s.spend consumer).ear? c = s.ear? c := by
  rw [Session.ear?, Session.ear?, spend, Array.getElem?_modify]
  split_ifs
  · cases s.listeners[c]? with
    | none => rfl
    | some l =>
      cases l with
      | hook | subscriber => rfl
  · rfl

/-- What becomes of consumers: they keep their names, and get no more subscriptions. -/
structure Follows (w w' : World Session) : Prop where
  size : w.guest.listeners.size ≤ w'.guest.listeners.size
  ear : ∀ c < w.guest.listeners.size, w'.guest.ear? c = w.guest.ear? c
  places : ∀ id, ∀ c < w.guest.listeners.size, (w'.places id c).Sublist (w.places id c)

namespace Follows

variable {w w' w₁ w₂ w₃ : World Session}

theorem trans (h : Follows w₁ w₂) (h' : Follows w₂ w₃) : Follows w₁ w₃ where
  size := h.size.trans h'.size
  ear := fun c old => (h'.ear c (old.trans_le h.size)).trans (h.ear c old)
  places := fun id c old => (h'.places id c (old.trans_le h.size)).trans (h.places id c old)

theorem of_arranges (h : Arranges w w') : Follows w w' := by
  cases h with
  | spent consumer =>
    refine ⟨?_, fun c _ => Session.ear?_spend w.guest consumer c, fun _ _ _ => List.Sublist.refl _⟩
    exact (Array.size_modify).ge
  | subscribed id name filter listener =>
    refine ⟨?_, fun c old => Session.ear?_add listener old, fun other c old => ?_⟩
    · show _ ≤ (w.guest.listeners.push listener).size
      rw [Array.size_push]
      exact Nat.le_succ _
    · have new : w.guest.nextConsumer ≠ c := Nat.ne_of_gt old
      rw [World.places_subscribe _ id other filter new]
      exact List.Sublist.refl _
  | unsubscribed id name number =>
    exact ⟨le_rfl, fun _ _ => rfl, fun other c _ => World.places_unsubscribe _ id other number c⟩

theorem of_rearranges (h : sessions.Rearranges w w') : Follows w w' := by
  induction h with
  | same guest roster =>
    refine ⟨by rw [guest], fun c _ => by rw [guest], fun id c _ => ?_⟩
    rw [World.places, World.places, roster]
  | arranged h => exact of_arranges h
  | trans _ _ ih ih' => exact ih.trans ih'

theorem of_trace {whole : Prop} {stage : Stage} {hs : List Happening}
    (h : sessions.Trace whole stage w hs w') : Follows w w' := of_rearranges h.rearranges

theorem setEpisode (w : World Session) (id : CircuitId) (e : Episode) :
    Follows w (w.setEpisode id e) := of_rearranges (.setEpisode w id e)

theorem entered (w : World Session) (id : CircuitId) (target : State) (wait : Duration)
    (manual : Bool) (record : LogRecord) :
    Follows w ((w.enter id target wait manual).log id record) :=
  of_rearranges (.entered w id target wait manual record)

theorem write (w : World Session) (entry : Entry) : Follows w (w.write entry) :=
  of_rearranges (.write w entry)

end Follows

/-- A consumer is told of the events of a circuit under a name, and by no other subscription than one. -/
structure Attends (ear : Ear) (s : Subscription ConsumerId) (id : CircuitId) (w : World Session) :
    Prop where
  ear : w.guest.ear? s.consumer = some ear
  here : (w.places id s.consumer).Sublist [s]
  elsewhere : ∀ other, other ≠ id → w.places other s.consumer = []

instance (ear : Ear) (s : Subscription ConsumerId) (id : CircuitId) (w : World Session) :
    Decidable (Attends ear s id w) :=
  decidable_of_iff (w.guest.ear? s.consumer = some ear ∧ (w.places id s.consumer).Sublist [s] ∧
      ∀ other < w.circuits.size, other ≠ id → w.places other s.consumer = []) <| by
    refine ⟨fun ⟨ear, here, elsewhere⟩ => ⟨ear, here, fun other ne => ?_⟩,
      fun ⟨ear, here, elsewhere⟩ => ⟨ear, here, fun other _ => elsewhere other⟩⟩
    by_cases there : other < w.circuits.size
    · exact elsewhere other there ne
    · exact w.places_of_size_le (Nat.le_of_not_lt there) _

theorem Attends.old {ear : Ear} {s : Subscription ConsumerId} {id : CircuitId} {w : World Session}
    (h : Attends ear s id w) : s.consumer < w.guest.listeners.size := by
  by_contra new
  have known := h.ear
  rw [Session.ear?_of_size_le (Nat.le_of_not_lt new)] at known
  cases known

theorem Attends.follows {ear : Ear} {s : Subscription ConsumerId} {id : CircuitId}
    {w w' : World Session} (h : Attends ear s id w) (later : Follows w w') : Attends ear s id w' where
  ear := (later.ear _ h.old).trans h.ear
  here := (later.places id _ h.old).trans h.here
  elsewhere := fun other ne => by
    have fewer := later.places other _ h.old
    rwa [h.elsewhere other ne, List.sublist_nil] at fewer

/-- A subscription that is there later has been there. -/
theorem Attends.still {ear : Ear} {s : Subscription ConsumerId} {id : CircuitId} {w w' : World Session}
    (h : Attends ear s id w) (later : Follows w w') (there : w'.places id s.consumer = [s]) :
    w.places id s.consumer = [s] := h.here.antisymm (there ▸ later.places id _ h.old)

/-- A subscription that is there is the one of its consumer. -/
theorem Attends.mem {ear : Ear} {s : Subscription ConsumerId} {id : CircuitId} {w w' : World Session}
    (h : Attends ear s id w) (later : Follows w w')
    (there : s ∈ (w'.circuit id).roster.members) : w'.places id s.consumer = [s] := by
  have mem : s ∈ w'.places id s.consumer := List.mem_filter.mpr ⟨there, decide_eq_true rfl⟩
  obtain none | one := List.sublist_singleton.mp (h.follows later).here
  · rw [none] at mem
    cases mem
  · exact one

/-- No consumer but one goes by a name. -/
def Session.Only (guest : Session) (ear : Ear) (consumer : ConsumerId) : Prop :=
  ∀ other, guest.ear? other = some ear → other = consumer

instance (guest : Session) (ear : Ear) (consumer : ConsumerId) :
    Decidable (guest.Only ear consumer) :=
  decidable_of_iff (∀ other < guest.listeners.size, guest.ear? other = some ear → other = consumer) <| by
    refine ⟨fun only other named => only other ?_ named, fun only other _ => only other⟩
    by_contra new
    rw [Session.ear?_of_size_le (Nat.le_of_not_lt new)] at named
    cases named

theorem Follows.only {ear : Ear} {consumer : ConsumerId} {w w' : World Session} (h : Follows w w')
    (only : w'.guest.Only ear consumer) : w.guest.Only ear consumer := by
  intro other named
  refine only other ((h.ear other ?_).trans named)
  by_contra new
  rw [Session.ear?_of_size_le (Nat.le_of_not_lt new)] at named
  cases named

end Scenario

/-- How often a consumer is still to be told of a change of state of a circuit. -/
def Stage.due (id : CircuitId) (consumer : ConsumerId) (change : Transition) : Stage → Nat
  | .acts => 0
  | .publishes circuit events => if circuit = id then events.count (.transition change) else 0
  | .tells _ event subscriptions =>
    if event = .transition change then (subscriptions.filter (·.consumer = consumer)).length else 0
  | .reacts other _ event => if other = consumer ∧ event = .transition change then 1 else 0

namespace Stage

variable (id other : CircuitId) (consumer : ConsumerId) (change : Transition) (event : Event)

theorem due_publishes (events : List Event) :
    (publishes other (event :: events)).due id consumer change
      = (if other = id ∧ event = .transition change then 1 else 0)
        + (publishes other events).due id consumer change := by
  simp only [due, List.count_cons, beq_iff_eq]
  by_cases ours : other = id
  · simp [ours, Nat.add_comm]
  · simp [ours]

theorem due_tells (name : String) (told : Subscription ConsumerId)
    (rest : List (Subscription ConsumerId)) :
    (tells name event (told :: rest)).due id consumer change
      = (reacts told.consumer name event).due id consumer change
        + (tells name event rest).due id consumer change := by
  simp only [due, List.filter_cons]
  by_cases ours : event = .transition change
  · by_cases same : told.consumer = consumer
    · simp [ours, same, Nat.add_comm]
    · simp [ours, same]
  · simp [ours]

end Stage

/-! ### Counting -/

/-- A listener is shown an event by its own notes alone. -/
theorem Note.event?_takes (l : Listener) (circuit : String) (event : Event) (ear : Ear) :
    (l.takes circuit event).event? ear = if l.ear? = some ear then some event else none := by
  cases l with
  | subscriber => simp [Listener.takes, Listener.ear?, Note.event?]
  | hook name showsEvent =>
    cases showsEvent with
    | true => simp [Listener.takes, Listener.ear?, Note.event?]
    | false => simp [Listener.takes, Listener.ear?, Note.event?]

theorem Event.count_transition? (event : Event) (change : Transition) :
    event.transition?.toList.count change = if event = .transition change then 1 else 0 := by
  cases event with
  | transition made => simp [transition?, List.count_singleton]
  | _ => simp [transition?]

theorem Entry.received?_of_isPlain {entry : Entry} (plain : entry.isPlain = true) (ear : Ear) :
    entry.received? ear = none := by
  unfold isPlain at plain
  split at plain
  case h_7 => cases plain
  all_goals rfl

theorem Entry.announced?_of_isPlain {entry : Entry} (plain : entry.isPlain = true) (id : CircuitId) :
    entry.announced? id = none := by
  unfold isPlain at plain
  split at plain
  case h_7 => cases plain
  all_goals rfl

theorem Event.count_transition_of_calls {events : List Event}
    (calls : ∀ event ∈ events, event.isOfCall = true) (change : Transition) :
    events.count (.transition change) = 0 := by
  refine List.count_eq_zero.mpr fun mem => ?_
  cases calls _ mem

theorem Rates.count_transition_events (s : Settings) (rates : Rates) (change : Transition) :
    (rates.events s).count (.transition change) = 0 := by
  unfold events
  split_ifs
  all_goals simp

theorem count_transition_resetEvents (source : State) (change : Transition) :
    (resetEvents source).count (.transition change)
      = if source ≠ .closed ∧ ⟨source, .closed⟩ = change then 1 else 0 := by
  unfold resetEvents
  by_cases closed : source = .closed
  · simp [closed]
  · simp [closed, List.count_cons]

/-- The event about a change of state is due once, and others that go with it are not about changes. -/
theorem Stage.due_announcement {told : List Event} {change : Transition}
    (none : told.count (.transition change) = 0) (id other : CircuitId) (consumer : ConsumerId)
    (made : Transition) :
    (publishes other (told ++ [.transition made])).due id consumer change
      = if other = id ∧ made = change then 1 else 0 := by
  simp only [due, List.count_append, none, List.count_singleton, beq_iff_eq, Event.transition.injEq]
  by_cases ours : other = id
  · simp [ours]
  · simp [ours]

/-- An event of the circuit goes to the consumer at most once, and once if it is subscribed to it. -/
theorem Scenario.Attends.due_addressees {ear : Ear} {s : Subscription ConsumerId} {id : CircuitId}
    {w : World Session} (attends : Attends ear s id w) (other : CircuitId) (name : String)
    (event : Event) (change : Transition) :
    ∃ missed, missed
        + (Stage.tells name event ((w.circuit other).roster.addressees event)).due id s.consumer change
      = (if other = id ∧ event = .transition change then 1 else 0) ∧
      (w.places id s.consumer = [s] → s.filter.admits (.transition change) = true → missed = 0) := by
  have own : ((w.circuit other).roster.addressees event).filter (·.consumer = s.consumer)
      = (w.places other s.consumer).filter (·.filter.admits event) := List.filter_comm ..
  rw [Stage.due, own]
  by_cases told : event = .transition change
  · subst told
    by_cases ours : other = id
    · subst ours
      have once : ((w.places other s.consumer).filter (·.filter.admits (.transition change))).length
          ≤ 1 := (List.filter_sublist.trans attends.here).length_le
      refine ⟨1 - ((w.places other s.consumer).filter (·.filter.admits (.transition change))).length,
        ?_, fun there admits => ?_⟩
      · simp only [if_true, and_self]
        omega
      · simp [there, admits]
    · exact ⟨0, by simp [ours, attends.elsewhere other ours], fun _ _ => rfl⟩
  · exact ⟨0, by simp [told], fun _ _ => rfl⟩

/-- How what a consumer was told of a change of state stands against its announcements, up to a world:
what it received and what it missed add up to what was announced and what was due to it before.  It
misses nothing of what is carried out as a whole while it is subscribed. -/
def Reckons (whole : Prop) (ear : Ear) (s : Subscription ConsumerId) (id : CircuitId)
    (change : Transition) (due : Nat) (hs : List Happening) (w : World Session) : Prop :=
  ∃ missed, (Journal.received ear (Happening.entries hs)).count change + missed
      = ((Journal.announced id (Happening.entries hs)).map Turn.change).count change + due ∧
    (whole → w.places id s.consumer = [s] → s.filter.admits (.transition change) = true → missed = 0)

namespace Reckons

variable {whole : Prop} {ear : Ear} {s : Subscription ConsumerId} {id : CircuitId}
  {change : Transition} {due due' : Nat} {hs hs' : List Happening} {w w' : World Session}

theorem nil : Reckons whole ear s id change 0 [] w := ⟨0, rfl, fun _ _ _ => rfl⟩

theorem append (h : Reckons whole ear s id change due hs w)
    (h' : Reckons whole ear s id change due' hs' w')
    (still : w'.places id s.consumer = [s] → w.places id s.consumer = [s]) :
    Reckons whole ear s id change (due + due') (hs ++ hs') w' := by
  obtain ⟨missed, first, all⟩ := h
  obtain ⟨missed', second, all'⟩ := h'
  refine ⟨missed + missed', ?_, fun holds there admits => ?_⟩
  · simp only [Happening.entries_append, Journal.received_append, Journal.announced_append,
      List.map_append, List.count_append]
    omega
  · rw [all holds (still there) admits, all' holds there admits]

/-- An entry that is written makes up for what it announces or tells of. -/
theorem wrote {entry : Entry} (h : Reckons whole ear s id change due hs w)
    (balance : (entry.received? ear).toList.count change + due
      = ((entry.announced? id).toList.map Turn.change).count change + due') :
    Reckons whole ear s id change due' (.wrote entry :: hs) w := by
  obtain ⟨missed, eq, all⟩ := h
  refine ⟨missed, ?_, all⟩
  simp only [Happening.entries_wrote, Journal.received_cons, Journal.announced_cons,
    List.map_append, List.count_append]
  omega

/-- What was due besides is missed. -/
theorem miss (h : Reckons whole ear s id change due hs w) {more : Nat}
    (none : whole → w.places id s.consumer = [s] → s.filter.admits (.transition change) = true →
      more = 0) : Reckons whole ear s id change (more + due) hs w := by
  obtain ⟨missed, eq, all⟩ := h
  refine ⟨more + missed, by omega, fun holds there admits => ?_⟩
  rw [none holds there admits, all holds there admits]

end Reckons

namespace Audience.Trace

open Journal

variable {whole : Prop} {stage : Stage} {w w' : World Session} {hs : List Happening} {ear : Ear}
  {s : Subscription ConsumerId} {id : CircuitId}

/-- **What a consumer received**, what it is still to be told of and what it missed add up to what was
announced. -/
theorem reckons (h : sessions.Trace whole stage w hs w') (attends : Attends ear s id w)
    (only : w'.guest.Only ear s.consumer) (change : Transition) :
    Reckons whole ear s id change (stage.due id s.consumer change) hs w' := by
  induction h with
  | refl | beside | arranged | settled => exact .nil
  | said w other =>
    have nothing : (Stage.publishes other []).due id s.consumer change = 0 := ite_self 0
    rw [nothing]
    exact .nil
  | allTold w name event =>
    have nothing : (Stage.tells name event []).due id s.consumer change = 0 := ite_self 0
    rw [nothing]
    exact .nil
  | unheard w cut => exact Reckons.nil.miss fun holds => absurd holds cut
  | wrote w plain =>
    refine Reckons.nil.wrote ?_
    rw [Entry.received?_of_isPlain plain, Entry.announced?_of_isPlain plain]
    rfl
  | dealt => exact Reckons.nil.wrote rfl
  | @refused w w₁ w' other hs hs' h h' ih ih' =>
    have asked := attends.follows (.write w (.dealt other .asking))
    have later := asked.follows (.of_trace h)
    have marked := later.follows (.setEpisode w₁ other (w₁.episode other).reject)
    have rest := Follows.trans (.setEpisode w₁ other (w₁.episode other).reject) (.of_trace h')
    exact Reckons.wrote ((ih asked (rest.only only)).append (ih' marked only) (later.still rest)) rfl
  | trans h h' ih ih' =>
    have later := attends.follows (.of_trace h)
    have rest := Follows.of_trace h'
    exact (ih attends (rest.only only)).append (ih' later only) (later.still rest)
  | @heard _ _ _ name event told others _ _ h h' ih ih' =>
    have later := attends.follows (.of_trace h)
    have rest := Follows.of_trace h'
    rw [Stage.due_tells]
    exact (ih attends (rest.only only)).append (ih' later only) (later.still rest)
  | @told w _ _ other _ _ settings rates _ h h' ih ih' =>
    have marked := attends.follows (.setEpisode w other (w.episode other).noteTold)
    have later := marked.follows (.of_trace h)
    have rest := Follows.of_trace h'
    have nothing : (Stage.publishes other (rates.events settings)).due id s.consumer change = 0 := by
      rw [Stage.due, Rates.count_transition_events, ite_self]
    rw [nothing] at ih'
    exact (ih marked (rest.only only)).append (ih' later only) (later.still rest)
  | @reported w w' other d r o hs _ h _ ih =>
    have noted := attends.follows (.write w (.dealt other (.reporting d r)))
    have rest := ih (noted.follows (.setEpisode _ other _)) only
    have returned : Reckons whole ear s id change 0 [.wrote (.dealt other (.reported d r))]
        (w'.write (.dealt other (.reported d r))) := Reckons.nil.wrote rfl
    exact Reckons.wrote (rest.append returned fun there => there) rfl
  | @abandoned w w' other d r o hs _ h _ ih =>
    have noted := attends.follows (.write w (.dealt other (.reporting d r)))
    exact (ih (noted.follows (.setEpisode _ other _)) only).wrote rfl
  | @changed w w' other target wait manual breach hs _ _ _ told h ih =>
    have rest := ih (attends.follows (.entered w other target wait manual _)) only
    have breaches : breach.count (.transition change) = 0 := by
      obtain rfl | ⟨-, -, settings, rates, rfl⟩ := told
      · rfl
      · exact Rates.count_transition_events settings rates change
    rw [Stage.due_announcement breaches] at rest
    refine rest.wrote ?_
    rw [Entry.announced?]
    by_cases ours : other = id
    · simp [ours, Entry.received?, Stage.due, List.count_singleton]
    · simp [ours, Entry.received?, Stage.due]
  | @reset w w' other hs h ih =>
    have rest := ih (attends.follows (.entered w other .closed .zero true _)) only
    refine rest.wrote ?_
    simp only [Entry.announced?, Stage.due, count_transition_resetEvents]
    by_cases ours : other = id
    · subst ours
      by_cases closed : (w.episode other).state = .closed
      · simp [closed, Entry.received?]
      · simp [closed, Entry.received?, List.count_singleton]
    · simp [ours, Entry.received?]
  | @called _ _ other events _ calls _ ih =>
    have rest := ih attends only
    rwa [Stage.due, Event.count_transition_of_calls calls, ite_self] at rest
  | @published w w₁ w' other event events hs hs' h h' ih ih' =>
    have written := attends.follows (.write w (.published other event))
    have later := written.follows (.of_trace h)
    have rest := Follows.of_trace h'
    have told := (ih written (rest.only only)).append (ih' later only) (later.still rest)
    obtain ⟨missed, once, all⟩ :=
      attends.due_addressees other (w.circuit other).name event change
    rw [Stage.due_publishes, ← once, Nat.add_assoc]
    refine (told.wrote rfl).miss fun _ there admits => all ?_ admits
    exact written.still (.of_trace h) (later.still rest there)
  | unsaid cut _ ih =>
    rw [Stage.due_publishes]
    exact (ih attends only).miss fun holds => absurd holds cut
  | @greeted w w' consumer name event n hs greets h ih =>
    refine (ih (attends.follows (.write w _)) only).wrote ?_
    obtain ⟨l, listens, rfl⟩ := Option.map_eq_some_iff.mp greets
    have named : w.guest.ear? consumer = l.ear? := by
      rw [Session.ear?, listens]
      rfl
    simp only [Entry.received?, Entry.announced?, Note.event?_takes, Stage.due]
    by_cases same : consumer = s.consumer
    · rw [same, attends.ear] at named
      simp [← named, same, Event.count_transition?]
    · have other : l.ear? ≠ some ear := fun named' =>
        same (((Follows.write w _).trans (.of_trace h)).only only consumer (named.trans named'))
      simp [other, same]
  | @mute w w' consumer name event hs greets h ih =>
    have other : consumer ≠ s.consumer := by
      rintro rfl
      have known := attends.ear
      rw [Session.ear?, Option.map_eq_none_iff.mp greets] at known
      cases known
    have nothing : (Stage.reacts consumer name event).due id s.consumer change = 0 :=
      if_neg fun both => other both.1
    rw [nothing]
    exact ih attends only

/-- A consumer is told of no change of state more often than it was announced. -/
theorem count_received_le (h : sessions.Trace whole .acts w hs w') (attends : Attends ear s id w)
    (only : w'.guest.Only ear s.consumer) (change : Transition) :
    (received ear (Happening.entries hs)).count change
      ≤ ((announced id (Happening.entries hs)).map Turn.change).count change := by
  obtain ⟨missed, eq, -⟩ := h.reckons attends only change
  exact Nat.le.intro eq

/-- **A consumer that stays subscribed** is told of each change of state once. -/
theorem received_perm (h : sessions.Trace whole .acts w hs w') (holds : whole)
    (attends : Attends ear s id w) (only : w'.guest.Only ear s.consumer)
    (there : w'.places id s.consumer = [s])
    (admits : ∀ change, s.filter.admits (.transition change) = true) :
    (received ear (Happening.entries hs)).Perm
      ((announced id (Happening.entries hs)).map Turn.change) := by
  refine List.perm_iff_count.mpr fun change => ?_
  obtain ⟨missed, eq, none⟩ := h.reckons attends only change
  rw [none holds there (admits change)] at eq
  exact eq

end Audience.Trace

/-! ### Runs -/

namespace Scenario

variable {plans : List Plan} {start : Nat} {dice : Dice} {w₀ w : World Session} {id : CircuitId}
  {ear : Ear} {s : Subscription ConsumerId}

/-- **What a listener hears of the changes of state.**  Take a consumer that was subscribed to all
changes of a circuit before anything was written, and whatever a scenario does, and whatever it and
others do while they are told of events.  The changes that were announced lead from closed to the current
state.  Once every step has returned, the consumer was told of each of them once, if it is still
subscribed.  If it was told of all changes so far whenever one was announced, then it was told of them in
order, so that what it heard leads from closed to the current state as well.  The allowance may end a run
in the middle of a step; what it was told of until then is a first part of the changes. -/
theorem changes_heard
    (built : plans.foldlM addPlan (World.empty start dice Session.empty) = .ok w₀)
    (there : id < w₀.circuits.size) {allowance₀ : Nat} {detail₀ : Detail} {enrolling : List Step}
    (enrolled : (runSteps allowance₀ detail₀ enrolling w₀).2 = w) (quiet : w.journal = #[])
    (attends : Attends ear s id w)
    (admits : ∀ change, s.filter.admits (.transition change) = true)
    {allowance : Nat} {detail : Detail} {steps : List Step} {rows : List Row} {last : World Session}
    (ran : runSteps allowance detail steps w = (rows, last))
    (only : last.guest.Only ear s.consumer) :
    ∃ entries announced received, entries = last.journal.toList ∧
      announced = Journal.announced id entries ∧ received = Journal.received ear entries ∧
      Turn.Path .closed announced (last.episode id).state ∧
      (Journal.Prompt ear id entries → received <+: announced.map Turn.change) ∧
      ((∀ row ∈ rows, row.answer ≠ .aborted .unsettled) →
        s ∈ (last.circuit id).roster.members → received.Perm (announced.map Turn.change) ∧
          (Journal.Prompt ear id entries → received = announced.map Turn.change)) := by
  subst enrolled
  have sound₀ : w₀.Sound := (leads_addPlans built).sound (World.sound_empty ..)
  have led := leads_runSteps allowance₀ detail₀ enrolling sound₀
  obtain ⟨hs, trace⟩ := unfolds_runSteps allowance detail steps (led.sound sound₀)
  rw [ran] at trace
  have written : last.journal.toList = Happening.entries hs := by
    rw [trace.journal, quiet]
    simp
  have planned := planned_addPlans built (planned_empty start dice)
  obtain ⟨-, now, begun⟩ := planned.fresh id there
  have counts : (w₀.episode id).Counts (w₀.circuit id).settings
      (Journal.turnsOf id w₀.journal.toList) := by
    rw [begun, planned.journal]
    exact .of_begin 0 now
  have path := (trace.leads.counts (led.size there) (led.counts there counts)).path
  have prefixed (prompt : Journal.Prompt ear id (Happening.entries hs)) :
      Journal.received ear (Happening.entries hs)
        <+: (Journal.announced id (Happening.entries hs)).map Turn.change := by
    refine Journal.received_inOrder prompt fun before first change => ?_
    obtain ⟨hs', moment, rfl, early, rest⟩ := trace.cut first
    exact early.count_received_le attends ((Follows.of_rearranges rest).only only) change
  refine ⟨_, _, _, rfl, rfl, rfl, Journal.announced_path path, ?_, fun returned subscribed => ?_⟩
  · rw [written]
    exact prefixed
  · have still := attends.mem (.of_trace trace) subscribed
    have each := trace.received_perm returned attends only still admits
    rw [written]
    exact ⟨each, fun prompt => (prefixed prompt).eq_of_length each.length_eq⟩

/-- Two subscribers to the changes of a circuit, of which the first resets it once. -/
def rivals : List Step :=
  [.on 0 (.subscribe "first" .transition [.on 0 .reset] 1 false),
    .on 0 (.subscribe "second" .transition [] 0 false)]

/-- When the circuit trips, the subscriber that resets it hears of the trip and then of its own reset,
which brought the circuit back to closed. -/
theorem changes_heard_first : ∃ w₀ w rows last,
    [Plan.hasty].foldlM addPlan (World.empty 0 seed .empty) = .ok w₀ ∧
      (runSteps 4 .none rivals w₀).2 = w ∧
      runSteps 4 .none [.on 0 (.error .zero .unit)] w = (rows, last) ∧
      Journal.received (.subscriber "first") last.journal.toList
        = [⟨.closed, .opened⟩, ⟨.opened, .closed⟩] ∧
      (last.episode 0).state = .closed := by
  obtain ⟨w₀, w, rows, last, built, there, enrolled, ran, quiet, attends, only, returned, still, prompt,
      announced, closed⟩ : ∃ w₀ w rows last,
      [Plan.hasty].foldlM addPlan (World.empty 0 seed .empty) = .ok w₀ ∧ 0 < w₀.circuits.size ∧
      (runSteps 4 .none rivals w₀).2 = w ∧
      runSteps 4 .none [.on 0 (.error .zero .unit)] w = (rows, last) ∧ w.journal = #[] ∧
      Attends (.subscriber "first") ⟨0, .transition, 0⟩ 0 w ∧
      last.guest.Only (.subscriber "first") 0 ∧ (∀ row ∈ rows, row.answer.abort? = none) ∧
      ⟨0, .transition, 0⟩ ∈ (last.circuit 0).roster.members ∧
      Journal.Prompt (.subscriber "first") 0 last.journal.toList ∧
      Journal.announced 0 last.journal.toList
        = [⟨⟨.closed, .opened⟩, false⟩, ⟨⟨.opened, .closed⟩, true⟩] ∧
      (last.episode 0).state = .closed :=
    ⟨_, _, _, _, rfl, Nat.zero_lt_one, rfl, rfl, rfl, by decide +kernel, by decide +kernel,
      by decide +kernel, by decide +kernel, by decide +kernel, by decide +kernel, by decide +kernel⟩
  have settled : ∀ row ∈ rows, row.answer ≠ .aborted .unsettled := by
    intro row mem eq
    have answered := returned row mem
    rw [eq] at answered
    cases answered
  obtain ⟨_, _, _, rfl, rfl, rfl, -, -, told⟩ :=
    changes_heard built there enrolled quiet attends (fun _ => rfl) ran only
  have ordered := (told settled still).2 prompt
  rw [announced] at ordered
  exact ⟨w₀, w, rows, last, built, enrolled, ran, ordered, closed⟩

/-- The subscriber behind it hears of the same changes the other way round.  They do not lead from closed
to the current state, though it was subscribed from the start and every step has returned. -/
theorem changes_heard_crossed : ∃ w₀ w rows last received,
    [Plan.hasty].foldlM addPlan (World.empty 0 seed .empty) = .ok w₀ ∧
      (runSteps 4 .none rivals w₀).2 = w ∧ w.journal = #[] ∧
      Attends (.subscriber "second") ⟨1, .transition, 1⟩ 0 w ∧
      runSteps 4 .none [.on 0 (.error .zero .unit)] w = (rows, last) ∧
      (∀ row ∈ rows, row.answer.abort? = none) ∧
      last.guest.Only (.subscriber "second") 1 ∧
      ⟨1, .transition, 1⟩ ∈ (last.circuit 0).roster.members ∧
      received = Journal.received (.subscriber "second") last.journal.toList ∧
      received = [⟨.opened, .closed⟩, ⟨.closed, .opened⟩] ∧
      ¬∃ turns, turns.map Turn.change = received ∧
        Turn.Path .closed turns (last.episode 0).state := by
  refine ⟨_, _, _, _, _, rfl, rfl, rfl, by decide +kernel, rfl, by decide +kernel, by decide +kernel,
    by decide +kernel, rfl, by decide +kernel, ?_⟩
  rintro ⟨turns, received, path⟩
  have heard : turns.map Turn.change = [⟨.opened, .closed⟩, ⟨.closed, .opened⟩] :=
    received.trans (by decide +kernel)
  obtain ⟨t, rest, rfl, first, -⟩ := List.map_eq_cons_iff.mp heard
  have source := path.source_eq
  rw [first] at source
  cases source

end Scenario

end Breaker

import Breaker.Proofs.World.Yields

/-!
# Delivery — each event reaches those who are subscribed, once and in order

Here consumers are free: told of an event, one may subscribe others, end subscriptions, publish events
of its own, and give up, each as it remembers and as it was answered (`Conduct`).  Whoever does one of
these things notes it in a diary, and a consumer notes that it was called before it does anything else.
So the diary shows who was told of what while which publication was under way, and nothing in it is
written by the publisher.

Publications are numbered in the order in which they begin.  Whatever happens meanwhile, a publication
tells those who were registered when it began and whose filter admits the event, each once and in the
order of registration; the log has one warning for each consumer that gave up, with the number of its
subscription; and the subscriptions are those that were made, in that order, less those that were ended
(`told_once`).

The induction is on the allowance for reactions within reactions.  What one conduct adds to the diary is
`Proper` by itself, and lines that are proper one after another are proper together, since the numbers
of their publications differ (`Proper.append`).  A run is broken off only where consumers nest their
publications deeper than the allowance, and the diary shows that too (`Exceeds`).
-/

namespace Breaker.Delivery

/-! ### Diaries -/

/-- A line of a diary. -/
inductive Line where
  /-- A subscription was made and got a number. -/
  | subscribed (number : Nat) (filter : Filter)
  /-- A subscription was ended. -/
  | unsubscribed (number : Nat)
  /-- The publication of an event begins. -/
  | begins (publication : Nat) (event : Event)
  /-- The consumer of a subscription is called, with an event, in the midst of a publication. -/
  | told (publication number : Nat) (event : Event)
  /-- The consumer of a subscription gives up. -/
  | givesUp (publication number : Nat)
  /-- The publication has returned. -/
  | ends (publication : Nat)
  deriving DecidableEq

namespace Line

/-- The subscription that was made. -/
def subscription? : Line → Option (Nat × Filter)
  | subscribed number filter => some (number, filter)
  | _ => none

/-- The number of the subscription that was ended. -/
def ended? : Line → Option Nat
  | unsubscribed number => some number
  | _ => none

/-- The publication that begins. -/
def begun? : Line → Option Nat
  | begins publication _ => some publication
  | _ => none

/-- The publication that has returned. -/
def returned? : Line → Option Nat
  | ends publication => some publication
  | _ => none

/-- Who is told, and of what, in a publication. -/
def told? (n : Nat) : Line → Option (Nat × Event)
  | told publication number event => if publication = n then some (number, event) else none
  | _ => none

/-- The number of the subscription whose consumer gives up. -/
def abandoned? : Line → Option Nat
  | givesUp _ number => some number
  | _ => none

end Line

/-- The subscriptions that were made, in order. -/
def made (diary : List Line) : List (Nat × Filter) := diary.filterMap Line.subscription?

/-- The subscriptions that were ended, in order. -/
def ended (diary : List Line) : List Nat := diary.filterMap Line.ended?

/-- The subscriptions that were made and not ended, in the order in which they were made. -/
def registered (diary : List Line) : List (Nat × Filter) :=
  (made diary).filter fun s => s.1 ∉ ended diary

/-- The publications, in the order in which they began. -/
def begun (diary : List Line) : List Nat := diary.filterMap Line.begun?

/-- The publications that have returned, in order. -/
def returned (diary : List Line) : List Nat := diary.filterMap Line.returned?

/-- How many publications are under way at the end of a diary. -/
def depth (diary : List Line) : Int := (begun diary).length - (returned diary).length

/-- Who was told, and of what, in a publication, in order. -/
def told (n : Nat) (diary : List Line) : List (Nat × Event) := diary.filterMap (Line.told? n)

/-- The subscriptions whose consumers gave up, in order and as often as they did. -/
def abandoned (diary : List Line) : List Nat := diary.filterMap Line.abandoned?

/-- Those of some subscriptions that an event is meant for. -/
def addressed (subscriptions : List (Nat × Filter)) (event : Event) : List (Nat × Event) :=
  (subscriptions.filter fun s => s.2.admits event).map fun s => (s.1, event)

section Append

variable (diary diary' : List Line)

@[simp] theorem made_append : made (diary ++ diary') = made diary ++ made diary' :=
  List.filterMap_append

@[simp] theorem ended_append : ended (diary ++ diary') = ended diary ++ ended diary' :=
  List.filterMap_append

@[simp] theorem begun_append : begun (diary ++ diary') = begun diary ++ begun diary' :=
  List.filterMap_append

theorem depth_append : depth (diary ++ diary') = depth diary + depth diary' := by
  simp only [depth, begun, returned, List.filterMap_append, List.length_append]
  omega

@[simp] theorem told_append (n : Nat) : told n (diary ++ diary') = told n diary ++ told n diary' :=
  List.filterMap_append

@[simp] theorem abandoned_append :
    abandoned (diary ++ diary') = abandoned diary ++ abandoned diary' := List.filterMap_append

end Append

theorem mem_begun {diary : List Line} {n : Nat} {event : Event} (h : .begins n event ∈ diary) :
    n ∈ begun diary := List.mem_filterMap.mpr ⟨_, h, rfl⟩

/-- An element of two lists put together stands in the first or in the second. -/
theorem append_cons_cases {α : Type} {first second before rest : List α} {x : α}
    (h : first ++ second = before ++ x :: rest) :
    (∃ more, first = before ++ x :: more ∧ rest = more ++ second) ∨
      ∃ more, before = first ++ more ∧ second = more ++ x :: rest := by
  obtain ⟨more, eq, eq'⟩ | ⟨more, eq, eq'⟩ := List.append_eq_append_iff.mp h
  · exact .inr ⟨more, eq, eq'⟩
  · cases more with
    | nil => exact .inr ⟨[], by simpa using eq.symm, eq'.symm⟩
    | cons y more =>
      obtain ⟨rfl, after⟩ := List.cons.inj eq'
      exact .inl ⟨more, eq, after⟩

theorem registered_subscribed {diary : List Line} {number : Nat} (fresh : number ∉ ended diary)
    (filter : Filter) :
    registered (diary ++ [.subscribed number filter]) = registered diary ++ [(number, filter)] := by
  have made_eq : made [.subscribed number filter] = [(number, filter)] := rfl
  have ended_eq : ended [.subscribed number filter] = [] := rfl
  simp [registered, made_eq, ended_eq, List.filter_append, fresh]

theorem registered_unsubscribed (diary : List Line) (number : Nat) :
    registered (diary ++ [.unsubscribed number]) = (registered diary).filter (·.1 != number) := by
  have made_eq : made [.unsubscribed number] = [] := rfl
  have ended_eq : ended [.unsubscribed number] = [number] := rfl
  rw [registered, registered, made_append, ended_append, made_eq, ended_eq, List.append_nil,
    List.filter_filter]
  refine List.filter_congr fun s _ => ?_
  rw [Bool.eq_iff_iff]
  simp [and_comm]

/-! ### Consumers -/

/-- What somebody does with the publisher of a circuit, one thing after another; `μ` is what consumers
remember. -/
inductive Conduct (μ : Type) where
  | done
  | giveUp
  /-- Subscribes a consumer, and goes on with the number of the subscription. -/
  | subscribe (filter : Filter) (next : Nat → Conduct μ)
  | unsubscribe (number : Nat) (next : Conduct μ)
  | publish (event : Event) (next : Conduct μ)
  | remember (f : μ → μ) (next : Conduct μ)
  | consult (next : μ → Conduct μ)

/-- What the listening side has on its desk. -/
structure Desk (μ : Type) where
  memory : μ
  diary : List Line
  /-- The publication that began last of those under way. -/
  current : Nat

variable {μ : Type}

/-- Writes a line into the diary. -/
def Desk.jot (d : Desk μ) (line : Line) : Desk μ := { d with diary := d.diary ++ [line] }

/-- Changes what is on the desk. -/
def modifyDesk (f : Desk μ → Desk μ) : Act (Desk μ) Unit :=
  modify fun w => { w with guest := f w.guest }

/-- Publishes an event, and notes when that begins and when it has returned. -/
def publication (react : React (Desk μ)) (id : CircuitId) (event : Event) : Act (Desk μ) Unit := do
  let desk := (← get).guest
  let n := (begun desk.diary).length
  modifyDesk fun d => { d.jot (.begins n event) with current := n }
  publish react id event
  modifyDesk fun d => { d.jot (.ends n) with current := desk.current }

/-- Does what a conduct says; answers whether it ends with giving up.  Each subscription has a consumer
of its own, which goes by the number of the subscription, and can be ended once. -/
def Conduct.act (react : React (Desk μ)) (id : CircuitId) : Conduct μ → Act (Desk μ) Bool
  | .done => pure false
  | .giveUp => pure true
  | .subscribe filter next => do
    let number := ((← get).circuit id).roster.nextId
    modify (·.subscribe id filter number)
    modifyDesk (·.jot (.subscribed number filter))
    (next number).act react id
  | .unsubscribe number next => do
    if number ∈ (registered (← get).guest.diary).map Prod.fst then
      modify (·.unsubscribe id number)
      modifyDesk (·.jot (.unsubscribed number))
    next.act react id
  | .publish event next => do
    publication react id event
    next.act react id
  | .remember f next => do
    modifyDesk fun d => { d with memory := f d.memory }
    next.act react id
  | .consult next => do
    (next (← get).guest.memory).act react id

/-- What consumers do with an event, where `behave` says how the consumer of a subscription conducts
itself.  Reactions within reactions go as deep as the allowance. -/
def reaction (behave : Nat → Event → Conduct μ) (id : CircuitId) : (allowance : Nat) → React (Desk μ)
  | 0, _, _, _ => throw .unsettled
  | allowance + 1, number, _, event => do
    let publication := (← get).guest.current
    modifyDesk (·.jot (.told publication number event))
    if ← (behave number event).act (reaction behave id allowance) id then
      modifyDesk (·.jot (.givesUp publication number))
      throw .consumer

/-- The subscription whose consumer gave up according to an entry about a circuit. -/
def warning? (id : CircuitId) : Entry → Option Nat
  | .log circuit _ (.consumerAborted number) => if circuit = id then some number else none
  | _ => none

/-- The subscriptions whose consumers gave up according to the log of a circuit, in order. -/
def warnings (id : CircuitId) (journal : Journal) : List Nat := journal.toList.filterMap (warning? id)

theorem warnings_push (id : CircuitId) (journal : Journal) (entry : Entry) :
    warnings id (journal.push entry) = warnings id journal ++ (warning? id entry).toList := by
  rw [warnings, Array.toList_push, List.filterMap_append]
  cases eq : warning? id entry with
  | none => simp [eq, warnings]
  | some number => simp [eq, warnings]

/-- What the diary shows at the end of a run that began with nobody subscribed. -/
structure Delivered (id : CircuitId) (w after : World (Desk μ)) : Prop where
  /-- Before it returns, a publication tells those registered when it began whose filter admits the
  event, each once, in the order of registration. -/
  owed : ∀ before n event rest, after.guest.diary = before ++ .begins n event :: rest →
    told n before = [] ∧ ∃ meanwhile later, rest = meanwhile ++ .ends n :: later ∧
      told n meanwhile = addressed (registered before) event ∧ told n later = []
  /-- Nobody is told of anything else. -/
  meant : ∀ n, n ∉ begun after.guest.diary → told n after.guest.diary = []
  /-- Publications have different numbers. -/
  apart : (begun after.guest.diary).Nodup
  /-- Each consumer that gave up is in the log, once for each time, with the number of its
  subscription. -/
  warned : warnings id after.journal = warnings id w.journal ++ abandoned after.guest.diary
  /-- The subscriptions at the end are those that were made and not ended, in order. -/
  members : (after.circuit id).roster.members.map (fun s => (s.id, s.filter))
    = registered after.guest.diary
  /-- No number is given out twice. -/
  numbers : ((made after.guest.diary).map Prod.fst).Nodup
  /-- There are as many subscriptions as were made less those that were ended. -/
  count : (after.circuit id).roster.count + (ended after.guest.diary).length
    = (made after.guest.diary).length

/-! ### Proper lines -/

/-- Lines that may follow others in a diary: the publications among them are numbered on from there, and
tell those they owe it to; besides, somebody may be told in publications that are under way. -/
structure Proper (underway : List Nat) (base new : List Line) : Prop where
  numbered : begun new = List.range' (begun base).length (begun new).length
  owed : ∀ before n event rest, new = before ++ .begins n event :: rest →
    told n before = [] ∧ ∃ meanwhile later, rest = meanwhile ++ .ends n :: later ∧
      told n meanwhile = addressed (registered (base ++ before)) event ∧ told n later = []
  meant : ∀ n, n ∉ underway → n ∉ begun new → told n new = []

namespace Proper

variable {underway : List Nat} {base new new' : List Line}

theorem lt_of_mem (h : Proper underway base new) {n : Nat} (mem : n ∈ begun new) :
    (begun base).length ≤ n ∧ n < (begun (base ++ new)).length := by
  rw [h.numbered, List.mem_range'_1] at mem
  simpa only [begun_append, List.length_append] using mem

theorem nil : Proper underway base [] where
  numbered := rfl
  owed := fun before n event rest eq => by simp at eq
  meant := fun n _ _ => rfl

/-- A line with which no publication begins, and which tells of none but those under way. -/
theorem single {line : Line} (begins : line.begun? = none)
    (tells : ∀ n, n ∉ underway → line.told? n = none) : Proper underway base [line] where
  numbered := by simp [begun, begins]
  owed := fun before n event rest eq => by
    have first : Line.begins n event = line := by
      have mem : Line.begins n event ∈ [line] := by simp [eq]
      exact List.mem_singleton.mp mem
    rw [← first] at begins
    cases begins
  meant := fun n outside _ => by simp [told, tells n outside]

theorem mono (h : Proper [] base new) : Proper underway base new :=
  ⟨h.numbered, h.owed, fun n _ none => h.meant n (by simp) none⟩

/-- **Proper lines** that follow one another are proper. -/
theorem append (h : Proper underway base new) (h' : Proper underway (base ++ new) new')
    (old : ∀ n ∈ underway, n < (begun base).length) : Proper underway base (new ++ new') where
  numbered := by
    have second := h'.numbered
    rw [begun_append, List.length_append] at second
    rw [begun_append, List.length_append, ← List.range'_append_1, ← h.numbered, ← second]
  owed := fun before n event rest eq => by
    obtain ⟨more, first, rfl⟩ | ⟨more, rfl, second⟩ := append_cons_cases eq
    · -- it begins in the first part, and nobody is told in it during the second
      obtain ⟨none, meanwhile, later, rfl, owed, silent⟩ := h.owed before n event more first
      have begins : Line.begins n event ∈ new := by simp [first]
      have mem : n ∈ begun new := mem_begun begins
      have apart : told n new' = [] := by
        refine h'.meant n (fun mem' => ?_) fun mem' => ?_
        · exact absurd (h.lt_of_mem mem).1 (Nat.not_le.mpr (old n mem'))
        · exact absurd (h.lt_of_mem mem).2 (Nat.not_lt.mpr (h'.lt_of_mem mem').1)
      refine ⟨none, meanwhile, later ++ new', by simp, owed, ?_⟩
      rw [told_append, silent, apart]
      rfl
    · -- it begins in the second part, and nobody was told in it during the first
      obtain ⟨none, meanwhile, later, returns, owed, silent⟩ := h'.owed more n event rest second
      have begins : Line.begins n event ∈ new' := by simp [second]
      have young := (h'.lt_of_mem (mem_begun begins)).1
      have apart : told n new = [] := by
        refine h.meant n (fun mem => ?_) fun mem => ?_
        · have older := old n mem
          simp only [begun_append, List.length_append] at young
          omega
        · exact absurd (h.lt_of_mem mem).2 (Nat.not_lt.mpr young)
      refine ⟨?_, meanwhile, later, returns, ?_, silent⟩
      · rw [told_append, apart, none]
        rfl
      · rw [owed, List.append_assoc]
  meant := fun n outside none => by
    rw [begun_append, List.mem_append, not_or] at none
    rw [told_append, h.meant n outside none.1, h'.meant n outside none.2]
    rfl

private theorem begun_publication (n : Nat) (event : Event) (new : List Line) :
    begun (.begins n event :: (new ++ [.ends n])) = n :: begun new := by
  show begun ([.begins n event] ++ (new ++ [.ends n])) = _
  rw [begun_append, begun_append]
  exact congrArg (n :: ·) (List.append_nil _)

/-- **A publication** is proper if what it leads to is, and if it tells those it owes it to. -/
theorem publication {n : Nat} {event : Event} (number : n = (begun base).length)
    (h : Proper [n] (base ++ [.begins n event]) new)
    (owed : told n new = addressed (registered base) event) :
    Proper [] base (.begins n event :: (new ++ [.ends n])) where
  numbered := by
    have inner := h.numbered
    have first : begun [.begins n event] = [n] := rfl
    rw [begun_append, first, List.length_append, List.length_singleton] at inner
    rw [begun_publication, List.length_cons, List.range'_succ, ← inner, number]
  owed := fun before m e rest eq => by
    cases before with
    | nil =>
      obtain ⟨line, rfl⟩ := List.cons.inj eq
      obtain ⟨rfl, rfl⟩ := Line.begins.inj line
      exact ⟨rfl, new, [], rfl, by simpa using owed, rfl⟩
    | cons line before =>
      obtain ⟨rfl, inside⟩ := List.cons.inj eq
      obtain ⟨more, first, rfl⟩ | ⟨more, rfl, second⟩ := append_cons_cases inside
      · obtain ⟨none, meanwhile, later, rfl, owed, silent⟩ := h.owed before m e more first
        refine ⟨none, meanwhile, later ++ [.ends n], by simp, ?_, ?_⟩
        · rw [owed, List.append_assoc]
          rfl
        · rw [told_append, silent]
          rfl
      · cases more with
        | nil => cases (List.cons.inj second).1
        | cons => simp at second
  meant := fun m _ none => by
    rw [begun_publication, List.mem_cons, not_or] at none
    have silent := h.meant m (by simpa using none.1) none.2
    show told m ([.begins n event] ++ (new ++ [.ends n])) = []
    rw [told_append, told_append, silent]
    rfl

end Proper

/-! ### The desk and the world -/

/-- The diary tells what became of the subscriptions of a circuit and of its log, but for warnings that
are still due. -/
structure Kept (said due : List Nat) (id : CircuitId) (w : World (Desk μ)) : Prop where
  there : id < w.circuits.size
  members : (w.circuit id).roster.members
    = (registered w.guest.diary).map fun s => ⟨s.1, s.2, s.1⟩
  next : (w.circuit id).roster.nextId = (made w.guest.diary).length
  numbers : (made w.guest.diary).map Prod.fst = List.range (made w.guest.diary).length
  once : (ended w.guest.diary).Nodup
  given : ended w.guest.diary ⊆ (made w.guest.diary).map Prod.fst
  warned : warnings id w.journal ++ due = said ++ abandoned w.guest.diary

namespace Kept

variable {said due : List Nat} {id : CircuitId} {w w' : World (Desk μ)}

/-- What leaves the subscriptions alone. -/
theorem of_eq {due' : List Nat} (h : Kept said due id w) (circuits : w'.circuits = w.circuits)
    (made_eq : made w'.guest.diary = made w.guest.diary)
    (ended_eq : ended w'.guest.diary = ended w.guest.diary)
    (warned : warnings id w'.journal ++ due' = said ++ abandoned w'.guest.diary) :
    Kept said due' id w' := by
  have circuit : w'.circuit id = w.circuit id := by rw [World.circuit, circuits]; rfl
  have registered_eq : registered w'.guest.diary = registered w.guest.diary := by
    rw [registered, made_eq, ended_eq]
    rfl
  refine ⟨?_, ?_, ?_, ?_, ?_, ?_, warned⟩
  · rw [circuits]
    exact h.there
  · rw [circuit, registered_eq]
    exact h.members
  · rw [circuit, made_eq]
    exact h.next
  · rw [made_eq]
    exact h.numbers
  · rw [ended_eq]
    exact h.once
  · rw [ended_eq, made_eq]
    exact h.given

/-- A line about a publication. -/
theorem jot (h : Kept said [] id w) (line : Line) (made_eq : made [line] = [])
    (ended_eq : ended [line] = []) (memory : μ) (current : Nat) :
    Kept said (abandoned [line]) id
      { w with guest := ⟨memory, w.guest.diary ++ [line], current⟩ } := by
  have warned := h.warned
  rw [List.append_nil] at warned
  refine h.of_eq rfl ?_ ?_ ?_
  · rw [made_append, made_eq, List.append_nil]
  · rw [ended_append, ended_eq, List.append_nil]
  · rw [abandoned_append, ← List.append_assoc, ← warned]

/-- An entry that is no warning about the circuit. -/
theorem write (h : Kept said due id w) {entry : Entry} (silent : warning? id entry = none) :
    Kept said due id (w.write entry) := by
  refine h.of_eq rfl rfl rfl ?_
  rw [World.write, warnings_push, silent, Option.toList_none, List.append_nil]
  exact h.warned

/-- The warning that is due is given. -/
theorem warn {number : Nat} (h : Kept said [number] id w) :
    Kept said [] id (w.log id (.consumerAborted number)) := by
  refine h.of_eq rfl rfl rfl ?_
  have warning : warning? id (.log id (w.circuit id).name (.consumerAborted number)) = some number :=
    if_pos rfl
  rw [World.log, World.write, warnings_push, warning, List.append_nil]
  exact h.warned

theorem subscribed (h : Kept said due id w) (filter : Filter) :
    Kept said due id { w.subscribe id filter (w.circuit id).roster.nextId with
      guest := w.guest.jot (.subscribed (w.circuit id).roster.nextId filter) } := by
  set number := (w.circuit id).roster.nextId with number_eq
  have given := h.next
  have fresh : number ∉ ended w.guest.diary := by
    intro mem
    have old := h.given mem
    rw [h.numbers, List.mem_range] at old
    omega
  have roster : ((w.subscribe id filter number).circuit id).roster
      = (w.circuit id).roster.subscribe filter number := by
    rw [World.subscribe, World.circuit_setCircuit_self w _ h.there]
  have made_eq : made [.subscribed number filter] = [(number, filter)] := rfl
  have ended_eq : ended [.subscribed number filter] = [] := rfl
  have abandoned_eq : abandoned [.subscribed number filter] = [] := rfl
  refine ⟨?_, ?_, ?_, ?_, ?_, ?_, ?_⟩
  · rw [World.subscribe, World.size_setCircuit]
    exact h.there
  · show ((w.subscribe id filter number).circuit id).roster.members = _
    rw [roster, Desk.jot, registered_subscribed fresh, Roster.subscribe, h.members, List.map_append,
      ← number_eq]
    rfl
  · show ((w.subscribe id filter number).circuit id).roster.nextId = _
    rw [roster, Desk.jot, made_append, List.length_append, ← given]
    rfl
  · rw [Desk.jot, made_append, made_eq, List.map_append, h.numbers, List.length_append,
      List.length_singleton, List.range_succ, ← given]
    rfl
  · rw [Desk.jot, ended_append, ended_eq, List.append_nil]
    exact h.once
  · rw [Desk.jot, ended_append, ended_eq, List.append_nil, made_append, List.map_append]
    exact List.subset_append_of_subset_left _ h.given
  · rw [Desk.jot, abandoned_append, abandoned_eq, List.append_nil]
    exact h.warned

theorem unsubscribed (h : Kept said due id w) {number : Nat}
    (mem : number ∈ (registered w.guest.diary).map Prod.fst) :
    Kept said due id { w.unsubscribe id number with guest := w.guest.jot (.unsubscribed number) } := by
  have roster : ((w.unsubscribe id number).circuit id).roster
      = (w.circuit id).roster.unsubscribe number := by
    rw [World.unsubscribe, World.circuit_setCircuit_self w _ h.there]
  obtain ⟨s, there, rfl⟩ := List.mem_map.mp mem
  obtain ⟨made_mem, kept⟩ := List.mem_filter.mp there
  have made_eq : made [.unsubscribed s.1] = [] := rfl
  have ended_eq : ended [.unsubscribed s.1] = [s.1] := rfl
  have abandoned_eq : abandoned [.unsubscribed s.1] = [] := rfl
  refine ⟨?_, ?_, ?_, ?_, ?_, ?_, ?_⟩
  · rw [World.unsubscribe, World.size_setCircuit]
    exact h.there
  · show ((w.unsubscribe id s.1).circuit id).roster.members = _
    rw [roster, Desk.jot, registered_unsubscribed, Roster.unsubscribe, h.members, List.filter_map]
    rfl
  · show ((w.unsubscribe id s.1).circuit id).roster.nextId = _
    rw [roster, Desk.jot, made_append, made_eq, List.append_nil]
    exact h.next
  · rw [Desk.jot, made_append, made_eq, List.append_nil]
    exact h.numbers
  · rw [Desk.jot, ended_append, ended_eq, List.nodup_append_comm]
    exact List.nodup_cons.mpr ⟨of_decide_eq_true kept, h.once⟩
  · rw [Desk.jot, ended_append, ended_eq, made_append, made_eq, List.append_nil]
    exact List.append_subset.mpr ⟨h.given, by simpa using ⟨s.2, made_mem⟩⟩
  · rw [Desk.jot, abandoned_append, abandoned_eq, List.append_nil]
    exact h.warned

end Kept

/-- What is noted while something is done: it is proper, the diary goes on to tell what became of the
subscriptions, and every publication that began has returned. -/
structure Goes (said due underway : List Nat) (id : CircuitId) (w w' : World (Desk μ))
    (new : List Line) : Prop where
  kept : Kept said due id w'
  diary : w'.guest.diary = w.guest.diary ++ new
  current : w'.guest.current = w.guest.current
  proper : Proper underway w.guest.diary new
  level : depth new = 0

/-- A run is broken off where reactions are nested too deep: so many more publications are under way than
before. -/
def Exceeds (w : World (Desk μ)) (limit : Nat) (cause : Abort) (after : World (Desk μ)) : Prop :=
  cause = .unsettled ∧ depth w.guest.diary + limit ≤ depth after.guest.diary

namespace Goes

variable {said due underway : List Nat} {id : CircuitId} {w w' w₁ w₂ w₃ : World (Desk μ)}
  {new new' : List Line}

theorem refl (h : Kept said due id w) : Goes said due underway id w w [] :=
  ⟨h, (List.append_nil _).symm, rfl, .nil, rfl⟩

theorem trans {due' : List Nat} (h : Goes said due underway id w₁ w₂ new)
    (h' : Goes said due' underway id w₂ w₃ new')
    (old : ∀ n ∈ underway, n < (begun w₁.guest.diary).length) :
    Goes said due' underway id w₁ w₃ (new ++ new') where
  kept := h'.kept
  diary := by rw [h'.diary, h.diary, List.append_assoc]
  current := h'.current.trans h.current
  proper := by
    have rest := h'.proper
    rw [h.diary] at rest
    exact h.proper.append rest old
  level := by rw [depth_append, h.level, h'.level, add_zero]

theorem exceeds {limit : Nat} {cause : Abort} (h : Goes said due underway id w w₁ new)
    (exceeds : Exceeds w₁ limit cause w₂) : Exceeds w limit cause w₂ := by
  have deep := exceeds.2
  rw [h.diary, depth_append, h.level, add_zero] at deep
  exact ⟨exceeds.1, deep⟩

/-- What was noted first, and then what is noted during an act. -/
theorem yields {α : Type} {limit : Nat} {x : Act (Desk μ) α} (first : Goes said [] [] id w w₁ new)
    (rest : Yields x w₁ (fun _ after => ∃ new, Goes said [] [] id w₁ after new) (Exceeds w₁ limit)) :
    Yields x w₁ (fun _ after => ∃ new, Goes said [] [] id w after new) (Exceeds w limit) :=
  rest.mono (fun _ _ ⟨_, more⟩ => ⟨_, first.trans more (by simp)⟩) fun _ _ => first.exceeds

end Goes

/-! ### Telling -/

/-- Consumers who only do what a conduct can say, and say first that they are told.  They break a run off
only if they nest their publications deeper than a limit. -/
def Conducts (react : React (Desk μ)) (id : CircuitId) (limit : Nat) : Prop :=
  ∀ (said : List Nat) (w : World (Desk μ)) (number : Nat) (name : String) (event : Event),
    Kept said [] id w → w.guest.current < (begun w.guest.diary).length →
      Yields (react number name event) w
        (fun _ after => ∃ new, told w.guest.current new = [(number, event)] ∧
          Goes said [] [w.guest.current] id w after new)
        fun cause after => Exceeds w limit cause after ∨ cause ≠ .unsettled ∧
          ∃ new, told w.guest.current new = [(number, event)] ∧
            Goes said [number] [w.guest.current] id w after new

variable {react : React (Desk μ)} {id : CircuitId} {said : List Nat} {w : World (Desk μ)} {limit : Nat}

/-- Telling one consumer ends only the run or nothing. -/
theorem yields_isolated (conducts : Conducts react id limit) (number : Nat) (name : String) (event : Event)
    (kept : Kept said [] id w) (old : w.guest.current < (begun w.guest.diary).length) :
    Yields (isolated id number (react number name event)) w
      (fun _ after => ∃ new, told w.guest.current new = [(number, event)] ∧
        Goes said [] [w.guest.current] id w after new) (Exceeds w limit) := by
  have reaction := conducts said w number name event kept old
  unfold Yields at reaction ⊢
  unfold isolated
  cases result : react number name event w with
  | ok _ after =>
    rw [result] at reaction
    exact reaction
  | error cause after =>
    rw [result] at reaction
    have logged (settled : cause ≠ .unsettled) :
        ∃ new, told w.guest.current new = [(number, event)] ∧ Goes said [] [w.guest.current] id w
          (after.log id (.consumerAborted number)) new := by
      obtain exceeds | ⟨-, new, once, goes⟩ := reaction
      · exact absurd exceeds.1 settled
      · exact ⟨new, once, goes.kept.warn, goes.diary, goes.current, goes.proper, goes.level⟩
    cases cause with
    | unsettled => exact reaction.resolve_right fun gaveUp => gaveUp.1 rfl
    | predicate | noWait | unshown | consumer | task | emptyWindow => exact logged (by simp)

theorem yields_tellEach (conducts : Conducts react id limit) (name : String) (event : Event)
    (subscriptions : List (Subscription ConsumerId)) (own : ∀ s ∈ subscriptions, s.consumer = s.id)
    (kept : Kept said [] id w) (old : w.guest.current < (begun w.guest.diary).length) :
    Yields (tellEach react id name event subscriptions) w
      (fun _ after => ∃ new, told w.guest.current new = subscriptions.map (fun s => (s.id, event)) ∧
        Goes said [] [w.guest.current] id w after new) (Exceeds w limit) := by
  induction subscriptions generalizing w with
  | nil =>
    unfold tellEach
    rw [yields_pure]
    exact ⟨[], rfl, .refl kept⟩
  | cons s rest ih =>
    unfold tellEach
    rw [yields_bind, own s List.mem_cons_self]
    refine (yields_isolated conducts s.id name event kept old).mono ?_ fun _ _ exceeds => exceeds
    rintro _ after ⟨new, once, goes⟩
    have still : after.guest.current < (begun after.guest.diary).length := by
      rw [goes.current, goes.diary, begun_append, List.length_append]
      omega
    refine (ih (fun s mem => own s (List.mem_cons_of_mem _ mem)) goes.kept still).mono ?_
      fun _ _ => goes.exceeds
    rintro _ last ⟨new', others, goes'⟩
    rw [goes.current] at others goes'
    refine ⟨new ++ new', ?_, goes.trans goes' (by simpa using old)⟩
    rw [told_append, once, others]
    rfl

/-- The subscriptions of a circuit that an event goes to are those it is meant for. -/
theorem Kept.addressees (h : Kept said [] id w) (event : Event) :
    ((w.circuit id).roster.addressees event).map (fun s => (s.id, event))
        = addressed (registered w.guest.diary) event ∧
      ∀ s ∈ (w.circuit id).roster.addressees event, s.consumer = s.id := by
  rw [Roster.addressees, h.members, List.filter_map]
  refine ⟨?_, fun s mem => ?_⟩
  · rw [List.map_map]
    rfl
  · obtain ⟨t, -, rfl⟩ := List.mem_map.mp mem
    rfl

/-- **A publication** tells those it owes it to. -/
theorem yields_publication (conducts : Conducts react id limit) (event : Event)
    (kept : Kept said [] id w) :
    Yields (publication react id event) w (fun _ after => ∃ new, Goes said [] [] id w after new)
      (Exceeds w (limit + 1)) := by
  unfold publication modifyDesk publish
  simp only [yields_bind, yields_modify, yields_get]
  set n := (begun w.guest.diary).length with number
  have begins : Kept said [] id { w with
      guest := { w.guest.jot (.begins n event) with current := n } } :=
    kept.jot (.begins n event) rfl rfl _ n
  have noted : warning? id (.published id event) = none := rfl
  have published := begins.write noted
  obtain ⟨owed, own⟩ := published.addressees event
  have registered_eq : registered (w.guest.diary ++ [.begins n event]) = registered w.guest.diary := by
    rw [registered, made_append, ended_append]
    simp [made, ended, registered, Line.subscription?, Line.ended?]
  have late : n < (begun (w.guest.diary ++ [.begins n event])).length := by
    rw [begun_append, List.length_append]
    exact Nat.lt_succ_self _
  refine (yields_tellEach conducts _ event _ own published late).mono ?_ fun cause after exceeds =>
    ⟨exceeds.1, ?_⟩
  case refine_2 =>
    have deep := exceeds.2
    have one : depth [.begins n event] = 1 := rfl
    rw [World.write, Desk.jot, depth_append, one] at deep
    omega
  rintro _ after ⟨new, all, goes⟩
  have ends : Kept said [] id { after with
      guest := { after.guest.jot (.ends n) with current := w.guest.current } } :=
    goes.kept.jot (.ends n) rfl rfl _ _
  refine ⟨.begins n event :: (new ++ [.ends n]), ends, ?_, rfl, .publication number goes.proper ?_, ?_⟩
  · show after.guest.diary ++ [.ends n] = _
    rw [goes.diary]
    simp [World.write, Desk.jot]
  · rw [← registered_eq]
    exact all.trans owed
  · show depth ([.begins n event] ++ (new ++ [.ends n])) = 0
    rw [depth_append, depth_append, goes.level]
    rfl

/-- **A conduct** goes on whatever the consumers do, unless reactions are nested too deep. -/
theorem yields_act (conducts : Conducts react id limit) (c : Conduct μ) (kept : Kept said [] id w) :
    Yields (c.act react id) w (fun _ after => ∃ new, Goes said [] [] id w after new)
      (Exceeds w (limit + 1)) := by
  induction c generalizing w with
  | done | giveUp =>
    unfold Conduct.act
    rw [yields_pure]
    exact ⟨[], .refl kept⟩
  | subscribe filter next ih =>
    unfold Conduct.act modifyDesk
    simp only [yields_bind, yields_get, yields_modify]
    have made := kept.subscribed filter
    have goes : Goes said [] [] id w _ _ := ⟨made, rfl, rfl, .single rfl fun _ _ => rfl, rfl⟩
    exact goes.yields (ih _ made)
  | unsubscribe number next ih =>
    unfold Conduct.act modifyDesk
    simp only [yields_bind, yields_get]
    split
    case isTrue mem =>
      simp only [yields_bind, yields_modify]
      have ended := kept.unsubscribed mem
      have goes : Goes said [] [] id w _ _ := ⟨ended, rfl, rfl, .single rfl fun _ _ => rfl, rfl⟩
      exact goes.yields (ih ended)
    case isFalse => exact ih kept
  | publish event next ih =>
    unfold Conduct.act
    rw [yields_bind]
    refine (yields_publication conducts event kept).mono ?_ fun _ _ exceeds => exceeds
    rintro _ after ⟨new, goes⟩
    exact goes.yields (ih goes.kept)
  | remember f next ih =>
    unfold Conduct.act modifyDesk
    simp only [yields_bind, yields_modify]
    have remembers : Kept said [] id { w with guest := { w.guest with memory := f w.guest.memory } } :=
      kept.of_eq rfl rfl rfl kept.warned
    have goes : Goes said [] [] id w _ [] := ⟨remembers, (List.append_nil _).symm, rfl, .nil, rfl⟩
    exact goes.yields (ih remembers)
  | consult next ih =>
    unfold Conduct.act
    simp only [yields_bind, yields_get]
    exact ih _ kept

/-- **Reactions** are the conducts of consumers that note first that they were told. -/
theorem conducts_reaction (behave : Nat → Event → Conduct μ) (allowance : Nat) :
    Conducts (reaction behave id allowance) id allowance := by
  induction allowance with
  | zero =>
    intro said w number name event _ _
    unfold reaction
    rw [yields_throw]
    exact .inl ⟨rfl, by simp⟩
  | succ allowance ih =>
    intro said w number name event kept old
    unfold reaction modifyDesk
    simp only [yields_bind, yields_get, yields_modify]
    have hears : Kept said [] id { w with
        guest := w.guest.jot (.told w.guest.current number event) } := kept.jot (.told ..) rfl rfl _ _
    have first : Goes said [] [w.guest.current] id w _ [.told w.guest.current number event] :=
      ⟨hears, rfl, rfl, .single rfl fun n outside => if_neg fun eq => outside (by simp [eq]), rfl⟩
    refine (yields_act ih (behave number event) hears).mono ?_ fun _ _ exceeds =>
      .inl (first.exceeds exceeds)
    rintro stops after ⟨new, goes⟩
    -- nothing that it does meanwhile tells of the publication that is under way
    have quiet : told w.guest.current new = [] := by
      refine goes.proper.meant _ (by simp) fun mem => ?_
      have young := (goes.proper.lt_of_mem mem).1
      rw [Desk.jot, begun_append, List.length_append] at young
      omega
    have all := first.trans ⟨goes.kept, goes.diary, goes.current, goes.proper.mono, goes.level⟩
      (by simpa using old)
    have once : told w.guest.current ([.told w.guest.current number event] ++ new)
        = [(number, event)] := by
      rw [told_append, quiet]
      simp [told, Line.told?]
    cases stops with
    | false =>
      simp only [Bool.false_eq_true, if_false, yields_pure]
      exact ⟨_, once, all⟩
    | true =>
      simp only [if_true, yields_bind, yields_modify, yields_throw]
      have stopped : Goes said [number] [w.guest.current] id after
          { after with guest := after.guest.jot (.givesUp w.guest.current number) }
          [.givesUp w.guest.current number] :=
        ⟨all.kept.jot (.givesUp ..) rfl rfl _ _, rfl, rfl, .single rfl fun _ _ => rfl, rfl⟩
      refine .inr ⟨by simp, _ ++ [.givesUp w.guest.current number], ?_,
        all.trans stopped (by simpa using old)⟩
      rw [told_append, once]
      rfl

theorem kept_of_nobody (there : id < w.circuits.size) (nobody : (w.circuit id).roster = .empty)
    (blank : w.guest.diary = []) : Kept (warnings id w.journal) [] id w where
  there := there
  members := by rw [nobody, blank]; rfl
  next := by rw [nobody, blank]; rfl
  numbers := by rw [blank]; rfl
  once := by rw [blank]; exact List.nodup_nil
  given := by rw [blank]; exact List.nil_subset _
  warned := by rw [blank]; rfl

/-- As many subscriptions are there as were made less those that were ended. -/
theorem Kept.count (h : Kept said [] id w) :
    (w.circuit id).roster.count + (ended w.guest.diary).length = (made w.guest.diary).length := by
  have left : ((made w.guest.diary).filter fun s => s.1 ∈ ended w.guest.diary).length
      = (ended w.guest.diary).length := by
    have numbers : ((made w.guest.diary).map Prod.fst).Nodup := by
      rw [h.numbers]
      exact List.nodup_range
    have same : (((made w.guest.diary).map Prod.fst).filter (· ∈ ended w.guest.diary)).Perm
        (ended w.guest.diary) := by
      refine (List.perm_ext_iff_of_nodup (numbers.filter _) h.once).mpr fun number => ?_
      rw [List.mem_filter, decide_eq_true_eq]
      exact ⟨fun both => both.2, fun mem => ⟨h.given mem, mem⟩⟩
    have lengths := same.length_eq
    rwa [List.filter_map, List.length_map] at lengths
  have parts := List.length_eq_length_filter_add (l := made w.guest.diary)
    fun s => s.1 ∈ ended w.guest.diary
  rw [Roster.count, h.members, List.length_map, registered]
  simp only [decide_not] at parts ⊢
  omega

/-- **Each event reaches those who are subscribed, once and in order.**  Begin with nobody subscribed to a
circuit and nothing in the diary, and do whatever a conduct can say, while consumers do whatever their
conducts say when they are told of something.  Then the diary shows that each publication told those it
owed it to (`Delivered.owed`) and nobody else, that each consumer that gave up got one warning, and which
subscriptions there are.  Nothing that consumers do ends a run, unless they nest their reactions deeper
than is allowed: then more publications than that are under way at once. -/
theorem told_once (w : World (Desk μ)) (there : id < w.circuits.size)
    (nobody : (w.circuit id).roster = .empty) (blank : w.guest.diary = [])
    (behave : Nat → Event → Conduct μ) (allowance : Nat) (c : Conduct μ) :
    Yields (c.act (reaction behave id allowance) id) w (fun _ after => Delivered id w after)
      fun cause after => cause = .unsettled ∧ allowance < depth after.guest.diary := by
  have kept := kept_of_nobody there nobody blank
  refine (yields_act (conducts_reaction behave allowance) c kept).mono ?_ fun cause after exceeds =>
    ⟨exceeds.1, ?_⟩
  case refine_2 =>
    have deep := exceeds.2
    have nothing : depth w.guest.diary = 0 := by rw [blank]; rfl
    omega
  rintro _ after ⟨new, goes⟩
  have diary : after.guest.diary = new := by rw [goes.diary, blank, List.nil_append]
  have proper := goes.proper
  rw [blank] at proper
  constructor
  case owed => rw [diary]; exact proper.owed
  case meant => rw [diary]; exact fun n none => proper.meant n (by simp) none
  case apart => rw [diary, proper.numbered]; exact List.nodup_range'
  case warned => simpa using goes.kept.warned
  case members => rw [goes.kept.members, List.map_map]; exact List.map_id _
  case numbers => rw [goes.kept.numbers]; exact List.nodup_range
  case count => exact goes.kept.count

/-- The consumer with the number 0, when it is told for the first time, subscribes another, ends the
subscription after its own, publishes an event of its own and gives up. -/
def meddling : Nat → Event → Conduct Nat
  | 0, _ => .consult fun times =>
    if times = 0 then
      .remember (· + 1) <| .subscribe .all fun _ => .unsubscribe 1 <| .publish .reset .giveUp
    else .done
  | _, _ => .done

/-- Two consumers are subscribed and told of a refusal; the first of them meddles.  The second is told of
the refusal all the same, and the event in between goes to the one that came meanwhile. -/
theorem told_once_meddling :
    let w := (World.empty 0 ⟨0⟩ (⟨0, [], 0⟩ : Desk Nat)).addCircuit Circuit.blank
    let c := Conduct.subscribe .all fun _ => .subscribe .all fun _ => .publish .notPermitted .done
    (0 < w.circuits.size ∧ (w.circuit 0).roster = .empty ∧ w.guest.diary = []) ∧
      ∃ after, c.act (reaction meddling 0 2) 0 w = .ok false after ∧ Delivered 0 w after ∧
        after.guest.diary = [.subscribed 0 .all, .subscribed 1 .all, .begins 0 .notPermitted,
          .told 0 0 .notPermitted, .subscribed 2 .all, .unsubscribed 1, .begins 1 .reset,
          .told 1 0 .reset, .told 1 2 .reset, .ends 1, .givesUp 0 0, .told 0 1 .notPermitted,
          .ends 0] ∧
        warnings 0 after.journal = [0] := by
  intro w c
  have there : 0 < w.circuits.size := by decide
  have delivered := told_once w there rfl rfl meddling 2 c
  have shown : (match c.act (reaction meddling 0 2) 0 w with
      | .ok stops after => some (stops, after.guest.diary, warnings 0 after.journal)
      | .error _ _ => none) = some (false, [.subscribed 0 .all, .subscribed 1 .all,
        .begins 0 .notPermitted, .told 0 0 .notPermitted, .subscribed 2 .all, .unsubscribed 1,
        .begins 1 .reset, .told 1 0 .reset, .told 1 2 .reset, .ends 1, .givesUp 0 0,
        .told 0 1 .notPermitted, .ends 0], [0]) := by decide +kernel
  refine ⟨⟨there, rfl, rfl⟩, ?_⟩
  cases run : c.act (reaction meddling 0 2) 0 w with
  | error cause after =>
    rw [run] at shown
    cases shown
  | ok stops after =>
    rw [run] at shown
    simp only [Option.some.injEq, Prod.mk.injEq] at shown
    obtain ⟨rfl, shown⟩ := shown
    exact ⟨after, rfl, delivered.of_ok run, shown⟩

end Breaker.Delivery

import Breaker.Proofs.World.Undergoes

/-!
# Writes — what acts leave in the journal

`Writes id turns events w w'` says that from `w` to `w'` a circuit logged these changes of state and
published these events, in this order each, and that no other circuit did either.  With consumers that do
not call back each act on a circuit writes an exact list of events: the rules here are beside those for the
marks it takes (`Quiet.transition` and its like), and say of each act what it tells.

Timers may move many circuits.  They tell of the changes of state that they make, and of nothing else
(`World.Announces`).
-/

namespace Breaker

variable {γ : Type}

/-- The event that tells of a change of state. -/
def Turn.event (t : Turn) : Event := .transition t.change

theorem Journal.turnsOf_of_aside (id : CircuitId) {entries : List Entry}
    (h : ∀ entry ∈ entries, entry.IsAside) : Journal.turnsOf id entries = [] :=
  List.filterMap_eq_nil_iff.mpr fun entry mem => h entry mem id

/-- The state that an outcome asks for. -/
def Decision.target? : Decision → Option State
  | .trip _ => some .opened
  | .close => some .closed
  | .tell _ => none

/-- The rates that an outcome brought to a threshold. -/
def Decision.rates? : Decision → Option Rates
  | .trip rates | .tell rates => some rates
  | .close => none

namespace World

/-- What a report asks for at a circuit. -/
def decision? (w : World γ) (id : CircuitId) (d : Duration) (r : Report) : Option Decision :=
  ((w.circuit id).outcome? d r).bind fun o =>
    ((w.episode id).observe (w.reading id) o).followUp (w.circuit id).settings (w.reading id)

/-- A circuit logged some changes of state and published some events, and no other did. -/
def Writes (id : CircuitId) (turns : List Turn) (events : List Event) (w w' : World γ) : Prop :=
  ∃ entries : List Entry, w'.journal = w.journal ++ entries.toArray ∧
    Journal.turnsOf id entries = turns ∧ Journal.eventsOf id entries = events ∧
    ∀ other, id ≠ other → Journal.turnsOf other entries = [] ∧ Journal.eventsOf other entries = []

namespace Writes

variable {id : CircuitId} {turns turns' : List Turn} {events events' : List Event}
  {w w' w₁ w₂ w₃ : World γ}

theorem trans (h : Writes id turns events w₁ w₂) (h' : Writes id turns' events' w₂ w₃) :
    Writes id (turns ++ turns') (events ++ events') w₁ w₃ := by
  obtain ⟨entries, eq, turned, told, others⟩ := h
  obtain ⟨entries', eq', turned', told', others'⟩ := h'
  refine ⟨entries ++ entries', by simp [eq', eq], ?_, ?_, fun other ne => ?_⟩
  · rw [Journal.turnsOf_append, turned, turned']
  · rw [Journal.eventsOf_append, told, told']
  · obtain ⟨idle, silent⟩ := others other ne
    obtain ⟨idle', silent'⟩ := others' other ne
    rw [Journal.turnsOf_append, idle, idle', Journal.eventsOf_append, silent, silent']
    exact ⟨rfl, rfl⟩

/-- Nothing is written. -/
theorem nothing (id : CircuitId) (h : w'.journal = w.journal) : Writes id [] [] w w' :=
  ⟨[], by simp [h], rfl, rfl, fun _ _ => ⟨rfl, rfl⟩⟩

theorem told (h : Tells id events w w') : Writes id [] events w w' := by
  obtain ⟨entries, eq, filtered⟩ := h.entries
  have aside := Entry.isAside_of_filter filtered
  refine ⟨entries, eq, Journal.turnsOf_of_aside id aside, ?_, fun other ne =>
    ⟨Journal.turnsOf_of_aside other aside, ?_⟩⟩
  · rw [← Journal.eventsOf_filter, filtered, Journal.eventsOf_published]
  · rw [← Journal.eventsOf_filter, filtered, Journal.eventsOf_published_of_ne ne]

theorem asked (id : CircuitId) (h : w.Asked w') : Writes id [] [] w w' := by
  obtain ⟨dice, remarks, rfl⟩ := h
  exact ⟨_, rfl, by simp [Journal.turnsOf, Entry.turn?], by simp [Journal.eventsOf], fun _ _ =>
    ⟨by simp [Journal.turnsOf, Entry.turn?], by simp [Journal.eventsOf]⟩⟩

/-- A record in the log of a circuit. -/
theorem log (w : World γ) (id : CircuitId) (record : LogRecord) :
    Writes id (Entry.turn? id (.log id (w.circuit id).name record)).toList [] w (w.log id record) := by
  refine ⟨[.log id (w.circuit id).name record], by simp [World.log, write], ?_, rfl, fun other ne => ?_⟩
  · rw [Journal.turnsOf, List.filterMap_cons]
    cases Entry.turn? id (.log id (w.circuit id).name record) with
    | none | some => rfl
  · refine ⟨?_, rfl⟩
    rw [Journal.turnsOf, List.filterMap_cons]
    cases record with
    | transition | reset => simp [Entry.turn?, ne]
    | refused | exceeded | consumerAborted => rfl

/-- A state is entered, and that is logged. -/
theorem entered (w : World γ) (id : CircuitId) (target : State) (wait : Duration) (manual : Bool)
    {record : LogRecord} {turn : Turn}
    (tells : ∀ name, Entry.turn? id (.log id name record) = some turn) :
    Writes id [turn] [] w ((w.enter id target wait manual).log id record) := by
  have logged := log (w.enter id target wait manual) id record
  rw [tells] at logged
  exact (nothing id (journal_enter ..)).trans logged

/-- What the journal tells of the circuit since then. -/
theorem since (h : Writes id turns events w w') :
    Journal.turnsOf id (w'.entriesSince w) = turns ∧
      Journal.eventsOf id (w'.entriesSince w) = events := by
  obtain ⟨entries, eq, turned, told, -⟩ := h
  rw [entriesSince_eq eq]
  exact ⟨turned, told⟩

/-- Nor does it tell anything of another. -/
theorem since_of_ne (h : Writes id turns events w w') {other : CircuitId} (ne : id ≠ other) :
    Journal.turnsOf other (w'.entriesSince w) = [] ∧
      Journal.eventsOf other (w'.entriesSince w) = [] := by
  obtain ⟨entries, eq, -, -, others⟩ := h
  rw [entriesSince_eq eq]
  exact others other ne

end Writes

end World

namespace Quiet

open World (Writes)

variable {react : React γ} {w : World γ} {id : CircuitId} {abort : Abort → World γ → Prop}

/-! ### Changes of state -/

/-- **A change of state** is logged, and told of after the rates that called for it. -/
theorem transition_writes (quiet : Quiet react) {target : State} {manual : Bool}
    {breach : Option Rates} {ok : Bool → World γ → Prop}
    (made : ∀ after, Writes id [⟨⟨(w.episode id).state, target⟩, manual⟩]
      (breachEvents (w.circuit id).settings breach ++ [.transition ⟨(w.episode id).state, target⟩])
      w after → ok true after)
    (failed : ∀ cause after, Writes id [] [] w after → abort cause after) :
    Yields (Breaker.transition react id (w.episode id) target manual breach) w ok abort := by
  refine yields_transition_of (.refl _) (fun _ _ newer => (Nat.lt_irrefl _ newer).elim)
    (fun wait u asked _ _ => ?_) fun cause u _ _ asked => failed cause u (.asked id asked)
  refine quiet.announce fun after told => made after ?_
  obtain ⟨e, circuit⟩ := u.circuit_enter id target wait manual id
  rw [World.circuit_log, circuit, asked.aside.circuit] at told
  rw [← asked.aside.episode id]
  refine (Writes.asked id asked).trans
    ((Writes.entered u id target wait manual fun name => ?_).trans (.told told))
  exact if_pos rfl

theorem force_writes (quiet : Quiet react) {target : State} {ok : Unit → World γ → Prop}
    (made : ∀ after, Writes id [⟨⟨(w.episode id).state, target⟩, true⟩]
      [.transition ⟨(w.episode id).state, target⟩] w after → ok () after)
    (failed : ∀ cause after, Writes id [] [] w after → abort cause after) :
    Yields (Breaker.force react id target) w ok abort := by
  unfold Breaker.force
  simp only [yields_bind, yields_get, yields_pure]
  exact quiet.transition_writes made failed

/-- A reset is logged, and told of after the change of state, if there is one. -/
theorem reset_writes (quiet : Quiet react) {ok : Unit → World γ → Prop}
    (made : ∀ after, Writes id [⟨⟨(w.episode id).state, .closed⟩, true⟩]
      (resetEvents (w.episode id).state) w after → ok () after) :
    Yields (Breaker.reset react id) w ok abort := by
  refine quiet.reset_tells fun after told => made after ?_
  refine (Writes.entered w id .closed .zero true fun name => ?_).trans (.told told)
  exact if_pos rfl

/-! ### Requests -/

/-- A refusal is published where refusals are. -/
theorem refuse_writes (quiet : Quiet react) (there : id < w.circuits.size)
    {ok : Unit → World γ → Prop}
    (refused : ∀ after, (after.episode id).state = (w.episode id).state →
      Writes id [] (if (w.episode id).state.publishesCalls then [.notPermitted] else []) w after →
      ok () after) :
    Yields (Breaker.refuse react id) w ok abort := by
  have rejected := World.episode_setEpisode_self w (w.episode id).reject there
  unfold Breaker.refuse
  simp only [yields_bind, yields_modify, yields_get, World.modifyEpisode_eq, rejected]
  refine quiet.publishCall fun after told => refused after ?_ ?_
  · have same : after.episode id = (w.episode id).reject := (told.aside.episode id).trans rejected
    rw [same]
    rfl
  · have counted : Writes id [] [] w (w.setEpisode id (w.episode id).reject) := .nothing id rfl
    exact counted.trans ((Writes.log _ id _).trans (.told told))

/-- **A request** tells of the changes of state it causes, and then of a refusal, unless calls are refused
by force. -/
theorem tryAcquire_writes (quiet : Quiet react) (tries : Nat) {w : World γ}
    (there : id < w.circuits.size) {ok : Bool → World γ → Prop}
    (answered : ∀ answer turns after, Writes id turns (turns.map Turn.event ++
      if answer = true ∨ (after.episode id).state = .forcedOpen then [] else [.notPermitted]) w after →
      ok answer after)
    (failed : ∀ cause after, abort cause after) :
    Yields (Breaker.tryAcquire react id tries) w ok abort := by
  induction tries generalizing w with
  | zero =>
    unfold Breaker.tryAcquire
    rw [yields_throw]
    exact failed _ w
  | succ tries ih =>
    unfold Breaker.tryAcquire
    simp only [yields_bind, yields_get]
    cases asked : (w.episode id).request (w.reading id) with
    | granted taken =>
      simp only [yields_bind, yields_set, yields_pure]
      exact answered true [] _ (.nothing id rfl)
    | denied =>
      simp only [yields_bind, yields_pure]
      refine quiet.refuse_writes there fun after same told => answered false [] after ?_
      have shown : (w.episode id).state.publishesCalls
          = !decide ((after.episode id).state = .forcedOpen) := by
        rw [same, Episode.state]
        rw [Episode.request] at asked
        cases phase : (w.episode id).phase with
        | opened | halfOpen | forcedOpen => rfl
        | closed | disabled | metricsOnly =>
          rw [phase] at asked
          cases asked
      rw [shown] at told
      simpa using told
    | expired next =>
      simp only [yields_bind]
      have wrote : Yields (Breaker.transition react id (w.episode id) next false none) w
          (fun _ after => Writes id [⟨⟨(w.episode id).state, next⟩, false⟩]
            [.transition ⟨(w.episode id).state, next⟩] w after) fun _ _ => True :=
        quiet.transition_writes (fun _ told => told) fun _ _ _ => trivial
      have size : Yields (Breaker.transition react id (w.episode id) next false none) w
          (fun _ after => after.circuits.size = w.circuits.size) fun _ _ => True :=
        quiet.transition (fun _ _ _ goes => goes.size) fun _ _ _ _ _ => trivial
      refine (wrote.and size).mono (fun _ v led => ?_) fun cause v _ => failed cause v
      obtain ⟨first, size⟩ := led
      refine ih (by rwa [size]) (fun answer turns after rest => ?_)
      exact answered answer (⟨⟨(w.episode id).state, next⟩, false⟩ :: turns) after (first.trans rest)

/-! ### Reports -/

/-- What an outcome asks for is told of: the rates that it brought to a threshold, and then the change of
state, which is made at the episode that the outcome was recorded in. -/
theorem follow_writes (quiet : Quiet react) {ticket : Episode} {decision : Option Decision}
    (current : decision.any Decision.isTold = false → ticket = w.episode id)
    {ok : Unit → World γ → Prop}
    (followed : ∀ turns after,
      turns = (decision.bind Decision.target?).toList.map
        (fun target => ⟨⟨ticket.state, target⟩, false⟩) →
      Writes id turns (breachEvents (w.circuit id).settings (decision.bind Decision.rates?)
        ++ turns.map Turn.event) w after → ok () after)
    (failed : ∀ cause after, abort cause after) :
    Yields (follow react id ticket decision) w ok abort := by
  unfold follow
  cases decision with
  | none =>
    rw [yields_pure]
    exact followed [] w rfl (.nothing id rfl)
  | some decision =>
    cases decision with
    | trip rates =>
      obtain rfl := current rfl
      simp only [yields_bind, yields_pure]
      exact quiet.transition_writes (fun after wrote => followed _ after rfl wrote)
        fun cause after _ => failed cause after
    | close =>
      obtain rfl := current rfl
      simp only [yields_bind, yields_pure]
      exact quiet.transition_writes (fun after wrote => followed _ after rfl wrote)
        fun cause after _ => failed cause after
    | tell rates =>
      simp only [yields_bind, yields_modify]
      refine quiet.publishBreach fun after shown => followed [] after rfl ?_
      rw [List.map_nil, List.append_nil]
      exact (Writes.log w id (.exceeded rates)).trans (.told shown)

/-- **An outcome that is recorded** is told of, then the rates that it brought to a threshold, and then
the change of state that it asked for. -/
theorem record_writes (quiet : Quiet react) (there : id < w.circuits.size) {o : Outcome}
    {event : Event} {ok : Unit → World γ → Prop}
    (recorded : ∀ decision turns after,
      ((w.episode id).observe (w.reading id) o).followUp (w.circuit id).settings (w.reading id)
        = decision →
      turns = (decision.bind Decision.target?).toList.map
        (fun target => ⟨⟨(w.episode id).state, target⟩, false⟩) →
      Writes id turns ((if (w.episode id).state.publishesCalls then [event] else []) ++
        (breachEvents (w.circuit id).settings (decision.bind Decision.rates?) ++ turns.map Turn.event))
        w after → ok () after)
    (failed : ∀ cause after, abort cause after) :
    Yields (Breaker.record react id o (pure event)) w ok abort := by
  refine quiet.yields_record there rfl rfl fun after said => ?_
  have settings : (after.circuit id).settings = (w.circuit id).settings := by
    rw [said.aside.circuit]
    split
    case isTrue =>
      have there' : id < (w.setEpisode id ((w.episode id).observe (w.reading id) o)).circuits.size := by
        rwa [World.setEpisode, World.size_setCircuit]
      rw [World.circuit_setEpisode_self _ _ there', World.circuit_setEpisode_self _ _ there]
    case isFalse => rw [World.circuit_setEpisode_self _ _ there]
  have wrote : Writes id [] (if (w.episode id).state.publishesCalls then [event] else []) w after := by
    refine (Writes.nothing id ?_).trans (.told said)
    split
    · rfl
    · rfl
  refine quiet.follow_writes (fun untold => ?_) (fun turns last turned followed => ?_) failed
  · have kept := said.aside.episode id
    rw [untold, if_neg Bool.false_ne_true, World.episode_setEpisode_self w _ there] at kept
    exact kept.symm
  · rw [settings] at followed
    exact recorded _ turns last rfl turned (wrote.trans followed)

theorem ignore_writes (quiet : Quiet react) (there : id < w.circuits.size) {event : Event}
    {ok : Unit → World γ → Prop}
    (ignored : ∀ after, Writes id []
      (if (w.episode id).state.publishesCalls then [event] else []) w after → ok () after) :
    Yields (Breaker.ignore react id (pure event)) w ok abort := by
  have released : ((w.setEpisode id (w.episode id).release).episode id).state
      = (w.episode id).state := by
    have keeps : Episode.Keeps (w.circuit id).settings (w.episode id)
        ((w.episode id).after (w.circuit id).settings (w.reading id) .released) :=
      Episode.keeps_after rfl _
    rw [World.episode_setEpisode_self w _ there]
    exact keeps.state
  unfold Breaker.ignore release
  simp only [yields_bind, yields_get, yields_modify, World.modifyEpisode_eq, released]
  have freed : Writes id [] [] w (w.setEpisode id (w.episode id).release) := .nothing id rfl
  exact quiet.publishCall fun after told => ignored after (freed.trans (.told told))

/-- **A report** tells of the call, by how it is counted, and then of what the outcome asks for. -/
theorem tell_writes (quiet : Quiet react) (there : id < w.circuits.size) {d : Duration} {r : Report}
    {ok : Unit → World γ → Prop}
    (told : ∀ verdict decision turns after,
      ((w.circuit id).verdict d r).observe.1 = .ok verdict → w.decision? id d r = decision →
      turns = (decision.bind Decision.target?).toList.map
        (fun target => ⟨⟨(w.episode id).state, target⟩, false⟩) →
      Writes id turns ((if (w.episode id).state.publishesCalls then [r.event d verdict] else []) ++
        (breachEvents (w.circuit id).settings (decision.bind Decision.rates?) ++ turns.map Turn.event))
        w after → ok () after)
    (failed : ∀ cause after, abort cause after) :
    Yields (r.tell react id d) w ok abort := by
  refine yields_tell (fun verdict o u result counted asked => ?_) (fun u result left asked => ?_)
    fun cause u _ _ => failed cause u
  · have there' : id < u.circuits.size := by rwa [asked.aside.circuits]
    refine quiet.record_writes there' (fun decision turns after asks turned wrote => ?_) failed
    rw [asked.aside.episode, asked.aside.reading, asked.aside.circuit] at asks
    rw [asked.aside.episode] at turned
    rw [asked.aside.episode, asked.aside.circuit] at wrote
    refine told verdict decision turns after result ?_ turned ((Writes.asked id asked).trans wrote)
    rw [World.decision?, counted]
    exact asks
  · have there' : id < u.circuits.size := by rwa [asked.aside.circuits]
    refine quiet.ignore_writes there' fun after wrote => ?_
    rw [asked.aside.episode] at wrote
    refine told .ignored none [] after result (by rw [World.decision?, left]; rfl) rfl ?_
    rw [Option.bind_none, breachEvents, List.map_nil, List.append_nil, List.append_nil]
    exact (Writes.asked id asked).trans wrote

end Quiet

/-! ### Timers -/

namespace World

/-- Circuits changed state, told of that, and told of nothing else. -/
def Announces (w w' : World γ) : Prop :=
  ∃ entries : List Entry, w'.journal = w.journal ++ entries.toArray ∧
    ∀ id, Journal.eventsOf id entries = (Journal.turnsOf id entries).map Turn.event

namespace Announces

variable {w w' w₁ w₂ w₃ : World γ}

theorem trans (h : w₁.Announces w₂) (h' : w₂.Announces w₃) : w₁.Announces w₃ := by
  obtain ⟨entries, eq, told⟩ := h
  obtain ⟨entries', eq', told'⟩ := h'
  refine ⟨entries ++ entries', by simp [eq', eq], fun id => ?_⟩
  rw [Journal.eventsOf_append, told, told', Journal.turnsOf_append, List.map_append]

/-- Nothing is written. -/
theorem nothing (h : w'.journal = w.journal) : w.Announces w' := ⟨[], by simp [h], fun _ => rfl⟩

theorem of_writes {id : CircuitId} {turns : List Turn}
    (h : Writes id turns (turns.map Turn.event) w w') : w.Announces w' := by
  obtain ⟨entries, eq, turned, told, others⟩ := h
  refine ⟨entries, eq, fun other => ?_⟩
  by_cases same : id = other
  · rw [← same, told, turned]
  · rw [(others other same).1, (others other same).2]
    rfl

theorem since (h : w.Announces w') (id : CircuitId) :
    Journal.eventsOf id (w'.entriesSince w)
      = (Journal.turnsOf id (w'.entriesSince w)).map Turn.event := by
  obtain ⟨entries, eq, told⟩ := h
  rw [entriesSince_eq eq, told]

end Announces

end World

section Timers

variable {react : CircuitId → React γ}

/-- **An alarm** announces the change of state that it makes, whether or not it is given up. -/
theorem announces_ring (quiet : ∀ id, Quiet (react id)) (busy : List CircuitId) (a : Alarm)
    (w : World γ) : Yields (ring react busy a) w (fun _ after => w.Announces after)
      fun _ after => w.Announces after := by
  unfold ring
  simp only [yields_bind, yields_get, yields_ite, yields_pure]
  split
  · exact (quiet a.circuit).transition_writes (fun _ wrote => .of_writes wrote)
      fun _ _ wrote => .of_writes wrote
  · exact .nothing rfl

theorem announces_ringAlone (quiet : ∀ id, Quiet (react id)) (busy : List CircuitId) (wakeup : Wakeup)
    (w : World γ) : Yields (ringAlone react busy wakeup) w (fun _ after => w.Announces after)
      fun _ after => w.Announces after := by
  refine yields_ringAlone ((announces_ring quiet busy wakeup.alarm w).mono (fun _ _ told => told) ?_)
  exact fun _ _ told => ⟨fun _ => told, fun _ => told⟩

/-- **A batch of timers** announces what each of them does. -/
theorem announces_runBatch {τ : Type} {isCancelled : Nat → Act γ Bool} {run : τ → Act γ Unit}
    (looks : ∀ (handle : Nat) (w : World γ),
      Yields (isCancelled handle) w (fun _ after => after = w) fun _ _ => True)
    (runs : ∀ (task : τ) (w : World γ),
      Yields (run task) w (fun _ after => w.Announces after) fun _ _ => True)
    (batch : List (Timer τ)) (w : World γ) :
    Yields (Timers.runBatch isCancelled run batch) w (fun _ after => w.Announces after)
      fun _ _ => True := by
  induction batch generalizing w with
  | nil =>
    unfold Timers.runBatch
    rw [yields_pure]
    exact .nothing rfl
  | cons t batch ih =>
    unfold Timers.runBatch
    simp only [yields_bind, yields_ite, yields_pure]
    refine (looks t.handle w).mono (fun cancelled after same => ?_) fun _ _ _ => trivial
    subst same
    split
    · exact ih after
    · refine (runs t.task after).mono (fun _ next first => ?_) fun _ _ _ => trivial
      exact (ih next).mono (fun _ _ rest => first.trans rest) fun _ _ _ => trivial

end Timers

end Breaker

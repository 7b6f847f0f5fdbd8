import Breaker.Proofs.World.Unshown

/-!
# Bystanders — consumers that do not call back

A run is a list of errands: operations, reports of errors, questions, waiting for a state, and time.  Some
errands are about consumers alone, and a run without consumers leaves these out, and builds circuits without
hooks (`deserted?`).  An `Outlook` is what is seen of a world after an errand.

An errand does the same in worlds that differ only in who listens (`accord_errand`), so that a run shows the
same with any consumers and with none (`consumers_are_bystanders`), if they do not call back.  One thing
would tell the two apart: the text of an error is formed for those who listen, by code of the user's, and a
report is given up if it cannot be formed.
-/

namespace Breaker

open World (Accords)

variable {γ γ' : Type} {faulty : Prop}

/-! ### Operations -/

/-- An operation without consumers, unless it is about them alone. -/
def Operation.deserted? : Operation → Option Operation
  | .subscribe _ _ _ | .unsubscribe _ _ => none
  | .build b => some (.build { b with roster := .empty })
  | op => some op

/-- Both worlds have the circuit, or neither has. -/
theorem accord_onCircuit {act : Act γ Answer} {act' : Act γ' Answer} (id : CircuitId)
    (h : Accord faulty act act') :
    Accord faulty (Operation.onCircuit id act) (Operation.onCircuit id act') := by
  unfold Operation.onCircuit
  refine .get_bind fun w w' accords => ?_
  rw [accords.size]
  exact .ite h (.pure _)

/-- The circuit that is built does not depend on who listens. -/
theorem Blueprint.build_deserted (b : Blueprint) {w : World γ} {w' : World γ'} (h : Accords w w') :
    ({ b with roster := .empty } : Blueprint).build w' = (b.build w).map Circuit.core := by
  have settings : ({ b with roster := .empty } : Blueprint).finalSettings = b.finalSettings := rfl
  have reads (source : TimeSource) : w'.timeAt source = w.timeAt source :=
    h.read (·.timeAt source) (World.core_timeAt w source) (World.core_timeAt w' source)
  rw [build, build, settings, h.elapsed]
  cases b.finalSettings.check? with
  | some violation => rfl
  | none =>
    dsimp only
    rw [reads]
    rfl

/-- Who is subscribed is the only thing that changes. -/
theorem yields_subscription {react : CircuitId → React γ} {op : Operation} (h : op.deserted? = none)
    (w : World γ) : Yields (op.run react) w (fun _ after => after.core = w.core) fun _ _ => False := by
  cases op with
  | subscribe i filter consumer =>
    unfold Operation.run Operation.onCircuit
    simp only [yields_bind, yields_get, yields_ite, yields_modify, yields_pure]
    split
    · exact w.core_setCircuit_roster i _
    · trivial
  | unsubscribe i number =>
    unfold Operation.run Operation.onCircuit
    simp only [yields_bind, yields_get, yields_ite, yields_modify, yields_pure]
    split
    · exact w.core_setCircuit_roster i _
    · trivial
  | request | acquire | report | release | force | reset | metrics | runTimers | runThreads | build
  | hold => cases h

section Operations

variable {react : CircuitId → React γ} {react' : CircuitId → React γ'}
  (quiet : ∀ id, Quiet (react id)) (quiet' : ∀ id, Quiet (react' id))
include quiet quiet'

/-- **An operation**, without those who are subscribed to what it builds. -/
theorem accord_run {op op' : Operation} (h : op.deserted? = some op') :
    Accord faulty (op.run react) (op'.run react') := by
  cases op with
  | request id tries =>
    cases h
    exact accord_onCircuit id (.bind (accord_tryAcquire (quiet id) (quiet' id) tries) fun _ => .pure _)
  | acquire id tries =>
    cases h
    refine accord_onCircuit id (.bind (accord_acquire (quiet id) (quiet' id) tries) fun answer => ?_)
    cases answer with
    | ok | error => exact .pure _
  | report id d r =>
    cases h
    exact accord_onCircuit id (.bind (accord_tell (quiet id) (quiet' id) d r) fun _ => .pure _)
  | release id =>
    cases h
    exact accord_onCircuit id (.bind accord_release fun _ => .pure _)
  | force id target =>
    cases h
    exact accord_onCircuit id (.bind (accord_force (quiet id) (quiet' id) target) fun _ => .pure _)
  | reset id =>
    cases h
    exact accord_onCircuit id (.bind (accord_reset (quiet id) (quiet' id)) fun _ => .pure _)
  | metrics id =>
    cases h
    exact accord_onCircuit id (.bind accord_readMetrics fun _ => .pure _)
  | runTimers busy =>
    cases h
    exact .bind (accord_runTimers quiet quiet' busy) fun _ => .pure _
  | runThreads busy =>
    cases h
    exact .bind (accord_runThreads quiet quiet' busy) fun _ => .pure _
  | hold handles =>
    cases h
    have held : Accord faulty (modify fun u => { u with handles := handles } : Act γ PUnit)
        (modify fun u => { u with handles := handles } : Act γ' PUnit) :=
      .modify (fun u => { u with handles := handles }) (fun _ => rfl) (fun _ => rfl)
        fun _ other => World.roster_congr other rfl
    exact .bind held fun _ => .pure _
  | build b =>
    cases h
    unfold Operation.run
    refine .get_bind fun w w' accords => ?_
    rw [b.build_deserted accords, accords.size]
    cases b.build w with
    | error refusal => exact .pure _
    | ok c =>
      have added : Accords (w.addCircuit c) (w'.addCircuit c.core) := by
        refine ⟨?_, fun other => w'.roster_addCircuit other rfl (accords.nobody other)⟩
        rw [World.core_addCircuit, World.core_addCircuit, accords.core]
        rfl
      exact .bind (.set added) fun _ => .pure _
  | subscribe | unsubscribe => cases h

end Operations

/-! ### Runs -/

/-- What can be asked of a circuit. -/
inductive Question where
  | state
  | name
  | settings
  /-- The circuit as text, with how many are subscribed. -/
  | text
  /-- How many are subscribed. -/
  | consumers

namespace Question

/-- The answer of a circuit. -/
def answer (c : Circuit) : Question → Answer
  | state => .state c.episode.state
  | name => .text c.name
  | settings => .settings c.settings
  | text => .text c.describe
  | consumers => .count c.roster.count

/-- Whether a question is about who is subscribed. -/
def isOfConsumers : Question → Bool
  | text | consumers => true
  | _ => false

/-- Every other question is answered without regard to them. -/
theorem answer_core {q : Question} (h : q.isOfConsumers = false) (c : Circuit) :
    q.answer c.core = q.answer c := by
  cases q with
  | state | name | settings => rfl
  | text | consumers => cases h

end Question

/-- One thing that is done in a run. -/
inductive Errand where
  | operation (op : Operation)
  /-- Reports an error, whose text may not be formed. -/
  | fault (id : CircuitId) (d : Duration) (e : Fault)
  | ask (id : CircuitId) (q : Question)
  /-- Waits for a state, while acts are under way on some circuits. -/
  | await (busy : List CircuitId) (id : CircuitId) (state : State) (looks : Nat)
  /-- Time passes, or the clock is set. -/
  | time (clock : Clock) (elapsed : Nat)

namespace Errand

/-- Does it. -/
def run (react : CircuitId → React γ) : Errand → Act γ Answer
  | operation op => op.run react
  | fault id d e => Operation.onCircuit id do
    onError (react id) id d e
    return .nothing
  | ask id q => Operation.onCircuit id do
    return q.answer ((← get).circuit id)
  | await busy id state looks => Operation.onCircuit id do
    return .flag (← awaitState react busy id state looks)
  | time clock elapsed => do
    modify fun w => { w with clock := clock, elapsed := elapsed }
    return .nothing

/-- What comes of it: the answer, or why it was given up, and the world after it. -/
def outcome (react : CircuitId → React γ) (errand : Errand) (w : World γ) :
    Except Abort Answer × World γ :=
  match errand.run react w with
  | .ok answer after => (.ok answer, after)
  | .error cause after => (.error cause, after)

/-- It without consumers, unless it is about them alone. -/
def deserted? : Errand → Option Errand
  | operation op => op.deserted?.map operation
  | ask id q => if q.isOfConsumers then none else some (ask id q)
  | errand => some errand

/-- A question that a run without consumers asks as well. -/
theorem deserted?_ask {id : CircuitId} {q : Question} {errand : Errand}
    (h : (ask id q).deserted? = some errand) : q.isOfConsumers = false ∧ ask id q = errand := by
  rw [deserted?] at h
  split at h
  case isTrue => cases h
  case isFalse other => exact ⟨Bool.eq_false_of_not_eq_true other, Option.some.inj h⟩

/-- What was left without consumers is left as it is. -/
theorem deserted?_deserted {errand errand' : Errand} (h : errand.deserted? = some errand') :
    errand'.deserted? = some errand' := by
  cases errand with
  | fault | await | time =>
    cases h
    rfl
  | ask id q =>
    obtain ⟨-, rfl⟩ := deserted?_ask h
    exact h
  | operation op =>
    obtain ⟨op', deserted, rfl⟩ := Option.map_eq_some_iff.mp h
    cases op with
    | subscribe | unsubscribe => cases deserted
    | request | acquire | report | release | force | reset | metrics | runTimers | runThreads | build
    | hold =>
      cases deserted
      rfl

end Errand

/-- Whether a record warns of a consumer that gave up. -/
def LogRecord.isWarning : LogRecord → Bool
  | .consumerAborted _ => true
  | _ => false

/-- What is seen of a world once something was done. -/
structure Outlook where
  /-- The answer, or why it was given up. -/
  answer : Except Abort Answer
  /-- Of each circuit its state, its attempts, and its metrics as they would be read now. -/
  circuits : List (State × Nat × Metrics)
  /-- The delays of the timers that can still go off: those of the world, and those in real time. -/
  delays : List Duration × List Duration
  /-- The log so far, without the warnings of consumers that gave up. -/
  logs : List (String × LogRecord)

/-- Whether something was given up because the text of an error could not be formed. -/
def Outlook.lacksText (seen : Outlook) : Bool :=
  match seen.answer with
  | .error (.unshown _) => true
  | _ => false

/-- What is seen of a world. -/
def World.outlook (w : World γ) (answer : Except Abort Answer) : Outlook where
  answer := answer
  circuits := w.circuits.toList.map fun c =>
    (c.episode.state, c.episode.attempts, (c.episode.settle (w.timeAt c.timeSource)).metrics)
  delays := (w.timers.delays, w.threads.delays)
  logs := (Journal.logs w.journal.toList).filter fun entry => !entry.2.isWarning

/-- All that is seen in a run, after each thing that is not about consumers alone. -/
def outlooks (react : CircuitId → React γ) : List Errand → World γ → List Outlook
  | [], _ => []
  | errand :: rest, w =>
    let (answer, after) := errand.outcome react w
    if errand.deserted?.isSome then after.outlook answer :: outlooks react rest after
    else outlooks react rest after

theorem outlooks_of_none {react : CircuitId → React γ} {errand : Errand} (h : errand.deserted? = none)
    (rest : List Errand) (w : World γ) :
    outlooks react (errand :: rest) w = outlooks react rest (errand.outcome react w).2 := by
  rw [outlooks, h]
  rfl

theorem outlooks_of_some {react : CircuitId → React γ} {errand errand' : Errand}
    (h : errand.deserted? = some errand') (rest : List Errand) (w : World γ) :
    outlooks react (errand :: rest) w
      = (errand.outcome react w).2.outlook (errand.outcome react w).1
        :: outlooks react rest (errand.outcome react w).2 := by
  rw [outlooks, h]
  rfl

/-- Notes are no log records, except for the warnings. -/
theorem Journal.logs_filter (entries : List Entry) :
    Journal.logs (entries.filter fun entry => !entry.isNote)
      = (Journal.logs entries).filter fun entry => !entry.2.isWarning := by
  induction entries with
  | nil => rfl
  | cons entry entries ih =>
    unfold logs at ih ⊢
    cases entry with
    | note | published | dealt => simpa [Entry.isNote] using ih
    | log circuit name record =>
      cases record with
      | transition | reset | refused | exceeded | consumerAborted =>
        simpa [Entry.isNote, LogRecord.isWarning] using ih

theorem Errand.outcome_of_lacksText {react : CircuitId → React γ} {errand : Errand} {w : World γ}
    (h : ((errand.outcome react w).2.outlook (errand.outcome react w).1).lacksText = true) :
    ∃ said after, errand.outcome react w = (.error (.unshown said), after) := by
  unfold Outlook.lacksText World.outlook at h
  dsimp only at h
  split at h
  case h_1 said lost => exact ⟨said, _, Prod.ext lost rfl⟩
  case h_2 => cases h

theorem World.core_outlook (w : World γ) (answer : Except Abort Answer) :
    w.core.outlook answer = w.outlook answer := by
  have logs : w.core.journal.toList = w.journal.toList.filter fun entry => !entry.isNote :=
    Array.toList_filter ..
  have circuits : w.core.circuits.toList = w.circuits.toList.map Circuit.core := Array.toList_map ..
  rw [outlook, outlook, logs, Journal.logs_filter, circuits, List.map_map]
  simp only [List.filter_filter, Bool.and_self, core_timeAt]
  rfl

/-- What is about consumers alone changes who listens, and nothing else. -/
theorem yields_run_of_consumers {react : CircuitId → React γ} {errand : Errand}
    (h : errand.deserted? = none) (w : World γ) :
    Yields (errand.run react) w (fun _ after => after.core = w.core) fun _ _ => False := by
  cases errand with
  | fault | await | time => cases h
  | operation op => exact yields_subscription (Option.map_eq_none_iff.mp h) w
  | ask id q =>
    unfold Errand.run Operation.onCircuit
    simp only [yields_bind, yields_get, yields_ite, yields_pure, ite_self]

section Runs

variable {react : CircuitId → React γ} {react' : CircuitId → React γ'}
  (quiet : ∀ id, Quiet (react id)) (quiet' : ∀ id, Quiet (react' id))
include quiet quiet'

/-- **What is done**, if it is not about consumers alone. -/
theorem accord_errand {errand errand' : Errand} (h : errand.deserted? = some errand')
    (fault : ∀ id d e, errand = .fault id d e → faulty) :
    Accord faulty (errand.run react) (errand'.run react') := by
  cases errand with
  | operation op =>
    obtain ⟨op', deserted, rfl⟩ := Option.map_eq_some_iff.mp h
    exact accord_run quiet quiet' deserted
  | fault id d e =>
    cases h
    exact accord_onCircuit id (.bind (accord_onError (quiet id) (quiet' id) d
      fun _ _ => fault id d e rfl) fun _ => .pure _)
  | ask id q =>
    obtain ⟨other, rfl⟩ := Errand.deserted?_ask h
    refine accord_onCircuit id (.get_bind fun w w' accords => ?_)
    have same : q.answer (w'.circuit id) = q.answer (w.circuit id) := by
      rw [← Question.answer_core other, accords.circuit, Question.answer_core other]
    rw [same]
    exact .pure _
  | await busy id state looks =>
    cases h
    exact accord_onCircuit id
      (.bind (accord_awaitState quiet quiet' busy id state looks) fun _ => .pure _)
  | time clock elapsed =>
    cases h
    have passed : Accord faulty
        (modify fun u => { u with clock := clock, elapsed := elapsed } : Act γ PUnit)
        (modify fun u => { u with clock := clock, elapsed := elapsed } : Act γ' PUnit) :=
      .modify (fun u => { u with clock := clock, elapsed := elapsed }) (fun _ => rfl) (fun _ => rfl)
        fun _ other => World.roster_congr other rfl
    exact .bind passed fun _ => .pure _

theorem outcome_eq {errand errand' : Errand} (h : errand.deserted? = some errand') {w : World γ}
    {w' : World γ'} (accords : Accords w w')
    (shown : ∀ said, (errand.outcome react w).1 ≠ .error (.unshown said)) :
    (errand'.outcome react' w').1 = (errand.outcome react w).1 ∧
      Accords (errand.outcome react w).2 (errand'.outcome react' w').2 := by
  have alike : Alike True _ _ :=
    accord_errand quiet quiet' h (fun _ _ _ _ => trivial) w w' accords
  unfold Errand.outcome at shown ⊢
  generalize errand.run react w = r, errand'.run react' w' = r' at alike shown ⊢
  cases alike with
  | answered a led => exact ⟨rfl, led⟩
  | gaveUp other led => exact ⟨rfl, led⟩
  | unshown _ said => exact absurd rfl (shown said)

/-- **The same is seen** in two runs that differ only in who listens. -/
theorem outlooks_eq (errands : List Errand) {w : World γ} {w' : World γ'} (accords : Accords w w')
    (shown : ∀ seen ∈ outlooks react errands w, seen.lacksText = false) :
    outlooks react' (errands.filterMap Errand.deserted?) w' = outlooks react errands w := by
  induction errands generalizing w w' with
  | nil => rfl
  | cons errand errands ih =>
    cases deserted : errand.deserted? with
    | none =>
      obtain ⟨answer, after, run, same⟩ := (yields_run_of_consumers deserted w).exists_ok
      have led : (errand.outcome react w).2.core = w.core := by rwa [Errand.outcome, run]
      rw [outlooks_of_none deserted] at shown ⊢
      rw [List.filterMap_cons_none deserted]
      exact ih (accords.of_core_eq led) shown
    | some errand' =>
      rw [outlooks_of_some deserted] at shown ⊢
      obtain ⟨first, later⟩ := List.forall_mem_cons.mp shown
      have formed (said : String) : (errand.outcome react w).1 ≠ .error (.unshown said) := by
        intro lost
        rw [lost] at first
        cases first
      obtain ⟨answers, led⟩ := outcome_eq quiet quiet' deserted accords formed
      have same : (errand'.outcome react' w').2.outlook (errand'.outcome react' w').1
          = (errand.outcome react w).2.outlook (errand.outcome react w).1 := by
        rw [answers]
        exact led.read (·.outlook _) (World.core_outlook ..) (World.core_outlook ..)
      rw [List.filterMap_cons_some deserted, outlooks_of_some (Errand.deserted?_deserted deserted)]
      exact congrArg₂ List.cons same (ih led later)

omit quiet' in
/-- **Nothing else is given up** for the text of an error. -/
theorem unshown_of_outcome {errand : Errand} {w after : World γ} {said : String}
    (lost : errand.outcome react w = (.error (.unshown said), after)) :
    ∃ id d e, errand = .fault id d e ∧ w.Unshown id d e said after := by
  have run : errand.run react w = .error (.unshown said) after := by
    unfold Errand.outcome at lost
    split at lost
    case h_1 => cases lost
    case h_2 cause last run =>
      cases lost
      exact run
  by_cases fault : ∃ id d e, errand = .fault id d e
  · obtain ⟨id, d, e, rfl⟩ := fault
    have reported : Yields ((Errand.fault id d e).run react) w (fun _ _ => True)
        fun cause after => ∀ said, cause = .unshown said → w.Unshown id d e said after := by
      unfold Errand.run Operation.onCircuit
      simp only [yields_bind, yields_get, yields_ite, yields_pure]
      split
      case isTrue there => exact (quiet id).onError_lost there d e
      case isFalse => trivial
    exact ⟨id, d, e, rfl, reported.of_error run said rfl⟩
  · cases deserted : errand.deserted? with
    | none =>
      obtain ⟨answer, last, answered, -⟩ := (yields_run_of_consumers deserted w).exists_ok
      rw [answered] at run
      cases run
    | some errand' =>
      have alike : Accord False (errand.run react) (errand'.run fun _ => (.silent : React Unit)) :=
        accord_errand quiet (fun _ => Quiet.silent) deserted
          fun id d e same => fault ⟨id, d, e, same⟩
      exact absurd rfl ((alike.yields w w.core w.accords_core).of_error run said)

end Runs

/-- **Consumers are bystanders.**  Let anything be done in a world, where any consumers are subscribed with
any filters, more of them come with the circuits that are built, and others come and go.  They do not call
back, and may give up at any event.  Then all answers, but for those about who is subscribed, the causes for
which acts are given up, all states, attempts and metrics, the delays of all timers and the log, up to its
warnings of consumers that gave up, are at all times what they are where the same is done and nobody listens,
as long as nothing was given up because the text of an error could not be formed.

That befalls only a report of an error whose text cannot be formed, and only where it is to be told to
somebody.  The circuit has then taken the marks of the report, up to the change of state that it called
for. -/
theorem consumers_are_bystanders {react : CircuitId → React γ} (quiet : ∀ id, Quiet (react id))
    (w : World γ) :
    (∀ errands, (∀ seen ∈ outlooks react errands w, seen.lacksText = false) →
      outlooks react errands w
        = outlooks (fun _ => .silent) (errands.filterMap Errand.deserted?) w.core) ∧
    ∀ errand said after, Errand.outcome react errand w = (.error (.unshown said), after) →
      ∃ id d e, errand = .fault id d e ∧ w.Unshown id d e said after :=
  ⟨fun errands shown => (outlooks_eq quiet (fun _ => Quiet.silent) errands w.accords_core shown).symm,
    fun _ _ _ lost => unshown_of_outcome quiet lost⟩

/-- Consumers that give up at every event they are told of are quiet. -/
theorem Quiet.panicking : Quiet (fun _ _ _ => throw .consumer : React γ) := by
  intro consumer name event w
  rw [yields_throw]
  exact ⟨nofun, w.guest, [], by simp⟩

/-- The world that some errands lead to. -/
def Errand.lead (react : CircuitId → React γ) (errands : List Errand) (w : World γ) : World γ :=
  errands.foldl (fun w errand => (errand.outcome react w).2) w

/-- A failure opens a breaker, which denies a request.  A hook and a subscriber give up at all that they are
told of, five times, and nothing else comes of it.  An error whose text cannot be formed does not matter
where nobody listens, but its report is given up where somebody does. -/
theorem consumers_are_bystanders_panicking :
    ∃ (react : CircuitId → React Unit) (w : World Unit) (errands : List Errand),
    (Journal.logs (Errand.lead react errands w).journal.toList).countP
      (fun record => record.2.isWarning) = 5 ∧
    (outlooks react errands w).map (fun seen => seen.circuits.map (·.1))
      = [[.closed], [.opened], [.opened], [.opened, .closed], [.opened, .opened]] ∧
    (∀ seen ∈ outlooks react errands w, seen.lacksText = false) ∧
    outlooks react errands w
      = outlooks (fun _ => .silent) (errands.filterMap Errand.deserted?) w.core ∧
    ∃ (v : World Unit) (errand : Errand) (said : String) (after : World Unit),
      errand.outcome react v = (.error (.unshown said), after) ∧
      ∃ id d e, errand = .fault id d e ∧ v.Unshown id d e said after := by
  have quiet (id : CircuitId) : Quiet ((fun _ _ _ _ => throw .consumer : CircuitId → React Unit) id) :=
    .panicking
  have given : ∃ said after, Errand.outcome (fun _ _ _ _ => throw .consumer)
      (.fault 0 .zero ⟨.unit, .error "no text"⟩)
      (Errand.lead (fun _ _ _ _ => throw .consumer)
        [.operation (.build (.ofChoices "" [.calls 2, .minimumCalls 1, .timeSource .shared])),
          .operation (.subscribe 0 .all 1)] (World.empty 0 ⟨0⟩ ()))
      = (.error (.unshown said), after) := Errand.outcome_of_lacksText (by decide +kernel)
  obtain ⟨said, after, lost⟩ := given
  refine ⟨fun _ _ _ _ => throw .consumer, World.empty 0 ⟨0⟩ (),
    [.operation (.build (.ofChoices "" [.calls 2, .minimumCalls 1, .timeSource .shared,
        .onTransition 0])),
      .operation (.subscribe 0 .all 1), .operation (.report 0 .zero (.error .unit)),
      .operation (.request 0 3),
      .operation (.build (.ofChoices "" [.calls 2, .minimumCalls 1, .timeSource .shared])),
      .fault 1 .zero ⟨.unit, .error "no text"⟩],
    by decide +kernel, by decide +kernel, by decide +kernel,
    (consumers_are_bystanders quiet _).1 _ (by decide +kernel),
    _, _, said, after, lost, (consumers_are_bystanders quiet _).2 _ said after lost⟩

/-- A consumer that does nothing is subscribed to a breaker which the next failure opens.  An error is
reported whose text cannot be formed: the report is given up and the breaker stays closed, whereas it opens
if nobody is subscribed.  Asked how many are, it says one, and none. -/
theorem consumers_are_bystanders_unshown :
    ∃ (react : CircuitId → React Unit) (w : World Unit) (errands : List Errand),
    (∀ id, Quiet (react id)) ∧
    (outlooks react errands w).map (fun seen => (seen.lacksText, seen.circuits.map (·.1)))
      = [(false, [.closed]), (true, [.closed])] ∧
    (outlooks (fun _ => .silent) (errands.filterMap Errand.deserted?) w.core).map
        (fun seen => (seen.lacksText, seen.circuits.map (·.1)))
      = [(false, [.closed]), (false, [.opened])] ∧
    ((Errand.lead react errands w).circuit 0).roster.count = 1 ∧
    ((Errand.lead (fun _ => .silent) (errands.filterMap Errand.deserted?) w.core).circuit 0).roster.count
      = 0 :=
  ⟨fun _ => .silent, World.empty 0 ⟨0⟩ (),
    [.operation (.build (.ofChoices "" [.calls 2, .minimumCalls 1, .timeSource .shared])),
      .operation (.subscribe 0 .all 0), .fault 0 .zero ⟨.unit, .error "no text"⟩],
    fun _ => Quiet.silent, by decide +kernel, by decide +kernel, by decide +kernel, by decide +kernel⟩

end Breaker

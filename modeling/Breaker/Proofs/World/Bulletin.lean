import Breaker.Proofs.Episode.Told
import Breaker.Proofs.World.Past
import Breaker.Proofs.World.Writes

/-!
# Bulletin — exactly which events a run publishes

`Operation.events` says which events an operation brings a circuit, and in which order: the call that is
reported, the rates that it brought to a threshold, the changes of state, a refusal, a reset.  It needs
the changes of state that were made, the answer, and whether the current stay in metrics-only operation
already told of its thresholds; of these only the last is not seen from outside, and `Operation.toldAfter`
follows it from one operation to the next.

`Bulletin` gathers these events along a run whose consumers do not call back, and
`World.events_eq_bulletin` says that the circuit published them and no others.  The changes of state are
those in the log, and the theorem says that the log is right about them: they lead from closed to the
current state, and each began the episode with the next number.
-/

namespace Breaker

variable {γ : Type}

/-! ### Rates that are told of -/

namespace Episode

variable {s : Settings} {now : Nat}

/-- Rates that reach no threshold are not told of. -/
theorem rates_events_of_not_breached {r : Rates} (h : breached s r = false) : r.events s = [] := by
  obtain ⟨failure, slow⟩ := Bool.or_eq_false_iff.mp h
  rw [Rates.events, failure, slow]
  rfl

/-- **Rates are told of** before a change of state that they call for, and once by an episode that
only watches them. -/
theorem breachEvents_followUp (e : Episode) :
    breachEvents s ((e.followUp s now).bind Decision.rates?) =
      if ((e.followUp s now).bind Decision.target?).isSome ∨
          e.state = .metricsOnly ∧ breached s e.rates = true ∧ e.hasTold = false
        then e.rates.events s else [] := by
  rw [followUp, hasTold, state]
  cases phase : e.phase with
  | disabled | opened | forcedOpen => simp [breachEvents, Phase.state]
  | closed =>
    cases breach : breached s e.rates with
    | true => simp [breachEvents, Decision.rates?, Decision.target?]
    | false => simp [breachEvents, Phase.state]
  | halfOpen permits deadline =>
    dsimp only
    by_cases overdue : deadline.any (· ≤ now) = true
    · simp [overdue, breachEvents, Decision.rates?, Decision.target?]
    · by_cases few : e.window.totals.total < e.minimum
      · simp [overdue, few, breachEvents, Phase.state]
      · cases breach : breached s e.rates with
        | true => simp [overdue, few, breachEvents, Decision.rates?, Decision.target?]
        | false =>
          -- a trial that was passed has no rate to tell of
          rw [rates_events_of_not_breached breach, ite_self]
          simp [overdue, few, breachEvents, Decision.rates?]
  | metricsOnly reported =>
    cases breach : breached s e.rates with
    | true =>
      cases reported with
      | true | false => simp [breachEvents, Decision.rates?, Decision.target?, Phase.state]
    | false => simp [breachEvents, Phase.state]

end Episode

/-! ### What an operation brings a circuit -/

namespace Operation

variable {w w' : World γ} {id : CircuitId} {op : Operation} {answer : Answer} {told : Bool}
  {turns : List Turn}

/-- The call that an operation reports at a circuit, by how it is counted, unless the circuit is
disabled or open by force. -/
def callEvents (op : Operation) (w : World γ) (id : CircuitId) : List Event :=
  match op with
  | .report i d r =>
    if i = id ∧ (w.episode id).state ≠ .disabled ∧ (w.episode id).state ≠ .forcedOpen then
      match ((w.circuit id).verdict d r).observe.1 with
      | .ok verdict => [r.event d verdict]
      | .error _ => []
    else []
  | _ => []

/-- The rates of a circuit once the outcome is recorded that an operation reports there. -/
def ratesAfter? (op : Operation) (w : World γ) (id : CircuitId) : Option Rates :=
  (op.reported? w id).map fun o => ((w.episode id).observe (w.reading id) o).rates

/-- Whether an operation reports an outcome that finds a rate at its threshold where metrics are only
watched. -/
def alerts (op : Operation) (w : World γ) (id : CircuitId) : Bool :=
  (w.episode id).state = .metricsOnly &&
    (op.ratesAfter? w id).any (Episode.breached (w.circuit id).settings)

/-- Whether the rates are told of that an operation brought to their thresholds: before the change of
state that it caused by a report, and the first time where metrics are only watched. -/
def tellsRates (op : Operation) (w : World γ) (id : CircuitId) (told : Bool) (turns : List Turn) :
    Bool :=
  !turns.isEmpty || (op.alerts w id && !told)

/-- The rates that an operation brought to their thresholds by a report, if they are told of. -/
def rateEvents (op : Operation) (w : World γ) (id : CircuitId) (told : Bool) (turns : List Turn) :
    List Event :=
  if op.tellsRates w id told turns then
    (op.ratesAfter? w id).elim [] (Rates.events (w.circuit id).settings)
  else []

/-- Whether an operation resets a circuit. -/
def resets (op : Operation) (id : CircuitId) : Bool :=
  match op with
  | .reset i => i = id
  | _ => false

/-- **The events that an operation brings a circuit**: the call that is reported, the rates that
reached their thresholds, the changes of state but for a reset of a closed circuit, a refusal but for
one by force, and a reset. -/
def events (op : Operation) (w w' : World γ) (id : CircuitId) (told : Bool) (answer : Answer)
    (turns : List Turn) : List Event :=
  op.callEvents w id ++ op.rateEvents w id told turns ++
    (if op.resets id ∧ (w.episode id).state = .closed then [] else turns.map Turn.event) ++
    (if op.isDenied id answer ∧ (w'.episode id).state ≠ .forcedOpen then [.notPermitted] else []) ++
    (if op.resets id then [.reset] else [])

/-- Whether the current stay in metrics-only operation has told of its thresholds after an operation. -/
def toldAfter (op : Operation) (w : World γ) (id : CircuitId) (told : Bool) (turns : List Turn) :
    Bool :=
  turns.isEmpty && (told || op.alerts w id)

theorem callEvents_of_off (off : op.circuit? ≠ some id) : op.callEvents w id = [] := by
  cases op with
  | report i d r =>
    refine if_neg fun both => off ?_
    rw [circuit?, both.1]
  | request | acquire | release | force | reset | metrics | subscribe | unsubscribe | runTimers
  | runThreads | build | hold => rfl

theorem resets_of_off (off : op.circuit? ≠ some id) : op.resets id = false := by
  cases op with
  | reset i =>
    refine decide_eq_false fun same => off ?_
    rw [circuit?, same]
  | request | acquire | report | release | force | metrics | subscribe | unsubscribe | runTimers
  | runThreads | build | hold => rfl

/-- Where no outcome is recorded, no rates are told of. -/
theorem rateEvents_of_none (none : op.reported? w id = none) :
    op.rateEvents w id told turns = [] := by
  rw [rateEvents, ratesAfter?, none]
  exact ite_self _

theorem alerts_of_none (none : op.reported? w id = none) : op.alerts w id = false := by
  rw [alerts, ratesAfter?, none]
  exact Bool.and_false _

/-- An operation that is neither a report nor a reset brings changes of state and perhaps a refusal. -/
theorem events_of_plain (silent : op.callEvents w id = []) (none : op.reported? w id = none)
    (stays : op.resets id = false) :
    op.events w w' id told answer turns = turns.map Turn.event ++
      if op.isDenied id answer ∧ (w'.episode id).state ≠ .forcedOpen then [.notPermitted] else [] := by
  rw [events, silent, rateEvents_of_none none, stays]
  simp

theorem events_of_granted (silent : op.callEvents w id = []) (none : op.reported? w id = none)
    (stays : op.resets id = false) (granted : op.isDenied id answer = false) :
    op.events w w' id told answer turns = turns.map Turn.event := by
  rw [events_of_plain silent none stays, granted]
  simp

/-- An operation beside a circuit brings it no more than changes of state. -/
theorem events_of_off (off : op.circuit? ≠ some id) :
    op.events w w' id told answer turns = turns.map Turn.event :=
  events_of_granted (callEvents_of_off off) (reported?_of_off off) (resets_of_off off)
    (isDenied_of_off off)

/-- The call is told of where calls are published. -/
theorem callEvents_report {d : Duration} {r : Report} {verdict : Verdict}
    (result : ((w.circuit id).verdict d r).observe.1 = .ok verdict) :
    (report id d r).callEvents w id
      = if (w.episode id).state.publishesCalls then [r.event d verdict] else [] := by
  rw [callEvents, result]
  cases (w.episode id).state with
  | closed | opened | halfOpen | disabled | forcedOpen | metricsOnly => simp [State.publishesCalls]

/-- What is told of an outcome and of what it asks for. -/
theorem rateEvents_report {d : Duration} {r : Report}
    (turned : turns = ((w.decision? id d r).bind Decision.target?).toList.map
      fun target => ⟨⟨(w.episode id).state, target⟩, false⟩) :
    (report id d r).rateEvents w id (w.episode id).hasTold turns
      = breachEvents (w.circuit id).settings ((w.decision? id d r).bind Decision.rates?) := by
  have outcome : (report id d r).reported? w id = (w.circuit id).outcome? d r := if_pos rfl
  cases counted : (w.circuit id).outcome? d r with
  | none =>
    rw [rateEvents_of_none (outcome.trans counted), World.decision?, counted]
    rfl
  | some o =>
    have asks : w.decision? id d r = ((w.episode id).observe (w.reading id) o).followUp
        (w.circuit id).settings (w.reading id) := by
      rw [World.decision?, counted]
      rfl
    have made : turns.isEmpty = !((w.decision? id d r).bind Decision.target?).isSome := by
      rw [turned]
      cases (w.decision? id d r).bind Decision.target? with
      | none | some => rfl
    have state : ((w.episode id).observe (w.reading id) o).state = (w.episode id).state := rfl
    have told : ((w.episode id).observe (w.reading id) o).hasTold = (w.episode id).hasTold := rfl
    rw [rateEvents, tellsRates, made, alerts, ratesAfter?, outcome, counted, asks,
      Episode.breachEvents_followUp, state, told]
    simp [and_assoc]

end Operation

namespace Operation

variable {react : CircuitId → React γ} {w : World γ}

/-- **An operation on no circuit** tells of changes of state and of nothing else. -/
theorem announces_run (quiet : ∀ id, Quiet (react id)) {op : Operation} (off : op.circuit? = none) :
    Yields (op.run react) w (fun _ after => w.Announces after) fun _ _ => True := by
  cases op with
  | request | acquire | report | release | force | reset | metrics => cases off
  | runTimers busy =>
    unfold run Breaker.runTimers
    simp only [yields_bind, yields_get, yields_modify, yields_pure]
    refine (announces_runBatch (fun handle w' => ?_) (fun a w' => ?_) w.timers.pending _).mono
      (fun _ _ told => ?_) fun _ _ _ => trivial
    · simp only [yields_bind, yields_get, yields_pure]
    · exact (announces_ring quiet busy a w').mono (fun _ _ told => told) fun _ _ _ => trivial
    · exact told
  | runThreads busy =>
    unfold run
    simp only [yields_bind, yields_pure, yields_runThreads_iff]
    refine (announces_runBatch (fun handle w' => ?_) (fun wakeup w' => ?_) w.dueThreads _).mono
      (fun _ _ told => ?_) fun _ _ _ => trivial
    · simp only [yields_bind, yields_get, yields_pure]
    · exact (announces_ringAlone quiet busy wakeup w').mono (fun _ _ told => told)
        fun _ _ _ => trivial
    · exact told
  | hold handles =>
    unfold run
    simp only [yields_bind, yields_modify, yields_pure]
    exact .nothing rfl
  | build b =>
    unfold run
    simp only [yields_bind, yields_get]
    cases b.build w with
    | ok c =>
      simp only [yields_bind, yields_set, yields_pure]
      exact .nothing rfl
    | error refusal =>
      rw [yields_pure]
      exact .nothing rfl
  | subscribe i filter consumer | unsubscribe i number =>
    unfold run onCircuit
    simp only [yields_bind, yields_get, yields_ite, yields_modify, yields_pure]
    split
    · exact .nothing rfl
    · exact .nothing rfl

/-- **An operation on a circuit** writes the events that it brings, and no other circuit has any. -/
theorem writes_run (quiet : ∀ id, Quiet (react id)) {op : Operation} {id : CircuitId}
    (there : id < w.circuits.size) (on : op.circuit? = some id) :
    Yields (op.run react) w
      (fun answer after => ∃ turns,
        World.Writes id turns (op.events w after id (w.episode id).hasTold answer turns) w after)
      fun _ _ => True := by
  cases op with
  | request i tries =>
    cases on
    unfold run onCircuit
    simp only [yields_bind, yields_get, yields_ite, if_pos there, yields_pure]
    refine (quiet id).tryAcquire_writes tries there (fun answer turns after wrote => ⟨turns, ?_⟩)
      fun _ _ => trivial
    rw [events_of_plain rfl rfl rfl]
    cases answer with
    | true | false => simpa [isDenied, denies, circuit?] using wrote
  | acquire i tries =>
    cases on
    unfold run onCircuit Breaker.acquire
    simp only [yields_bind, yields_get, yields_ite, if_pos there]
    refine (quiet id).tryAcquire_writes tries there (fun answer turns after wrote => ?_)
      fun _ _ => trivial
    cases answer with
    | true =>
      simp only [if_true, yields_pure]
      refine ⟨turns, ?_⟩
      rw [events_of_plain rfl rfl rfl]
      simpa [isDenied, denies, circuit?] using wrote
    | false =>
      simp only [if_neg Bool.false_ne_true, yields_pure]
      refine ⟨turns, ?_⟩
      rw [events_of_plain rfl rfl rfl]
      simpa [isDenied, denies, circuit?] using wrote
  | report i d r =>
    cases on
    unfold run onCircuit
    simp only [yields_bind, yields_get, yields_ite, if_pos there, yields_pure]
    refine (quiet id).tell_writes there (fun verdict decision turns after result asks turned wrote => ?_)
      fun _ _ => trivial
    subst asks
    refine ⟨turns, ?_⟩
    rw [events, callEvents_report result, rateEvents_report turned, isDenied_of_denies rfl]
    simpa [resets] using wrote
  | release i =>
    cases on
    unfold run onCircuit Breaker.release
    simp only [yields_bind, yields_get, yields_ite, if_pos there, yields_pure, yields_modify]
    refine ⟨[], ?_⟩
    rw [events_of_granted rfl rfl rfl (isDenied_of_denies rfl)]
    exact .nothing id rfl
  | force i target =>
    cases on
    unfold run onCircuit
    simp only [yields_bind, yields_get, yields_ite, if_pos there, yields_pure]
    refine (quiet id).force_writes
      (fun after wrote => ⟨[⟨⟨(w.episode id).state, target⟩, true⟩], ?_⟩) fun _ _ _ => trivial
    rw [events_of_granted rfl rfl rfl (isDenied_of_denies rfl)]
    exact wrote
  | reset i =>
    cases on
    unfold run onCircuit
    simp only [yields_bind, yields_get, yields_ite, if_pos there, yields_pure]
    refine (quiet id).reset_writes fun after wrote =>
      ⟨[⟨⟨(w.episode id).state, .closed⟩, true⟩], ?_⟩
    have silent : (reset id).callEvents w id = [] := rfl
    rw [events, silent, rateEvents_of_none rfl, isDenied_of_denies rfl]
    simpa [resets, resetEvents, Turn.event] using wrote
  | metrics i =>
    cases on
    unfold run onCircuit readMetrics
    simp only [yields_bind, yields_get, yields_ite, if_pos there, yields_pure, yields_modify]
    refine ⟨[], ?_⟩
    rw [events_of_granted rfl rfl rfl (isDenied_of_denies rfl)]
    exact .nothing id rfl
  | subscribe | unsubscribe | runTimers | runThreads | build | hold => cases on

/-- **The events of a circuit** while an operation is carried out are those that it brings. -/
theorem yields_events (quiet : ∀ id, Quiet (react id)) {id : CircuitId} (there : id < w.circuits.size)
    (op : Operation) :
    Yields (op.run react) w
      (fun answer after => Journal.eventsOf id (after.entriesSince w)
        = op.events w after id (w.episode id).hasTold answer
          (Journal.turnsOf id (after.entriesSince w)))
      fun _ _ => True := by
  cases on : op.circuit? with
  | none =>
    have off : op.circuit? ≠ some id := by
      rw [on]
      rintro ⟨⟩
    refine (announces_run quiet on).mono (fun _ after told => ?_) fun _ _ _ => trivial
    rw [events_of_off off]
    exact told.since id
  | some i =>
    by_cases own : i = id
    · subst own
      refine (writes_run quiet there on).mono (fun answer after wrote => ?_) fun _ _ _ => trivial
      obtain ⟨turns, wrote⟩ := wrote
      obtain ⟨turned, told⟩ := wrote.since
      rw [told, turned]
    · have off : op.circuit? ≠ some id := by
        rw [on]
        simpa using own
      by_cases present : i < w.circuits.size
      · refine (writes_run quiet present on).mono (fun answer after wrote => ?_) fun _ _ _ => trivial
        obtain ⟨turns, wrote⟩ := wrote
        obtain ⟨turned, told⟩ := wrote.since_of_ne own
        rw [events_of_off off, told, turned]
        rfl
      · refine yields_of_size_le on (Nat.le_of_not_lt present) ?_
        rw [events_of_off off]
        exact (World.Announces.nothing rfl).since id

/-! ### What was told of -/

/-- Where no outcome is recorded, what was told is forgotten with a change of state. -/
theorem toldAfter_of_none {op : Operation} {id : CircuitId} (none : op.reported? w id = none)
    (told : Bool) (turns : List Turn) :
    op.toldAfter w id told turns = if turns = [] then told else false := by
  rw [toldAfter, alerts_of_none none, Bool.or_false]
  cases turns with
  | nil | cons => rfl

end Operation

namespace World

variable {w : World γ} {id : CircuitId} {op : Operation} {answer : Answer} {marks : List Mark}

/-- A request tells of no thresholds. -/
theorem Asks.ne_told {answer : Bool} (h : w.Asks id answer marks) : ∀ m ∈ marks, m ≠ .told := by
  obtain ⟨lapses, e, lapse, -, ⟨-, -, rfl⟩ | ⟨-, -, rfl⟩⟩ := h
  · exact List.forall_mem_append.mpr ⟨lapse.ne_told, List.forall_mem_singleton.mpr Mark.noConfusion⟩
  · exact List.forall_mem_append.mpr ⟨lapse.ne_told, List.forall_mem_singleton.mpr Mark.noConfusion⟩

/-- A report that finds thresholds reached has told of them, if metrics are only watched. -/
theorem Told.hasTold_eq {d : Duration} {r : Report} (h : w.Told id d r marks) :
    ((w.episode id).course (w.circuit id).settings (w.reading id) marks).hasTold
      = (Operation.report id d r).toldAfter w id (w.episode id).hasTold
          ((w.episode id).turns (w.circuit id).settings (w.reading id) marks) := by
  have outcome : (Operation.report id d r).reported? w id = (w.circuit id).outcome? d r := if_pos rfl
  unfold Told at h
  split at h
  case h_1 o recorded =>
    rw [h.hasTold_eq, Operation.toldAfter, Operation.alerts, Operation.ratesAfter?, outcome, recorded]
    rfl
  case h_2 ignored =>
    subst h
    rw [Operation.toldAfter_of_none (outcome.trans ignored)]
    exact Episode.hasTold_course (List.forall_mem_singleton.mpr Mark.noConfusion) _

/-- **What was told of** is followed by the operations. -/
theorem Undergoes.hasTold_eq (h : w.Undergoes id op answer marks) :
    ((w.episode id).course (w.circuit id).settings (w.reading id) marks).hasTold
      = op.toldAfter w id (w.episode id).hasTold
          ((w.episode id).turns (w.circuit id).settings (w.reading id) marks) := by
  have silent (none : op.reported? w id = none) (h : ∀ m ∈ marks, m ≠ .told) :
      ((w.episode id).course (w.circuit id).settings (w.reading id) marks).hasTold
        = op.toldAfter w id (w.episode id).hasTold
            ((w.episode id).turns (w.circuit id).settings (w.reading id) marks) := by
    rw [Operation.toldAfter_of_none none, Episode.hasTold_course h]
  cases h with
  | does does =>
    cases does with
    | request asks | acquired asks | refused asks => exact silent rfl asks.ne_told
    | report told => exact told.hasTold_eq
    | release | force | reset | metrics =>
      exact silent rfl (List.forall_mem_singleton.mpr Mark.noConfusion)
  | moved runs =>
    exact silent (Operation.reported?_of_off runs.off) (List.forall_mem_singleton.mpr Mark.noConfusion)
  | spared off | muffled off =>
    exact silent (Operation.reported?_of_off off) fun _ mem => absurd mem List.not_mem_nil

end World

/-! ### What a run publishes -/

/-- What the operations of a run bring a circuit, and whether the current stay in metrics-only operation
told of its thresholds. -/
inductive Bulletin (react : CircuitId → React γ) (id : CircuitId) (w₀ : World γ) :
    World γ → Bool → List Event → Prop where
  | start : Bulletin react id w₀ w₀ false []
  | operation {w w' : World γ} {told : Bool} {events : List Event}
      (h : Bulletin react id w₀ w told events) (op : Operation) {answer : Answer}
      (run : op.run react w = .ok answer w') :
      Bulletin react id w₀ w' (op.toldAfter w id told (Journal.turnsOf id (w'.entriesSince w)))
        (events ++ op.events w w' id told answer (Journal.turnsOf id (w'.entriesSince w)))
  | time {w : World γ} {told : Bool} {events : List Event} (h : Bulletin react id w₀ w told events)
      (clock : Clock) (elapsed : Nat) :
      Bulletin react id w₀ { w with clock := clock, elapsed := elapsed } told events

namespace Bulletin

variable {react : CircuitId → React γ} {id : CircuitId}

/-- Carries out operations in order, and gathers what they bring a circuit. -/
def carryOut (react : CircuitId → React γ) (id : CircuitId) :
    List Operation → World γ → Bool → Option (World γ × List Event)
  | [], w, _ => some (w, [])
  | op :: ops, w, told =>
    match op.run react w with
    | .ok answer w' =>
      let turns := Journal.turnsOf id (w'.entriesSince w)
      (carryOut react id ops w' (op.toldAfter w id told turns)).map fun (last, events) =>
        (last, op.events w w' id told answer turns ++ events)
    | .error _ _ => none

theorem of_carryOut {w₀ : World γ} (ops : List Operation) {w last : World γ} {told : Bool}
    {events events' : List Event} (bulletin : Bulletin react id w₀ w told events)
    (h : carryOut react id ops w told = some (last, events')) :
    ∃ told', Bulletin react id w₀ last told' (events ++ events') := by
  induction ops generalizing w told events events' with
  | nil =>
    cases h
    rw [List.append_nil]
    exact ⟨told, bulletin⟩
  | cons op ops ih =>
    rw [carryOut] at h
    split at h
    case h_1 answer w' run =>
      obtain ⟨⟨last, rest⟩, later, eq⟩ := Option.map_eq_some_iff.mp h
      cases eq
      rw [← List.append_assoc]
      exact ih (bulletin.operation op run) later
    case h_2 => cases h

/-- A circuit that published what the operations brought it, with a log that is right about its changes
of state. -/
structure Keeps (id : CircuitId) (w₀ w : World γ) (told : Bool) (events : List Event) : Prop where
  sound : w.Sound
  there : id < w.circuits.size
  hasTold : (w.episode id).hasTold = told
  journal : ∃ entries : List Entry, w.journal = w₀.journal ++ entries.toArray ∧
    Journal.eventsOf id entries = events ∧
    Turn.Path .closed (Journal.turnsOf id entries) (w.episode id).state ∧
    (w.episode id).number = (Journal.turnsOf id entries).length

/-- **One operation** publishes what it brings. -/
theorem Keeps.operation {w₀ w w' : World γ} {told : Bool} {events : List Event}
    (h : Keeps id w₀ w told events) (quiet : ∀ id, Quiet (react id)) {op : Operation} {answer : Answer}
    (run : op.run react w = .ok answer w') :
    Keeps id w₀ w' (op.toldAfter w id told (Journal.turnsOf id (w'.entriesSince w)))
      (events ++ op.events w w' id told answer (Journal.turnsOf id (w'.entriesSince w))) := by
  obtain ⟨reaches, marks, course, undergoes⟩ :=
    (op.yields_undergoes quiet h.sound h.there).of_ok run
  have published := (op.yields_events quiet h.there).of_ok run
  have turns := course.turnsOf_entriesSince
  obtain ⟨entries, eq, gathered, path, number⟩ := h.journal
  obtain ⟨entries', eq', -⟩ := course.journal
  rw [World.entriesSince_eq eq'] at published turns ⊢
  rw [h.hasTold] at published
  refine ⟨reaches.sound h.sound, Nat.lt_of_lt_of_le h.there course.size, ?_,
    entries ++ entries', by simp [eq', eq], ?_, ?_, ?_⟩
  · rw [course.episode, undergoes.hasTold_eq, h.hasTold, turns]
  · rw [Journal.eventsOf_append, gathered, published]
  · rw [Journal.turnsOf_append, course.episode, turns]
    exact path.append (Episode.path_turns _ _)
  · rw [Journal.turnsOf_append, List.length_append, course.episode, Episode.number_course, number,
      turns]

/-- **A whole run** does so. -/
theorem keeps {w₀ w : World γ} {told : Bool} {events : List Event} (quiet : ∀ id, Quiet (react id))
    (bulletin : Bulletin react id w₀ w told events) (start : Keeps id w₀ w₀ false []) :
    Keeps id w₀ w told events := by
  induction bulletin with
  | start => exact start
  | operation _ op run ih => exact ih.operation quiet run
  | @time w told events _ clock elapsed ih =>
    exact ⟨(World.Move.time w clock elapsed).sound ih.sound, ih.there, ih.hasTold, ih.journal⟩

/-- A circuit that was just built has published nothing. -/
theorem Keeps.built {w₀ : World γ} (reachable : w₀.Reachable) {b : Blueprint} {c : Circuit}
    (built : b.build w₀ = .ok c) :
    Keeps w₀.circuits.size (w₀.addCircuit c) (w₀.addCircuit c) false [] := by
  obtain ⟨-, begun⟩ := Blueprint.build_ok built
  have episode : (w₀.addCircuit c).episode w₀.circuits.size = c.episode := by
    rw [World.episode, World.circuit_addCircuit_self]
  refine ⟨reachable.sound.build built, ?_, ?_, [], (Array.append_empty).symm, rfl, ?_, ?_⟩
  · rw [World.addCircuit, Array.size_push]
    exact Nat.lt_succ_self _
  · rw [episode, begun]
    rfl
  · rw [episode, begun]
    exact .nil _
  · rw [episode, begun]
    rfl

end Bulletin

namespace World

/-- **The events of a run**, none lost and none twice.  Where consumers do not call back, a circuit
publishes what the operations since it was built bring it and nothing else: each call that is reported
where calls are published, with its verdict; after it the rates that reached their thresholds, if they
call for a change of state or are found for the first time during a stay in metrics-only operation; each
change of state, of which a reset of a closed circuit reports none; each refusal that is not by force;
and each reset.  The changes of state in the log are those that were made: they lead from closed to the
current state, and each began the episode with the next number. -/
theorem events_eq_bulletin {react : CircuitId → React γ} (quiet : ∀ id, Quiet (react id))
    {w₀ w : World γ} (reachable : w₀.Reachable) {b : Blueprint} {c : Circuit}
    (built : b.build w₀ = .ok c) {told : Bool} {events : List Event}
    (bulletin : Bulletin react w₀.circuits.size (w₀.addCircuit c) w told events) :
    Journal.eventsOf w₀.circuits.size (w.entriesSince (w₀.addCircuit c)) = events ∧
      ∃ turns, Journal.turnsOf w₀.circuits.size (w.entriesSince (w₀.addCircuit c)) = turns ∧
        Turn.Path .closed turns (w.episode w₀.circuits.size).state ∧
        (w.episode w₀.circuits.size).number = turns.length := by
  obtain ⟨entries, eq, published, path, number⟩ :=
    (bulletin.keeps quiet (.built reachable built)).journal
  rw [entriesSince_eq eq]
  exact ⟨published, _, rfl, path, number⟩

/-- A failure opens a breaker that needs one call, and a request is denied.  By hand it is made to watch
metrics, where of two failures the first is told of, and then it is reset twice. -/
theorem events_eq_bulletin_watched :
    ∃ (c : Circuit) (w : World Unit),
      (Blueprint.ofChoices "" [.calls 2, .minimumCalls 1, .timeSource .shared]).build
        (World.empty 7 ⟨0⟩ ()) = .ok c ∧
      Journal.eventsOf 0 (w.entriesSince ((World.empty 7 ⟨0⟩ ()).addCircuit c)) =
        [.error .zero "()", .failureRateExceeded (.percent (Binary.exactly 100)),
          .transition ⟨.closed, .opened⟩, .notPermitted, .transition ⟨.opened, .metricsOnly⟩,
          .error .zero "()", .failureRateExceeded (.percent (Binary.exactly 100)), .error .zero "()",
          .transition ⟨.metricsOnly, .closed⟩, .reset, .reset] := by
  obtain ⟨c, built, ran⟩ : ∃ c : Circuit,
      (Blueprint.ofChoices "" [.calls 2, .minimumCalls 1, .timeSource .shared]).build
        (World.empty 7 ⟨0⟩ ()) = .ok c ∧
      (Bulletin.carryOut (fun _ => .silent) 0 [.report 0 .zero (.error .unit), .request 0 3,
        .force 0 .metricsOnly, .report 0 .zero (.error .unit), .report 0 .zero (.error .unit), .reset 0,
        .reset 0] ((World.empty 7 ⟨0⟩ ()).addCircuit c) false).map Prod.snd = some
        [.error .zero "()", .failureRateExceeded (.percent (Binary.exactly 100)),
          .transition ⟨.closed, .opened⟩, .notPermitted, .transition ⟨.opened, .metricsOnly⟩,
          .error .zero "()", .failureRateExceeded (.percent (Binary.exactly 100)), .error .zero "()",
          .transition ⟨.metricsOnly, .closed⟩, .reset, .reset] :=
    ⟨_, rfl, by decide +kernel⟩
  obtain ⟨⟨w, events⟩, run, rfl⟩ := Option.map_eq_some_iff.mp ran
  obtain ⟨told, bulletin⟩ := Bulletin.of_carryOut _ .start run
  rw [List.nil_append] at bulletin
  have published :=
    (events_eq_bulletin (fun _ => Quiet.silent) ⟨7, ⟨0⟩, (), .refl _⟩ built bulletin).1
  exact ⟨c, w, built, published⟩

end World

end Breaker

import Breaker.Proofs.Episode.Account
import Breaker.Proofs.World.Undergoes

/-!
# Past — the metrics of a circuit and its history

`Past` is the history of a circuit as it looks from outside: operations that were carried out, one after
another, each with what was reported, which changes of state the journal tells of, and whether the
caller was denied (`Operation.incidents`).  Time passes in between, and never back for the circuit.

`World.metrics_eq_account` says that this history settles the metrics: whatever was done since a
circuit was built, they are those of the account of its incidents.
-/

namespace Breaker

variable {γ : Type}

namespace Operation

/-- The outcome that an operation reports at a circuit, unless the call is ignored. -/
def reported? (op : Operation) (w : World γ) (id : CircuitId) : Option Outcome :=
  match op with
  | .report i d r => if i = id then (w.circuit id).outcome? d r else none
  | _ => none

/-- Whether the answer to an operation is that no permission is given. -/
def denies : Operation → Answer → Bool
  | .request _ _, .flag permitted => !permitted
  | .acquire _ _, .refused _ => true
  | _, _ => false

/-- Whether an operation asked a circuit for permission and was denied. -/
def isDenied (op : Operation) (id : CircuitId) (answer : Answer) : Bool :=
  op.circuit? = some id && op.denies answer

/-- What the history of a circuit tells of an operation that left these entries in the journal. -/
def incidents (op : Operation) (w : World γ) (id : CircuitId) (answer : Answer)
    (entries : List Entry) : List Incident :=
  (op.reported? w id).toList.map (.reported (w.reading id)) ++
    (Journal.turnsOf id entries).map (.turned (w.reading id)) ++
    (if op.isDenied id answer then [.denied] else [])

theorem reported?_of_off {op : Operation} {w : World γ} {id : CircuitId}
    (off : op.circuit? ≠ some id) : op.reported? w id = none := by
  cases op with
  | report i d r =>
    rw [reported?, if_neg]
    rintro rfl
    exact off rfl
  | request | acquire | release | force | reset | metrics | subscribe | unsubscribe | runTimers
  | runThreads | build | hold => rfl

theorem isDenied_of_off {op : Operation} {id : CircuitId} {answer : Answer}
    (off : op.circuit? ≠ some id) : op.isDenied id answer = false := by
  rw [isDenied, decide_eq_false off, Bool.false_and]

theorem isDenied_of_denies {op : Operation} {id : CircuitId} {answer : Answer}
    (granted : op.denies answer = false) : op.isDenied id answer = false := by
  rw [isDenied, granted, Bool.and_false]

/-- An operation beside a circuit brings it no more than changes of state. -/
theorem incidents_of_off {op : Operation} {w : World γ} {id : CircuitId} {answer : Answer}
    {entries : List Entry} (off : op.circuit? ≠ some id) :
    op.incidents w id answer entries
      = (Journal.turnsOf id entries).map (.turned (w.reading id)) := by
  rw [incidents, reported?_of_off off, isDenied_of_off off, if_neg Bool.false_ne_true,
    List.append_nil]
  rfl

end Operation

namespace World

variable {w : World γ} {id : CircuitId} {op : Operation} {answer : Answer} {marks : List Mark}
  {entries : List Entry}

/-- A request is a denial, if it is one, after its changes of state. -/
theorem Asks.incidents_eq {answer : Bool} (h : w.Asks id answer marks) :
    (w.episode id).incidents (w.circuit id).settings (w.reading id) marks
      = ((w.episode id).turns (w.circuit id).settings (w.reading id) marks).map
          (.turned (w.reading id)) ++ (if answer then [] else [.denied]) := by
  obtain ⟨lapses, e, lapse, -, ⟨rfl, -, rfl⟩ | ⟨rfl, -, rfl⟩⟩ := h
  · rw [Episode.incidents_append, Episode.turns_append, lapse.incidents_eq, List.map_append,
      List.append_assoc]
    rfl
  · rw [Episode.incidents_append, Episode.turns_append, lapse.incidents_eq, List.map_append,
      List.append_assoc]
    rfl

/-- **What a circuit undergoes** is what its history tells of the operation. -/
theorem Undergoes.incidents_eq (h : w.Undergoes id op answer marks)
    (turns : Journal.turnsOf id entries
      = (w.episode id).turns (w.circuit id).settings (w.reading id) marks) :
    (w.episode id).incidents (w.circuit id).settings (w.reading id) marks
      = op.incidents w id answer entries := by
  cases h with
  | does does =>
    rw [Operation.incidents, turns]
    cases does with
    | @request tries answer marks asks =>
      rw [asks.incidents_eq]
      cases answer with
      | true | false => simp [Operation.isDenied, Operation.denies, Operation.circuit?,
          Operation.reported?]
    | acquired asks | refused asks =>
      rw [asks.incidents_eq]
      simp [Operation.isDenied, Operation.denies, Operation.circuit?, Operation.reported?]
    | @report d r marks told =>
      have outcome : (Operation.report id d r).reported? w id = (w.circuit id).outcome? d r :=
        if_pos rfl
      rw [outcome, Operation.isDenied_of_denies rfl, if_neg Bool.false_ne_true, List.append_nil]
      unfold Told at told
      split at told
      case h_1 o recorded =>
        rw [told.incidents_eq, recorded]
        rfl
      case h_2 ignored =>
        subst told
        rw [ignored]
        rfl
    | release | force | reset | metrics =>
      rw [Operation.isDenied_of_denies rfl]
      rfl
  | moved runs timeout wait timer =>
    rw [Operation.incidents_of_off runs.off, turns]
    rfl
  | spared off | muffled off =>
    rw [Operation.incidents_of_off off, turns]
    rfl

end World

/-- The history of a circuit: what was done, one operation after another, and what it came to. -/
inductive Past (react : CircuitId → React γ) (id : CircuitId) (w₀ : World γ) :
    World γ → List Incident → Prop where
  | start : Past react id w₀ w₀ []
  | operation {w w' : World γ} {incidents : List Incident} (h : Past react id w₀ w incidents)
      (op : Operation) {answer : Answer} (run : op.run react w = .ok answer w') :
      Past react id w₀ w' (incidents ++ op.incidents w id answer (w'.entriesSince w))
  | time {w : World γ} {incidents : List Incident} (h : Past react id w₀ w incidents)
      (clock : Clock) (elapsed : Nat)
      (forward : w.reading id ≤ World.reading { w with clock := clock, elapsed := elapsed } id) :
      Past react id w₀ { w with clock := clock, elapsed := elapsed } incidents

namespace Past

variable {react : CircuitId → React γ} {id : CircuitId}

/-- Carries out operations in order, and gathers what the history of a circuit tells of them. -/
def carryOut (react : CircuitId → React γ) (id : CircuitId) :
    List Operation → World γ → Option (World γ × List Incident)
  | [], w => some (w, [])
  | op :: ops, w =>
    match op.run react w with
    | .ok answer w' => (carryOut react id ops w').map fun (last, incidents) =>
      (last, op.incidents w id answer (w'.entriesSince w) ++ incidents)
    | .error _ _ => none

theorem of_carryOut {w₀ : World γ} (ops : List Operation) {w last : World γ}
    {incidents incidents' : List Incident} (past : Past react id w₀ w incidents)
    (h : carryOut react id ops w = some (last, incidents')) :
    Past react id w₀ last (incidents ++ incidents') := by
  induction ops generalizing w incidents incidents' with
  | nil =>
    cases h
    rwa [List.append_nil]
  | cons op ops ih =>
    rw [carryOut] at h
    split at h
    case h_1 answer w' run =>
      obtain ⟨⟨last, rest⟩, later, eq⟩ := Option.map_eq_some_iff.mp h
      cases eq
      rw [← List.append_assoc]
      exact ih (past.operation op run) later
    case h_2 => cases h

/-- A circuit whose episode tallies with an account. -/
structure Keeps (id : CircuitId) (s : Settings) (a : Account) (w : World γ) : Prop where
  sound : w.Sound
  there : id < w.circuits.size
  settings : (w.circuit id).settings = s
  tallies : (w.episode id).Tallies s (w.reading id) a

/-- **One operation** keeps the account of a circuit. -/
theorem Keeps.operation {s : Settings} {a : Account} {w w' : World γ} (h : Keeps id s a w)
    (quiet : ∀ id, Quiet (react id)) {op : Operation} {answer : Answer}
    (run : op.run react w = .ok answer w') :
    Keeps id s (a.addAll (op.incidents w id answer (w'.entriesSince w))) w' := by
  obtain ⟨reaches, marks, course, undergoes⟩ :=
    (op.yields_undergoes quiet h.sound h.there).of_ok run
  -- the marks are not seen from outside, and the journal and the answer stand for them
  have turns := course.turnsOf_entriesSince
  have settings := h.settings
  refine ⟨reaches.sound h.sound, Nat.lt_of_lt_of_le h.there course.size,
    course.settings.trans settings, ?_⟩
  have tallies := h.tallies.course (settings ▸ h.sound.sized id) marks
    (settings ▸ undergoes.isProper)
  rwa [← settings, undergoes.incidents_eq turns, ← course.episode, ← course.reading, settings]
    at tallies

/-- **A whole history** keeps it. -/
theorem keeps {s : Settings} {a : Account} {w₀ w : World γ} {incidents : List Incident}
    (quiet : ∀ id, Quiet (react id)) (past : Past react id w₀ w incidents)
    (start : Keeps id s a w₀) : Keeps id s (a.addAll incidents) w := by
  induction past with
  | start => exact start
  | operation _ op run ih =>
    rw [Account.addAll_append]
    exact ih.operation quiet run
  | @time w incidents _ clock elapsed forward ih =>
    -- nothing is recorded, and windows that agreed go on to agree
    exact ⟨(World.Move.time w clock elapsed).sound ih.sound, ih.there, ih.settings,
      ih.tallies.mono forward⟩

/-- A circuit that was just built keeps an empty account. -/
theorem Keeps.built {w₀ : World γ} (reachable : w₀.Reachable) {b : Blueprint} {c : Circuit}
    (built : b.build w₀ = .ok c) :
    Keeps w₀.circuits.size c.settings (.start .closed (w₀.timeAt c.timeSource))
      (w₀.addCircuit c) := by
  obtain ⟨valid, begun⟩ := Blueprint.build_ok built
  have circuit := World.circuit_addCircuit_self w₀ c
  refine ⟨reachable.sound.build built, ?_, by rw [circuit], ?_⟩
  · rw [World.addCircuit, Array.size_push]
    exact Nat.lt_succ_self _
  · have reading : (w₀.addCircuit c).reading w₀.circuits.size = w₀.timeAt c.timeSource := by
      rw [World.reading, circuit]
      rfl
    rw [World.episode, circuit, reading, begun]
    exact .of_begin (Settings.sized_of_check valid) ..

end Past

/-- **A change by hand is written down.**  Once an operation has returned that makes one at a circuit, the
history tells of this change, and of nothing else. -/
theorem Operation.incidents_byHand {react : CircuitId → React γ} (quiet : ∀ id, Quiet (react id))
    {w after : World γ} (sound : w.Sound) {id : CircuitId} (there : id < w.circuits.size) {op : Operation}
    {target : State} (byHand : op = .force id target ∨ op = .reset id ∧ target = .closed)
    {answer : Answer} (run : op.run react w = .ok answer after) :
    op.incidents w id answer (after.entriesSince w)
      = [.turned (w.reading id) ⟨⟨(w.episode id).state, target⟩, true⟩] := by
  obtain ⟨-, marks, course, undergoes⟩ := (op.yields_undergoes quiet sound there).of_ok run
  rw [← undergoes.incidents_eq course.turnsOf_entriesSince]
  have on : op.circuit? = some id := by
    obtain rfl | ⟨rfl, -⟩ := byHand
    · rfl
    · rfl
  cases undergoes with
  | does does =>
    obtain rfl | ⟨rfl, rfl⟩ := byHand
    · cases does
      rfl
    · cases does
      rfl
  | moved runs => exact absurd on runs.off
  | spared off | muffled off => exact absurd on off

namespace World

/-- **Metrics are a function of the history.**  Whatever was done since a circuit was built, its
metrics are those of the account of what happened: a new window fed with the outcomes reported since
metrics last started over, and the number of requests denied since then. -/
theorem metrics_eq_account {react : CircuitId → React γ} (quiet : ∀ id, Quiet (react id))
    {w₀ w : World γ} (reachable : w₀.Reachable) {b : Blueprint} {c : Circuit}
    (built : b.build w₀ = .ok c) {incidents : List Incident}
    (past : Past react w₀.circuits.size (w₀.addCircuit c) w incidents) :
    ∃ after, readMetrics w₀.circuits.size w = .ok
      ((Account.ofIncidents (w₀.timeAt c.timeSource) incidents).metrics c.settings
        (w.reading w₀.circuits.size)) after := by
  have kept := past.keeps quiet (.built reachable built)
  have read : Yields (readMetrics w₀.circuits.size) w
      (fun shown _ => shown
        = ((w.episode w₀.circuits.size).settle (w.reading w₀.circuits.size)).metrics)
      fun _ _ => False := by
    unfold readMetrics
    simp only [yields_bind, yields_get, yields_modify, yields_pure,
      episode_modifyEpisode_self _ _ kept.there]
  obtain ⟨shown, after, run, eq⟩ := read.exists_ok
  rw [eq, kept.tallies.metrics_eq] at run
  exact ⟨after, run⟩

/-- A failure opens a breaker that needs one call, and its metrics still show the failure, with the
request that was denied since. -/
theorem metrics_eq_account_tripped :
    ∃ (c : Circuit) (w : World Unit),
      (Blueprint.ofChoices "" [.calls 2, .minimumCalls 1, .timeSource .shared]).build
        (World.empty 7 ⟨0⟩ ()) = .ok c ∧
      Past (fun _ => .silent) 0 ((World.empty 7 ⟨0⟩ ()).addCircuit c) w
        [.reported 7 ⟨true, false, .zero⟩, .turned 7 ⟨⟨.closed, .opened⟩, false⟩, .denied] ∧
      ∃ after, readMetrics 0 w = .ok ⟨⟨.percent (Binary.exactly 100), .percent Binary.zero⟩,
        ⟨1, 1, 0, 0, .zero⟩, 1⟩ after := by
  obtain ⟨c, built, ran, shown⟩ : ∃ c : Circuit,
      (Blueprint.ofChoices "" [.calls 2, .minimumCalls 1, .timeSource .shared]).build
        (World.empty 7 ⟨0⟩ ()) = .ok c ∧
      (Past.carryOut (fun _ => .silent) 0 [.report 0 .zero (.error .unit), .request 0 3]
        ((World.empty 7 ⟨0⟩ ()).addCircuit c)).map (fun r => (r.1.reading 0, r.2))
        = some (7, [.reported 7 ⟨true, false, .zero⟩, .turned 7 ⟨⟨.closed, .opened⟩, false⟩,
          .denied]) ∧
      (Account.ofIncidents ((World.empty 7 ⟨0⟩ ()).timeAt c.timeSource)
        [.reported 7 ⟨true, false, .zero⟩, .turned 7 ⟨⟨.closed, .opened⟩, false⟩,
          .denied]).metrics c.settings 7
        = ⟨⟨.percent (Binary.exactly 100), .percent Binary.zero⟩, ⟨1, 1, 0, 0, .zero⟩, 1⟩ :=
    ⟨_, rfl, by decide +kernel, by decide +kernel⟩
  obtain ⟨⟨w, incidents⟩, run, eq⟩ := Option.map_eq_some_iff.mp ran
  obtain ⟨reading, rfl⟩ := Prod.mk.inj eq
  have past := Past.of_carryOut _ .start run
  rw [List.nil_append] at past
  obtain ⟨after, read⟩ :=
    metrics_eq_account (fun _ => Quiet.silent) ⟨7, ⟨0⟩, (), .refl _⟩ built past
  have reading : w.reading (World.empty 7 ⟨0⟩ ()).circuits.size = 7 := reading
  rw [reading, shown] at read
  exact ⟨c, w, built, past, after, read⟩

end World

end Breaker

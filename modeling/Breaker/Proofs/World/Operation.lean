import Mathlib
import Breaker.Proofs.World.Quiet
import Breaker.Proofs.World.Sound
import Breaker.World.Alarms

/-!
# Operation — what can be asked of a world

An `Operation` is one thing that a user does with circuits, or with the timers they share, and
`Operation.run` does it.  One on a circuit that is not there does nothing.  `Operation.Does` says, for
each operation on a circuit, what it comes to: which marks the circuit takes, and which answer goes
with them (`Quiet.operation`).
-/

namespace Breaker

variable {γ : Type}

namespace Circuit

/-- How a circuit counts a call. -/
def verdict (c : Circuit) (d : Duration) : Report → Watched Verdict
  | .success => pure .success
  | .error e => c.settings.classifier.onError ⟨c.name, e, d⟩
  | .result v => c.settings.classifier.onResult ⟨c.name, v, d⟩

/-- The outcome that a circuit records of a call, unless the call is ignored. -/
def outcome? (c : Circuit) (d : Duration) (r : Report) : Option Outcome :=
  match (c.verdict d r).observe.1 with
  | .ok .success => some ⟨false, c.settings.isSlow d, d⟩
  | .ok .failure => some ⟨true, c.settings.isSlow d, d⟩
  | _ => none

end Circuit

/-- The event that tells of a call, by how it was counted. -/
def Report.event (d : Duration) (r : Report) : Verdict → Event
  | .success => .success d
  | .failure => .error d (match r with
    | .error e => e.describe
    | _ => "result classified as failure")
  | .ignored => .ignoredError d (match r with
    | .error e => e.describe
    | _ => "result ignored")

/-- One thing that a user does. -/
inductive Operation where
  | request (id : CircuitId) (tries : Nat)
  | acquire (id : CircuitId) (tries : Nat)
  | report (id : CircuitId) (d : Duration) (r : Report)
  | release (id : CircuitId)
  /-- Changes the state by hand. -/
  | force (id : CircuitId) (target : State)
  | reset (id : CircuitId)
  | metrics (id : CircuitId)
  | subscribe (id : CircuitId) (filter : Filter) (consumer : ConsumerId)
  | unsubscribe (id : CircuitId) (number : Nat)
  /-- Runs the timers of the world, while acts are under way on some circuits. -/
  | runTimers (busy : List CircuitId)
  /-- Runs the timers in real time. -/
  | runThreads (busy : List CircuitId)
  | build (b : Blueprint)
  /-- Gives out handles, or drops some. -/
  | hold (handles : Array (Option CircuitId))

namespace Operation

/-- The circuit whose episode an operation is on. -/
def circuit? : Operation → Option CircuitId
  | request id _ | acquire id _ | report id _ _ | release id | force id _ | reset id
  | metrics id => some id
  | subscribe _ _ _ | unsubscribe _ _ | runTimers _ | runThreads _ | build _ | hold _ => none

/-- Does something with a circuit, if it is there. -/
def onCircuit (id : CircuitId) (act : Act γ Answer) : Act γ Answer := do
  if id < (← get).circuits.size then act else return .noCircuit

/-- Does what a user asked for. -/
def run (react : CircuitId → React γ) : Operation → Act γ Answer
  | request id tries => onCircuit id do
    return .flag (← tryAcquire (react id) id tries)
  | acquire id tries => onCircuit id do
    match ← Breaker.acquire (react id) id tries with
    | .ok _ => return .granted
    | .error refusal => return .refused refusal
  | report id d r => onCircuit id do
    r.tell (react id) id d
    return .nothing
  | release id => onCircuit id do
    Breaker.release id
    return .nothing
  | force id target => onCircuit id do
    Breaker.force (react id) id target
    return .nothing
  | reset id => onCircuit id do
    Breaker.reset (react id) id
    return .nothing
  | metrics id => onCircuit id do
    return .metrics (← readMetrics id)
  | subscribe id filter consumer => onCircuit id do
    modify (·.subscribe id filter consumer)
    return .count ((← get).circuit id).roster.count
  | unsubscribe id number => onCircuit id do
    modify (·.unsubscribe id number)
    return .nothing
  | runTimers busy => return .count (← Breaker.runTimers react busy)
  | runThreads busy => do
    Breaker.runThreads react busy
    return .nothing
  | build b => do
    let w ← get
    match b.build w with
    | .ok c =>
      set (w.addCircuit c)
      return .count w.circuits.size
    | .error refusal => return .refused refusal
  | hold handles => do
    modify fun w => { w with handles := handles }
    return .nothing

/-- Whether an operation asks a circuit for permission. -/
def Requests (op : Operation) (id : CircuitId) : Prop :=
  ∃ tries, op = request id tries ∨ op = acquire id tries

/-- Whether the outcome of a call is recorded by an operation in a world. -/
def Records (op : Operation) (w : World γ) (id : CircuitId) (o : Outcome) : Prop :=
  ∃ d r, op = report id d r ∧ (w.circuit id).outcome? d r = some o

end Operation

namespace World

/-- What a request comes to: the episodes whose time is over, and the answer of the next. -/
def Asks (w : World γ) (id : CircuitId) (answer : Bool) (marks : List Mark) : Prop :=
  ∃ lapses e, Episode.Lapses (w.circuit id).settings (w.reading id) (w.episode id) lapses e ∧
    w.DrawsFirst id lapses ∧
    ((answer = true ∧ (∃ taken, e.request (w.reading id) = .granted taken) ∧
        marks = lapses ++ [.granted]) ∨
      (answer = false ∧ e.request (w.reading id) = .denied ∧ marks = lapses ++ [.refused]))

/-- What a report comes to: an outcome with what follows from it, or a permission given back. -/
def Told (w : World γ) (id : CircuitId) (d : Duration) (r : Report) (marks : List Mark) : Prop :=
  match (w.circuit id).outcome? d r with
  | some o => Episode.Reports (w.circuit id).settings (w.reading id) (w.episode id) o marks
  | none => marks = [.released]

/-- What an operation on a circuit comes to, with the answer it gives. -/
inductive Does (w : World γ) (id : CircuitId) : Operation → Answer → List Mark → Prop where
  | request {tries : Nat} {answer : Bool} {marks : List Mark} (h : w.Asks id answer marks) :
      Does w id (.request id tries) (.flag answer) marks
  | acquired {tries : Nat} {marks : List Mark} (h : w.Asks id true marks) :
      Does w id (.acquire id tries) .granted marks
  | refused {tries : Nat} {refusal : Refusal} {marks : List Mark} (h : w.Asks id false marks) :
      Does w id (.acquire id tries) (.refused refusal) marks
  | report {d : Duration} {r : Report} {marks : List Mark} (h : w.Told id d r marks) :
      Does w id (.report id d r) .nothing marks
  | release : Does w id (.release id) .nothing [.released]
  | force (target : State) (wait : Duration) :
      Does w id (.force id target) .nothing [w.entering id target wait true]
  | reset : Does w id (.reset id) .nothing [w.entering id .closed .zero true]
  | metrics : Does w id (.metrics id)
      (.metrics ((w.episode id).settle (w.reading id)).metrics) [.settled]

/-- Why an operation may be given up: a function of the user's gives up, or a request is put too
few times. -/
def MayFail (w : World γ) (op : Operation) (cause : Abort) : Prop :=
  (∃ id, (w.circuit id).settings.WaitFails cause) ∨
  (∃ id d r, op = .report id d r ∧ ((w.circuit id).verdict d r).observe.1 = .error cause) ∨
  ∃ id tries lapses e, (op = .request id tries ∨ op = .acquire id tries) ∧
    id < w.circuits.size ∧
    Episode.Lapses (w.circuit id).settings (w.reading id) (w.episode id) lapses e ∧
    lapses.length = tries

end World

/-- **A report** is classified, which may be given up, and then recorded or left out. -/
theorem yields_tell {react : React γ} {w : World γ} {id : CircuitId} {d : Duration} {r : Report}
    {ok : Unit → World γ → Prop} {abort : Abort → World γ → Prop}
    (recorded : ∀ verdict o after, ((w.circuit id).verdict d r).observe.1 = .ok verdict →
      (w.circuit id).outcome? d r = some o → w.Asked after →
      Yields (record react id o (pure (r.event d verdict))) after ok abort)
    (ignored : ∀ after, ((w.circuit id).verdict d r).observe.1 = .ok .ignored →
      (w.circuit id).outcome? d r = none → w.Asked after →
      Yields (ignore react id (pure (r.event d .ignored))) after ok abort)
    (failed : ∀ cause after, ((w.circuit id).verdict d r).observe.1 = .error cause →
      w.Asked after → abort cause after) :
    Yields (r.tell react id d) w ok abort := by
  cases r with
  | success =>
    unfold Report.tell onSuccess
    simp only [yields_bind, yields_get]
    exact recorded .success _ w rfl rfl (.refl w)
  | error e =>
    rw [Report.tell, onError_plain]
    simp only [yields_bind, yields_get]
    refine yields_watch (fun verdict after result asked => ?_) failed
    cases verdict with
    | success =>
      exact recorded .success _ after result (by rw [Circuit.outcome?, Circuit.verdict, result]) asked
    | failure =>
      exact recorded .failure _ after result (by rw [Circuit.outcome?, Circuit.verdict, result]) asked
    | ignored =>
      exact ignored after result (by rw [Circuit.outcome?, Circuit.verdict, result]) asked
  | result v =>
    unfold Report.tell onResult
    simp only [yields_bind, yields_get]
    refine yields_watch (fun verdict after result asked => ?_) failed
    cases verdict with
    | success =>
      exact recorded .success _ after result (by rw [Circuit.outcome?, Circuit.verdict, result]) asked
    | failure =>
      exact recorded .failure _ after result (by rw [Circuit.outcome?, Circuit.verdict, result]) asked
    | ignored =>
      exact ignored after result (by rw [Circuit.outcome?, Circuit.verdict, result]) asked

namespace Quiet

variable {react : React γ} {w : World γ} {id : CircuitId} {abort : Abort → World γ → Prop}

/-- **A report** comes to an outcome with what follows from it, or to a permission given back. -/
theorem report (quiet : Quiet react) {d : Duration} {r : Report} {ok : Unit → World γ → Prop}
    (there : id < w.circuits.size)
    (made : ∀ marks after, w.Told id d r marks → w.Goes id marks after → ok () after)
    (failed : ∀ cause after, ((w.circuit id).verdict d r).observe.1 = .error cause ∨
      (w.circuit id).settings.WaitFails cause → abort cause after) :
    Yields (r.tell react id d) w ok abort := by
  refine yields_tell (fun verdict o after _ counted asked => ?_) (fun after _ left asked => ?_)
    fun cause after result _ => failed cause after (.inl result)
  · have aside := asked.aside
    refine quiet.record (by rw [aside.circuits]; exact there) (fun marks last reports goes => ?_)
      (fun cause last fails _ => ?_)
    · rw [aside.circuit, aside.reading, aside.episode] at reports
      refine made marks last ?_ (.aside_then aside goes)
      rw [World.Told, counted]
      exact reports
    · rw [aside.circuit] at fails
      exact failed cause last (.inr fails)
  · refine quiet.ignore fun last goes => made _ last ?_ (.aside_then asked.aside goes)
    rw [World.Told, left]

end Quiet

namespace Operation

variable {react : CircuitId → React γ} {w : World γ}

/-- What a request comes to, whatever is then answered. -/
theorem yields_tryAcquire {id : CircuitId} (quiet : Quiet (react id)) (tries : Nat)
    (there : id < w.circuits.size) {ok : Bool → World γ → Prop} {abort : Abort → World γ → Prop}
    (made : ∀ answer marks after, w.Asks id answer marks → w.Goes id marks after →
      ok answer after)
    (failed : ∀ cause after, (w.circuit id).settings.WaitFails cause → abort cause after)
    (spent : ∀ lapses e after,
      Episode.Lapses (w.circuit id).settings (w.reading id) (w.episode id) lapses e →
      lapses.length = tries → abort .unsettled after) :
    Yields (tryAcquire (react id) id tries) w ok abort :=
  quiet.tryAcquire tries there
    (fun lapses e taken after lapse draws granted goes =>
      made true _ after ⟨lapses, e, lapse, draws, .inl ⟨rfl, ⟨taken, granted⟩, rfl⟩⟩ goes)
    (fun lapses e after lapse draws denied goes =>
      made false _ after ⟨lapses, e, lapse, draws, .inr ⟨rfl, denied, rfl⟩⟩ goes)
    failed spent

/-- **An operation on a circuit** comes to marks at that circuit, unless a function of the user's
gives up or a request is put too few times. -/
theorem yields_run (quiet : ∀ id, Quiet (react id)) {op : Operation} {id : CircuitId}
    (there : id < w.circuits.size) (on : op.circuit? = some id) :
    Yields (op.run react) w
      (fun answer after => ∃ marks, w.Goes id marks after ∧ w.Does id op answer marks)
      (fun cause _ => w.MayFail op cause) := by
  cases op with
  | request i tries =>
    cases on
    unfold run onCircuit
    simp only [yields_bind, yields_get, yields_ite, if_pos there, yields_pure]
    refine yields_tryAcquire (quiet id) tries there (fun answer marks after asks goes => ?_)
      (fun cause after fails => ?_) fun lapses e after lapse length => ?_
    · exact ⟨marks, goes, .request asks⟩
    · exact .inl ⟨id, fails⟩
    · exact .inr (.inr ⟨id, tries, lapses, e, .inl rfl, there, lapse, length⟩)
  | acquire i tries =>
    cases on
    unfold run onCircuit Breaker.acquire
    simp only [yields_bind, yields_get, yields_ite, if_pos there]
    refine yields_tryAcquire (quiet id) tries there (fun answer marks after asks goes => ?_)
      (fun cause after fails => ?_) fun lapses e after lapse length => ?_
    · cases answer with
      | true =>
        simp only [if_true, yields_pure]
        exact ⟨marks, goes, .acquired asks⟩
      | false =>
        simp only [if_neg Bool.false_ne_true, yields_pure]
        exact ⟨marks, goes, .refused asks⟩
    · exact .inl ⟨id, fails⟩
    · exact .inr (.inr ⟨id, tries, lapses, e, .inr rfl, there, lapse, length⟩)
  | report i d r =>
    cases on
    unfold run onCircuit
    simp only [yields_bind, yields_get, yields_ite, if_pos there, yields_pure]
    refine (quiet id).report there (fun marks after told goes => ?_) fun cause after fails => ?_
    · exact ⟨marks, goes, .report told⟩
    · rcases fails with verdict | wait
      · exact .inr (.inl ⟨id, d, r, rfl, verdict⟩)
      · exact .inl ⟨id, wait⟩
  | release i =>
    cases on
    unfold run onCircuit Breaker.release
    simp only [yields_bind, yields_get, yields_ite, if_pos there, yields_pure, yields_modify,
      World.modifyEpisode_eq]
    exact ⟨_, .mark w rfl, .release⟩
  | force i target =>
    cases on
    unfold run onCircuit
    simp only [yields_bind, yields_get, yields_ite, if_pos there, yields_pure]
    refine (quiet id).force (fun wait after goes => ?_) fun cause after _ drawn _ => ?_
    · exact ⟨_, goes, .force target wait⟩
    · exact .inl ⟨id, _, _, drawn⟩
  | reset i =>
    cases on
    unfold run onCircuit
    simp only [yields_bind, yields_get, yields_ite, if_pos there, yields_pure]
    exact (quiet id).reset fun after goes => ⟨_, goes, .reset⟩
  | metrics i =>
    cases on
    have goes : w.Goes id [.settled] _ := .mark w rfl
    unfold run onCircuit readMetrics
    simp only [yields_bind, yields_get, yields_ite, if_pos there, yields_pure, yields_modify,
      World.modifyEpisode_eq, World.episode_setEpisode_self _ _ there]
    exact ⟨_, goes, .metrics⟩
  | subscribe | unsubscribe | runTimers | runThreads | build | hold => cases on

end Operation

end Breaker

import Breaker.Proofs.Scenario.Armed
import Breaker.Proofs.World.Assured
import Breaker.Proofs.World.Checked

/-!
# Valid — settings without a violation are enough

Circuits are built only from settings without a violation.  If besides their numbers are words, with room
for one trial call more, the wait is not a function of the user's and the classifier returns
(`Settings.Tame`), nothing that is done with them can go wrong: a step gives up only where the steps
allowed are used up (`assured_perform`), and at each moment of a run whatever may happen next at a circuit
has a value in words (`valid_settings_suffice`).
-/

namespace Breaker

/-- Settings with numbers that are words, a wait of the breaker's own and a classifier that returns. -/
structure Settings.Tame (s : Settings) : Prop where
  windowSize : s.windowSize < 2 ^ 32
  trialCalls : s.trialCalls < 2 ^ 32 - 1
  backoff : ∀ wait? remarks, s.backoff ≠ .custom wait? remarks
  classifier : s.classifier.Returns

theorem Settings.Tame.bounded {s : Settings} (h : s.Tame) (valid : s.check? = none) : s.Bounded :=
  ⟨s.sized_of_check valid, h.windowSize, h.trialCalls⟩

theorem Classifier.returns_standard : Classifier.standard.Returns := fun _ => ⟨⟨_, rfl⟩, ⟨_, rfl⟩⟩

theorem Settings.tame_standard : Settings.standard.Tame where
  windowSize := by decide
  trialCalls := by decide
  backoff := nofun
  classifier := Classifier.returns_standard

namespace Scenario

/-! ### Steps -/

section Steps

variable {perform : Step → Deed Answer} (steps : ∀ step, Assured (perform step))
include steps

theorem assured_mapM (script : List Step) : Assured (script.mapM perform) := by
  induction script with
  | nil => exact .pure []
  | cons step script ih =>
    rw [List.mapM_cons]
    exact .bind (steps step) fun _ => .bind ih fun _ => .pure _

theorem assured_performRounds (script : List Step) (count : Nat) (last : List Answer) :
    Assured (performRounds perform script count last) := by
  induction count generalizing last with
  | zero => exact .pure last
  | succ count ih => exact .bind (assured_mapM steps script) fun _ => ih _

end Steps

theorem assured_doOnCircuit (handle : Nat) {f : CircuitId → Deed Unit} (h : ∀ id, Assured (f id)) :
    Assured (doOnCircuit handle f) := by
  refine .bind .get fun w => ?_
  split
  · exact .bind (h _) fun _ => .pure _
  · exact .pure _

theorem assured_act {react : CircuitId → React Session} (tending : ∀ id, TendingReact (react id))
    {perform : Step → Deed Answer} (steps : ∀ step, Assured (perform step)) (busy : List CircuitId)
    (tries handle : Nat) (action : Action) :
    Assured (act react perform busy tries handle action) := by
  cases plain : action.isPlain with
  | true => exact (tending_act_of_plain tending busy tries handle plain).assured
  | false =>
    cases action with
    | error d error =>
      exact assured_doOnCircuit handle fun id =>
        assured_noteAndReport (assured_onError (tending id) d error)
    | result d result =>
      exact assured_doOnCircuit handle fun id =>
        assured_noteAndReport (assured_onResult (tending id) d result)
    | rounds count script =>
      exact .bind (assured_performRounds steps script count []) fun _ => .pure _
    | _ => cases plain

/-- **Steps** give up only where the steps allowed are used up, whatever those who listen do. -/
theorem assured_perform (allowance : Nat) (busy : List CircuitId) (step : Step) :
    Assured (perform allowance busy step) := by
  induction allowance generalizing busy step with
  | zero => exact Tending.assured (.throw rfl)
  | succ allowance ih =>
    obtain ⟨handle, action⟩ := step
    exact assured_act (fun id => tending_hear (tending_perform allowance (id :: busy))) (ih busy) busy _
      handle action

/-! ### Answers -/

/-- What returns does not answer that it was given up. -/
def Answering (x : Deed Answer) : Prop :=
  ∀ w, Yields x w (fun answer _ => answer.abort? = none) fun _ _ => True

namespace Answering

theorem pure {answer : Answer} (h : answer.abort? = none) : Answering (pure answer) := by
  intro w
  rw [yields_pure]
  exact h

/-- Only the last part of a step answers. -/
theorem bind {α : Type} {x : Deed α} {f : α → Deed Answer} (h : ∀ a, Answering (f a)) :
    Answering (x >>= f) := by
  intro w
  rw [yields_bind]
  unfold Yields
  cases x w with
  | ok a after =>
    have rest := h a after
    unfold Yields at rest
    exact rest
  | error => exact trivial

theorem onCircuit (handle : Nat) {f : CircuitId → Deed Answer} (h : ∀ id, Answering (f id)) :
    Answering (onCircuit handle f) := by
  refine bind fun w => ?_
  split
  · exact h _
  · exact pure rfl

theorem doOnCircuit (handle : Nat) (f : CircuitId → Deed Unit) : Answering (doOnCircuit handle f) :=
  onCircuit handle fun _ => bind fun _ => pure rfl

theorem act (react : CircuitId → React Session) (perform : Step → Deed Answer)
    (busy : List CircuitId) (tries handle : Nat) (action : Action) :
    Answering (act react perform busy tries handle action) := by
  cases action with
  | acquire =>
    refine onCircuit handle fun id => bind fun asked => ?_
    cases asked with
    | ok | error => exact pure rfl
  | release | success | error | result | reset | «to» => exact doOnCircuit handle _
  | tryAcquire | metrics | awaitState =>
    exact onCircuit handle fun id => bind fun _ => pure rfl
  | clone => exact onCircuit handle fun id => bind fun _ => bind fun _ => pure rfl
  | state | name | settings | describe | consumers =>
    unfold Scenario.act
    exact onCircuit handle fun id => bind fun _ => pure rfl
  | advance | setClock | drop => exact bind fun _ => bind fun _ => pure rfl
  | runTimers | pendingTimers | rounds => exact bind fun _ => pure rfl
  | subscribe =>
    exact onCircuit handle fun id =>
      bind fun _ => bind fun _ => bind fun _ => bind fun _ => pure rfl
  | unsubscribe name =>
    refine bind fun w => ?_
    split
    · exact pure rfl
    · exact bind fun _ => bind fun _ => pure rfl

end Answering

/-- A step that returns does not answer that it was given up. -/
theorem answering_perform (allowance : Nat) (busy : List CircuitId) (step : Step) :
    Answering (perform allowance busy step) := by
  cases allowance with
  | zero => exact fun w => (yields_throw .unsettled).mpr trivial
  | succ allowance =>
    obtain ⟨handle, action⟩ := step
    exact .act _ _ busy _ handle action

/-! ### Runs -/

/-- Along a trace users' code returns as it did. -/
theorem returns_of_trace {w u : World Session} {whole : Prop} {stage : Stage} {hs : List Happening}
    (trace : sessions.Trace whole stage w hs u) (returns : w.Returns) : u.Returns where
  waits := by
    intro id cause
    rw [trace.settings]
    exact returns.waits id cause
  verdicts := by
    intro id
    rw [trace.settings]
    exact returns.verdicts id

/-- **A step of a run** is given up only where the steps allowed are used up. -/
theorem aborted_runStep (allowance : Nat) (detail : Detail) (step : Step) {w : World Session}
    (sound : w.Sound) (returns : w.Returns) {cause : Abort}
    (aborted : (runStep allowance detail step w).1.answer = .aborted cause) : cause = .unsettled := by
  unfold runStep rowOf at aborted
  rw [answer_showCircuit] at aborted
  unfold settled at aborted
  cases result : perform allowance [] step w with
  | ok answer after =>
    have answered := (answering_perform allowance [] step w).of_ok result
    rw [result] at aborted
    rw [show answer = .aborted cause from aborted] at answered
    cases answered
  | error gaveUp after =>
    rw [result] at aborted
    cases aborted
    exact (assured_perform allowance [] step w sound returns).of_error result

theorem aborted_runSteps (allowance : Nat) (detail : Detail) (steps : List Step) {w : World Session}
    (sound : w.Sound) (returns : w.Returns) : ∀ row ∈ (runSteps allowance detail steps w).1,
      ∀ cause, row.answer = .aborted cause → cause = .unsettled := by
  induction steps generalizing w with
  | nil => exact fun row mem => absurd mem List.not_mem_nil
  | cons step steps ih =>
    intro row mem cause aborted
    obtain same | later := List.mem_cons.mp mem
    · rw [same] at aborted
      exact aborted_runStep allowance detail step sound returns aborted
    · obtain ⟨hs, trace⟩ := unfolds_runStep allowance detail step sound
      exact ih (trace.reaches.sound sound) (returns_of_trace trace returns) row later cause aborted

variable {plans : List Plan} {start : Nat} {dice : Dice} {w : World Session}

/-- Where no circuit was built there are the standard settings. -/
theorem returns_of_tame (tame : ∀ id, id < w.circuits.size → (w.circuit id).settings.Tame) :
    w.Returns := by
  have all (id : CircuitId) : (w.circuit id).settings.Tame := by
    by_cases there : id < w.circuits.size
    · exact tame id there
    · rw [World.circuit_of_size_le w (Nat.le_of_not_lt there)]
      exact Settings.tame_standard
  refine ⟨fun id cause fails => ?_, fun id => (all id).classifier⟩
  obtain ⟨wait?, remarks, custom⟩ := fails.custom
  exact (all id).backoff wait? remarks custom

/-- **Settings without a violation are enough.**  Whatever is done with circuits that were built with tame
settings, and whatever their subscribers do meanwhile, no step is given up, in a run or inside a reaction
at any moment of it, unless the steps allowed are used up.  And at each moment, for any reading, whatever
may happen next at a circuit has a value in words, but for one more refusal: each state can be entered,
with a window of some size whose epochs are within their words and a timer that ends after the reading,
calls are counted, permits are taken and given back, and a window of seconds has its head at or beyond its
size.  A refusal is counted as long as there were fewer than `2 ^ 63`, and there were at most as many as
requests were put.  What is shown of a window has a value whatever its lanes hold. -/
theorem valid_settings_suffice
    (built : plans.foldlM addPlan (World.empty start dice Session.empty) = .ok w)
    (tame : ∀ id, id < w.circuits.size → (w.circuit id).settings.Tame) :
    (∀ allowance detail steps,
      (∀ row ∈ (runSteps allowance detail steps w).1, ∀ cause,
        row.answer = .aborted cause → cause = .unsettled) ∧
      ∃ hs, sessions.Trace False .acts w hs (runSteps allowance detail steps w).2) ∧
    (∀ hs u, sessions.Trace False .acts w hs u →
      (∀ allowance busy step cause after,
        perform allowance busy step u = .error cause after → cause = .unsettled) ∧
      ∀ id, id < w.circuits.size →
        (u.episode id).Steady (u.circuit id).settings ∧
        hs.countP (Happening.isRefused id) ≤ Journal.requests id u.journal.toList ∧
        (hs.countP (Happening.isRefused id) < 2 ^ 63 →
          (u.episode id).Calculable (u.circuit id).settings)) ∧
    ∀ t : Tally, (Snapshot.ofTally t).Checked := by
  have reachable : w.Reachable := ⟨start, dice, _, (leads_addPlans built).reaches⟩
  have sound := reachable.sound
  have returns := returns_of_tame tame
  have planned := planned_addPlans built (planned_empty start dice)
  refine ⟨fun allowance detail steps => ⟨aborted_runSteps allowance detail steps sound returns, ?_⟩,
    fun hs u trace => ⟨fun allowance busy step cause after gaveUp => ?_, fun id there => ?_⟩,
    Snapshot.checked_ofTally⟩
  · obtain ⟨hs, trace⟩ := unfolds_runSteps allowance detail steps sound
    exact ⟨hs, trace.mono False.elim⟩
  · exact (assured_perform allowance busy step u (trace.reaches.sound sound)
      (returns_of_trace trace returns)).of_error gaveUp
  · obtain ⟨valid, now, begun⟩ := planned.fresh id there
    have bounded := (tame id there).bounded valid
    have none : (w.episode id).rejected = 0 := by
      rw [begun]
      rfl
    have word : 2 ^ 63 < wordMax := by decide
    have written : u.journal.toList = Happening.entries hs := by
      rw [trace.journal, planned.journal]
      simp
    refine ⟨trace.steady reachable bounded, ?_, fun few =>
      trace.calculable reachable there bounded (by omega)⟩
    rw [written]
    exact trace.refused_le id

/-- A circuit that refused the one call it was asked for can still enter a trial, at the last reading. -/
theorem valid_settings_suffice_hasty : ∃ w u : World Session,
    [Plan.hasty].foldlM addPlan (World.empty 0 seed .empty) = .ok w ∧
    u = (runSteps 2 .none [.on 0 (.to .opened), .on 0 .tryAcquire] w).2 ∧
    (∀ row ∈ (runSteps 2 .none [.on 0 (.to .opened), .on 0 .tryAcquire] w).1, ∀ cause,
      row.answer = .aborted cause → cause = .unsettled) ∧
    (u.episode 0).rejected = 1 ∧ Journal.requests 0 u.journal.toList = 1 ∧
    ((u.episode 0).after? (u.circuit 0).settings wordMax
      (.entered .halfOpen .zero true none)).isSome ∧
    ((u.episode 0).after? (u.circuit 0).settings wordMax .refused).isSome := by
  obtain ⟨w, u, built, ran, one, windowSize, trialCalls, backoff, classifier, refused, requests⟩ :
      ∃ w u : World Session, [Plan.hasty].foldlM addPlan (World.empty 0 seed .empty) = .ok w ∧
      u = (runSteps 2 .none [.on 0 (.to .opened), .on 0 .tryAcquire] w).2 ∧
      w.circuits.size = 1 ∧ (w.circuit 0).settings.windowSize = 2 ∧
      (w.circuit 0).settings.trialCalls = 1 ∧
      (w.circuit 0).settings.backoff = .fixed (.ofSeconds 1) ∧
      (w.circuit 0).settings.classifier = .standard ∧ (u.episode 0).rejected = 1 ∧
      Journal.requests 0 u.journal.toList = 1 :=
    ⟨_, _, rfl, rfl, rfl, rfl, rfl, rfl, rfl, by decide +kernel, by decide +kernel⟩
  have tame : ∀ id, id < w.circuits.size → (w.circuit id).settings.Tame := by
    intro id there
    obtain rfl : id = 0 := Nat.lt_one_iff.mp (one ▸ there)
    refine ⟨by omega, by omega, fun wait? remarks custom => ?_, ?_⟩
    · rw [backoff] at custom
      cases custom
    · rw [classifier]
      exact Classifier.returns_standard
  obtain ⟨runs, moments, -⟩ := valid_settings_suffice built tame
  obtain ⟨answered, hs, trace⟩ := runs 2 .none [.on 0 (.to .opened), .on 0 .tryAcquire]
  rw [← ran] at trace
  obtain ⟨steady, few, calculable⟩ := (moments _ _ trace).2 0 (one ▸ Nat.zero_lt_one)
  rw [requests] at few
  refine ⟨w, u, built, ran, answered, refused, requests, ?_, ?_⟩
  · rw [steady.unrefused wordMax le_rfl (.entered .halfOpen .zero true none) nofun]
    rfl
  · rw [(calculable (few.trans_lt (by decide))).after wordMax le_rfl]
    rfl

end Scenario

end Breaker

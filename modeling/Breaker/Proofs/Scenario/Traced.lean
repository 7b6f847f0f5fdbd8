import Breaker.Scenario.Run
import Breaker.Proofs.World.Traced

/-!
# Traced — scenarios have traces

Those who listen in a scenario are hooks and subscribers (`sessions`).  What one of them does with an
event are notes and steps, so its reaction is traced as soon as steps are, and steps are traced as soon
as reactions are; the induction is on the allowance, which is smaller for the steps that a listener
carries out.  So there is a trace of every run, also where a subscriber calls back into its circuit, or
gives up, and a run was carried out as a whole unless a step of it used up the allowance
(`unfolds_runSteps`).  With it each world that a scenario goes through is `World.Reachable`.
-/

namespace Breaker

open Scenario

namespace Scenario

/-! ### Listeners -/

/-- The note with which a listener takes an event in. -/
def Listener.takes (circuit : String) (event : Event) : Listener → Note
  | .hook name showsEvent => .hook name circuit (if showsEvent then some event else none)
  | .subscriber name _ _ _ => .heard name circuit event

/-- What the listening side of a scenario does with subscriptions and with what it remembers. -/
inductive Arranges : World Session → World Session → Prop where
  | spent (w : World Session) (consumer : ConsumerId) :
      Arranges w { w with guest := w.guest.spend consumer }
  | subscribed (w : World Session) (id : CircuitId) (name : String) (filter : Filter)
      (listener : Listener) : Arranges w ({ w with
        guest := (w.guest.add listener).store name id (w.circuit id).roster.nextId }.subscribe id
          filter w.guest.nextConsumer)
  | unsubscribed (w : World Session) (id : CircuitId) (name : String) (number : Nat) :
      Arranges w ({ w with guest := w.guest.forget name }.unsubscribe id number)

/-- Only the subscriptions of a circuit and what is remembered change. -/
private theorem listens_enrol (w : World Session) (guest : Session) (id : CircuitId)
    (roster : Roster ConsumerId) :
    w.Listens ({ w with guest := guest }.setCircuit id { w.circuit id with roster := roster }) where
  reaches := (World.Aside.guest w guest).reaches.trans
    (World.Move.enrol { w with guest := guest } id roster).reaches
  journal := rfl
  size := World.size_setCircuit ..
  circuit := fun other => by
    by_cases same : id = other
    · subst same
      by_cases there : id < w.circuits.size
      · exact ⟨roster, World.circuit_setCircuit_self { w with guest := guest } _ there⟩
      · rw [World.setCircuit_of_size_le { w with guest := guest } _ (Nat.le_of_not_lt there)]
        exact ⟨(w.circuit id).roster, rfl⟩
    · rw [World.circuit_setCircuit_of_ne _ _ same]
      exact ⟨(w.circuit other).roster, rfl⟩

theorem Arranges.listens {w w' : World Session} (h : Arranges w w') : w.Listens w' := by
  cases h with
  | spent consumer =>
    exact ⟨(World.Aside.guest w _).reaches, rfl, rfl, fun id => ⟨(w.circuit id).roster, rfl⟩⟩
  | subscribed id name filter listener => exact listens_enrol w _ id _
  | unsubscribed id name number => exact listens_enrol w _ id _

/-- Those who listen in a scenario. -/
def sessions : Audience Session where
  greets guest consumer circuit event := (guest.listeners[consumer]?).map (·.takes circuit event)
  arranges := Arranges
  listens := Arranges.listens

theorem traced_did (subscriber verb : String) (answer : Answer) :
    Traced sessions (note (.did subscriber verb answer)) := .modify fun w => .write w rfl fun _ => rfl

theorem traced_spend (consumer : ConsumerId) : Traced sessions (modifySession (·.spend consumer)) :=
  .modify fun w => ⟨_, .arranged (.spent w consumer)⟩

section Steps

variable {perform : Step → Deed Answer} (steps : ∀ step, Traced sessions (perform step))
include steps

theorem traced_carryOut (subscriber : String) (script : List Step) :
    Traced sessions (carryOut perform subscriber script) := by
  induction script with
  | nil => exact .pure ()
  | cons step script ih =>
    exact .bind (steps step) fun _ => .bind (traced_did _ _ _) fun _ => ih

/-- **Listeners** take an event in with a note, and what they do then is traced. -/
theorem traced_hear : TracedReact sessions (hear perform) := by
  intro consumer circuit event w sound
  have written {n : Note} : (w.write (.note n)).Sound := by
    have aside : w.Aside (w.write (.note n)) := .write w fun _ => rfl
    exact aside.reaches.sound sound
  unfold Traces hear
  simp only [yields_bind, yields_get]
  cases listener : w.guest.listeners[consumer]? with
  | none =>
    have mute : sessions.greets w.guest consumer circuit event = none := by
      simp [sessions, listener]
    rw [yields_pure]
    exact ⟨_, .mute mute (.refl w)⟩
  | some l =>
    have greets : sessions.greets w.guest consumer circuit event = some (l.takes circuit event) := by
      simp [sessions, listener]
    cases l with
    | hook name showsEvent =>
      unfold note
      rw [yields_modify]
      exact ⟨_, .greeted greets (.refl _)⟩
    | subscriber name script left aborts =>
      have giveUp : Traced sessions (if aborts then throw .consumer else pure () : Deed Unit) := by
        split
        · exact .throw trivial
        · exact .pure ()
      have rest : Traced sessions (do
          if !script.isEmpty && 0 < left then
            modifySession (·.spend consumer)
            carryOut perform name script
          if aborts then throw .consumer else pure () : Deed Unit) := by
        dsimp only
        split
        · refine .bind (traced_spend consumer) fun _ => ?_
          exact .bind (traced_carryOut steps _ _) fun _ => giveUp
        · exact giveUp
      unfold note
      dsimp only
      rw [yields_bind, yields_modify]
      exact rest.mid written (fun _ _ ⟨_, led⟩ => ⟨_, .greeted greets led⟩)
        fun _ _ _ ⟨_, led⟩ => ⟨trivial, _, .greeted greets led⟩

theorem traced_mapM (script : List Step) : Traced sessions (script.mapM perform) := by
  induction script with
  | nil => exact .pure []
  | cons step script ih =>
    rw [List.mapM_cons]
    exact .bind (steps step) fun _ => .bind ih fun _ => .pure _

theorem traced_performRounds (script : List Step) (count : Nat) (last : List Answer) :
    Traced sessions (performRounds perform script count last) := by
  induction count generalizing last with
  | zero => exact .pure last
  | succ count ih => exact .bind (traced_mapM steps script) fun _ => ih _

end Steps

/-! ### Steps -/

theorem traced_onCircuit (handle : Nat) {f : CircuitId → Deed Answer}
    (h : ∀ id, Traced sessions (f id)) : Traced sessions (onCircuit handle f) := by
  refine .bind .get fun w => ?_
  split
  · exact h _
  · exact .pure _

theorem traced_doOnCircuit (handle : Nat) {f : CircuitId → Deed Unit}
    (h : ∀ id, Traced sessions (f id)) : Traced sessions (doOnCircuit handle f) :=
  traced_onCircuit handle fun id => .bind (h id) fun _ => .pure _

theorem traced_askCircuit (handle : Nat) (f : Circuit → Answer) :
    Traced sessions (askCircuit handle f) :=
  traced_onCircuit handle fun _ => .bind .get fun _ => .pure _

theorem traced_subscribe (id : CircuitId) (name : String) (filter : Filter) (l : Listener) :
    Traced sessions (subscribe id name filter l) := by
  intro w _
  unfold Traces subscribe modifySession
  simp only [yields_bind, yields_get, yields_modify, yields_pure]
  exact ⟨_, .arranged (.subscribed w id name filter l)⟩

theorem traced_unsubscribe (name : String) : Traced sessions (unsubscribe name) := by
  intro w _
  unfold Traces unsubscribe modifySession
  simp only [yields_bind, yields_get]
  split
  · rw [yields_pure]
    exact .refl w
  · simp only [yields_bind, yields_modify, yields_pure]
    exact ⟨_, .arranged (.unsubscribed w _ name _)⟩

theorem traced_drop (handle : Nat) : Traced sessions (drop handle) := by
  refine .bind .get fun w => ?_
  dsimp only
  exact .bind (.modify fun w => .hold w _) fun _ => .pure _

/-- Another handle of a circuit. -/
theorem traced_clone (id : CircuitId) :
    Traced sessions (do
      let w ← get
      set { w with handles := w.handles.push (some id) }
      return .count w.handles.size : Deed Answer) := by
  intro w _
  unfold Traces
  simp only [yields_bind, yields_get, yields_set, yields_pure]
  exact .hold w _

theorem traced_act {react : CircuitId → React Session}
    (traced : ∀ id, TracedReact sessions (react id)) {perform : Step → Deed Answer}
    (steps : ∀ step, Traced sessions (perform step)) (busy : List CircuitId) (tries handle : Nat)
    (action : Action) : Traced sessions (act react perform busy tries handle action) := by
  have time {f : World Session → World Session}
      (h : ∀ w : World Session, sessions.Unfolds True .acts w (f w)) :
      Traced sessions (do modify f; return .count (← get).clock.now : Deed Answer) :=
    .bind (.modify h) fun _ => .bind .get fun _ => .pure _
  cases action with
  | tryAcquire =>
    exact traced_onCircuit handle fun id =>
      .bind (traced_askAndNote (traced id) tries) fun _ => .pure _
  | acquire =>
    refine traced_onCircuit handle fun id => ?_
    refine .bind (traced_acquireAndNote (traced id) tries) fun asked => ?_
    cases asked with
    | ok | error => exact .pure _
  | release => exact traced_doOnCircuit handle fun _ => traced_noteAndRelease
  | success d | error d | result d =>
    exact traced_doOnCircuit handle fun id => traced_noteAndReport (traced id) d _
  | «to» state => exact traced_doOnCircuit handle fun id => traced_force (traced id) state
  | reset => exact traced_doOnCircuit handle fun id => traced_reset (traced id)
  | state | name | settings | describe | consumers =>
    unfold act
    exact traced_askCircuit handle _
  | metrics => exact traced_onCircuit handle fun _ => .bind traced_readMetrics fun _ => .pure _
  | advance | setClock => exact time fun w => .time w _ w.elapsed
  | runTimers => exact .bind (traced_runTimers traced busy) fun _ => .pure _
  | pendingTimers => exact .bind .get fun _ => .pure _
  | clone => exact traced_onCircuit handle traced_clone
  | drop => exact traced_drop handle
  | awaitState state =>
    exact traced_onCircuit handle fun id =>
      .bind (traced_awaitState traced busy id state _) fun _ => .pure _
  | rounds count script =>
    exact .bind (traced_performRounds steps script count []) fun _ => .pure _
  | subscribe => exact traced_onCircuit handle fun id => traced_subscribe id _ _ _
  | unsubscribe name => exact traced_unsubscribe name

/-- **Steps** are traced, whatever those who listen do inside them. -/
theorem traced_perform (allowance : Nat) (busy : List CircuitId) (step : Step) :
    Traced sessions (perform allowance busy step) := by
  induction allowance generalizing busy step with
  | zero => exact .throw trivial
  | succ allowance ih =>
    obtain ⟨handle, action⟩ := step
    -- listeners act on a circuit that is busy then, so the steps hold for any busy circuits
    exact traced_act (fun id => traced_hear (ih (id :: busy))) (ih busy) busy _ handle action

/-! ### Runs -/

theorem unfolds_settled {deed : Deed Answer} (h : Traced sessions deed) {w : World Session}
    (sound : w.Sound) : sessions.Unfolds ((settled deed w).1 ≠ .aborted .unsettled) .acts w
      (settled deed w).2 := by
  have done := h w sound
  unfold settled
  cases result : deed w with
  | ok answer after => exact (done.of_ok result).of_whole
  | error cause after =>
    exact (done.of_error result).2.mono fun other eq => other (congrArg Answer.aborted eq)

theorem unfolds_glance (id : CircuitId) {w : World Session} (sound : w.Sound) :
    sessions.Unfolds True .acts w (glance id w).2 := by
  have read : TracedBut sessions (fun _ => False) .acts (readMetrics id : Deed Metrics) :=
    traced_readMetrics
  unfold glance
  cases result : (readMetrics id).run w with
  | ok metrics after => exact (read w sound).of_ok result
  | error cause after => exact ((read w sound).of_error result).1.elim

theorem unfolds_showCircuit (detail : Detail) (handle : Nat) (row : Row) {w : World Session}
    (sound : w.Sound) : sessions.Unfolds True .acts w (showCircuit detail handle row w).2 := by
  unfold showCircuit
  split
  · exact .refl w
  · exact unfolds_glance _ sound
  · exact .refl w

theorem answer_showCircuit (detail : Detail) (handle : Nat) (row : Row) (w : World Session) :
    (showCircuit detail handle row w).1.answer = row.answer := by
  unfold showCircuit
  split
  · rfl
  · rfl
  · rfl

theorem unfolds_runStep (allowance : Nat) (detail : Detail) (step : Step) {w : World Session}
    (sound : w.Sound) : sessions.Unfolds
      ((runStep allowance detail step w).1.answer ≠ .aborted .unsettled) .acts w
      (runStep allowance detail step w).2 := by
  have performed := unfolds_settled (traced_perform allowance [] step) sound
  unfold runStep rowOf
  rw [answer_showCircuit]
  exact performed.trans (unfolds_showCircuit detail _ _ (performed.sound sound)).of_whole

/-- **Runs** have traces, and were carried out as a whole if no step of theirs was left unsettled. -/
theorem unfolds_runSteps (allowance : Nat) (detail : Detail) (steps : List Step)
    {w : World Session} (sound : w.Sound) : sessions.Unfolds
      (∀ row ∈ (runSteps allowance detail steps w).1, row.answer ≠ .aborted .unsettled) .acts w
      (runSteps allowance detail steps w).2 := by
  induction steps generalizing w with
  | nil => exact .refl w
  | cons step steps ih =>
    have first := unfolds_runStep allowance detail step sound
    have rest := ih (first.sound sound)
    refine (first.mono fun all => ?_).trans (rest.mono fun all => ?_)
    · exact all _ List.mem_cons_self
    · exact fun row mem => all row (List.mem_cons_of_mem _ mem)

theorem leads_runSteps (allowance : Nat) (detail : Detail) (steps : List Step)
    {w : World Session} (sound : w.Sound) :
    w.Leads (∀ row ∈ (runSteps allowance detail steps w).1, row.answer ≠ .aborted .unsettled)
      (runSteps allowance detail steps w).2 := (unfolds_runSteps allowance detail steps sound).leads

theorem leads_addPlan {p : Plan} {w w' : World Session} (h : addPlan w p = .ok w') :
    w.Leads True w' := by
  unfold addPlan at h
  generalize p.parts.foldl addPart (Blueprint.named p.name, w.guest) = planned at h
  cases built : planned.1.build w with
  | error refusal =>
    simp only [built] at h
    cases h
  | ok circuit =>
    simp only [built] at h
    cases h
    exact (World.Leads.build built).trans (.aside (.guest _ planned.2))

theorem leads_addPlans {plans : List Plan} {w w' : World Session}
    (h : plans.foldlM addPlan w = .ok w') : w.Leads True w' := by
  induction plans generalizing w with
  | nil =>
    cases h
    exact .refl _
  | cons p plans ih =>
    rw [List.foldlM_cons] at h
    cases added : addPlan w p with
    | error refusal =>
      rw [added] at h
      cases h
    | ok after =>
      rw [added] at h
      exact (leads_addPlan added).trans (ih h)

/-- **Every world of a scenario** is reached by moves from one without circuits. -/
theorem reachable_runSteps {plans : List Plan} {start : Nat} {dice : Dice} {w : World Session}
    (built : plans.foldlM addPlan (World.empty start dice Session.empty) = .ok w)
    (allowance : Nat) (detail : Detail) (steps : List Step) :
    (runSteps allowance detail steps w).2.Reachable := by
  have reachable : w.Reachable := ⟨start, dice, Session.empty, (leads_addPlans built).reaches⟩
  exact reachable.of_reaches (leads_runSteps allowance detail steps reachable.sound).reaches

end Scenario

end Breaker

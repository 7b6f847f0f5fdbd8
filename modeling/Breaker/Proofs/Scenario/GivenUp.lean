import Breaker.Proofs.Scenario.Stranded
import Breaker.Proofs.World.Overdue

/-!
# Given up — what is left of an operation that a function of the user's ends

An operation asks functions of the user's at two points: a report asks a predicate before anything is
recorded, and a change to the open state asks the wait function before the next episode takes its place.
Either may give up, and then so does the operation.  Consumers may give up as well, which ends nothing but
their own reaction (`Lasting`).

So no change of state is ever half made (`yields_transition_gives_up`).  `nothing_half_made` says what is
left of each operation.  A report that gives up at a predicate and a change by hand that gives up leave a
world as it was, up to remarks and dice (`World.Asked`).  A report that gives up at the wait function has
recorded its outcome and published its event, and that is all if consumers do not call back.  A request
that gives up does so at a trial that is overdue; it has made each change of state before it in full
(`World.Advances`), and there was none unless time passed on the way or readings have come to their end.
`nothing_half_made_meanwhile` is a run in which time passes on the way.
-/

namespace Breaker

variable {γ : Type}

/-! ### Consumers end nothing but their own reaction -/

section Lasting

variable {α β : Type}

/-- An act that is given up only when the steps allowed for the whole run are used up. -/
def Lasting (x : Act γ α) : Prop :=
  ∀ w, Yields x w (fun _ _ => True) fun cause _ => cause = .unsettled

theorem lasting_pure (a : α) : Lasting (pure a : Act γ α) := fun w => by
  rw [yields_pure]
  trivial

theorem lasting_modify (f : World γ → World γ) : Lasting (modify f : Act γ PUnit) := fun w => by
  rw [yields_modify]
  trivial

theorem lasting_get : Lasting (get : Act γ (World γ)) := fun w => by
  rw [yields_get]
  trivial

theorem Lasting.bind {x : Act γ α} {f : α → Act γ β} (h : Lasting x) (h' : ∀ a, Lasting (f a)) :
    Lasting (x >>= f) := fun w => by
  rw [yields_bind]
  exact (h w).mono (fun a after _ => h' a after) fun _ _ => id

variable {react : React γ} {id : CircuitId}

theorem lasting_isolated (subscription : Nat) (act : Act γ Unit) :
    Lasting (isolated id subscription act) := fun w => by
  unfold Yields isolated
  cases act w with
  | ok _ after => trivial
  | error cause after =>
    cases cause with
    | unsettled => rfl
    | predicate | noWait | unshown | consumer | task | emptyWindow => trivial

theorem lasting_tellEach (name : String) (event : Event)
    (subscriptions : List (Subscription ConsumerId)) :
    Lasting (tellEach react id name event subscriptions) := by
  induction subscriptions with
  | nil => exact lasting_pure ()
  | cons s rest ih => exact (lasting_isolated s.id _).bind fun _ => ih

theorem lasting_publish (event : Event) : Lasting (publish react id event) :=
  (lasting_modify _).bind fun _ => lasting_get.bind fun _ => lasting_tellEach _ event _

theorem lasting_publishCall (state : State) (event : Event) :
    Lasting (publishCall react id state (pure event)) := by
  rw [publishCall_pure]
  split
  · exact lasting_publish event
  · exact lasting_pure ()

theorem lasting_publishBreach (rates : Rates) : Lasting (publishBreach react id rates) := by
  intro w
  have slow (s : Settings) (after : World γ) :
      if rates.slow.reaches s.slowCallRateThreshold = true then
        Yields (publish react id (.slowCallRateExceeded rates.slow)) after (fun _ _ => True)
          fun cause _ => cause = .unsettled
      else True := by
    split
    · exact lasting_publish _ after
    · trivial
  unfold publishBreach
  simp only [yields_bind, yields_get, yields_ite, yields_pure]
  split
  · exact (lasting_publish _ w).mono (fun _ after _ => slow _ after) fun _ _ unsettled => unsettled
  · exact slow _ w

theorem lasting_announce (breach : Option Rates) (change : Transition) :
    Lasting (announce react id breach change) := by
  unfold announce
  cases breach with
  | some rates =>
    exact (lasting_publishBreach rates).bind fun _ => (lasting_publish _).bind fun _ => lasting_pure true
  | none =>
    exact (lasting_pure ()).bind fun _ => (lasting_publish _).bind fun _ => lasting_pure true

theorem lasting_refuse : Lasting (refuse react id) :=
  (lasting_modify _).bind fun _ => lasting_get.bind fun _ => (lasting_modify _).bind fun _ =>
    lasting_publishCall _ _

end Lasting

/-! ### Changes of state -/

/-- A trial that is overdue is the first one that a request comes to, unless readings have come to their
end. -/
theorem Episode.Lapses.eq_nil_of_overdue {s : Settings} {now : Nat} {e e' : Episode} {marks : List Mark}
    (h : Lapses s now e marks e') (early : s.trialLimit.isZero = false → now < wordMax)
    (overdue : e'.isOverdue now = true) : marks = [] := by
  have last := h.course_eq
  have expired : e'.request now = .expired .opened := request_eq_expired_iff.mpr (.inr ⟨overdue, rfl⟩)
  obtain rfl | ⟨-, wait, timer, rfl⟩ | ⟨-, wait, timer, rfl | ⟨-, wait', timer', rfl⟩⟩ := h.shape early
  · rfl
  · rw [← last] at expired
    exact absurd expired (request_trial_ne_expired early e wait timer .opened)
  · -- what was entered last is an open breaker
    have opened : e'.state = .opened := last ▸ next_state ..
    rw [state_of_isOverdue overdue] at opened
    cases opened
  · rw [← last] at expired
    exact absurd expired (request_trial_ne_expired early _ wait' timer' .opened)

section Change

variable {react : React γ} {id : CircuitId} {w : World γ}

/-- **A change of state that gives up** does so at the wait function, before anything is changed. -/
theorem yields_transition_gives_up {ticket : Episode} {target : State} {manual : Bool}
    {breach : Option Rates} :
    Yields (transition react id ticket target manual breach) w (fun _ _ => True)
      fun cause after => cause ≠ .unsettled → target = .opened ∧
        w.wait? id (Episode.attemptsOnEntry ticket.state ticket.attempts target manual)
          = .error cause ∧ w.Asked after := by
  unfold transition
  simp only [yields_bind, yields_get, yields_ite, yields_pure, yields_modify]
  refine yields_nextPhase (fun wait after _ _ => ?_)
    fun cause after opens fails asked _ => ⟨opens, fails, asked⟩
  split
  · trivial
  · exact (lasting_announce breach _ _).mono (fun _ _ _ => trivial)
      fun cause _ unsettled settled => absurd unsettled settled

/-- Changes of state that a request goes through, each made in full. -/
inductive World.Advances (react : React γ) (id : CircuitId) : World γ → World γ → Prop where
  | refl (w : World γ) : Advances react id w w
  | more {w v u : World γ} {next : State} {made : Bool}
      (expired : (w.episode id).request (w.reading id) = .expired next)
      (turned : transition react id (w.episode id) next false none w = .ok made v)
      (t : Advances react id v u) : Advances react id w u

/-- **A request that gives up** does so at a trial that is overdue, after changes of state that were made in
full. -/
theorem tryAcquire_gives_up {tries : Nat} {cause : Abort} {after : World γ}
    (run : tryAcquire react id tries w = .error cause after) (settled : cause ≠ .unsettled) :
    ∃ u, World.Advances react id w u ∧ (u.episode id).isOverdue (u.reading id) = true ∧
      u.wait? id (Episode.attemptsOnEntry .halfOpen (u.episode id).attempts .opened false)
        = .error cause ∧ u.Asked after := by
  induction tries generalizing w with
  | zero =>
    cases run
    exact absurd rfl settled
  | succ tries ih =>
    cases asked : (w.episode id).request (w.reading id) with
    | granted taken =>
      have lasts : Yields (tryAcquire react id (tries + 1)) w (fun _ _ => True)
          fun cause _ => cause = .unsettled := by
        unfold tryAcquire
        simp only [yields_bind, yields_get, asked, yields_set, yields_pure]
      exact absurd (lasts.of_error run) settled
    | denied =>
      have lasts : Yields (tryAcquire react id (tries + 1)) w (fun _ _ => True)
          fun cause _ => cause = .unsettled := by
        unfold tryAcquire
        simp only [yields_bind, yields_get, asked, yields_pure]
        exact lasting_refuse w
      exact absurd (lasts.of_error run) settled
    | expired next =>
      rw [tryAcquire_of_expired asked] at run
      simp only [bind, EStateM.bind] at run
      cases turned : transition react id (w.episode id) next false none w with
      | ok made v =>
        rw [turned] at run
        obtain ⟨u, advances, rest⟩ := ih run
        exact ⟨u, .more asked turned advances, rest⟩
      | error cause' v =>
        rw [turned] at run
        cases run
        obtain ⟨rfl, fails, left⟩ := yields_transition_gives_up.of_error turned settled
        obtain ⟨-, probes⟩ | ⟨overdue, -⟩ := Episode.request_eq_expired_iff.mp asked
        · cases probes
        · rw [Episode.state_of_isOverdue overdue] at fails
          exact ⟨w, .refl w, overdue, fails, left⟩

/-- Under consumers that do not call back, changes of state on the way of a request are those that time
calls for. -/
theorem World.Advances.lapses (quiet : Quiet react) {u : World γ} (h : World.Advances react id w u)
    (there : id < w.circuits.size) :
    ∃ marks, w.Goes id marks u ∧ Episode.Lapses (w.circuit id).settings (w.reading id)
      (w.episode id) marks (u.episode id) ∧ (marks = [] → u = w) := by
  induction h with
  | refl w => exact ⟨[], .aside (.refl w), .refl _, fun _ => rfl⟩
  | @more w v u next made expired turned _ ih =>
    have moved : Yields (transition react id (w.episode id) next false none) w
        (fun _ after => ∃ wait, w.Goes id [w.entering id next wait false] after) fun _ _ => True :=
      quiet.transition (fun wait after _ goes => ⟨wait, goes⟩) fun _ _ _ _ _ => trivial
    obtain ⟨wait, goes⟩ := moved.of_ok turned
    have course := goes.course there
    obtain ⟨marks, goes', lapse, -⟩ := ih (Nat.lt_of_lt_of_le there course.size)
    rw [course.settings, course.reading, course.episode] at lapse
    exact ⟨_, goes.trans goes', .more expired lapse, fun none => absurd none (List.cons_ne_nil _ _)⟩

/-- Under consumers that do not call back a request makes no change of state before it comes to a trial
that is overdue, unless readings have come to their end. -/
theorem World.Advances.eq_of_overdue (quiet : Quiet react) {u : World γ}
    (h : World.Advances react id w u) (there : id < w.circuits.size)
    (early : (w.circuit id).settings.trialLimit.isZero = false → w.reading id < wordMax)
    (overdue : (u.episode id).isOverdue (u.reading id) = true) : u = w := by
  obtain ⟨marks, goes, lapse, same⟩ := h.lapses quiet there
  rw [(goes.course there).reading] at overdue
  exact same (lapse.eq_nil_of_overdue early overdue)

end Change

/-! ### Reports -/

section Report

variable {react : React γ} {id : CircuitId} {w : World γ}

/-- What an outcome leaves that is recorded, if what it asks for is given up: the outcome in the window, and
what those have done since who were told of the call. -/
def World.Recorded (react : React γ) (id : CircuitId) (o : Outcome) (event : Event) (w : World γ)
    (cause : Abort) (after : World γ) : Prop :=
  ∃ v, publishCall react id (w.episode id).state (pure event)
      (w.setEpisode id ((w.episode id).observe (w.reading id) o)) = .ok () v ∧
    v.wait? id (Episode.attemptsOnEntry (w.episode id).state (w.episode id).attempts .opened false)
      = .error cause ∧ v.Asked after

/-- What an act answers is what it yields. -/
theorem Yields.self {α : Type} (x : Act γ α) (w : World γ) :
    Yields x w (fun a after => x w = .ok a after) fun cause after => x w = .error cause after := by
  unfold Yields
  cases x w with
  | ok | error => rfl

/-- **An outcome that is recorded** and whose record gives up was to open the circuit. -/
theorem yields_record_gives_up (there : id < w.circuits.size) {o : Outcome} {event : Event} :
    Yields (record react id o (pure event)) w (fun _ _ => True) fun cause after =>
      cause ≠ .unsettled → w.Recorded react id o event cause after := by
  have ticket : (w.setEpisode id ((w.episode id).observe (w.reading id) o)).episode id
      = (w.episode id).observe (w.reading id) o := World.episode_setEpisode_self w _ there
  -- the call is told of, and then the outcome is followed
  have follows (decision : Option Decision) (u : World γ)
      (rest : ∀ v, publishCall react id (w.episode id).state (pure event) u = .ok () v →
        Yields (follow react id ((w.episode id).observe (w.reading id) o) decision) v
          (fun _ _ => True) fun cause after =>
            cause ≠ .unsettled → w.Recorded react id o event cause after) :
      Yields (publishCall react id (w.episode id).state (pure event)) u
        (fun _ v => Yields (follow react id ((w.episode id).observe (w.reading id) o) decision) v
          (fun _ _ => True) fun cause after =>
            cause ≠ .unsettled → w.Recorded react id o event cause after)
        fun cause after => cause ≠ .unsettled → w.Recorded react id o event cause after := by
    refine ((lasting_publishCall _ _ u).and (.self _ u)).mono (fun _ v said => rest v said.2) ?_
    exact fun cause _ unsettled settled => absurd unsettled.1 settled
  unfold record
  simp only [yields_bind, yields_get, yields_modify, yields_ite, World.modifyEpisode_eq, ticket]
  cases asks : ((w.episode id).observe (w.reading id) o).followUp (w.circuit id).settings
      (w.reading id) with
  | none =>
    refine follows none _ fun v _ => ?_
    unfold follow
    rw [yields_pure]
    trivial
  | some decision =>
    cases decision with
    | trip rates =>
      refine follows _ _ fun v said => ?_
      unfold follow
      simp only [yields_bind, yields_pure]
      refine yields_transition_gives_up.mono (fun _ _ _ => trivial) fun cause after left settled => ?_
      obtain ⟨-, fails, asked⟩ := left settled
      exact ⟨v, said, fails, asked⟩
    | close =>
      refine follows _ _ fun v _ => ?_
      unfold follow
      simp only [yields_bind, yields_pure]
      refine yields_transition_gives_up.mono (fun _ _ _ => trivial) fun cause after left settled => ?_
      obtain ⟨opens, -⟩ := left settled
      cases opens
    | tell rates =>
      refine follows _ _ fun v _ => ?_
      unfold follow
      simp only [yields_bind, yields_modify]
      exact (lasting_publishBreach rates _).mono (fun _ _ _ => trivial)
        fun _ _ unsettled settled => absurd unsettled settled

/-- **A report that gives up**, once a predicate has answered, does so when its outcome is recorded. -/
theorem yields_report_gives_up {react : CircuitId → React γ} (there : id < w.circuits.size) {d : Duration}
    {r : Report} {verdict : Verdict} (read : ((w.circuit id).verdict d r).observe.1 = .ok verdict) :
    Yields ((Operation.report id d r).run react) w (fun _ _ => True) fun cause after =>
      cause ≠ .unsettled → ∃ o u, (w.circuit id).outcome? d r = some o ∧ w.Asked u ∧
        u.Recorded (react id) id o (r.event d verdict) cause after := by
  unfold Operation.run Operation.onCircuit
  simp only [yields_bind, yields_get, yields_ite, if_pos there, yields_pure]
  refine yields_tell (fun verdict' o u read' counted asked => ?_) (fun u _ _ _ => ?_)
    fun cause u fails _ => ?_
  · obtain rfl := Except.ok.inj (read.symm.trans read')
    refine (yields_record_gives_up (by rwa [asked.aside.circuits])).mono (fun _ _ _ => trivial) ?_
    exact fun cause after recorded settled => ⟨o, u, counted, asked, recorded settled⟩
  · have lasts : Lasting (ignore (react id) id (pure (r.event d .ignored))) :=
      (lasting_modify _).bind fun _ => lasting_get.bind fun _ => lasting_publishCall _ _
    exact (lasts u).mono (fun _ _ _ => trivial) fun _ _ unsettled settled => absurd unsettled settled
  · rw [read] at fails
    cases fails

/-- Consumers that do not call back add nothing to an outcome that is recorded but notes. -/
theorem World.Recorded.tells (quiet : Quiet react) {o : Outcome} {event : Event} {cause : Abort}
    {after : World γ} (h : w.Recorded react id o event cause after) :
    ∃ v, World.Tells id (if (w.episode id).state.publishesCalls then [event] else [])
        (w.setEpisode id ((w.episode id).observe (w.reading id) o)) v ∧ v.Asked after := by
  obtain ⟨v, said, -, asked⟩ := h
  have told : Yields (publishCall react id (w.episode id).state (pure event))
      (w.setEpisode id ((w.episode id).observe (w.reading id) o))
      (fun _ v => World.Tells id (if (w.episode id).state.publishesCalls then [event] else [])
        (w.setEpisode id ((w.episode id).observe (w.reading id) o)) v) fun _ _ => True :=
    quiet.publishCall fun _ told => told
  exact ⟨v, told.of_ok said, asked⟩

end Report

/-- A change by hand that gives up does so at the wait function, which is asked for the first wait. -/
theorem Operation.yields_force_gives_up {react : CircuitId → React γ} {w : World γ} {id : CircuitId}
    (there : id < w.circuits.size) {target : State} :
    Yields ((Operation.force id target).run react) w (fun _ _ => True)
      fun cause after => cause ≠ .unsettled →
        target = .opened ∧ w.wait? id 1 = .error cause ∧ w.Asked after := by
  unfold Operation.run Operation.onCircuit Breaker.force
  simp only [yields_bind, yields_get, yields_ite, if_pos there, yields_pure]
  refine yields_transition_gives_up.mono (fun _ _ _ => trivial) fun cause after left settled => ?_
  obtain ⟨rfl, fails, asked⟩ := left settled
  exact ⟨rfl, fails, asked⟩

/-- Both operations that ask for permission give up if the request does. -/
theorem Operation.yields_request_gives_up {react : CircuitId → React γ} {w : World γ} {id : CircuitId}
    (there : id < w.circuits.size) {tries : Nat} {op : Operation}
    (asks : op = .request id tries ∨ op = .acquire id tries) :
    Yields (op.run react) w (fun _ _ => True)
      fun cause after => tryAcquire (react id) id tries w = .error cause after := by
  have asked := Yields.self (tryAcquire (react id) id tries) w
  obtain rfl | rfl := asks
  · unfold Operation.run Operation.onCircuit
    simp only [yields_bind, yields_get, yields_ite, if_pos there, yields_pure]
    exact asked.mono (fun _ _ _ => trivial) fun _ _ run => run
  · unfold Operation.run Operation.onCircuit Breaker.acquire
    simp only [yields_bind, yields_get, yields_ite, if_pos there]
    refine asked.mono (fun permitted after _ => ?_) fun _ _ run => run
    cases permitted with
    | true => simp only [if_true, yields_pure]
    | false => simp only [if_neg Bool.false_ne_true, yields_pure]

/-- **No change of state is half made**, whoever listens and whatever function of the user's gives up.  A
report that gives up at a predicate leaves a world as it was, up to remarks and dice, and so does a change by
hand that gives up, which it does at the wait function.  A request that gives up does so at a trial that is
overdue, and leaves the world as it was then: it has gone through changes of state that were made in full,
and through none if consumers do not call back, unless trials have a deadline and readings have come to their
end.  A report whose predicate has answered gives up once its outcome was recorded and told of; if consumers
do not call back, all else is as it was, the timers among it, and the episode is still the current one. -/
theorem nothing_half_made {react : CircuitId → React γ} {w : World γ} {id : CircuitId}
    (there : id < w.circuits.size) :
    (∀ d r cause, ((w.circuit id).verdict d r).observe.1 = .error cause →
      ∃ after, (Operation.report id d r).run react w = .error cause after ∧ w.Asked after) ∧
    (∀ target cause after, (Operation.force id target).run react w = .error cause after →
      cause ≠ .unsettled → target = .opened ∧ w.wait? id 1 = .error cause ∧ w.Asked after) ∧
    (∀ (op : Operation) tries cause after, (op = .request id tries ∨ op = .acquire id tries) →
      op.run react w = .error cause after → cause ≠ .unsettled →
      ∃ u, World.Advances (react id) id w u ∧ (u.episode id).isOverdue (u.reading id) = true ∧
        u.wait? id (Episode.attemptsOnEntry .halfOpen (u.episode id).attempts .opened false)
          = .error cause ∧ u.Asked after ∧
        (Quiet (react id) → ((w.circuit id).settings.trialLimit.isZero = false →
          w.reading id < 2 ^ 64 - 1) → u = w)) ∧
    ∀ d r verdict cause after, ((w.circuit id).verdict d r).observe.1 = .ok verdict →
      (Operation.report id d r).run react w = .error cause after → cause ≠ .unsettled →
      ∃ o u, (w.circuit id).outcome? d r = some o ∧ w.Asked u ∧
        u.Recorded (react id) id o (r.event d verdict) cause after ∧
        (Quiet (react id) →
          (∃ v, World.Tells id
              (if (w.episode id).state.publishesCalls then [r.event d verdict] else [])
              (u.setEpisode id ((w.episode id).observe (w.reading id) o)) v ∧ v.Asked after) ∧
          after.episode id = (w.episode id).observe (w.reading id) o ∧
          after.timers = w.timers ∧ after.threads = w.threads) := by
  refine ⟨fun d r cause unread => ?_, fun target cause after run settled => ?_,
    fun op tries cause after asks run settled => ?_,
    fun d r verdict cause after read run settled => ?_⟩
  · cases run : (Operation.report id d r).run react w with
    | ok answer after => exact absurd there ((Operation.yields_unread unread).of_ok run).2.1
    | error cause' after =>
      obtain ⟨rfl, -, asked⟩ := (Operation.yields_unread unread).of_error run
      exact ⟨after, rfl, asked⟩
  · exact (Operation.yields_force_gives_up there).of_error run settled
  · obtain ⟨u, advances, overdue, fails, asked⟩ :=
      tryAcquire_gives_up ((Operation.yields_request_gives_up there asks).of_error run) settled
    exact ⟨u, advances, overdue, fails, asked,
      fun quiet early => advances.eq_of_overdue quiet there early overdue⟩
  · obtain ⟨o, u, counted, asked, recorded⟩ :=
      (yields_report_gives_up there read).of_error run settled
    refine ⟨o, u, counted, asked, recorded, fun quiet => ?_⟩
    have aside := asked.aside
    obtain ⟨v, told, left⟩ := recorded.tells quiet
    rw [aside.episode, aside.reading] at told
    have same := told.aside.trans left.aside
    refine ⟨⟨v, told, left⟩, ?_, same.timers.trans aside.timers, same.threads.trans aside.threads⟩
    rw [same.episode, World.episode_setEpisode_self _ _ (by rwa [aside.circuits])]

/-- An overdue trial of a circuit whose wait function knows no wait and whose predicate gives up on every
error: a report of an error, a change by hand and a request leave it as it was, and a report of a success
leaves its outcome. -/
theorem nothing_half_made_trial :
    ∃ w : World Unit, (w.episode 0).isOverdue (w.reading 0) = true ∧
      (∃ after, (Operation.report 0 .zero (.error .unit)).run (fun _ => .silent) w
        = .error (.predicate "cannot tell") after ∧ w.Asked after) ∧
      (∃ after, (Operation.force 0 .opened).run (fun _ => .silent) w = .error (.noWait 1) after ∧
        w.Asked after) ∧
      (∃ after, (Operation.request 0 3).run (fun _ => .silent) w = .error (.noWait 2) after ∧
        w.Asked after) ∧
      ∃ after, (Operation.report 0 .zero .success).run (fun _ => .silent) w
          = .error (.noWait 2) after ∧
        after.episode 0 = (w.episode 0).observe (w.reading 0) ⟨false, false, .zero⟩ ∧
        after.timers = w.timers := by
  obtain ⟨c, built, w, trial, there, overdue, early, unread, forced, asked, told, outcome⟩ :
      ∃ c : Circuit, (Blueprint.ofChoices "" [.trialLimit (.ofNanos 1),
          .backoff (.ofTable [none] false), .ignoreError (.failing "cannot tell"),
          .timeSource .shared]).build (World.empty 0 ⟨0⟩ ()) = .ok c ∧
      ∃ w : World Unit, (do
          force .silent 0 .halfOpen
          modify fun w => { w with clock := w.clock.set 1 } : Act Unit Unit)
        ((World.empty 0 ⟨0⟩ ()).addCircuit c) = .ok () w ∧
      0 < w.circuits.size ∧ (w.episode 0).isOverdue (w.reading 0) = true ∧
      w.reading 0 < 2 ^ 64 - 1 ∧
      ((w.circuit 0).verdict .zero (.error .unit)).observe.1 = .error (.predicate "cannot tell") ∧
      (∃ after, (Operation.force 0 .opened).run (fun _ => .silent) w = .error (.noWait 1) after) ∧
      (∃ after, (Operation.request 0 3).run (fun _ => .silent) w = .error (.noWait 2) after) ∧
      (∃ after, (Operation.report 0 .zero .success).run (fun _ => .silent) w
        = .error (.noWait 2) after) ∧
      (w.circuit 0).outcome? .zero .success = some ⟨false, false, .zero⟩ :=
    ⟨_, rfl, _, rfl, by decide +kernel, by decide +kernel, by decide +kernel, rfl, ⟨_, rfl⟩, ⟨_, rfl⟩,
      ⟨_, rfl⟩, rfl⟩
  obtain ⟨left, byHand, request, report⟩ := @nothing_half_made Unit (fun _ => .silent) w 0 there
  obtain ⟨_, forced⟩ := forced
  obtain ⟨_, asked⟩ := asked
  obtain ⟨_, told⟩ := told
  obtain ⟨-, -, same⟩ := byHand _ _ _ forced nofun
  obtain ⟨u, -, -, -, remarks, still⟩ := request _ 3 _ _ (.inl rfl) asked nofun
  obtain rfl := still Quiet.silent fun _ => early
  obtain ⟨o, _, counted, -, -, quiet⟩ := report _ _ .success _ _ rfl told nofun
  obtain ⟨-, episode, timers, -⟩ := quiet Quiet.silent
  obtain rfl := Option.some.inj (outcome.symm.trans counted)
  exact ⟨_, overdue, left _ _ _ unread, ⟨_, forced, same⟩, ⟨_, asked, remarks⟩, _, told, episode, timers⟩

namespace Scenario

/-- A circuit like `Plan.hasty` whose trials last a second, and whose wait function knows the first wait
only. -/
def Plan.winded : Plan :=
  { Plan.hasty with parts := Plan.hasty.parts ++ [.choice (.trialLimit (.ofSeconds 1)),
      .choice (.backoff (.ofTable [some (.ofSeconds 1), none] false))] }

/-- Two circuits, each with a consumer that does something while an operation is under way that gives up at
the wait function.  A request to the first circuit, which is open, begins a trial; the consumer that is told
of it lets a second pass, so that the trial is overdue, and the request gives up with the trial begun.  A
report to the second circuit, which is closed, is told of before the circuit is to open; the consumer shuts
the circuit, and the report gives up with the circuit shut. -/
theorem nothing_half_made_meanwhile : ∃ w w₁ w₂ w₃ w₄ asked told,
    [Plan.winded, Plan.stumped].foldlM addPlan (World.empty 0 seed .empty) = .ok w ∧
    (runSteps 3 .none [.on 0 (.to .opened), .on 0 (.advance (.ofSeconds 1)),
      .on 0 (.subscribe "clock" .transition [.on 0 (.advance (.ofSeconds 1))] 1 false)] w).2 = w₁ ∧
    runStep 3 .none (.on 0 .tryAcquire) w₁ = (asked, w₂) ∧
    asked.answer.abort? = some (.noWait 2) ∧
    (w₁.episode 0).state = .opened ∧ (w₂.episode 0).state = .halfOpen ∧
    Journal.eventsOf 0 (w₂.entriesSince w₁) = [.transition ⟨.opened, .halfOpen⟩] ∧
    (runSteps 3 .none [.on 1 (.subscribe "warden" .error [.on 1 (.to .forcedOpen)] 1 false)] w₂).2
      = w₃ ∧
    runStep 3 .none (.on 1 (.error .zero .unit)) w₃ = (told, w₄) ∧
    told.answer.abort? = some (.noWait 1) ∧
    (w₃.episode 1).state = .closed ∧ (w₄.episode 1).state = .forcedOpen :=
  ⟨_, _, _, _, _, _, _, rfl, rfl, rfl, by decide +kernel, by decide +kernel, by decide +kernel,
    by decide +kernel, rfl, rfl, by decide +kernel, by decide +kernel, by decide +kernel⟩

end Scenario

end Breaker

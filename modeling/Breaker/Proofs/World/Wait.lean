import Breaker.Proofs.Episode.Attempts
import Breaker.Proofs.World.Traced
import Breaker.Proofs.World.Traffic

/-!
# Wait — an open circuit until it may be probed

Traffic leaves an open circuit open, whatever is recorded in the window that it inherited
(`Traffic.opened`).  A request before its time is over is refused and counted (`Quiet.deny`), and the
first one after it begins a trial and takes a permit of that trial (`Quiet.probe`).
`World.opened_until_probe` puts these together for a circuit that was opened in any way.
-/

namespace Breaker

variable {γ : Type}

namespace Quiet

variable {react : React γ} {w : World γ} {id : CircuitId}

/-- A request that the current episode denies. -/
theorem deny (quiet : Quiet react) (denied : (w.episode id).request (w.reading id) = .denied)
    (tries : Nat) : Yields (Breaker.tryAcquire react id (tries + 1)) w
      (fun permitted after => permitted = false ∧
        (w.setEpisode id (w.episode id).reject).Aside after)
      fun _ _ => False := by
  unfold Breaker.tryAcquire
  simp only [yields_bind, yields_get, denied, yields_pure]
  exact quiet.refuse_aside fun after aside => ⟨trivial, aside⟩

/-- A request that finds the wait over: a trial begins, and the request is put to it. -/
theorem probe (quiet : Quiet react) (there : id < w.circuits.size)
    (admits : 0 < (w.circuit id).settings.trialCalls)
    (ended : (w.episode id).isWaitOver (w.reading id) = true)
    (early : (w.circuit id).settings.trialLimit.isZero = false → w.reading id < wordMax)
    (tries : Nat) : Yields (Breaker.tryAcquire react id (tries + 2)) w
      (fun permitted after => permitted = true ∧ ∃ wait,
        w.Goes id [w.entering id .halfOpen wait false, .granted] after)
      fun _ _ => False := by
  have expired : (w.episode id).request (w.reading id) = .expired .halfOpen :=
    Episode.request_eq_expired_iff.mpr (.inl ⟨ended, rfl⟩)
  unfold Breaker.tryAcquire
  simp only [yields_bind, yields_get, expired]
  refine quiet.transition (fun wait after _ goes => ?_) fun _ _ opens => by cases opens
  have course := goes.course there
  obtain ⟨permits, deadline, -, -, granted⟩ := Episode.request_trial early admits (w.episode id) wait
    (w.timerFor id (w.nextEpisode id .halfOpen wait false))
  have episode : after.episode id = (w.episode id).after (w.circuit id).settings (w.reading id)
      (w.entering id .halfOpen wait false) := course.episode
  have taken : (after.episode id).request (after.reading id)
      = .granted { after.episode id with phase := .halfOpen permits deadline } := by
    rw [course.reading, episode]
    exact granted
  unfold Breaker.tryAcquire
  simp only [yields_bind, yields_get, taken, yields_set, yields_pure]
  have mark : after.Goes id [.granted] _ := .mark after rfl
  rw [Episode.after, taken] at mark
  exact ⟨trivial, wait, goes.trans mark⟩

end Quiet

/-- Whether the answer to an operation gives permission, if it asks for one. -/
def Operation.permits? : Operation → Answer → Option Bool
  | .request _ _, .flag permitted => some permitted
  | .acquire _ _, .granted => some true
  | .acquire _ _, .refused _ => some false
  | _, _ => none

/-- Both operations that ask for permission put the request and pass on the answer. -/
theorem Operation.yields_of_tryAcquire {react : CircuitId → React γ} {w : World γ} {id : CircuitId}
    (there : id < w.circuits.size) {tries : Nat} {op : Operation}
    (asks : op = .request id tries ∨ op = .acquire id tries) {permitted : Bool}
    {P : World γ → Prop} (asked : Yields (tryAcquire (react id) id tries) w
      (fun answer after => answer = permitted ∧ P after) fun _ _ => False) :
    Yields (op.run react) w (fun answer after => op.permits? answer = some permitted ∧ P after)
      fun _ _ => False := by
  obtain rfl | rfl := asks
  · unfold Operation.run Operation.onCircuit
    simp only [yields_bind, yields_get, yields_ite, if_pos there, yields_pure]
    refine asked.mono (fun answer after both => ?_) fun _ _ no => no
    obtain ⟨rfl, holds⟩ := both
    exact ⟨rfl, holds⟩
  · unfold Operation.run Operation.onCircuit Breaker.acquire
    simp only [yields_bind, yields_get, yields_ite, if_pos there, yields_pure]
    refine asked.mono (fun answer after both => ?_) fun _ _ no => no
    obtain ⟨rfl, holds⟩ := both
    cases answer with
    | true => exact ⟨rfl, holds⟩
    | false => exact ⟨rfl, holds⟩

/-- **Traffic leaves an open circuit open**, and what was settled when it opened. -/
theorem Traffic.opened {react : CircuitId → React γ} (quiet : ∀ id, Quiet (react id))
    {w₀ w : World γ} {id : CircuitId} {os : List Outcome} (sound : w₀.Sound)
    (there : id < w₀.circuits.size) {retryAt : Nat}
    (start : (w₀.episode id).phase = .opened retryAt) (traffic : Traffic react id w₀ w os) :
    w.Sound ∧ id < w.circuits.size ∧ (w.circuit id).settings = (w₀.circuit id).settings ∧
      (w.episode id).phase = .opened retryAt ∧
      Episode.Keeps (w₀.circuit id).settings (w₀.episode id) (w.episode id) := by
  refine traffic.preserves quiet sound there
    (P := fun e _ => e.phase = .opened retryAt ∧
      Episode.Keeps (w₀.circuit id).settings (w₀.episode id) e) ?_ ?_ ⟨start, .refl _⟩
  · rintro now e os m stays - ⟨phase, keeps⟩
    exact ⟨Episode.phase_after_of_opened phase stays, keeps.trans (Episode.keeps_after stays e)⟩
  · rintro now e os o marks - reports ⟨phase, keeps⟩
    -- an open episode asks for nothing
    have asks : (e.observe now o).followUp (w₀.circuit id).settings now = none := by
      rw [Episode.followUp, show (e.observe now o).phase = .opened retryAt from phase]
    rw [reports.of_none asks]
    have recorded : Episode.Keeps (w₀.circuit id).settings e (e.observe now o) :=
      Episode.keeps_after (m := .recorded o) rfl e
    exact ⟨phase, keeps.trans recorded⟩

namespace World

/-- **An open circuit until it may be probed.**  However a circuit was opened, it may be probed after
a wait that its settings gave for its attempt.  Let any traffic follow.  Then the circuit is still
open and the time is still the same.  A request before it is denied, and changes nothing but the count
of refusals.  The first request that is not is granted, and leaves a trial with one permit less, an
empty window, no refusals and the same attempt. -/
theorem opened_until_probe {react : CircuitId → React γ} (quiet : ∀ id, Quiet (react id))
    {v w₀ : World γ} (reachable : v.Reachable) {b : Blueprint} {c : Circuit}
    (built : b.build v = .ok c) (led : (v.addCircuit c).Leads False w₀) {id : CircuitId}
    (new : id = v.circuits.size) {retryAt : Nat}
    (opened : (w₀.episode id).phase = .opened retryAt) :
    (∃ wait, (w₀.circuit id).settings.Draws (w₀.episode id).attempts wait ∧
      retryAt = min ((w₀.episode id).enteredAt + wait.nanos) (2 ^ 64 - 1)) ∧
    ∀ w os, Traffic react id w₀ w os →
      (w.episode id).phase = .opened retryAt ∧
      (w.episode id).number = (w₀.episode id).number ∧
      (w.episode id).attempts = (w₀.episode id).attempts ∧
      (∀ (op : Operation) (tries : Nat), op = .request id (tries + 1) ∨ op = .acquire id (tries + 1) →
        w.reading id < retryAt →
        ∃ answer after, op.run react w = .ok answer after ∧ op.permits? answer = some false ∧
          (w.setEpisode id { w.episode id with rejected := (w.episode id).rejected + 1 }).Aside
            after) ∧
      ∀ (op : Operation) (tries : Nat), op = .request id (tries + 2) ∨ op = .acquire id (tries + 2) →
        retryAt ≤ w.reading id →
        ((w.circuit id).settings.trialLimit.isZero = false → w.reading id < 2 ^ 64 - 1) →
        ∃ answer after permits deadline,
          op.run react w = .ok answer after ∧ op.permits? answer = some true ∧
          (after.episode id).phase = .halfOpen permits deadline ∧
          permits.limit = (w.circuit id).settings.trialCalls ∧
          permits.available = (w.circuit id).settings.trialCalls - 1 ∧
          (after.episode id).window = .calls (Ring.empty (w.circuit id).settings.trialCalls) ∧
          (after.episode id).rejected = 0 ∧
          (after.episode id).attempts = (w₀.episode id).attempts := by
  subst new
  have there : v.circuits.size < (v.addCircuit c).circuits.size := by
    rw [addCircuit, Array.size_push]
    exact Nat.lt_succ_self _
  have sound₀ : w₀.Sound := led.sound (reachable.sound.build built)
  -- the attempt and the wait since the circuit was built
  obtain ⟨-, settings₀, entries, -, evolves⟩ := led.story _ there
  have begun : (v.addCircuit c).episode v.circuits.size
      = .begin c.settings 0 0 (v.timeAt c.timeSource) .closed := by
    rw [episode, circuit_addCircuit_self]
    exact (Blueprint.build_ok built).2
  rw [begun, circuit_addCircuit_self] at evolves
  rw [circuit_addCircuit_self] at settings₀
  obtain ⟨-, -, counted, waits⟩ := (Episode.Counts.of_begin 0 _).evolves evolves
  have attempts : 0 < (w₀.episode v.circuits.size).attempts := by
    rw [(counted (.inl (by rw [Episode.state, opened]; rfl))).2]
    exact Turn.attempts_pos _
  refine ⟨by rw [settings₀]; exact waits retryAt opened, fun w os traffic => ?_⟩
  obtain ⟨sound, present, settings, phase, keeps⟩ :=
    traffic.opened quiet sound₀ (led.size there) opened
  refine ⟨phase, keeps.number, keeps.attempts, fun op tries asks early => ?_,
    fun op tries asks late unlimited => ?_⟩
  · have denied : (w.episode v.circuits.size).request (w.reading v.circuits.size) = .denied := by
      rw [Episode.request, phase]
      exact if_neg (Nat.not_le.mpr early)
    exact (op.yields_of_tryAcquire present asks ((quiet _).deny denied tries)).exists_ok
  · have ended : (w.episode v.circuits.size).isWaitOver (w.reading v.circuits.size) = true := by
      rw [Episode.isWaitOver, phase]
      exact decide_eq_true late
    obtain ⟨answer, after, run, granted, wait, goes⟩ := (op.yields_of_tryAcquire present asks
      ((quiet _).probe present (sound.sized _).2 ended unlimited tries)).exists_ok
    have last := (goes.course present).episode
    obtain ⟨permits, deadline, trial⟩ := Episode.after_granted_of_trial unlimited (sound.sized _).2
      (keeps.attempts.symm ▸ attempts) wait _
    rw [Episode.course_cons, Episode.course_cons, Episode.course_nil] at last
    refine ⟨answer, after, permits, deadline, run, granted, ?_⟩
    rw [last, ← keeps.attempts]
    exact trial

/-- A circuit that was opened by hand denies a request at once, and grants one a second later. -/
theorem opened_until_probe_second :
    ∃ w₀ : World Unit, (w₀.episode 0).phase = .opened 1000000000 ∧
      (∃ answer after, (Operation.request 0 1).run (fun _ => .silent) w₀ = .ok answer after ∧
        (Operation.request 0 1).permits? answer = some false) ∧
      ∃ answer after, (Operation.request 0 2).run (fun _ => .silent)
          { w₀ with clock := w₀.clock.set 1000000000, elapsed := w₀.elapsed } = .ok answer after ∧
        (Operation.request 0 2).permits? answer = some true ∧ (after.episode 0).attempts = 1 := by
  obtain ⟨c, built, w₀, forced, opened, attempts, unlimited, early, late⟩ :
      ∃ c : Circuit, (Blueprint.ofChoices "" [.wait (.ofSeconds 1), .timeSource .shared]).build
        (World.empty 0 ⟨0⟩ ()) = .ok c ∧
      ∃ w₀ : World Unit, force .silent 0 .opened ((World.empty 0 ⟨0⟩ ()).addCircuit c)
        = .ok () w₀ ∧
      (w₀.episode 0).phase = .opened 1000000000 ∧ (w₀.episode 0).attempts = 1 ∧
      (w₀.circuit 0).settings.trialLimit.isZero = true ∧ w₀.reading 0 < 1000000000 ∧
      1000000000 ≤ ({ w₀ with clock := w₀.clock.set 1000000000, elapsed := w₀.elapsed } :
        World Unit).reading 0 :=
    ⟨_, rfl, _, rfl, rfl, rfl, rfl, by decide +kernel, by decide +kernel⟩
  have reachable : (World.empty 0 ⟨0⟩ () : World Unit).Reachable := ⟨0, ⟨0⟩, (), .refl _⟩
  have led : ((World.empty 0 ⟨0⟩ ()).addCircuit c).Leads True w₀ :=
    ((traced_force traced_silent .opened _ (reachable.sound.build built)).of_ok forced).leads
  obtain ⟨-, along⟩ := opened_until_probe (fun _ => Quiet.silent) reachable built led.of_whole rfl
    opened
  obtain ⟨-, -, -, denies, -⟩ := along w₀ [] .start
  obtain ⟨answer, after, run, denied, -⟩ := denies (.request 0 1) 0 (.inl rfl) early
  obtain ⟨-, -, -, -, grants⟩ := along _ [] (.time .start (w₀.clock.set 1000000000) w₀.elapsed)
  obtain ⟨answer', after', permits, deadline, run', granted, -, -, -, -, -, attempt⟩ :=
    grants (.request 0 2) 0 (.inl rfl) late fun limited => by
      have limited : (w₀.circuit 0).settings.trialLimit.isZero = false := limited
      rw [unlimited] at limited
      cases limited
  exact ⟨w₀, opened, ⟨answer, after, run, denied⟩, answer', after', run', granted,
    attempt.trans attempts⟩

end World

end Breaker

import Breaker.Proofs.Episode.Trial
import Breaker.Proofs.World.Past

/-!
# Traffic — requests and reports at a circuit that is let alone

`Traffic` is a stretch of the history of a circuit in which nobody moves it by hand, its timer does not
run, no request finds the time of the episode over, and no outcome is recorded past a deadline
(`World.IsTraffic`).  Everything else may happen, at this circuit and elsewhere, and the clock may be
set to any reading in between.  The outcomes recorded on the way are listed.

An operation of such a stretch comes to marks that stay, or to an outcome with what follows from it
(`Undergoes.traffic`), so what these preserve holds along all of it (`Traffic.preserves`).
-/

namespace Breaker

variable {γ : Type}

namespace World

/-- Whether an operation is traffic: it moves a circuit neither by hand nor by its timer, and what it
asks of the circuit comes in time. -/
structure IsTraffic (w : World γ) (id : CircuitId) (op : Operation) : Prop where
  unforced : ∀ target, op ≠ .force id target
  kept : op ≠ .reset id
  idle : ¬w.TimerRuns id op
  asked : op.Requests id → ∀ target, (w.episode id).request (w.reading id) ≠ .expired target
  told : ∀ o, op.reported? w id = some o → (w.episode id).isOverdue (w.reading id) = false

/-- A report in time is traffic. -/
theorem IsTraffic.of_report {w : World γ} {id : CircuitId} {d : Duration} {r : Report}
    (inTime : (w.episode id).isOverdue (w.reading id) = false) :
    w.IsTraffic id (.report id d r) where
  unforced := nofun
  kept := nofun
  idle := fun runs => runs
  asked := nofun
  told := fun _ _ => inTime

/-- A request in time is answered by the current episode. -/
theorem Asks.marks_eq {w : World γ} {id : CircuitId} {answer : Bool} {marks : List Mark}
    (h : w.Asks id answer marks)
    (inTime : ∀ target, (w.episode id).request (w.reading id) ≠ .expired target) :
    marks = [.granted] ∨ marks = [.refused] := by
  obtain ⟨lapses, e, lapse, -, answered⟩ := h
  cases lapse with
  | more expired => exact absurd expired (inTime _)
  | refl =>
    obtain ⟨-, -, rfl⟩ | ⟨-, -, rfl⟩ := answered
    · exact .inl rfl
    · exact .inr rfl

/-- **What traffic comes to**: an outcome with what follows from it, or marks that stay. -/
theorem Undergoes.traffic {w : World γ} {id : CircuitId} {op : Operation} {answer : Answer}
    {marks : List Mark} (h : w.Undergoes id op answer marks) (traffic : w.IsTraffic id op) :
    (∃ o, op.reported? w id = some o ∧
        Episode.Reports (w.circuit id).settings (w.reading id) (w.episode id) o marks) ∨
      (op.reported? w id = none ∧ ∀ m ∈ marks, m.stays = true ∧ m.outcome? = none) := by
  have asked {answer : Bool} {marks : List Mark} (asks : w.Asks id answer marks)
      (requests : op.Requests id) : ∀ m ∈ marks, m.stays = true ∧ m.outcome? = none := by
    obtain rfl | rfl := asks.marks_eq (traffic.asked requests)
    · simp [Mark.stays, Mark.outcome?]
    · simp [Mark.stays, Mark.outcome?]
  cases h with
  | does does =>
    cases does with
    | request asks => exact .inr ⟨rfl, asked asks ⟨_, .inl rfl⟩⟩
    | acquired asks | refused asks => exact .inr ⟨rfl, asked asks ⟨_, .inr rfl⟩⟩
    | @report d r marks told =>
      have reported : (Operation.report id d r).reported? w id = (w.circuit id).outcome? d r :=
        if_pos rfl
      rw [reported]
      unfold Told at told
      split at told
      case h_1 o outcome => exact .inl ⟨o, outcome, told⟩
      case h_2 ignored =>
        subst told
        exact .inr ⟨ignored, by simp [Mark.stays, Mark.outcome?]⟩
    | release | metrics => exact .inr ⟨rfl, by simp [Mark.stays, Mark.outcome?]⟩
    | force target => exact absurd rfl (traffic.unforced target)
    | reset => exact absurd rfl traffic.kept
  | moved runs => exact absurd runs traffic.idle
  | spared off | muffled off => exact .inr ⟨Operation.reported?_of_off off, by simp⟩

end World

/-- A stretch of traffic at a circuit, with the outcomes that were recorded there. -/
inductive Traffic (react : CircuitId → React γ) (id : CircuitId) (w₀ : World γ) :
    World γ → List Outcome → Prop where
  | start : Traffic react id w₀ w₀ []
  | operation {w w' : World γ} {os : List Outcome} (h : Traffic react id w₀ w os) (op : Operation)
      {answer : Answer} (run : op.run react w = .ok answer w') (traffic : w.IsTraffic id op) :
      Traffic react id w₀ w' (os ++ (op.reported? w id).toList)
  | time {w : World γ} {os : List Outcome} (h : Traffic react id w₀ w os) (clock : Clock)
      (elapsed : Nat) : Traffic react id w₀ { w with clock := clock, elapsed := elapsed } os

namespace Traffic

variable {react : CircuitId → React γ} {id : CircuitId} {w₀ w : World γ} {os : List Outcome}

/-- **Along traffic** holds what marks that stay preserve, and outcomes with what follows from them. -/
theorem preserves (quiet : ∀ id, Quiet (react id)) (sound : w₀.Sound)
    (there : id < w₀.circuits.size) {P : Episode → List Outcome → Prop}
    (mark : ∀ (now : Nat) (e : Episode) (os : List Outcome) (m : Mark), m.stays = true →
      m.outcome? = none → P e os → P (e.after (w₀.circuit id).settings now m) os)
    (report : ∀ (now : Nat) (e : Episode) (os : List Outcome) (o : Outcome) (marks : List Mark),
      e.isOverdue now = false → Episode.Reports (w₀.circuit id).settings now e o marks →
      P e os → P (e.course (w₀.circuit id).settings now marks) (os ++ [o]))
    (start : P (w₀.episode id) []) (traffic : Traffic react id w₀ w os) :
    w.Sound ∧ id < w.circuits.size ∧ (w.circuit id).settings = (w₀.circuit id).settings ∧
      P (w.episode id) os := by
  induction traffic with
  | start => exact ⟨sound, there, rfl, start⟩
  | @operation w w' os _ op answer run traffic ih =>
    obtain ⟨sound, there, settings, holds⟩ := ih
    obtain ⟨reaches, marks, course, undergoes⟩ :=
      (op.yields_undergoes quiet sound there).of_ok run
    refine ⟨reaches.sound sound, Nat.lt_of_lt_of_le there course.size,
      course.settings.trans settings, ?_⟩
    rw [course.episode, settings]
    obtain ⟨o, reported, reports⟩ | ⟨unreported, stay⟩ := undergoes.traffic traffic
    · rw [settings] at reports
      rw [reported]
      exact report _ _ os o marks (traffic.told o reported) reports holds
    · rw [unreported, Option.toList_none, List.append_nil]
      exact Episode.course_preserves (P := fun e : Episode => P e os)
        (fun m mem e => mark _ e os m (stay m mem).1 (stay m mem).2) holds
  | @time w os _ clock elapsed ih =>
    obtain ⟨sound, rest⟩ := ih
    exact ⟨(World.Move.time w clock elapsed).sound sound, rest⟩

end Traffic

end Breaker

import Breaker.Proofs.Episode.Edges

/-!
# Told — what an episode that only watches metrics has told of

In metrics-only operation no threshold opens the breaker; it is told of, once in a stay.  An episode that
begins has told of nothing (`hasTold_entered`), a report that finds thresholds reached makes it tell of
them (`Reports.hasTold_eq`), and no other mark does (`hasTold_course`).
-/

namespace Breaker

namespace Episode

variable {s : Settings} {now : Nat}

/-- Whether an episode that only watches metrics told of its thresholds. -/
def hasTold (e : Episode) : Bool :=
  match e.phase with
  | .metricsOnly reported => reported
  | _ => false

/-- Only by telling of them does an episode come to have told of its thresholds. -/
theorem hasTold_after {m : Mark} (stays : m.stays = true) (silent : m ≠ .told) (e : Episode) :
    (e.after s now m).hasTold = e.hasTold := by
  cases m with
  | granted =>
    rw [after]
    split
    case h_1 taken granted =>
      obtain rfl | ⟨permits, left, deadline, phase, -, rfl⟩ := request_granted granted
      · rfl
      · rw [hasTold, hasTold, phase]
    case h_2 => rfl
  | released =>
    rw [after, release]
    split
    case h_1 permits deadline phase => rw [hasTold, hasTold, phase]
    case h_2 => rfl
  | refused | recorded | settled => rfl
  | told => exact absurd rfl silent
  | entered => cases stays

/-- An episode that begins has told of nothing. -/
theorem hasTold_entered (e : Episode) (target : State) (wait : Duration) (manual : Bool)
    (timer : Option Nat) : (e.after s now (.entered target wait manual timer)).hasTold = false := by
  have phase : (e.after s now (.entered target wait manual timer)).phase
      = phaseOf s target now wait := next_phase ..
  rw [hasTold, phase]
  cases target with
  | closed | opened | halfOpen | disabled | forcedOpen | metricsOnly => rfl

/-- An episode that tells of its thresholds has told of them. -/
theorem hasTold_noteTold {e : Episode} (watching : e.state = .metricsOnly) :
    e.noteTold.hasTold = true := by
  rw [state] at watching
  rw [noteTold]
  cases phase : e.phase with
  | metricsOnly reported => rfl
  | closed | opened | halfOpen | disabled | forcedOpen =>
    rw [phase] at watching
    cases watching

/-- **Some marks** that tell of no thresholds: what was told is forgotten with a change of state. -/
theorem hasTold_course {marks : List Mark} (silent : ∀ m ∈ marks, m ≠ .told) (e : Episode) :
    (e.course s now marks).hasTold = if e.turns s now marks = [] then e.hasTold else false := by
  induction marks generalizing e with
  | nil => rfl
  | cons m marks ih =>
    obtain ⟨first, rest⟩ := List.forall_mem_cons.mp silent
    rw [course_cons, turns_cons, ih rest]
    cases stays : m.stays with
    | true =>
      rw [Mark.turn?_of_stays stays, hasTold_after stays first, Option.toList_none, List.nil_append]
    | false =>
      cases m with
      | entered target wait manual timer =>
        rw [hasTold_entered, ite_self, if_neg (by exact List.cons_ne_nil _ _)]
      | granted | refused | released | recorded | told | settled => cases stays

theorem Lapses.ne_told {e e' : Episode} {marks : List Mark} (h : Lapses s now e marks e') :
    ∀ m ∈ marks, m ≠ .told := by
  induction h with
  | refl e => exact fun _ mem => absurd mem List.not_mem_nil
  | more _ _ ih => exact List.forall_mem_cons.mpr ⟨Mark.noConfusion, ih⟩

/-- Rates are told of by an episode that only watches them and has not done so. -/
theorem followUp_eq_tell_iff {e : Episode} :
    (∃ rates, e.followUp s now = some (.tell rates)) ↔
      e.state = .metricsOnly ∧ breached s e.rates = true ∧ e.hasTold = false := by
  rw [followUp, hasTold, state]
  cases phase : e.phase with
  | disabled | opened | forcedOpen => simp [Phase.state]
  | closed => cases breached s e.rates with
    | true | false => simp [Phase.state]
  | halfOpen permits deadline =>
    dsimp only
    split_ifs with overdue few breach
    · simp [Phase.state]
    · simp [Phase.state]
    · simp [Phase.state]
    · simp [Phase.state]
  | metricsOnly reported =>
    cases breached s e.rates with
    | true => cases reported with
      | true | false => simp [Phase.state]
    | false => simp

/-- **What was told of** after a report: where metrics are only watched, any thresholds that it finds
reached. -/
theorem Reports.hasTold_eq {e : Episode} {o : Outcome} {marks : List Mark}
    (h : Reports s now e o marks) : (e.course s now marks).hasTold =
      ((e.turns s now marks).isEmpty &&
        (e.hasTold || (e.state = .metricsOnly && breached s (e.observe now o).rates))) := by
  have observed : (e.after s now (.recorded o)).hasTold = e.hasTold :=
    hasTold_after rfl Mark.noConfusion e
  cases h with
  | alone asked =>
    show (e.after s now (.recorded o)).hasTold
      = (true && (e.hasTold || (e.state = .metricsOnly && breached s (e.observe now o).rates)))
    rw [observed, Bool.true_and]
    cases told : e.hasTold with
    | true => rfl
    | false =>
      have untold : ¬∃ rates, (e.observe now o).followUp s now = some (.tell rates) := by
        rw [asked]
        rintro ⟨rates, ⟨⟩⟩
      rw [followUp_eq_tell_iff] at untold
      have calm (watching : e.state = .metricsOnly) : breached s (e.observe now o).rates = false := by
        by_contra breach
        rw [Bool.not_eq_false] at breach
        exact untold ⟨watching, breach, told⟩
      symm
      simpa using calm
  | told asked =>
    obtain ⟨watching, breach, -⟩ := followUp_eq_tell_iff.mp ⟨_, asked⟩
    show (e.observe now o).noteTold.hasTold
      = (true && (e.hasTold || (e.state = .metricsOnly && breached s (e.observe now o).rates)))
    rw [hasTold_noteTold watching, breach, show e.state = .metricsOnly from watching]
    simp
  | tripped | passed => exact hasTold_entered ..

end Episode

end Breaker

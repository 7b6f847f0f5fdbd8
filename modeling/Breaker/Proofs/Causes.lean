import Breaker.Classifier
import Breaker.Proofs.Episode.Course

/-!
# Causes — why the user's functions give up

Each kind of function that the user gives to a breaker has a cause of its own for giving up: a predicate a
text (`Classifier.observe_onError`, `Classifier.observe_onResult`), and a wait function an attempt that it
knows no wait for (`Settings.WaitFails.noWait`).  So a cause tells which function was asked.
-/

namespace Breaker

namespace Watched

variable {α β : Type}

/-- What is at hand is not asked for. -/
theorem observe_pure_ne_error (a : α) (cause : Abort) :
    (pure a : Watched α).observe.1 ≠ .error cause := nofun

/-- Code of the user's that gives up only with the text of a predicate. -/
def FailsAsPredicate (x : Watched α) : Prop :=
  ∀ remarks cause remarks', x remarks = .error cause remarks' → ∃ text, cause = .predicate text

namespace FailsAsPredicate

theorem pure (a : α) : FailsAsPredicate (pure a : Watched α) := nofun

theorem remark (r : Remark) : FailsAsPredicate (Watched.remark r) := nofun

theorem throw (text : String) : FailsAsPredicate (throw (.predicate text) : Watched α) := by
  intro remarks cause remarks' run
  cases run
  exact ⟨text, rfl⟩

theorem bind {x : Watched α} {f : α → Watched β} (h : FailsAsPredicate x)
    (h' : ∀ a, FailsAsPredicate (f a)) : FailsAsPredicate (x >>= f) := by
  intro remarks cause remarks' run
  simp only [Bind.bind, EStateM.bind] at run
  cases first : x remarks with
  | ok a between =>
    rw [first] at run
    exact h' a between cause remarks' run
  | error cause' between =>
    rw [first] at run
    cases run
    exact h remarks cause remarks' first

theorem observe {x : Watched α} (h : FailsAsPredicate x) {cause : Abort}
    (failed : x.observe.1 = .error cause) : ∃ text, cause = .predicate text := by
  unfold Watched.observe EStateM.run at failed
  cases run : x #[] with
  | ok a remarks =>
    rw [run] at failed
    cases failed
  | error cause' remarks =>
    rw [run] at failed
    cases failed
    exact h _ _ _ run

end FailsAsPredicate

end Watched

open Watched (FailsAsPredicate)

/-! ### Predicates -/

namespace Predicate

mutual

theorem failsAsPredicate_holds (call : Call) : ∀ p : Predicate, FailsAsPredicate (holds call p)
  | .always | .never | .textIs _ | .intBelow _ | .flagIs _ | .isUnit | .statusBelow _ | .lasting _
  | .circuitIs _ => by
    unfold holds
    exact .pure _
  | .failing text => by
    unfold holds
    exact .throw text
  | .negation p => by
    unfold holds
    exact .bind (failsAsPredicate_holds call p) fun _ => .pure _
  | .anyOf ps => by
    unfold holds
    exact failsAsPredicate_holdsAny call ps
  | .remarking tag p => by
    unfold holds
    exact .bind (.remark _) fun _ => failsAsPredicate_holds call p

theorem failsAsPredicate_holdsAny (call : Call) :
    ∀ ps : List Predicate, FailsAsPredicate (holdsAny call ps)
  | [] => by
    unfold holdsAny
    exact .pure false
  | p :: ps => by
    unfold holdsAny
    refine .bind (failsAsPredicate_holds call p) fun held => ?_
    cases held with
    | true => exact .pure true
    | false => exact failsAsPredicate_holdsAny call ps

end

end Predicate

namespace Classifier

theorem failsAsPredicate_matched (call : Call) (p : Option Predicate) :
    FailsAsPredicate (matched call p) := by
  cases p with
  | none => exact .pure false
  | some p => exact p.failsAsPredicate_holds call

/-- **A classifier gives up** on an error only if one of its predicates does. -/
theorem observe_onError {c : Classifier} {call : Call} {cause : Abort}
    (failed : (c.onError call).observe.1 = .error cause) : ∃ text, cause = .predicate text := by
  refine FailsAsPredicate.observe ?_ failed
  cases c with
  | standard | bare | fixed => exact .pure _
  | predicates ps =>
    refine .bind (failsAsPredicate_matched call ps.ignoreError) fun ignored => ?_
    cases ignored with
    | true => exact .pure _
    | false =>
      obtain ⟨ignoreError, recordError, recordResult⟩ := ps
      cases recordError with
      | none => exact .pure _
      | some p => exact .bind (p.failsAsPredicate_holds call) fun _ => .pure _

/-- **A classifier gives up** on a result only if its predicate does. -/
theorem observe_onResult {c : Classifier} {call : Call} {cause : Abort}
    (failed : (c.onResult call).observe.1 = .error cause) : ∃ text, cause = .predicate text := by
  refine FailsAsPredicate.observe ?_ failed
  cases c with
  | standard | bare | fixed => exact .pure _
  | predicates ps => exact .bind (failsAsPredicate_matched call ps.recordResult) fun _ => .pure _

end Classifier

/-! ### Waits -/

namespace Settings.WaitFails

variable {s : Settings} {cause : Abort}

/-- Only a wait function of the user's gives up. -/
theorem custom (h : s.WaitFails cause) : ∃ wait? remarks, s.backoff = .custom wait? remarks := by
  obtain ⟨roll, attempt, drawn⟩ := h
  cases policy : s.backoff with
  | custom wait? remarks => exact ⟨wait?, remarks, rfl⟩
  | fixed | exponential | randomized | exponentialRandomized =>
    rw [policy] at drawn
    cases drawn

/-- **A wait function gives up** at an attempt that it knows no wait for. -/
theorem noWait (h : s.WaitFails cause) : ∃ attempt, cause = .noWait attempt := by
  obtain ⟨wait?, remarks, policy⟩ := h.custom
  obtain ⟨roll, attempt, drawn⟩ := h
  rw [policy, Watched.observe] at drawn
  unfold Backoff.wait at drawn
  cases remarks with
  | true | false =>
    cases answer : wait? (max attempt 1) with
    | some d =>
      simp only [answer] at drawn
      cases drawn
    | none =>
      simp only [answer] at drawn
      cases drawn
      exact ⟨_, rfl⟩

theorem ne_unsettled (h : s.WaitFails cause) : cause ≠ .unsettled := by
  obtain ⟨attempt, rfl⟩ := h.noWait
  exact nofun

end Settings.WaitFails

end Breaker

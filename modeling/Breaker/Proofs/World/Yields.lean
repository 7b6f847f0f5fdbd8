import Mathlib
import Breaker.World.Publication

/-!
# Yields — what comes of an act

`Yields x w ok abort` says what comes of running the act `x` in the world `w`: `ok` holds of its
answer and of the world it leaves, or, if it gives up, `abort` holds of the cause and of the world
it leaves.  The rules for the steps that acts are made of are equivalences, so what an act yields is
found by rewriting with them; acts inside it enter through `Yields.mono`.
-/

namespace Breaker

variable {γ α β : Type}

/-- What holds once an act was run in a world. -/
def Yields (x : Act γ α) (w : World γ) (ok : α → World γ → Prop)
    (abort : Abort → World γ → Prop) : Prop :=
  match x w with
  | .ok a after => ok a after
  | .error cause after => abort cause after

section Rules

variable {w : World γ} {ok ok' : α → World γ → Prop} {abort abort' : Abort → World γ → Prop}

theorem Yields.mono {x : Act γ α} (h : Yields x w ok abort)
    (answered : ∀ a after, ok a after → ok' a after)
    (aborted : ∀ cause after, abort cause after → abort' cause after) :
    Yields x w ok' abort' := by
  unfold Yields at h ⊢
  cases result : x w with
  | ok a after =>
    rw [result] at h
    exact answered a after h
  | error cause after =>
    rw [result] at h
    exact aborted cause after h

/-- Two things that hold of an act hold together. -/
theorem Yields.and {x : Act γ α} (h : Yields x w ok abort) (h' : Yields x w ok' abort') :
    Yields x w (fun a after => ok a after ∧ ok' a after)
      fun cause after => abort cause after ∧ abort' cause after := by
  unfold Yields at h h' ⊢
  cases result : x w with
  | ok a after =>
    rw [result] at h h'
    exact ⟨h, h'⟩
  | error cause after =>
    rw [result] at h h'
    exact ⟨h, h'⟩

theorem Yields.of_ok {x : Act γ α} (h : Yields x w ok abort) {a : α} {after : World γ}
    (run : x w = .ok a after) : ok a after := by
  rwa [Yields, run] at h

theorem Yields.of_error {x : Act γ α} (h : Yields x w ok abort) {cause : Abort} {after : World γ}
    (run : x w = .error cause after) : abort cause after := by
  rwa [Yields, run] at h

theorem Yields.of_eq {x x' : Act γ α} (same : x w = x' w) (h : Yields x' w ok abort) :
    Yields x w ok abort := by
  unfold Yields at h ⊢
  rwa [same]

/-- An act that cannot give up answers. -/
theorem Yields.exists_ok {x : Act γ α} (h : Yields x w ok fun _ _ => False) :
    ∃ a after, x w = .ok a after ∧ ok a after := by
  unfold Yields at h
  cases result : x w with
  | ok a after =>
    rw [result] at h
    exact ⟨a, after, rfl, h⟩
  | error cause after =>
    rw [result] at h
    exact h.elim

theorem yields_pure (a : α) : Yields (pure a) w ok abort ↔ ok a w := Iff.rfl

theorem yields_throw (cause : Abort) :
    Yields (throw cause : Act γ α) w ok abort ↔ abort cause w := Iff.rfl

theorem yields_get {ok : World γ → World γ → Prop} :
    Yields (get : Act γ (World γ)) w ok abort ↔ ok w w := Iff.rfl

theorem yields_set {ok : PUnit → World γ → Prop} (w' : World γ) :
    Yields (set w' : Act γ PUnit) w ok abort ↔ ok ⟨⟩ w' := Iff.rfl

theorem yields_modify {ok : PUnit → World γ → Prop} (f : World γ → World γ) :
    Yields (modify f : Act γ PUnit) w ok abort ↔ ok ⟨⟩ (f w) := Iff.rfl

theorem yields_bind {ok : β → World γ → Prop} (x : Act γ α) (f : α → Act γ β) :
    Yields (x >>= f) w ok abort ↔ Yields x w (fun a after => Yields (f a) after ok abort) abort := by
  unfold Yields
  simp only [bind, EStateM.bind]
  cases x w with
  | ok a after => exact Iff.rfl
  | error cause after => exact Iff.rfl

theorem yields_ite (c : Prop) [Decidable c] (x y : Act γ α) :
    Yields (if c then x else y) w ok abort ↔
      if c then Yields x w ok abort else Yields y w ok abort := by
  split
  · exact Iff.rfl
  · exact Iff.rfl

end Rules

/-! ### Events at hand -/

/-- Code that asks nothing of the user's is as if it were not watched. -/
theorem watch_pure (a : α) : (watch (pure a) : Act γ α) = pure a := rfl

/-- An event that is at hand is published as it is. -/
theorem publishFormed_pure (react : React γ) (id : CircuitId) (event : Event) :
    publishFormed react id (pure event) = publish react id event := by
  funext w
  unfold publishFormed
  by_cases nobody : (w.circuit id).roster.members.isEmpty = true
  · simp [bind, EStateM.bind, get, getThe, MonadStateOf.get, EStateM.get, nobody]
    rfl
  · simp [bind, EStateM.bind, get, getThe, MonadStateOf.get, EStateM.get, nobody, watch_pure]
    rfl

/-- An event about a call that is at hand is published where the state allows it. -/
theorem publishCall_pure (react : React γ) (id : CircuitId) (state : State) (event : Event) :
    publishCall react id state (pure event)
      = if state.publishesCalls then publish react id event else pure () := by
  rw [publishCall, publishFormed_pure]

-- acts are run by the rules, never by unfolding what runs them
attribute [irreducible] Yields

end Breaker

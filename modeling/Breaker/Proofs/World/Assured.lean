import Breaker.Proofs.World.Armed

/-!
# Assured — acts that do not give up

An act gives up where a wait function or a classifier of the user's does, or where the steps allowed are
used up.  With a wait that is not the user's and a classifier that returns (`World.Returns`) only the last
is left: such acts are `Assured`, whatever consumers do, since giving up is a consumer's own affair.  Acts
that tend without asking a classifier are assured already (`Tending.assured`); here are the others.
-/

namespace Breaker

variable {γ α β : Type}

/-- A classifier that returns a verdict on every call. -/
def Classifier.Returns (c : Classifier) : Prop :=
  ∀ call, (∃ verdict, (c.onError call).observe.1 = .ok verdict) ∧
    ∃ verdict, (c.onResult call).observe.1 = .ok verdict

/-- No code of the user's gives up, but what consumers run. -/
structure World.Returns (w : World γ) : Prop where
  waits : w.Waits
  verdicts : ∀ id, (w.circuit id).settings.classifier.Returns

variable {w w₀ : World γ}

theorem World.Tends.returns (h : w₀.Tends w) (returns : w₀.Returns) : w.Returns where
  waits := h.waits returns.waits
  verdicts := by
    intro id
    rw [h.settings]
    exact returns.verdicts id

/-- An act that gives up only where the steps allowed are used up, as long as users' code returns. -/
def Assured (x : Act γ α) : Prop :=
  ∀ w : World γ, w.Sound → w.Returns → Yields x w (fun _ after => w.Tends after)
    fun cause _ => cause = .unsettled

theorem Tending.assured {x : Act γ α} (h : Tending (· = .unsettled) x) : Assured x :=
  fun w sound returns => (h w sound returns.waits).mono (fun _ _ led => led) fun _ _ gaveUp => gaveUp.1

namespace Assured

variable {x : Act γ α}

/-- An act in the middle of another. -/
theorem mid (h : Assured x) (led : w₀.Tends w) (sound : w₀.Sound) (returns : w₀.Returns) :
    Yields x w (fun _ after => w₀.Tends after) fun cause _ => cause = .unsettled :=
  (h w (led.sound sound) (led.returns returns)).mono (fun _ _ more => led.trans more)
    fun _ _ gaveUp => gaveUp

theorem pure (b : α) : Assured (pure b : Act γ α) := Tending.assured (.pure b)

theorem get : Assured (get : Act γ (World γ)) := Tending.assured .get

theorem bind (h : Assured x) {f : α → Act γ β} (h' : ∀ b, Assured (f b)) : Assured (x >>= f) := by
  intro w sound returns
  rw [yields_bind]
  exact (h w sound returns).mono (fun b _ led => (h' b).mid led sound returns) fun _ _ gaveUp => gaveUp

end Assured

section Reports

variable {react : React γ} {id : CircuitId}

/-- Code of the user's that returns, and what follows on its result. -/
theorem yields_watch_returns {y : Watched α} {f : α → Act γ β} (sound : w.Sound) (returns : w.Returns)
    (result : ∃ a, y.observe.1 = .ok a) (rest : ∀ a, Assured (f a)) :
    Yields (watch y >>= f) w (fun _ after => w.Tends after) fun cause _ => cause = .unsettled := by
  obtain ⟨a, answered⟩ := result
  rw [yields_bind]
  refine yields_watch (fun a after _ asked => ?_) fun cause _ fails _ => ?_
  · exact (rest a).mid (.aside asked.aside) sound returns
  · rw [answered] at fails
    cases fails

variable (tending : TendingReact react)
include tending

theorem assured_onError (d : Duration) (error : Value) :
    Assured (onError react id d (.plain error)) := by
  intro w sound returns
  rw [onError_plain, yields_bind, yields_get]
  refine yields_watch_returns sound returns (returns.verdicts id _).1 fun verdict => ?_
  cases verdict with
  | failure | success => exact (tending_record tending _ _).assured
  | ignored => exact (tending_ignore tending _).assured

theorem assured_onResult (d : Duration) (result : Value) : Assured (onResult react id d result) := by
  intro w sound returns
  unfold onResult
  rw [yields_bind, yields_get]
  refine yields_watch_returns sound returns (returns.verdicts id _).2 fun verdict => ?_
  cases verdict with
  | failure | success => exact (tending_record tending _ _).assured
  | ignored => exact (tending_ignore tending _).assured

omit tending in
theorem assured_noteAndReport {d : Duration} {r : Report} (told : Assured (r.tell react id d)) :
    Assured (noteAndReport react id d r) :=
  .bind (Tending.assured (tending_noteDeal _)) fun _ =>
    .bind told fun _ => Tending.assured (tending_noteDeal _)

end Reports

end Breaker

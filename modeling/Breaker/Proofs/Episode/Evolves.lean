import Breaker.Proofs.Episode.Edges

/-!
# Evolves — what becomes of a circuit's episode

`Episode.Evolves` relates the current episode of a circuit to a later one, with the changes of state in
between.  In contrast to `Episode.course`, where the marks follow one another at one reading, anything
may happen between two steps: the clock may be set, and a consumer that is told of an outcome may do as
it likes with the circuit before what the outcome asked for is seen to.

A change of state is made by hand or along an edge, and an open episode has a wait that the settings
gave for its attempt.  An outcome holds together all that comes before its report returns, and the
report does what the outcome asked for (`Episode.Settled`) if it was carried out as a `whole`.
-/

namespace Breaker

namespace Episode

variable {s : Settings}

/-- What an episode asks for was done: it asked for no change of state, or it is over. -/
def Settled (s : Settings) (now : Nat) (observed last : Episode) : Prop :=
  (∀ d, observed.followUp s now = some d → d.isTold = true) ∨ observed.number < last.number

/-- Whether a window of calls took as many outcomes as the episode measures by. -/
def IsComplete (e : Episode) : Prop := ∃ r : Ring, e.window = .calls r ∧ e.minimum ≤ r.cursor

instance (e : Episode) : Decidable e.IsComplete :=
  match window : e.window with
  | .calls r => decidable_of_iff (e.minimum ≤ r.cursor) <| by
      refine ⟨fun many => ⟨r, window, many⟩, fun ⟨r', same, many⟩ => ?_⟩
      rw [window] at same
      cases same
      exact many
  | .seconds _ | .idle => isFalse fun ⟨r, same, _⟩ => by
      rw [window] at same
      cases same

theorem IsComplete.after {e : Episode} (h : e.IsComplete) {now : Nat} {m : Mark}
    (stays : m.stays = true) : (e.after s now m).IsComplete := by
  obtain ⟨r, window, many⟩ := h
  have minimum : (e.after s now m).minimum = e.minimum := (keeps_after stays e).minimum
  rw [IsComplete, minimum, window_after stays, window]
  cases m with
  | recorded o => exact ⟨r.record o, rfl, Nat.le_succ_of_le many⟩
  | granted | refused | released | told | settled => exact ⟨r, rfl, many⟩
  | entered => cases stays

/-- What becomes of an episode, through changes of state. -/
inductive Evolves (s : Settings) (whole : Prop) : Episode → List Turn → Episode → Prop where
  | refl (e : Episode) : Evolves s whole e [] e
  | trans {e₁ e₂ e₃ : Episode} {turns turns' : List Turn} (h : Evolves s whole e₁ turns e₂)
      (h' : Evolves s whole e₂ turns' e₃) : Evolves s whole e₁ (turns ++ turns') e₃
  | mark (e : Episode) (now : Nat) {m : Mark} (stays : m.stays = true)
      (unrecorded : m.outcome? = none) : Evolves s whole e [] (e.after s now m)
  | entered (e : Episode) (now : Nat) {target : State} {wait : Duration} {manual : Bool}
      (timer : Option Nat) (proper : Turn.IsProper ⟨⟨e.state, target⟩, manual⟩)
      (drawn : target = .opened →
        s.Draws (attemptsOnEntry e.state e.attempts target manual) wait) :
      Evolves s whole e [⟨⟨e.state, target⟩, manual⟩]
        (e.after s now (.entered target wait manual timer))
  | recorded (e : Episode) (now : Nat) (o : Outcome) {turns : List Turn} {e' : Episode}
      (rest : Evolves s whole (e.observe now o) turns e')
      (settled : whole → Settled s now (e.observe now o) e') : Evolves s whole e turns e'

namespace Evolves

variable {whole : Prop} {e e' : Episode} {turns : List Turn}

/-- Less may be carried out as a whole. -/
theorem mono {whole' : Prop} (less : whole' → whole) (h : Evolves s whole e turns e') :
    Evolves s whole' e turns e' := by
  induction h with
  | refl e => exact .refl e
  | trans _ _ ih ih' => exact ih.trans ih'
  | mark e now stays unrecorded => exact .mark e now stays unrecorded
  | entered e now timer proper drawn => exact .entered e now timer proper drawn
  | recorded e now o _ settled ih => exact .recorded e now o ih fun holds => settled (less holds)

/-- Each change of state ends an episode, and nothing else does. -/
theorem number_eq (h : Evolves s whole e turns e') : e'.number = e.number + turns.length := by
  induction h with
  | refl => rfl
  | trans _ _ ih ih' => rw [ih', ih, List.length_append, Nat.add_assoc]
  | mark e now stays => exact (keeps_after (s := s) stays e).number
  | entered e now => exact next_number ..
  | recorded e now o _ _ ih => exact ih

/-- Episodes are numbered upwards. -/
theorem number_le (h : Evolves s whole e turns e') : e.number ≤ e'.number := by
  rw [h.number_eq]
  exact Nat.le_add_right _ _

/-- The changes of state lead from the state of the one episode to that of the other. -/
theorem path (h : Evolves s whole e turns e') : Turn.Path e.state turns e'.state := by
  induction h with
  | refl e => exact .nil _
  | trans _ _ ih ih' => exact ih.append ih'
  | mark e now stays =>
    rw [(keeps_after (s := s) stays e).state]
    exact .nil _
  | @entered e now target wait manual timer =>
    have entered : (e.after s now (.entered target wait manual timer)).state = target :=
      next_state ..
    rw [entered]
    exact .single ⟨⟨e.state, target⟩, manual⟩
  | recorded e now o _ _ ih => exact ih

/-- **A complete window** stays so while its episode is current. -/
theorem isComplete (h : Evolves s whole e turns e') (complete : e.IsComplete)
    (same : e'.number = e.number) : e'.IsComplete := by
  induction h with
  | refl => exact complete
  | trans first second ih ih' =>
    have earlier := first.number_le
    have later := second.number_le
    exact ih' (ih complete (by omega)) (by omega)
  | mark e now stays => exact complete.after stays
  | @entered e now target wait manual timer =>
    have next : (e.after s now (.entered target wait manual timer)).number = e.number + 1 :=
      next_number ..
    omega
  | recorded e now o _ _ ih =>
    have observed : (e.after s now (.recorded o)).IsComplete := complete.after rfl
    exact ih observed same

end Evolves

end Episode

end Breaker

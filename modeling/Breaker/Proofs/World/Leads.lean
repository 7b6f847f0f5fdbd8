import Breaker.Proofs.Episode.Evolves
import Breaker.Proofs.World.Quiet
import Breaker.Proofs.World.Sound

/-!
# Leads — what acts do to a world, whoever listens

`Leads whole w w'` says that from `w` moves lead to `w'`, and that meanwhile each circuit kept its
settings and its episode evolved (`Story`) through the changes of state that the journal tells of.  So
what holds of an episode whatever becomes of it holds of every circuit in every world that acts lead
to, also where consumers call back or give up.

The steps of acts are such relations (`Leads.aside`, `Leads.mark`, `Leads.change` and the others), and
they compose.  An outcome is different: its report is done with only when what the outcome asked for
was seen to (`Leads.recorded`).
-/

namespace Breaker.World

variable {γ : Type}

/-- Whether reports did what their outcomes asked for: they were carried out as a whole, and it is not
for the wait function of the circuit to keep them from it. -/
def Story.Settles (s : Settings) (whole : Prop) : Prop := whole ∧ ∀ cause, ¬s.WaitFails cause

/-- How the episode of a circuit evolved from one world to another. -/
structure Story (whole : Prop) (id : CircuitId) (w w' : World γ) : Prop where
  size : w.circuits.size ≤ w'.circuits.size
  settings : (w'.circuit id).settings = (w.circuit id).settings
  journal : ∃ entries : List Entry, w'.journal = w.journal ++ entries.toArray ∧
    (w.episode id).Evolves (w.circuit id).settings (Story.Settles (w.circuit id).settings whole)
      (Journal.turnsOf id entries) (w'.episode id)

/-- Acts lead from one world to another. -/
structure Leads (whole : Prop) (w w' : World γ) : Prop where
  reaches : w.Reaches w'
  story : ∀ id, id < w.circuits.size → Story whole id w w'

namespace Story

variable {whole : Prop} {id : CircuitId} {w w' w₁ w₂ w₃ : World γ}

/-- A circuit that nothing happened to. -/
theorem still (size : w.circuits.size ≤ w'.circuits.size)
    (settings : (w'.circuit id).settings = (w.circuit id).settings)
    (episode : w'.episode id = w.episode id)
    (journal : ∃ entries : List Entry, w'.journal = w.journal ++ entries.toArray ∧
      Journal.turnsOf id entries = []) : Story whole id w w' := by
  obtain ⟨entries, eq, silent⟩ := journal
  refine ⟨size, settings, entries, eq, ?_⟩
  rw [episode, silent]
  exact .refl _

theorem trans (h : Story whole id w₁ w₂) (h' : Story whole id w₂ w₃) : Story whole id w₁ w₃ := by
  obtain ⟨entries, eq, evolves⟩ := h.journal
  obtain ⟨entries', eq', evolves'⟩ := h'.journal
  refine ⟨h.size.trans h'.size, h'.settings.trans h.settings, entries ++ entries', by simp [eq', eq],
    ?_⟩
  rw [h.settings] at evolves'
  rw [Journal.turnsOf_append]
  exact evolves.trans evolves'

/-- A circuit that went through marks. -/
theorem of_course {marks : List Mark} (h : Course id w marks w')
    (evolves : (w.episode id).Evolves (w.circuit id).settings
      (Story.Settles (w.circuit id).settings whole)
      ((w.episode id).turns (w.circuit id).settings (w.reading id) marks)
      ((w.episode id).course (w.circuit id).settings (w.reading id) marks)) :
    Story whole id w w' := by
  obtain ⟨entries, eq, turns⟩ := h.journal
  refine ⟨h.size, h.settings, entries, eq, ?_⟩
  rw [turns, h.episode]
  exact evolves

theorem mono {whole' : Prop} (less : whole' → whole) (h : Story whole id w w') :
    Story whole' id w w' := by
  obtain ⟨size, settings, entries, eq, evolves⟩ := h
  exact ⟨size, settings, entries, eq, evolves.mono fun settles => ⟨less settles.1, settles.2⟩⟩

end Story

namespace Leads

variable {whole : Prop} {w w' w₁ w₂ w₃ : World γ}

theorem size (h : Leads whole w w') {id : CircuitId} (there : id < w.circuits.size) :
    id < w'.circuits.size := Nat.lt_of_lt_of_le there (h.story id there).size

theorem sound (h : Leads whole w w') : w.Sound → w'.Sound := h.reaches.sound

theorem mono {whole' : Prop} (less : whole' → whole) (h : Leads whole w w') : Leads whole' w w' :=
  ⟨h.reaches, fun id there => (h.story id there).mono less⟩

/-- What was carried out as a whole was carried out. -/
theorem of_whole (h : Leads True w w') : Leads whole w w' := h.mono fun _ => trivial

theorem trans (h : Leads whole w₁ w₂) (h' : Leads whole w₂ w₃) : Leads whole w₁ w₃ :=
  ⟨h.reaches.trans h'.reaches,
    fun id there => (h.story id there).trans (h'.story id (h.size there))⟩

/-! ### Steps beside the episodes -/

theorem aside (h : w.Aside w') : Leads whole w w' :=
  ⟨h.reaches, fun id _ => .of_course (.of_aside h id) (.refl _)⟩

theorem refl (w : World γ) : Leads whole w w := aside (.refl w)

/-- A move that leaves the circuits alone. -/
theorem of_move (h : Move w w') (circuits : w'.circuits = w.circuits)
    (journal : w'.journal = w.journal) : Leads whole w w' := by
  refine ⟨h.reaches, fun id _ => ?_⟩
  have circuit : w'.circuit id = w.circuit id := by
    rw [World.circuit, circuits]
    rfl
  refine .still (by rw [circuits]) (by rw [circuit]) (by rw [episode, circuit]; rfl) ⟨[], ?_, rfl⟩
  rw [journal]
  exact (Array.append_empty).symm

theorem build {b : Blueprint} {c : Circuit} (built : b.build w = .ok c) :
    Leads whole w (w.addCircuit c) := by
  refine ⟨(Move.build w b built).reaches, fun id there => ?_⟩
  have circuit : (w.addCircuit c).circuit id = w.circuit id :=
    circuit_addCircuit_of_ne w c there.ne
  refine .still ?_ (by rw [circuit]) (by rw [episode, circuit]; rfl)
    ⟨[], (Array.append_empty).symm, rfl⟩
  rw [addCircuit, Array.size_push]
  exact Nat.le_succ _

/-! ### Steps of an episode -/

/-- Marks at one circuit, if its episode may evolve so. -/
theorem of_goes {id : CircuitId} {marks : List Mark} (h : Goes id w marks w')
    (evolves : (w.episode id).Evolves (w.circuit id).settings
      (Story.Settles (w.circuit id).settings whole)
      ((w.episode id).turns (w.circuit id).settings (w.reading id) marks)
      ((w.episode id).course (w.circuit id).settings (w.reading id) marks)) :
    Leads whole w w' := by
  refine ⟨h.reaches, fun other there => ?_⟩
  by_cases same : id = other
  · subst same
    exact .of_course (h.course there) evolves
  · exact .of_course (h.elsewhere same) (.refl _)

theorem mark (w : World γ) (id : CircuitId) {m : Mark} (stays : m.stays = true)
    (unrecorded : m.outcome? = none) : Leads whole w
      (w.setEpisode id ((w.episode id).after (w.circuit id).settings (w.reading id) m)) := by
  refine of_goes (.mark w stays) ?_
  rw [Episode.turns_cons, Episode.turns_nil, Mark.turn?_of_stays stays]
  exact .mark _ _ stays unrecorded

theorem change (w : World γ) (id : CircuitId) (target : State) (wait : Duration) (manual : Bool)
    (proper : Turn.IsProper ⟨⟨(w.episode id).state, target⟩, manual⟩)
    (drawn : target = .opened → (w.circuit id).settings.Draws
      (Episode.attemptsOnEntry (w.episode id).state (w.episode id).attempts target manual) wait) :
    Leads whole w ((w.enter id target wait manual).log id
      (.transition ⟨(w.episode id).state, target⟩
        (Episode.attemptsOnEntry (w.episode id).state (w.episode id).attempts target manual)
        ((w.reading id - (w.episode id).enteredAt) / nanosPerMilli) manual)) :=
  of_goes (.change w target wait manual) (.entered _ _ _ proper drawn)

theorem reset (w : World γ) (id : CircuitId) :
    Leads whole w ((w.enter id .closed .zero true).log id (.reset (w.episode id).state)) :=
  of_goes (.reset w .zero) (.entered _ _ _ (.inl rfl) nofun)

/-- An outcome, with what follows until its report returns, or is given up. -/
theorem recorded {id : CircuitId} {o : Outcome}
    (observed : w₁ = w.setEpisode id ((w.episode id).observe (w.reading id) o))
    (h : Leads whole w₁ w')
    (settled : whole → id < w.circuits.size →
      Episode.Settled (w.circuit id).settings (w.reading id) (w₁.episode id) (w'.episode id) ∨
        ∃ cause, (w.circuit id).settings.WaitFails cause) :
    Leads whole w w' := by
  subst observed
  refine ⟨(Move.mark w id (.recorded o) rfl).reaches.trans h.reaches, fun other there => ?_⟩
  obtain ⟨size, settings, entries, eq, evolves⟩ := h.story other (by rwa [setEpisode, size_setCircuit])
  rw [setEpisode, size_setCircuit] at size
  by_cases same : id = other
  · subst same
    rw [episode_setEpisode_self w _ there] at settled evolves
    rw [circuit_setEpisode_self w _ there] at settings evolves
    refine ⟨size, settings, entries, eq, .recorded _ _ o evolves ?_⟩
    rintro ⟨holds, waits⟩
    obtain done | ⟨cause, fails⟩ := settled holds there
    · exact done
    · exact absurd fails (waits cause)
  · rw [circuit_setEpisode_of_ne w _ same] at settings evolves
    rw [episode, circuit_setEpisode_of_ne w _ same] at evolves
    exact ⟨size, settings, entries, eq, evolves⟩

end Leads

end Breaker.World

import Breaker.Proofs.World.Trace

/-!
# Passage — what a trace means for one circuit

`Episode.Passage` is a trace as one circuit sees it: the marks that its episode took, in order, among
happenings elsewhere.  An outcome keeps together what comes before its report returns, and a report that
returned has done what the outcome asked for; a report that was given up has done anything.

Each trace is such a passage for each circuit (`Trace.passes`).  If every report of an outcome at the
circuit has returned, then its episode evolved as if all reports were carried out as a whole, whatever
else was given up (`Passage.evolves`).
-/

namespace Breaker

variable {γ : Type}

namespace Happening

/-- Whether something happened at a circuit, and is not just told of. -/
def isAt (id : CircuitId) : Happening → Bool
  | .wrote _ => false
  | .marked circuit _ | .returned circuit => circuit = id

/-! ### What is done with the permissions of a circuit -/

section Dealings

variable (id : CircuitId) (hs : List Happening)

theorem dealings_of_elsewhere {id : CircuitId} {h : Happening} (other : h.isAt id = false) :
    dealings id [h] = [] := by
  cases h with
  | wrote => rfl
  | marked circuit m | returned circuit =>
    rw [dealings_cons, dealing?, if_neg (of_decide_eq_false other)]
    rfl

theorem dealings_marked (m : Mark) : dealings id [.marked id m] = m.dealing?.toList := by
  rw [dealings_cons, dealing?, if_pos rfl, dealings_nil, List.append_nil]

theorem dealings_recorded (o : Outcome) :
    dealings id (.marked id (.recorded o) :: hs) = .recorded :: dealings id hs := by
  rw [dealings_cons, dealing?, if_pos rfl]
  rfl

theorem dealings_reported (o : Outcome) :
    dealings id (.marked id (.recorded o) :: (hs ++ [.returned id]))
      = .recorded :: (dealings id hs ++ [.returned]) := by
  rw [dealings_recorded, dealings_append, dealings_cons, dealing?, if_pos rfl]
  rfl

end Dealings

end Happening

namespace Episode

/-- What a circuit's episode goes through. -/
inductive Passage (s : Settings) (id : CircuitId) : Episode → List Happening → Episode → Prop where
  | refl (e : Episode) : Passage s id e [] e
  | trans {e₁ e₂ e₃ : Episode} {hs hs' : List Happening} (h : Passage s id e₁ hs e₂)
      (h' : Passage s id e₂ hs' e₃) : Passage s id e₁ (hs ++ hs') e₃
  | elsewhere (e : Episode) {h : Happening} (other : h.isAt id = false) : Passage s id e [h] e
  | marked (e : Episode) (now : Nat) {m : Mark} (takes : m = .told ∨ e.Takes now m) :
      Passage s id e [.marked id m] (e.after s now m)
  | entered (e : Episode) (now : Nat) {target : State} {wait : Duration} {manual : Bool}
      (timer : Option Nat) (proper : Turn.IsProper ⟨⟨e.state, target⟩, manual⟩)
      (drawn : target = .opened →
        s.Draws (attemptsOnEntry e.state e.attempts target manual) wait)
      (complete : target = .closed → manual = false → e.IsComplete) :
      Passage s id e [.marked id (.entered target wait manual timer)]
        (e.after s now (.entered target wait manual timer))
  | reported (e : Episode) (now : Nat) (o : Outcome) {hs : List Happening} {e' : Episode}
      (h : Passage s id (e.observe now o) hs e') (settled : Settled s now (e.observe now o) e') :
      Passage s id e (.marked id (.recorded o) :: (hs ++ [.returned id])) e'
  | abandoned (e : Episode) (now : Nat) (o : Outcome) {hs : List Happening} {e' : Episode}
      (h : Passage s id (e.observe now o) hs e') :
      Passage s id e (.marked id (.recorded o) :: hs) e'

namespace Passage

variable {s : Settings} {id : CircuitId} {e e' : Episode} {hs : List Happening}

theorem stays_of_takes {now : Nat} {m : Mark} (takes : m = .told ∨ e.Takes now m) :
    m.stays = true ∧ m.outcome? = none := by
  obtain rfl | takes := takes
  · exact ⟨rfl, rfl⟩
  · exact takes.stays

/-- A mark that records nothing is not the return of a report either. -/
theorem count_dealings_marked {m : Mark} (unrecorded : m.outcome? = none) (id : CircuitId) :
    (Happening.dealings id [.marked id m]).count .returned = 0 ∧
      (Happening.dealings id [.marked id m]).count .recorded = 0 := by
  rw [Happening.dealings_marked]
  cases m with
  | recorded => cases unrecorded
  | granted | refused | released | told | settled => decide
  | entered => exact ⟨rfl, rfl⟩

/-- No more reports return than were made. -/
theorem returned_le (h : Passage s id e hs e') :
    (Happening.dealings id hs).count .returned ≤ (Happening.dealings id hs).count .recorded := by
  induction h with
  | refl => exact le_rfl
  | trans _ _ ih ih' =>
    rw [Happening.dealings_append, List.count_append, List.count_append]
    exact Nat.add_le_add ih ih'
  | elsewhere e other =>
    rw [Happening.dealings_of_elsewhere other]
    exact le_rfl
  | marked e now takes =>
    obtain ⟨none, -⟩ := count_dealings_marked (stays_of_takes takes).2 id
    omega
  | @entered e now target wait manual timer =>
    obtain ⟨none, -⟩ := count_dealings_marked (m := .entered target wait manual timer) rfl id
    omega
  | reported e now o _ _ ih =>
    rw [Happening.dealings_reported]
    simpa using ih
  | abandoned e now o _ ih =>
    rw [Happening.dealings_recorded]
    simp only [List.count_cons, beq_self_eq_true, if_true, beq_iff_eq, reduceCtorEq, if_false]
    omega

/-- **A passage evolves**, as a whole if all reports of outcomes returned. -/
theorem evolves (h : Passage s id e hs e') : ∃ turns, Evolves s
    ((Happening.dealings id hs).count .returned = (Happening.dealings id hs).count .recorded)
    e turns e' := by
  induction h with
  | refl e => exact ⟨_, .refl e⟩
  | @trans e₁ e₂ e₃ hs hs' h h' ih ih' =>
    obtain ⟨turns, first⟩ := ih
    obtain ⟨turns', second⟩ := ih'
    have few := h.returned_le
    have few' := h'.returned_le
    refine ⟨_, .trans (first.mono fun all => ?_) (second.mono fun all => ?_)⟩
    all_goals
      rw [Happening.dealings_append, List.count_append, List.count_append] at all
      omega
  | elsewhere e => exact ⟨_, .refl e⟩
  | marked e now takes =>
    obtain ⟨stays, unrecorded⟩ := stays_of_takes takes
    exact ⟨_, .mark e now stays unrecorded⟩
  | entered e now timer proper drawn => exact ⟨_, .entered e now timer proper drawn⟩
  | reported e now o _ settled ih =>
    obtain ⟨turns, rest⟩ := ih
    refine ⟨turns, .recorded e now o (rest.mono fun all => ?_) fun _ => settled⟩
    rw [Happening.dealings_reported] at all
    simpa using all
  | @abandoned e now o hs _ h ih =>
    obtain ⟨turns, rest⟩ := ih
    have few := h.returned_le
    -- a report is missing
    have missing : ¬(Happening.dealings id (.marked id (.recorded o) :: hs)).count .returned
        = (Happening.dealings id (.marked id (.recorded o) :: hs)).count .recorded := by
      rw [Happening.dealings_recorded]
      simp only [List.count_cons, beq_self_eq_true, if_true, beq_iff_eq, reduceCtorEq, if_false]
      omega
    exact ⟨turns, .recorded e now o (rest.mono fun all => absurd all missing) fun all =>
      absurd all missing⟩

/-- What comes before something in two lists put together ends in the first or in the second. -/
private theorem concat_prefix_append {α : Type} {before first second : List α} {d : α}
    (upTo : before ++ [d] <+: first ++ second) :
    before ++ [d] <+: first ∨ ∃ more, before = first ++ more ∧ more ++ [d] <+: second := by
  obtain early | ⟨more, eq, late⟩ := prefix_append_cases upTo
  · exact .inl early
  · obtain rfl | ⟨more, last, rfl⟩ := more.eq_nil_or_concat
    · exact .inl (by rw [eq, List.append_nil])
    · rw [List.concat_eq_append, ← List.append_assoc] at eq
      obtain ⟨rfl, same⟩ := List.append_inj' eq rfl
      cases same
      exact .inr ⟨more, rfl, by rwa [List.concat_eq_append] at late⟩

/-- What comes before something in a list that begins with something else. -/
private theorem concat_prefix_cons {α : Type} {before ds : List α} {d first : α}
    (upTo : before ++ [d] <+: first :: ds) (ne : d ≠ first) :
    ∃ rest, before = first :: rest ∧ rest ++ [d] <+: ds := by
  cases before with
  | nil => exact absurd (List.cons_prefix_cons.mp upTo).1 ne
  | cons other rest =>
    obtain ⟨rfl, later⟩ := List.cons_prefix_cons.mp upTo
    exact ⟨rest, rfl, later⟩

/-- **Before a state is entered**, the circuit went through what came before, and was ready for it. -/
theorem upTo_entered (h : Passage s id e hs e') {target : State} {manual : Bool}
    {before : List Dealing} (upTo : before ++ [.entered target manual] <+: Happening.dealings id hs) :
    ∃ hs₁ e₁, Passage s id e hs₁ e₁ ∧ Happening.dealings id hs₁ = before ∧
      Turn.IsProper ⟨⟨e₁.state, target⟩, manual⟩ ∧
      (target = .closed → manual = false → e₁.IsComplete) := by
  induction h generalizing before with
  | refl => simp at upTo
  | @trans _ _ _ hs _ h _ ih ih' =>
    rw [Happening.dealings_append] at upTo
    obtain early | ⟨more, rfl, late⟩ := concat_prefix_append upTo
    · exact ih early
    · obtain ⟨hs₁, e₁, rest, rfl, ready⟩ := ih' late
      exact ⟨hs ++ hs₁, e₁, h.trans rest, Happening.dealings_append .., ready⟩
  | elsewhere e other =>
    rw [Happening.dealings_of_elsewhere other] at upTo
    simp at upTo
  | @marked e now m takes =>
    rw [Happening.dealings_marked] at upTo
    cases m with
    | granted | released =>
      obtain ⟨rest, -, later⟩ := concat_prefix_cons upTo (by simp)
      simp at later
    | refused | told | settled => simp [Mark.dealing?] at upTo
    | recorded => cases (stays_of_takes takes).2
    | entered => cases (stays_of_takes takes).1
  | entered e now timer proper drawn complete =>
    rw [Happening.dealings_marked] at upTo
    cases before with
    | nil =>
      obtain ⟨eq, -⟩ := List.cons_prefix_cons.mp upTo
      cases eq
      exact ⟨[], e, .refl e, rfl, proper, complete⟩
    | cons other rest => simp [Mark.dealing?] at upTo
  | reported e now o _ _ ih =>
    rw [Happening.dealings_reported] at upTo
    obtain ⟨rest, rfl, later⟩ := concat_prefix_cons upTo (by simp)
    obtain early | ⟨more, rfl, late⟩ := concat_prefix_append later
    · obtain ⟨hs₁, e₁, passage, rfl, ready⟩ := ih early
      exact ⟨_, e₁, .abandoned e now o passage, Happening.dealings_recorded .., ready⟩
    · obtain ⟨rest, -, last⟩ := concat_prefix_cons late (by simp)
      simp at last
  | abandoned e now o _ ih =>
    rw [Happening.dealings_recorded] at upTo
    obtain ⟨rest, rfl, later⟩ := concat_prefix_cons upTo (by simp)
    obtain ⟨hs₁, e₁, passage, rfl, ready⟩ := ih later
    exact ⟨_, e₁, .abandoned e now o passage, Happening.dealings_recorded .., ready⟩

end Passage

end Episode

namespace World

/-- What happens to one circuit from one world to another. -/
structure Passes (id : CircuitId) (w : World γ) (hs : List Happening) (w' : World γ) : Prop where
  there : id < w'.circuits.size
  settings : (w'.circuit id).settings = (w.circuit id).settings
  passage : (w.episode id).Passage (w.circuit id).settings id hs (w'.episode id)

namespace Passes

variable {id : CircuitId} {w w' w₁ w₂ w₃ : World γ} {hs hs' : List Happening}

theorem trans (h : Passes id w₁ hs w₂) (h' : Passes id w₂ hs' w₃) :
    Passes id w₁ (hs ++ hs') w₃ := by
  refine ⟨h'.there, h'.settings.trans h.settings, h.passage.trans ?_⟩
  rw [← h.settings]
  exact h'.passage

/-- A circuit that is as it was, apart from its roster. -/
theorem still (there : id < w'.circuits.size)
    (settings : (w'.circuit id).settings = (w.circuit id).settings)
    (episode : w'.episode id = w.episode id) : Passes id w [] w' :=
  ⟨there, settings, by rw [episode]; exact .refl _⟩

theorem refl (there : id < w.circuits.size) : Passes id w [] w := still there rfl rfl

/-- Something that happens elsewhere. -/
theorem elsewhere {h : Happening} (other : h.isAt id = false) (there : id < w'.circuits.size)
    (settings : (w'.circuit id).settings = (w.circuit id).settings)
    (episode : w'.episode id = w.episode id) : Passes id w [h] w' :=
  ⟨there, settings, by rw [episode]; exact .elsewhere _ other⟩

theorem written (there : id < w.circuits.size) (entry entry' : Entry) :
    Passes id w [.wrote entry] (w.write entry') := elsewhere rfl there rfl rfl

/-- An episode of another circuit. -/
theorem mark_of_ne (there : id < w.circuits.size) {other : CircuitId} (ne : other ≠ id) (e : Episode)
    (m : Mark) : Passes id w [.marked other m] (w.setEpisode other e) :=
  elsewhere (decide_eq_false ne) (by rwa [setEpisode, size_setCircuit])
    (by rw [circuit_setEpisode_of_ne w e ne])
    (by rw [episode, circuit_setEpisode_of_ne w e ne]; rfl)

/-- A mark at any circuit. -/
theorem mark (there : id < w.circuits.size) (other : CircuitId) {m : Mark}
    (takes : m = .told ∨ (w.episode other).Takes (w.reading other) m) :
    Passes id w [.marked other m] (w.setEpisode other
      ((w.episode other).after (w.circuit other).settings (w.reading other) m)) := by
  by_cases same : other = id
  · subst same
    refine ⟨by rwa [setEpisode, size_setCircuit], by rw [circuit_setEpisode_self w _ there], ?_⟩
    rw [episode_setEpisode_self w _ there]
    exact .marked _ _ takes
  · exact mark_of_ne there same _ _

/-- A state that is entered at any circuit. -/
theorem entered (there : id < w.circuits.size) (other : CircuitId) {target : State}
    {wait : Duration} {manual : Bool}
    (proper : Turn.IsProper ⟨⟨(w.episode other).state, target⟩, manual⟩)
    (drawn : target = .opened → (w.circuit other).settings.Draws
      (Episode.attemptsOnEntry (w.episode other).state (w.episode other).attempts target manual) wait)
    (complete : target = .closed → manual = false → (w.episode other).IsComplete) :
    Passes id w [.marked other (w.entering other target wait manual)]
      (w.enter other target wait manual) := by
  have there' : id < (w.enter other target wait manual).circuits.size := by rwa [size_enter]
  by_cases same : other = id
  · subst same
    refine ⟨there', by rw [circuit_enter_self w _ _ _ there], ?_⟩
    rw [episode_enter_self there]
    exact .entered _ _ _ proper drawn complete
  · exact elsewhere (decide_eq_false same) there' (by rw [circuit_enter_of_ne w _ _ _ same])
      (episode_enter_of_ne same)

/-- A report of an outcome at any circuit that returned. -/
theorem reported (there : id < w.circuits.size) (other : CircuitId) (o : Outcome)
    (h : Passes id (w.setEpisode other ((w.episode other).observe (w.reading other) o)) hs w')
    (settled : other < w.circuits.size → Episode.Settled (w.circuit other).settings (w.reading other)
      ((w.episode other).observe (w.reading other) o) (w'.episode other)) :
    Passes id w (.marked other (.recorded o) :: (hs ++ [.returned other])) w' := by
  by_cases same : other = id
  · subst same
    refine ⟨h.there, ?_, ?_⟩
    · rw [h.settings, circuit_setEpisode_self w _ there]
    · have passage := h.passage
      rw [circuit_setEpisode_self w _ there, episode_setEpisode_self w _ there] at passage
      exact .reported _ _ o passage (settled there)
  · have returned : Passes id w' [.returned other] w' :=
      elsewhere (decide_eq_false same) h.there rfl rfl
    exact (mark_of_ne there same _ (.recorded o)).trans (h.trans returned)

/-- A report of an outcome at any circuit that was given up. -/
theorem abandoned (there : id < w.circuits.size) (other : CircuitId) (o : Outcome)
    (h : Passes id (w.setEpisode other ((w.episode other).observe (w.reading other) o)) hs w') :
    Passes id w (.marked other (.recorded o) :: hs) w' := by
  by_cases same : other = id
  · subst same
    refine ⟨h.there, ?_, ?_⟩
    · rw [h.settings, circuit_setEpisode_self w _ there]
    · have passage := h.passage
      rw [circuit_setEpisode_self w _ there, episode_setEpisode_self w _ there] at passage
      exact .abandoned _ _ o passage
  · exact (mark_of_ne there same _ (.recorded o)).trans h

end Passes

end World

/-- **A trace is a passage** for each circuit. -/
theorem Audience.Trace.passes {a : Audience γ} {whole : Prop} {stage : Stage} {w w' : World γ}
    {hs : List Happening} {id : CircuitId} (h : a.Trace whole stage w hs w')
    (there : id < w.circuits.size) : w.Passes id hs w' := by
  have observed (w : World γ) (other : CircuitId) (e : Episode) (there : id < w.circuits.size) :
      id < (w.setEpisode other e).circuits.size := by rwa [World.setEpisode, World.size_setCircuit]
  induction h with
  | refl | said | allTold | unheard => exact .refl there
  | trans _ _ ih ih' | heard _ _ ih ih' => exact (ih there).trans (ih' (ih there).there)
  | @beside w w' _ circuits =>
    have circuit : w'.circuit id = w.circuit id := by rw [World.circuit, circuits]; rfl
    exact .still (by rwa [circuits]) (by rw [circuit]) (by rw [World.episode, circuit]; rfl)
  | arranged h =>
    have listens := a.listens h
    obtain ⟨roster, circuit⟩ := listens.circuit id
    exact .still (by rwa [listens.size]) (by rw [circuit]) (listens.episode id)
  | wrote => exact .written there _ _
  | settled w other => exact .mark there other (m := .settled) (.inr trivial)
  | @refused w w₁ _ other _ _ _ _ ih ih' =>
    have asked := (World.Passes.written there (.dealt other .asking) _).trans (ih there)
    have refused : w₁.Passes id [.marked other .refused] _ := .mark asked.there other (.inr trivial)
    exact asked.trans (refused.trans (ih' refused.there))
  | @dealt w other m deal _ takes =>
    have marked := World.Passes.mark (w := w.write (.dealt other deal)) there other (.inr takes)
    exact (World.Passes.written there _ _).trans marked
  | @told w _ _ other _ _ _ _ _ _ _ ih ih' =>
    have rest := ih (observed w other _ there)
    exact (World.Passes.mark (m := .told) there other (.inl rfl)).trans
      (rest.trans (ih' rest.there))
  | @reported w _ other d r o hs _ _ settled ih =>
    have reported := World.Passes.reported (w := w.write (.dealt other (.reporting d r))) there other o
      (ih (observed _ other _ there)) settled
    have noted := (World.Passes.written there (.dealt other (.reporting d r)) _).trans
      (reported.trans (.written reported.there (.dealt other (.reported d r)) (.dealt other (.reported d r))))
    simpa using noted
  | @abandoned w _ other d r o _ _ _ _ ih =>
    have abandoned := World.Passes.abandoned (w := w.write (.dealt other (.reporting d r))) there other o
      (ih (observed _ other _ there))
    exact (World.Passes.written there _ _).trans abandoned
  | changed w other proper drawn complete _ _ ih =>
    have entered := World.Passes.entered there other proper drawn complete
    exact entered.trans ((World.Passes.written entered.there _ _).trans (ih entered.there))
  | reset w other _ ih =>
    have entered : w.Passes id [.marked other (w.entering other .closed .zero true)]
        (w.enter other .closed .zero true) := by
      refine .entered there other (.inl rfl) (fun opens => ?_) fun _ auto => ?_
      · cases opens
      · cases auto
    exact entered.trans ((World.Passes.written entered.there _ _).trans (ih entered.there))
  | called _ _ ih | unsaid _ _ ih | mute _ _ ih => exact ih there
  | published _ _ ih ih' =>
    have rest := ih there
    exact (World.Passes.written there _ _).trans (rest.trans (ih' rest.there))
  | greeted _ _ ih => exact (World.Passes.written there _ _).trans (ih there)

end Breaker

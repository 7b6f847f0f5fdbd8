import Breaker.Proofs.World.Twins

/-!
# Accord — worlds that differ only in who listens

The core of a world is all of it but those who listen: nobody is subscribed there, and the journal holds
none of the notes that they leave.  What is done with a world by itself is done with its core
(`World.core_change` and the others), and publishing an event writes it there, if those who are told of
it do not call back (`World.Tells.core`).

Two worlds are in accord if they have one core and nobody is subscribed in the second (`World.Accords`).
Two acts are if they lead from worlds in accord to worlds in accord, with one answer or one cause for giving
up.  One thing may tell them apart: an error whose text cannot be formed, which only those who listen need
(`Alike.unshown`).
-/

namespace Breaker

variable {γ γ' α β : Type}

/-- A circuit that nobody is subscribed to. -/
def Circuit.core (c : Circuit) : Circuit := { c with roster := .empty }

namespace World

/-- A world without those who listen. -/
def core (w : World γ) : World Unit where
  clock := w.clock
  elapsed := w.elapsed
  timers := w.timers
  threads := w.threads
  circuits := w.circuits.map Circuit.core
  handles := w.handles
  journal := w.journal.filter fun entry => !entry.isNote
  dice := w.dice
  guest := ()

section Core

variable (w : World γ) (id : CircuitId)

/-! ### What is read of a world -/

theorem core_circuit : w.core.circuit id = (w.circuit id).core := by
  rw [circuit, circuit, Array.getD_eq_getD_getElem?, Array.getD_eq_getD_getElem?, core,
    Array.getElem?_map]
  cases w.circuits[id]? with
  | none | some => rfl

theorem core_episode : w.core.episode id = w.episode id := by
  rw [episode, core_circuit]
  rfl

/-- A circuit of the core has nobody who is subscribed. -/
theorem roster_core : (w.core.circuit id).roster = .empty := by
  rw [core_circuit]
  rfl

theorem core_timeAt (source : TimeSource) : w.core.timeAt source = w.timeAt source := by
  cases source with
  | shared | own => rfl

theorem core_reading : w.core.reading id = w.reading id := by
  rw [reading, core_circuit, core_timeAt]
  rfl

/-- The core is its own. -/
theorem core_core : w.core.core = w.core := by
  simp [core, Circuit.core, Array.map_map, Function.comp_def]

/-! ### What is done with a world -/

theorem core_setCircuit (c : Circuit) : (w.setCircuit id c).core = w.core.setCircuit id c.core := by
  simp [core, setCircuit, Array.map_setIfInBounds]

theorem core_setEpisode (e : Episode) : (w.setEpisode id e).core = w.core.setEpisode id e := by
  rw [setEpisode, core_setCircuit, setEpisode, core_circuit]
  rfl

theorem core_modifyEpisode (f : Episode → Episode) :
    (w.modifyEpisode id f).core = w.core.modifyEpisode id f := by
  rw [modifyEpisode_eq, modifyEpisode_eq, core_setEpisode, core_episode]

/-- A circuit that is put in its own place, with other subscriptions. -/
theorem core_setCircuit_roster (roster : Roster ConsumerId) :
    (w.setCircuit id { w.circuit id with roster := roster }).core = w.core := by
  have same : ({ w.circuit id with roster := roster } : Circuit).core
      = { w.core.circuit id with episode := w.core.episode id } := by
    rw [episode, core_circuit]
    rfl
  rw [core_setCircuit, same]
  exact setEpisode_self w.core id

theorem core_disarm (e : Episode) : (w.disarm id e).core = w.core.disarm id e := by
  rw [disarm, disarm, core_circuit]
  rw [show ((w.circuit id).core).timerSource = (w.circuit id).timerSource from rfl]
  cases (w.circuit id).timerSource with
  | none => rfl
  | some source =>
    cases e.timer with
    | none => cases source with | shared | threads => rfl
    | some handle => cases source with | shared | threads => rfl

theorem core_arm (now : Nat) : (w.arm id now).core = w.core.arm id now := by
  rw [arm, arm, core_circuit]
  dsimp only [Circuit.core]
  cases (w.circuit id).timerSource with
  | none => rfl
  | some source =>
    cases (w.circuit id).episode.timeout? (w.circuit id).settings with
    | none => rfl
    | some timeout =>
      obtain ⟨due, target⟩ := timeout
      cases source with
      | shared | threads => exact core_setEpisode ..

theorem core_succeed (phase : Phase) (attempts now : Nat) (manual : Bool) :
    (w.succeed id phase attempts now manual).core
      = w.core.succeed id phase attempts now manual := by
  rw [succeed, succeed, core_disarm, core_setEpisode, core_circuit]
  rfl

/-- An entry that is no note stays. -/
theorem core_write {entry : Entry} (kept : entry.isNote = false) :
    (w.write entry).core = w.core.write entry := by
  simp [core, write, kept]

theorem core_write_note {entry : Entry} (note : entry.isNote = true) :
    (w.write entry).core = w.core := by
  simp [core, write, note]

theorem core_log {record : LogRecord} (kept : ∀ name, (Entry.log id name record).isNote = false) :
    (w.log id record).core = w.core.log id record := by
  rw [log, core_write w (kept _), log, core_circuit]
  rfl

theorem core_change (phase : Phase) (attempts now : Nat) (manual : Bool) :
    (w.change id phase attempts now manual).core
      = w.core.change id phase attempts now manual := by
  rw [change, core_log _ _ fun _ => rfl, core_arm, core_succeed, change, core_episode]

theorem core_addCircuit (c : Circuit) : (w.addCircuit c).core = w.core.addCircuit c.core := by
  simp [core, addCircuit]

theorem core_remarks (remarks : Array Remark) :
    (remarks.foldl (fun w r => w.write (.note (.remark r))) w).core = w.core := by
  rw [← Array.foldl_toList]
  induction remarks.toList generalizing w with
  | nil => rfl
  | cons r rest ih => exact (ih _).trans (core_write_note w rfl)

end Core

section Rosters

variable (w : World γ) (id other : CircuitId)

/-! ### Who is subscribed -/

theorem roster_congr {w v : World γ} (h : v.circuits = w.circuits) :
    (v.circuit other).roster = (w.circuit other).roster := by
  rw [circuit, h]
  rfl

theorem roster_modifyEpisode (f : Episode → Episode) :
    ((w.modifyEpisode id f).circuit other).roster = (w.circuit other).roster := by
  rw [modifyEpisode_eq]
  exact w.roster_setEpisode id other _

theorem roster_succeed (phase : Phase) (attempts now : Nat) (manual : Bool) :
    ((w.succeed id phase attempts now manual).circuit other).roster = (w.circuit other).roster := by
  rw [succeed, circuit_disarm]
  exact w.roster_setEpisode id other _

theorem roster_arm (now : Nat) :
    ((w.arm id now).circuit other).roster = (w.circuit other).roster := by
  rcases armed : w.alarmFor id (w.episode id) with _ | ⟨_ | _, a⟩
  · rw [arm_of_none now armed]
  · obtain ⟨delay, eq⟩ := arm_of_shared now armed
    rw [eq]
    exact roster_setEpisode _ id other _
  · obtain ⟨delay, due, eq⟩ := arm_of_threads now armed
    rw [eq]
    exact roster_setEpisode _ id other _

theorem roster_change (phase : Phase) (attempts now : Nat) (manual : Bool) :
    ((w.change id phase attempts now manual).circuit other).roster = (w.circuit other).roster :=
  (roster_arm _ id other now).trans (w.roster_succeed id other phase attempts now manual)

theorem roster_addCircuit {c : Circuit} (nobody : c.roster = .empty)
    (nobody' : (w.circuit other).roster = .empty) :
    ((w.addCircuit c).circuit other).roster = .empty := by
  by_cases new : other = w.circuits.size
  · rw [new, circuit_addCircuit_self, nobody]
  · rw [circuit_addCircuit_of_ne w c new, nobody']

end Rosters

/-- **Publishing** some events writes them, whoever is told of them. -/
theorem Tells.core_eq {id : CircuitId} {events : List Event} {w v : World γ} (h : Tells id events w v) :
    v.core = { w.core with
      journal := w.core.journal ++ (events.map (Entry.published id)).toArray } := by
  obtain ⟨guest, entries, told, rfl⟩ := h
  simp [core, told]

/-- A world, and one that differs from it only in that nobody is subscribed. -/
structure Accords (w : World γ) (w' : World γ') : Prop where
  core : w'.core = w.core
  nobody : ∀ id, (w'.circuit id).roster = .empty

/-- A world is in accord with its core. -/
theorem accords_core (w : World γ) : Accords w w.core := ⟨w.core_core, w.roster_core⟩

namespace Accords

variable {w v : World γ} {w' v' : World γ'}

/-- What is done with both cores alike is done with both worlds, if nobody subscribes meanwhile. -/
theorem of_core (h : Accords w w') (f : World Unit → World Unit) (eq : v.core = f w.core)
    (eq' : v'.core = f w'.core)
    (same : ∀ id, (v'.circuit id).roster = (w'.circuit id).roster) : Accords v v' where
  core := by rw [eq, eq', h.core]
  nobody id := (same id).trans (h.nobody id)

/-- In the first world only those who listen come and go. -/
theorem of_core_eq (h : Accords w w') (same : v.core = w.core) : Accords v w' :=
  ⟨h.core.trans same.symm, h.nobody⟩

/-- What is read of both cores alike is read of both worlds. -/
theorem read (h : Accords w w') {x : α} {x' : α} (f : World Unit → α) (eq : f w.core = x)
    (eq' : f w'.core = x') : x' = x := by
  rw [← eq, ← eq', h.core]

theorem episode (h : Accords w w') (id : CircuitId) : w'.episode id = w.episode id :=
  h.read (·.episode id) (core_episode w id) (core_episode w' id)

theorem reading (h : Accords w w') (id : CircuitId) : w'.reading id = w.reading id :=
  h.read (·.reading id) (core_reading w id) (core_reading w' id)

theorem circuit (h : Accords w w') (id : CircuitId) :
    (w'.circuit id).core = (w.circuit id).core :=
  h.read (·.circuit id) (core_circuit w id) (core_circuit w' id)

theorem settings (h : Accords w w') (id : CircuitId) :
    (w'.circuit id).settings = (w.circuit id).settings := by
  show (w'.circuit id).core.settings = (w.circuit id).core.settings
  rw [h.circuit]

theorem name (h : Accords w w') (id : CircuitId) : (w'.circuit id).name = (w.circuit id).name := by
  show (w'.circuit id).core.name = (w.circuit id).core.name
  rw [h.circuit]

theorem size (h : Accords w w') : w'.circuits.size = w.circuits.size :=
  h.read (·.circuits.size) (Array.size_map ..) (Array.size_map ..)

theorem timers (h : Accords w w') : w'.timers = w.timers := h.read World.timers rfl rfl

theorem threads (h : Accords w w') : w'.threads = w.threads := h.read World.threads rfl rfl

theorem elapsed (h : Accords w w') : w'.elapsed = w.elapsed := h.read World.elapsed rfl rfl

theorem handles (h : Accords w w') : w'.handles = w.handles := h.read World.handles rfl rfl

theorem dice (h : Accords w w') : w'.dice = w.dice := h.read World.dice rfl rfl

theorem told (h : Accords w w') {id : CircuitId} {events : List Event} (t : Tells id events w v)
    (t' : Tells id events w' v') : Accords v v' :=
  h.of_core (fun u => { u with
    journal := u.journal ++ (events.map (Entry.published id)).toArray }) t.core_eq t'.core_eq fun id => by
      rw [t'.aside.circuit]

end Accords

end World

open World (Accords)

/-- What comes of two acts in worlds in accord: one answer, or one cause for giving up, in worlds in accord
again.  Where texts of errors may not be formed (`faulty`), the first may be given up for one. -/
inductive Alike (faulty : Prop) :
    EStateM.Result Abort (World γ) α → EStateM.Result Abort (World γ') α → Prop where
  | answered (a : α) {v : World γ} {v' : World γ'} (h : Accords v v') :
      Alike faulty (.ok a v) (.ok a v')
  | gaveUp {cause : Abort} (other : ∀ said, cause ≠ .unshown said) {v : World γ} {v' : World γ'}
      (h : Accords v v') : Alike faulty (.error cause v) (.error cause v')
  | unshown (h : faulty) (said : String) (v : World γ) (r : EStateM.Result Abort (World γ') α) :
      Alike faulty (.error (.unshown said) v) r

/-- Two acts that lead worlds in accord to worlds in accord, with one answer. -/
def Accord (faulty : Prop) (x : Act γ α) (x' : Act γ' α) : Prop :=
  ∀ w w', Accords w w' → Alike faulty (x w) (x' w')

/-- Acts that never give up are alike if they answer the same. -/
theorem Alike.of_both {faulty : Prop} {x : Act γ α} {x' : Act γ' α} {w : World γ} {w' : World γ'}
    (h : Both x x' w w' (fun _ v v' => Accords v v') fun _ _ => False) :
    Alike faulty (x w) (x' w') := by
  obtain ⟨a, v, v', run, run', led⟩ := h.exists_ok
  rw [run, run']
  exact .answered a led

namespace Accord

variable {faulty : Prop} {x : Act γ α} {x' : Act γ' α}

theorem pure (a : α) : Accord faulty (pure a : Act γ α) (pure a : Act γ' α) :=
  fun _ _ accords => .answered a accords

/-- The first act is given up for the text of an error. -/
theorem throw_left (fault : faulty) (said : String) :
    Accord faulty (throw (.unshown said) : Act γ α) x' := fun w _ _ => .unshown fault said w _

theorem throw {cause : Abort} (other : ∀ said, cause ≠ .unshown said) :
    Accord faulty (throw cause : Act γ α) (throw cause : Act γ' α) :=
  fun _ _ accords => .gaveUp other accords

theorem bind (h : Accord faulty x x') {f : α → Act γ β} {f' : α → Act γ' β}
    (h' : ∀ a, Accord faulty (f a) (f' a)) : Accord faulty (x >>= f) (x' >>= f') := by
  intro w w' accords
  have first := h w w' accords
  simp only [Bind.bind, EStateM.bind]
  generalize x w = r, x' w' = r' at first ⊢
  cases first with
  | answered a led => exact h' a _ _ led
  | gaveUp other led => exact .gaveUp other led
  | unshown fault said v r => exact .unshown fault said v _

theorem get_bind {f : World γ → Act γ α} {f' : World γ' → Act γ' α}
    (h : ∀ w w', Accords w w' → Accord faulty (f w) (f' w')) :
    Accord faulty (get >>= f) (get >>= f') :=
  fun w w' accords => h w w' accords w w' accords

theorem modify {f : World γ → World γ} {f' : World γ' → World γ'} (g : World Unit → World Unit)
    (eq : ∀ w, (f w).core = g w.core) (eq' : ∀ w, (f' w).core = g w.core)
    (same : ∀ w id, ((f' w).circuit id).roster = (w.circuit id).roster) :
    Accord faulty (modify f : Act γ PUnit) (modify f' : Act γ' PUnit) :=
  fun w w' accords => .answered _ (accords.of_core g (eq w) (eq' w') (same w'))

theorem set {v : World γ} {v' : World γ'} (h : Accords v v') :
    Accord faulty (set v : Act γ PUnit) (set v' : Act γ' PUnit) := fun _ _ _ => .answered _ h

theorem ite {c : Prop} [Decidable c] {y : Act γ α} {y' : Act γ' α} (h : Accord faulty x x')
    (h' : Accord faulty y y') : Accord faulty (if c then x else y) (if c then x' else y') := by
  split
  · exact h
  · exact h'

/-- Where all texts can be formed, the first act is not given up for one. -/
theorem yields (h : Accord False x x') (w : World γ) (w' : World γ') (accords : Accords w w') :
    Yields x w (fun _ _ => True) fun cause _ => ∀ said, cause ≠ .unshown said := by
  have alike := h w w' accords
  unfold Yields
  generalize x w = r, x' w' = r' at alike ⊢
  cases alike with
  | answered => trivial
  | gaveUp other => exact other
  | unshown fault => exact fault.elim

end Accord

end Breaker

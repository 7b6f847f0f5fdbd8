import Breaker.Proofs.Episode.Checked
import Breaker.Proofs.World.Gate
import Breaker.Proofs.World.Passage

/-!
# Checked — circuits in words that do not wrap

Wherever moves lead, the numbers of each circuit's episode are within bounds (`Reachable.fits`), because a
mark keeps them there at any reading and readings are words.  So at each moment of a trace whatever may
happen next at a circuit has a value in words, at any reading, but for one more refusal (`Episode.Steady`).
Only the refusals have no bound of their own: they are at most those that a trace counts
(`Episode.Passage.rejected_le`), which are at most the requests that were put (`Audience.Trace.refused_le`).
While they are fewer than a word counts, a refusal has a value as well (`Episode.Calculable`,
`Audience.Trace.calculable`).
-/

namespace Breaker

variable {γ : Type}

/-- Whether a circuit refused a request. -/
def Happening.isRefused (id : CircuitId) : Happening → Bool
  | .marked circuit .refused => circuit = id
  | _ => false

namespace Episode

variable {s : Settings} {now : Nat} {id : CircuitId} {e e' : Episode} {hs : List Happening}

/-- A mark counts at most one refusal, and only where it is one. -/
theorem rejected_after_le (e : Episode) (m : Mark) : (e.after s now m).rejected
    ≤ e.rejected + [Happening.marked id m].countP (Happening.isRefused id) := by
  cases m with
  | refused => simp [after, reject, Happening.isRefused]
  | granted =>
    rw [after]
    split
    case h_1 taken granted =>
      obtain rfl | ⟨permits, left, deadline, -, -, rfl⟩ := request_granted granted
      · exact Nat.le_add_right _ _
      · exact Nat.le_add_right _ _
    case h_2 => exact Nat.le_add_right _ _
  | released =>
    rw [after, release]
    split
    · exact Nat.le_add_right _ _
    · exact Nat.le_add_right _ _
  | told =>
    rw [after, noteTold]
    split
    · exact Nat.le_add_right _ _
    · exact Nat.le_add_right _ _
  | recorded | settled => exact Nat.le_add_right _ _
  | entered target wait manual timer =>
    -- a new episode counts from zero, or goes on from the one that tripped the breaker
    by_cases trip : target = .opened ∧ manual = false
    · obtain ⟨rfl, rfl⟩ := trip
      exact Nat.le_add_right _ _
    · rw [after, next_of_fresh trip]
      exact Nat.zero_le _

/-- **Refusals are counted once.** -/
theorem Passage.rejected_le (h : Passage s id e hs e') :
    e'.rejected ≤ e.rejected + hs.countP (Happening.isRefused id) := by
  induction h with
  | refl => exact Nat.le_add_right _ _
  | trans _ _ ih ih' =>
    rw [List.countP_append]
    omega
  | elsewhere => exact Nat.le_add_right _ _
  | marked | entered => exact rejected_after_le _ _
  | reported e now o _ _ ih =>
    have same : (e.observe now o).rejected = e.rejected := rfl
    rw [List.countP_cons, List.countP_append]
    omega
  | abandoned e now o _ ih =>
    have same : (e.observe now o).rejected = e.rejected := rfl
    rw [List.countP_cons]
    omega

variable (s) in
/-- Whatever may happen next but a refusal has a value in words, at any reading. -/
structure Steady (e : Episode) : Prop where
  unrefused : ∀ now ≤ wordMax, ∀ m, m ≠ .refused → e.after? s now m = some (e.after s now m)
  request : ∀ now ≤ wordMax, e.request? now = some (e.request now)
  /-- Each state has a window of some size. -/
  window : ∀ now ≤ wordMax, ∀ state, window? s state now = some (freshWindow s state now)
  /-- A window of seconds never counts epochs below its size. -/
  head : ∀ b, e.window = .seconds b → b.size ≤ b.head
  /-- The metrics can be read. -/
  shown : ∀ now, (e.settle now).window.totals.Checked

variable (s) in
/-- Whatever may happen next has a value in words, at any reading. -/
structure Calculable (e : Episode) : Prop extends Steady s e where
  after : ∀ now ≤ wordMax, ∀ m, e.after? s now m = some (e.after s now m)

theorem Fits.steady (fits : Fits s e) (bounded : s.Bounded) : Steady s e where
  unrefused := fun _ reading m other => fits.after?_eq bounded reading m fun refused =>
    absurd refused other
  request := fun now _ => request?_eq e now
  window := fun _ reading state => window?_eq bounded reading state
  head := fun b window => by
    have seconds := fits.window
    rw [window] at seconds
    exact seconds.size_le_head
  shown := fun now => (e.settle now).window.checked_totals

theorem Fits.calculable (fits : Fits s e) (bounded : s.Bounded) (counted : e.rejected < wordMax) :
    Calculable s e :=
  ⟨fits.steady bounded, fun _ reading m => fits.after?_eq bounded reading m fun _ => counted⟩

end Episode

namespace World

variable {w : World γ}

/-- **The numbers of circuits are within bounds**, wherever moves lead. -/
theorem Reachable.fits (h : Reachable w) (id : CircuitId)
    (bounded : (w.circuit id).settings.Bounded) : (w.episode id).Fits (w.circuit id).settings :=
  h.holds (P := fun s e => s.Bounded → e.Fits s)
    (fun _ _ _ m reading fits bounded => (fits bounded).after bounded reading m)
    (fun _ _ reading _ bounded => .begin bounded reading 0 0 .closed .zero) id bounded

end World

/-- Whether an entry notes that a request is about to be put to a circuit. -/
def Entry.isRequest (id : CircuitId) : Entry → Bool
  | .dealt circuit .asking => circuit = id
  | _ => false

/-- The number of requests that were put to a circuit, by some entries. -/
def Journal.requests (id : CircuitId) (entries : List Entry) : Nat := entries.countP (Entry.isRequest id)

namespace Audience.Trace

variable {a : Audience γ} {whole : Prop} {stage : Stage} {w u : World γ} {hs : List Happening}

/-- **A request is refused at most once.** -/
theorem refused_le (h : a.Trace whole stage w hs u) (id : CircuitId) :
    hs.countP (Happening.isRefused id) ≤ Journal.requests id (Happening.entries hs) := by
  unfold Journal.requests
  induction h with
  | refl | beside | arranged | said | allTold | unheard | settled => exact Nat.zero_le _
  | wrote => exact Nat.zero_le _
  | trans _ _ ih ih' | heard _ _ ih ih' =>
    rw [Happening.entries_append, List.countP_append, List.countP_append]
    exact Nat.add_le_add ih ih'
  | refused other h h' ih ih' =>
    by_cases own : other = id
    · simp [own, Happening.isRefused, Entry.isRequest]
      omega
    · simp [own, Happening.isRefused, Entry.isRequest]
      omega
  | @dealt w other m deal dealing takes comes =>
    -- a refusal is no dealing, so the mark is none
    cases m with
    | refused => cases comes
    | granted | released | recorded | entered | told | settled => exact Nat.zero_le _
  | told _ _ _ _ _ _ ih ih' | published _ _ ih ih' =>
    simp [Happening.isRefused, Entry.isRequest]
    omega
  | reported _ _ _ _ ih | abandoned _ _ _ _ ih | greeted _ _ ih =>
    simpa [Happening.isRefused, Entry.isRequest] using ih
  | changed w other _ _ _ _ _ ih | reset w other _ ih =>
    simpa [Happening.isRefused, Entry.isRequest, World.entering] using ih
  | called _ _ ih | unsaid _ _ ih | mute _ _ ih => exact ih

variable {id : CircuitId}

/-- **At each moment of a trace** what may happen next at a circuit has a value, but for a refusal. -/
theorem steady (h : a.Trace whole stage w hs u) (reachable : w.Reachable)
    (bounded : (w.circuit id).settings.Bounded) : (u.episode id).Steady (u.circuit id).settings := by
  have bounded' : (u.circuit id).settings.Bounded := by rwa [h.settings]
  exact ((reachable.of_reaches h.reaches).fits id bounded').steady bounded'

/-- **While few requests were refused**, a refusal has a value as well. -/
theorem calculable (h : a.Trace whole stage w hs u) (reachable : w.Reachable)
    (there : id < w.circuits.size) (bounded : (w.circuit id).settings.Bounded)
    (few : (w.episode id).rejected + hs.countP (Happening.isRefused id) < wordMax) :
    (u.episode id).Calculable (u.circuit id).settings := by
  have bounded' : (u.circuit id).settings.Bounded := by rwa [h.settings]
  have fits := (reachable.of_reaches h.reaches).fits id bounded'
  exact fits.calculable bounded' ((h.passes there).passage.rejected_le.trans_lt few)

end Audience.Trace

end Breaker

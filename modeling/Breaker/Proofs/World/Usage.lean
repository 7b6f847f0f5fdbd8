import Breaker.Proofs.World.Answered
import Breaker.Proofs.World.Ledger
import Breaker.Proofs.World.Past
import Breaker.Proofs.World.Wait

/-!
# Usage — the permits of a trial, by what was done with them

Permits are taken by requests that are granted.  They are given back by releases and by calls that are
ignored, and a permit that is given back to a full pool is lost.  A `Usage` counts these since the current
state was entered, and the permits of a trial follow from it (`Permits.Conserved`): none comes into being
otherwise, and none is lost.  Each mark keeps this (`Episode.Spent.after`), so that it holds along a history
of operations (`Spending.spent`) and along a trace, where consumers may do what they like
(`Episode.Passage.spent`).

`permits_conserved` adds what single operations do with the permits of a trial: a request in time is denied
exactly if there is none, an outcome that is recorded leaves them as they are, and a request that is granted
is undone by a release, or by a call that is ignored.
-/

namespace Breaker

variable {γ : Type}

/-- What was done with permits. -/
structure Usage where
  /-- The requests granted. -/
  grants : Nat
  /-- The permissions given back. -/
  returns : Nat
  /-- Those that found a permit missing from the pool. -/
  restored : Nat
  deriving DecidableEq

namespace Usage

/-- Nothing was done. -/
def none : Usage := ⟨0, 0, 0⟩

/-- A request is granted. -/
def grant (u : Usage) : Usage := { u with grants := u.grants + 1 }

/-- A permission is given back, to a pool that is full or is not. -/
def giveBack (u : Usage) (full : Bool) : Usage :=
  { u with returns := u.returns + 1, restored := if full then u.restored else u.restored + 1 }

/-- The permits that are left of a limit. -/
def left (u : Usage) (limit : Nat) : Nat := limit + u.restored - u.grants

end Usage

namespace Permits

/-- The permits of a pool follow from what was done with them. -/
structure Conserved (limit : Nat) (u : Usage) (p : Permits) : Prop where
  bound : p.limit = limit
  conserved : p.available + u.grants = limit + u.restored
  restored : u.restored ≤ u.returns

namespace Conserved

variable {limit : Nat} {u : Usage} {p : Permits}

theorem full (limit : Nat) : Conserved limit .none (.full limit) := ⟨rfl, rfl, le_rfl⟩

theorem take (h : Conserved limit u p) {q : Permits} (taken : p.take? = some q) :
    Conserved limit u.grant q := by
  obtain ⟨same, less⟩ := take?_eq_some taken
  obtain ⟨bound, conserved, restored⟩ := h
  refine ⟨same.trans bound, ?_, restored⟩
  show q.available + (u.grants + 1) = limit + u.restored
  omega

theorem release (h : Conserved limit u p) :
    Conserved limit (u.giveBack (p.available = p.limit)) p.release := by
  obtain ⟨bound, conserved, restored⟩ := h
  have most := p.available_le
  have more := p.available_release
  refine ⟨p.limit_release.trans bound, ?_, ?_⟩
  · show p.release.available + u.grants
      = limit + if (decide (p.available = p.limit)) = true then u.restored else u.restored + 1
    split
    case isTrue full =>
      have full := of_decide_eq_true full
      omega
    case isFalse room =>
      have room : p.available ≠ p.limit := fun full => room (decide_eq_true full)
      omega
  · show (if (decide (p.available = p.limit)) = true then u.restored else u.restored + 1)
      ≤ u.returns + 1
    split
    · omega
    · omega

theorem left_eq (h : Conserved limit u p) : u.left limit = p.available := by
  have conserved := h.conserved
  rw [Usage.left]
  omega

/-- There are never more permits than the limit. -/
theorem available_le (h : Conserved limit u p) : p.available ≤ limit := h.bound ▸ p.available_le

/-- A trial grants no more requests than its limit and the permissions that were given back. -/
theorem grants_le (h : Conserved limit u p) : u.grants ≤ limit + u.returns := by
  obtain ⟨-, conserved, restored⟩ := h
  omega

end Conserved

end Permits

namespace Episode

variable (s : Settings) (now : Nat)

/-- Whether no permit is missing from the pool of a trial. -/
def isFull (e : Episode) : Bool :=
  match e.phase with
  | .halfOpen permits _ => permits.available = permits.limit
  | _ => true

/-- What a mark does with the permits of an episode. -/
def uses (e : Episode) (u : Usage) : Mark → Usage
  | .granted => match e.request now with
    | .granted _ => u.grant
    | _ => u
  | .released => u.giveBack e.isFull
  | .entered _ _ _ _ => .none
  | .refused | .recorded _ | .told | .settled => u

/-- What some marks do with them. -/
def usage (e : Episode) (u : Usage) : List Mark → Usage
  | [] => u
  | m :: marks => usage (e.after s now m) (e.uses now u m) marks

@[simp] theorem usage_nil (e : Episode) (u : Usage) : e.usage s now u [] = u := rfl

@[simp] theorem usage_cons (e : Episode) (u : Usage) (m : Mark) (marks : List Mark) :
    e.usage s now u (m :: marks) = (e.after s now m).usage s now (e.uses now u m) marks := rfl

theorem usage_append (e : Episode) (u : Usage) (marks marks' : List Mark) :
    e.usage s now u (marks ++ marks')
      = (e.course s now marks).usage s now (e.usage s now u marks) marks' := by
  induction marks generalizing e u with
  | nil => rfl
  | cons m marks ih => rw [List.cons_append, usage_cons, usage_cons, ih, course_cons]

/-- The permits of a trial follow from what was done with them since it began. -/
def Spent (e : Episode) (u : Usage) : Prop :=
  e.state = .halfOpen →
    ∃ permits deadline, e.phase = .halfOpen permits deadline ∧ permits.Conserved s.trialCalls u

variable {s now} {e : Episode} {u : Usage}

theorem Spent.of_ne (other : e.state ≠ .halfOpen) : Spent s e u := fun trial => absurd trial other

/-- **One mark** keeps count of the permits. -/
theorem Spent.after (h : Spent s e u) (m : Mark) : Spent s (e.after s now m) (e.uses now u m) := by
  cases m with
  | entered target wait manual timer =>
    have phase : (e.after s now (.entered target wait manual timer)).phase
        = phaseOf s target now wait := next_phase ..
    have state : (e.after s now (.entered target wait manual timer)).state = target := next_state ..
    intro trial
    rw [state] at trial
    subst trial
    exact ⟨_, _, phase, .full s.trialCalls⟩
  | granted =>
    intro trial
    rw [(keeps_after (s := s) rfl e).state] at trial
    obtain ⟨permits, deadline, phase, conserved⟩ := h trial
    rw [Episode.after, uses]
    cases reply : e.request now with
    | granted taken =>
      obtain ⟨left, take, rfl⟩ := request_granted_of_trial phase reply
      exact ⟨left, deadline, rfl, conserved.take take⟩
    | denied | expired => exact ⟨permits, deadline, phase, conserved⟩
  | released =>
    intro trial
    rw [(keeps_after (s := s) (m := .released) rfl e).state] at trial
    obtain ⟨permits, deadline, phase, conserved⟩ := h trial
    rw [Episode.after, Episode.release, uses, isFull, phase]
    exact ⟨permits.release, deadline, rfl, conserved.release⟩
  | told =>
    intro trial
    rw [(keeps_after (s := s) (m := .told) rfl e).state] at trial
    obtain ⟨permits, deadline, phase, conserved⟩ := h trial
    rw [Episode.after, noteTold, phase]
    exact ⟨permits, deadline, phase, conserved⟩
  | refused | recorded | settled => exact h

/-- **Marks one after another** keep count of them. -/
theorem Spent.course (h : Spent s e u) (marks : List Mark) :
    Spent s (e.course s now marks) (e.usage s now u marks) := by
  induction marks generalizing e u with
  | nil => exact h
  | cons m marks ih => exact ih (h.after m)

/-- What requests that find the time of an episode over leave of it. -/
theorem Lapses.usage_eq {e' : Episode} {marks : List Mark} (h : Lapses s now e marks e') :
    e.usage s now u marks = if marks = [] then u else .none := by
  induction h generalizing u with
  | refl => rfl
  | more _ _ ih =>
    rw [usage_cons, ih, if_neg (List.cons_ne_nil _ _)]
    exact ite_self _

/-- An outcome that is recorded gives no permit back; the change that follows from it, if one does, is
the end of the count. -/
theorem Reports.usage_eq {o : Outcome} {marks : List Mark} (h : Reports s now e o marks) :
    e.usage s now u marks = if e.turns s now marks = [] then u else .none := by
  cases h with
  | alone | told | tripped | passed => rfl

end Episode

/-! ### Operations -/

namespace Operation

/-- Whether an operation gives a permission back: it is released, or the call is ignored. -/
def givesBack (op : Operation) (w : World γ) (id : CircuitId) : Bool :=
  match op with
  | .release i => i = id
  | .report i d r => i = id && ((w.circuit id).outcome? d r).isNone
  | _ => false

/-- What an operation does with permits, if it left these entries in the journal. -/
def usage (op : Operation) (w : World γ) (id : CircuitId) (answer : Answer) (entries : List Entry)
    (u : Usage) : Usage :=
  if op.circuit? = some id ∧ op.permits? answer = some true then
    (if Journal.turnsOf id entries = [] then u else .none).grant
  else if op.givesBack w id then u.giveBack (w.episode id).isFull
  else if Journal.turnsOf id entries = [] then u
  else .none

theorem usage_of_off {op : Operation} {w : World γ} {id : CircuitId} {answer : Answer}
    {entries : List Entry} {u : Usage} (off : op.circuit? ≠ some id) :
    op.usage w id answer entries u = if Journal.turnsOf id entries = [] then u else .none := by
  have kept : op.givesBack w id = false := by
    cases op with
    | release i => exact decide_eq_false fun own => off (congrArg some own)
    | report i d r =>
      rw [givesBack, decide_eq_false fun own => off (congrArg some own), Bool.false_and]
    | request | acquire | force | reset | metrics | subscribe | unsubscribe | runTimers | runThreads
    | build | hold => rfl
  rw [usage, if_neg fun own => off own.1, kept, if_neg Bool.false_ne_true]

end Operation

namespace World

variable {w : World γ} {id : CircuitId} {op : Operation} {answer : Answer} {marks : List Mark}
  {entries : List Entry} {u : Usage}

/-- A request that is granted takes a permit of the state it led to. -/
theorem Asks.usage_eq {permitted : Bool} (h : w.Asks id permitted marks) :
    (w.episode id).usage (w.circuit id).settings (w.reading id) u marks
      = if permitted then (if (w.episode id).turns (w.circuit id).settings (w.reading id) marks = []
          then u else .none).grant
        else if (w.episode id).turns (w.circuit id).settings (w.reading id) marks = [] then u
        else .none := by
  obtain ⟨lapses, e, lapse, -, answered⟩ := h
  have none_iff : (w.episode id).turns (w.circuit id).settings (w.reading id) lapses = []
      ↔ lapses = [] := by
    rw [← List.length_eq_zero_iff, lapse.length_turns, List.length_eq_zero_iff]
  obtain ⟨rfl, ⟨taken, granted⟩, rfl⟩ | ⟨rfl, -, rfl⟩ := answered
  · rw [Episode.usage_append, Episode.turns_append, lapse.usage_eq, lapse.course_eq]
    simp [Episode.uses, granted, Mark.turn?, none_iff]
  · rw [Episode.usage_append, Episode.turns_append, lapse.usage_eq, lapse.course_eq]
    simp [Episode.uses, Mark.turn?, none_iff]

/-- **What a circuit undergoes** does with its permits what the operation does. -/
theorem Undergoes.usage_eq (h : w.Undergoes id op answer marks)
    (turns : Journal.turnsOf id entries
      = (w.episode id).turns (w.circuit id).settings (w.reading id) marks) :
    (w.episode id).usage (w.circuit id).settings (w.reading id) u marks
      = op.usage w id answer entries u := by
  cases h with
  | does does =>
    rw [Operation.usage, turns]
    cases does with
    | @request tries permitted marks asks =>
      rw [asks.usage_eq]
      cases permitted with
      | true | false => simp [Operation.circuit?, Operation.permits?, Operation.givesBack]
    | acquired asks | refused asks =>
      rw [asks.usage_eq]
      simp [Operation.circuit?, Operation.permits?, Operation.givesBack]
    | @report d r marks told =>
      unfold Told at told
      split at told
      case h_1 o recorded =>
        rw [told.usage_eq]
        simp [Operation.permits?, Operation.givesBack, recorded]
      case h_2 ignored =>
        subst told
        simp [Operation.permits?, Operation.givesBack, ignored, Episode.uses]
    | release => simp [Operation.permits?, Operation.givesBack, Episode.uses]
    | force | reset | metrics =>
      simp [Operation.permits?, Operation.givesBack, Episode.uses, entering, Mark.turn?]
  | moved runs timeout wait timer =>
    rw [Operation.usage_of_off runs.off, turns]
    rfl
  | spared off | muffled off =>
    rw [Operation.usage_of_off off, turns]
    rfl

end World

/-- What was done with the permits of a circuit since its state was entered, one operation after
another, while time passed. -/
inductive Spending (react : CircuitId → React γ) (id : CircuitId) (w₀ : World γ) :
    World γ → Usage → Prop where
  | start : Spending react id w₀ w₀ .none
  | operation {w w' : World γ} {u : Usage} (h : Spending react id w₀ w u) (op : Operation)
      {answer : Answer} (run : op.run react w = .ok answer w') :
      Spending react id w₀ w' (op.usage w id answer (w'.entriesSince w) u)
  | time {w : World γ} {u : Usage} (h : Spending react id w₀ w u) (clock : Clock) (elapsed : Nat) :
      Spending react id w₀ { w with clock := clock, elapsed := elapsed } u

namespace Spending

variable {react : CircuitId → React γ} {w₀ w : World γ} {id : CircuitId} {u : Usage}

/-- Carries out operations in order, and keeps count of the permits. -/
def carryOut (react : CircuitId → React γ) (id : CircuitId) :
    List Operation → World γ → Usage → Option (World γ × Usage)
  | [], w, u => some (w, u)
  | op :: ops, w, u =>
    match op.run react w with
    | .ok answer w' => carryOut react id ops w' (op.usage w id answer (w'.entriesSince w) u)
    | .error _ _ => none

theorem of_carryOut (ops : List Operation) {last : World γ} {u' : Usage}
    (h : Spending react id w₀ w u) (run : carryOut react id ops w u = some (last, u')) :
    Spending react id w₀ last u' := by
  induction ops generalizing w u with
  | nil =>
    cases run
    exact h
  | cons op ops ih =>
    rw [carryOut] at run
    split at run
    case h_1 answer w' done => exact ih (h.operation op done) run
    case h_2 => cases run

/-- **A history of operations** keeps count of the permits. -/
theorem spent (quiet : ∀ id, Quiet (react id)) (sound : w₀.Sound) (there : id < w₀.circuits.size)
    (start : (w₀.episode id).Spent (w₀.circuit id).settings .none) (h : Spending react id w₀ w u) :
    w.Sound ∧ id < w.circuits.size ∧ (w.circuit id).settings = (w₀.circuit id).settings ∧
      (w.episode id).Spent (w₀.circuit id).settings u := by
  induction h with
  | start => exact ⟨sound, there, rfl, start⟩
  | @operation w w' u _ op answer run ih =>
    obtain ⟨sound, there, settings, spent⟩ := ih
    obtain ⟨reaches, marks, course, undergoes⟩ := (op.yields_undergoes quiet sound there).of_ok run
    refine ⟨reaches.sound sound, Nat.lt_of_lt_of_le there course.size,
      course.settings.trans settings, ?_⟩
    have after : ((w.episode id).course (w₀.circuit id).settings (w.reading id) marks).Spent
        (w₀.circuit id).settings
        ((w.episode id).usage (w₀.circuit id).settings (w.reading id) u marks) := spent.course marks
    rwa [← settings, ← course.episode, undergoes.usage_eq course.turnsOf_entriesSince,
      settings] at after
  | @time w u _ clock elapsed ih =>
    obtain ⟨sound, rest⟩ := ih
    exact ⟨(World.Move.time w clock elapsed).sound sound, rest⟩

end Spending

/-! ### Traces -/

namespace Usage

/-- What something that happens does with the permits of a circuit.  A permission that is given back
finds a permit missing as long as fewer are left than there were. -/
def happens (limit : Nat) (id : CircuitId) (u : Usage) : Happening → Usage
  | .marked circuit m =>
    if circuit = id then match m with
      | .granted => u.grant
      | .released => u.giveBack (limit ≤ u.left limit)
      | .entered _ _ _ _ => .none
      | .refused | .recorded _ | .told | .settled => u
    else u
  | .wrote _ | .returned _ => u

/-- What all that happens does with them. -/
def replay (limit : Nat) (id : CircuitId) (u : Usage) (hs : List Happening) : Usage :=
  hs.foldl (happens limit id) u

variable {limit : Nat} {id : CircuitId} {u : Usage}

theorem replay_append (hs hs' : List Happening) :
    replay limit id u (hs ++ hs') = replay limit id (replay limit id u hs) hs' := List.foldl_append

theorem happens_marked (m : Mark) : happens limit id u (.marked id m) = match m with
    | .granted => u.grant
    | .released => u.giveBack (limit ≤ u.left limit)
    | .entered _ _ _ _ => .none
    | .refused | .recorded _ | .told | .settled => u := if_pos rfl

theorem happens_of_elsewhere {h : Happening} (other : h.isAt id = false) :
    happens limit id u h = u := by
  cases h with
  | marked circuit m => exact if_neg (of_decide_eq_false other)
  | wrote | returned => rfl

end Usage

namespace Episode

variable {s : Settings} {now : Nat} {id : CircuitId} {e e' : Episode} {u : Usage}

/-- A mark that a circuit takes does with its permits what is seen to happen. -/
theorem Spent.marked (h : Spent s e u) {m : Mark}
    (takes : m = .granted → ∃ taken, e.request now = .granted taken) :
    Spent s (e.after s now m) (u.happens s.trialCalls id (.marked id m)) := by
  intro trial
  have after := h.after m trial
  rw [Usage.happens_marked]
  cases m with
  | granted =>
    obtain ⟨taken, granted⟩ := takes rfl
    rwa [uses, granted] at after
  | released =>
    have keeps : Keeps s e (e.after s now .released) := keeps_after rfl e
    obtain ⟨permits, deadline, phase, conserved⟩ := h (keeps.state.symm.trans trial)
    have full : e.isFull = decide (s.trialCalls ≤ u.left s.trialCalls) := by
      rw [isFull, phase, conserved.left_eq, ← conserved.bound]
      exact decide_eq_decide.mpr ⟨fun full => full.ge, permits.available_le.antisymm⟩
    rwa [uses, full] at after
  | entered | refused | recorded | told | settled => exact after

theorem Spent.observe (h : Spent s e u) (now : Nat) (o : Outcome) :
    Spent s (e.observe now o) (u.happens s.trialCalls id (.marked id (.recorded o))) :=
  h.marked (m := .recorded o) nofun

/-- **Everything that a circuit goes through** keeps count of the permits. -/
theorem Passage.spent {hs : List Happening} (h : Passage s id e hs e') (start : Spent s e u) :
    Spent s e' (u.replay s.trialCalls id hs) := by
  induction h generalizing u with
  | refl => exact start
  | trans _ _ ih ih' =>
    rw [Usage.replay_append]
    exact ih' (ih start)
  | elsewhere e other =>
    rw [Usage.replay, List.foldl_cons, Usage.happens_of_elsewhere other]
    exact start
  | marked e now takes =>
    refine start.marked ?_
    rintro rfl
    exact takes.resolve_left nofun
  | entered e now timer => exact start.marked nofun
  | reported e now o _ _ ih =>
    rw [Usage.replay, List.foldl_cons, List.foldl_append]
    exact ih (start.observe now o)
  | abandoned e now o _ ih => exact ih (start.observe now o)

end Episode

/-! ### Single operations on a trial -/

section Trial

variable {react : CircuitId → React γ} {w : World γ} {id : CircuitId} {permits : Permits}
  {deadline : Option Nat}

/-- A trial in time grants a request if it has a permit, and denies it if it has none. -/
theorem Episode.request_in_time {e : Episode} {now : Nat}
    (phase : e.phase = .halfOpen permits deadline) (inTime : e.isOverdue now = false) :
    (∃ left, permits.take? = some left ∧
        e.request now = .granted { e with phase := .halfOpen left deadline }) ∨
      (permits.available = 0 ∧ e.request now = .denied) := by
  have early : deadline.any (· ≤ now) = false := by rwa [isOverdue, phase] at inTime
  cases take : permits.take? with
  | some left => exact .inl ⟨left, rfl, by simp [request, phase, early, take]⟩
  | none =>
    exact .inr ⟨Permits.take?_eq_none_iff.mp take, by simp [request, phase, early, take]⟩

/-- A permit that is given back right after it was taken leaves the trial as it was. -/
theorem Episode.release_of_take {e : Episode} (phase : e.phase = .halfOpen permits deadline)
    {left : Permits} (take : permits.take? = some left) :
    ({ e with phase := .halfOpen left deadline } : Episode).release = e := by
  have back : ({ e with phase := .halfOpen left deadline } : Episode).release
      = { e with phase := .halfOpen left.release deadline } := rfl
  rw [back, Permits.release_of_take? take, ← phase]

namespace Operation

/-- **A request that a trial answers in time**: it takes a permit and does nothing else, or it is denied
as there is none. -/
theorem request_in_time (quiet : Quiet (react id)) (there : id < w.circuits.size)
    (phase : (w.episode id).phase = .halfOpen permits deadline)
    (inTime : (w.episode id).isOverdue (w.reading id) = false) {op : Operation} {tries : Nat}
    (asks : op = .request id (tries + 1) ∨ op = .acquire id (tries + 1)) :
    (∃ answer after left, op.run react w = .ok answer after ∧ op.permits? answer = some true ∧
        permits.take? = some left ∧
        after = w.setEpisode id { w.episode id with phase := .halfOpen left deadline }) ∨
      (permits.available = 0 ∧
        ∃ answer after, op.run react w = .ok answer after ∧ op.permits? answer = some false) := by
  obtain ⟨left, take, granted⟩ | ⟨empty, denied⟩ := Episode.request_in_time phase inTime
  · have taken : Yields (tryAcquire (react id) id (tries + 1)) w
        (fun permitted after => permitted = true ∧
          after = w.setEpisode id { w.episode id with phase := .halfOpen left deadline })
        fun _ _ => False := by
      unfold tryAcquire
      simp only [yields_bind, yields_get, granted, yields_set, yields_pure]
      exact ⟨trivial, trivial⟩
    obtain ⟨answer, after, run, permitted, eq⟩ := (yields_of_tryAcquire there asks taken).exists_ok
    exact .inl ⟨answer, after, left, run, permitted, take, eq⟩
  · obtain ⟨answer, after, run, permitted, -⟩ :=
      (yields_of_tryAcquire there asks (quiet.deny denied tries)).exists_ok
    exact .inr ⟨empty, answer, after, run, permitted⟩

/-- **A release** right after a permit was taken leaves the world as it was. -/
theorem run_release_of_take (there : id < w.circuits.size)
    (phase : (w.episode id).phase = .halfOpen permits deadline) {left : Permits}
    (take : permits.take? = some left) :
    (Operation.release id).run react
        (w.setEpisode id { w.episode id with phase := .halfOpen left deadline })
      = .ok .nothing w := by
  have released : Yields ((Operation.release id).run react)
      (w.setEpisode id { w.episode id with phase := .halfOpen left deadline })
      (fun answer after => answer = .nothing ∧ after = w) fun _ _ => False := by
    unfold run onCircuit Breaker.release
    simp only [yields_bind, yields_get, yields_ite, yields_modify, yields_pure,
      World.modifyEpisode_eq, World.episode_setEpisode_self w _ there,
      World.setEpisode_setEpisode, Episode.release_of_take phase take, World.setEpisode_self]
    rw [if_pos (by rwa [World.setEpisode, World.size_setCircuit])]
    exact ⟨trivial, trivial⟩
  obtain ⟨answer, after, run, rfl, rfl⟩ := released.exists_ok
  exact run

/-- **A call that is ignored** right after its permit was taken leaves the episode as it was. -/
theorem run_ignored_of_take (quiet : Quiet (react id)) (there : id < w.circuits.size)
    (phase : (w.episode id).phase = .halfOpen permits deadline) {left : Permits}
    (take : permits.take? = some left) {d : Duration} {r : Report}
    (ignored : ((w.circuit id).verdict d r).observe.1 = .ok .ignored) :
    ∃ last, (Operation.report id d r).run react
        (w.setEpisode id { w.episode id with phase := .halfOpen left deadline })
      = .ok .nothing last ∧ last.episode id = w.episode id := by
  obtain ⟨taken, began⟩ : ∃ taken,
      taken = w.setEpisode id { w.episode id with phase := .halfOpen left deadline } := ⟨_, rfl⟩
  have there' : id < taken.circuits.size := by
    rwa [began, World.setEpisode, World.size_setCircuit]
  have verdict : (taken.circuit id).verdict d r = (w.circuit id).verdict d r := by
    rw [began, World.circuit_setEpisode_self w _ there]
    cases r with
    | success | error | result => rfl
  have unrecorded : (taken.circuit id).outcome? d r = none := by
    rw [Circuit.outcome?, verdict, ignored]
  have reported : Yields ((Operation.report id d r).run react) taken
      (fun answer last => answer = .nothing ∧ last.episode id = w.episode id)
      fun _ _ => False := by
    unfold run onCircuit
    simp only [yields_bind, yields_get, yields_ite, if_pos there', yields_pure]
    refine yields_tell (fun _ o after _ outcome => ?_) (fun after _ _ asked => ?_)
      fun cause after fails => ?_
    · rw [unrecorded] at outcome
      cases outcome
    · have aside := asked.aside
      refine quiet.ignore fun last goes => ⟨trivial, ?_⟩
      rw [(goes.course (by rwa [aside.circuits])).episode, aside.episode, began,
        World.episode_setEpisode_self w _ there]
      exact Episode.release_of_take phase take
    · rw [verdict, ignored] at fails
      cases fails
  obtain ⟨answer, last, run, rfl, same⟩ := reported.exists_ok
  exact ⟨last, began ▸ run, same⟩

/-- **A report that is recorded** gives no permit back, if the trial goes on after it. -/
theorem phase_of_recorded (quiet : Quiet (react id)) (there : id < w.circuits.size)
    (phase : (w.episode id).phase = .halfOpen permits deadline) {d : Duration} {r : Report}
    {o : Outcome} (recorded : (w.circuit id).outcome? d r = some o) {answer : Answer}
    {after : World γ} (run : (Operation.report id d r).run react w = .ok answer after)
    (goesOn : (after.episode id).number = (w.episode id).number) :
    (after.episode id).phase = .halfOpen permits deadline := by
  have reported : Yields ((Operation.report id d r).run react) w
      (fun _ after => (after.episode id).number = (w.episode id).number →
        (after.episode id).phase = .halfOpen permits deadline) fun _ _ => True := by
    unfold Operation.run onCircuit
    simp only [yields_bind, yields_get, yields_ite, if_pos there, yields_pure]
    refine quiet.report there (fun marks after told goes goesOn => ?_) fun _ _ _ => trivial
    rw [World.Told, recorded] at told
    rw [(goes.course there).episode] at goesOn ⊢
    rw [Episode.number_course] at goesOn
    cases told with
    | alone => exact phase
    | told =>
      show (((w.episode id).observe (w.reading id) o).noteTold).phase = _
      simp [Episode.noteTold, Episode.observe, phase]
    | tripped | passed => simp [Mark.turn?] at goesOn
  exact reported.of_ok run goesOn

end Operation

end Trial

namespace World

/-- **Permits are conserved.**  Let a circuit be built, and let any operations follow under consumers that
do not call back, or anything at all under consumers that may.  In a trial, the permits left are those it
began with, less the requests granted, and more the permissions that were given back while a permit was
missing: by releases, and by calls that were ignored.  So never more requests are granted than the limit
and the permissions given back.  A request in time is denied exactly if there is no permit; if it is
granted, a release leaves the world as it was before, and a call that is ignored leaves the episode so.  A
report that is recorded gives nothing back. -/
theorem permits_conserved {react : CircuitId → React γ} (quiet : ∀ id, Quiet (react id)) {v : World γ}
    (reachable : v.Reachable) {b : Blueprint} {c : Circuit} (built : b.build v = .ok c)
    {id : CircuitId} (new : id = v.circuits.size) {w : World γ} {u : Usage}
    (spends : Spending react id (v.addCircuit c) w u ∨
      ∃ (a : Audience γ) (whole : Prop) (hs : List Happening),
        a.Trace whole .acts (v.addCircuit c) hs w ∧
        u = Usage.none.replay c.settings.trialCalls id hs)
    {permits : Permits} {deadline : Option Nat}
    (trial : (w.episode id).phase = .halfOpen permits deadline) :
    permits.available ≤ c.settings.trialCalls ∧
    permits.available + u.grants = c.settings.trialCalls + u.restored ∧
    u.grants ≤ c.settings.trialCalls + u.returns ∧
    (∀ (op : Operation) (tries : Nat), op = .request id (tries + 1) ∨ op = .acquire id (tries + 1) →
      (w.episode id).isOverdue (w.reading id) = false →
      ∃ answer after, op.run react w = .ok answer after ∧
        (op.permits? answer = some false ↔ permits.available = 0) ∧
        (permits.available ≠ 0 → op.permits? answer = some true ∧
          (Operation.release id).run react after = .ok .nothing w ∧
          ∀ d r, ((w.circuit id).verdict d r).observe.1 = .ok .ignored →
            ∃ last, (Operation.report id d r).run react after = .ok .nothing last ∧
              last.episode id = w.episode id)) ∧
    ∀ d r o answer after, (w.circuit id).outcome? d r = some o →
      (Operation.report id d r).run react w = .ok answer after →
      (after.episode id).number = (w.episode id).number →
      (after.episode id).phase = .halfOpen permits deadline := by
  subst new
  have there₀ : v.circuits.size < (v.addCircuit c).circuits.size := by
    rw [addCircuit, Array.size_push]
    exact Nat.lt_succ_self _
  have circuit := circuit_addCircuit_self v c
  have start : ((v.addCircuit c).episode v.circuits.size).Spent
      ((v.addCircuit c).circuit v.circuits.size).settings .none := by
    refine .of_ne ?_
    rw [episode, circuit, (Blueprint.build_ok built).2]
    rintro ⟨⟩
  -- either way, the permits are accounted for
  obtain ⟨there, spent⟩ : v.circuits.size < w.circuits.size ∧
      (w.episode v.circuits.size).Spent c.settings u := by
    obtain spending | ⟨a, whole, hs, trace, rfl⟩ := spends
    · obtain ⟨-, there, -, spent⟩ :=
        spending.spent quiet (reachable.sound.build built) there₀ start
      exact ⟨there, by rwa [circuit] at spent⟩
    · have passes := trace.passes there₀
      have spent := passes.passage.spent start
      exact ⟨passes.there, by rwa [circuit] at spent⟩
  obtain ⟨permits', deadline', phase, conserved⟩ := spent (by rw [Episode.state, trial]; rfl)
  rw [trial] at phase
  cases phase
  refine ⟨conserved.available_le, conserved.conserved, conserved.grants_le, ?_, ?_⟩
  · intro op tries asks inTime
    obtain ⟨answer, after, left, run, granted, take, rfl⟩ | ⟨empty, answer, after, run, denied⟩ :=
      Operation.request_in_time (quiet _) there trial inTime asks
    · have some : permits.available ≠ 0 := fun none => by
        rw [Permits.take?_eq_none_iff.mpr none] at take
        cases take
      exact ⟨answer, _, run, by simp [granted, some], fun _ => ⟨granted,
        Operation.run_release_of_take there trial take, fun d r ignored =>
        Operation.run_ignored_of_take (quiet _) there trial take ignored⟩⟩
    · exact ⟨answer, after, run, by simp [denied, empty], fun some => absurd empty some⟩
  · intro d r o answer after recorded run goesOn
    exact Operation.phase_of_recorded (quiet _) there trial recorded run goesOn

/-- A trial of two calls, after two requests, and two releases of which the second found no permit
missing: one is left, so that the next request is granted, and a release undoes it. -/
theorem permits_conserved_two : ∃ (w : World Unit) (permits : Permits),
    (w.episode 0).phase = .halfOpen permits none ∧ permits.available + 2 = 2 + 1 ∧
    ∃ answer after, (Operation.request 0 1).run (fun _ => .silent) w = .ok answer after ∧
      (Operation.request 0 1).permits? answer = some true ∧
      (Operation.release 0).run (fun _ => .silent) after = .ok .nothing w := by
  obtain ⟨c, built, two, w, run, permits, trial, inTime⟩ : ∃ c : Circuit,
      (Blueprint.ofChoices "" [.trialCalls 2, .timeSource .shared]).build (World.empty 0 ⟨0⟩ ())
        = .ok c ∧ c.settings.trialCalls = 2 ∧
      ∃ w : World Unit, Spending.carryOut (fun _ => .silent) 0
        [.force 0 .halfOpen, .request 0 1, .release 0, .release 0, .request 0 1]
        ((World.empty 0 ⟨0⟩ ()).addCircuit c) .none = some (w, ⟨2, 2, 1⟩) ∧
      ∃ permits, (w.episode 0).phase = .halfOpen permits none ∧
      (w.episode 0).isOverdue (w.reading 0) = false :=
    ⟨_, rfl, rfl, _, rfl, _, rfl, by decide +kernel⟩
  obtain ⟨-, conserved, -, requests, -⟩ := permits_conserved (fun _ => Quiet.silent)
    ⟨0, ⟨0⟩, (), .refl _⟩ built rfl (.inl (Spending.of_carryOut _ .start run)) trial
  rw [two] at conserved
  have conserved : permits.available + 2 = 2 + 1 := conserved
  obtain ⟨answer, after, asked, -, undone⟩ := requests (.request 0 1) 0 (.inl rfl) inTime
  obtain ⟨granted, released, -⟩ := undone (by omega)
  exact ⟨w, permits, trial, conserved, answer, after, asked, granted, released⟩

end World

end Breaker

import Breaker.Proofs.Episode.Edges
import Breaker.World.Permission

/-!
# Clock — readings along a run of moves

A clock is moved by hand: on by a span, or forward to a reading.  A jump never takes it back.  A span takes
it back exactly if the reading would pass the end of its word (`now_advance_lt_iff`).  So the readings along
a run never decrease exactly if no span of the run passes the end of readings, and these are also the runs
along which the time of every episode, once it is over, stays over (`readings_never_decrease_iff`).
-/

namespace Breaker

namespace Clock

/-- One thing done to a clock by hand. -/
inductive Move where
  | advance (d : Duration)
  | set (nanos : Nat)

/-- The clock after a move. -/
def move (c : Clock) : Move → Clock
  | .advance d => c.advance d
  | .set nanos => c.set nanos

/-- The clock after a run of moves. -/
def run (c : Clock) (moves : List Move) : Clock := moves.foldl move c

/-- The readings along a run: the first one, and the one after each move. -/
def readings (c : Clock) : List Move → List Nat
  | [] => [c.now]
  | m :: moves => c.now :: (c.move m).readings moves

/-- A move does not take the reading past the end of its word. -/
def Fits (c : Clock) : Move → Prop
  | .advance d => c.now + d.word ≤ wordMax
  | .set _ => True

/-- No move of a run takes the reading past the end of its word. -/
def InRange (c : Clock) (moves : List Move) : Prop :=
  ∀ done m, done ++ [m] <+: moves → (c.run done).Fits m

variable {c : Clock} {m : Move} {moves early late : List Move}

theorem now_advance (c : Clock) (d : Duration) : (c.advance d).now = (c.now + d.word) % 2 ^ 64 := by
  have word : d.word < 2 ^ 64 := Nat.lt_of_le_of_lt d.word_le (by decide)
  rw [now, advance, UInt64.toNat_add, UInt64.toNat_ofNat_of_lt' word, now]

/-- A span takes a clock back exactly if it passes the end of readings. -/
theorem now_advance_lt_iff (c : Clock) (d : Duration) :
    (c.advance d).now < c.now ↔ wordMax < c.now + d.word := by
  have now := c.now_le_wordMax
  have word := d.word_le
  rw [now_advance]
  simp only [wordMax] at *
  omega

theorem now_le_move_iff (c : Clock) (m : Move) : c.now ≤ (c.move m).now ↔ c.Fits m := by
  cases m with
  | advance d => rw [move, Fits, ← Nat.not_lt, now_advance_lt_iff, Nat.not_lt]
  | set nanos => exact iff_of_true (c.now_le_set nanos) trivial

/-! ### Runs of moves -/

theorem run_append (c : Clock) (early late : List Move) :
    c.run (early ++ late) = (c.run early).run late :=
  List.foldl_append ..

theorem inRange_cons : c.InRange (m :: moves) ↔ c.Fits m ∧ (c.move m).InRange moves := by
  constructor
  · intro h
    refine ⟨h [] m ⟨moves, rfl⟩, fun done last reached => ?_⟩
    exact h (m :: done) last (List.cons_prefix_cons.mpr ⟨rfl, reached⟩)
  · rintro ⟨first, rest⟩ done last reached
    cases done with
    | nil =>
      obtain ⟨rfl, -⟩ := List.cons_prefix_cons.mp reached
      exact first
    | cons first' done =>
      obtain ⟨rfl, reached'⟩ := List.cons_prefix_cons.mp reached
      exact rest done last reached'

theorem InRange.of_prefix (h : c.InRange moves) (begins : early <+: moves) : c.InRange early :=
  fun done m reached => h done m (reached.trans begins)

theorem InRange.of_append (h : c.InRange (early ++ late)) : (c.run early).InRange late := by
  intro done m reached
  rw [← run_append]
  refine h (early ++ done) m ?_
  rw [List.append_assoc]
  exact (List.prefix_append_right_inj early).mpr reached

theorem InRange.now_le_run (h : c.InRange moves) : c.now ≤ (c.run moves).now := by
  induction moves generalizing c with
  | nil => exact Nat.le_refl _
  | cons m moves ih =>
    obtain ⟨first, rest⟩ := inRange_cons.mp h
    exact Nat.le_trans ((now_le_move_iff c m).mpr first) (ih rest)

/-- Between two moments of a run in range the reading does not decrease. -/
theorem InRange.mono (h : c.InRange moves) (between : early <+: late) (begins : late <+: moves) :
    (c.run early).now ≤ (c.run late).now := by
  obtain ⟨rest, rfl⟩ := between
  rw [run_append]
  exact (h.of_prefix begins).of_append.now_le_run

/-- The readings along a run are those at its moments. -/
theorem mem_readings_iff {n : Nat} :
    n ∈ c.readings moves ↔ ∃ early, early <+: moves ∧ n = (c.run early).now := by
  induction moves generalizing c with
  | nil => simp [readings, run]
  | cons m moves ih =>
    rw [readings, List.mem_cons, ih]
    constructor
    · rintro (rfl | ⟨early, begins, rfl⟩)
      · exact ⟨[], List.nil_prefix, rfl⟩
      · exact ⟨m :: early, List.cons_prefix_cons.mpr ⟨rfl, begins⟩, rfl⟩
    · rintro ⟨early, begins, rfl⟩
      cases early with
      | nil => exact .inl rfl
      | cons m' early =>
        obtain ⟨rfl, begins'⟩ := List.cons_prefix_cons.mp begins
        exact .inr ⟨early, begins', rfl⟩

theorem pairwise_readings_iff : (c.readings moves).Pairwise (· ≤ ·) ↔ c.InRange moves := by
  induction moves generalizing c with
  | nil =>
    refine iff_of_true (List.pairwise_singleton ..) fun done m reached => ?_
    cases done <;> cases List.prefix_nil.mp reached
  | cons m moves ih =>
    rw [readings, List.pairwise_cons, inRange_cons, ih]
    refine and_congr_left fun rest => ⟨fun least => ?_, fun first n later => ?_⟩
    · exact (now_le_move_iff c m).mp (least _ (mem_readings_iff.mpr ⟨[], List.nil_prefix, rfl⟩))
    · obtain ⟨early, begins, rfl⟩ := mem_readings_iff.mp later
      exact Nat.le_trans ((now_le_move_iff c m).mpr first) (rest.of_prefix begins).now_le_run

end Clock

/-! ### The time of an episode -/

namespace Episode

variable {e : Episode} {now later : Nat}

theorem isWaitOver_mono (h : now ≤ later) (elapsed : e.isWaitOver now = true) :
    e.isWaitOver later = true := by
  unfold isWaitOver at *
  cases phase : e.phase with
  | opened retryAt =>
    rw [phase] at elapsed
    exact decide_eq_true (Nat.le_trans (of_decide_eq_true elapsed) h)
  | _ => rw [phase] at elapsed; exact elapsed

theorem isOverdue_mono (h : now ≤ later) (elapsed : e.isOverdue now = true) :
    e.isOverdue later = true := by
  unfold isOverdue at *
  cases phase : e.phase with
  | halfOpen permits deadline =>
    rw [phase] at elapsed
    obtain ⟨due, set, passed⟩ := (Option.any_eq_true ..).mp elapsed
    refine (Option.any_eq_true ..).mpr ⟨due, set, ?_⟩
    exact decide_eq_true (Nat.le_trans (of_decide_eq_true passed) h)
  | _ => rw [phase] at elapsed; exact elapsed

end Episode

namespace World

variable {γ : Type}

/-- The world once its clock was moved. -/
def moved (w : World γ) (moves : List Clock.Move) : World γ := { w with clock := w.clock.run moves }

/-- Moving the clock on moves no reading of a circuit back. -/
theorem reading_moved_le (w : World γ) (id : CircuitId) {early late : List Clock.Move}
    (h : (w.clock.run early).now ≤ (w.clock.run late).now) :
    (w.moved early).reading id ≤ (w.moved late).reading id := by
  show (w.moved early).timeAt (w.circuit id).timeSource ≤ (w.moved late).timeAt (w.circuit id).timeSource
  cases (w.circuit id).timeSource with
  | shared => exact h
  | own since => exact Nat.le_refl _

/-- **When readings never decrease.**  The readings along a run of moves never decrease exactly if no span of
the run passes the end of readings, and exactly if no wait and no deadline of any episode, once over at a
moment of the run, is ahead again at a later one.  Along such a run the circuits of a world, whichever time
they read, find over what they found over before. -/
theorem readings_never_decrease_iff (w : World γ) (moves : List Clock.Move) :
    ((w.clock.readings moves).Pairwise (· ≤ ·) ↔ w.clock.InRange moves) ∧
    (w.clock.InRange moves ↔ ∀ early late, early <+: late → late <+: moves → ∀ e : Episode,
      (e.isWaitOver (w.clock.run early).now = true → e.isWaitOver (w.clock.run late).now = true) ∧
      (e.isOverdue (w.clock.run early).now = true → e.isOverdue (w.clock.run late).now = true)) ∧
    (w.clock.InRange moves → ∀ early late, early <+: late → late <+: moves → ∀ id,
      ((w.episode id).isWaitOver ((w.moved early).reading id) = true →
        (w.episode id).isWaitOver ((w.moved late).reading id) = true) ∧
      ((w.episode id).isOverdue ((w.moved early).reading id) = true →
        (w.episode id).isOverdue ((w.moved late).reading id) = true)) := by
  refine ⟨Clock.pairwise_readings_iff, ⟨fun fits early late between begins e => ?_, fun stays => ?_⟩,
    fun fits early late between begins id => ?_⟩
  · have later := fits.mono between begins
    exact ⟨Episode.isWaitOver_mono later, Episode.isOverdue_mono later⟩
  · intro done m reached
    -- An episode whose wait ends at the reading before the move finds it over only from there on.
    let e := Episode.begin Settings.standard 0 1 0 (.opened (w.clock.run done).now)
    have before : e.isWaitOver (w.clock.run done).now = true := decide_eq_true (Nat.le_refl _)
    have after := (stays done (done ++ [m]) (List.prefix_append ..) reached e).1 before
    rw [Clock.run_append] at after
    exact (Clock.now_le_move_iff _ m).mp (of_decide_eq_true after)
  · have later := w.reading_moved_le id (fits.mono between begins)
    exact ⟨Episode.isWaitOver_mono later, Episode.isOverdue_mono later⟩

/-- The world of one open breaker on the clock of the world, which waits for two seconds. -/
def oneOpen : World Unit :=
  (World.empty 0 ⟨0⟩ ()).addCircuit
    { Circuit.blank with episode := .begin Settings.standard 1 1 0 (.opened 2000000000) }

/-- A clock that moves on by three seconds, and is not set back to one, leaves the wait over. -/
theorem readings_never_decrease_open :
    let moves : List Clock.Move := [.advance (.ofSeconds 3), .set 1000000000, .advance .zero]
    oneOpen.clock.InRange moves ∧
      (oneOpen.episode 0).isWaitOver ((oneOpen.moved [.advance (.ofSeconds 3)]).reading 0) = true ∧
      (oneOpen.episode 0).isWaitOver ((oneOpen.moved moves).reading 0) = true := by
  intro moves
  obtain ⟨rising, -, stays⟩ := readings_never_decrease_iff oneOpen moves
  have fits : oneOpen.clock.InRange moves := rising.mp (by decide +kernel)
  have first : [Clock.Move.advance (.ofSeconds 3)] <+: moves := ⟨_, rfl⟩
  have elapsed : (oneOpen.episode 0).isWaitOver
      ((oneOpen.moved [.advance (.ofSeconds 3)]).reading 0) = true := by decide +kernel
  exact ⟨fits, elapsed, (stays fits _ moves first (List.prefix_refl _) 0).1 elapsed⟩

/-- **At the end of readings** a clock that moves on by a nanosecond starts over, and the breaker whose wait
was over turns calls away again. -/
theorem readings_start_over :
    (¬∀ (c : Clock) (moves : List Clock.Move), (c.readings moves).Pairwise (· ≤ ·)) ∧
    oneOpen.clock.readings [.set (2 ^ 64 - 1), .advance (.ofNanos 1)] = [0, 2 ^ 64 - 1, 0] ∧
    (oneOpen.episode 0).isWaitOver ((oneOpen.moved [.set (2 ^ 64 - 1)]).reading 0) = true ∧
    (oneOpen.episode 0).isWaitOver
      ((oneOpen.moved [.set (2 ^ 64 - 1), .advance (.ofNanos 1)]).reading 0) = false ∧
    (∃ after, tryAcquire (fun _ _ _ => pure ()) 0 3 (oneOpen.moved [.set (2 ^ 64 - 1)])
      = .ok true after) ∧
    ∃ after, tryAcquire (fun _ _ _ => pure ()) 0 3
      (oneOpen.moved [.set (2 ^ 64 - 1), .advance (.ofNanos 1)]) = .ok false after := by
  have falls : oneOpen.clock.readings [.set (2 ^ 64 - 1), .advance (.ofNanos 1)] = [0, 2 ^ 64 - 1, 0] := by
    decide +kernel
  refine ⟨fun rises => ?_, falls, by decide +kernel, by decide +kernel, ⟨_, rfl⟩, ⟨_, rfl⟩⟩
  have ordered := rises oneOpen.clock [.set (2 ^ 64 - 1), .advance (.ofNanos 1)]
  rw [falls] at ordered
  revert ordered
  decide

end World

end Breaker

import Breaker.Proofs.World.Sound

/-!
# Tidy — the timers of episodes that are over

A timer of the world that waits is cancelled unless it is of its circuit's current episode
(`Tidy.stale`), and no two of them have one handle (`Tidy.distinct`).  Entering a state cancels the
timer of the episode that ends, and a handle that is cancelled stays so, so every reachable world is
tidy (`Reachable.tidy`).

So what a circuit has among the timers that can still go off is the timer of its current episode and
nothing else (`live_of_circuit`).
-/

namespace Breaker.World

variable {γ : Type} {w w' : World γ}

/-- A timer that is cancelled stays cancelled. -/
theorem Move.isCancelled (h : Move w w') {source : TimerSource} {handle : Nat}
    (cancelled : w.isCancelled source handle = true) : w'.isCancelled source handle = true := by
  rcases h.kinds with minor | ⟨id, target, wait, manual, minor⟩ | ⟨b, c, -, rfl⟩
  · rwa [minor.alike.isCancelled]
  · rw [minor.alike.isCancelled, isCancelled_enter, cancelled, Bool.true_or]
  · cases source with
    | shared | threads => exact cancelled

theorem Reaches.isCancelled (h : Reaches w w') {source : TimerSource} {handle : Nat} :
    w.isCancelled source handle = true → w'.isCancelled source handle = true :=
  h.preserves fun _ _ move => move.isCancelled

/-- What holds of the timers that wait. -/
structure Tidy (w : World γ) : Prop where
  /-- The timers of episodes that are over are cancelled. -/
  stale : ∀ t ∈ w.timers.pending, t.task.episode ≠ (w.episode t.task.circuit).number →
    w.timers.isCancelled t.handle = true
  distinct : (w.timers.pending.map Timer.handle).Nodup

namespace Tidy

/-- No timer comes to wait, and no episode ends. -/
theorem of_sublist (tidy : w.Tidy) (pending : w'.timers.pending.Sublist w.timers.pending)
    (number : ∀ t ∈ w.timers.pending,
      (w'.episode t.task.circuit).number = (w.episode t.task.circuit).number)
    (cancelled : ∀ handle, w.timers.isCancelled handle = true → w'.timers.isCancelled handle = true) :
    w'.Tidy where
  stale := by
    intro t mem ended
    have old := pending.subset mem
    rw [number t old] at ended
    exact cancelled _ (tidy.stale t old ended)
  distinct := tidy.distinct.sublist (pending.map _)

/-- **Entering a state keeps the timers tidy**: that of the episode that ends is cancelled, and the new
one has a handle of its own. -/
theorem enter (tidy : w.Tidy) (sound : w.Sound) (id : CircuitId) (target : State) (wait : Duration)
    (manual : Bool) : (w.enter id target wait manual).Tidy := by
  by_cases there : id < w.circuits.size
  case neg => rwa [enter_of_size_le w _ _ _ (Nat.le_of_not_lt there)]
  case pos =>
  have next : ((w.enter id target wait manual).episode id).number
      = (w.nextEpisode id target wait manual).number := by rw [episode_enter_self there]
  refine ⟨fun t mem ended => ?_, ?_⟩
  · rw [pending_enter w _ _ _ there, List.mem_append, Option.mem_toList] at mem
    rcases mem with old | new
    · have serves := sound.serves_timers t old
      show (w.enter id target wait manual).isCancelled .shared t.handle = true
      rw [isCancelled_enter, Bool.or_eq_true, decide_eq_true_iff]
      by_cases current : t.task.episode = (w.episode t.task.circuit).number
      · have own : t.task.circuit = id := by
          by_contra other
          rw [episode_enter_of_ne (Ne.symm other)] at ended
          exact ended current
        exact .inr ⟨(serves.own id).mp ⟨own, own ▸ current⟩, serves.given⟩
      · exact .inl (tidy.stale t old current)
    · obtain ⟨-, due, goal, -, rfl⟩ := timerLeft_eq_some.mp new
      exact absurd next.symm ended
  · rw [pending_enter w _ _ _ there, List.map_append, List.nodup_append]
    refine ⟨tidy.distinct, ?_, ?_⟩
    · cases w.timerLeft id (w.nextEpisode id target wait manual) w.timers.nextHandle with
      | none => exact List.nodup_nil
      | some t => exact List.nodup_singleton _
    · intro handle old handle' new
      obtain ⟨t, mem, rfl⟩ := List.mem_map.mp old
      obtain ⟨t', left, rfl⟩ := List.mem_map.mp new
      obtain ⟨-, due, goal, -, rfl⟩ := timerLeft_eq_some.mp (Option.mem_toList.mp left)
      have given := (sound.serves_timers t mem).given
      exact Nat.ne_of_lt given

end Tidy

/-- **Every move keeps the timers tidy.** -/
theorem Move.tidy (h : Move w w') (sound : w.Sound) (tidy : w.Tidy) : w'.Tidy := by
  have cancelled (handle : Nat) (before : w.isCancelled .shared handle = true) :
      w'.isCancelled .shared handle = true := h.isCancelled before
  -- a move that lets an episode stay current, and no timer come to wait
  have stays (pending : w'.timers.pending = w.timers.pending)
      (number : ∀ t ∈ w.timers.pending,
        (w'.episode t.task.circuit).number = (w.episode t.task.circuit).number) : w'.Tidy :=
    tidy.of_sublist (pending ▸ List.Sublist.refl _) number cancelled
  cases h with
  | aside h => exact stays (by rw [h.timers]) fun t _ => by rw [h.episode]
  | time | hold | thin => exact stays rfl fun _ _ => rfl
  | enrol id roster => exact stays rfl fun t _ => by rw [episode_enrol]
  | build b built =>
    refine stays rfl fun t mem => ?_
    have there := (sound.serves_timers t mem).circuit
    rw [episode, circuit_addCircuit_of_ne w _ (Nat.ne_of_lt there), episode]
  | mark id m marks =>
    refine stays rfl fun t _ => ?_
    rw [episode, circuit_setEpisode]
    split
    case isTrue both =>
      rw [← both.1]
      exact (Episode.keeps_after marks _).number
    case isFalse => rfl
  | change id target wait manual =>
    have entered := tidy.enter sound id target wait manual
    exact ⟨entered.stale, entered.distinct⟩
  | reset id wait =>
    have entered := tidy.enter sound id .closed wait true
    exact ⟨entered.stale, entered.distinct⟩
  | drain => exact tidy.of_sublist (List.nil_sublist _) (fun _ _ => rfl) cancelled

theorem Reaches.tidy (h : Reaches w w') (sound : w.Sound) (tidy : w.Tidy) : w'.Tidy := by
  induction h with
  | refl => exact tidy
  | more h _ ih => exact ih (h.sound sound) (h.tidy sound tidy)

theorem Reachable.tidy (h : Reachable w) : w.Tidy := by
  obtain ⟨start, dice, guest, reaches⟩ := h
  have empty : (World.empty start dice guest).Tidy :=
    ⟨fun _ mem => absurd mem List.not_mem_nil, List.nodup_nil⟩
  exact reaches.tidy (sound_empty start dice guest) empty

/-! ### The timers that can still go off -/

section Live

variable (sound : w.Sound) (tidy : w.Tidy) {t t' : Timer Alarm}
include sound tidy

/-- A timer can still go off if it is of a current episode. -/
theorem mem_live_iff : t ∈ w.timers.live ↔
    t ∈ w.timers.pending ∧ t.task.episode = (w.episode t.task.circuit).number := by
  rw [Timers.live, List.mem_filter, Bool.not_eq_true']
  refine and_congr_right fun mem => ⟨fun live => ?_, fun current => ?_⟩
  · by_contra ended
    rw [tidy.stale t mem ended] at live
    cases live
  · exact (sound.serves_timers t mem).live current

/-- The timer that can still go off at a circuit is held by its current episode, and names the state in
which that episode times out. -/
theorem held_of_live (live : t ∈ w.timers.live) :
    (w.circuit t.task.circuit).timerSource = some .shared ∧
      (w.episode t.task.circuit).timer = some t.handle ∧
      ∃ due, (w.episode t.task.circuit).timeout? (w.circuit t.task.circuit).settings
        = some (due, t.task.target) := by
  obtain ⟨mem, current⟩ := (mem_live_iff sound tidy).mp live
  have serves := sound.serves_timers t mem
  obtain ⟨place, timer⟩ := (serves.own _).mp ⟨rfl, current⟩
  exact ⟨place, timer, serves.target current⟩

/-- No two timers of a circuit can go off. -/
theorem eq_of_live (live : t ∈ w.timers.live) (live' : t' ∈ w.timers.live)
    (same : t.task.circuit = t'.task.circuit) : t = t' := by
  have timer := (held_of_live sound tidy live).2.1
  have timer' := (held_of_live sound tidy live').2.1
  rw [← same, timer] at timer'
  exact List.inj_on_of_nodup_map tidy.distinct (List.mem_of_mem_filter live)
    (List.mem_of_mem_filter live') (Option.some.inj timer')

/-- The timer that can still go off at a circuit is the only one. -/
theorem live_of_circuit (live : t ∈ w.timers.live) :
    w.timers.live.filter (·.task.circuit = t.task.circuit) = [t] := by
  have nodup : w.timers.live.Nodup := (List.Nodup.of_map _ tidy.distinct).filter _
  have only (t' : Timer Alarm) :
      t' ∈ w.timers.live.filter (·.task.circuit = t.task.circuit) ↔ t' ∈ [t] := by
    rw [List.mem_filter, decide_eq_true_iff, List.mem_singleton]
    constructor
    · rintro ⟨live', same⟩
      exact eq_of_live sound tidy live' live same
    · rintro rfl
      exact ⟨live, rfl⟩
  exact List.perm_singleton.mp
    ((List.perm_ext_iff_of_nodup (nodup.filter _) (List.nodup_singleton t)).mpr only)

end Live

end Breaker.World

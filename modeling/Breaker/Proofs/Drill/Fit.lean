import Breaker.Proofs.Drill.Record

/-!
# Fit — what the lines of a record say of one another

Each line of the record of a drill fits the lines before it (`Line.Fits`): a run takes the tasks that
wait; whose turn comes next in a run that goes on is the first of its batch that had none; the task
starts unless it is cancelled by then; a run returns when all had their turn, with the number of those
that ran.  What a record shows as a whole follows from this alone, line by line.

Runs take the tasks in the order in which they were scheduled (`Fit.taken_append_waiting`), so that no two
take the same one, and every task has one turn at most (`Fit.turned_nodup`).  A run that returned gave
those of its batch their turn (`Fit.served`).  A run in which a task gave up did so up to that task, and
the others are lost (`Fit.isLost_iff`).
-/

namespace Breaker.Drill

/-! ### Reading a record -/

namespace Line

/-- The task that was scheduled. -/
def scheduled? : Line → Option (Timer Task)
  | scheduled t => some t
  | _ => none

/-- The handle that was cancelled. -/
def cancelled? : Line → Option Nat
  | cancelled handle => some handle
  | _ => none

/-- The tasks that a run takes. -/
def taken : Line → List (Timer Task)
  | drained _ batch => batch
  | _ => []

/-- The task whose turn comes. -/
def turn? : Line → Option (Timer Task)
  | started _ t | passed _ t => some t
  | _ => none

/-- The task that starts. -/
def start? : Line → Option (Timer Task)
  | started _ t => some t
  | _ => none

/-- The run in which a task gives up. -/
def broken? : Line → Option Nat
  | gaveUp n _ => some n
  | _ => none

/-- The run that ends. -/
def ended? : Line → Option Nat
  | gaveUp n _ | returned n _ => some n
  | _ => none

/-- The run that the line is about. -/
def run? : Line → Option Nat
  | drained n _ | started n _ | passed n _ | gaveUp n _ | returned n _ => some n
  | _ => none

end Line

/-- The tasks that were scheduled, in order. -/
def scheduled (record : List Line) : List (Timer Task) := record.filterMap Line.scheduled?

/-- The handles that were cancelled. -/
def cancelled (record : List Line) : List Nat := record.filterMap Line.cancelled?

/-- The tasks that runs took, in order. -/
def taken (record : List Line) : List (Timer Task) := record.flatMap Line.taken

/-- The tasks whose turn came, in order. -/
def turned (record : List Line) : List (Timer Task) := record.filterMap Line.turn?

/-- The tasks that started, in order. -/
def started (record : List Line) : List (Timer Task) := record.filterMap Line.start?

/-- The runs in which a task gave up. -/
def broken (record : List Line) : List Nat := record.filterMap Line.broken?

/-- The runs that ended. -/
def ended (record : List Line) : List Nat := record.filterMap Line.ended?

/-- The lines about a run. -/
def about (n : Nat) (record : List Line) : List Line := record.filter fun line => line.run? = some n

/-- The tasks that were scheduled and that no run took, in order. -/
def waiting (record : List Line) : List (Timer Task) :=
  (scheduled record).filter fun t => t.handle ∉ (taken record).map Timer.handle

theorem filterMap_singleton {α β : Type} (f : α → Option β) (a : α) :
    [a].filterMap f = (f a).toList := by
  cases h : f a with
  | none => simp [h]
  | some b => simp [h]

section Append

variable (record record' : List Line)

@[simp] theorem scheduled_append :
    scheduled (record ++ record') = scheduled record ++ scheduled record' := List.filterMap_append

@[simp] theorem cancelled_append :
    cancelled (record ++ record') = cancelled record ++ cancelled record' := List.filterMap_append

@[simp] theorem taken_append : taken (record ++ record') = taken record ++ taken record' :=
  List.flatMap_append

@[simp] theorem turned_append : turned (record ++ record') = turned record ++ turned record' :=
  List.filterMap_append

@[simp] theorem started_append : started (record ++ record') = started record ++ started record' :=
  List.filterMap_append

@[simp] theorem broken_append : broken (record ++ record') = broken record ++ broken record' :=
  List.filterMap_append

@[simp] theorem ended_append : ended (record ++ record') = ended record ++ ended record' :=
  List.filterMap_append

@[simp] theorem begun_append : begun (record ++ record') = begun record ++ begun record' :=
  List.filterMap_append

@[simp] theorem about_append (n : Nat) :
    about n (record ++ record') = about n record ++ about n record' := List.filter_append ..

@[simp] theorem taken_nil : taken [] = [] := rfl

@[simp] theorem turned_nil : turned [] = [] := rfl

@[simp] theorem started_nil : started [] = [] := rfl

@[simp] theorem ended_nil : ended [] = [] := rfl

variable (line : Line)

@[simp] theorem scheduled_singleton : scheduled [line] = line.scheduled?.toList :=
  filterMap_singleton _ _

@[simp] theorem cancelled_singleton : cancelled [line] = line.cancelled?.toList :=
  filterMap_singleton _ _

@[simp] theorem taken_singleton : taken [line] = line.taken := List.append_nil _

@[simp] theorem turned_singleton : turned [line] = line.turn?.toList :=
  filterMap_singleton _ _

@[simp] theorem started_singleton : started [line] = line.start?.toList :=
  filterMap_singleton _ _

@[simp] theorem broken_singleton : broken [line] = line.broken?.toList :=
  filterMap_singleton _ _

@[simp] theorem ended_singleton : ended [line] = line.ended?.toList :=
  filterMap_singleton _ _

@[simp] theorem begun_singleton : begun [line] = line.begun?.toList :=
  filterMap_singleton _ _

@[simp] theorem about_singleton (n : Nat) :
    about n [line] = if line.run? = some n then [line] else [] := by
  simp [about, List.filter_cons]

end Append

theorem mem_about {record : List Line} {n : Nat} {line : Line} :
    line ∈ about n record ↔ line ∈ record ∧ line.run? = some n := by
  rw [about, List.mem_filter, decide_eq_true_eq]

theorem mem_begun {record : List Line} {n : Nat} :
    n ∈ begun record ↔ ∃ batch, .drained n batch ∈ record := by
  constructor
  · intro mem
    obtain ⟨line, there, begins⟩ := List.mem_filterMap.mp mem
    cases line with
    | drained m batch =>
      obtain rfl : m = n := Option.some.inj begins
      exact ⟨batch, there⟩
    | _ => cases begins
  · rintro ⟨batch, there⟩
    exact List.mem_filterMap.mpr ⟨_, there, rfl⟩

theorem exists_drained {record : List Line} {n : Nat} {t : Timer Task}
    (mem : t ∈ taken (about n record)) : ∃ batch, .drained n batch ∈ record ∧ t ∈ batch := by
  obtain ⟨line, there, member⟩ := List.mem_flatMap.mp mem
  obtain ⟨inside, run⟩ := mem_about.mp there
  cases line with
  | drained m batch =>
    obtain rfl : m = n := Option.some.inj run
    exact ⟨batch, inside, member⟩
  | _ => cases member

theorem exists_turn {record : List Line} {t : Timer Task} (mem : t ∈ turned record) :
    ∃ n, t ∈ turned (about n record) := by
  obtain ⟨line, there, turn⟩ := List.mem_filterMap.mp mem
  cases line with
  | started n t' | passed n t' =>
    exact ⟨n, List.mem_filterMap.mpr ⟨_, mem_about.mpr ⟨there, rfl⟩, turn⟩⟩
  | _ => cases turn

/-- A run that has ended returned, or a task gave up in it. -/
theorem exists_end {record : List Line} {n : Nat} (ends : ended (about n record) ≠ []) :
    (∃ count, .returned n count ∈ record) ∨ ∃ t, .gaveUp n t ∈ record := by
  obtain ⟨m, mem⟩ := List.exists_mem_of_ne_nil _ ends
  obtain ⟨line, there, last⟩ := List.mem_filterMap.mp mem
  obtain ⟨inside, run⟩ := mem_about.mp there
  cases line with
  | gaveUp k t =>
    obtain rfl : k = n := Option.some.inj run
    exact .inr ⟨t, inside⟩
  | returned k count =>
    obtain rfl : k = n := Option.some.inj run
    exact .inl ⟨count, inside⟩
  | _ => cases last

attribute [simp] Line.scheduled? Line.cancelled? Line.taken Line.turn? Line.start? Line.broken?
  Line.ended? Line.begun? Line.run?

/-! ### Lines that fit -/

/-- The next turn in a run that goes on is that of a task. -/
structure Due (past : List Line) (n : Nat) (t : Timer Task) : Prop where
  goesOn : ended (about n past) = []
  next : ∃ later, taken (about n past) = turned (about n past) ++ t :: later

/-- What there is to a line, given the lines before it. -/
def Line.Fits (past : List Line) : Line → Prop
  | scheduled t => t.handle = (Drill.scheduled past).length
  | cancelled handle => handle < (Drill.scheduled past).length
  | listed delays =>
    delays = ((waiting past).filter fun t => t.handle ∉ Drill.cancelled past).map Timer.delay
  | drained n batch => n = (begun past).length ∧ batch = waiting past
  | started n t => Due past n t ∧ t.handle ∉ Drill.cancelled past
  | passed n t => Due past n t ∧ t.handle ∈ Drill.cancelled past
  | gaveUp n t => ended (about n past) = [] ∧ t ∈ Drill.started (about n past) ∧
    ∃ had, turned (about n past) = had ++ [t]
  | returned n count => n ∈ begun past ∧ ended (about n past) = [] ∧
    turned (about n past) = Drill.taken (about n past) ∧ count = (Drill.started (about n past)).length

/-- Each line fits those before it. -/
inductive Fit : List Line → Prop where
  | nil : Fit []
  | snoc {past : List Line} {line : Line} (fit : Fit past) (fits : line.Fits past) :
      Fit (past ++ [line])

namespace Fit

variable {record past after : List Line} {n : Nat} {batch : List (Timer Task)}

theorem inv {line : Line} (fit : Fit (past ++ [line])) : Fit past ∧ line.Fits past := by
  generalize h : past ++ [line] = whole at fit
  cases fit with
  | nil => simp at h
  | snoc fit fits =>
    obtain ⟨rfl, same⟩ := List.append_inj' h rfl
    obtain rfl := List.singleton_inj.mp same
    exact ⟨fit, fits⟩

theorem of_append (fit : Fit (past ++ after)) : Fit past := by
  induction after using List.reverseRecOn with
  | nil => rwa [List.append_nil] at fit
  | append_singleton after line ih =>
    rw [← List.append_assoc] at fit
    exact ih fit.inv.1

/-- A line anywhere in the record fits those before it. -/
theorem fits {line : Line} (fit : Fit (past ++ line :: after)) : line.Fits past := by
  rw [List.append_cons] at fit
  exact fit.of_append.inv.2

theorem handles (fit : Fit record) :
    (scheduled record).map Timer.handle = List.range (scheduled record).length := by
  induction fit with
  | nil => rfl
  | @snoc past line fit fits ih =>
    cases line with
    | scheduled t =>
      have number : t.handle = (scheduled past).length := fits
      simp [ih, number, List.range_succ]
    | _ => simpa using ih

theorem begun_eq (fit : Fit record) : begun record = List.range (begun record).length := by
  induction fit with
  | nil => rfl
  | @snoc past line fit fits ih =>
    cases line with
    | drained n batch =>
      have number : n = (begun past).length := fits.1
      rw [begun_append, begun_singleton, List.length_append, Line.begun?, Option.toList_some,
        List.length_singleton, List.range_succ, ← ih, number]
    | _ => simpa using ih

theorem next_run (fit : Fit record) : (begun record).length ∉ begun record := by
  rw [fit.begun_eq, List.mem_range, List.length_range]
  exact Nat.lt_irrefl _

theorem handle_lt (fit : Fit record) {t : Timer Task} (mem : t ∈ scheduled record) :
    t.handle < (scheduled record).length := by
  have numbered : t.handle ∈ (scheduled record).map Timer.handle := List.mem_map_of_mem mem
  rwa [fit.handles, List.mem_range] at numbered

theorem waiting_scheduled (fit : Fit past) (all : taken past ++ waiting past = scheduled past)
    {t : Timer Task} (number : t.handle = (scheduled past).length) :
    waiting (past ++ [.scheduled t]) = waiting past ++ [t] := by
  have fresh : ∀ t' ∈ taken past, t'.handle ≠ t.handle := fun t' mem =>
    number ▸ (fit.handle_lt (all ▸ List.mem_append_left _ mem)).ne
  have scheduled_eq : scheduled (past ++ [.scheduled t]) = scheduled past ++ [t] := by simp
  have taken_eq : taken (past ++ [.scheduled t]) = taken past := by simp
  rw [waiting, scheduled_eq, taken_eq, List.filter_append, ← waiting]
  simpa using fresh

theorem waiting_drained (all : taken past ++ waiting past = scheduled past) (n : Nat) :
    waiting (past ++ [.drained n (waiting past)]) = [] := by
  have scheduled_eq : scheduled (past ++ [.drained n (waiting past)]) = scheduled past := by simp
  have taken_eq : taken (past ++ [.drained n (waiting past)]) = scheduled past := by simpa using all
  rw [waiting, scheduled_eq, taken_eq, List.filter_eq_nil_iff]
  intro t mem
  simpa using ⟨t, mem, rfl⟩

/-- Runs take the tasks in the order in which they were scheduled, and what no run took waits. -/
theorem taken_append_waiting (fit : Fit record) : taken record ++ waiting record = scheduled record := by
  induction fit with
  | nil => rfl
  | @snoc past line fit fits ih =>
    cases line with
    | scheduled t =>
      rw [waiting_scheduled fit ih fits, ← List.append_assoc, taken_append, scheduled_append, ← ih]
      simp
    | drained n batch =>
      obtain ⟨-, rfl⟩ := fits
      rw [waiting_drained ih, List.append_nil]
      simpa using ih
    | _ => simpa [waiting] using ih

/-- Tasks are taken once. -/
theorem taken_nodup (fit : Fit record) : ((taken record).map Timer.handle).Nodup := by
  have all : ((scheduled record).map Timer.handle).Nodup := by
    rw [fit.handles]
    exact List.nodup_range
  rw [← fit.taken_append_waiting, List.map_append] at all
  exact all.of_append_left

theorem nodup_about (fit : Fit record) (n : Nat) : ((taken (about n record)).map Timer.handle).Nodup :=
  fit.taken_nodup.sublist ((List.filter_sublist.flatMap _).map _)

/-- The turns of a run come in the order of its batch. -/
theorem turned_prefix (fit : Fit record) (n : Nat) :
    turned (about n record) <+: taken (about n record) := by
  induction fit with
  | nil => exact List.nil_prefix
  | @snoc past line fit fits ih =>
    rw [about_append, about_singleton]
    split
    case isFalse => simpa using ih
    case isTrue same =>
      cases line with
      | drained m batch => simpa using ih.trans (List.prefix_append _ _)
      | started m t | passed m t =>
        obtain rfl : m = n := Option.some.inj same
        obtain ⟨later, next⟩ := fits.1.next
        exact ⟨later, by simp [next]⟩
      | gaveUp | returned => simpa using ih
      | _ => cases same

/-- Nothing is about a run that has not begun. -/
theorem about_eq_nil (fit : Fit record) (n : Nat) (new : n ∉ begun record) : about n record = [] := by
  induction fit with
  | nil => rfl
  | @snoc past line fit fits ih =>
    rw [begun_append, List.mem_append, not_or] at new
    rw [about_append, ih new.1, about_singleton, List.nil_append]
    refine if_neg fun same => ?_
    cases line with
    | drained m batch =>
      obtain rfl : m = n := Option.some.inj same
      exact new.2 (by simp)
    | started m t | passed m t =>
      obtain rfl : m = n := Option.some.inj same
      obtain ⟨later, next⟩ := fits.1.next
      rw [ih new.1] at next
      cases next
    | gaveUp m t =>
      obtain rfl : m = n := Option.some.inj same
      obtain ⟨-, ran, -⟩ := fits
      rw [ih new.1] at ran
      cases ran
    | returned m count =>
      obtain rfl : m = n := Option.some.inj same
      exact new.1 fits.1
    | _ => cases same

/-- Nothing is about the run that begins next. -/
theorem about_next (fit : Fit record) : about (begun record).length record = [] :=
  fit.about_eq_nil _ fit.next_run

/-- A run takes one batch. -/
theorem taken_about (fit : Fit record) (mem : .drained n batch ∈ record) :
    taken (about n record) = batch := by
  induction fit with
  | nil => cases mem
  | @snoc past line fit fits ih =>
    rw [List.mem_append, List.mem_singleton] at mem
    rw [about_append, about_singleton, taken_append]
    obtain old | rfl := mem
    · rw [ih old]
      split
      case isFalse => simp
      case isTrue same =>
        cases line with
        | drained m batch' =>
          obtain ⟨rfl, -⟩ := fits
          obtain rfl := Option.some.inj same
          exact absurd (mem_begun.mpr ⟨batch, old⟩) fit.next_run
        | _ => simp
    · obtain ⟨rfl, -⟩ := fits
      rw [fit.about_next]
      simp

/-- Different runs take different tasks. -/
theorem eq_of_taken (fit : Fit record) {n' : Nat} {batch' : List (Timer Task)} {t t' : Timer Task}
    (drains : .drained n batch ∈ record) (drains' : .drained n' batch' ∈ record) (mem : t ∈ batch)
    (mem' : t' ∈ batch') (same : t.handle = t'.handle) : n = n' := by
  induction fit with
  | nil => cases drains
  | @snoc past line fit fits ih =>
    -- a task that is taken does not wait
    have apart {m m' : Nat} {b b' : List (Timer Task)} {u u' : Timer Task}
        (old : .drained m b ∈ past) (new : line = .drained m' b') (mem : u ∈ b) (mem' : u' ∈ b')
        (same : u.handle = u'.handle) : False := by
      subst new
      obtain ⟨-, rfl⟩ := fits
      have taken : u ∈ taken past := List.mem_flatMap.mpr ⟨_, old, mem⟩
      have waits := (List.mem_filter.mp mem').2
      rw [decide_eq_true_eq, ← same] at waits
      exact waits (List.mem_map_of_mem taken)
    rw [List.mem_append, List.mem_singleton] at drains drains'
    obtain old | new := drains
    · obtain old' | new' := drains'
      · exact ih old old'
      · exact (apart old new'.symm mem mem' same).elim
    · obtain old' | new' := drains'
      · exact (apart old' new.symm mem' mem same.symm).elim
      · exact (Line.drained.inj (new.trans new'.symm)).1

/-- Whose turn comes in a run is in its batch. -/
theorem mem_batch (fit : Fit record) {t : Timer Task} (mem : t ∈ turned (about n record)) :
    ∃ batch, .drained n batch ∈ record ∧ t ∈ batch :=
  exists_drained ((fit.turned_prefix n).subset mem)

/-- **Every task has one turn at most.** -/
theorem turned_nodup (fit : Fit record) : ((turned record).map Timer.handle).Nodup := by
  induction fit with
  | nil => exact List.nodup_nil
  | @snoc past line fit fits ih =>
    cases line with
    | started n t | passed n t =>
      obtain ⟨later, next⟩ := fits.1.next
      have new : t.handle ∉ (turned past).map Timer.handle := by
        intro mem
        obtain ⟨t', mem, same⟩ := List.mem_map.mp mem
        obtain ⟨n', turn⟩ := exists_turn mem
        have here : t ∈ taken (about n past) := by simp [next]
        obtain ⟨batch, drains, mem⟩ := exists_drained here
        obtain ⟨batch', drains', mem'⟩ := fit.mem_batch turn
        obtain rfl := fit.eq_of_taken drains drains' mem mem' same.symm
        have once := fit.nodup_about n
        rw [next, List.map_append, List.nodup_append] at once
        exact once.2.2 _ (List.mem_map_of_mem turn) _ (List.mem_map_of_mem List.mem_cons_self) same
      simpa [List.nodup_append] using ⟨ih, by simpa using new⟩
    | _ => simpa using ih

/-- A run that has ended gives no more turns. -/
theorem turned_after {last : Line} (fit : Fit (past ++ last :: after)) (run : last.run? = some n)
    (ends : last.ended? = some n) : turned (about n after) = [] := by
  refine List.filterMap_eq_nil_iff.mpr fun line mem => ?_
  obtain ⟨there, run'⟩ := mem_about.mp mem
  obtain ⟨before, rest, rfl⟩ := List.append_of_mem there
  have fit' : Fit ((past ++ last :: before) ++ line :: rest) := by simpa using fit
  have closed : n ∈ ended (about n (past ++ last :: before)) :=
    List.mem_filterMap.mpr ⟨last, mem_about.mpr ⟨by simp, run⟩, ends⟩
  have fits := fit'.fits
  cases line with
  | started m t | passed m t =>
    obtain rfl : m = n := Option.some.inj run'
    rw [fits.1.goesOn] at closed
    cases closed
  | _ => rfl

theorem turned_of_gaveUp (fit : Fit record) {t : Timer Task} (gaveUp : .gaveUp n t ∈ record) :
    ∃ had, turned (about n record) = had ++ [t] := by
  obtain ⟨before, rest, rfl⟩ := List.append_of_mem gaveUp
  obtain ⟨-, -, had, turns⟩ := fit.fits
  refine ⟨had, ?_⟩
  rw [List.append_cons, about_append, about_append, turned_append, turned_append, turns,
    fit.turned_after rfl rfl]
  simp

theorem turned_of_returned (fit : Fit record) {count : Nat} {tasks : List (Timer Task)}
    (drains : .drained n tasks ∈ record) (returns : .returned n count ∈ record) :
    turned (about n record) = tasks := by
  obtain ⟨before, rest, rfl⟩ := List.append_of_mem returns
  obtain ⟨begins, -, all, -⟩ := fit.fits
  obtain ⟨batch, there⟩ := mem_begun.mp begins
  have same := fit.taken_about (List.mem_append_left _ there)
  rw [fit.taken_about drains] at same
  rw [List.append_cons, about_append, about_append, turned_append, turned_append, all,
    fit.of_append.taken_about there, fit.turned_after rfl rfl, same]
  simp

end Fit

/-! ### What a record shows -/

/-- What the record of any drill shows. -/
structure Lawful (record : List Line) : Prop where
  /-- Tasks have different handles. -/
  handles : ((scheduled record).map Timer.handle).Nodup
  /-- Every task has one turn at most, and so runs once at most. -/
  once : ((turned record).map Timer.handle).Nodup
  /-- Runs have different numbers. -/
  runs : (begun record).Nodup
  /-- A run takes the tasks that were scheduled before and that no run took, in that order. -/
  batch : ∀ before n tasks rest, record = before ++ .drained n tasks :: rest → tasks = waiting before
  /-- Nobody gets a turn in a run but those of its batch, one after another. -/
  order : ∀ n tasks, .drained n tasks ∈ record → turned (about n record) <+: tasks
  /-- Who starts is not cancelled at that moment. -/
  live : ∀ before n t rest, record = before ++ .started n t :: rest → t.handle ∉ cancelled before
  /-- Who is passed over is cancelled at that moment. -/
  dead : ∀ before n t rest, record = before ++ .passed n t :: rest → t.handle ∈ cancelled before
  /-- The delays answered are those of the tasks that wait and are not cancelled, in order. -/
  listed : ∀ before delays rest, record = before ++ .listed delays :: rest →
    delays = ((waiting before).filter fun t => t.handle ∉ cancelled before).map Timer.delay

theorem Fit.lawful {record : List Line} (fit : Fit record) : Lawful record where
  handles := by
    rw [fit.handles]
    exact List.nodup_range
  once := fit.turned_nodup
  runs := by
    rw [fit.begun_eq]
    exact List.nodup_range
  batch := fun before n tasks rest eq => (eq ▸ fit).fits.2
  order := fun n tasks mem => fit.taken_about mem ▸ fit.turned_prefix n
  live := fun before n t rest eq => (eq ▸ fit).fits.2
  dead := fun before n t rest eq => (eq ▸ fit).fits.2
  listed := fun before delays rest eq => (eq ▸ fit).fits

/-- A run gives those of its batch their turn, in order, before it returns with the number of those that
ran, and gives no other turn. -/
def Serves (n : Nat) (tasks : List (Timer Task)) (before rest : List Line) : Prop :=
  turned (about n before) = [] ∧ ∃ meanwhile count later, rest = meanwhile ++ .returned n count :: later ∧
    turned (about n meanwhile) = tasks ∧ (started (about n meanwhile)).length = count ∧
      turned (about n later) = []

/-- Every run gives those of its batch their turn. -/
def Served (record : List Line) : Prop :=
  ∀ before n tasks rest, record = before ++ .drained n tasks :: rest → Serves n tasks before rest

/-- A run that returned gave those of its batch their turn. -/
theorem Fit.served {before rest : List Line} {n count : Nat} {tasks : List (Timer Task)}
    (fit : Fit (before ++ .drained n tasks :: rest))
    (returns : .returned n count ∈ before ++ .drained n tasks :: rest) :
    Serves n tasks before rest := by
  obtain ⟨rfl, -⟩ := fit.fits
  have nothing := fit.of_append.about_next
  set n := (begun before).length
  refine ⟨by rw [nothing]; rfl, ?_⟩
  have inside : .returned n count ∈ rest := by
    obtain mem | mem := List.mem_append.mp returns
    · have about_n : Line.returned n count ∈ about n before := mem_about.mpr ⟨mem, rfl⟩
      rw [nothing] at about_n
      cases about_n
    · simpa using mem
  obtain ⟨meanwhile, later, rfl⟩ := List.append_of_mem inside
  set past := before ++ .drained n tasks :: meanwhile with past_eq
  have about_eq : about n past = .drained n tasks :: about n meanwhile := by
    rw [past_eq, about_append, nothing, List.nil_append]
    simp [about]
  have fit' : Fit (past ++ .returned n count :: later) := by simpa [past_eq] using fit
  have drains : .drained n tasks ∈ past := by simp [past_eq]
  obtain ⟨-, -, all, counted⟩ := fit'.fits
  rw [fit'.of_append.taken_about drains, about_eq] at all
  rw [about_eq] at counted
  exact ⟨meanwhile, count, later, rfl, all, counted.symm, fit'.turned_after rfl rfl⟩

/-- A task is lost to one that gave up before it in its batch. -/
def IsLost (record : List Line) (t : Timer Task) : Prop :=
  ∃ n had first lost, .drained n (had ++ first :: lost) ∈ record ∧ .gaveUp n first ∈ record ∧ t ∈ lost

namespace Fit

variable {record : List Line}

/-- A run that ends gave those of its batch their turn, or a task of its batch gave up and is the last
that had one. -/
theorem fate (fit : Fit record) {n : Nat} {tasks : List (Timer Task)}
    (drains : .drained n tasks ∈ record) (ends : ended (about n record) ≠ []) :
    ((∃ count, .returned n count ∈ record) ∧ turned (about n record) = tasks) ∨
      ∃ had first lost, .gaveUp n first ∈ record ∧ tasks = had ++ first :: lost ∧
        turned (about n record) = had ++ [first] := by
  obtain ⟨count, returns⟩ | ⟨first, gaveUp⟩ := exists_end ends
  · exact .inl ⟨⟨count, returns⟩, fit.turned_of_returned drains returns⟩
  · obtain ⟨had, turns⟩ := fit.turned_of_gaveUp gaveUp
    have order := fit.turned_prefix n
    rw [fit.taken_about drains, turns] at order
    obtain ⟨lost, all⟩ := order
    exact .inr ⟨had, first, lost, gaveUp, by simpa using all.symm, turns⟩

/-- A task is lost just if it neither waits nor had a turn. -/
theorem isLost_iff (fit : Fit record) (settled : ∀ n ∈ begun record, ended (about n record) ≠ [])
    {t : Timer Task} (scheduled : t ∈ Drill.scheduled record) :
    IsLost record t ↔ t ∉ waiting record ∧ t ∉ turned record := by
  constructor
  · rintro ⟨n, had, first, lost, drains, gaveUp, mem⟩
    have member : t ∈ had ++ first :: lost := by simp [mem]
    have once : (had ++ first :: lost).Nodup :=
      (fit.taken_about drains ▸ fit.nodup_about n).of_map
    obtain ⟨had', turns⟩ := fit.turned_of_gaveUp gaveUp
    have order := fit.turned_prefix n
    rw [fit.taken_about drains, turns] at order
    obtain ⟨rest, all⟩ := order
    constructor
    · intro waits
      have taken : t ∈ taken record := List.mem_flatMap.mpr ⟨_, drains, member⟩
      exact of_decide_eq_true (List.mem_filter.mp waits).2 (List.mem_map_of_mem taken)
    · intro turn
      obtain ⟨n', turn⟩ := exists_turn turn
      obtain ⟨batch, drains', mem'⟩ := fit.mem_batch turn
      obtain rfl := fit.eq_of_taken drains drains' member mem' rfl
      rw [turns] at turn
      -- who gave up stands in the batch once, so what comes after it is what is lost
      have once' : (had' ++ [first] ++ rest).Nodup := all ▸ once
      have alone := List.nodup_middle.mp (by simpa using once')
      have notin : first ∉ had' ++ rest := (List.nodup_cons.mp alone).1
      rw [List.mem_append, not_or] at notin
      have same : had' ++ first :: rest = had ++ first :: lost := by simpa using all
      obtain ⟨-, -, rfl⟩ := (List.append_cons_inj_of_notMem notin.1 notin.2).mp same
      exact List.disjoint_of_nodup_append once' turn mem
  · rintro ⟨waits, silent⟩
    rw [← fit.taken_append_waiting, List.mem_append] at scheduled
    obtain ⟨line, drains, mem⟩ := List.mem_flatMap.mp (scheduled.resolve_right waits)
    cases line with
    | drained n tasks =>
      have unheard : t ∉ turned (about n record) := fun turn =>
        silent ((List.filter_sublist.filterMap _).subset turn)
      have begins : n ∈ begun record := mem_begun.mpr ⟨tasks, drains⟩
      obtain ⟨-, turns⟩ | ⟨had, first, lost, gaveUp, rfl, turns⟩ := fit.fate drains (settled n begins)
      · exact absurd (turns ▸ mem) unheard
      · refine ⟨n, had, first, lost, drains, gaveUp, ?_⟩
        rw [turns] at unheard
        have member : t ∈ had ++ first :: lost := mem
        simp only [List.mem_append, List.mem_cons, List.not_mem_nil, or_false] at unheard member
        tauto
    | _ => cases mem

end Fit

end Breaker.Drill

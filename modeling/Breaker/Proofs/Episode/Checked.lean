import Breaker.Proofs.Episode.Course
import Breaker.Proofs.Window.Checked

/-!
# Checked — episodes in words that do not wrap

What happens at a circuit is computed here a second time, in words: a permit is taken and given back, a
refusal is counted, and when a state is entered its window is formed and the delay of its timer is found
(`Episode.after?`).  Giving a permit back forms the sum whether there is room for it or not, so the number
of trial calls must leave room in its word for one more.

The numbers of an episode stay within bounds whatever happens at its circuit and whatever is read
(`Episode.Fits.after`), and then each mark has a value (`Episode.Fits.after?_eq`), as long as the refusals
can be counted.
-/

namespace Breaker

open Word

/-- Settings whose numbers are words, with room for one trial call more. -/
structure Settings.Bounded (s : Settings) : Prop where
  sized : s.Sized
  windowSize : s.windowSize < 2 ^ 32
  trialCalls : s.trialCalls < 2 ^ 32 - 1

/-! ### Permits -/

namespace Permits

/-- Takes a permit, if one is left. -/
def takeOne? (p : Permits) : Option (Option Permits) :=
  if p.available = 0 then some none else (sub? p.available 1).map fun _ => p.take?

/-- Gives a permit back; the sum is formed whether there is room for it or not. -/
def giveBack? (p : Permits) : Option Permits :=
  (add? (2 ^ 32 - 1) p.available 1).map fun _ => p.release

theorem takeOne?_eq (p : Permits) : p.takeOne? = some p.take? := by
  unfold takeOne?
  split
  case isTrue empty => rw [take?_eq_none_iff.mpr empty]
  case isFalse some => rw [sub?_of_le (Nat.pos_of_ne_zero some), Option.map_some]

theorem giveBack?_eq {p : Permits} (few : p.limit < 2 ^ 32 - 1) : p.giveBack? = some p.release := by
  have room : p.available + 1 ≤ 2 ^ 32 - 1 := Nat.succ_le_of_lt (p.available_le.trans_lt few)
  rw [giveBack?, add?_of_le room, Option.map_some]

/-- The bound is needed: a pool may be as large as its word, and full. -/
example : (full (2 ^ 32 - 1)).giveBack? = none := by decide

end Permits

/-! ### Episodes -/

namespace Episode

/-- Whether a call may pass at a reading. -/
def request? (e : Episode) (now : Nat) : Option Reply :=
  match e.phase with
  | .halfOpen permits deadline =>
    if deadline.any (· ≤ now) then some (.expired .opened)
    else permits.takeOne?.map fun
      | some left => .granted { e with phase := .halfOpen left deadline }
      | none => .denied
  | _ => some (e.request now)

/-- Counts a refusal. -/
def reject? (e : Episode) : Option Episode :=
  (add? wordMax e.rejected 1).map fun count => { e with rejected := count }

/-- Takes back a permission that was not used. -/
def release? (e : Episode) : Option Episode :=
  match e.phase with
  | .halfOpen permits deadline =>
    permits.giveBack?.map fun permits => { e with phase := .halfOpen permits deadline }
  | _ => some e

/-- The episode with an outcome added to its window. -/
def observed? (e : Episode) (now : Nat) (o : Outcome) : Option Episode :=
  (e.window.record? now o).map fun window => { e with window := window }

/-- Lets time pass in the window up to a reading. -/
def settle? (e : Episode) (now : Nat) : Option Episode :=
  (e.window.settle? now).map fun window => { e with window := window }

/-- The time from a reading to the end of an episode by a timer, if one ends it. -/
def delay? (s : Settings) (now : Nat) (e : Episode) : Option (Option Nat) :=
  match e.timeout? s with
  | some (due, _) => (sub? due now).map some
  | none => some none

/-- The empty window of a state. -/
def window? (s : Settings) (state : State) (now : Nat) : Option Window :=
  match state with
  | .halfOpen => Window.fresh? .count s.trialCalls now
  | .disabled => some .idle
  | _ => Window.fresh? s.windowKind s.windowSize now

variable (s : Settings) (now : Nat)

/-- The episode that follows when a state is entered.  Its window is formed also where the one that
tripped the breaker takes its place. -/
def next? (e : Episode) (target : State) (wait : Duration) (manual : Bool) : Option Episode := do
  let fresh := begin s (e.number + 1) (attemptsOnEntry e.state e.attempts target manual) now
    (phaseOf s target now wait)
  let window ← window? s target now
  let next := if target = .opened && !manual then { fresh with window := window }.inherit e
    else { fresh with window := window }
  let _ ← next.delay? s now
  some next

/-- The current episode after a mark. -/
def after? (e : Episode) : Mark → Option Episode
  | .granted => (e.request? now).map fun
    | .granted taken => taken
    | _ => e
  | .refused => e.reject?
  | .released => e.release?
  | .recorded o => e.observed? now o
  | .told => some e.noteTold
  | .settled => e.settle? now
  | .entered target wait manual timer =>
    (e.next? s now target wait manual).map fun next => { next with timer := timer }

/-- What the numbers of an episode keep to. -/
structure Fits (e : Episode) : Prop where
  window : e.window.Fits
  permits : ∀ permits deadline, e.phase = .halfOpen permits deadline → permits.limit = s.trialCalls

variable {s now} {e : Episode}

theorem request?_eq (e : Episode) (now : Nat) : e.request? now = some (e.request now) := by
  unfold request?
  split
  case h_1 permits deadline phase =>
    by_cases expired : deadline.any (· ≤ now) = true
    · simp [request, phase, expired]
    · cases take : permits.take? with
      | none | some left => simp [request, phase, Permits.takeOne?_eq, take, expired]
  case h_2 => rfl

theorem reject?_eq (few : e.rejected < wordMax) : e.reject? = some e.reject := by
  rw [reject?, add?_of_le few, Option.map_some, reject]

theorem release?_eq (few : ∀ permits deadline, e.phase = .halfOpen permits deadline →
    permits.limit < 2 ^ 32 - 1) : e.release? = some e.release := by
  unfold release? release
  cases phase : e.phase with
  | halfOpen permits deadline =>
    dsimp only
    rw [Permits.giveBack?_eq (few permits deadline phase), Option.map_some]
  | closed | opened | disabled | forcedOpen | metricsOnly => rfl

/-! ### States that are entered -/

theorem le_later (reading : now ≤ wordMax) (span : Nat) : now ≤ later now span :=
  le_min (Nat.le_add_right _ _) reading

/-- **A stay ends after it began.** -/
theorem le_timeout (reading : now ≤ wordMax) {target : State} {wait : Duration}
    (phase : e.phase = phaseOf s target now wait) {due : Nat} {goal : State}
    (timeout : e.timeout? s = some (due, goal)) : now ≤ due := by
  rw [timeout?, phase] at timeout
  cases target with
  | opened =>
    cases probes : s.probesOnTimer with
    | true =>
      simp only [phaseOf, probes, if_true, Option.some.injEq, Prod.mk.injEq] at timeout
      rw [← timeout.1]
      exact le_later reading _
    | false => simp [phaseOf, probes] at timeout
  | halfOpen =>
    cases limited : s.trialLimit.isZero with
    | true => simp [phaseOf, limited] at timeout
    | false =>
      simp only [phaseOf, limited, Bool.false_eq_true, if_false, Option.some.injEq,
        Prod.mk.injEq] at timeout
      rw [← timeout.1]
      exact le_later reading _
  | closed | disabled | forcedOpen | metricsOnly => cases timeout

theorem delay?_eq (reading : now ≤ wordMax) {target : State} {wait : Duration}
    (phase : e.phase = phaseOf s target now wait) :
    e.delay? s now = some ((e.timeout? s).map (·.1 - now)) := by
  unfold delay?
  split
  case h_1 due goal timeout =>
    rw [sub?_of_le (le_timeout reading phase timeout), timeout, Option.map_some, Option.map_some]
  case h_2 none => rw [none, Option.map_none]

variable (bounded : s.Bounded) (reading : now ≤ wordMax)
include bounded reading

/-- **A window is formed** for each state that is entered. -/
theorem window?_eq (state : State) : window? s state now = some (freshWindow s state now) := by
  cases state with
  | halfOpen =>
    have few : s.trialCalls < 2 ^ 32 := bounded.trialCalls.trans (by decide)
    exact Window.fresh?_eq .count bounded.sized.2 few reading
  | disabled => rfl
  | closed | opened | forcedOpen | metricsOnly =>
    exact Window.fresh?_eq s.windowKind bounded.sized.1 bounded.windowSize reading

theorem fits_freshWindow (state : State) : (freshWindow s state now).Fits := by
  cases state with
  | halfOpen => exact .calls bounded.sized.2 (Ring.took_empty _)
  | disabled => exact .idle
  | closed | opened | forcedOpen | metricsOnly =>
    exact .ofKind _ bounded.sized.1 bounded.windowSize reading

/-- **Any state can be entered**, at any reading and with any wait. -/
theorem next?_eq (e : Episode) (target : State) (wait : Duration) (manual : Bool) :
    e.next? s now target wait manual = some (e.next s now target wait manual) := by
  have formed : window? s target now
      = some (freshWindow s (phaseOf s target now wait).state now) := by
    rw [phaseOf_state]
    exact window?_eq bounded reading target
  have delay := delay?_eq (e := e.next s now target wait manual) reading (next_phase target wait manual)
  unfold next?
  simp only [formed, Option.bind_eq_bind, Option.bind_some]
  show ((e.next s now target wait manual).delay? s now).bind _ = _
  rw [delay, Option.bind_some]
  rfl

namespace Fits

theorem begin (number attempts : Nat) (target : State) (wait : Duration) :
    Fits s (Episode.begin s number attempts now (phaseOf s target now wait)) where
  window := fits_freshWindow bounded reading _
  permits := by
    intro permits deadline phase
    cases target with
    | halfOpen =>
      cases phase
      rfl
    | closed | opened | disabled | forcedOpen | metricsOnly => cases phase

variable (fits : Fits s e)
include fits

/-- **Whatever happens at a circuit**, at whatever reading, its numbers stay within bounds. -/
theorem after (m : Mark) : Fits s (e.after s now m) := by
  cases m with
  | granted =>
    rw [Episode.after]
    split
    case h_1 taken granted =>
      obtain rfl | ⟨permits, left, deadline, phase, took, rfl⟩ := request_granted granted
      · exact fits
      · refine ⟨fits.window, fun permits' deadline' same => ?_⟩
        cases same
        rw [(Permits.take?_eq_some took).1]
        exact fits.permits permits _ phase
    case h_2 => exact fits
  | refused => exact ⟨fits.window, fits.permits⟩
  | released =>
    rw [Episode.after, release]
    split
    case h_1 permits deadline phase =>
      refine ⟨fits.window, fun permits' deadline' same => ?_⟩
      cases same
      rw [Permits.limit_release]
      exact fits.permits permits _ phase
    case h_2 => exact fits
  | recorded o => exact ⟨fits.window.record reading o, fits.permits⟩
  | told =>
    rw [Episode.after, noteTold]
    split
    · refine ⟨fits.window, fun permits deadline phase => ?_⟩
      cases phase
    · exact fits
  | settled => exact ⟨fits.window.settle reading, fits.permits⟩
  | entered target wait manual timer =>
    by_cases trip : target = .opened ∧ manual = false
    · obtain ⟨rfl, rfl⟩ := trip
      refine ⟨fits.window, fun permits deadline phase => ?_⟩
      cases phase
    · have begun : Fits s (Episode.begin s (e.number + 1)
          (attemptsOnEntry e.state e.attempts target manual) now (phaseOf s target now wait)) :=
        .begin bounded reading ..
      rw [Episode.after, next_of_fresh trip]
      exact ⟨begun.window, begun.permits⟩

/-- **Each mark has a value in words.** -/
theorem after?_eq (m : Mark) (counted : m = .refused → e.rejected < wordMax) :
    e.after? s now m = some (e.after s now m) := by
  cases m with
  | granted =>
    rw [after?, request?_eq, Option.map_some]
    rfl
  | refused => exact reject?_eq (counted rfl)
  | released =>
    refine release?_eq fun permits deadline phase => ?_
    rw [fits.permits permits deadline phase]
    exact bounded.trialCalls
  | recorded o =>
    rw [after?, observed?, fits.window.record?_eq reading, Option.map_some]
    rfl
  | told => rfl
  | settled =>
    rw [after?, settle?, fits.window.settle?_eq reading, Option.map_some]
    rfl
  | entered target wait manual timer =>
    rw [after?, next?_eq bounded reading, Option.map_some]
    rfl

end Fits

end Episode

end Breaker

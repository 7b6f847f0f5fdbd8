import Breaker.Window.Tally

/-!
# Ring — the window over the last calls

A `Ring` of size `n` keeps one `Slot` per call: its code and its length.  The `k`-th call goes to slot
`k mod n` and evicts what stood there, so the slots hold the last `min k n` calls.  The running totals
are corrected by the difference of what the two calls add, and never summed anew.
-/

namespace Breaker

/-- A call as a ring keeps it. -/
structure Slot where
  code : UInt8
  nanos : Nat
  deriving DecidableEq

namespace Slot

/-- A slot that no call took. -/
def free : Slot := ⟨0, 0⟩

/-- The slot of a call. -/
def of (o : Outcome) : Slot := ⟨o.code, o.duration.word⟩

/-- What the call in a slot added. -/
def held (s : Slot) : Tally := Tally.ofCode s.code s.nanos

@[simp] theorem held_free : free.held = Tally.zero := Tally.ofCode_zero 0

@[simp] theorem held_of (o : Outcome) : (of o).held = Tally.of o := rfl

end Slot

/-- The last `size` calls. -/
structure Ring where
  size : Nat
  /-- The slots in use; they fill from the front. -/
  slots : Array Slot
  /-- The calls recorded so far. -/
  cursor : Nat
  totals : Tally

namespace Ring

/-- A ring of `size` free slots. -/
def empty (size : Nat) : Ring := ⟨size, #[], 0, Tally.zero⟩

/-- The slot that takes the next call. -/
def index (r : Ring) : Nat := r.cursor % r.size

/-- What the next call evicts; a free slot holds nothing. -/
def evicted (r : Ring) : Tally := (r.slots.getD r.index Slot.free).held

/-- Puts a call into a slot, or into the first free one. -/
def store (slots : Array Slot) (i : Nat) (s : Slot) : Array Slot :=
  if i < slots.size then slots.setIfInBounds i s else slots.push s

/-- Adds one call. -/
def record (r : Ring) (o : Outcome) : Ring :=
  let totals := r.totals + (Tally.of o - r.evicted)
  let i := r.index
  { r with slots := store r.slots i (Slot.of o), cursor := r.cursor + 1, totals := totals }

end Ring

end Breaker

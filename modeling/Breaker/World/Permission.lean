import Breaker.World.Succession

/-!
# Permission — asking whether a call may pass

A request is put to the current episode.  If the time of that episode is over, the circuit moves on
and the request is put again, so a request can open a trial or end one.  A refusal is counted in the
episode that refused, logged, and published where refusals are.
-/

namespace Breaker

variable {γ : Type}

/-- Counts, logs and publishes a refusal by the current episode of a circuit. -/
def refuse (react : React γ) (id : CircuitId) : Act γ Unit := do
  modify (·.modifyEpisode id Episode.reject)
  let e := (← get).episode id
  modify (·.log id (.refused e.state e.rejected))
  publishCall react id e.state (pure .notPermitted)

/-- Asks a circuit for permission, over at most `tries` episodes. -/
def tryAcquire (react : React γ) (id : CircuitId) : (tries : Nat) → Act γ Bool
  | 0 => throw .unsettled
  | tries + 1 => do
    let w ← get
    let e := w.episode id
    match e.request (w.reading id) with
    | .granted after =>
      set (w.setEpisode id after)
      return true
    | .denied =>
      refuse react id
      return false
    | .expired next =>
      let _ ← transition react id e next false none
      tryAcquire react id tries

/-- Asks a circuit for permission; a refusal names the state in which the circuit is then. -/
def acquire (react : React γ) (id : CircuitId) (tries : Nat) : Act γ (Except Refusal Unit) := do
  if ← tryAcquire react id tries then
    return .ok ()
  let c := (← get).circuit id
  return .error (.notPermitted c.name c.episode.state)

/-- Gives back a permission that was not used. -/
def release (id : CircuitId) : Act γ Unit :=
  modify (·.modifyEpisode id Episode.release)

end Breaker

import Breaker.World.Report

/-!
# Dealing — what users do with permissions, and note

A user asks a circuit for a permission, and answers each one with a report or gives it back.  The
journal notes all of this from the user's side: that a request is about to be put and what it was
answered, that a call is about to be reported and that its report has returned, and that a permission is
about to be given back.
-/

namespace Breaker

variable {γ : Type}

/-- Notes something done with the permissions of a circuit. -/
def noteDeal (id : CircuitId) (deal : Deal) : Act γ Unit := modify (·.write (.dealt id deal))

/-- Asks a circuit for permission, and notes the answer. -/
def askAndNote (react : React γ) (id : CircuitId) (tries : Nat) : Act γ Bool := do
  noteDeal id .asking
  let granted ← tryAcquire react id tries
  noteDeal id (.asked granted)
  return granted

/-- Asks a circuit for permission, and notes whether it was refused. -/
def acquireAndNote (react : React γ) (id : CircuitId) (tries : Nat) :
    Act γ (Except Refusal Unit) := do
  noteDeal id .asking
  let answer ← acquire react id tries
  noteDeal id (.asked answer.isOk)
  return answer

/-- Gives back a permission that was not used. -/
def noteAndRelease (id : CircuitId) : Act γ Unit := do
  noteDeal id .released
  release id

/-- Reports a call. -/
def noteAndReport (react : React γ) (id : CircuitId) (d : Duration) (r : Report) : Act γ Unit := do
  noteDeal id (.reporting d r)
  r.tell react id d
  noteDeal id (.reported d r)

end Breaker

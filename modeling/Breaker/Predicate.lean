import Breaker.Value
import Breaker.Watched

/-!
# Predicate — conditions on completed calls

A predicate looks at the value, the duration or the circuit of a call.  It may leave a remark each
time it is asked, and it may give up.  A disjunction asks its parts in order and stops at the first
that holds.
-/

namespace Breaker

/-- A condition on a completed call. -/
inductive Predicate where
  | always
  | never
  /-- The value is this text. -/
  | textIs (expected : String)
  /-- The value is an integer below the bound. -/
  | intBelow (bound : Int)
  /-- The value is this truth value. -/
  | flagIs (expected : Bool)
  /-- There is no value. -/
  | isUnit
  /-- The value is a status with a code below the bound. -/
  | statusBelow (bound : Int)
  /-- The call took at least this long. -/
  | lasting (duration : Duration)
  /-- The call was made at this circuit. -/
  | circuitIs (name : String)
  /-- The predicate gives up. -/
  | failing (text : String)
  | negation (p : Predicate)
  | anyOf (ps : List Predicate)
  /-- The condition `p`, with a remark each time it is asked. -/
  | remarking (tag : String) (p : Predicate)

namespace Predicate

mutual

/-- Asks a predicate about a call. -/
def holds (call : Call) : Predicate → Watched Bool
  | .always => pure true
  | .never => pure false
  | .textIs expected => pure (call.value == .text expected)
  | .intBelow bound => pure <| match call.value with
    | .int value => value < bound
    | _ => false
  | .flagIs expected => pure (call.value == .flag expected)
  | .isUnit => pure (call.value == .unit)
  | .statusBelow bound => pure <| match call.value with
    | .status code => (code : Int) < bound
    | _ => false
  | .lasting duration => pure (decide (duration ≤ call.duration))
  | .circuitIs name => pure (call.circuit == name)
  | .failing text => throw (.predicate text)
  | .negation p => do
    let held ← holds call p
    pure (!held)
  | .anyOf ps => holdsAny call ps
  | .remarking tag p => do
    Watched.remark (.predicate tag call.circuit call.duration)
    holds call p

/-- Asks predicates about a call until one holds. -/
def holdsAny (call : Call) : List Predicate → Watched Bool
  | [] => pure false
  | p :: ps => do
    if ← holds call p then pure true else holdsAny call ps

end

end Predicate

end Breaker

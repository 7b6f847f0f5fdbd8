import Breaker.Duration
import Breaker.Text.Quoted
import Breaker.Text.Labelled
import Breaker.Watched

/-!
# Value — what a call returned or failed with

A breaker takes errors and results of any type and leaves it to classifiers to tell them apart.
These are the types that predicates know.  The text of an error is formed by code of the user's, which
may give up (`Fault`).
-/

namespace Breaker

/-- An error or a result. -/
inductive Value where
  | text (value : String)
  | int (value : Int)
  | flag (value : Bool)
  | unit
  | status (code : Nat)
  deriving DecidableEq

/-- The value as text. -/
def Value.describe : Value → String
  | .text value => Text.quoted value
  | .int value => toString value
  | .flag value => Text.truth value
  | .unit => "()"
  | .status code => Text.wrapped "Status" (toString code)

/-- An error as its call failed with it: what classifiers see of it, and what comes of forming its
text, which is the text or what is said on giving up. -/
structure Fault where
  value : Value
  shown : Except String String

namespace Fault

/-- An error of a type whose text can always be formed. -/
def plain (value : Value) : Fault := ⟨value, .ok value.describe⟩

/-- Forms the text of an error. -/
def text (e : Fault) : Watched String :=
  match e.shown with
  | .ok text => pure text
  | .error said => throw (.unshown said)

end Fault

/-- What is reported of a call.  An error is one whose text can be formed. -/
inductive Report where
  | success
  | error (e : Value)
  | result (v : Value)

/-- A completed call as a classifier sees it. -/
structure Call where
  circuit : String
  value : Value
  duration : Duration
  deriving DecidableEq

end Breaker

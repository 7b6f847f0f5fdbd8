import Breaker.Predicate

/-!
# Classifier — how a completed call is counted

A classifier gives a `Verdict` on errors and on results.  By default every error is a failure and
every result a success.  With predicates, an error that is ignored is not looked at further; of the
others, those to be recorded are failures and the rest are successes.
-/

namespace Breaker

/-- How a completed call is counted. -/
inductive Verdict where
  | success
  | failure
  | ignored
  deriving DecidableEq

namespace Verdict

/-- The verdict's text. -/
def text : Verdict → String
  | .success => "Success"
  | .failure => "Failure"
  | .ignored => "Ignored"

/-- The verdict with a text. -/
def ofText? : String → Option Verdict
  | "Success" => some .success
  | "Failure" => some .failure
  | "Ignored" => some .ignored
  | _ => none

end Verdict

/-- Predicates that classify calls; each may be missing. -/
structure Predicates where
  /-- Errors that are not counted at all. -/
  ignoreError : Option Predicate
  /-- The only errors that are failures. -/
  recordError : Option Predicate
  /-- Results that are failures. -/
  recordResult : Option Predicate

/-- No predicate at all. -/
def Predicates.none : Predicates := ⟨.none, .none, .none⟩

/-- A way to classify completed calls. -/
inductive Classifier where
  /-- Errors are failures and results are successes. -/
  | standard
  /-- A classifier of the user's that leaves both decisions as they are. -/
  | bare
  /-- A classifier of the user's that gives one verdict on errors and one on results. -/
  | fixed (onError onResult : Verdict)
  | predicates (ps : Predicates)

namespace Classifier

/-- Whether a predicate is there and holds. -/
def matched (call : Call) : Option Predicate → Watched Bool
  | .none => pure false
  | some p => p.holds call

/-- The verdict on a call that failed. -/
def onError (c : Classifier) (call : Call) : Watched Verdict :=
  match c with
  | .standard | .bare => pure .failure
  | .fixed onError _ => pure onError
  | .predicates ps => do
    if ← matched call ps.ignoreError then return .ignored
    match ps.recordError with
    | .none => return .failure
    | some p => return if ← p.holds call then .failure else .success

/-- The verdict on a call that returned. -/
def onResult (c : Classifier) (call : Call) : Watched Verdict :=
  match c with
  | .standard | .bare => pure .success
  | .fixed _ onResult => pure onResult
  | .predicates ps => return if ← matched call ps.recordResult then .failure else .success

/-- The text that stands for a function. -/
def functionText : String := Text.quoted "<closure>"

/-- The classifier as text. -/
def describe : Classifier → String
  | .standard => "DefaultClassifier"
  | .bare => "Bare"
  | .fixed onError onResult =>
    Text.record "Fixed" [("error", onError.text), ("result", onResult.text)]
  | .predicates ps =>
    let slot (p : Option Predicate) := Text.optional (p.map fun _ => functionText)
    Text.record "PredicateClassifier"
      [("ignore_error", slot ps.ignoreError), ("record_error", slot ps.recordError),
        ("record_result", slot ps.recordResult)]

end Classifier

end Breaker

import Breaker.Proofs.World.Operation

/-!
# Dealings — what a journal tells of permissions

Users note in the journal what they do with permissions (`Deal`).  `Journal.dealings` reads off what this
comes to at one circuit, by how the circuit counts calls, together with the changes of state between: a
`Dealing` is a request that was granted, a report whose outcome counts, the return of such a report, a
permission given back, by a release or by a report of an ignored call, or a state that is entered.  A
report that cannot be classified comes to nothing.

A mark of an episode comes to a dealing too (`Mark.dealing?`).  That the marks of an episode are what the
journal tells of is for the acts to see to.
-/

namespace Breaker

/-- What is done with the permissions of a circuit, as far as it matters to its trials. -/
inductive Dealing where
  /-- A request was granted. -/
  | granted
  /-- A call whose outcome counts was reported. -/
  | recorded
  /-- The report of such a call returned. -/
  | returned
  /-- A permission was given back. -/
  | released
  | entered (target : State) (manual : Bool)
  deriving DecidableEq

/-- What a mark of an episode comes to. -/
def Mark.dealing? : Mark → Option Dealing
  | .granted => some .granted
  | .recorded _ => some .recorded
  | .released => some .released
  | .entered target _ manual _ => some (.entered target manual)
  | .refused | .told | .settled => none

namespace Circuit

/-- What a circuit counts calls by, which is for its life. -/
def terms (c : Circuit) : Settings × String := (c.settings, c.name)

/-- What comes of a user's dealing with a circuit. -/
def dealing? (c : Circuit) : Deal → Option Dealing
  | .asking => none
  | .asked granted => if granted then some .granted else none
  | .released => some .released
  | .reporting d r =>
    match (c.verdict d r).observe.1 with
    | .ok .ignored => some .released
    | .ok _ => some .recorded
    | .error _ => none
  | .reported d r => (c.outcome? d r).map fun _ => .returned

variable {c c' : Circuit} {d : Duration} {r : Report}

theorem dealing?_congr (same : c'.terms = c.terms) : c'.dealing? = c.dealing? := by
  obtain ⟨settings, name⟩ := Prod.mk.inj same
  have verdict (d : Duration) (r : Report) : c'.verdict d r = c.verdict d r := by
    cases r with
    | success => rfl
    | error | result => rw [Circuit.verdict, Circuit.verdict, settings, name]
  funext deal
  cases deal with
  | asking | asked | released => rfl
  | reporting d r => rw [dealing?, dealing?, verdict]
  | reported d r => rw [dealing?, dealing?, outcome?, outcome?, verdict, settings]

theorem dealing?_reporting_of_counted {o : Outcome} (counted : c.outcome? d r = some o) :
    c.dealing? (.reporting d r) = some .recorded := by
  unfold outcome? at counted
  split at counted
  case h_1 success => rw [dealing?, success]
  case h_2 failure => rw [dealing?, failure]
  case h_3 => cases counted

theorem dealing?_reported_of_counted {o : Outcome} (counted : c.outcome? d r = some o) :
    c.dealing? (.reported d r) = some .returned := by rw [dealing?, counted, Option.map_some]

theorem dealing?_reporting_of_ignored (ignored : (c.verdict d r).observe.1 = .ok .ignored) :
    c.dealing? (.reporting d r) = some .released := by rw [dealing?, ignored]

theorem dealing?_reporting_of_unread {cause : Abort}
    (unread : (c.verdict d r).observe.1 = .error cause) : c.dealing? (.reporting d r) = none := by
  rw [dealing?, unread]

theorem dealing?_reported_of_uncounted (uncounted : c.outcome? d r = none) :
    c.dealing? (.reported d r) = none := by rw [dealing?, uncounted, Option.map_none]

end Circuit

/-- What an entry tells of the circuit of a number. -/
@[simp] def Entry.dealing? (c : Circuit) (id : CircuitId) : Entry → Option Dealing
  | .dealt circuit deal => if circuit = id then c.dealing? deal else none
  | .log circuit _ (.transition change _ _ manual) =>
    if circuit = id then some (.entered change.target manual) else none
  | .log circuit _ (.reset _) => if circuit = id then some (.entered .closed true) else none
  | _ => none

namespace Journal

/-- What some entries tell of the circuit of a number. -/
def dealings (c : Circuit) (id : CircuitId) (entries : List Entry) : List Dealing :=
  entries.filterMap (Entry.dealing? c id)

variable (c : Circuit) (id : CircuitId) (entries entries' : List Entry)

@[simp] theorem dealings_nil : dealings c id [] = [] := rfl

@[simp] theorem dealings_append :
    dealings c id (entries ++ entries') = dealings c id entries ++ dealings c id entries' :=
  List.filterMap_append

@[simp] theorem dealings_cons (entry : Entry) :
    dealings c id (entry :: entries) = (entry.dealing? c id).toList ++ dealings c id entries := by
  unfold dealings
  rw [List.filterMap_cons]
  cases entry.dealing? c id with
  | none | some => rfl

theorem dealings_congr {c c' : Circuit} (same : c'.terms = c.terms) :
    dealings c' id entries = dealings c id entries := by
  refine List.filterMap_congr fun entry _ => ?_
  cases entry with
  | dealt => rw [Entry.dealing?, Entry.dealing?, Circuit.dealing?_congr same]
  | log _ _ record => cases record with | transition | reset | refused | exceeded | consumerAborted => rfl
  | note | published => rfl

end Journal

end Breaker

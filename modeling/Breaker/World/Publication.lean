import Breaker.World

/-!
# Publication — telling the subscribers of a circuit

An event is told to those who are subscribed when its publication begins, in the order of their
subscription and whatever they do meanwhile.  A consumer that gives up is noted in the log and keeps
the event from nobody else.

An event about a call may have to be formed by code of the user's first.  That code is asked only if
somebody is subscribed, and no consumer is to blame if it gives up: the publication gives up with it.
-/

namespace Breaker

variable {γ : Type}

/-- Runs a consumer of a circuit; giving up is its own affair, and the log says so.  Only when the
steps allowed for the whole run are used up does the run end here. -/
def isolated (id : CircuitId) (subscription : Nat) (act : Act γ Unit) : Act γ Unit := fun w =>
  match act w with
  | .ok _ after => .ok () after
  | .error .unsettled after => .error .unsettled after
  | .error _ after => .ok () (after.log id (.consumerAborted subscription))

/-- Tells each of some subscribers of an event. -/
def tellEach (react : React γ) (id : CircuitId) (name : String) (event : Event) :
    List (Subscription ConsumerId) → Act γ Unit
  | [] => pure ()
  | s :: rest => do
    isolated id s.id (react s.consumer name event)
    tellEach react id name event rest

/-- Publishes an event of a circuit. -/
def publish (react : React γ) (id : CircuitId) (event : Event) : Act γ Unit := do
  modify (·.write (.published id event))
  let c := (← get).circuit id
  tellEach react id c.name event (c.roster.addressees event)

/-- Publishes an event that is yet to be formed.  If nobody is subscribed it is not formed for anybody,
and the journal shows it as it would be. -/
def publishFormed (react : React γ) (id : CircuitId) (event : Watched Event) : Act γ Unit := do
  if ((← get).circuit id).roster.members.isEmpty then
    match event.observe.1 with
    | .ok formed => publish react id formed
    | .error _ => pure ()
  else
    publish react id (← watch event)

/-- Publishes an event about a call or a refusal, where the state allows it. -/
def publishCall (react : React γ) (id : CircuitId) (state : State) (event : Watched Event) :
    Act γ Unit :=
  if state.publishesCalls then publishFormed react id event else pure ()

end Breaker

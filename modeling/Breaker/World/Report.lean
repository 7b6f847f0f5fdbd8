import Breaker.World.Permission

/-!
# Report — how a call went

A report is classified first, which may be given up before anything has changed.  A success or a
failure is recorded in the current episode, its event is published, and then the change that the
outcome asked for is made, unless a consumer has ended that episode meanwhile.  An ignored call is
not recorded and hands its permission back.  The text of an error is formed when its event is
published, and only for those who are subscribed.
-/

namespace Breaker

variable {γ : Type}

/-- Makes the change that an outcome asked for. -/
def follow (react : React γ) (id : CircuitId) (ticket : Episode) : Option Decision → Act γ Unit
  | none => pure ()
  | some (.trip rates) => do
    let _ ← transition react id ticket .opened false (some rates)
  | some .close => do
    let _ ← transition react id ticket .closed false none
  | some (.tell rates) => do
    modify (·.log id (.exceeded rates))
    publishBreach react id rates

/-- Records an outcome. -/
def record (react : React γ) (id : CircuitId) (o : Outcome) (event : Watched Event) :
    Act γ Unit := do
  let w ← get
  let settings := (w.circuit id).settings
  let now := w.reading id
  modify (·.modifyEpisode id (·.observe now o))
  let ticket := (← get).episode id
  let decision := ticket.followUp settings now
  if decision.any Decision.isTold then
    modify (·.modifyEpisode id Episode.noteTold)
  publishCall react id ticket.state event
  follow react id ticket decision

/-- Leaves a call out of the record. -/
def ignore (react : React γ) (id : CircuitId) (event : Watched Event) : Act γ Unit := do
  release id
  publishCall react id ((← get).episode id).state event

/-- Reports a call that went well. -/
def onSuccess (react : React γ) (id : CircuitId) (d : Duration) : Act γ Unit := do
  let slow := ((← get).circuit id).settings.isSlow d
  record react id ⟨false, slow, d⟩ (pure (.success d))

/-- Reports a call that failed with an error. -/
def onError (react : React γ) (id : CircuitId) (d : Duration) (error : Fault) : Act γ Unit := do
  let c := (← get).circuit id
  let slow := c.settings.isSlow d
  match ← watch (c.settings.classifier.onError ⟨c.name, error.value, d⟩) with
  | .failure => record react id ⟨true, slow, d⟩ (return .error d (← error.text))
  | .success => record react id ⟨false, slow, d⟩ (pure (.success d))
  | .ignored => ignore react id (return .ignoredError d (← error.text))

/-- The event of an error whose text can be formed is at hand. -/
theorem onError_plain (react : React γ) (id : CircuitId) (d : Duration) (error : Value) :
    onError react id d (.plain error) = (do
      let c := (← get).circuit id
      let slow := c.settings.isSlow d
      match ← watch (c.settings.classifier.onError ⟨c.name, error, d⟩) with
      | .failure => record react id ⟨true, slow, d⟩ (pure (.error d error.describe))
      | .success => record react id ⟨false, slow, d⟩ (pure (.success d))
      | .ignored => ignore react id (pure (.ignoredError d error.describe))) := rfl

/-- Reports a call that returned a result. -/
def onResult (react : React γ) (id : CircuitId) (d : Duration) (result : Value) : Act γ Unit := do
  let c := (← get).circuit id
  let slow := c.settings.isSlow d
  match ← watch (c.settings.classifier.onResult ⟨c.name, result, d⟩) with
  | .success => record react id ⟨false, slow, d⟩ (pure (.success d))
  | .failure => record react id ⟨true, slow, d⟩ (pure (.error d "result classified as failure"))
  | .ignored => ignore react id (pure (.ignoredError d "result ignored"))

/-- Reports a call. -/
def Report.tell (react : React γ) (id : CircuitId) (d : Duration) : Report → Act γ Unit
  | .success => onSuccess react id d
  | .error e => onError react id d (.plain e)
  | .result v => onResult react id d v

/-- The metrics of the current episode of a circuit. -/
def readMetrics (id : CircuitId) : Act γ Metrics := do
  let now := (← get).reading id
  modify (·.modifyEpisode id (·.settle now))
  return ((← get).episode id).metrics

end Breaker

import Breaker.Proofs.World.InAccord

/-!
# Unshown — errors whose text cannot be formed

The text of an error is formed for those who listen: not before somebody is subscribed, and not in a state
that tells of no calls.  If it cannot be formed then, the report is given up there (`Quiet.onError_lost`).
By then the outcome is recorded, or the permission is given back; the change of state that the outcome called
for is not made (`World.Unshown`).
-/

namespace Breaker

variable {γ : Type}

/-- **A report is given up** because the text of its error cannot be formed: it was to be told to somebody,
in a state that tells of calls.  The circuit has taken the marks of the report, up to the change of state. -/
structure World.Unshown (w : World γ) (id : CircuitId) (d : Duration) (e : Fault) (said : String)
    (after : World γ) : Prop where
  lacks : e.shown = .error said
  shows : ∃ verdict, ((w.circuit id).verdict d (.error e.value)).observe.1 = .ok verdict ∧
    verdict ≠ .success
  heard : (w.circuit id).roster.members ≠ []
  publishes : (w.episode id).state.publishesCalls = true
  left : ∃ marks, w.Told id d (.error e.value) marks ∧
    (w.setEpisode id ((w.episode id).course (w.circuit id).settings (w.reading id)
      (marks.filter Mark.stays))).Asked after

/-- What an outcome comes to, with the marks that are taken before any change of state. -/
theorem Episode.exists_reports (s : Settings) (now : Nat) (e : Episode) (o : Outcome) :
    ∃ marks, e.Reports s now o marks ∧ marks.filter Mark.stays
      = .recorded o :: if ((e.observe now o).followUp s now).any Decision.isTold then [.told] else [] := by
  cases asks : (e.observe now o).followUp s now with
  | none => exact ⟨_, .alone asks, rfl⟩
  | some decision =>
    cases decision with
    | tell rates => exact ⟨_, .told asks, rfl⟩
    | trip rates => exact ⟨_, .tripped asks .zero none, rfl⟩
    | close => exact ⟨_, .passed asks .zero none, rfl⟩

/-- The functions that are asked first leave the circuit as it is. -/
theorem World.Unshown.of_asked {w asked after : World γ} {id : CircuitId} {d : Duration} {e : Fault}
    {said : String} (first : w.Asked asked) (h : asked.Unshown id d e said after) :
    w.Unshown id d e said after := by
  have aside := first.aside
  obtain ⟨lacks, shows, heard, publishes, marks, told, left⟩ := h
  rw [aside.circuit] at shows heard
  rw [aside.episode] at publishes
  rw [World.Told, aside.circuit, aside.reading, aside.episode] at told
  rw [aside.circuit, aside.reading, aside.episode] at left
  exact ⟨lacks, shows, heard, publishes, marks, told, (first.setEpisode id _).trans left⟩

namespace Quiet

variable {react : React γ} {w : World γ} {id : CircuitId}

/-- An event about a call is lost if it cannot be formed for those who listen, and in no other case. -/
theorem publishCall_lost (quiet : Quiet react) {state : State} {event : Watched Event}
    {ok : Unit → World γ → Prop} {abort : Abort → World γ → Prop} (shown : ∀ after, ok () after)
    (lost : ∀ cause after, state.publishesCalls = true → (w.circuit id).roster.members ≠ [] →
      event.observe.1 = .error cause → w.Asked after → abort cause after) :
    Yields (Breaker.publishCall react id state event) w ok abort := by
  unfold Breaker.publishCall publishFormed
  simp only [yields_ite, yields_bind, yields_get, yields_pure]
  split
  case isFalse => exact shown w
  case isTrue publishes =>
    split
    case isTrue =>
      cases event.observe.1 with
      | ok formed => exact quiet.publish fun after _ => shown after
      | error => exact (yields_pure ()).mpr (shown w)
    case isFalse heard =>
      rw [List.isEmpty_iff] at heard
      refine yields_watch (fun formed after _ _ => quiet.publish fun last _ => shown last) ?_
      exact fun cause after failed asked => lost cause after publishes heard failed asked

/-- **A recorded outcome** stays recorded if its event is lost, and nothing follows from it. -/
theorem record_lost (quiet : Quiet react) (there : id < w.circuits.size) {event : Watched Event}
    (o : Outcome) {abort : Abort → World γ → Prop}
    (other : ∀ cause after, (∀ said, cause ≠ .unshown said) → abort cause after)
    (lost : ∀ cause after marks, (w.episode id).state.publishesCalls = true →
      (w.circuit id).roster.members ≠ [] → event.observe.1 = .error cause →
      Episode.Reports (w.circuit id).settings (w.reading id) (w.episode id) o marks →
      (w.setEpisode id ((w.episode id).course (w.circuit id).settings (w.reading id)
        (marks.filter Mark.stays))).Asked after → abort cause after) :
    Yields (Breaker.record react id o event) w (fun _ _ => True) abort := by
  have ticket : (w.setEpisode id ((w.episode id).observe (w.reading id) o)).episode id
      = (w.episode id).observe (w.reading id) o := World.episode_setEpisode_self w _ there
  obtain ⟨marks, reports, stays⟩ := (w.episode id).exists_reports (w.circuit id).settings
    (w.reading id) o
  -- what follows on the event forms no text
  have follows (after : World γ) : Yields (follow react id ((w.episode id).observe (w.reading id) o)
      (((w.episode id).observe (w.reading id) o).followUp (w.circuit id).settings (w.reading id)))
      after (fun _ _ => True) abort :=
    ((accord_follow quiet Quiet.silent _ _).yields after after.core after.accords_core).mono
      (fun _ _ _ => trivial) other
  have published {v : World γ} (recorded : v = w.setEpisode id ((w.episode id).course
      (w.circuit id).settings (w.reading id) (marks.filter Mark.stays))) :
      Yields (Breaker.publishCall react id ((w.episode id).observe (w.reading id) o).state event) v
        (fun _ after => Yields (follow react id ((w.episode id).observe (w.reading id) o)
          (((w.episode id).observe (w.reading id) o).followUp (w.circuit id).settings
            (w.reading id))) after (fun _ _ => True) abort) abort := by
    subst recorded
    refine quiet.publishCall_lost follows fun cause after publishes heard failed asked => ?_
    rw [World.roster_setEpisode] at heard
    exact lost cause after marks publishes heard failed reports asked
  unfold Breaker.record
  simp only [yields_bind, yields_get, yields_modify, yields_ite, World.modifyEpisode_eq, ticket]
  split
  case isTrue told =>
    refine published ?_
    rw [World.setEpisode_setEpisode, stays, if_pos told]
    rfl
  case isFalse other =>
    refine published ?_
    rw [stays, if_neg other]
    rfl

/-- **A permission** stays given back if the event of an ignored call is lost. -/
theorem ignore_lost (quiet : Quiet react) (there : id < w.circuits.size) {event : Watched Event}
    {abort : Abort → World γ → Prop}
    (lost : ∀ cause after, (w.episode id).state.publishesCalls = true →
      (w.circuit id).roster.members ≠ [] → event.observe.1 = .error cause →
      (w.setEpisode id (w.episode id).release).Asked after → abort cause after) :
    Yields (Breaker.ignore react id event) w (fun _ _ => True) abort := by
  have current : (w.setEpisode id (w.episode id).release).episode id = (w.episode id).release :=
    World.episode_setEpisode_self w _ there
  have stays : (w.episode id).release.state = (w.episode id).state :=
    (@Episode.keeps_after (w.circuit id).settings 0 .released rfl (w.episode id)).state
  unfold Breaker.ignore release
  simp only [yields_bind, yields_get, yields_modify, World.modifyEpisode_eq, current, stays]
  refine quiet.publishCall_lost (fun _ => trivial) fun cause after publishes heard failed asked => ?_
  rw [World.roster_setEpisode] at heard
  exact lost cause after publishes heard failed asked

/-- **The report of an error** is given up for its text only as `World.Unshown` has it. -/
theorem onError_lost (quiet : Quiet react) (there : id < w.circuits.size) (d : Duration) (e : Fault) :
    Yields (onError react id d e) w (fun _ _ => True) fun cause after =>
      ∀ said, cause = .unshown said → w.Unshown id d e said after := by
  unfold onError
  simp only [yields_bind, yields_get]
  refine yields_watch (fun verdict asked classified first => ?_)
    fun cause after failed _ said lost => ?_
  · have aside := first.aside
    have there' : id < asked.circuits.size := by rwa [aside.circuits]
    have judged : ((asked.circuit id).verdict d (.error e.value)).observe.1 = .ok verdict := by
      rw [aside.circuit]
      exact classified
    cases verdict with
    | success =>
      refine quiet.record_lost there' _ (fun cause after other said lost => absurd lost (other said)) ?_
      exact fun cause after marks _ _ failed =>
        absurd failed (Watched.observe_pure_ne_error _ cause)
    | failure =>
      have counted : (asked.circuit id).outcome? d (.error e.value)
          = some ⟨true, (asked.circuit id).settings.isSlow d, d⟩ := by
        rw [Circuit.outcome?, judged]
      rw [← aside.circuit]
      refine quiet.record_lost there' _ (fun cause after other said lost => absurd lost (other said)) ?_
      rintro cause after marks publishes heard failed reports left said rfl
      obtain ⟨said, lacks, ⟨⟩⟩ := Fault.observe_event failed
      refine .of_asked first ⟨lacks, ⟨.failure, judged, by simp⟩, heard, publishes, marks, ?_, left⟩
      rw [World.Told, counted]
      exact reports
    | ignored =>
      have uncounted : (asked.circuit id).outcome? d (.error e.value) = none := by
        rw [Circuit.outcome?, judged]
      refine quiet.ignore_lost there' ?_
      rintro cause after publishes heard failed left said rfl
      obtain ⟨said, lacks, ⟨⟩⟩ := Fault.observe_event failed
      refine .of_asked first
        ⟨lacks, ⟨.ignored, judged, by simp⟩, heard, publishes, [.released], ?_, left⟩
      rw [World.Told, uncounted]
  · obtain ⟨text, rfl⟩ := Classifier.observe_onError failed
    cases lost

end Quiet

end Breaker

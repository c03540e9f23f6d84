import QuarkSelfAI.Followup.Review
import QuarkSelfAI.Workflow.Reports

/-!
# What an event does to a review

`ReviewStep` lists the branches of the reduction. An evaluation is distributed at once
when it has no updates, and after the last of its updates otherwise.
-/

namespace QuarkSelfAI.Followup

open Foundation Storage Workflow Domain

variable {host : Host} {state : FollowupReviewState} {event : Event}

/-- The evaluation that an event distributes, with the state it is distributed from. -/
inductive Distributes (host : Host) (state : FollowupReviewState) (event : Event) :
    FollowupEvaluation → FollowupReviewState → Prop where
  | evaluated {evaluation : FollowupEvaluation} (report : Reports "effect.delivered" evaluateFollowups event)
      (phase : state.phase = .evaluating)
      (accepted : validateFollowupEvaluation host event.payload = .ok evaluation)
      (without : evaluation.updates = []) : Distributes host state event evaluation state
  | applied {evaluation : FollowupEvaluation} (report : Reports "effect.delivered" applyFollowupUpdate event)
      (phase : state.phase = .applying) (last : state.remaining event = some [])
      (known : state.evaluation = some evaluation) :
      Distributes host state event evaluation { state with pending := [] }

/-- The branches of `FollowupReviewState.reduce`. -/
inductive ReviewStep (host : Host) (state : FollowupReviewState) (event : Event) :
    WorkflowDecision FollowupReviewState → Prop where
  | idle (current : Slot) (timer : event.type = "timer") (phase : state.phase = .scheduled)
      (located : state.slot host event.occurredAt = .ok current)
      (idle : ¬ current.due ∨ state.lastCompletedDay = some current.day) : ReviewStep host state event
        { status := .waiting, state, effects := []
          wakeAt := some (some (later event.occurredAt state.pollIntervalMs)) }
  | listed (current : Slot) (timer : event.type = "timer") (phase : state.phase = .scheduled)
      (located : state.slot host event.occurredAt = .ok current) (due : current.due)
      (new : state.lastCompletedDay ≠ some current.day) : ReviewStep host state event
        { status := .waiting, wakeAt := some none
          state := { state with phase := .loading, sequence := state.sequence + 1 }
          effects := [FollowupReviewState.listEffect host
            { state with phase := .loading, sequence := state.sequence + 1 } event current.day] }
  | evaluating (current : Slot) (report : Reports "effect.delivered" listActive event)
      (phase : state.phase = .loading) (located : state.slot host event.occurredAt = .ok current) :
      ReviewStep host state event
        { status := .waiting, state := { state with phase := .evaluating }, wakeAt := some none
          effects := [state.evaluateEffect host event current.day] }
  | applying (evaluation : FollowupEvaluation) (current : Slot)
      (report : Reports "effect.delivered" evaluateFollowups event) (phase : state.phase = .evaluating)
      (accepted : validateFollowupEvaluation host event.payload = .ok evaluation)
      (updates : evaluation.updates ≠ []) (located : state.slot host event.occurredAt = .ok current) :
      ReviewStep host state event
        { status := .waiting, wakeAt := some none
          effects := evaluation.updates.map (state.updateEffect host event current.day)
          state := { state with
            phase := .applying, evaluation := some evaluation
            pending := (evaluation.updates.map (state.updateEffect host event current.day)).map (·.id) } }
  | distributing (evaluation : FollowupEvaluation) (base : FollowupReviewState) (current : Slot)
      (source : Distributes host state event evaluation base)
      (located : state.slot host event.occurredAt = .ok current)
      (told : FollowupReviewState.distribution host event current.day evaluation ≠ []) :
      ReviewStep host state event
        { status := .waiting, wakeAt := some none
          effects := FollowupReviewState.distribution host event current.day evaluation
          state := { base with
            phase := .distributing
            pending := (FollowupReviewState.distribution host event current.day evaluation).map (·.id) } }
  | nothing (evaluation : FollowupEvaluation) (base : FollowupReviewState) (current : Slot)
      (source : Distributes host state event evaluation base)
      (located : state.slot host event.occurredAt = .ok current)
      (untold : FollowupReviewState.distribution host event current.day evaluation = []) :
      ReviewStep host state event (base.finished event current.day)
  | progressed (pending : List String) (outcome : isOutcome event)
      (phase : state.phase = .applying ∨ state.phase = .distributing)
      (left : state.remaining event = some pending) (unfinished : pending ≠ []) :
      ReviewStep host state event (.keep .waiting { state with pending })
  | finished (current : Slot) (outcome : isOutcome event) (phase : state.phase = .distributing)
      (last : state.remaining event = some []) (located : state.slot host event.occurredAt = .ok current) :
      ReviewStep host state event (state.finished event current.day)
  | failed (type : event.type = "effect.failed")
      (phase : state.phase = .loading ∨ state.phase = .evaluating ∨ state.phase = .applying) :
      ReviewStep host state event (state.onFailed event)
  | kept (untimed : event.type = "timer" → state.phase ≠ .scheduled)
      (unreported : state.phase = .distributing → isOutcome event → state.remaining event = none)
      (unfailed : event.type = "effect.failed" → state.phase = .scheduled ∨ state.phase = .distributing)
      (undistributed : ∀ evaluation base, ¬ Distributes host state event evaluation base) :
      ReviewStep host state event (.keep .waiting state)

/-! ## The inversion -/

section

variable {decision : WorkflowDecision FollowupReviewState}

theorem onTimer_reviewStep (timer : event.type = "timer") (phase : state.phase = .scheduled)
    (reduced : state.onTimer host event = .ok decision) : ReviewStep host state event decision := by
  unfold FollowupReviewState.onTimer at reduced
  obtain ⟨current, located, reduced⟩ := bind_ok.mp reduced
  split at reduced
  · rename_i idle
    cases reduced
    exact .idle current timer phase located idle
  · rename_i due
    obtain ⟨due, new⟩ := not_or.mp due
    cases reduced
    exact .listed current timer phase located (not_not.mp due) new

theorem onListed_reviewStep (report : Reports "effect.delivered" listActive event)
    (phase : state.phase = .loading) (reduced : state.onListed host event = .ok decision) :
    ReviewStep host state event decision := by
  unfold FollowupReviewState.onListed at reduced
  split at reduced
  · split at reduced
    · cases reduced
    · obtain ⟨current, located, reduced⟩ := bind_ok.mp reduced
      cases reduced
      exact .evaluating current report phase located
  · cases reduced

theorem distribute_reviewStep {evaluation : FollowupEvaluation} {base : FollowupReviewState}
    (source : Distributes host state event evaluation base)
    (reduced : base.distribute host event evaluation = .ok decision) : ReviewStep host state event decision := by
  have same : base.slot host event.occurredAt = state.slot host event.occurredAt := by
    cases source <;> rfl
  unfold FollowupReviewState.distribute at reduced
  obtain ⟨current, located, reduced⟩ := bind_ok.mp reduced
  rw [same] at located
  dsimp only at reduced
  split at reduced
  · rename_i none
    cases reduced
    exact .nothing evaluation base current source located none
  · rename_i some
    cases reduced
    exact .distributing evaluation base current source located some

theorem onEvaluated_reviewStep (report : Reports "effect.delivered" evaluateFollowups event)
    (phase : state.phase = .evaluating) (reduced : state.onEvaluated host event = .ok decision) :
    ReviewStep host state event decision := by
  unfold FollowupReviewState.onEvaluated at reduced
  obtain ⟨evaluation, accepted, reduced⟩ := bind_ok.mp reduced
  split at reduced
  · rename_i none
    exact distribute_reviewStep (.evaluated report phase accepted none) reduced
  · rename_i some
    obtain ⟨current, located, reduced⟩ := bind_ok.mp reduced
    cases reduced
    exact .applying evaluation current report phase accepted some located

theorem onApplied_reviewStep (report : Reports "effect.delivered" applyFollowupUpdate event)
    (phase : state.phase = .applying) (reduced : state.onApplied host event = .ok decision) :
    ReviewStep host state event decision := by
  have delivered : event.type = "effect.delivered" := report.1
  unfold FollowupReviewState.onApplied at reduced
  split at reduced
  · rename_i none
    cases reduced
    refine .kept ?_ ?_ ?_ ?_
    · intro timer
      rw [delivered] at timer
      exact absurd timer (by decide)
    · intro distributing
      exact absurd (phase.symm.trans distributing) (by decide)
    · intro failed
      rw [delivered] at failed
      exact absurd failed (by decide)
    · rintro evaluation base (⟨-, evaluating, -, -⟩ | ⟨-, -, last, -⟩)
      · exact absurd (phase.symm.trans evaluating) (by decide)
      · rw [none] at last
        cases last
  · rename_i last
    split at reduced
    · cases reduced
    · rename_i evaluation known
      exact distribute_reviewStep (.applied report phase last known) reduced
  · rename_i pending unfinished left
    cases reduced
    exact .progressed pending (by simp [isOutcome, delivered]) (.inl phase) left unfinished

theorem onDistributed_reviewStep (outcome : isOutcome event) (phase : state.phase = .distributing)
    (reduced : state.onDistributed host event = .ok decision) : ReviewStep host state event decision := by
  unfold FollowupReviewState.onDistributed at reduced
  split at reduced
  · rename_i none
    cases reduced
    refine .kept ?_ (fun _ _ => none) (fun _ => .inr phase) ?_
    · intro timer
      simp [isOutcome, timer] at outcome
    · rintro evaluation base (⟨-, other, -, -⟩ | ⟨-, other, -, -⟩)
      all_goals exact absurd (phase.symm.trans other) (by decide)
  · rename_i last
    obtain ⟨current, located, reduced⟩ := bind_ok.mp reduced
    cases reduced
    exact .finished current outcome phase last located
  · rename_i pending unfinished left
    cases reduced
    exact .progressed pending outcome (.inr phase) left unfinished

theorem review_step (reduced : state.reduce host event = .ok decision) : ReviewStep host state event decision := by
  unfold FollowupReviewState.reduce at reduced
  rcases ite_eq_iff.mp reduced with ⟨timer, reduced⟩ | ⟨untimed, reduced⟩
  · exact onTimer_reviewStep timer.1 timer.2 reduced
  rcases ite_eq_iff.mp reduced with ⟨report, reduced⟩ | ⟨-, reduced⟩
  · exact onListed_reviewStep ⟨report.1, report.2.2⟩ report.2.1 reduced
  rcases ite_eq_iff.mp reduced with ⟨report, reduced⟩ | ⟨unevaluated, reduced⟩
  · exact onEvaluated_reviewStep ⟨report.1, report.2.2⟩ report.2.1 reduced
  rcases ite_eq_iff.mp reduced with ⟨report, reduced⟩ | ⟨unapplied, reduced⟩
  · exact onApplied_reviewStep ⟨report.1, report.2.2⟩ report.2.1 reduced
  rcases ite_eq_iff.mp reduced with ⟨report, reduced⟩ | ⟨unreported, reduced⟩
  · exact onDistributed_reviewStep report.1 report.2 reduced
  rcases ite_eq_iff.mp reduced with ⟨failed, reduced⟩ | ⟨unfailed, reduced⟩
  · cases reduced
    exact .failed failed.1 failed.2
  · cases reduced
    refine .kept (fun timer phase => untimed ⟨timer, phase⟩)
      (fun phase outcome => absurd ⟨outcome, phase⟩ unreported) (fun failed => ?_) ?_
    · cases phase : state.phase with
      | scheduled => exact .inl rfl
      | loading => exact absurd ⟨failed, .inl phase⟩ unfailed
      | evaluating => exact absurd ⟨failed, .inr (.inl phase)⟩ unfailed
      | applying => exact absurd ⟨failed, .inr (.inr phase)⟩ unfailed
      | distributing => exact .inr rfl
    · rintro evaluation base (⟨report, phase, -, -⟩ | ⟨report, phase, -, -⟩)
      · exact unevaluated ⟨report.1, phase, report.2⟩
      · exact unapplied ⟨report.1, phase, report.2⟩

end

/-! ## Beginnings -/

theorem followupReviewWorkflow_ok {config : FollowupReviewConfig} {clock : Timestamp}
    {definition : WorkflowDefinition FollowupReviewState}
    (built : followupReviewWorkflow host config clock = .ok definition) :
    ∃ projectId taskProjection timeZone scheduledHour pollIntervalMs, definition =
      reviewDefinition host (initialReview projectId taskProjection timeZone scheduledHour pollIntervalMs) ∧
      0 < pollIntervalMs := by
  unfold followupReviewWorkflow at built
  dsimp only [bind, Except.bind, pure, Except.pure] at built
  repeat' split at built
  all_goals first
    | cases built
      rename_i polls _ _ _
      exact ⟨_, _, _, _, _, rfl, lt_of_lt_of_le (by decide) (integerSetting_le polls)⟩
    | cases built

end QuarkSelfAI.Followup

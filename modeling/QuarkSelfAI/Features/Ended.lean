import QuarkSelfAI.Features.Registry
import QuarkSelfAI.Intake.Approval

/-!
# Ended instances

An instance that has completed or failed is to stay as it is. Five definitions end; in
four of them some late report brings an ended instance back to waiting.
-/

namespace QuarkSelfAI.Features

open Foundation Storage Workflow Domain Intake

open Collaboration (ApprovalState)

variable {host : Host} {event : Event} {status : WorkflowStatus} {decision : WorkflowDecision IntakeState}

/-- A status that is not to change any more. -/
def isEnded (status : WorkflowStatus) : Prop := status = .completed ∨ status = .failed

/-- A decision leaves an ended instance ended, asks for nothing and sets no wake time. -/
structure Absorbed {State : Type} (status : WorkflowStatus) (decision : WorkflowDecision State) : Prop where
  status : decision.status = status
  effects : decision.effects = []
  wakeAt : ∀ instant, decision.wakeAt ≠ some (some instant)

@[simp] theorem not_isEnded_waiting : ¬ isEnded .waiting := by
  simp [isEnded]

theorem not_ended (waits : status = .waiting) : ¬ isEnded status := by
  rw [waits]
  exact not_isEnded_waiting

/-- A decision that waits again does not keep an instance ended. -/
theorem not_absorbed {State : Type} {decision : WorkflowDecision State}
    (ended : isEnded status) (waits : decision.status = .waiting) : ¬ Absorbed status decision :=
  fun absorbed => not_ended (absorbed.status.symm.trans waits) ended

/-- A decision that only repeats the status keeps an instance ended. -/
theorem keep_absorbed {State : Type} {state : State} : Absorbed status (.keep status state) :=
  ⟨rfl, rfl, fun _ => by simp [WorkflowDecision.keep]⟩

/-! ## Definitions that never end -/

section

theorem discovery_begins {input : JsValue} {now : Timestamp} {decision : WorkflowDecision DiscoveryState}
    (begun : initialiseDiscovery input now = .ok decision) : decision.status = .waiting := by
  unfold initialiseDiscovery at begun
  dsimp only [bind, Except.bind, pure, Except.pure] at begun
  repeat' split at begun
  all_goals first
    | cases begun
      rfl
    | cases begun

theorem discovery_waits {state : DiscoveryState} {decision : WorkflowDecision DiscoveryState}
    (reduced : state.reduce event = .ok decision) : decision.status = .waiting := by
  unfold DiscoveryState.reduce DiscoveryState.scheduleNext DiscoveryState.retryLater at reduced
  repeat' split at reduced
  all_goals first
    | cases reduced
      rfl
    | cases reduced

theorem overdue_waits {state : TaskMaintenance.OverdueState} {decision : WorkflowDecision TaskMaintenance.OverdueState}
    (reduced : state.reduce host event = .ok decision) : decision.status = .waiting := by
  unfold TaskMaintenance.OverdueState.reduce at reduced
  split at reduced
  · cases reduced
    rfl
  split at reduced
  · cases reduced
    rfl
  split at reduced
  · unfold TaskMaintenance.OverdueState.onScanned at reduced
    obtain ⟨tasks, -, reduced⟩ := bind_ok.mp reduced
    obtain ⟨reminded, -, reduced⟩ := bind_ok.mp reduced
    cases reduced
    rfl
  split at reduced
  · cases reduced
    rfl
  · cases reduced
    rfl

theorem cleanup_waits {state : TaskMaintenance.CleanupState} {decision : WorkflowDecision TaskMaintenance.CleanupState}
    (reduced : state.reduce host event = .ok decision) : decision.status = .waiting := by
  unfold TaskMaintenance.CleanupState.reduce at reduced
  rcases ite_eq_iff.mp reduced with ⟨-, reduced⟩ | ⟨-, reduced⟩
  · unfold TaskMaintenance.CleanupState.onTimer at reduced
    obtain ⟨slot, -, reduced⟩ := bind_ok.mp reduced
    split at reduced
    · cases reduced
      rfl
    · cases reduced
      rfl
  rcases ite_eq_iff.mp reduced with ⟨-, reduced⟩ | ⟨-, reduced⟩
  · cases reduced
    rfl
  rcases ite_eq_iff.mp reduced with ⟨-, reduced⟩ | ⟨-, reduced⟩
  · unfold TaskMaintenance.CleanupState.onCleaned at reduced
    obtain ⟨deleted, -, reduced⟩ := bind_ok.mp reduced
    cases reduced
    rfl
  rcases ite_eq_iff.mp reduced with ⟨-, reduced⟩ | ⟨-, reduced⟩
  · cases reduced
    rfl
  · cases reduced
    rfl

theorem review_waits {state : Followup.FollowupReviewState} {decision : WorkflowDecision Followup.FollowupReviewState}
    (reduced : state.reduce host event = .ok decision) : decision.status = .waiting := by
  cases Followup.review_step reduced <;> rfl

theorem schedule_waits {state : Collaboration.ScheduleState} {decision : WorkflowDecision Collaboration.ScheduleState}
    (reduced : state.reduce host event = .ok decision) : decision.status = .waiting := by
  unfold Collaboration.ScheduleState.reduce at reduced
  obtain ⟨checked, -, reduced⟩ := bind_ok.mp reduced
  rcases ite_eq_iff.mp reduced with ⟨-, reduced⟩ | ⟨-, reduced⟩
  · cases reduced
    rfl
  rcases ite_eq_iff.mp reduced with ⟨-, reduced⟩ | ⟨-, reduced⟩
  · rcases ite_eq_iff.mp reduced with ⟨-, reduced⟩ | ⟨-, reduced⟩
    · unfold Collaboration.ScheduleState.onBriefed at reduced
      obtain ⟨title, -, reduced⟩ := bind_ok.mp reduced
      obtain ⟨body, -, reduced⟩ := bind_ok.mp reduced
      obtain ⟨reviewedAt, -, reduced⟩ := bind_ok.mp reduced
      cases reduced
      rfl
    · cases reduced
      rfl
  rcases ite_eq_iff.mp reduced with ⟨-, reduced⟩ | ⟨-, reduced⟩
  · cases reduced
    rfl
  · cases reduced
    rfl

end

/-! ## The ends of the other definitions -/

/-- The status that an intake ends with in a stage. -/
def stageEnds : IntakeStage → Option WorkflowStatus
  | .completed => some .completed
  | .failed => some .failed
  | _ => none

def approvalEnds : Collaboration.ApprovalPhase → Option WorkflowStatus
  | .completed => some .completed
  | .failed => some .failed
  | _ => none

/-- The status that an instance ends with which only ever completes. -/
def completes (completed : Prop) [Decidable completed] : Option WorkflowStatus :=
  if completed then some .completed else none

namespace Feature

/-- The status that an instance ends with in a state, if it ends there. -/
def endsWith : (feature : Feature) → feature.State → Option WorkflowStatus
  | .messageIntake, state => stageEnds state.stage
  | .sessionLifecycle, state => completes (state.phase = .completed)
  | .xiaoweiResearch, state => completes (state.phase = .completed)
  | .followupOutreach, state => completes (state.phase = .completed)
  | .collaborationPolicyApproval, state => approvalEnds state.phase
  | _, _ => none

/-- The events that an ended instance is left ended by. -/
def leavesEnded : (feature : Feature) → feature.State → Event → Prop
  -- A failure ends an intake as failed, however it ended; a failed intake is not kept.
  | .messageIntake, state, event =>
    if state.stage = .failed then event.type = "effect.failed" else event.type ≠ "effect.failed"
  | .sessionLifecycle, _, event => ¬ SessionLifecycle.isNotice event
  | .xiaoweiResearch, _, event => ¬ (isOutcome event ∧ Xiaowei.XiaoweiResearchState.aboutNotice event)
  | .followupOutreach, _, event =>
    ¬ (isOutcome event ∧ (Followup.OutreachState.aboutNotice event ∨ effectKind event = some requestInteraction))
  | _, _, _ => True

end Feature

section

/-- A status that tells whether a state is completed. -/
theorem completed_of_ended {completed : Prop} [Decidable completed]
    (ended : isEnded (if completed then .completed else .waiting)) : completed := by
  by_contra unfinished
  rw [if_neg unfinished] at ended
  exact not_isEnded_waiting ended

theorem intake_completes (status : decision.status = if decision.state.stage = .completed then .completed else .waiting)
    (ended : isEnded decision.status) : stageEnds decision.state.stage = some decision.status := by
  rw [status] at ended ⊢
  have completed : decision.state.stage = .completed := completed_of_ended ended
  rw [if_pos completed, completed]
  rfl

theorem intake_ends {state : IntakeState}
    (reduced : state.reduce host event = .ok decision) (ended : isEnded decision.status) :
    stageEnds decision.state.stage = some decision.status := by
  cases intake_step reduced with
  | failed | decided | evaluated => rfl
  | responded | projected | delegated => exact absurd ended not_isEnded_waiting
  | loaded =>
    unfold IntakeState.afterContext at ended
    dsimp only at ended
    split at ended
    all_goals exact absurd ended not_isEnded_waiting
  | settling => exact intake_completes rfl ended
  | other => exact intake_completes rfl ended

theorem intake_absorbed {state : IntakeState} (ends : stageEnds state.stage = some status)
    (reduced : state.reduce host event = .ok decision) :
    Absorbed status decision ↔ Feature.leavesEnded .messageIntake state event := by
  have ended : (state.stage = .completed ∧ status = .completed) ∨ (state.stage = .failed ∧ status = .failed) := by
    unfold stageEnds at ends
    split at ends
    · rename_i stage
      exact .inl ⟨stage, (Option.some_inj.mp ends).symm⟩
    · rename_i stage
      exact .inr ⟨stage, (Option.some_inj.mp ends).symm⟩
    · cases ends
  unfold Feature.leavesEnded
  by_cases failed : event.type = "effect.failed"
  · have fails : decision = state.onFailed event := by
      unfold IntakeState.reduce at reduced
      rw [if_pos failed] at reduced
      exact (Except.ok.inj reduced).symm
    rcases ended with ⟨stage, rfl⟩ | ⟨stage, rfl⟩
    · refine iff_of_false ?_ (by simp [stage, failed])
      intro absorbed
      have status := absorbed.status
      rw [fails] at status
      cases status
    · refine iff_of_true ?_ (by simp [stage, failed])
      rw [fails]
      exact ⟨rfl, rfl, fun _ => by simp [IntakeState.onFailed]⟩
  · have other : decision = state.onOther := by
      have idle : state.stage = .completed ∨ state.stage = .failed := ended.imp (·.1) (·.1)
      cases intake_step reduced with
      | failed type => exact absurd type failed
      | other => rfl
      | responded _ _ stage | decided _ stage | loaded _ stage | evaluated _ _ stage | projected _ _ _ stage
      | delegated _ _ _ stage => simp [stage] at idle
      | settling _ stage => rcases stage with stage | stage <;> simp [stage] at idle
    rw [other]
    rcases ended with ⟨stage, rfl⟩ | ⟨stage, rfl⟩
    · refine iff_of_true ?_ (by simp [stage, failed])
      rw [IntakeState.onOther, if_pos stage]
      exact keep_absorbed
    · refine iff_of_false (not_absorbed (.inr rfl) ?_) (by simp [stage, failed])
      rw [IntakeState.onOther, if_neg (by simp [stage])]
      rfl

theorem completes_some {completed : Prop} [Decidable completed]
    (ends : completes completed = some status) : completed ∧ status = .completed := by
  unfold completes at ends
  split at ends
  · rename_i done
    exact ⟨done, (Option.some_inj.mp ends).symm⟩
  · cases ends

theorem completes_of_ended {completed : Prop} [Decidable completed]
    (told : status = if completed then .completed else .waiting) (ended : isEnded status) :
    completes completed = some status := by
  rw [told] at ended ⊢
  have done : completed := completed_of_ended ended
  rw [completes, if_pos done, if_pos done]

variable {state : SessionLifecycle.SessionState}

theorem session_ends {decision : WorkflowDecision SessionLifecycle.SessionState}
    (reduced : state.reduce host event = .ok decision) (ended : isEnded decision.status) :
    completes (decision.state.phase = .completed) = some decision.status := by
  cases SessionLifecycle.session_step reduced with
  | eligible | deleting | noticed | failed => exact absurd ended not_isEnded_waiting
  | polled =>
    unfold SessionLifecycle.SessionState.onWaitingTimer at ended
    split at ended
    all_goals exact absurd ended not_isEnded_waiting
  | inspected report result =>
    cases result with
    | gone => rfl
    | busy | archived | unused => exact absurd ended not_isEnded_waiting
  | taskChecked report result =>
    cases result with
    | unfinished | finished => exact absurd ended not_isEnded_waiting
  | archived report archivedAt settled waits status => exact absurd ended (not_ended status)
  | deleted report result =>
    cases result with
    | done => rfl
    | refused => exact absurd ended not_isEnded_waiting
  | other => exact completes_of_ended rfl ended

theorem session_absorbed {decision : WorkflowDecision SessionLifecycle.SessionState}
    (ends : completes (state.phase = .completed) = some status) (reduced : state.reduce host event = .ok decision) :
    Absorbed status decision ↔ Feature.leavesEnded .sessionLifecycle state event := by
  obtain ⟨phase, rfl⟩ : state.phase = .completed ∧ status = .completed := completes_some ends
  unfold Feature.leavesEnded
  cases SessionLifecycle.session_step reduced with
  | eligible _ other | polled _ other | deleting _ other => simp [phase] at other
  | inspected report | taskChecked report | archived report | deleted report =>
    simp [SessionLifecycle.Delivered, phase] at report
  | failed operation report own =>
    obtain ⟨-, other⟩ := SessionLifecycle.operationFor_iff.mp own
    cases operation <;> simp [phase, SessionLifecycle.Operation.phase] at other
  | noticed notice => exact iff_of_false (not_absorbed (.inl rfl) rfl) (not_not.mpr notice)
  | other named untimed unnoticed =>
    refine iff_of_true ?_ unnoticed
    have kept : state.onOther event = .keep .completed state := by
      simp [SessionLifecycle.SessionState.onOther, WorkflowDecision.keep, phase]
    rw [kept]
    exact keep_absorbed

theorem research_ends {state : Xiaowei.XiaoweiResearchState} {decision : WorkflowDecision Xiaowei.XiaoweiResearchState}
    (reduced : state.reduce host event = .ok decision) (ended : isEnded decision.status) :
    completes (decision.state.phase = .completed) = some decision.status := by
  cases Xiaowei.research_step reduced with
  | finished => rfl
  | other => exact completes_of_ended rfl ended
  | _ => exact absurd ended not_isEnded_waiting

theorem research_absorbed {state : Xiaowei.XiaoweiResearchState}
    {decision : WorkflowDecision Xiaowei.XiaoweiResearchState}
    (ends : completes (state.phase = .completed) = some status) (reduced : state.reduce host event = .ok decision) :
    Absorbed status decision ↔ Feature.leavesEnded .xiaoweiResearch state event := by
  obtain ⟨phase, rfl⟩ : state.phase = .completed ∧ status = .completed := completes_some ends
  unfold Feature.leavesEnded
  cases Xiaowei.research_step reduced with
  | started _ other | sent _ _ _ other | progressed _ _ _ other | replied _ _ _ _ _ _ _ other
  | finished _ _ other | synced _ _ _ other | retimed _ _ other => simp [phase] at other
  | failed operation _ other => cases operation <;> simp [phase, Xiaowei.Operation.phase] at other
  | unconcerned about =>
    have notice : isOutcome event ∧ Xiaowei.XiaoweiResearchState.aboutNotice event := by
      rcases about with ⟨outcome, notice, -⟩ | ⟨-, other⟩
      · exact ⟨outcome, notice⟩
      · simp [phase] at other
    exact iff_of_false (not_absorbed (.inl rfl) rfl) (not_not.mpr notice)
  | other _ _ unnoticed =>
    refine iff_of_true ?_ unnoticed
    rw [Xiaowei.XiaoweiResearchState.onOther, if_pos phase]
    exact keep_absorbed

theorem outreach_ends {state : Followup.OutreachState} {decision : WorkflowDecision Followup.OutreachState}
    (reduced : state.reduce host event = .ok decision) (ended : isEnded decision.status) :
    completes (decision.state.phase = .completed) = some decision.status := by
  cases Followup.outreach_step reduced with
  | declined | notified => rfl
  | other => exact completes_of_ended rfl ended
  | _ => exact absurd ended not_isEnded_waiting

theorem outreach_absorbed {state : Followup.OutreachState} {decision : WorkflowDecision Followup.OutreachState}
    (ends : completes (state.phase = .completed) = some status) (reduced : state.reduce host event = .ok decision) :
    Absorbed status decision ↔ Feature.leavesEnded .followupOutreach state event := by
  obtain ⟨phase, rfl⟩ : state.phase = .completed ∧ status = .completed := completes_some ends
  unfold Feature.leavesEnded
  cases Followup.outreach_step reduced with
  | resolving _ other | reasked _ other => simp [phase] at other
  | resent _ _ other | rerecorded _ _ other | renotified _ _ other | resolved _ _ other | selected _ _ other
  | queried _ _ other | sent _ _ _ other | replied _ _ _ _ _ other | recorded _ _ _ other | notified _ other =>
    simp [phase] at other
  | declined answer | approved _ answer => simp [Followup.Answered, phase] at answer
  | noticed _ notice => exact iff_of_false (not_absorbed (.inl rfl) rfl) (not_not.mpr ⟨notice.1, .inl notice.2⟩)
  | shown _ report =>
    refine iff_of_false (not_absorbed (.inl rfl) rfl) (not_not.mpr ⟨?_, .inr report.2⟩)
    simp [isOutcome, report.1]
  | failed operation _ report waits =>
    refine iff_of_false (not_absorbed (.inl rfl) rfl) (not_not.mpr ⟨by simp [isOutcome, report.1], .inr ?_⟩)
    -- Only an interaction is retried in any phase.
    cases operation with
    | interaction => exact report.2
    | resolveContact | send | taskUpdate | notify => simpa [phase] using waits _ rfl
  | other _ unnoticed unshown unfailed =>
    refine iff_of_true ?_ ?_
    · rw [Followup.OutreachState.onOther, if_pos phase]
      exact keep_absorbed
    · rintro ⟨outcome, about | kind⟩
      · exact unnoticed ⟨outcome, about⟩
      · rcases of_decide_eq_true outcome with delivered | failed
        · exact unshown ⟨delivered, kind⟩
        · have retried : state.failedOperation event = some (_, .interaction) :=
            Followup.failedOperation_eq kind fun _ waits => by cases waits
          rw [unfailed failed] at retried
          cases retried

theorem approval_ends {state : ApprovalState} {decision : WorkflowDecision ApprovalState}
    (reduced : state.reduce host event = .ok decision) (ended : isEnded decision.status) :
    approvalEnds decision.state.phase = some decision.status := by
  cases Collaboration.approval_step reduced with
  | responded | decided => exact absurd ended not_isEnded_waiting
  | applied | failed => rfl
  | kept =>
    unfold ApprovalState.status at ended
    dsimp only [WorkflowDecision.keep] at ended ⊢
    split at ended
    · rename_i phase
      simp only [ApprovalState.status, approvalEnds, phase]
    · rename_i phase
      simp only [ApprovalState.status, approvalEnds, phase]
    · exact absurd ended not_isEnded_waiting

theorem approval_absorbed {state : ApprovalState} {decision : WorkflowDecision ApprovalState}
    (ends : approvalEnds state.phase = some status) (reduced : state.reduce host event = .ok decision) :
    Absorbed status decision := by
  have kept : decision = .keep state.status state ∧ state.status = status := by
    unfold ApprovalState.reduce at reduced
    unfold ApprovalState.status
    cases phase : state.phase with
    | awaitingApproval | applying => simp [approvalEnds, phase] at ends
    | completed | failed =>
      simp only [phase, reduceCtorEq, false_and, and_false, or_self, if_false, Except.ok.injEq] at reduced
      rw [phase] at ends
      exact ⟨reduced.symm.trans (by simp [ApprovalState.status, phase]), Option.some_inj.mp ends⟩
  rw [kept.1, kept.2]
  exact keep_absorbed

end

/-! ## Every definition -/

section

variable {feature : Feature} {definition : WorkflowDefinition feature.State} {state : feature.State}

namespace Feature

/-- A status that is an end is the one the state tells. -/
def Tells (feature : Feature) (status : WorkflowStatus) (state : feature.State) : Prop :=
  isEnded status → feature.endsWith state = some status

/-- An instance begins waiting. -/
theorem Built.begins (built : feature.Built host definition) {input : JsValue} {now : Timestamp}
    {decision : WorkflowDecision feature.State} (begun : definition.initialise input now = .ok decision) :
    decision.status = .waiting := by
  cases built with
  | messageIntake =>
    obtain ⟨state, rfl, -⟩ := initialiseIntake_ok begun
    rfl
  | focusDiscovery => exact discovery_begins begun
  | sessionLifecycle => exact (SessionLifecycle.initialiseSession_ok begun).2.2.2.2.1
  | xiaoweiResearch => exact (Xiaowei.initialiseResearch_ok begun).1
  | followupOutreach => exact (Followup.initialiseOutreach_ok begun).1
  | overdueMonitor | completedCleanup | followupReview | collaborationSchedule =>
    cases begun
    rfl
  | collaborationPolicyApproval =>
    obtain ⟨proposal, -, begun⟩ := bind_ok.mp begun
    cases begun
    rfl

theorem Built.reduces (built : feature.Built host definition) {decision : WorkflowDecision feature.State}
    (reduced : definition.reduce state event = .ok decision) : feature.Tells decision.status decision.state := by
  intro ended
  cases built with
  | messageIntake => exact intake_ends reduced ended
  | sessionLifecycle => exact session_ends reduced ended
  | xiaoweiResearch => exact research_ends reduced ended
  | followupOutreach => exact outreach_ends reduced ended
  | collaborationPolicyApproval => exact approval_ends reduced ended
  | focusDiscovery => exact absurd ended (not_ended (discovery_waits reduced))
  | overdueMonitor => exact absurd ended (not_ended (overdue_waits reduced))
  | completedCleanup => exact absurd ended (not_ended (cleanup_waits reduced))
  | followupReview => exact absurd ended (not_ended (review_waits reduced))
  | collaborationSchedule => exact absurd ended (not_ended (schedule_waits reduced))

theorem Built.absorbed_iff (built : feature.Built host definition) {decision : WorkflowDecision feature.State}
    (ends : feature.endsWith state = some status) (reduced : definition.reduce state event = .ok decision) :
    Absorbed status decision ↔ feature.leavesEnded state event := by
  cases built with
  | messageIntake => exact intake_absorbed ends reduced
  | sessionLifecycle => exact session_absorbed ends reduced
  | xiaoweiResearch => exact research_absorbed ends reduced
  | followupOutreach => exact outreach_absorbed ends reduced
  | collaborationPolicyApproval => exact iff_of_true (approval_absorbed ends reduced) trivial
  | focusDiscovery | overdueMonitor | completedCleanup | followupReview | collaborationSchedule => cases ends

end Feature

/-- An event leaves an ended instance as it ended just when it is one of those that do. -/
theorem ended_stays (registered : feature.Registers host definition) {events : List Event}
    {progress : Progress feature.State} (run : (folding definition).Run events progress)
    (ended : isEnded progress.status) {decision : WorkflowDecision feature.State}
    (reduced : definition.reduce progress.state event = .ok decision) :
    Absorbed progress.status decision ↔ feature.leavesEnded progress.state event := by
  have tells : feature.Tells progress.status progress.state := by
    refine run_decided ?_ ?_ run
    · intro input now decision begun ended
      exact absurd ended (not_ended (registered.built.begins begun))
    · exact fun state event decision reduced => registered.built.reduces reduced
  exact registered.built.absorbed_iff (tells ended) reduced

end

/-! ## An intake whose task could not be written -/

/-- The task fails while the approval card is still being sent. -/
def taskFails : List Given :=
  cardShown.take 2 ++ [.other (effectReport "intake:8a2e5c3b1d9f4e6a7b8c9d0e:task" upsertIntake "failed"
    [("error", "unavailable")] 1767553203000)]

def cardArrives : Event :=
  effectReport "intake:8a2e5c3b1d9f4e6a7b8c9d0e:approval-card" requestInteraction "delivered" [] 1767553204000

/-- The report of the card, which arrives after the failure, makes a failed intake wait again. -/
theorem failedIntake_reopens : ∃ events failed decision,
    (answering messageHost).Run events failed ∧ failed.status = .failed ∧
      (answering messageHost).Step failed cardArrives (failed.next cardArrives decision) ∧
      (messageIntakeWorkflow messageHost).reduce failed.state cardArrives = .ok decision ∧
      ¬ Absorbed failed.status decision := by
  obtain ⟨failed, decision, replayed, status, produced, fresh, answers, reduced, waits⟩ : ∃ failed decision,
        replay (messageIntakeWorkflow messageHost) Answers taskFails
          (.began messageStart) = some failed ∧
        failed.status = .failed ∧ (Given.other cardArrives).produced = true ∧
        cardArrives.id ∉ failed.eventIds ∧ Answers failed cardArrives ∧
        (messageIntakeWorkflow messageHost).reduce failed.state cardArrives = .ok decision ∧
        decision.status = .waiting :=
    ⟨_, _, rfl, rfl, rfl, by decide, by decide, rfl, rfl⟩
  exact ⟨_, failed, decision, replay_run message_begun replayed, status,
    ⟨⟨Given.produced_spec produced, fresh, decision, reduced, rfl⟩, answers⟩, reduced,
    not_absorbed (.inr status) waits⟩

def ownerDeclines : Event :=
  { ownerApproves with id := "card:declined", type := "approval.declined" }

/-- An approved intake stays completed when the owner declines afterwards. -/
theorem approvedIntake_stays : ∃ progress : Progress IntakeState, ∃ decision, progress.status = .completed ∧
      (messageIntakeWorkflow messageHost).reduce progress.state ownerDeclines = .ok decision ∧
      Absorbed progress.status decision := by
  obtain ⟨progress, decision, replayed, status, reduced, stage⟩ : ∃ progress decision,
      replay (messageIntakeWorkflow messageHost) Answers
        (cardShown ++ [taskWritten, .other ownerApproves]) (.began messageStart) =
          some progress ∧
      progress.status = .completed ∧
      (messageIntakeWorkflow messageHost).reduce progress.state ownerDeclines = .ok decision ∧
      progress.state.stage = .completed :=
    ⟨_, _, rfl, rfl, rfl, rfl⟩
  have run := (replay_run message_begun replayed).unrestricted
  have registered : Feature.messageIntake.Registers messageHost
      (messageIntakeWorkflow messageHost) := rfl
  exact ⟨progress, decision, status, reduced,
    (ended_stays registered run (.inl status) reduced).mpr (by simp [Feature.leavesEnded, stage, ownerDeclines])⟩

end QuarkSelfAI.Features

import QuarkSelfAI.Collaboration.Approval
import QuarkSelfAI.Followup.OutreachSteps
import QuarkSelfAI.Followup.ReviewSteps
import QuarkSelfAI.Intake.Discovery
import QuarkSelfAI.Intake.MessageSteps
import QuarkSelfAI.SessionLifecycle.Steps
import QuarkSelfAI.TaskMaintenance.CleanupEffects
import QuarkSelfAI.TaskMaintenance.OverdueEffects
import QuarkSelfAI.Xiaowei.Steps

/-!
# The registered definitions

Every workflow definition that a plugin registers, each with the states it is about.
Results about all of them are by cases on the feature.
-/

namespace QuarkSelfAI.Features

open Foundation Storage Workflow

inductive Feature where
  | messageIntake
  | focusDiscovery
  | sessionLifecycle
  | xiaoweiResearch
  | overdueMonitor
  | completedCleanup
  | followupReview
  | followupOutreach
  | collaborationSchedule
  | collaborationPolicyApproval

namespace Feature

abbrev State : Feature → Type
  | .messageIntake => Intake.IntakeState
  | .focusDiscovery => Intake.DiscoveryState
  | .sessionLifecycle => SessionLifecycle.SessionState
  | .xiaoweiResearch => Xiaowei.XiaoweiResearchState
  | .overdueMonitor => TaskMaintenance.OverdueState
  | .completedCleanup => TaskMaintenance.CleanupState
  | .followupReview => Followup.FollowupReviewState
  | .followupOutreach => Followup.OutreachState
  | .collaborationSchedule => Collaboration.ScheduleState
  | .collaborationPolicyApproval => Collaboration.ApprovalState

/-- A definition that a feature's plugin can register. -/
def Registers (host : Host) : (feature : Feature) → WorkflowDefinition feature.State → Prop
  | .messageIntake, definition => definition = Intake.messageIntakeWorkflow host
  | .focusDiscovery, definition => definition = Intake.focusDiscoveryWorkflow
  | .sessionLifecycle, definition => ∃ config clock,
      SessionLifecycle.sessionLifecycleWorkflow host config clock = .ok definition
  | .xiaoweiResearch, definition => ∃ config, Xiaowei.xiaoweiResearchWorkflow host config = .ok definition
  | .overdueMonitor, definition => ∃ config clock,
      TaskMaintenance.overdueWorkflow host config clock = .ok definition
  | .completedCleanup, definition => ∃ config clock,
      TaskMaintenance.completedCleanupWorkflow host config clock = .ok definition
  | .followupReview, definition => ∃ config clock,
      Followup.followupReviewWorkflow host config clock = .ok definition
  | .followupOutreach, definition => ∃ config, Followup.followupOutreachWorkflow host config = .ok definition
  | .collaborationSchedule, definition => ∃ intervalMs,
      Collaboration.collaborationScheduleWorkflow host intervalMs = .ok definition
  | .collaborationPolicyApproval, definition => definition = Collaboration.collaborationPolicyApprovalWorkflow host

/-- A registered definition, by what it was built from. -/
inductive Built (host : Host) : (feature : Feature) → WorkflowDefinition feature.State → Prop where
  | messageIntake : Built host .messageIntake (Intake.messageIntakeWorkflow host)
  | focusDiscovery : Built host .focusDiscovery Intake.focusDiscoveryWorkflow
  | sessionLifecycle (settings : SessionLifecycle.SessionSettings) (spaced : settings.Spaced) :
      Built host .sessionLifecycle (SessionLifecycle.sessionDefinition host settings)
  | xiaoweiResearch (settings : Xiaowei.ResearchSettings)
      (spaced : 0 < settings.retryBaseMs ∧ 0 < settings.retryMaxMs) :
      Built host .xiaoweiResearch (Xiaowei.researchDefinition host settings)
  | overdueMonitor (initial : TaskMaintenance.OverdueState) (scheduled : initial.phase = .scheduled)
      (spaced : 0 < initial.intervalMs ∧ 0 < initial.retryMs) :
      Built host .overdueMonitor (TaskMaintenance.overdueDefinition host initial)
  | completedCleanup (initial : TaskMaintenance.CleanupState) (scheduled : initial.phase = .scheduled)
      (spaced : 0 < initial.pollIntervalMs) :
      Built host .completedCleanup (TaskMaintenance.cleanupDefinition host initial)
  | followupReview (initial : Followup.FollowupReviewState) (scheduled : initial.phase = .scheduled)
      (spaced : 0 < initial.pollIntervalMs) :
      Built host .followupReview (Followup.reviewDefinition host initial)
  | followupOutreach (settings : Followup.OutreachSettings)
      (spaced : 0 < settings.retryBaseMs ∧ 0 < settings.retryMaxMs) :
      Built host .followupOutreach (Followup.outreachDefinition host settings)
  | collaborationSchedule (interval : Nat) (spaced : 0 < interval) :
      Built host .collaborationSchedule (Collaboration.scheduleDefinition host interval)
  | collaborationPolicyApproval :
      Built host .collaborationPolicyApproval (Collaboration.collaborationPolicyApprovalWorkflow host)

theorem Registers.built {host : Host} {feature : Feature} {definition : WorkflowDefinition feature.State}
    (registered : feature.Registers host definition) : feature.Built host definition := by
  cases feature with
  | messageIntake =>
    cases registered
    exact .messageIntake
  | focusDiscovery =>
    cases registered
    exact .focusDiscovery
  | sessionLifecycle =>
    obtain ⟨config, clock, registered⟩ := registered
    obtain ⟨settings, rfl, spaced⟩ := SessionLifecycle.sessionLifecycleWorkflow_ok registered
    exact .sessionLifecycle settings spaced
  | xiaoweiResearch =>
    obtain ⟨config, registered⟩ := registered
    obtain ⟨settings, rfl, spaced⟩ := Xiaowei.xiaoweiResearchWorkflow_ok registered
    exact .xiaoweiResearch settings spaced
  | overdueMonitor =>
    obtain ⟨config, clock, registered⟩ := registered
    obtain ⟨initial, rfl, -, -, -, scheduled, spaced⟩ := TaskMaintenance.overdueWorkflow_ok registered
    exact .overdueMonitor initial scheduled spaced
  | completedCleanup =>
    obtain ⟨config, clock, registered⟩ := registered
    obtain ⟨initial, rfl, scheduled, -, -, spaced⟩ := TaskMaintenance.completedCleanupWorkflow_ok registered
    exact .completedCleanup initial scheduled spaced
  | followupReview =>
    obtain ⟨config, clock, registered⟩ := registered
    obtain ⟨projectId, taskProjection, timeZone, scheduledHour, pollIntervalMs, rfl, spaced⟩ :=
      Followup.followupReviewWorkflow_ok registered
    exact .followupReview _ rfl spaced
  | followupOutreach =>
    obtain ⟨config, registered⟩ := registered
    obtain ⟨settings, rfl, spaced⟩ := Followup.followupOutreachWorkflow_ok registered
    exact .followupOutreach settings spaced
  | collaborationSchedule =>
    obtain ⟨intervalMs, registered⟩ := registered
    obtain ⟨interval, set, registered⟩ := bind_ok.mp registered
    cases registered
    exact .collaborationSchedule interval (lt_of_lt_of_le (by decide) (integerSetting_le set))
  | collaborationPolicyApproval =>
    cases registered
    exact .collaborationPolicyApproval

end Feature

end QuarkSelfAI.Features

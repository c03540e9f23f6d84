import QuarkSelfAI.Storage.LedgerKeys
import QuarkSelfAI.Storage.CanonicalJson
import QuarkSelfAI.Storage.PolicyRevisions
import QuarkSelfAI.Execution.Attempts
import QuarkSelfAI.Execution.WorkspacePolicy
import QuarkSelfAI.Execution.Routing
import QuarkSelfAI.Orchestration.BlueprintCompiler
import QuarkSelfAI.Orchestration.ShadowEffects
import QuarkSelfAI.ClientRuntime.Negotiation
import QuarkSelfAI.ClientRuntime.DeviceProtocol
import QuarkSelfAI.ClientRuntime.DeviceFrames
import QuarkSelfAI.ClientRuntime.NoEffectWorker
import QuarkSelfAI.ClientRuntime.IntakeMatters
import QuarkSelfAI.ClientRuntime.Selections
import QuarkSelfAI.ControlPlane.OwnerRecovery
import QuarkSelfAI.ControlPlane.ServiceRecovery
import QuarkSelfAI.ControlPlane.RegistryReads
import QuarkSelfAI.ControlPlane.MatterOwnerEvidence
import QuarkSelfAI.ControlPlane.InstanceLease
import QuarkSelfAI.ControlPlane.LoginThrottle
import QuarkSelfAI.ControlPlane.EnrollmentWindow
import QuarkSelfAI.Runtime.Deadlines
import QuarkSelfAI.Workflow.DueTexts
import QuarkSelfAI.WorkJournal.InOrder
import QuarkSelfAI.WorkJournal.Contract
import QuarkSelfAI.Workflow.EffectOutcome
import QuarkSelfAI.SessionLifecycle.Deletion
import QuarkSelfAI.SessionLifecycle.EffectIds
import QuarkSelfAI.Intake.DiscoveryWindows
import QuarkSelfAI.Intake.OwnerCommands
import QuarkSelfAI.Collaboration.Signals
import QuarkSelfAI.Xiaowei.Protocol
import QuarkSelfAI.Followup.OutreachIds
import QuarkSelfAI.Followup.OutreachSending
import QuarkSelfAI.Followup.OutreachConsent
import QuarkSelfAI.Followup.ReviewDays
import QuarkSelfAI.Features.Timers
import QuarkSelfAI.TaskSystem.Projection
import QuarkSelfAI.ControlPlane.DeviceScopes
import QuarkSelfAI.ControlPlane.DeviceRevocation
import QuarkSelfAI.ControlPlane.DeviceQueue
import QuarkSelfAI.Lark.StreamOrder
import QuarkSelfAI.Lark.DiscoveryComplete
import QuarkSelfAI.Lark.CardCorrelation
import QuarkSelfAI.Policy.Engine
import QuarkSelfAI.Migration.IntakeComplete
import QuarkSelfAI.Platform.Shutdown
import QuarkSelfAI.BridgeCompat.StateRecovery
import QuarkSelfAI.BridgeCompat.IntakeOnce
import QuarkSelfAI.BridgeCompat.OneQuestion
import QuarkSelfAI.BridgeCompat.ExecutionOnce
import QuarkSelfAI.BridgeCompat.DigestDelivery
import QuarkSelfAI.BridgeCompat.ReactionQueue
import QuarkSelfAI.BridgeCompat.InstructionsKept
import QuarkSelfAI.BridgeCompat.SessionJanitor
import QuarkSelfAI.BridgeCompat.SessionDelivery
import QuarkSelfAI.BridgeCompat.ResearchReplies

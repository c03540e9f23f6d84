import QuarkSelfAI.Intake.Message
import QuarkSelfAI.Lark.FocusDiscovery
import QuarkSelfAI.Workflow.Serving

/-!
# The ingress of messages

Messages reach the journal from the event stream and from the discovery. The consumer of
`IntakeService` routes each stored event and ensures an intake for what has a route; the
workflow runtime then carries the intakes on.
-/

namespace QuarkSelfAI.Intake

open Foundation Storage Workflow Lark

def legacyReactionReplayEventKey : String := "quark.migration.feishu-reaction.v1"

def memberAddedEventKey : String := "im.chat.member.user.added_v1"

structure IntakePluginConfig where
  enabled : Bool
  ownerOpenId : String
  workspace : String
  focusSenderIds : List String
  focusConversationIds : List String
  delegationInviterId : Option String
  taskProjection : Option JsValue

/-- The name of the consumer. -/
def messageIntake : String := "message-intake"

def intakeEventKeys : List String :=
  [messageReceivedEventKey, cardActionEventKey, memberAddedEventKey, "im.message.reaction.created_v1",
    "im.message.reaction.deleted_v1", focusDiscoveryEventKey, legacyReactionReplayEventKey]

/-! ## Routes -/

/-- The ids that a mention may name a person by. -/
def mentionIds (mention : JsValue) : List JsValue :=
  let id := mention.get "id"
  [id, mention.get "open_id", mention.get "openId", id.get "open_id", id.get "openId"]

namespace IntakePluginConfig

variable (config : IntakePluginConfig) (event : ChannelEvent)

def isOwner : Bool := event.source.actorId = some config.ownerOpenId

def isDirect (event : ChannelEvent) : Bool := event.payload.get "chatType" = .string "p2p"

def mentioned : Bool :=
  match event.payload.get "mentions" with
  | .array mentions => mentions.any fun mention => isRecord mention ∧ .string config.ownerOpenId ∈ mentionIds mention
  | _ => false

def focusedSender : Bool := event.source.actorId.any (· ∈ config.focusSenderIds)

def focusedConversation : Bool := event.source.containerId.any (· ∈ config.focusConversationIds)

def route : Option IntakeRoute :=
  if config.isOwner event ∧ isDirect event then some .ownerCommand
  else if config.isOwner event ∨ isDirect event then some .focus
  else if config.mentioned event ∨ config.focusedSender event ∨ config.focusedConversation event ∨
      event.eventKey = focusDiscoveryEventKey then some .focus
  else none

/-- A membership event adds the owner. -/
def addsOwner (users : JsValue) : Bool :=
  match users with
  | .array users => users.any fun user => (user.get "user_id").get "open_id" = .string config.ownerOpenId
  | _ => false

def isDelegatedMembership : Bool :=
  let payload := event.payload.get "event"
  event.eventKey = memberAddedEventKey ∧ (config.delegationInviterId.any fun inviterId =>
      inviterId ≠ "" ∧ (payload.get "operator_id").get "open_id" = .string inviterId) ∧
    config.addsOwner (payload.get "users")

def isOwnerReaction : Bool :=
  startsWith event.eventKey "im.message.reaction." ∧
    ((event.payload.get "event").get "user_id").get "open_id" = .string config.ownerOpenId

/-- The route that `handle` starts an intake with, if it starts one. -/
def handled : Option IntakeRoute :=
  if ¬ config.enabled then none
  else if event.kind = "card.action" then
    if event.payload.get "operatorId" = .string config.ownerOpenId then some .interaction else none
  else if event.kind = "message.received" then config.route event
  else if config.isDelegatedMembership event ∨ config.isOwnerReaction event ∨
      event.eventKey = legacyReactionReplayEventKey then some .focus
  else none

end IntakePluginConfig

/-! ## handle -/

def sourceValue (source : SourceRef) : JsValue :=
  .object ((sourceFields source).map fun field => (field.1, .string field.2))

/-- An event as it is read back from the journal. -/
def eventValue (event : ChannelEvent) : JsValue :=
  .object ([("kind", .string event.kind), ("source", sourceValue event.source),
    ("eventKey", .string event.eventKey), ("deduplicationKey", .string event.deduplicationKey),
    ("payload", event.payload), ("raw", event.raw)] ++
    JsValue.whenSome "occurredAt" event.occurredAt .string)

def workflowId (host : Host) (event : ChannelEvent) : String :=
  s!"message-intake:{host.digest 32 event.deduplicationKey}"

def intakeInput (config : IntakePluginConfig) (event : ChannelEvent) (route : IntakeRoute) : JsValue :=
  .object ([("route", .string route.text), ("event", eventValue event),
    ("workspace", .string config.workspace)] ++ JsValue.whenSome "taskProjection" config.taskProjection id)

/-- The runtime, as far as it carries intakes. -/
def intakeRuntime (host : Host) (collate : String → String → Bool) : Runtime IntakeState where
  config := { workerId := "workflow", leaseMs := none, retryDelayMs := none, maxAttempts := none
              batchSize := none }
  definitions kind := if kind = "message-intake.v1" then some (messageIntakeWorkflow host) else none
  effectHandlers _ := none
  collate := collate

/-- `handle`. -/
def handle (host : Host) (collate : String → String → Bool) (config : IntakePluginConfig)
    (event : ChannelEvent) (now clock : Timestamp) (workflows : Store IntakeState) :
    Except String Unit × Store IntakeState :=
  match config.handled event with
  | none => (.ok (), workflows)
  | some route =>
    match (intakeRuntime host collate).ensure (workflowId host event) "message-intake.v1"
        (intakeInput config event route) now clock workflows with
    | (.ok _, workflows) => (.ok (), workflows)
    | (.error message, workflows) => (.error message, workflows)

/-! ## The journal, its consumer and the intakes -/

structure Ingress where
  events : EventStore JsValue Timestamp
  workflows : Store IntakeState

/-- `handle` is one turn of the consumer with an event that it claimed: a turn that is `cut` ends
after the intake is ensured and before the event is settled. The calls of `effects` are those that
move the effects of intakes about. -/
inductive IngressCall where
  | receive (eventKey : String) (value : JsValue) (clock : Timestamp)
  | discover (candidate : Candidate) (clock : Timestamp)
  | claim (workerId : String) (now leaseExpiresAt : Timestamp)
  | handle (workerId eventId : String) (now clock availableAt : Timestamp) (terminal cut : Bool)
  | dispatch (instanceId : String) (event : Event) (clock : Timestamp)
  | effects (call : StoreCall IntakeState JsValue Timestamp)
deriving DecidableEq

inductive IngressReply where
  | appended (event : ChannelEvent) (inserted : Bool)
  | skipped
  | done
  | threw (message : String)
deriving DecidableEq

namespace Ingress

variable (host : LarkHost) (collate : String → String → Bool) (config : IntakePluginConfig)

def append (event : ChannelEvent) (clock : Timestamp) (state : Ingress) : IngressReply × Ingress :=
  match host.appendEvent event clock state.events with
  | (.ok stored, events) => (.appended event stored.inserted, { state with events })
  | (.error message, events) => (.threw message, { state with events })

/-- The end of a turn of the consumer. -/
def finish (workerId eventId : String) (clock availableAt : Timestamp) (terminal : Bool)
    (outcome : Except String Unit) (events : EventStore JsValue Timestamp) : EventStore JsValue Timestamp :=
  let release (error : String) (events : EventStore JsValue Timestamp) :=
    (events.releaseEvent { consumerName := messageIntake, eventId, workerId, error, availableAt, terminal }).2
  match outcome with
  | .error message => release message events
  | .ok _ =>
    match events.settleEvent messageIntake eventId workerId clock with
    | (.ok _, events) => events
    | (.error message, events) => release message events

/-- Whether a call moves effects and nothing else. -/
def movesEffects : StoreCall IntakeState JsValue Timestamp → Bool
  | .createWorkflow .. | .advanceWorkflow .. => false
  | _ => true

def perform (call : IngressCall) (state : Ingress) : IngressReply × Ingress :=
  match call with
  | .receive eventKey value clock =>
    match host.normalizeLarkEvent eventKey value with
    | .error message => (.threw message, state)
    | .ok event => state.append host event clock
  | .discover candidate clock =>
    match host.eventOf candidate with
    | none => (.skipped, state)
    | some event => state.append host event clock
  | .claim workerId now leaseExpiresAt =>
    match state.events.claimNextEvent messageIntake intakeEventKeys workerId now leaseExpiresAt with
    | (.ok _, events) => (.done, { state with events })
    | (.error message, events) => (.threw message, { state with events })
  | .handle workerId eventId now clock availableAt terminal cut =>
    match state.events.events.find? eventId with
    | none => (.skipped, state)
    | some row =>
      let (outcome, workflows) := Intake.handle host.toHost collate config row.event now clock state.workflows
      if cut then (.done, { state with workflows })
      else (.done, {
        workflows, events := finish workerId eventId clock availableAt terminal outcome state.events })
  | .dispatch instanceId event clock =>
    match (intakeRuntime host.toHost collate).dispatch instanceId event clock state.workflows with
    | (.ok _, workflows) => (.done, { state with workflows })
    | (.error message, workflows) => (.threw message, { state with workflows })
  | .effects call =>
    if movesEffects call then (.done, { state with workflows := (state.workflows.perform collate call).2 })
    else (.skipped, state)

def machine : Machine Ingress IngressCall IngressReply where
  initial := ⟨.empty, .empty⟩
  perform := perform host collate config

abbrev Run (history : List (IngressCall × IngressReply)) (state : Ingress) : Prop :=
  (machine host collate config).system.Run history state

end Ingress

end QuarkSelfAI.Intake

import QuarkSelfAI.CapabilityPlatform.CanonicalJson
import QuarkSelfAI.Foundation.Checking
import QuarkSelfAI.Foundation.Resumption
import QuarkSelfAI.Foundation.SortedJson
import QuarkSelfAI.Storage.EventStore
import QuarkSelfAI.Storage.Replay
import QuarkSelfAI.Workflow.Host

/-!
# The handoff of pending messages

A frozen compatibility state is turned into channel events for its pending messages and reactions, one workflow
for every twenty pending digest items, and a checkpoint. They are written one after the other, and whoever is cut
off writes them again. The columns that the database stamps with its own time (`received_at` and `created_at`)
hold 0.
-/

namespace QuarkSelfAI.Migration

open Foundation Storage Workflow

abbrev HandoffEvent := NormalizedChannelEvent JsValue

abbrev PendingWorkflow := CreateWorkflowInput JsValue JsValue Timestamp

structure MessageIntakeHandoff where
  counts : List (String × Nat)
  checkpoint : List (String × JsValue)
  pendingEvents : List HandoffEvent
  pendingWorkflows : List PendingWorkflow
  digest : String

def focusDiscoveryEventKey : String := "quark.focus.discovered.v1"

def legacyReactionReplayEventKey : String := "quark.migration.feishu-reaction.v1"

/-- `ARRAYS`. -/
def stateArrays : List String :=
  ["queue", "processedMessageIds", "processedCardEventIds", "mentionPending", "mentionProcessedMessageIds",
    "notificationDigestPending", "ownerConversation", "ownerEngagedConversations", "ownerEngagementProcessedMessageIds",
    "reactionPendingEvents", "reactionProcessedEventIds", "flaggedConversationChatIds", "delegatedGroupChatIds",
    "groupMembershipKnownChatIds"]

/-- `SCALARS`. -/
def stateScalars : List String :=
  ["mentionLastPollAt", "mentionNextPollAt", "notificationDigestLastSentAt", "ownerEngagementLastPollAt",
    "flaggedConversationLastSyncAt", "groupMembershipLastSyncAt"]

def isRecord : JsValue → Bool
  | .object _ => true
  | _ => false

/-- The list under a name; anything else counts as an empty one. -/
def listOf (value : JsValue) (name : String) : List JsValue :=
  match value.get name with
  | .array items => items
  | _ => []

/-- The text under a name, or `null`. -/
def scalarOf (value : JsValue) (name : String) : JsValue :=
  match value.get name with
  | .string text => .string text
  | _ => .null

def recordOf (value : JsValue) (name : String) : List (String × JsValue) :=
  match value.get name with
  | .object members => members
  | _ => []

/-! ## Checks -/

def required (label : String) : JsValue → Except String String
  | .string text => if isBlank text then .error s!"{label} must be a non-empty string" else .ok text
  | _ => .error s!"{label} must be a non-empty string"

def timestamp (host : Host) (label : String) : JsValue → Except String Timestamp
  | .string text => (host.parseDate text).elim (.error s!"{label} must be a timestamp") .ok
  | _ => .error s!"{label} must be a timestamp"

/-- `optional(value)`. -/
def optional (value : JsValue) (name : String) : String := (value.text? name).getD ""

/-- The text of a value with sorted members. -/
def canonical (value : JsValue) : Option String := JsValue.sortedJson CapabilityPlatform.textOrder value

/-! ## Events -/

def messageIdOf (item : JsValue) : JsValue := (item.get "message").get "message_id"

def pendingMessageEvent (host : Host) (item : JsValue) (index : Nat) : Except String HandoffEvent := do
  let message := item.get "message"
  throwIf (isRecord message = false) s!"pending message {index} is invalid"
  let messageId ← required s!"pending message {index} id" (messageIdOf item)
  let chatId ← required s!"pending message {index} chat id" (message.get "chat_id")
  let content ← required s!"pending message {index} content" (message.get "content")
  let occurredAt ← timestamp host s!"pending message {index} create time" (message.get "create_time")
  .ok
    { kind := "message.received"
      eventKey := focusDiscoveryEventKey
      deduplicationKey := messageId
      source :=
        { channel := "feishu", resourceId := some messageId, containerId := some chatId, eventId := none
          actorId := ((message.get "sender").text? "id").filter (· ≠ "") }
      occurredAt := some (toISOString occurredAt)
      payload := .object
        ([("text", .string content), ("content", .string content)] ++
          JsValue.whenSome "chatType" (message.text? "chat_type") .string ++
          (match message.get "mentions" with
            | .array mentions => [("mentions", .array mentions)]
            | _ => []) ++
          JsValue.whenSome "replyTo" (message.text? "reply_to") .string ++
          JsValue.whenSome "rootId" (message.text? "root_id") .string ++
          JsValue.whenSome "threadId" (message.text? "thread_id") .string)
      raw := message }

def pendingReactionEvent (host : Host) (item : JsValue) (index : Nat) : Except String HandoffEvent := do
  throwIf (isRecord item = false) s!"pending reaction {index} is invalid"
  let eventId ← required s!"pending reaction {index} event id" (item.get "eventId")
  let messageId ← required s!"pending reaction {index} message id" (item.get "messageId")
  let operatorId ← required s!"pending reaction {index} operator id" (item.get "operatorId")
  let emojiType ← required s!"pending reaction {index} emoji type" (item.get "emojiType")
  let occurredAt ← timestamp host s!"pending reaction {index} occurred at" (item.get "occurredAt")
  let operation := (item.text? "operation").getD ""
  throwIf (operation ≠ "deleted" ∧ operation ≠ "created") s!"pending reaction {index} operation is invalid"
  .ok
    { kind := "channel.event"
      eventKey := legacyReactionReplayEventKey
      deduplicationKey := eventId
      source :=
        { channel := "feishu", resourceId := some messageId, containerId := none, eventId := some eventId
          actorId := some operatorId }
      occurredAt := some (toISOString occurredAt)
      payload := .object
        [("operation", .string operation), ("emojiType", .string emojiType),
          ("operatorType", .string ((item.text? "operatorType").getD "user")), ("migratedFromCompatibility", .bool true)]
      raw := .object
        [("eventId", .string eventId), ("messageId", .string messageId), ("operatorId", .string operatorId),
          ("emojiType", .string emojiType), ("operation", .string operation),
          ("occurredAt", .string (toISOString occurredAt))] }

/-! ## Digest workflows -/

structure DigestItem where
  messageId : String
  queuedAt : Timestamp
  deliverAfter : Option Timestamp
  title : String
  source : String
  sender : String
  materialChange : String
  nextAction : String
  ownerMessage : String
  notificationTitle : String
  url : String
deriving DecidableEq

def digestItem (host : Host) (item : JsValue) (index : Nat) : Except String DigestItem := do
  throwIf (isRecord item = false) s!"notification digest item {index} is invalid"
  let queuedAt ← timestamp host s!"notification digest item {index} queuedAt" (item.get "queuedAt")
  let deliverAfter ← match item.get "deliverAfter" with
    | .null | .undefined => .ok none
    | value => (timestamp host s!"notification digest item {index} deliverAfter" value).map some
  let messageId ← required s!"notification digest item {index} messageId" (item.get "messageId")
  let title ← required s!"notification digest item {index} title" (item.get "title")
  let source ← required s!"notification digest item {index} source" (item.get "source")
  let sender ← required s!"notification digest item {index} sender" (item.get "sender")
  .ok
    { messageId, queuedAt, deliverAfter, title, source, sender
      materialChange := optional item "materialChange"
      nextAction := optional item "nextAction"
      ownerMessage := optional item "ownerMessage"
      notificationTitle := optional item "notificationTitle"
      url := optional item "url" }

/-- `items.slice(offset, offset + 20)` for every offset. -/
def chunksOf {α : Type} (items : List α) : List (List α) :=
  (List.range ((items.length + 19) / 20)).map fun index => (items.drop (20 * index)).take 20

/-- The message ids and times that a chunk is known by. -/
def chunkIdentity (chunk : List DigestItem) : String :=
  Host.joined (chunk.map fun item => item.messageId ++ ":" ++ toISOString item.queuedAt)

def chunkKey (host : Host) (chunk : List DigestItem) : String := host.digest 32 (chunkIdentity chunk)

def digestWorkflowId (host : Host) (chunk : List DigestItem) : String := "message-intake-digest:" ++ chunkKey host chunk

def digestEffectId (host : Host) (chunk : List DigestItem) : String :=
  "intake-digest:" ++ chunkKey host chunk ++ ":notification"

/-- When an item is due; `toISOString` throws beyond the last instant of the calendar. -/
def dueAt (item : DigestItem) : Except String Timestamp :=
  match item.deliverAfter with
  | some deliverAfter => .ok deliverAfter
  | none => do
    throwIf (8640000000000000 < item.queuedAt + 21600000) "Invalid time value"
    .ok (item.queuedAt + 21600000)

def digestLine (item : DigestItem) : String :=
  "- **" ++ item.title ++ "**" ++ (if item.ownerMessage ≠ "" then "：" ++ item.ownerMessage
      else if item.materialChange ≠ "" then "：" ++ item.materialChange
      else if item.nextAction ≠ "" then "：" ++ item.nextAction
      else "") ++
    "\n  " ++ item.source ++ " · " ++ item.sender ++ (if item.url ≠ "" then " · " ++ item.url else "")

def digestBody (chunk : List DigestItem) : String :=
  "我把刚才几条不需要立刻打断你的信息合在一起了，共 " ++ toString chunk.length ++ " 件。你有空时扫一眼就行：\n\n" ++
    "\n\n".intercalate (chunk.map digestLine) ++ "\n\n需要你马上决定的事情，我会单独告诉你。"

def digestTitle (chunk : List DigestItem) : String :=
  match chunk with
  | [item] => if item.notificationTitle ≠ "" then item.notificationTitle else "我帮你归拢了几件事"
  | _ => "我帮你归拢了几件事"

def digestPayload (host : Host) (chunk : List DigestItem) : JsValue :=
  .object
    [("title", .string (digestTitle chunk)), ("body", .string (digestBody chunk)),
      ("idempotencyKey", .string ("notification-digest:" ++ chunkKey host chunk))]

def digestState (host : Host) (capturedAt : String) (chunk : List DigestItem) : JsValue :=
  .object
    [("stage", .string "reporting"), ("route", .string "focus"), ("sourceEvent", .object
        [("kind", .string "channel.event"), ("eventKey", .string "quark.migration.notification-digest.v1"),
          ("deduplicationKey", .string ("notification-digest:" ++ chunkKey host chunk)),
          ("source", .object [("channel", .string "compatibility-handoff")]), ("occurredAt", .string capturedAt),
          ("payload", .object [("itemCount", .number chunk.length)]), ("raw", .object [])]),
      ("workspace", .string "compatibility-handoff"), ("pending", .array [.string (digestEffectId host chunk)])]

/-- The workflow of a chunk; it notifies when its last item is due. -/
def digestWorkflow (host : Host) (capturedAt : String) (captured : Timestamp) (chunk : List DigestItem) :
    Except String PendingWorkflow := do
  let times ← each (fun item _ => dueAt item) chunk
  .ok
    { id := digestWorkflowId host chunk
      kind := "message-intake.v1"
      definitionVersion := 1
      status := .waiting
      state := digestState host capturedAt chunk
      wakeAt := none
      effects :=
        [{ id := digestEffectId host chunk
           kind := notifyOwner
           payload := digestPayload host chunk
           availableAt := some ((times.insertionSort fun left right => right ≤ left).head?.getD captured) }] }

def digestWorkflows (host : Host) (values : List JsValue) (capturedAt : String) (captured : Timestamp) :
    Except String (List PendingWorkflow) := do
  let items ← each (digestItem host) values
  each (fun chunk _ => digestWorkflow host capturedAt captured chunk) (chunksOf items)

/-! ## The handoff -/

def sourceJson (source : SourceRef) : JsValue :=
  .object
    (("channel", .string source.channel) :: (JsValue.whenSome "resourceId" source.resourceId .string ++
      JsValue.whenSome "containerId" source.containerId .string ++ JsValue.whenSome "eventId" source.eventId .string ++
      JsValue.whenSome "actorId" source.actorId .string))

def eventJson (event : HandoffEvent) : JsValue :=
  .object
    ([("kind", .string event.kind), ("eventKey", .string event.eventKey),
      ("deduplicationKey", .string event.deduplicationKey), ("source", sourceJson event.source)] ++
      JsValue.whenSome "occurredAt" event.occurredAt .string ++ [("payload", event.payload), ("raw", event.raw)])

def workflowJson (workflow : PendingWorkflow) : JsValue :=
  .object
    [("id", .string workflow.id), ("kind", .string workflow.kind),
      ("definitionVersion", .number workflow.definitionVersion), ("status", .string "waiting"),
      ("state", workflow.state),
      ("effects", .array (workflow.effects.map fun effect => .object
        ([("id", .string effect.id), ("kind", .string effect.kind), ("payload", effect.payload)] ++
          JsValue.whenSome "availableAt" effect.availableAt fun time => .string (toISOString time))))]

/-- What of the state the digest covers. -/
def selectedState (value : JsValue) : JsValue :=
  .object
    (stateArrays.map (fun name => (name, .array (listOf value name))) ++
      stateScalars.map (fun name => (name, scalarOf value name)) ++
      [("reactionStates", .object (recordOf value "reactionStates"))])

def prepareMessageIntakeHandoff (host : Host) (value : JsValue) (capturedAt : String) :
    Except String MessageIntakeHandoff := do
  throwIf (isRecord value = false) "compat state must be an object"
  let captured ← (host.parseDate capturedAt).elim (.error "capturedAt must be an ISO timestamp") .ok
  let messages ← each (pendingMessageEvent host) (listOf value "mentionPending")
  let reactions ← each (pendingReactionEvent host) (listOf value "reactionPendingEvents")
  let pendingWorkflows ← digestWorkflows host (listOf value "notificationDigestPending") capturedAt captured
  let pendingEvents := messages ++ reactions
  let covered : JsValue := .object
    [("selected", selectedState value), ("pendingEvents", .array (pendingEvents.map eventJson)),
      ("pendingWorkflows", .array (pendingWorkflows.map workflowJson))]
  .ok
    { counts := stateArrays.map (fun name => (name, (listOf value name).length)) ++
        [("reactionStates", (recordOf value "reactionStates").length)]
      pendingEvents
      pendingWorkflows
      checkpoint :=
        [("capturedAt", .string capturedAt), ("lastMessagePollAt", scalarOf value "mentionLastPollAt"),
          ("nextMessagePollAt", scalarOf value "mentionNextPollAt"),
          ("flaggedConversationLastSyncAt", scalarOf value "flaggedConversationLastSyncAt"),
          ("groupMembershipLastSyncAt", scalarOf value "groupMembershipLastSyncAt")]
      digest := host.digest 64 ((canonical covered).getD "") }

/-! ## The target -/

/-- The store that takes the handoff over; every effect belongs to an instance (`workflow_effect.instance_id` is a
foreign key), and the checkpoint is the one under `message-intake-handoff` and `compatibility-freeze`. -/
structure IntakeTarget where
  events : EventStore JsValue Timestamp
  workflows : WorkflowStore JsValue JsValue Timestamp
  owned : ∀ row ∈ workflows.effects, (workflows.instances.find? row.instanceId).isSome
  checkpoint : Option JsValue

def IntakeTarget.empty : IntakeTarget where
  events := .empty
  workflows := .empty
  owned _ listed := absurd listed (Table.not_mem_empty _)
  checkpoint := none

def handoffEventId (event : HandoffEvent) : String := "event:" ++ event.source.channel ++ ":" ++ event.deduplicationKey

def appendTo (event : HandoffEvent) (target : IntakeTarget) : Except String (Bool × IntakeTarget) :=
  match target.events.appendEvent (handoffEventId event) event 0 with
  | (.ok stored, events) => .ok (stored.inserted, { target with events })
  | (.error message, _) => .error message

/-- A creation keeps every effect with its instance. -/
theorem createBody_owned {collate : String → String → Bool} {input : PendingWorkflow}
    {store next : WorkflowStore JsValue JsValue Timestamp} {answer : Bool × WorkflowInstance JsValue Timestamp}
    (owned : ∀ row ∈ store.effects, (store.instances.find? row.instanceId).isSome)
    (created : WorkflowStore.createBody collate input 0 store = .ok (answer, next)) :
    ∀ row ∈ next.effects, (next.instances.find? row.instanceId).isSome := by
  unfold WorkflowStore.createBody at created
  split at created
  · split at created
    · cases created
    · split at created
      · cases created
      · split at created
        · cases created
        · cases created
          exact owned
  · rename_i instances inserted
    obtain ⟨effects, requested, same⟩ := bind_ok.mp created
    cases same
    intro row listed
    dsimp only at listed ⊢
    rw [← Table.mem_rows, WorkflowStore.insertWorkflowEffects_rows requested] at listed
    rcases List.mem_append.mp listed with before | here
    · obtain ⟨stored, found⟩ := Option.isSome_iff_exists.mp (owned row before)
      rw [Table.find?_kept inserted found]
      rfl
    · obtain ⟨effect, -, rfl⟩ := List.mem_map.mp here
      have own := Table.find?_new inserted
      rw [WorkflowStore.createdRow_id] at own
      rw [WorkflowStore.effectRow, own]
      rfl

def createIn (collate : String → String → Bool) (input : PendingWorkflow) (target : IntakeTarget) :
    Except String (Bool × IntakeTarget) :=
  match created : WorkflowStore.createBody collate input 0 target.workflows with
  | .ok (answer, workflows) => .ok (answer.1, { target with workflows, owned := createBody_owned target.owned created })
  | .error message => .error message

/-- `writeFeatureCheckpoint`. -/
def writeCheckpoint (checkpoint : JsValue) (target : IntakeTarget) : Except String IntakeTarget :=
  .ok { target with checkpoint := some checkpoint }

structure HandoffReport where
  insertedEvents : Nat
  existingEvents : Nat
  insertedWorkflows : Nat
  existingWorkflows : Nat
  writtenCheckpoint : Nat

/-- The checkpoint that is written. -/
def handoffCheckpoint (handoff : MessageIntakeHandoff) : JsValue :=
  .object (handoff.checkpoint ++ [("digest", .string handoff.digest)])

/-- Compare the checkpoint that is there, or write it. -/
def settleCheckpoint (checkpoint : JsValue) : Program IntakeTarget String Nat := do
  let target ← Program.read
  match target.checkpoint with
  | some existing =>
    if canonical existing = canonical checkpoint then return 0
    else Program.throwing "native message intake checkpoint already has different content"
  | none => do
    Program.write (writeCheckpoint checkpoint)
    return 1

def applyMessageIntakeHandoff (collate : String → String → Bool) (handoff : MessageIntakeHandoff)
    (expectedDigest : String) : Program IntakeTarget String HandoffReport :=
  if handoff.digest ≠ expectedDigest then Program.throwing "message intake handoff digest changed after audit"
  else do
    let insertedEvents ← Program.tally appendTo handoff.pendingEvents
    let insertedWorkflows ← Program.tally (createIn collate) handoff.pendingWorkflows
    let writtenCheckpoint ← settleCheckpoint (handoffCheckpoint handoff)
    return {
      insertedEvents
      existingEvents := handoff.pendingEvents.length - insertedEvents
      insertedWorkflows
      existingWorkflows := handoff.pendingWorkflows.length - insertedWorkflows
      writtenCheckpoint }

end QuarkSelfAI.Migration

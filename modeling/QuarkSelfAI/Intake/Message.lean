import QuarkSelfAI.Domain.EffectKinds

/-!
# Message intake

`messageIntakeWorkflow`: takes one message of the owner or of a watched conversation,
loads its context, has it evaluated or delegated, projects a task or a card, and waits
for the owner's approval where the evaluation asks for one.
-/

namespace QuarkSelfAI.Intake

open Foundation Storage Workflow Domain

def evaluateFocus : String := "assistant.intake.evaluate-focus.v1"

def applyInteraction : String := "assistant.intake.apply-interaction.v1"

inductive IntakeStage where
  | loadingContext
  | evaluating
  | projecting
  | awaitingApproval
  | reporting
  | completed
  | failed
deriving DecidableEq

inductive IntakeRoute where
  | ownerCommand
  | focus
  | interaction
deriving DecidableEq

def IntakeRoute.text : IntakeRoute → String
  | .ownerCommand => "owner-command"
  | .focus => "focus"
  | .interaction => "interaction"

def IntakeRoute.read : JsValue → Option IntakeRoute
  | .string "owner-command" => some .ownerCommand
  | .string "focus" => some .focus
  | .string "interaction" => some .interaction
  | _ => none

inductive IntakeOutcome where
  | ignored
  | task
  | notify
deriving DecidableEq

def IntakeOutcome.read : JsValue → Option IntakeOutcome
  | .string "ignored" => some .ignored
  | .string "task" => some .task
  | .string "notify" => some .notify
  | _ => none

/-- An event of a channel; its deduplication key can be hashed. -/
structure SourceEvent where
  value : JsValue
  deduplicationKey : String
  keyed : value.get "deduplicationKey" = .string deduplicationKey
deriving DecidableEq

/-- A decision that was accepted: the value as it came, and what the workflow reads of it. -/
structure IntakeDecision where
  value : JsValue
  outcome : IntakeOutcome
  notifyOwner : Bool
  approvalRequired : Bool
deriving DecidableEq

inductive ApprovalDecision where
  | approved
  | declined
deriving DecidableEq

structure IntakeState where
  stage : IntakeStage
  route : IntakeRoute
  sourceEvent : SourceEvent
  workspace : String
  pending : List String
  decision : Option IntakeDecision
  approvalId : Option String
  taskProjection : Option JsValue
  delegatedSessionId : Option String
  approvalResponse : Option String
  approvalResponseAt : Option Timestamp
  approvalDecision : Option ApprovalDecision
  approvalDecidedAt : Option Timestamp
  failure : Option JsValue
deriving DecidableEq

/-! ## validateIntakeDecision -/

/-- A string with something in it. -/
def isWritten : JsValue → Bool
  | .string text => ¬ isBlank text
  | _ => false

/-- `String(value)` is one of the texts. -/
def isOneOf (host : Host) (texts : List String) (value : JsValue) : Bool := host.text value ∈ texts

/-- A safe integer of minutes within half an hour. -/
def isDelay : JsValue → Bool
  | .number value => isSafeInteger value ∧ 0 ≤ value ∧ value ≤ 30
  | _ => false

/-- How the owner is to be told, where the decision says so. -/
def validateNotification (host : Host) (value : JsValue) (notifyOwner approvalRequired : Bool) : Except String Unit :=
  let mode := value.get "notificationMode"
  let delay := value.get "notificationDelayMinutes"
  if mode = .undefined then .ok ()
  else if ¬ isOneOf host ["realtime", "digest", "silent"] mode then .error "invalid intake notification mode"
  else if (¬ notifyOwner) ≠ (mode = .string "silent") then
    .error "intake notification mode conflicts with notifyOwner"
  else if ¬ isDelay delay then .error "invalid intake notification delay"
  else if mode ≠ .string "digest" ∧ delay ≠ .number 0 then .error "only digest intake may be delayed"
  else if notifyOwner ∧ ¬ (isWritten (value.get "notificationTitle") ∧ isWritten (value.get "ownerMessage")) then
    .error "notified intake requires owner-facing copy"
  else if ¬ notifyOwner ∧ ¬ (isFalsy (value.get "notificationTitle") ∧ isFalsy (value.get "ownerMessage")) then
    .error "silent intake cannot contain owner-facing copy"
  else if ¬ isOneOf host ["blue", "green", "yellow", "red", "grey"] (value.get "cardTone") then
    .error "invalid intake card tone"
  else if approvalRequired ∧ (mode ≠ .string "realtime" ∨ delay ≠ .number 0) then
    .error "approval-required intake must be realtime"
  else .ok ()

local instance optionRat_lawful : LawfulBEq (Option Rat) := inferInstance

/-- What makes a decision a task. -/
def validateTask (host : Host) (value : JsValue) : Except String Unit :=
  if ¬ isWritten (value.get "title") then .error "task intake title is required"
  else if host.toNumber (value.get "priority") ∉ [some 1, some 3, some 5] then
    .error "actionable task priority must be 1, 3, or 5"
  else
    match value.get "tags" with
    | .array tags => if tags.all isWritten then .ok () else .error "task intake tags must be strings"
    | _ => .error "task intake tags must be strings"

def validateIntakeDecision (host : Host) (value : JsValue) : Except String IntakeDecision :=
  match value with
  | .object _ =>
    match IntakeOutcome.read (value.get "outcome") with
    | none => .error "invalid intake outcome"
    | some outcome =>
      if ¬ isWritten (value.get "summary") then .error "intake decision summary is required"
      else
        match value.get "materialChange", value.get "notifyOwner", value.get "approvalRequired" with
        | .bool materialChange, .bool notifyOwner, .bool approvalRequired => do
          if outcome = .ignored ∧ (notifyOwner ∨ approvalRequired) then
            .error "ignored intake cannot notify or request approval"
          if ¬ materialChange ∧ notifyOwner then .error "unchanged intake must remain silent"
          if approvalRequired ∧ ¬ notifyOwner then .error "approval-required intake must notify the owner"
          validateNotification host value notifyOwner approvalRequired
          if outcome = .task then validateTask host value
          if value.get "dueDate" ≠ .undefined ∧ host.parseDate (host.text (value.get "dueDate")) = none then
            .error "invalid intake dueDate"
          if value.get "researchDecision" ≠ .undefined ∧
              ¬ isOneOf host ["start", "confirm", "skip"] (value.get "researchDecision") then
            .error "invalid research decision"
          return { value, outcome, notifyOwner, approvalRequired }
        | _, _, _ => .error "intake decision flags are required"
  | _ => .error "intake decision must be an object"

/-! ## Effects -/

/-- `effect(event, suffix)`. -/
def SourceEvent.effect (host : Host) (event : SourceEvent) (suffix : String) : String :=
  s!"intake:{host.digest 24 event.deduplicationKey}:{suffix}"

namespace IntakeState

variable (host : Host) (state : IntakeState) (event : Event)

def effectId (suffix : String) : String := state.sourceEvent.effect host suffix

/-- An effect of the intake, to be carried out at once. -/
def ask (suffix kind : String) (payload : List (String × JsValue)) : EffectInput :=
  { id := state.effectId host suffix, kind, availableAt := none, payload := .object payload }

/-- The key under which a message becomes a task. -/
def taskKey : Except String String :=
  match state.sourceEvent.value.get "source" with
  | .undefined => .error "Cannot read properties of undefined (reading 'resourceId')"
  | .null => .error "Cannot read properties of null (reading 'resourceId')"
  | source =>
    match source.get "resourceId" with
    | .undefined | .null => .ok s!"feishu:{state.sourceEvent.deduplicationKey}"
    | resourceId => .ok s!"feishu:{host.text resourceId}"

def taskEffect (decision : IntakeDecision) : Except String EffectInput :=
  match state.taskProjection with
  | none => .error "task intake requires projection target and authorization"
  | some target => do
    let key ← state.taskKey host
    let members := assignAll [("sourceEvent", state.sourceEvent.value), ("decision", decision.value)] target.members
    return state.ask host "task" upsertIntake (assign (assign members
      "effectiveAt" (.string (toISOString event.occurredAt))) "idempotencyKey" (.string key))

/-- The approval that a decision asks for. -/
def approvalFor (decision : IntakeDecision) : Option String :=
  if decision.approvalRequired then some (state.effectId host "approval-decision") else none

/-- The card for the owner, with an approval or without. -/
def cardEffect (decision : IntakeDecision) : EffectInput :=
  let approval := match state.approvalFor host decision with
    | none => []
    | some approvalId => [("mode", JsValue.string "approval"), ("approvalId", .string approvalId)]
  state.ask host (if decision.approvalRequired then "approval-card" else "notification")
    (if decision.approvalRequired then requestInteraction else notifyOwner)
    ([("sourceEvent", state.sourceEvent.value), ("decision", decision.value)] ++ approval ++
      [("requireExactCorrelation", .bool true), ("targetOwnerOnly", .bool true)])

/-- The task that a decision asks for, if it does. -/
def tasks (decision : IntakeDecision) : Except String (List EffectInput) :=
  if decision.outcome = .task then do
    let effect ← state.taskEffect host event decision
    return [effect]
  else .ok []

/-- The effects that a decision asks for: a task, then a card. -/
def projections (decision : IntakeDecision) : Except String (List EffectInput) := do
  let tasks ← state.tasks host event decision
  return tasks ++ if decision.notifyOwner then [state.cardEffect host decision] else []

/-! ## reduce -/

/-- Wait for one effect in a stage. -/
def awaiting (stage : IntakeStage) (effect : EffectInput) : WorkflowDecision IntakeState :=
  { status := .waiting, wakeAt := none, effects := [effect]
    state := { state with stage, pending := [effect.id] } }

def onOther : WorkflowDecision IntakeState := .keep (if state.stage = .completed then .completed else .waiting) state

def onFailed : WorkflowDecision IntakeState :=
  { status := .failed, wakeAt := some none, effects := []
    state := { state with stage := .failed, failure := some (event.payload.get "error") } }

def afterContext : WorkflowDecision IntakeState :=
  let context := event.payload.get "context"
  if state.route = .ownerCommand then
    state.awaiting .projecting (state.ask host "delegate" dispatchConversation
      [("event", state.sourceEvent.value), ("context", context), ("workspace", .string state.workspace)])
  else
    state.awaiting .evaluating (state.ask host "evaluate" evaluateFocus
      [("event", state.sourceEvent.value), ("context", context)])

def afterDelegation : Except String (WorkflowDecision IntakeState) := do
  let sessionId ← boundedText "delegated sessionId is required" "delegated sessionId" 300
    (event.payload.get "sessionId")
  let summary ← boundedText "delegated summary is required" "delegated summary" 30000
    (event.payload.get "summary")
  return { state with delegatedSessionId := some sessionId }.awaiting .reporting
    (state.ask host "delegation-result" notifyOwner
      [("title", "飞书要求已处理"), ("body", .string s!"{summary}\n\nDSH 会话：{sessionId}"),
        ("idempotencyKey", .string s!"conversation-result:{state.sourceEvent.deduplicationKey}")])

/-- Nothing is left to be done for a decision. -/
def settled (decision : IntakeDecision) : WorkflowDecision IntakeState :=
  { status := .completed, wakeAt := some none, effects := []
    state := { state with stage := .completed, pending := [], decision := some decision } }

def afterEvaluation : Except String (WorkflowDecision IntakeState) := do
  let decision ← validateIntakeDecision host (event.payload.get "decision")
  if decision.outcome = .ignored then return state.settled decision
  let effects ← state.projections host event decision
  if effects = [] then return state.settled decision
  return { status := .waiting, wakeAt := none, effects
           state := { state with
             stage := .projecting, pending := effects.map (·.id), decision := some decision
             approvalId := (state.approvalFor host decision).or state.approvalId } }

/-- `String(value ?? '')`. -/
def textOf (value : JsValue) : String :=
  match value with
  | .undefined | .null => ""
  | value => host.text value

def settleProjection : WorkflowDecision IntakeState :=
  let pending := state.pending.filter (· ≠ textOf host (event.payload.get "effectId"))
  let settledStage : IntakeStage :=
    if pending = [] then if state.approvalId.isSome then .awaitingApproval else .completed else .projecting
  { status := if settledStage = .completed then .completed else .waiting
    state := { state with stage := settledStage, pending }
    wakeAt := if pending = [] then some none else none
    effects := [] }

/-- The event names the approval that the intake waits for. -/
def isOwnApproval : Prop := ∃ approvalId ∈ state.approvalId, event.payload.get "approvalId" = .string approvalId

instance : Decidable (state.isOwnApproval event) :=
  inferInstanceAs (Decidable (∃ approvalId ∈ state.approvalId, event.payload.get "approvalId" = .string approvalId))

def recordApprovalResponse : Except String (WorkflowDecision IntakeState) :=
  if ¬ state.isOwnApproval event then .error "intake approval correlation mismatch"
  else do
    let response ← boundedText "approval response is required" "approval response" 1000
      (event.payload.get "response")
    return { status := .waiting, wakeAt := none, effects := []
             state := { state with
               approvalResponse := some response, approvalResponseAt := some event.occurredAt } }

/-- The owner's decision that an event gives. -/
def decisionOf (event : Event) : ApprovalDecision := if event.type = "approval.approved" then .approved else .declined

def finishApproval : Except String (WorkflowDecision IntakeState) :=
  if ¬ state.isOwnApproval event then .error "intake approval correlation mismatch"
  else .ok { status := .completed, wakeAt := some none, effects := []
             state := { state with
               stage := .completed, approvalDecision := some (decisionOf event)
               approvalDecidedAt := some event.occurredAt } }

def onDelivered : Except String (WorkflowDecision IntakeState) :=
  let kind := textOf host (event.payload.get "effectKind")
  if state.stage = .loadingContext ∧ kind = loadMessageContext then .ok (state.afterContext host event)
  else if state.stage = .evaluating ∧ kind = evaluateFocus then state.afterEvaluation host event
  else if state.stage = .projecting ∧ state.route = .ownerCommand ∧ kind = dispatchConversation then
    state.afterDelegation host event
  else if state.stage = .projecting ∨ state.stage = .reporting then .ok (state.settleProjection host event)
  else .ok state.onOther

def reduce : Except String (WorkflowDecision IntakeState) :=
  if event.type = "effect.failed" then .ok (state.onFailed event)
  else if state.stage = .awaitingApproval ∧ event.type = "approval.response" then
    state.recordApprovalResponse event
  else if state.stage = .awaitingApproval ∧ (event.type = "approval.approved" ∨ event.type = "approval.declined") then
    state.finishApproval event
  else if event.type ≠ "effect.delivered" then .ok state.onOther
  else state.onDelivered host event

end IntakeState

/-! ## initialize -/

/-- `effect` refuses a deduplication key that cannot be hashed. -/
def readSourceEvent (value : JsValue) : Except String SourceEvent :=
  match keyed : value.get "deduplicationKey" with
  | .string deduplicationKey => .ok { value, deduplicationKey, keyed }
  | _ => .error "The \"data\" argument must be of type string or an instance of Buffer, TypedArray, or DataView."

/-- `value.workspace?.trim()`, if it leaves something. -/
def readWorkspace : JsValue → Except String String
  | .string text => if isBlank text then .error "invalid message intake input" else .ok text
  | .undefined | .null => .error "invalid message intake input"
  | _ => .error "value.workspace?.trim is not a function"

/-- The route of an input that names a message. -/
def readRoute (input : JsValue) : Except String IntakeRoute :=
  if isFalsy ((input.get "event").get "deduplicationKey") then .error "invalid message intake input"
  else
    match IntakeRoute.read (input.get "route") with
    | none => .error "invalid message intake input"
    | some route => .ok route

namespace IntakeState

/-- The stage that a route begins with. -/
def firstStage (state : IntakeState) : IntakeStage :=
  if state.route = .interaction then .projecting else .loadingContext

/-- The effect that a route begins with. -/
def firstEffect (host : Host) (state : IntakeState) (now : Timestamp) : EffectInput :=
  if state.route = .interaction then
    state.ask host "interaction" applyInteraction
      [("event", state.sourceEvent.value), ("requireExactOwnerAndCorrelation", .bool true)]
  else
    state.ask host "context" loadMessageContext
      [("event", state.sourceEvent.value), ("route", .string state.route.text),
        ("requestedAt", .string (toISOString now))]

end IntakeState

def initialiseIntake (host : Host) (input : JsValue) (now : Timestamp) :
    Except String (WorkflowDecision IntakeState) := do
  let workspace ← readWorkspace (input.get "workspace")
  let route ← readRoute input
  let sourceEvent ← readSourceEvent (input.get "event")
  let state : IntakeState := {
    stage := .loadingContext, route, sourceEvent, workspace, pending := [], decision := none
    approvalId := none, delegatedSessionId := none, approvalResponse := none, approvalResponseAt := none
    approvalDecision := none, approvalDecidedAt := none, failure := none
    taskProjection := if isFalsy (input.get "taskProjection") then none else some (input.get "taskProjection") }
  return state.awaiting state.firstStage (state.firstEffect host now)

def messageIntakeWorkflow (host : Host) : WorkflowDefinition IntakeState where
  kind := "message-intake.v1"
  version := 1
  initialise := initialiseIntake host
  reduce := IntakeState.reduce host
  members state := [("sourceEvent", state.sourceEvent.value)] ++ JsValue.whenSome "decision" state.decision (·.value) ++
    JsValue.whenSome "taskProjection" state.taskProjection id ++ JsValue.whenSome "failure" state.failure id

end QuarkSelfAI.Intake

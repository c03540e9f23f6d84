import QuarkSelfAI.Domain.EffectKinds

/-!
# Follow-up outreach

`followupOutreachWorkflow`: finds the person to ask, asks the owner for approval, sends
the question in the owner's name, waits for the reply and writes it back to the task.
-/

namespace QuarkSelfAI.Followup

open Foundation Storage Workflow Domain

def minuteMs : Nat := 60000

def hourMs : Nat := 3600000

inductive OutreachPhase where
  | ready
  | resolving
  | awaitingContact
  | awaitingApproval
  | sending
  | waitingReply
  | updatingTask
  | notifying
  | completed
deriving DecidableEq

inductive Operation where
  | resolveContact
  | interaction
  | send
  | taskUpdate
  | notify
deriving DecidableEq

def Operation.text : Operation → String
  | .resolveContact => "resolve-contact"
  | .interaction => "interaction"
  | .send => "send"
  | .taskUpdate => "task-update"
  | .notify => "notify"

structure FailureState where
  operation : Operation
  startedAt : Timestamp
  count : Nat
deriving DecidableEq

structure FollowupContact where
  openId : String
  name : String
  department : Option String
  email : Option String
  external : Bool
deriving DecidableEq

structure TaskResult where
  title : String
  changes : List String
  summary : String
  url : Option String
deriving DecidableEq

inductive Outcome where
  | completed
  | declined
deriving DecidableEq

structure OutreachState where
  requestId : String
  taskId : String
  title : String
  personName : Option String
  personOpenId : Option String
  question : String
  reason : String
  context : String
  url : Option String
  taskProjection : Option JsValue
  phase : OutreachPhase
  sequence : Nat
  retryBaseMs : Nat
  retryMaxMs : Nat
  failureThreshold : Nat
  query : Option String
  candidates : List FollowupContact
  contact : Option FollowupContact
  approvalId : Option String
  approvedAt : Option Timestamp
  sentMessageId : Option String
  sentAt : Option Timestamp
  chatId : Option String
  replyMessageId : Option String
  replyContent : Option String
  replyReceivedAt : Option Timestamp
  replyUrl : Option String
  taskResult : Option TaskResult
  completedAt : Option Timestamp
  outcome : Option Outcome
  failure : Option FailureState
deriving DecidableEq

/-! ## Checks -/

def required (label : String) (max : Nat) (value : JsValue) : Except String String :=
  boundedText s!"{label} is required" label max value

def optional (max : Nat) (value : JsValue) : Except String (Option String) :=
  optionalText "optional text is required" "optional text" max value

def integer (value : Option Rat) (fallback : Nat) (label : String) (minimum : Nat) : Except String Nat :=
  integerSetting s!"{label} is invalid" value fallback minimum

def parseContact (item : JsValue) (index : Nat) : Except String FollowupContact :=
  match item.get "external" with
  | .bool external => do
    let department ← optional 500 (item.get "department")
    let email ← optional 500 (item.get "email")
    let openId ← required "contact openId" 300 (item.get "openId")
    let name ← required "contact name" 300 (item.get "name")
    return { openId, name, department, email, external }
  | _ => .error s!"invalid contact {index}"

def parseContacts : List JsValue → Nat → Except String (List FollowupContact)
  | [], _ => .ok []
  | item :: rest, index => do
    let contact ← parseContact item index
    let others ← parseContacts rest (index + 1)
    return contact :: others

/-- The first five candidates, if no two are the same person. -/
def contacts (value : JsValue) : Except String (List FollowupContact) :=
  match value with
  | .array items => do
    let result ← parseContacts items 0
    if ¬ (result.map (·.openId)).Nodup then .error "contact resolution returned duplicate candidates"
    return result.take 5
  | _ => .error "contact resolution must return candidates"

def FollowupContact.payload (contact : FollowupContact) : JsValue :=
  .object ([("openId", .string contact.openId), ("name", .string contact.name)] ++
    JsValue.whenSome "department" contact.department .string ++
    JsValue.whenSome "email" contact.email .string ++ [("external", .bool contact.external)])

/-- A person as the owner is shown them. -/
def FollowupContact.label (contact : FollowupContact) : String :=
  contact.name ++ (contact.department.map fun department => s!" · {department}").getD ""

namespace OutreachState

def withoutFailure (state : OutreachState) : OutreachState :=
  { state with failure := none }

def externalKey (state : OutreachState) (suffix : String) : String := s!"followup:{state.requestId}:{suffix}"

/-! ## Effects -/

/-- Whom a search is for. -/
def sought (state : OutreachState) : String := (state.query.or state.personName).getD ""

def resolveEffect (host : Host) (state : OutreachState) (now : Timestamp) : EffectInput :=
  { id := host.stable "followup-resolve" [state.requestId, toString state.sequence]
    kind := resolveContact, availableAt := some now
    payload := .object ((if state.query.isNone then
        JsValue.whenSome "openId" state.personOpenId .string else []) ++
      [("query", .string state.sought), ("idempotencyKey", .string (state.externalKey s!"resolve:{state.sequence}"))]) }

def approvalPrompt (state : OutreachState) (contact : FollowupContact) : String :=
  let outside := if contact.external then " · 外部联系人" else ""
  s!"事项：{state.title}\n接收人：{contact.label}{outside}\n\n拟发送问题：{state.question}\n为什么现在询问：{state.reason}\n背景：{state.context}"

def approvalEffect (host : Host) (state : OutreachState) (contact : FollowupContact)
    (approvalId : String) (now : Timestamp) : EffectInput :=
  { id := host.stable "followup-approval" [state.requestId, contact.openId, toString state.sequence]
    kind := requestInteraction, availableAt := some now
    payload := .object [("mode", "approval"), ("title", "确认对外跟进"), ("approvalId", .string approvalId),
      ("prompt", .string (state.approvalPrompt contact)), ("confirmText", "同意并发送"),
      ("declineText", "暂不联系"),
      ("idempotencyKey", .string (state.externalKey s!"approval:{contact.openId}"))] }

def choiceEffect (host : Host) (state : OutreachState) (now : Timestamp) : EffectInput :=
  { id := host.stable "followup-contact-choice" [state.requestId, toString state.sequence]
    kind := requestInteraction, availableAt := some now
    payload := .object [("mode", "choice"), ("title", "选择跟进联系人"), ("prompt", .string s!"“{state.sought}”匹配到多个联系人"),
      ("eventType", "followup.contact-selected"), ("payloadKey", "openId"),
      ("options", .array (state.candidates.map fun candidate =>
        .object [("label", .string candidate.label), ("value", .string candidate.openId)])),
      ("idempotencyKey", .string (state.externalKey s!"choice:{state.sequence}"))] }

def inputEffect (host : Host) (state : OutreachState) (now : Timestamp) : EffectInput :=
  { id := host.stable "followup-contact-input" [state.requestId, toString state.sequence]
    kind := requestInteraction, availableAt := some now
    payload := .object [("mode", "input"), ("title", "补充跟进联系人"),
      ("prompt", .string s!"没有找到联系人“{state.sought}”，请填写更准确的姓名或企业邮箱。"),
      ("eventType", "followup.contact-query"), ("payloadKey", "query"),
      ("idempotencyKey", .string (state.externalKey s!"input:{state.sequence}"))] }

def interactionEffect (host : Host) (state : OutreachState) (now : Timestamp) : EffectInput :=
  match state.phase, state.contact, state.approvalId with
  | .awaitingApproval, some contact, some approvalId => state.approvalEffect host contact approvalId now
  | _, _, _ => if state.candidates ≠ [] then state.choiceEffect host now else state.inputEffect host now

/-- What is said to the contact. -/
def message (state : OutreachState) : String :=
  s!"**我是常东旭的 AI 分身。** 受他授权，我正在协助跟进事项“{state.title}”。\n\n想向你确认：{state.question}\n\n背景：{state.context}\n\n你的回复会由我整理后反馈给常东旭，并同步到对应的跟进任务中。"

def sendEffect (host : Host) (state : OutreachState) (now : Timestamp) : Except String EffectInput :=
  match state.contact, state.approvalId, state.approvedAt with
  | some contact, some approvalId, some approvedAt =>
    .ok { id := host.stable "followup-send" [state.requestId, toString state.sequence]
          kind := sendAsUser, availableAt := some now
          payload := .object [("openId", .string contact.openId), ("content", .string state.message),
            ("approvalId", .string approvalId), ("approvedAt", .string (toISOString approvedAt)),
            ("idempotencyKey", .string (state.externalKey "send"))] }
  | _, _, _ => .error "followup contact approval is missing"

/-- A member in a template string. -/
def shown (value : Option String) : String := value.getD "undefined"

def contactPayload (state : OutreachState) : JsValue :=
  match state.contact with
  | none => .undefined
  | some contact => contact.payload

def taskEffect (host : Host) (state : OutreachState) (now : Timestamp) : Except String EffectInput :=
  match state.taskProjection with
  | some (.object target) =>
    let members := assignAll ([("taskId", .string state.taskId), ("requestId", .string state.requestId),
        ("contact", state.contactPayload), ("replyMessageId", textOrUndefined state.replyMessageId),
        ("replyContent", textOrUndefined state.replyContent),
        ("replyReceivedAt", textOrUndefined (state.replyReceivedAt.map toISOString))] ++
          JsValue.whenSome "replyUrl" state.replyUrl .string) target
    .ok { id := host.stable "followup-task-update"
            [state.requestId, state.replyMessageId.getD "", toString state.sequence]
          kind := recordFollowupReply, availableAt := some now
          payload := .object (assign (assign members "effectiveAt" (.string (toISOString now)))
            "idempotencyKey" (.string (state.externalKey s!"reply:{shown state.replyMessageId}"))) }
  | _ => .error "followup reply requires task projection authorization"

def resultText (state : OutreachState) (result : TaskResult) : String :=
  let changes := "；".intercalate result.changes
  let link := (result.url.map fun url => s!"\n{url}").getD ""
  s!"事项：{state.title}\n回复：{shown state.replyContent}\n\n已写回任务：{result.title}\n变更：{changes}\n结论：{result.summary}{link}"

def notifyEffect (host : Host) (state : OutreachState) (now : Timestamp) : Except String EffectInput :=
  match state.contact, state.taskResult with
  | some contact, some result =>
    .ok { id := host.stable "followup-result-notify"
            [state.requestId, state.replyMessageId.getD "", toString state.sequence]
          kind := notifyOwner, availableAt := some now
          payload := .object [("title", .string s!"{contact.name} 已回复自动化跟进事项"),
            ("body", .string (state.resultText result)),
            ("idempotencyKey", .string (state.externalKey s!"result:{shown state.replyMessageId}"))] }
  | _, _ => .error "followup result is incomplete"

/-! ## Failures -/

def nextFailure (state : OutreachState) (operation : Operation) (event : Event) : FailureState :=
  match state.failure.filter (·.operation = operation) with
  | none => { operation, startedAt := event.occurredAt, count := 1 }
  | some prior => { prior with count := prior.count + 1 }

def failureNotice (host : Host) (state : OutreachState) (failure : FailureState) (event : Event) : EffectInput :=
  let operation := failure.operation.text
  let startedAt := toISOString failure.startedAt
  { id := host.stable "followup-failure-notice" [state.requestId, operation, startedAt]
    kind := notifyOwner, availableAt := some event.occurredAt
    payload := .object [("title", "自动化跟进处理持续失败"), ("body", .string s!"事项：{state.title}\n阶段：{operation}\n后台会继续重试。"),
      ("idempotencyKey", .string (state.externalKey s!"failure:{operation}:{startedAt}"))] }

def retry (host : Host) (state : OutreachState) (operation : Operation) (event : Event) :
    WorkflowDecision OutreachState :=
  let failure := state.nextFailure operation event
  let delay := min state.retryMaxMs (state.retryBaseMs * 2 ^ min (failure.count - 1) 10)
  { status := .waiting, state := { state with failure := some failure }
    wakeAt := some (some (later event.occurredAt delay))
    effects := if failure.count = state.failureThreshold then [state.failureNotice host failure event]
      else [] }

/-- A report about a failure notice, not about an effect of the outreach itself. -/
def aboutNotice (event : Event) : Bool :=
  match effectIdOf event with
  | none => false
  | some effectId => startsWith effectId "followup-failure-notice:"

/-! ## reduce -/

/-- Ask for one effect and clear the wake time. -/
def asking (state : OutreachState) (effect : EffectInput) : WorkflowDecision OutreachState :=
  { status := .waiting, state, wakeAt := some none, effects := [effect] }

def onOther (state : OutreachState) : WorkflowDecision OutreachState :=
  .keep (if state.phase = .completed then .completed else .waiting) state

/-- The timer asks again for what the phase waits for; the phases without a wait ignore it. -/
def onTimer (host : Host) (state : OutreachState) (event : Event) : Except String (WorkflowDecision OutreachState) :=
  let next := { state with sequence := state.sequence + 1 }
  match state.phase with
  | .ready | .resolving => .ok (asking { next with phase := .resolving } (next.resolveEffect host event.occurredAt))
  | .awaitingContact | .awaitingApproval => .ok (asking next (next.interactionEffect host event.occurredAt))
  | .sending => do
    let effect ← next.sendEffect host event.occurredAt
    return asking next effect
  | .updatingTask => do
    let effect ← next.taskEffect host event.occurredAt
    return asking next effect
  | .notifying => do
    let effect ← next.notifyEffect host event.occurredAt
    return asking next effect
  | .waitingReply | .completed => .ok state.onOther

/-- The state in which the owner is asked to approve a contact. -/
def selecting (state : OutreachState) (selected : FollowupContact) : OutreachState :=
  { state with
    phase := .awaitingApproval, contact := some selected, candidates := []
    approvalId := some (state.externalKey s!"approval:{selected.openId}") }

def onResolved (host : Host) (state : OutreachState) (event : Event) :
    Except String (WorkflowDecision OutreachState) := do
  let found ← contacts (event.payload.get "candidates")
  let next := match found with
    | [selected] => state.withoutFailure.selecting selected
    | _ => { state.withoutFailure with phase := .awaitingContact, candidates := found }
  return asking next (next.interactionEffect host event.occurredAt)

def onSelected (host : Host) (state : OutreachState) (event : Event) :
    Except String (WorkflowDecision OutreachState) := do
  let openId ← required "selected openId" 300 (event.payload.get "openId")
  match state.candidates.find? (·.openId = openId) with
  | none => .error "selected contact is not a candidate"
  | some selected =>
    let next := state.selecting selected
    return asking next (next.interactionEffect host event.occurredAt)

def onQuery (host : Host) (state : OutreachState) (event : Event) : Except String (WorkflowDecision OutreachState) := do
  let query ← required "contact query" 500 (event.payload.get "query")
  let next := { state with
    phase := .resolving, query := some query, candidates := [], sequence := state.sequence + 1 }
  return asking next (next.resolveEffect host event.occurredAt)

def onDeclined (state : OutreachState) (event : Event) : Except String (WorkflowDecision OutreachState) :=
  if event.payload.get "approvalId" ≠ textOrUndefined state.approvalId then
    .error "approval correlation mismatch"
  else
    .ok { status := .completed, wakeAt := some none, effects := []
          state := { state with
            phase := .completed, outcome := some .declined, completedAt := some event.occurredAt } }

def onApproved (host : Host) (state : OutreachState) (event : Event) : Except String (WorkflowDecision OutreachState) :=
  if event.payload.get "approvalId" ≠ textOrUndefined state.approvalId then
    .error "approval correlation mismatch"
  else do
    let next := { state with
      phase := .sending, sequence := state.sequence + 1, approvedAt := some event.occurredAt }
    let effect ← next.sendEffect host event.occurredAt
    return asking next effect

def onSent (state : OutreachState) (event : Event) : Except String (WorkflowDecision OutreachState) := do
  let messageId ← required "sent messageId" 300 (event.payload.get "messageId")
  let chatId ← required "sent chatId" 300 (event.payload.get "chatId")
  return { status := .waiting, wakeAt := some none, effects := []
           state := { state.withoutFailure with
             phase := .waitingReply, sentMessageId := some messageId, chatId := some chatId
             sentAt := some event.occurredAt } }

def onReply (host : Host) (state : OutreachState) (event : Event) : Except String (WorkflowDecision OutreachState) := do
  let replyUrl ← optional 2000 (event.payload.get "url")
  let messageId ← required "reply messageId" 300 (event.payload.get "messageId")
  let content ← required "reply content" 5000 (event.payload.get "content")
  let next := { state with
    phase := .updatingTask, sequence := state.sequence + 1, replyMessageId := some messageId
    replyContent := some content, replyReceivedAt := some event.occurredAt
    replyUrl := replyUrl.or state.replyUrl }
  let effect ← next.taskEffect host event.occurredAt
  return asking next effect

/-- An array of strings. -/
def stringItems : List JsValue → Option (List String)
  | [] => some []
  | .string item :: rest => (stringItems rest).map (item :: ·)
  | _ :: _ => none

def parseTaskResult (value : JsValue) : Except String TaskResult :=
  match value, value.get "changes" with
  | .object _, .array items =>
    match stringItems items with
    | none => .error "followup task result is invalid"
    | some changes => do
      let url ← optional 2000 (value.get "url")
      let title ← required "result title" 300 (value.get "title")
      let summary ← required "result summary" 12000 (value.get "summary")
      return { title, changes, summary, url }
  | _, _ => .error "followup task result is invalid"

def onRecorded (host : Host) (state : OutreachState) (event : Event) :
    Except String (WorkflowDecision OutreachState) := do
  let result ← parseTaskResult (event.payload.get "result")
  let next := { state.withoutFailure with
    phase := .notifying, sequence := state.sequence + 1, taskResult := some result }
  let effect ← next.notifyEffect host event.occurredAt
  return asking next effect

/-- The result was told: the outreach is done. -/
def onNotified (state : OutreachState) (event : Event) : WorkflowDecision OutreachState :=
  { status := .completed, wakeAt := some none, effects := []
    state := { state.withoutFailure with
      phase := .completed, outcome := some .completed, completedAt := some event.occurredAt } }

/-- The operation whose failure an event reports, with the state it is retried from. A
failed interaction is retried in any phase. -/
def failedOperation (state : OutreachState) (event : Event) : Option (OutreachState × Operation) :=
  if state.phase = .resolving ∧ effectKind event = some resolveContact then
    some ({ state with phase := .ready }, .resolveContact)
  else if state.phase = .sending ∧ effectKind event = some sendAsUser then some (state, .send)
  else if state.phase = .updatingTask ∧ effectKind event = some recordFollowupReply then
    some (state, .taskUpdate)
  else if state.phase = .notifying ∧ effectKind event = some notifyOwner then some (state, .notify)
  else if effectKind event = some requestInteraction then some (state, .interaction)
  else none

def onFailed (host : Host) (state : OutreachState) (event : Event) : WorkflowDecision OutreachState :=
  match state.failedOperation event with
  | some (retried, operation) => retried.retry host operation event
  | none => state.onOther

def reduce (host : Host) (state : OutreachState) (event : Event) : Except String (WorkflowDecision OutreachState) :=
  if event.type = "timer" then state.onTimer host event
  else if event.type = "effect.delivered" ∧ state.phase = .resolving ∧
      effectKind event = some resolveContact then state.onResolved host event
  else if event.type = "followup.contact-selected" ∧ state.phase = .awaitingContact then
    state.onSelected host event
  else if event.type = "followup.contact-query" ∧ state.phase = .awaitingContact then
    state.onQuery host event
  else if event.type = "approval.declined" ∧ state.phase = .awaitingApproval then state.onDeclined event
  else if event.type = "approval.approved" ∧ state.phase = .awaitingApproval then
    state.onApproved host event
  else if event.type = "effect.delivered" ∧ state.phase = .sending ∧
      effectKind event = some sendAsUser then state.onSent event
  else if event.type = "followup.reply" ∧ state.phase = .waitingReply then state.onReply host event
  else if event.type = "effect.delivered" ∧ state.phase = .updatingTask ∧
      effectKind event = some recordFollowupReply then state.onRecorded host event
  else if isOutcome event ∧ aboutNotice event then .ok (.keep .waiting state)
  else if event.type = "effect.delivered" ∧ state.phase = .notifying ∧
      effectKind event = some notifyOwner then .ok (state.onNotified event)
  else if event.type = "effect.delivered" ∧ effectKind event = some requestInteraction then
    .ok (.keep .waiting state)
  else if event.type = "effect.failed" then .ok (state.onFailed host event)
  else .ok state.onOther

end OutreachState

/-! ## The definition -/

structure OutreachSettings where
  retryBaseMs : Nat
  retryMaxMs : Nat
  failureThreshold : Nat
  taskProjection : Option JsValue

def initialiseOutreach (host : Host) (settings : OutreachSettings) (input : JsValue) (now : Timestamp) :
    Except String (WorkflowDecision OutreachState) := do
  let personName ← optional 300 (input.get "personName")
  let personOpenId ← optional 300 (input.get "personOpenId")
  if personName.isNone ∧ personOpenId.isNone then .error "followup outreach requires a person hint"
  let taskId ← required "taskId" 300 (input.get "taskId")
  let question ← required "question" 12000 (input.get "question")
  let requestId := host.digest 32
    (Host.joined [taskId, (personOpenId.or personName).getD "", question])
  let url ← optional 2000 (input.get "url")
  let title ← required "title" 300 (input.get "title")
  let reason ← required "reason" 12000 (input.get "reason")
  let context ← required "context" 12000 (input.get "context")
  return { status := .waiting, wakeAt := some (some now), effects := []
           state := {
             requestId, taskId, title, personName, personOpenId, question, reason, context, url
             taskProjection := settings.taskProjection, phase := .ready, sequence := 0
             retryBaseMs := settings.retryBaseMs, retryMaxMs := settings.retryMaxMs
             failureThreshold := settings.failureThreshold, query := none, candidates := []
             contact := none, approvalId := none, approvedAt := none, sentMessageId := none
             sentAt := none, chatId := none, replyMessageId := none, replyContent := none
             replyReceivedAt := none, replyUrl := none, taskResult := none, completedAt := none
             outcome := none, failure := none } }

def outreachDefinition (host : Host) (settings : OutreachSettings) : WorkflowDefinition OutreachState where
  kind := "followup.outreach"
  version := 1
  initialise := initialiseOutreach host settings
  reduce := OutreachState.reduce host
  members state := JsValue.whenSome "taskProjection" state.taskProjection id

structure FollowupOutreachConfig where
  retryBaseMs : Option Rat
  retryMaxMs : Option Rat
  failureNotifyThreshold : Option Rat
  taskProjection : Option JsValue

def followupOutreachWorkflow (host : Host) (config : FollowupOutreachConfig) :
    Except String (WorkflowDefinition OutreachState) := do
  let retryBaseMs ← integer config.retryBaseMs (2 * minuteMs) "retryBaseMs" 1000
  let retryMaxMs ← integer config.retryMaxMs (6 * hourMs) "retryMaxMs" retryBaseMs
  let failureThreshold ← integer config.failureNotifyThreshold 1 "failureNotifyThreshold" 1
  return outreachDefinition host {
    retryBaseMs, retryMaxMs, failureThreshold
    taskProjection := config.taskProjection.filter fun target => ¬ isFalsy target }

end QuarkSelfAI.Followup

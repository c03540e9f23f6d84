import QuarkSelfAI.Domain.Authorization
import QuarkSelfAI.Domain.EffectKinds

/-!
# The lifecycle of a research session

`sessionLifecycleWorkflow`: a session is inspected, archived when its task is
completed, and deleted some time after; every failure is retried with a backoff.
-/

namespace QuarkSelfAI.SessionLifecycle

open Foundation Storage Workflow Domain

def hourMs : Nat := 3600000

def dayMs : Nat := 86400000

/-! ## Effect kinds -/

def inspectSession : String := "codex-session.inspect.v1"

def archiveIfNeeded : String := "codex-session.archive-if-needed.v1"

def deleteIfArchived : String := "codex-session.delete-if-archived.v1"

/-! ## State -/

structure SessionLifecycleConfig where
  pollIntervalMs : Option Rat
  retryBaseMs : Option Rat
  retryMaxMs : Option Rat
  deleteAfterDays : Option Rat
  failureNotifyThreshold : Option Rat
  failureNotifyCooldownMs : Option Rat
  authorization : JsValue

structure LifecycleAuthorization where
  evidence : DurableAuthorizationEvidence
  minimumArchivedDays : Nat

def LifecycleAuthorization.payload (authorization : LifecycleAuthorization) : JsValue :=
  .object (authorization.evidence.members ++ [("minimumArchivedDays", .number authorization.minimumArchivedDays)])

inductive SessionPhase where
  | waiting
  | inspecting
  | checkingTask
  | archiving
  | archived
  | deleting
  | completed
deriving DecidableEq

def SessionPhase.text : SessionPhase → String
  | .waiting => "waiting"
  | .inspecting => "inspecting"
  | .checkingTask => "checking-task"
  | .archiving => "archiving"
  | .archived => "archived"
  | .deleting => "deleting"
  | .completed => "completed"

inductive Operation where
  | inspect
  | taskCheck
  | archive
  | delete
deriving DecidableEq

def Operation.text : Operation → String
  | .inspect => "inspect"
  | .taskCheck => "task-check"
  | .archive => "archive"
  | .delete => "delete"

structure FailureState where
  operation : Operation
  startedAt : Timestamp
  count : Nat
  lastNotifiedAt : Option Timestamp

/-- A timestamp as it is written, with the instant it stands for. -/
structure Stamp where
  text : String
  instant : Timestamp

def Stamp.of (instant : Timestamp) : Stamp :=
  { text := toISOString instant, instant }

structure SessionState where
  sessionId : String
  taskId : String
  eligible : Bool
  phase : SessionPhase
  sequence : Nat
  pollIntervalMs : Nat
  retryBaseMs : Nat
  retryMaxMs : Nat
  deleteAfterMs : Nat
  failureThreshold : Nat
  failureNotifyCooldownMs : Nat
  authorization : LifecycleAuthorization
  managedBy : String
  createdAt : String
  archivedAt : Option Stamp
  deletedAt : Option Timestamp
  failure : Option FailureState

/-! ## Checks -/

def integer (value : Option Rat) (fallback : Nat) (label : String) (minimum : Nat) : Except String Nat :=
  integerSetting s!"{label} must be an integer of at least {minimum}" value fallback minimum

def stamp (host : Host) (label : String) : JsValue → Except String Stamp
  | .string text =>
    match host.parseDate text with
    | none => .error s!"{label} must be a timestamp"
    | some instant => .ok { text, instant }
  | _ => .error s!"{label} must be a timestamp"

def isHexDigit (char : Char) : Bool :=
  char.isDigit || (97 ≤ char.toNat && char.toNat ≤ 102) || (65 ≤ char.toNat && char.toNat ≤ 70)

/-- Groups of 8, 4, 4, 4 and 12 hexadecimal digits. -/
def isUuid (text : String) : Bool :=
  text.toList.length = 36 ∧ text.toList.zipIdx.all fun (char, index) =>
    if index ∈ [8, 13, 18, 23] then char = '-' else isHexDigit char

def lifecycleAuthorization (host : Host) (config : SessionLifecycleConfig) (deleteAfterDays : Nat)
    (clock : Timestamp) : Except String LifecycleAuthorization := do
  let evidence ← requireAuthorizationEvidence host config.authorization
    { scope := "codex.auto-research-session-lifecycle", grantedBy := "owner" } clock
  let minimumArchivedDays ← match config.authorization.get "minimumArchivedDays" with
    | .number value => integer (some value) 0 "authorization minimumArchivedDays" 1
    | _ => .error "authorization minimumArchivedDays must be an integer of at least 1"
  if deleteAfterDays < minimumArchivedDays then
    .error "deleteAfterDays exceeds the session lifecycle authorization scope"
  return { evidence, minimumArchivedDays }

/-! ## Effects -/

namespace SessionState

def effectId (host : Host) (state : SessionState) (operation : Operation) : String :=
  host.stable operation.text [state.sessionId, toString state.sequence]

/-- Ask for one effect at the instant of an event. -/
def ask (host : Host) (state : SessionState) (operation : Operation) (kind : String)
    (event : Event) (payload : List (String × JsValue)) : EffectInput :=
  { id := state.effectId host operation, kind, payload := .object payload
    availableAt := some event.occurredAt }

def notification (host : Host) (state : SessionState) (suffix title body : String) (now : Timestamp) : EffectInput :=
  let id := host.stable "session-notification" [state.sessionId, suffix]
  { id, kind := notifyOwner, availableAt := some now
    payload := .object [("title", .string title), ("body", .string body), ("idempotencyKey", .string id)] }

def withoutFailure (state : SessionState) : SessionState :=
  { state with failure := none }

def archivedAtPayload (state : SessionState) : JsValue :=
  match state.archivedAt with
  | none => .undefined
  | some archivedAt => .string archivedAt.text

/-! ## Failures -/

/-- The streak of one operation's failures; another operation begins a new one. -/
def nextFailure (state : SessionState) (operation : Operation) (event : Event) : FailureState :=
  match state.failure.filter (·.operation = operation) with
  | none => { operation, startedAt := event.occurredAt, count := 1, lastNotifiedAt := none }
  | some prior => { prior with count := prior.count + 1 }

def shouldNotify (state : SessionState) (failure : FailureState) (event : Event) : Bool :=
  match failure.lastNotifiedAt with
  | none => state.failureThreshold ≤ failure.count
  | some lastNotice => state.failureThreshold ≤ failure.count ∧
      state.failureNotifyCooldownMs ≤ event.occurredAt - lastNotice

def retryDelay (state : SessionState) (failure : FailureState) : Nat :=
  min state.retryMaxMs (state.retryBaseMs * 2 ^ min (failure.count - 1) 10)

def failureNotice (host : Host) (state : SessionState) (failure : FailureState) (event : Event) : EffectInput :=
  let work := if failure.operation = .delete then "删除" else "维护"
  state.notification host s!"failure:{failure.operation.text}:{toISOString event.occurredAt}"
    s!"Codex 自动调研会话{work}持续失败"
    s!"会话：{state.sessionId}\n已连续失败 {failure.count} 次，后台会按退避策略继续重试。" event.occurredAt

def retryDecision (host : Host) (state : SessionState) (operation : Operation) (event : Event) :
    WorkflowDecision SessionState :=
  let failure := state.nextFailure operation event
  let notify := state.shouldNotify failure event
  { status := .waiting
    state := { state with
      phase := if operation = .delete then .archived else .waiting
      failure := some (if notify then { failure with lastNotifiedAt := some event.occurredAt }
        else failure) }
    wakeAt := some (some (later event.occurredAt (state.retryDelay failure)))
    effects := if notify then [state.failureNotice host failure event] else [] }

def operationFor (kind : Option String) (phase : SessionPhase) : Option Operation :=
  if kind = some inspectSession ∧ phase = .inspecting then some .inspect
  else if kind = some isCompleted ∧ phase = .checkingTask then some .taskCheck
  else if kind = some archiveIfNeeded ∧ phase = .archiving then some .archive
  else if kind = some deleteIfArchived ∧ phase = .deleting then some .delete
  else none

/-! ## reduce -/

def nextPoll (state : SessionState) (event : Event) : Option (Option Timestamp) :=
  some (some (later event.occurredAt state.pollIntervalMs))

def onEligible (state : SessionState) (event : Event) : Except String (WorkflowDecision SessionState) :=
  if state.phase ≠ .waiting then
    .error s!"session eligibility cannot change during {state.phase.text}"
  else .ok { status := .waiting, state := { state with eligible := true }
             wakeAt := some (some event.occurredAt), effects := [] }

def onWaitingTimer (host : Host) (state : SessionState) (event : Event) : WorkflowDecision SessionState :=
  if ¬ state.eligible then { status := .waiting, state, wakeAt := state.nextPoll event, effects := [] }
  else
    let next := { state with phase := .inspecting, sequence := state.sequence + 1 }
    { status := .waiting, state := next, wakeAt := some none
      effects := [next.ask host .inspect inspectSession event [("sessionId", .string state.sessionId)]] }

def onInspected (host : Host) (state : SessionState) (event : Event) : Except String (WorkflowDecision SessionState) :=
  match event.payload.get "exists", event.payload.get "archived", event.payload.get "running" with
  | .bool found, .bool archived, running =>
    if running ≠ .bool true ∧ running ≠ .bool false ∧ running ≠ .string "unknown" then
      .error "session inspect result is invalid"
    else if ¬ found then
      .ok { status := .completed, wakeAt := some none, effects := []
            state := { state.withoutFailure with
              phase := .completed, deletedAt := some event.occurredAt } }
    else if running ≠ .bool false then
      .ok { status := .waiting, state := { state.withoutFailure with phase := .waiting }
            wakeAt := state.nextPoll event, effects := [] }
    else if archived then
      .ok { status := .waiting, effects := []
            state := { state.withoutFailure with
              phase := .archived, archivedAt := some (.of event.occurredAt) }
            wakeAt := some (some (later event.occurredAt state.deleteAfterMs)) }
    else
      .ok { status := .waiting, wakeAt := some none
            state := { state.withoutFailure with phase := .checkingTask }
            effects := [state.ask host .taskCheck isCompleted event [("taskId", .string state.taskId)]] }
  | _, _, _ => .error "session inspect result is invalid"

def onTaskChecked (host : Host) (state : SessionState) (event : Event) :
    Except String (WorkflowDecision SessionState) :=
  match event.payload.get "completed" with
  | .bool completed =>
    if ¬ completed then
      .ok { status := .waiting, state := { state.withoutFailure with phase := .waiting }
            wakeAt := state.nextPoll event, effects := [] }
    else
      .ok { status := .waiting, wakeAt := some none
            state := { state.withoutFailure with phase := .archiving }
            effects := [state.ask host .archive archiveIfNeeded event
              [("sessionId", .string state.sessionId), ("managedBy", .string state.managedBy),
                ("effectiveAt", .string (toISOString event.occurredAt)),
                ("authorization", state.authorization.payload)]] }
  | _ => .error "task completion result is invalid"

def onArchived (host : Host) (state : SessionState) (event : Event) :
    Except String (WorkflowDecision SessionState) := do
  let archivedAt ← stamp host "archive effect archivedAt" (event.payload.get "archivedAt")
  match event.payload.get "alreadyArchived" with
  | .bool alreadyArchived =>
    return { status := .waiting
             state := { state.withoutFailure with phase := .archived, archivedAt := some archivedAt }
             wakeAt := some (some (later archivedAt.instant state.deleteAfterMs))
             effects := if alreadyArchived then [] else
               [state.notification host "archived" "自动调研会话已归档"
                 s!"会话：{state.sessionId}\n关联任务：{state.taskId}" event.occurredAt] }
  | _ => .error "archive effect alreadyArchived is invalid"

def onArchivedTimer (host : Host) (state : SessionState) (event : Event) : WorkflowDecision SessionState :=
  let next := { state with phase := .deleting, sequence := state.sequence + 1 }
  { status := .waiting, state := next, wakeAt := some none
    effects := [next.ask host .delete deleteIfArchived event
      [("sessionId", .string state.sessionId), ("managedBy", .string state.managedBy),
        ("archivedAt", state.archivedAtPayload), ("effectiveAt", .string (toISOString event.occurredAt)),
        ("authorization", state.authorization.payload)]] }

def onDeleted (host : Host) (state : SessionState) (event : Event) : Except String (WorkflowDecision SessionState) :=
  let outcome := event.payload.get "outcome"
  if host.text outcome ∉ ["deleted", "missing", "not-archived", "running"] then
    .error "delete effect outcome is invalid"
  else if outcome = .string "deleted" ∨ outcome = .string "missing" then
    .ok { status := .completed, wakeAt := none, effects := []
          state := { state.withoutFailure with phase := .completed, deletedAt := some event.occurredAt } }
  else
    .ok { status := .waiting, state := { state.withoutFailure with phase := .archived }
          wakeAt := state.nextPoll event, effects := [] }

/-- Whatever else arrives: a session that waits is polled again. -/
def onOther (state : SessionState) (event : Event) : WorkflowDecision SessionState :=
  { status := if state.phase = .completed then .completed else .waiting, state, effects := []
    wakeAt := if state.phase = .waiting ∨ state.phase = .archived then state.nextPoll event else none }

def reduce (host : Host) (state : SessionState) (event : Event) : Except String (WorkflowDecision SessionState) :=
  if event.type = "session.eligible" then state.onEligible event
  else if event.type = "timer" ∧ state.phase = .waiting then .ok (state.onWaitingTimer host event)
  else if event.type = "effect.delivered" ∧ state.phase = .inspecting ∧
      effectKind event = some inspectSession then state.onInspected host event
  else if event.type = "effect.delivered" ∧ state.phase = .checkingTask ∧
      effectKind event = some isCompleted then state.onTaskChecked host event
  else if event.type = "effect.delivered" ∧ state.phase = .archiving ∧
      effectKind event = some archiveIfNeeded then state.onArchived host event
  else if event.type = "timer" ∧ state.phase = .archived then .ok (state.onArchivedTimer host event)
  else if isOutcome event ∧ effectKind event = some notifyOwner then .ok (.keep .waiting state)
  else if event.type = "effect.delivered" ∧ state.phase = .deleting ∧
      effectKind event = some deleteIfArchived then state.onDeleted host event
  else if event.type = "effect.failed" then
    match operationFor (effectKind event) state.phase with
    | some operation => .ok (state.retryDecision host operation event)
    | none => .ok (state.onOther event)
  else .ok (state.onOther event)

end SessionState

/-! ## The definition -/

structure SessionSettings where
  pollIntervalMs : Nat
  retryBaseMs : Nat
  retryMaxMs : Nat
  deleteAfterDays : Nat
  failureThreshold : Nat
  failureNotifyCooldownMs : Nat
  authorization : LifecycleAuthorization

def initialiseSession (host : Host) (settings : SessionSettings) (input : JsValue) (now : Timestamp) :
    Except String (WorkflowDecision SessionState) :=
  match input.get "sessionId" with
  | .string sessionId => do
    if ¬ isUuid sessionId then .error "sessionId must be an exact UUID"
    let taskId ← match input.get "taskId" with
      | .string taskId => if isBlank taskId then .error "taskId must be a non-empty string" else .ok taskId
      | _ => .error "taskId must be a non-empty string"
    if input.get "managedBy" ≠ .string "quarkselfai-auto-research" then
      .error "session must be owned by QuarkSelfAI auto research"
    let createdAt ← match input.get "createdAt" with
      | .undefined => .ok (toISOString now)
      | createdAt => timestampText host "createdAt" createdAt
    return { status := .waiting, wakeAt := some (some now), effects := []
             state := {
               sessionId, taskId, eligible := input.get "eligible" ≠ .bool false
               phase := .waiting, sequence := 0, pollIntervalMs := settings.pollIntervalMs
               retryBaseMs := settings.retryBaseMs, retryMaxMs := settings.retryMaxMs
               deleteAfterMs := settings.deleteAfterDays * dayMs
               failureThreshold := settings.failureThreshold
               failureNotifyCooldownMs := settings.failureNotifyCooldownMs
               authorization := settings.authorization, managedBy := "quarkselfai-auto-research"
               createdAt, archivedAt := none, deletedAt := none, failure := none } }
  | _ => .error "sessionId must be an exact UUID"

def sessionDefinition (host : Host) (settings : SessionSettings) : WorkflowDefinition SessionState where
  kind := "codex.session-lifecycle"
  version := 2
  initialise := initialiseSession host settings
  reduce := SessionState.reduce host
  members _ := []

/-- `clock` is the instant at which the definition is built. -/
def sessionLifecycleWorkflow (host : Host) (config : SessionLifecycleConfig) (clock : Timestamp) :
    Except String (WorkflowDefinition SessionState) := do
  let pollIntervalMs ← integer config.pollIntervalMs (6 * hourMs) "pollIntervalMs" 60000
  let retryBaseMs ← integer config.retryBaseMs hourMs "retryBaseMs" 1000
  let retryMaxMs ← integer config.retryMaxMs dayMs "retryMaxMs" retryBaseMs
  let deleteAfterDays ← integer config.deleteAfterDays 7 "deleteAfterDays" 1
  let failureThreshold ← integer config.failureNotifyThreshold 1 "failureNotifyThreshold" 1
  let failureNotifyCooldownMs ← integer config.failureNotifyCooldownMs dayMs
    "failureNotifyCooldownMs" hourMs
  let authorization ← lifecycleAuthorization host config deleteAfterDays clock
  return sessionDefinition host { pollIntervalMs, retryBaseMs, retryMaxMs, deleteAfterDays
                                  failureThreshold, failureNotifyCooldownMs, authorization }

end QuarkSelfAI.SessionLifecycle

import QuarkSelfAI.TaskMaintenance.Contracts

/-!
# The completed-task cleanup

`completedCleanupWorkflow`: once per local day, after the scheduled hour, the
cleanup effect is requested; its report ends the day or begins a streak of failures.
-/

namespace QuarkSelfAI.TaskMaintenance

open Foundation Storage Workflow Domain

structure CleanupAuthorization where
  evidence : DurableAuthorizationEvidence
  projectId : String
  minimumRetentionDays : Nat
  maximumDeletesPerRun : Nat

inductive CleanupPhase where
  | scheduled
  | cleaning
deriving DecidableEq

structure CleanupState where
  projectId : String
  timeZone : String
  scheduledHour : Nat
  pollIntervalMs : Nat
  retentionDays : Nat
  maxPerRun : Nat
  failureThreshold : Nat
  authorization : CleanupAuthorization
  phase : CleanupPhase
  pendingDay : Option String
  lastCompletedDay : Option String
  failure : Option FailureState

structure DeletedTask where
  taskId : String
  title : String
  completedAt : String

def CleanupAuthorization.payload (authorization : CleanupAuthorization) : JsValue :=
  .object (authorization.evidence.members ++ [("projectId", .string authorization.projectId),
    ("minimumRetentionDays", .number authorization.minimumRetentionDays),
    ("maximumDeletesPerRun", .number authorization.maximumDeletesPerRun)])

def cleanupAuthorization (host : Host) (config : DidaMaintenanceConfig) (projectId : String)
    (retentionDays maxPerRun : Nat) (clock : Timestamp) : Except String CleanupAuthorization := do
  let raw := config.cleanupAuthorization
  let evidence ← requireAuthorizationEvidence host raw
    { scope := "dida.completed-task-cleanup", grantedBy := "owner" } clock
  if raw.get "projectId" ≠ .string projectId then
    .error "cleanup authorization projectId must match maintenance projectId"
  let number (value : JsValue) (label : String) : Except String Nat :=
    match value with
    | .number value => positiveInteger (some value) 0 label 1
    | _ => .error s!"{label} must be an integer of at least 1"
  let minimumRetentionDays ← number (raw.get "minimumRetentionDays")
    "authorization minimumRetentionDays"
  let maximumDeletesPerRun ← number (raw.get "maximumDeletesPerRun")
    "authorization maximumDeletesPerRun"
  if retentionDays < minimumRetentionDays then
    .error "completedRetentionDays exceeds the cleanup authorization scope"
  if maximumDeletesPerRun < maxPerRun then
    .error "cleanupMaxPerRun exceeds the cleanup authorization scope"
  return { evidence, projectId, minimumRetentionDays, maximumDeletesPerRun }

/-! ## reduce -/

def parseDeletedTask (host : Host) (item : JsValue) (index : Nat) : Except String DeletedTask :=
  match item.text? "taskId", item.text? "title", item.text? "completedAt" with
  | some taskId, some title, some completedAt =>
    match host.parseDate completedAt with
    | none => .error s!"invalid deleted task at index {index}"
    | some _ => .ok { taskId, title, completedAt }
  | _, _, _ => .error s!"invalid deleted task at index {index}"

def parseDeletedItems (host : Host) : List JsValue → Nat → Except String (List DeletedTask)
  | [], _ => .ok []
  | item :: rest, index => do
    let task ← parseDeletedTask host item index
    let tasks ← parseDeletedItems host rest (index + 1)
    return task :: tasks

def parseDeletedTasks (host : Host) : JsValue → Except String (List DeletedTask)
  | .array items => parseDeletedItems host items 0
  | _ => .error "cleanup effect result must contain deleted tasks"

namespace CleanupState

def nextPoll (state : CleanupState) (event : Event) : Timestamp := later event.occurredAt state.pollIntervalMs

def cleanupEffect (host : Host) (state : CleanupState) (event : Event) (day : String) : EffectInput :=
  { id := host.stable "dida-completed-cleanup" [state.projectId, day], kind := cleanupCompleted
    payload := .object [("projectId", .string state.projectId),
      ("cutoff", .string (toISOString (later event.occurredAt (-(state.retentionDays * dayMs : Nat))))),
      ("maxDeletes", .number state.maxPerRun),
      ("effectiveAt", .string (toISOString event.occurredAt)),
      ("authorization", state.authorization.payload)]
    availableAt := some event.occurredAt }

def onTimer (host : Host) (state : CleanupState) (event : Event) : Except String (WorkflowDecision CleanupState) := do
  let slot ← localSlot host event.occurredAt state.timeZone state.scheduledHour
  if ¬ slot.due ∨ state.lastCompletedDay = some slot.day then
    return { status := .waiting, state, wakeAt := some (some (state.nextPoll event)), effects := [] }
  else
    return { status := .waiting, wakeAt := some none
             state := { state with phase := .cleaning, pendingDay := some slot.day }
             effects := [state.cleanupEffect host event slot.day] }

/-- One line for each of the first ten deleted tasks. -/
def deletedLines (deleted : List DeletedTask) : String :=
  "\n".intercalate ((deleted.take 10).zipIdx.map fun (task, index) => s!"{index + 1}. {task.title}（{task.completedAt}）")

/-- The result, or else the recovery from a failure the owner was told of. -/
def cleanedEffects (host : Host) (state : CleanupState) (event : Event) (deleted : List DeletedTask) :
    List EffectInput :=
  if deleted ≠ [] then
    [notificationEffect (host.stable "dida-cleanup-result"
        [state.projectId, state.pendingDay.getD (toISOString event.occurredAt)])
      s!"已清理 {deleted.length} 条过期的已完成自动化待办" (deletedLines deleted) event.occurredAt]
  else
    match state.failure with
    | none => []
    | some failure =>
      if failure.notified then
        [notificationEffect (host.stable "dida-cleanup-recovered" [toISOString failure.startedAt])
          "滴答已完成任务清理已恢复" s!"故障始于：{toISOString failure.startedAt}" event.occurredAt]
      else []

def onCleaned (host : Host) (state : CleanupState) (event : Event) : Except String (WorkflowDecision CleanupState) := do
  let deleted ← parseDeletedTasks host (event.payload.get "deleted")
  return { status := .waiting, wakeAt := some (some (state.nextPoll event))
           state := { state with
             phase := .scheduled, pendingDay := none, failure := none
             lastCompletedDay := state.pendingDay.or state.lastCompletedDay }
           effects := state.cleanedEffects host event deleted }

def onFailed (host : Host) (state : CleanupState) (event : Event) : WorkflowDecision CleanupState :=
  let (failure, notify) := failed state.failure event.occurredAt state.failureThreshold
  { status := .waiting, wakeAt := some (some (state.nextPoll event))
    state := { state with phase := .scheduled, pendingDay := none, failure := some failure }
    effects := if notify then
        [notificationEffect (host.stable "dida-cleanup-failed" [toISOString failure.startedAt])
          "滴答已完成任务清理持续失败" s!"已连续失败 {failure.count} 次，后台会继续重试。" event.occurredAt]
      else [] }

/-- Whatever else arrives: a scheduled cleanup is polled again. -/
def onOther (state : CleanupState) (event : Event) : WorkflowDecision CleanupState :=
  { status := .waiting, state, effects := []
    wakeAt := if state.phase = .scheduled then some (some (state.nextPoll event)) else none }

def reduce (host : Host) (state : CleanupState) (event : Event) : Except String (WorkflowDecision CleanupState) :=
  if event.type = "timer" ∧ state.phase = .scheduled then state.onTimer host event
  else if isOutcome event ∧ effectKind event = some notifyOwner then .ok (.keep .waiting state)
  else if event.type = "effect.delivered" ∧ effectKind event = some cleanupCompleted then
    state.onCleaned host event
  else if event.type = "effect.failed" ∧ effectKind event = some cleanupCompleted then
    .ok (state.onFailed host event)
  else .ok (state.onOther event)

end CleanupState

/-! ## The definition -/

def initialCleanup (projectId timeZone : String) (scheduledHour pollIntervalMs retentionDays maxPerRun
    failureThreshold : Nat) (authorization : CleanupAuthorization) : CleanupState :=
  { projectId, timeZone, scheduledHour, pollIntervalMs, retentionDays, maxPerRun, failureThreshold
    authorization, phase := .scheduled, pendingDay := none, lastCompletedDay := none, failure := none }

def cleanupDefinition (host : Host) (initial : CleanupState) : WorkflowDefinition CleanupState where
  kind := "dida.completed-cleanup"
  version := 2
  initialise _ now := .ok { status := .waiting, state := initial, wakeAt := some (some now), effects := [] }
  reduce := CleanupState.reduce host
  members _ := []

/-- `clock` is the instant at which the definition is built. -/
def completedCleanupWorkflow (host : Host) (config : DidaMaintenanceConfig) (clock : Timestamp) :
    Except String (WorkflowDefinition CleanupState) := do
  let projectId ← requiredString config.projectId "Dida maintenance projectId"
  let timeZone := config.cleanupTimeZone.getD "Asia/Shanghai"
  let scheduledHour ← positiveInteger config.cleanupHour 3 "cleanupHour" 0
  if 23 < scheduledHour then .error "cleanupHour must be at most 23"
  let pollIntervalMs ← positiveInteger config.cleanupPollIntervalMs (30 * minuteMs)
    "cleanupPollIntervalMs" minuteMs
  let retentionDays ← positiveInteger config.completedRetentionDays 30 "completedRetentionDays" 1
  let maxPerRun ← positiveInteger config.cleanupMaxPerRun 50 "cleanupMaxPerRun" 1
  let failureThreshold ← positiveInteger config.cleanupFailureNotifyThreshold 3
    "cleanupFailureNotifyThreshold" 1
  let authorization ← cleanupAuthorization host config projectId retentionDays maxPerRun clock
  let _ ← localSlot host clock timeZone scheduledHour
  return cleanupDefinition host (initialCleanup projectId timeZone scheduledHour pollIntervalMs
    retentionDays maxPerRun failureThreshold authorization)

end QuarkSelfAI.TaskMaintenance

import QuarkSelfAI.TaskMaintenance.Contracts

/-!
# The overdue monitor

`overdueWorkflow`: scans for overdue tasks and reminds the owner of each, unless the
last reminder of the task holds the next one back.
-/

namespace QuarkSelfAI.TaskMaintenance

open Foundation Storage Workflow

inductive OverduePhase where
  | scheduled
  | scanning
deriving DecidableEq

/-- The last reminder of a task. -/
structure Notice where
  fingerprint : String
  notifiedAt : Timestamp

structure OverdueState where
  projectId : String
  intervalMs : Nat
  retryMs : Nat
  failureThreshold : Nat
  notificationTimeZone : String
  notificationStartHour : Nat
  notificationEndHour : Nat
  reminderMinimumIntervalMs : Nat
  phase : OverduePhase
  notified : List (String × Notice)
  failure : Option FailureState

structure OverdueTask where
  taskId : String
  title : String
  dueDate : String
  priority : Rat

/-! ## Scan results -/

def parseOverdueTask (host : Host) (item : JsValue) (index : Nat) : Except String OverdueTask :=
  match item.text? "taskId", item.text? "title", item.text? "dueDate", item.get "priority" with
  | some taskId, some title, some dueDate, .number priority =>
    match host.parseDate dueDate with
    | none => .error s!"invalid overdue task at index {index}"
    | some instant => .ok { taskId, title, dueDate := toISOString instant, priority }
  | _, _, _, _ => .error s!"invalid overdue task at index {index}"

def parseOverdueItems (host : Host) : List JsValue → Nat → Except String (List OverdueTask)
  | [], _ => .ok []
  | item :: rest, index => do
    let task ← parseOverdueTask host item index
    let tasks ← parseOverdueItems host rest (index + 1)
    return task :: tasks

def parseOverdueTasks (host : Host) : JsValue → Except String (List OverdueTask)
  | .array items => parseOverdueItems host items 0
  | _ => .error "overdue task effect result must contain tasks"

/-! ## Reminders -/

def OverdueTask.fingerprint (host : Host) (task : OverdueTask) : String :=
  task.dueDate ++ (":" ++ host.numberText task.priority)

/-- `nextNotified[taskId]`: a plain object answers its inherited names too, with values
that have no fingerprint to search. -/
def noticeOf (notified : List (String × Notice)) (taskId : String) : Except String (Option Notice) :=
  match notified.lookup taskId with
  | some notice => .ok (some notice)
  | none =>
    if taskId ∈ inheritedNames then
      .error "Cannot read properties of undefined (reading 'lastIndexOf')"
    else .ok none

def pruneFingerprints (notified : List (String × Notice)) (now : Timestamp) : List (String × Notice) :=
  notified.filter fun entry => later now (-(180 * dayMs : Nat)) ≤ entry.2.notifiedAt

namespace OverdueState

variable (host : Host) (state : OverdueState) (event : Event)

/-- The last reminder was for the same priority, due on the same local day. -/
def sameLocalDueDay (task : OverdueTask) : Option Notice → Except String Bool
  | none => .ok false
  | some previous =>
    match splitLast ':' previous.fingerprint with
    | none => .ok false
    | some (dueDate, priority) =>
      if dueDate ≠ "" ∧ host.readNumber priority = some task.priority then do
        let before ← localDay host dueDate state.notificationTimeZone
        let after ← localDay host task.dueDate state.notificationTimeZone
        return before = after
      else .ok false

def recentlyNotified : Option Notice → Bool
  | none => false
  | some previous => event.occurredAt - previous.notifiedAt < state.reminderMinimumIntervalMs

/-- Whether the last reminder, or the hour, holds a reminder of the task back. -/
def heldBack (task : OverdueTask) (previous : Option Notice) : Except String Bool := do
  let sameDay ← state.sameLocalDueDay host task previous
  if previous.map (·.fingerprint) = some (task.fingerprint host) ∨ sameDay ∨ state.recentlyNotified event previous then
    return true
  let inWindow ← localWindow host event.occurredAt state.notificationTimeZone state.notificationStartHour
    state.notificationEndHour
  return !inWindow

def reminder (task : OverdueTask) : EffectInput :=
  notificationEffect (host.stable "dida-overdue-notification" [task.taskId, task.fingerprint host])
    s!"自动化待办已超期：{task.title}"
    s!"截止：{task.dueDate}\n优先级：{host.numberText task.priority}\nhttps://dida365.com/webapp/#p/{encodeURIComponent state.projectId}/tasks/{encodeURIComponent task.taskId}"
    event.occurredAt

/-- The loop over the scanned tasks. -/
def remind : List OverdueTask → List (String × Notice) → Except String (List (String × Notice) × List EffectInput)
  | [], notified => .ok (notified, [])
  | task :: rest, notified => do
    let previous ← noticeOf notified task.taskId
    let held ← state.heldBack host event task previous
    if held then remind rest notified
    else
      let (notified, effects) ← remind rest (assign notified task.taskId
        { fingerprint := task.fingerprint host, notifiedAt := event.occurredAt })
      return (notified, state.reminder host event task :: effects)

/-! ## reduce -/

def scanEffect : EffectInput :=
  { id := host.stable "dida-overdue-scan" [state.projectId, match event.payload.get "scheduledAt" with
      | .undefined | .null => toISOString event.occurredAt
      | scheduledAt => host.text scheduledAt]
    kind := listOverdue, payload := .object [("projectId", .string state.projectId)]
    availableAt := some event.occurredAt }

def onTimer : WorkflowDecision OverdueState :=
  { status := .waiting, state := { state with phase := .scanning }, wakeAt := some none
    effects := [state.scanEffect host event] }

/-- The notice that the monitoring recovered from a failure the owner was told of. -/
def recovery : List EffectInput :=
  match state.failure with
  | none => []
  | some failure =>
    if failure.notified then
      [notificationEffect (host.stable "dida-overdue-recovered" [toISOString failure.startedAt])
        "滴答清单超期监控已恢复" s!"故障始于：{toISOString failure.startedAt}" event.occurredAt]
    else []

def onScanned : Except String (WorkflowDecision OverdueState) := do
  let tasks ← parseOverdueTasks host (event.payload.get "tasks")
  let (notified, effects) ← state.remind host event tasks state.notified
  return { status := .waiting, wakeAt := some (some (later event.occurredAt state.intervalMs))
           state := { state with
             phase := .scheduled, failure := none
             notified := pruneFingerprints notified event.occurredAt }
           effects := effects ++ state.recovery host event }

def onFailed : WorkflowDecision OverdueState :=
  let (failure, notify) := failed state.failure event.occurredAt state.failureThreshold
  { status := .waiting, wakeAt := some (some (later event.occurredAt state.retryMs))
    state := { state with phase := .scheduled, failure := some failure }
    effects := if notify then
        [notificationEffect (host.stable "dida-overdue-failed" [toISOString failure.startedAt])
          "滴答清单超期监控持续失败" s!"已连续失败 {failure.count} 次，后台会继续重试。" event.occurredAt]
      else [] }

/-- Whatever else arrives: a scheduled monitor scans again. -/
def onOther : WorkflowDecision OverdueState :=
  { status := .waiting, state, effects := []
    wakeAt := if state.phase = .scheduled then some (some (later event.occurredAt state.intervalMs))
      else none }

def reduce : Except String (WorkflowDecision OverdueState) :=
  if event.type = "timer" ∧ state.phase = .scheduled then .ok (state.onTimer host event)
  else if isOutcome event ∧ effectKind event = some notifyOwner then .ok (.keep .waiting state)
  else if event.type = "effect.delivered" ∧ effectKind event = some listOverdue then
    state.onScanned host event
  else if event.type = "effect.failed" ∧ effectKind event = some listOverdue then
    .ok (state.onFailed host event)
  else .ok (state.onOther event)

end OverdueState

/-! ## The definition -/

def initialOverdue (projectId : String) (intervalMs retryMs failureThreshold : Nat) (notificationTimeZone : String)
    (notificationStartHour notificationEndHour reminderMinimumIntervalMs : Nat) : OverdueState :=
  { projectId, intervalMs, retryMs, failureThreshold, notificationTimeZone, notificationStartHour
    notificationEndHour, reminderMinimumIntervalMs, phase := .scheduled, notified := []
    failure := none }

def overdueDefinition (host : Host) (initial : OverdueState) : WorkflowDefinition OverdueState where
  kind := "dida.overdue-monitor"
  version := 1
  initialise _ now := .ok { status := .waiting, state := initial, wakeAt := some (some now), effects := [] }
  reduce := OverdueState.reduce host
  members _ := []

/-- `clock` is the instant at which the definition is built. -/
def overdueWorkflow (host : Host) (config : DidaMaintenanceConfig) (clock : Timestamp) :
    Except String (WorkflowDefinition OverdueState) := do
  let projectId ← requiredString config.projectId "Dida maintenance projectId"
  let intervalMs ← positiveInteger config.overdueIntervalMs (30 * minuteMs) "overdueIntervalMs" minuteMs
  let retryMs ← positiveInteger config.overdueRetryMs (10 * minuteMs) "overdueRetryMs" minuteMs
  let failureThreshold ← positiveInteger config.failureNotifyThreshold 3 "failureNotifyThreshold" 1
  let notificationTimeZone := config.overdueNotificationTimeZone.getD "Asia/Shanghai"
  let notificationStartHour ← positiveInteger config.overdueNotificationStartHour 9
    "overdueNotificationStartHour" 0
  let notificationEndHour ← positiveInteger config.overdueNotificationEndHour 19
    "overdueNotificationEndHour" 0
  if 23 < notificationStartHour ∨ 23 < notificationEndHour then
    .error "overdue notification hours must be at most 23"
  let reminderMinimumIntervalMs ← positiveInteger config.overdueReminderMinimumIntervalMs dayMs
    "overdueReminderMinimumIntervalMs" minuteMs
  let _ ← localWindow host clock notificationTimeZone notificationStartHour notificationEndHour
  return overdueDefinition host (initialOverdue projectId intervalMs retryMs failureThreshold
    notificationTimeZone notificationStartHour notificationEndHour reminderMinimumIntervalMs)

end QuarkSelfAI.TaskMaintenance

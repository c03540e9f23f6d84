import QuarkSelfAI.Domain.EffectKinds
import QuarkSelfAI.Followup.Contracts

/-!
# The workday review

`followupReviewWorkflow`: once a workday it lists the active tasks, has them evaluated,
applies the updates, and distributes what the owner and others are to be told.
-/

namespace QuarkSelfAI.Followup

open Foundation Storage Workflow Domain

def openOutreach : String := "followup.open-outreach.v1"

def workdays : List String := ["Mon", "Tue", "Wed", "Thu", "Fri"]

inductive ReviewPhase where
  | scheduled
  | loading
  | evaluating
  | applying
  | distributing
deriving DecidableEq

structure FollowupReviewState where
  projectId : String
  taskProjection : JsValue
  timeZone : String
  scheduledHour : Nat
  pollIntervalMs : Nat
  phase : ReviewPhase
  sequence : Nat
  lastCompletedDay : Option String
  pending : List String
  evaluation : Option FollowupEvaluation

structure Slot where
  day : String
  due : Bool

def slot (host : Host) (now : Timestamp) (timeZone : String) (hour : Nat) : Except String Slot := do
  let parts ← host.parts now timeZone
  return { day := parts.dayText, due := parts.weekday ∈ workdays ∧ hour ≤ parts.hour }

/-- The lines of a list, numbered from one. -/
def numbered {α : Type} (line : α → String) : List α → Nat → List String
  | [], _ => []
  | item :: rest, index => s!"{index + 1}. {line item}" :: numbered line rest (index + 1)

def linked (url : Option String) : String := (url.map fun url => s!"\n{url}").getD ""

def FollowupUpdate.line (update : FollowupUpdate) : String :=
  let changes := "；".intercalate update.changes
  s!"{update.title}\n变更：{changes}\n原因：{update.reason}{linked update.url}"

def FollowupReminder.line (host : Host) (reminder : FollowupReminder) : String :=
  let urgency := host.text reminder.urgency
  s!"[{urgency}] {reminder.title}\n原因：{reminder.reason}\n建议：{reminder.recommendedAction}{linked reminder.url}"

namespace FollowupReviewState

variable (host : Host) (state : FollowupReviewState) (event : Event)

def slot (now : Timestamp) : Except String Slot := Followup.slot host now state.timeZone state.scheduledHour

def withoutEvaluation : FollowupReviewState :=
  { state with evaluation := none }

/-! ## Effects -/

def listEffect (day : String) : EffectInput :=
  { id := host.stable "followup-list-active" [day, toString state.sequence], kind := listActive
    availableAt := some event.occurredAt, payload := .object [("projectId", .string state.projectId)] }

def evaluateEffect (day : String) : EffectInput :=
  { id := host.stable "followup-evaluate" [day, toString state.sequence], kind := evaluateFollowups
    availableAt := some event.occurredAt
    payload := .object [("day", .string day), ("timeZone", .string state.timeZone),
      ("tasks", event.payload.get "tasks")] }

def updateEffect (day : String) (update : FollowupUpdate) : EffectInput :=
  { id := host.stable "followup-apply-update" [update.taskId, day], kind := applyFollowupUpdate
    availableAt := some event.occurredAt
    payload := .object [("projectId", .string state.projectId),
      ("authorization", state.taskProjection.get "authorization"),
      ("effectiveAt", .string (toISOString event.occurredAt)), ("update", update.payload),
      ("idempotencyKey", .string s!"followup-review:{day}:{update.taskId}")] }

/-- A notice to the owner, under its own id as its key. -/
def notice (id title body : String) : EffectInput :=
  { id, kind := notifyOwner, availableAt := some event.occurredAt
    payload := .object [("title", .string title), ("body", .string body), ("idempotencyKey", .string id)] }

def updatesNotice (day : String) (updates : List FollowupUpdate) : EffectInput :=
  notice event (host.stable "followup-updates" [day]) s!"已维护 {updates.length} 项自动化跟进任务"
    ("\n\n".intercalate (numbered FollowupUpdate.line updates 0))

def remindersNotice (day : String) (reminders : List FollowupReminder) : EffectInput :=
  notice event (host.stable "followup-reminders" [day]) s!"今天有 {reminders.length} 项建议跟进"
    ("\n\n".intercalate (numbered (FollowupReminder.line host) reminders 0))

def outreachEffect (item : FollowupOutreachInput) : EffectInput :=
  let id := host.stable "followup-open-outreach" [item.taskId, item.person, item.question]
  { id, kind := openOutreach, availableAt := some event.occurredAt
    payload := .object (item.members ++ [("idempotencyKey", .string id)]) }

/-- What is told to the owner and to others after an evaluation. -/
def distribution (day : String) (evaluation : FollowupEvaluation) : List EffectInput :=
  (if evaluation.updates ≠ [] then [updatesNotice host event day evaluation.updates] else []) ++
    (if evaluation.reminders ≠ [] then [remindersNotice host event day evaluation.reminders] else []) ++
    evaluation.outreachRequests.map (outreachEffect host event)

/-! ## reduce -/

/-- The review of a day is done. -/
def finished (day : String) : WorkflowDecision FollowupReviewState :=
  { status := .waiting, effects := [], wakeAt := some (some (later event.occurredAt state.pollIntervalMs))
    state := { state.withoutEvaluation with
      phase := .scheduled, lastCompletedDay := some day, pending := [] } }

def distribute (evaluation : FollowupEvaluation) : Except String (WorkflowDecision FollowupReviewState) := do
  let current ← state.slot host event.occurredAt
  let effects := distribution host event current.day evaluation
  if effects = [] then return state.finished event current.day
  else return { status := .waiting, wakeAt := some none, effects
                state := { state with phase := .distributing, pending := effects.map (·.id) } }

def onTimer : Except String (WorkflowDecision FollowupReviewState) := do
  let current ← state.slot host event.occurredAt
  if ¬ current.due ∨ state.lastCompletedDay = some current.day then
    return { status := .waiting, state, effects := []
             wakeAt := some (some (later event.occurredAt state.pollIntervalMs)) }
  else
    let next := { state with phase := .loading, sequence := state.sequence + 1 }
    return { status := .waiting, state := next, wakeAt := some none
             effects := [next.listEffect host event current.day] }

def onListed : Except String (WorkflowDecision FollowupReviewState) :=
  match event.payload.get "tasks" with
  | .array _ =>
    if event.payload.get "projectId" ≠ .string state.projectId then .error "followup task snapshot is invalid"
    else do
      let current ← state.slot host event.occurredAt
      return { status := .waiting, state := { state with phase := .evaluating }, wakeAt := some none
               effects := [state.evaluateEffect host event current.day] }
  | _ => .error "followup task snapshot is invalid"

def onEvaluated : Except String (WorkflowDecision FollowupReviewState) := do
  let evaluation ← validateFollowupEvaluation host event.payload
  if evaluation.updates = [] then state.distribute host event evaluation
  else do
    let current ← state.slot host event.occurredAt
    let effects := evaluation.updates.map (state.updateEffect host event current.day)
    return { status := .waiting, wakeAt := some none, effects
             state := { state with
               phase := .applying, evaluation := some evaluation, pending := effects.map (·.id) } }

/-- The effects still pending after a report of one of them. -/
def remaining : Option (List String) :=
  match effectIdOf event with
  | none => none
  | some id => if id = "" ∨ id ∉ state.pending then none else some (state.pending.filter (· ≠ id))

def onApplied : Except String (WorkflowDecision FollowupReviewState) :=
  match state.remaining event with
  | none => .ok (.keep .waiting state)
  | some [] =>
    match state.evaluation with
    | none => .error "Cannot read properties of undefined (reading 'updates')"
    | some evaluation => distribute host { state with pending := [] } event evaluation
  | some pending => .ok (.keep .waiting { state with pending })

def onDistributed : Except String (WorkflowDecision FollowupReviewState) :=
  match state.remaining event with
  | none => .ok (.keep .waiting state)
  | some [] => do
    let current ← state.slot host event.occurredAt
    return state.finished event current.day
  | some pending => .ok (.keep .waiting { state with pending })

/-- A review that failed is begun anew at the next poll. -/
def onFailed : WorkflowDecision FollowupReviewState :=
  { status := .waiting, state := { state with phase := .scheduled, pending := [] }, effects := []
    wakeAt := some (some (later event.occurredAt state.pollIntervalMs)) }

def reduce : Except String (WorkflowDecision FollowupReviewState) :=
  if event.type = "timer" ∧ state.phase = .scheduled then state.onTimer host event
  else if event.type = "effect.delivered" ∧ state.phase = .loading ∧ effectKind event = some listActive then
    state.onListed host event
  else if event.type = "effect.delivered" ∧ state.phase = .evaluating ∧
      effectKind event = some evaluateFollowups then state.onEvaluated host event
  else if event.type = "effect.delivered" ∧ state.phase = .applying ∧
      effectKind event = some applyFollowupUpdate then state.onApplied host event
  else if isOutcome event ∧ state.phase = .distributing then state.onDistributed host event
  else if event.type = "effect.failed" ∧
      (state.phase = .loading ∨ state.phase = .evaluating ∨ state.phase = .applying) then
    .ok (state.onFailed event)
  else .ok (.keep .waiting state)

end FollowupReviewState

/-! ## The definition -/

structure FollowupReviewConfig where
  projectId : Option String
  taskProjection : JsValue
  timeZone : Option String
  scheduledHour : Option Rat
  pollIntervalMs : Option Rat

def initialReview (projectId : String) (taskProjection : JsValue) (timeZone : String)
    (scheduledHour pollIntervalMs : Nat) : FollowupReviewState :=
  { projectId, taskProjection, timeZone, scheduledHour, pollIntervalMs, phase := .scheduled, sequence := 0
    lastCompletedDay := none, pending := [], evaluation := none }

def reviewDefinition (host : Host) (initial : FollowupReviewState) : WorkflowDefinition FollowupReviewState where
  kind := "followup.workday-review"
  version := 1
  initialise _ now := .ok { status := .waiting, state := initial, wakeAt := some (some now), effects := [] }
  reduce := FollowupReviewState.reduce host
  members state := [("taskProjection", state.taskProjection)] ++
    JsValue.whenSome "evaluation" state.evaluation fun evaluation => .array (evaluation.reminders.map (·.urgency))

/-- `required(value, label)` of the review. -/
def requiredText (label : String) : Option String → Except String String
  | some text => if isBlank text then .error s!"{label} is required" else .ok text
  | none => .error s!"{label} is required"

def reviewInteger (value : Option Rat) (fallback : Nat) (label : String) (minimum : Nat) : Except String Nat :=
  integerSetting s!"{label} is invalid" value fallback minimum

/-- `clock` is the instant at which the definition is built. -/
def followupReviewWorkflow (host : Host) (config : FollowupReviewConfig) (clock : Timestamp) :
    Except String (WorkflowDefinition FollowupReviewState) := do
  let projectId ← requiredText "followup projectId" config.projectId
  if isFalsy config.taskProjection ∨ config.taskProjection.get "projectId" ≠ .string projectId then
    .error "followup review requires matching task projection authorization"
  let timeZone := config.timeZone.getD "Asia/Shanghai"
  let scheduledHour ← reviewInteger config.scheduledHour 10 "scheduledHour" 0
  if 23 < scheduledHour then .error "scheduledHour is invalid"
  let pollIntervalMs ← reviewInteger config.pollIntervalMs 3600000 "pollIntervalMs" 60000
  let _ ← slot host clock timeZone scheduledHour
  return reviewDefinition host (initialReview projectId config.taskProjection timeZone scheduledHour pollIntervalMs)

end QuarkSelfAI.Followup

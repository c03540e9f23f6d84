import QuarkSelfAI.Domain.Authorization

/-!
# Task maintenance: settings and shared parts

What the overdue monitor and the completed-task cleanup have in common.
-/

namespace QuarkSelfAI.TaskMaintenance

open Foundation Storage Workflow Domain

def minuteMs : Nat := 60000

def dayMs : Nat := 86400000

/-! ## Effect kinds -/

def listOverdue : String := "task-store.list-overdue.v1"

def cleanupCompleted : String := "task-maintenance.cleanup-completed.v1"

structure DidaMaintenanceConfig where
  projectId : String
  overdueIntervalMs : Option Rat
  overdueRetryMs : Option Rat
  failureNotifyThreshold : Option Rat
  overdueNotificationTimeZone : Option String
  overdueNotificationStartHour : Option Rat
  overdueNotificationEndHour : Option Rat
  overdueReminderMinimumIntervalMs : Option Rat
  cleanupTimeZone : Option String
  cleanupHour : Option Rat
  cleanupPollIntervalMs : Option Rat
  cleanupFailureNotifyThreshold : Option Rat
  completedRetentionDays : Option Rat
  cleanupMaxPerRun : Option Rat
  cleanupAuthorization : JsValue

/-- A streak of failures: when it began, how many there were, and whether the owner
was told. -/
structure FailureState where
  startedAt : Timestamp
  count : Nat
  notified : Bool

def positiveInteger (value : Option Rat) (fallback : Nat) (label : String) (minimum : Nat) : Except String Nat :=
  integerSetting s!"{label} must be an integer of at least {minimum}" value fallback minimum

def requiredString (value label : String) : Except String String :=
  if isBlank value then .error s!"{label} must be a non-empty string" else .ok value

/-! ## Local time -/

structure LocalSlot where
  day : String
  due : Bool

def localSlot (host : Host) (now : Timestamp) (timeZone : String) (scheduledHour : Nat) : Except String LocalSlot := do
  let parts ← host.parts now timeZone
  return { day := parts.dayText, due := scheduledHour ≤ parts.hour }

theorem localSlot_plain {host : Host} (lawful : host.Lawful) {now : Timestamp} {timeZone : String} {scheduledHour : Nat}
    {slot : LocalSlot} (located : localSlot host now timeZone scheduledHour = .ok slot) : 'T' ∉ slot.day.toList := by
  obtain ⟨parts, zoned, located⟩ := bind_ok.mp located
  cases located
  unfold Host.parts at zoned
  split at zoned
  · cases zoned
  · rename_i found
    cases zoned
    exact lawful.dayText timeZone now parts found

def localWindow (host : Host) (now : Timestamp) (timeZone : String) (startHour endHour : Nat) : Except String Bool := do
  let parts ← host.parts now timeZone
  return startHour = endHour ∨ (if startHour < endHour
    then startHour ≤ parts.hour ∧ parts.hour < endHour
    else startHour ≤ parts.hour ∨ parts.hour < endHour)

def localDay (host : Host) (value timeZone : String) : Except String String :=
  match host.parseDate value with
  | none => .error "Invalid time value"
  | some instant => do
    let parts ← host.parts instant timeZone
    return parts.dayText

/-! ## Notifications and failures -/

def notificationEffect (effectId title body : String) (availableAt : Timestamp) : EffectInput :=
  { id := effectId, kind := notifyOwner
    payload := .object [("title", .string title), ("body", .string body), ("idempotencyKey", .string effectId)]
    availableAt := some availableAt }

def failure (state : Option FailureState) (now : Timestamp) : FailureState :=
  { startedAt := (state.map (·.startedAt)).getD now, count := (state.map (·.count)).getD 0 + 1
    notified := (state.map (·.notified)).getD false }

/-- The owner is told once per streak, when it has grown to the threshold. -/
def shouldNotify (failure : FailureState) (threshold : Nat) : Bool := ¬ failure.notified ∧ threshold ≤ failure.count

/-- The streak after a failure, with whether the owner is told now. -/
def failed (state : Option FailureState) (now : Timestamp) (threshold : Nat) : FailureState × Bool :=
  let next := failure state now
  let notify := shouldNotify next threshold
  ({ next with notified := next.notified || notify }, notify)

@[simp] theorem failed_startedAt (state : Option FailureState) (now : Timestamp) (threshold : Nat) :
    (failed state now threshold).1.startedAt = (failure state now).startedAt := rfl

@[simp] theorem failed_notified (state : Option FailureState) (now : Timestamp) (threshold : Nat) :
    (failed state now threshold).1.notified =
      ((failure state now).notified || shouldNotify (failure state now) threshold) := rfl

/-- Only a streak that was told of before is told of already. -/
theorem failure_notified {state : Option FailureState} {now : Timestamp} (notified : (failure state now).notified) :
    ∃ before, state = some before ∧ before.notified ∧ before.startedAt = (failure state now).startedAt := by
  cases state with
  | none => cases notified
  | some before => exact ⟨before, rfl, notified, rfl⟩

end QuarkSelfAI.TaskMaintenance

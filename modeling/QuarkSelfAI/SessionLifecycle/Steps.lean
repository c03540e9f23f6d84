import QuarkSelfAI.SessionLifecycle.Workflow

/-!
# What an event does to a session

`SessionStep` lists the branches of the reduction once, with the guards they were
taken under and the decisions they make. Every later result is by cases on it.
-/

namespace QuarkSelfAI.SessionLifecycle

open Foundation Storage Workflow Domain

variable {host : Host} {state : SessionState} {event : Event}

/-- The kind of effect that carries an operation out. -/
def Operation.kind : Operation → String
  | .inspect => inspectSession
  | .taskCheck => isCompleted
  | .archive => archiveIfNeeded
  | .delete => deleteIfArchived

/-- The phase that waits for an operation. -/
def Operation.phase : Operation → SessionPhase
  | .inspect => .inspecting
  | .taskCheck => .checkingTask
  | .archive => .archiving
  | .delete => .deleting

theorem operationFor_iff {kind : Option String} {phase : SessionPhase} {operation : Operation} :
    SessionState.operationFor kind phase = some operation ↔ kind = some operation.kind ∧ phase = operation.phase := by
  constructor
  · intro own
    unfold SessionState.operationFor at own
    split_ifs at own with inspect taskCheck archive delete
    · cases own
      exact inspect
    · cases own
      exact taskCheck
    · cases own
      exact archive
    · cases own
      exact delete
  · rintro ⟨rfl, rfl⟩
    cases operation <;> rfl

/-- The delivered report of an effect that the phase waits for. -/
def Delivered (state : SessionState) (event : Event) (phase : SessionPhase) (kind : String) : Prop :=
  event.type = "effect.delivered" ∧ state.phase = phase ∧ effectKind event = some kind

/-- The report of a notice to the owner. -/
def isNotice (event : Event) : Prop := isOutcome event ∧ effectKind event = some notifyOwner

/-- The result of an inspection: what the session waits for next. -/
inductive Inspected (host : Host) (state : SessionState) (event : Event) : WorkflowDecision SessionState → Prop where
  | gone : Inspected host state event
      { status := .completed, wakeAt := some none, effects := []
        state := { state.withoutFailure with phase := .completed, deletedAt := some event.occurredAt } }
  | busy : Inspected host state event
      { status := .waiting, state := { state.withoutFailure with phase := .waiting }
        wakeAt := state.nextPoll event, effects := [] }
  | archived : Inspected host state event
      { status := .waiting, effects := []
        state := { state.withoutFailure with phase := .archived, archivedAt := some (.of event.occurredAt) }
        wakeAt := some (some (later event.occurredAt state.deleteAfterMs)) }
  | unused : Inspected host state event
      { status := .waiting, wakeAt := some none
        state := { state.withoutFailure with phase := .checkingTask }
        effects := [state.ask host .taskCheck isCompleted event [("taskId", .string state.taskId)]] }

/-- The result of a task check. -/
inductive TaskChecked (host : Host) (state : SessionState) (event : Event) : WorkflowDecision SessionState → Prop where
  | unfinished : TaskChecked host state event
      { status := .waiting, state := { state.withoutFailure with phase := .waiting }
        wakeAt := state.nextPoll event, effects := [] }
  | finished : TaskChecked host state event
      { status := .waiting, wakeAt := some none
        state := { state.withoutFailure with phase := .archiving }
        effects := [state.ask host .archive archiveIfNeeded event
          [("sessionId", .string state.sessionId), ("managedBy", .string state.managedBy),
            ("effectiveAt", .string (toISOString event.occurredAt)),
            ("authorization", state.authorization.payload)]] }

/-- The result of a deletion. -/
inductive Deleted (state : SessionState) (event : Event) : WorkflowDecision SessionState → Prop where
  | done (ended : event.payload.get "outcome" = .string "deleted" ∨
        event.payload.get "outcome" = .string "missing") : Deleted state event
      { status := .completed, wakeAt := none, effects := []
        state := { state.withoutFailure with phase := .completed, deletedAt := some event.occurredAt } }
  | refused (kept : ¬ (event.payload.get "outcome" = .string "deleted" ∨
        event.payload.get "outcome" = .string "missing")) : Deleted state event
      { status := .waiting, state := { state.withoutFailure with phase := .archived }
        wakeAt := state.nextPoll event, effects := [] }

/-- The branches of `SessionState.reduce`. -/
inductive SessionStep (host : Host) (state : SessionState) (event : Event) : WorkflowDecision SessionState → Prop where
  | eligible (asked : event.type = "session.eligible") (waiting : state.phase = .waiting) :
      SessionStep host state event
        { status := .waiting, state := { state with eligible := true }
          wakeAt := some (some event.occurredAt), effects := [] }
  | polled (timer : event.type = "timer") (waiting : state.phase = .waiting) :
      SessionStep host state event (state.onWaitingTimer host event)
  | inspected {decision : _} (report : Delivered state event .inspecting inspectSession)
      (result : Inspected host state event decision) : SessionStep host state event decision
  | taskChecked {decision : _} (report : Delivered state event .checkingTask isCompleted)
      (result : TaskChecked host state event decision) : SessionStep host state event decision
  | archived {decision : _} (report : Delivered state event .archiving archiveIfNeeded)
      (archivedAt : Stamp)
      (settled : decision.state = { state.withoutFailure with
        phase := .archived, archivedAt := some archivedAt })
      (waits : decision.wakeAt = some (some (later archivedAt.instant state.deleteAfterMs)))
      (status : decision.status = .waiting)
      (told : decision.effects = [] ∨ decision.effects = [state.notification host "archived" "自动调研会话已归档"
          s!"会话：{state.sessionId}\n关联任务：{state.taskId}" event.occurredAt])
      (read : stamp host "archive effect archivedAt" (event.payload.get "archivedAt") = .ok archivedAt) :
      SessionStep host state event decision
  | deleting (timer : event.type = "timer") (archived : state.phase = .archived) :
      SessionStep host state event (state.onArchivedTimer host event)
  | noticed (notice : isNotice event) : SessionStep host state event (.keep .waiting state)
  | deleted {decision : _} (report : Delivered state event .deleting deleteIfArchived)
      (result : Deleted state event decision) : SessionStep host state event decision
  | failed (operation : Operation) (report : event.type = "effect.failed")
      (own : SessionState.operationFor (effectKind event) state.phase = some operation) :
      SessionStep host state event (state.retryDecision host operation event)
  | other (named : event.type ≠ "session.eligible")
      (untimed : event.type = "timer" → state.phase ≠ .waiting ∧ state.phase ≠ .archived)
      (unnoticed : ¬ isNotice event)
      (unmatched : ∀ phase kind, (phase, kind) ∈ [(SessionPhase.inspecting, inspectSession),
        (.checkingTask, isCompleted), (.archiving, archiveIfNeeded), (.deleting, deleteIfArchived)] →
          ¬ Delivered state event phase kind)
      (unfailed : event.type = "effect.failed" → SessionState.operationFor (effectKind event) state.phase = none) :
      SessionStep host state event (state.onOther event)

section

variable {decision : WorkflowDecision SessionState}

theorem onInspected_step (inspected : state.onInspected host event = .ok decision) :
    Inspected host state event decision := by
  unfold SessionState.onInspected at inspected
  split at inspected
  · split at inspected
    · cases inspected
    · split at inspected
      · cases inspected
        exact .gone
      · split at inspected
        · cases inspected
          exact .busy
        · split at inspected
          · cases inspected
            exact .archived
          · cases inspected
            exact .unused
  · cases inspected

theorem onTaskChecked_step (checked : state.onTaskChecked host event = .ok decision) :
    TaskChecked host state event decision := by
  unfold SessionState.onTaskChecked at checked
  split at checked
  · split at checked
    · cases checked
      exact .unfinished
    · cases checked
      exact .finished
  · cases checked

theorem onDeleted_step (deleted : state.onDeleted host event = .ok decision) : Deleted state event decision := by
  unfold SessionState.onDeleted at deleted
  dsimp only at deleted
  split at deleted
  · cases deleted
  · split at deleted
    · rename_i ended
      cases deleted
      exact .done ended
    · rename_i kept
      cases deleted
      exact .refused kept

theorem session_step (reduced : state.reduce host event = .ok decision) : SessionStep host state event decision := by
  unfold SessionState.reduce at reduced
  split at reduced
  · rename_i asked
    unfold SessionState.onEligible at reduced
    split at reduced
    · cases reduced
    · rename_i waiting
      cases reduced
      exact .eligible asked (not_not.mp waiting)
  rename_i named
  split at reduced
  · rename_i timer
    cases reduced
    exact .polled timer.1 timer.2
  rename_i unpolled
  split at reduced
  · rename_i report
    exact .inspected report (onInspected_step reduced)
  rename_i uninspected
  split at reduced
  · rename_i report
    exact .taskChecked report (onTaskChecked_step reduced)
  rename_i unchecked
  split at reduced
  · rename_i report
    unfold SessionState.onArchived at reduced
    obtain ⟨archivedAt, read, reduced⟩ := bind_ok.mp reduced
    split at reduced
    · rename_i alreadyArchived _
      cases reduced
      refine .archived report archivedAt rfl rfl rfl ?_ read
      cases alreadyArchived
      · exact .inr rfl
      · exact .inl rfl
    · cases reduced
  rename_i unarchived
  split at reduced
  · rename_i timer
    cases reduced
    exact .deleting timer.1 timer.2
  rename_i undeleting
  split at reduced
  · rename_i notice
    cases reduced
    exact .noticed notice
  rename_i unnoticed
  split at reduced
  · rename_i report
    exact .deleted report (onDeleted_step reduced)
  rename_i undeleted
  have untimed : event.type = "timer" → state.phase ≠ .waiting ∧ state.phase ≠ .archived :=
    fun timer => ⟨fun phase => unpolled ⟨timer, phase⟩, fun phase => undeleting ⟨timer, phase⟩⟩
  have unmatched : ∀ phase kind, (phase, kind) ∈ [(SessionPhase.inspecting, inspectSession),
      (.checkingTask, isCompleted), (.archiving, archiveIfNeeded), (.deleting, deleteIfArchived)] →
        ¬ Delivered state event phase kind := by
    rintro phase kind listed report
    simp only [List.mem_cons, Prod.mk.injEq, List.not_mem_nil, or_false] at listed
    rcases listed with ⟨rfl, rfl⟩ | ⟨rfl, rfl⟩ | ⟨rfl, rfl⟩ | ⟨rfl, rfl⟩
    · exact uninspected report
    · exact unchecked report
    · exact unarchived report
    · exact undeleted report
  split at reduced
  · split at reduced
    · rename_i failed _ operation own
      cases reduced
      exact .failed operation failed own
    · rename_i unowned
      cases reduced
      exact .other named untimed unnoticed unmatched fun _ => unowned
  · rename_i unfailed
    cases reduced
    exact .other named untimed unnoticed unmatched fun failed => absurd failed unfailed

end

/-! ## Beginnings -/

/-- The intervals of a configured lifecycle are positive. -/
structure SessionSettings.Spaced (settings : SessionSettings) : Prop where
  pollIntervalMs : 0 < settings.pollIntervalMs
  retryBaseMs : 0 < settings.retryBaseMs
  retryMaxMs : 0 < settings.retryMaxMs
  deleteAfterDays : 0 < settings.deleteAfterDays

theorem sessionLifecycleWorkflow_ok {config : SessionLifecycleConfig} {clock : Timestamp}
    {definition : WorkflowDefinition SessionState}
    (built : sessionLifecycleWorkflow host config clock = .ok definition) :
    ∃ settings, definition = sessionDefinition host settings ∧ settings.Spaced := by
  unfold sessionLifecycleWorkflow at built
  obtain ⟨pollIntervalMs, polls, built⟩ := bind_ok.mp built
  obtain ⟨retryBaseMs, bases, built⟩ := bind_ok.mp built
  obtain ⟨retryMaxMs, tops, built⟩ := bind_ok.mp built
  obtain ⟨deleteAfterDays, days, built⟩ := bind_ok.mp built
  obtain ⟨failureThreshold, -, built⟩ := bind_ok.mp built
  obtain ⟨failureNotifyCooldownMs, -, built⟩ := bind_ok.mp built
  obtain ⟨authorization, -, built⟩ := bind_ok.mp built
  cases built
  have base : 0 < retryBaseMs := lt_of_lt_of_le (by decide) (integerSetting_le bases)
  exact ⟨_, rfl, lt_of_lt_of_le (by decide) (integerSetting_le polls), base,
    lt_of_lt_of_le base (integerSetting_le tops), integerSetting_le days⟩

/-- A session begins waiting, without an archive, a failure or an effect. -/
theorem initialiseSession_ok {settings : SessionSettings} {input : JsValue} {now : Timestamp}
    {decision : WorkflowDecision SessionState} (begun : initialiseSession host settings input now = .ok decision) :
    decision.state.phase = .waiting ∧ decision.state.sequence = 0 ∧ decision.state.failure = none ∧
      decision.state.archivedAt = none ∧ decision.status = .waiting ∧
      decision.wakeAt = some (some now) ∧ decision.effects = [] := by
  unfold initialiseSession at begun
  dsimp only [bind, Except.bind, pure, Except.pure] at begun
  -- Every check either refuses the input or goes on to the one decision.
  repeat' split at begun
  all_goals first
    | cases begun
      exact ⟨rfl, rfl, rfl, rfl, rfl, rfl, rfl⟩
    | cases begun

/-! ## A tracked session -/

def trackedHost : Host :=
  .tabulated "Asia/Shanghai" 28800000
    [("11111111-2222-4333-8444-555555555555\x001", "4b9891d509b4baabf72437d08bf0de91"),
      ("11111111-2222-4333-8444-555555555555\x002", "b857a7828f6e79d0bf5f1a69885f6cac"),
      ("11111111-2222-4333-8444-555555555555\x00failure:task-check:2026-01-04T20:00:02.000Z",
        "698c2e1615d23004541bc64ec11201a4"),
      ("11111111-2222-4333-8444-555555555555\x00failure:task-check:2026-01-04T21:00:04.000Z",
        "39fce1c8e39ee941565a2989ef6789cf")]
    [("2025-12-01T00:00:00.000Z", 1764547200000)]

theorem trackedHost_lawful : trackedHost.Lawful := Host.tabulated_lawful (by decide) (by decide)

/-- The default configuration, with an authorization that asks for seven archived days. -/
def trackedConfig : SessionLifecycleConfig :=
  { pollIntervalMs := none, retryBaseMs := none, retryMaxMs := none, deleteAfterDays := none
    failureNotifyThreshold := none, failureNotifyCooldownMs := none
    authorization := .object [("id", "owner-policy:codex-sessions:v1"), ("grantedBy", "owner"),
      ("grantedAt", "2025-12-01T00:00:00.000Z"), ("scope", "codex.auto-research-session-lifecycle"),
      ("revision", .number 1), ("source", "owner-directive:session-lifecycle"),
      ("minimumArchivedDays", .number 7)] }

def trackedAuthorization : LifecycleAuthorization :=
  { evidence := { id := "owner-policy:codex-sessions:v1", grantedBy := "owner"
                  grantedAt := "2025-12-01T00:00:00.000Z", scope := "codex.auto-research-session-lifecycle"
                  revision := 1, source := "owner-directive:session-lifecycle" }
    minimumArchivedDays := 7 }

def trackedSettings : SessionSettings :=
  { pollIntervalMs := 21600000, retryBaseMs := 3600000, retryMaxMs := 86400000, deleteAfterDays := 7
    failureThreshold := 1, failureNotifyCooldownMs := 86400000, authorization := trackedAuthorization }

def trackedInput : JsValue :=
  .object [("sessionId", "11111111-2222-4333-8444-555555555555"), ("taskId", "task-1"),
    ("managedBy", "quarkselfai-auto-research")]

def trackedState : SessionState :=
  { sessionId := "11111111-2222-4333-8444-555555555555", taskId := "task-1", eligible := true
    phase := .waiting, sequence := 0, pollIntervalMs := 21600000, retryBaseMs := 3600000
    retryMaxMs := 86400000, deleteAfterMs := 604800000, failureThreshold := 1
    failureNotifyCooldownMs := 86400000, authorization := trackedAuthorization
    managedBy := "quarkselfai-auto-research", createdAt := "2026-01-04T20:00:00.000Z"
    archivedAt := none, deletedAt := none, failure := none }

def trackedStart : WorkflowDecision SessionState :=
  { status := .waiting, state := trackedState, wakeAt := some (some 1767556800000), effects := [] }

theorem tracked_built : sessionLifecycleWorkflow trackedHost trackedConfig 1767556800000 =
    .ok (sessionDefinition trackedHost trackedSettings) := by
  rfl

theorem tracked_begun : (sessionDefinition trackedHost trackedSettings).initialise trackedInput
    1767556800000 = .ok trackedStart := by
  rfl

/-- The report of an operation under one digest. -/
def operationReport (operation : Operation) (digest outcome : String) (result : List (String × JsValue))
    (occurredAt : Timestamp) : Event :=
  { id := s!"effect:{operation.text}:{digest}:{outcome}", type := s!"effect.{outcome}", occurredAt
    payload := .object (result ++ [("effectId", JsValue.string s!"{operation.text}:{digest}"),
      ("effectKind", operation.kind)]) }

end QuarkSelfAI.SessionLifecycle

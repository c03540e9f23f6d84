import QuarkSelfAI.SessionLifecycle.Steps
import QuarkSelfAI.Workflow.Reports

/-!
# When a session is deleted

The wait after archiving is kept only in the wake time, and the timer of an archived
session does not look at it again. It is kept as long as no event sets the wake time
of an archived session to an instant before the wait is over.
-/

namespace QuarkSelfAI.SessionLifecycle

open Foundation Storage Workflow Domain

variable {host : Host} {state : SessionState} {event : Event} {progress : Progress SessionState}

/-- The instant from which on an archived session may be deleted. -/
def deletableAt (state : SessionState) (archivedAt : Stamp) : Timestamp := later archivedAt.instant state.deleteAfterMs

/-- The session was archived, and its wait is over at the instant of an event. -/
def Matured (state : SessionState) (event : Event) : Prop :=
  ∃ archivedAt ∈ state.archivedAt, deletableAt state archivedAt ≤ event.occurredAt

/-- Every deletion a run asked for was asked for by an event after the wait. -/
def DeletedInTime (host : Host) (progress : Progress SessionState) : Prop :=
  ∀ entry ∈ progress.applied, ∀ decision, entry.1.reduce host entry.2 = .ok decision →
    ∀ effect ∈ decision.effects, effect.kind = deleteIfArchived → Matured entry.1 entry.2

/-- After how long an event wakes an archived session, when it is not the one that
archives it: an unmatched event polls it, and so does a refused deletion; a failed
deletion is retried. -/
def rearms (state : SessionState) (event : Event) : Option Nat :=
  if isOutcome event ∧ effectKind event = some notifyOwner then none
  else if state.phase = .archived then
    if event.type = "timer" then none else some state.pollIntervalMs
  else if state.phase = .deleting ∧ effectKind event = some deleteIfArchived then
    if event.type = "effect.failed" then some (state.retryDelay (state.nextFailure .delete event))
    else if event.payload.get "outcome" = .string "deleted" ∨ event.payload.get "outcome" = .string "missing" then none
    else some state.pollIntervalMs
  else none

/-- The condition on one event: a timer is given when it is due, and no event wakes an
archived session before its wait is over. -/
structure DeletionOrderly (progress : Progress SessionState) (event : Event) : Prop where
  due : Due progress event
  waits : ∀ delay ∈ rearms progress.state event, ∀ archivedAt ∈ progress.state.archivedAt,
    deletableAt progress.state archivedAt ≤ later event.occurredAt delay

instance (progress : Progress SessionState) (event : Event) : Decidable (DeletionOrderly progress event) :=
  decidable_of_iff
    (Due progress event ∧ ∀ delay ∈ rearms progress.state event, ∀ archivedAt ∈ progress.state.archivedAt,
      deletableAt progress.state archivedAt ≤ later event.occurredAt delay)
    ⟨fun ⟨due, waits⟩ => ⟨due, waits⟩, fun orderly => ⟨orderly.due, orderly.waits⟩⟩

/-! ## The invariant -/

/-- An archived session wakes no earlier than its wait is over. -/
structure Waits (host : Host) (progress : Progress SessionState) : Prop where
  stamped : progress.state.phase = .archived ∨ progress.state.phase = .deleting → progress.state.archivedAt.isSome
  armed : progress.state.phase = .archived → ∀ archivedAt ∈ progress.state.archivedAt,
    ∃ wakeAt ∈ progress.wakeAt, deletableAt progress.state archivedAt ≤ wakeAt
  inTime : DeletedInTime host progress

/-- Only the timer of an archived session asks for its deletion. -/
theorem deletes_archived {decision : WorkflowDecision SessionState} (step : SessionStep host state event decision)
    {effect : EffectInput} (asked : effect ∈ decision.effects) (kind : effect.kind = deleteIfArchived) :
    event.type = "timer" ∧ state.phase = .archived := by
  cases step with
  | deleting timer archived => exact ⟨timer, archived⟩
  | polled timer waiting =>
    unfold SessionState.onWaitingTimer at asked
    split at asked
    · cases asked
    · cases List.mem_singleton.mp asked
      simp [SessionState.ask, inspectSession, deleteIfArchived] at kind
  | eligible | noticed | other => cases asked
  | inspected report result =>
    cases result with
    | unused =>
      cases List.mem_singleton.mp asked
      simp [SessionState.ask, isCompleted, deleteIfArchived] at kind
    | gone | busy | archived => cases asked
  | taskChecked report result =>
    cases result with
    | finished =>
      cases List.mem_singleton.mp asked
      simp [SessionState.ask, archiveIfNeeded, deleteIfArchived] at kind
    | unfinished => cases asked
  | archived report archivedAt settled waits status told =>
    rcases told with nothing | notified
    · rw [nothing] at asked
      cases asked
    · rw [notified] at asked
      cases List.mem_singleton.mp asked
      simp [SessionState.notification, notifyOwner, deleteIfArchived] at kind
  | deleted report result => cases result <;> cases asked
  | failed operation report own =>
    unfold SessionState.retryDecision at asked
    dsimp only at asked
    split at asked
    · cases List.mem_singleton.mp asked
      simp [SessionState.failureNotice, SessionState.notification, notifyOwner, deleteIfArchived] at kind
    · cases asked

namespace Waits

variable {decision : WorkflowDecision SessionState}

/-- The timer of an archived session comes after its wait. -/
theorem matured (here : Waits host progress) (due : Due progress event) (timer : event.type = "timer")
    (archived : progress.state.phase = .archived) : Matured progress.state event := by
  obtain ⟨archivedAt, stamped⟩ := Option.isSome_iff_exists.mp (here.stamped (.inl archived))
  obtain ⟨wakeAt, waking, after⟩ := here.armed archived archivedAt stamped
  obtain ⟨scheduledAt, scheduled, -, come⟩ := due timer
  cases Option.mem_unique waking scheduled
  exact ⟨archivedAt, stamped, after.trans come⟩

/-- What holds of the state and the wake time after an event carries the invariant on. -/
theorem next (here : Waits host progress) (orderly : DeletionOrderly progress event)
    (stamped : decision.state.phase = .archived ∨ decision.state.phase = .deleting → decision.state.archivedAt.isSome)
    (armed : decision.state.phase = .archived → ∀ archivedAt ∈ decision.state.archivedAt,
      ∃ wakeAt ∈ decision.wakeAt.getD progress.wakeAt, deletableAt decision.state archivedAt ≤ wakeAt) :
    Waits host (progress.next event decision) := by
  refine ⟨stamped, armed, ?_⟩
  intro entry listed decided reducing effect asked kind
  rcases List.mem_append.mp listed with before | now
  · exact here.inTime entry before decided reducing effect asked kind
  · cases List.mem_singleton.mp now
    obtain ⟨timer, archived⟩ := deletes_archived (session_step reducing) asked kind
    exact here.matured orderly.due timer archived

/-- An event that re-arms an archived session by a delay keeps to the wait. -/
theorem rearmed (here : Waits host progress) (orderly : DeletionOrderly progress event) {delay : Nat}
    (rearming : rearms progress.state event = some delay) (stamped : progress.state.archivedAt.isSome)
    (kept : decision.state.archivedAt = progress.state.archivedAt)
    (retention : decision.state.deleteAfterMs = progress.state.deleteAfterMs)
    (wakes : decision.wakeAt = some (some (later event.occurredAt delay))) :
    Waits host (progress.next event decision) := by
  refine here.next orderly (fun _ => kept ▸ stamped) fun _ archivedAt listed => ?_
  rw [kept] at listed
  refine ⟨later event.occurredAt delay, by simp [wakes], ?_⟩
  rw [deletableAt, retention]
  exact orderly.waits delay rearming archivedAt listed

/-- An event after which the session is not archived sets no wake time that matters. -/
theorem unarchived (here : Waits host progress) (orderly : DeletionOrderly progress event)
    (phase : decision.state.phase ≠ .archived ∧ decision.state.phase ≠ .deleting) :
    Waits host (progress.next event decision) :=
  here.next orderly (fun either => (either.elim phase.1 phase.2).elim)
    fun archived => absurd archived phase.1

theorem step (here : Waits host progress) (orderly : DeletionOrderly progress event)
    (reduced : progress.state.reduce host event = .ok decision) : Waits host (progress.next event decision) := by
  cases session_step reduced with
  | eligible asked waiting => exact here.unarchived orderly (by simp [waiting])
  | polled timer waiting =>
    refine here.unarchived orderly ?_
    unfold SessionState.onWaitingTimer
    split <;> simp [waiting]
  | inspected report result =>
    cases result with
    | gone | busy | unused => exact here.unarchived orderly (by simp)
    | archived =>
      refine here.next orderly (fun _ => rfl) fun _ archivedAt listed => ?_
      cases listed
      exact ⟨_, rfl, le_rfl⟩
  | taskChecked report result =>
    cases result with
    | unfinished | finished => exact here.unarchived orderly (by simp)
  | archived report archivedAt settled waits status told =>
    refine here.next orderly (fun _ => by rw [settled]; rfl) fun _ other listed => ?_
    rw [settled] at listed
    cases listed
    refine ⟨_, by rw [waits]; rfl, ?_⟩
    rw [settled]
    exact le_rfl
  | deleting timer archived =>
    exact here.next orderly (fun _ => here.stamped (.inl archived)) fun phase => by cases phase
  | noticed notice => exact here.next orderly here.stamped here.armed
  | deleted report result =>
    obtain ⟨delivered, deleting, kind⟩ := report
    have unnoticed : ¬ (isOutcome event ∧ effectKind event = some notifyOwner) := by
      simp [kind, deleteIfArchived, notifyOwner]
    cases result with
    | done => exact here.unarchived orderly (by simp)
    | refused kept =>
      have rearming : rearms progress.state event = some progress.state.pollIntervalMs := by
        rw [rearms, if_neg unnoticed, if_neg (by simp [deleting]), if_pos ⟨deleting, kind⟩,
          if_neg (by simp [delivered]), if_neg kept]
      exact here.rearmed orderly rearming (here.stamped (.inr deleting)) rfl rfl rfl
  | failed operation report own =>
    by_cases deletion : operation = .delete
    · subst deletion
      obtain ⟨kind, deleting⟩ := operationFor_iff.mp own
      have unnoticed : ¬ (isOutcome event ∧ effectKind event = some notifyOwner) := by
        simp [kind, Operation.kind, deleteIfArchived, notifyOwner]
      have rearming : rearms progress.state event =
          some (progress.state.retryDelay (progress.state.nextFailure .delete event)) := by
        rw [rearms, if_neg unnoticed, if_neg (by simp [deleting, Operation.phase]), if_pos ⟨deleting, kind⟩,
          if_pos report]
      exact here.rearmed orderly rearming (here.stamped (.inr deleting)) rfl rfl rfl
    · exact here.unarchived orderly (by simp [SessionState.retryDecision, deletion])
  | other named untimed unnoticed unmatched unfailed =>
    by_cases archived : progress.state.phase = .archived
    · have rearming : rearms progress.state event = some progress.state.pollIntervalMs := by
        unfold isNotice at unnoticed
        rw [rearms, if_neg unnoticed, if_pos archived, if_neg fun timer => (untimed timer).2 archived]
      refine here.rearmed orderly rearming (here.stamped (.inl archived)) rfl rfl ?_
      simp [SessionState.onOther, archived, SessionState.nextPoll]
    · exact here.next orderly here.stamped fun phase => absurd phase archived

end Waits

/-! ## Runs -/

/-- Every deletion of a run comes after the wait of its session. -/
theorem session_run_deletedInTime {config : SessionLifecycleConfig} {clock : Timestamp}
    {definition : WorkflowDefinition SessionState} (built : sessionLifecycleWorkflow host config clock = .ok definition)
    {events : List Event} (run : ((folding definition).restricted DeletionOrderly).Run events progress) :
    DeletedInTime host progress := by
  obtain ⟨settings, rfl, -⟩ := sessionLifecycleWorkflow_ok built
  have waits : Waits host progress := by
    refine run.invariant ?_ ?_
    · rintro progress ⟨input, now, decision, begun, rfl⟩
      obtain ⟨phase, -⟩ := initialiseSession_ok begun
      refine ⟨fun either => ?_, fun archived => ?_, by simp [DeletedInTime, Progress.began]⟩
      · simp [Progress.began, phase] at either
      · simp [Progress.began, phase] at archived
    · rintro before event after here ⟨⟨-, -, decision, reduced, rfl⟩, orderly⟩
      exact here.step orderly reduced
  exact waits.inTime

/-- The session is found archived. -/
def foundArchived : Event :=
  operationReport .inspect "4b9891d509b4baabf72437d08bf0de91" "delivered"
    [("exists", .bool true), ("archived", .bool true), ("running", .bool false)] 1767556801000

/-- A second report of the same inspection comes when the session is already archived: six
hours later it is to be deleted. -/
theorem repeated_not_inTime : ∃ definition events progress,
    sessionLifecycleWorkflow trackedHost trackedConfig 1767556800000 = .ok definition ∧
      ((folding definition).restricted Due).Run events progress ∧
      (events.map (·.occurredAt)).Pairwise (· < ·) ∧ ¬ DeletedInTime trackedHost progress := by
  obtain ⟨progress, state, event, decision, effect, replayed, listed, reduced, asked, kind, archived, early⟩ :
      ∃ progress state event decision effect, replay (sessionDefinition trackedHost trackedSettings) Due
          [.timer 1767556800000 1767556800000, .other foundArchived,
            .other (operationReport .inspect "4b9891d509b4baabf72437d08bf0de91" "failed" [] 1767556802000),
            .timer 1767578402000 1767578402000]
          (.began trackedStart) = some progress ∧
        progress.applied.getLast? = some (state, event) ∧ state.reduce trackedHost event = .ok decision ∧
        decision.effects = [effect] ∧ effect.kind = deleteIfArchived ∧
        state.archivedAt = some (.of 1767556801000) ∧
        event.occurredAt < deletableAt state (.of 1767556801000) :=
    ⟨_, _, _, _, _, rfl, rfl, rfl, rfl, rfl, rfl, by decide⟩
  refine ⟨_, _, progress, tracked_built, replay_run tracked_begun replayed, by decide, fun inTime => ?_⟩
  obtain ⟨stamp, stamped, matured⟩ := inTime (state, event) (List.mem_of_getLast? listed) decision reduced
    effect (by simp [asked]) kind
  rw [archived] at stamped
  cases stamped
  exact absurd matured (not_le.mpr early)

/-- Left alone, it is to be deleted a week after it was found. -/
theorem tracked_inTime : ∃ progress, DeletedInTime trackedHost progress ∧
    progress.effects.map (·.kind) = [inspectSession, deleteIfArchived] := by
  obtain ⟨progress, replayed, kinds⟩ : ∃ progress,
      replay (sessionDefinition trackedHost trackedSettings) DeletionOrderly
        [.timer 1767556800000 1767556800000, .other foundArchived, .timer 1768161601000 1768161601000]
        (.began trackedStart) = some progress ∧
      progress.effects.map (·.kind) = [inspectSession, deleteIfArchived] :=
    ⟨_, rfl, rfl⟩
  exact ⟨progress, session_run_deletedInTime tracked_built (replay_run tracked_begun replayed), kinds⟩

end QuarkSelfAI.SessionLifecycle

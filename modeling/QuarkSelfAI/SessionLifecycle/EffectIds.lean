import QuarkSelfAI.SessionLifecycle.Steps
import QuarkSelfAI.Workflow.Reports

/-!
# The effect ids of a session

The four operations share one counter that only two of them advance; a phase asks for
its operation once before the counter moves on. A notice of a failure is identified by
its operation and instant, so ids differ as long as no operation tells of two failures
at one instant.
-/

namespace QuarkSelfAI.SessionLifecycle

open Foundation Storage Workflow Domain

variable {host : Host} {state : SessionState} {event : Event} {progress : Progress SessionState}

/-! ## Ids -/

/-- What an effect of a session is identified by. -/
inductive SessionKey where
  | effect (operation : Operation) (sequence : Nat)
  | archived
  | failed (operation : Operation) (instant : Timestamp)

namespace SessionKey

def tag : SessionKey → String
  | .effect operation _ => operation.text
  | .archived | .failed _ _ => "session-notification"

/-- What a key adds to the session it belongs to. -/
def suffix : SessionKey → String
  | .effect _ sequence => toString sequence
  | .archived => "archived"
  | .failed operation instant => s!"failure:{operation.text}:{toISOString instant}"

def id (host : Host) (sessionId : String) (key : SessionKey) : String := host.stable key.tag [sessionId, key.suffix]

theorem operation_text_inj {left right : Operation} : left.text = right.text ↔ left = right := by
  cases left <;> cases right <;> simp [Operation.text]

theorem failed_suffix_inj {left right : Operation} {before after : Timestamp} :
    suffix (.failed left before) = suffix (.failed right after) ↔ left = right ∧ before = after := by
  have colon : (":" : String) = ':'.toString := rfl
  have plain : ∀ operation : Operation, ':' ∉ operation.text.toList := by
    intro operation
    cases operation <;> simp [Operation.text]
  have spelled : ∀ (operation : Operation) (instant : Timestamp), suffix (.failed operation instant) =
      "failure:" ++ (operation.text ++ (':'.toString ++ toISOString instant)) := by
    intro operation instant
    simp [suffix, toString, String.append_assoc]
  rw [spelled, spelled, String.append_right_inj, tagged_inj (plain left) (plain right), operation_text_inj,
    toISOString_injective.eq_iff]

theorem id_injective (lawful : host.Lawful) (sessionId : String) : Function.Injective (id host sessionId) := by
  intro left right same
  have plain : ∀ key : SessionKey, ':' ∉ key.tag.toList := by
    intro key
    cases key with
    | effect operation _ => cases operation <;> simp [tag, Operation.text]
    | archived | failed => simp [tag]
  obtain ⟨tags, joined⟩ := (Host.stable_inj lawful (plain left) (plain right)).mp same
  have suffixes : left.suffix = right.suffix := by
    simpa [Host.joined_two] using joined
  have separate : ∀ operation : Operation, operation.text ≠ "session-notification" := by
    intro operation
    cases operation <;> simp [Operation.text]
  have noticed : ∀ (operation : Operation) (instant : Timestamp), "archived" ≠ suffix (.failed operation instant) := by
    intro operation instant spelled
    have heads := congrArg (·.toList.head?) spelled
    simp [suffix, toString] at heads
  -- Different tags are different words; under one tag the suffixes decide.
  cases left with
  | effect operation sequence =>
    cases right with
    | effect other number =>
      cases operation_text_inj.mp tags
      rw [decimal_inj.mp suffixes]
    | archived | failed => exact absurd tags (separate operation)
  | archived =>
    cases right with
    | effect other number => exact absurd tags.symm (separate other)
    | archived => rfl
    | failed other instant => exact absurd suffixes (noticed other instant)
  | failed operation instant =>
    cases right with
    | effect other number => exact absurd tags.symm (separate other)
    | archived => exact absurd suffixes.symm (noticed operation instant)
    | failed other later =>
      obtain ⟨rfl, rfl⟩ := failed_suffix_inj.mp suffixes
      rfl

end SessionKey

/-! ## The failures told of -/

/-- The failure that an event tells the owner of, by its operation and instant. -/
def tells (state : SessionState) (event : Event) : Option (Operation × Timestamp) :=
  if event.type = "effect.failed" then
    (SessionState.operationFor (effectKind event) state.phase).bind fun operation =>
      if state.shouldNotify (state.nextFailure operation event) event then
        some (operation, event.occurredAt) else none
  else none

def toldFailures (history : List (SessionState × Event)) : List (Operation × Timestamp) :=
  history.filterMap fun entry => tells entry.1 entry.2

theorem toldFailures_next {history : List (SessionState × Event)} :
    toldFailures (history ++ [(state, event)]) = toldFailures history ++ (tells state event).toList := by
  rw [toldFailures, List.filterMap_append, ← toldFailures]
  cases told : tells state event <;> simp [told]

/-- The condition on one event: no operation tells of a second failure at one instant. -/
def NoticesOrderly (progress : Progress SessionState) (event : Event) : Prop :=
  ∀ told ∈ tells progress.state event, told ∉ toldFailures progress.applied

instance (progress : Progress SessionState) (event : Event) : Decidable (NoticesOrderly progress event) :=
  inferInstanceAs (Decidable (∀ told ∈ tells progress.state event, told ∉ toldFailures progress.applied))

/-! ## The ids a run has used -/

/-- The operations that a phase has yet to ask for under its sequence number. -/
def ahead : SessionPhase → List Operation
  | .inspecting => [.taskCheck, .archive]
  | .checkingTask => [.archive]
  | _ => []

/-- The phases after archiving, which are never left. -/
def isLate (phase : SessionPhase) : Bool := phase ∈ [SessionPhase.archived, .deleting, .completed]

structure Accounted (keys : List SessionKey) (state : SessionState) (told : List (Operation × Timestamp)) : Prop where
  distinct : keys.Nodup
  numbered : ∀ operation sequence, .effect operation sequence ∈ keys → sequence ≤ state.sequence
  unasked : ∀ operation ∈ ahead state.phase, .effect operation state.sequence ∉ keys
  archived : .archived ∈ keys → isLate state.phase
  failed : ∀ operation instant, .failed operation instant ∈ keys → (operation, instant) ∈ told

namespace Accounted

variable {keys : List SessionKey} {told more : List (Operation × Timestamp)} {next : SessionState}

/-- Nothing is asked for; the phase goes on with nothing more ahead, or back to the start. -/
theorem moved (here : Accounted keys state told) (counted : next.sequence = state.sequence)
    (fewer : ∀ operation ∈ ahead next.phase, operation ∈ ahead state.phase)
    (late : isLate state.phase → isLate next.phase) : Accounted keys next (told ++ more) where
  distinct := here.distinct
  numbered := fun operation sequence used => counted ▸ here.numbered operation sequence used
  unasked := fun operation awaited => counted ▸ here.unasked operation (fewer operation awaited)
  archived := fun used => late (here.archived used)
  failed := fun operation instant used => List.mem_append_left _ (here.failed operation instant used)

/-- An operation is asked for under a sequence number that is not spent for it. -/
theorem asked (here : Accounted keys state told) (operation : Operation) (next : SessionState)
    (fresh : .effect operation next.sequence ∉ keys) (counted : state.sequence ≤ next.sequence)
    (others : ∀ other ∈ ahead next.phase, other ≠ operation ∧ .effect other next.sequence ∉ keys)
    (late : isLate state.phase → isLate next.phase) :
    Accounted (keys ++ [.effect operation next.sequence]) next (told ++ more) := by
  refine ⟨here.distinct.append (List.nodup_singleton _) (by simpa using fresh), ?_, ?_, ?_, ?_⟩
  · intro other sequence used
    rcases List.mem_append.mp used with before | added
    · exact (here.numbered other sequence before).trans counted
    · cases List.mem_singleton.mp added
      exact le_rfl
  · intro other awaited used
    obtain ⟨different, unused⟩ := others other awaited
    rcases List.mem_append.mp used with before | added
    · exact unused before
    · cases List.mem_singleton.mp added
      exact different rfl
  · intro used
    exact late (here.archived (by simpa using used))
  · intro other instant used
    exact List.mem_append_left _ (here.failed other instant (by simpa using used))

/-- No effect is numbered beyond the counter. -/
theorem unnumbered (here : Accounted keys state told) (operation : Operation) :
    .effect operation (state.sequence + 1) ∉ keys :=
  fun used => absurd (here.numbered operation _ used) (Nat.not_succ_le_self _)

/-- A notice is sent, and nothing else changes but the phase. -/
theorem noticed {key : SessionKey} (here : Accounted keys state told) (fresh : key ∉ keys)
    (notice : ∀ operation sequence, key ≠ .effect operation sequence) (archived : key = .archived → isLate next.phase)
    (listed : ∀ operation instant, key = .failed operation instant → (operation, instant) ∈ more)
    (counted : next.sequence = state.sequence) (none : ahead next.phase = [])
    (late : isLate state.phase → isLate next.phase) : Accounted (keys ++ [key]) next (told ++ more) := by
  refine ⟨here.distinct.append (List.nodup_singleton _) (by simpa using fresh), ?_, ?_, ?_, ?_⟩
  · intro operation sequence used
    rcases List.mem_append.mp used with before | added
    · exact counted ▸ here.numbered operation sequence before
    · exact absurd (List.mem_singleton.mp added).symm (notice operation sequence)
  · intro operation awaited
    rw [none] at awaited
    cases awaited
  · intro used
    rcases List.mem_append.mp used with before | added
    · exact late (here.archived before)
    · exact archived (List.mem_singleton.mp added).symm
  · intro operation instant used
    rcases List.mem_append.mp used with before | added
    · exact List.mem_append_left _ (here.failed operation instant before)
    · exact List.mem_append_right _ (listed operation instant (List.mem_singleton.mp added).symm)

end Accounted

/-! ## Runs -/

/-- What a run has asked for, with the keys behind the ids. -/
def Kept (host : Host) (sessionId : String) (progress : Progress SessionState) : Prop :=
  progress.state.sessionId = sessionId ∧ ∃ keys, progress.effects.map (·.id) = keys.map (SessionKey.id host sessionId) ∧
      Accounted keys progress.state (toldFailures progress.applied)

section

variable {sessionId : String} {decision : WorkflowDecision SessionState} {keys : List SessionKey}

theorem Kept.next (added : List SessionKey)
    (ids : progress.effects.map (·.id) = keys.map (SessionKey.id host progress.state.sessionId))
    (same : decision.state.sessionId = progress.state.sessionId)
    (asked : decision.effects.map (·.id) = added.map (SessionKey.id host progress.state.sessionId))
    (accounted : Accounted (keys ++ added) decision.state
      (toldFailures progress.applied ++ (tells progress.state event).toList)) :
    Kept host progress.state.sessionId (progress.next event decision) := by
  refine ⟨same, keys ++ added, ?_, ?_⟩
  · rw [List.map_append, ← ids, ← asked]
    exact List.map_append
  · change Accounted _ _ (toldFailures (progress.applied ++ [(progress.state, event)]))
    rw [toldFailures_next]
    exact accounted

/-- A reduction that asks for nothing. -/
theorem Kept.quiet (kept : Kept host sessionId progress) (same : decision.state.sessionId = progress.state.sessionId)
    (nothing : decision.effects = []) (counted : decision.state.sequence = progress.state.sequence)
    (fewer : ∀ operation ∈ ahead decision.state.phase, operation ∈ ahead progress.state.phase)
    (late : isLate progress.state.phase → isLate decision.state.phase) :
    Kept host sessionId (progress.next event decision) := by
  obtain ⟨rfl, keys, ids, accounted⟩ := kept
  refine Kept.next [] ids same (by rw [nothing]; rfl) ?_
  rw [List.append_nil]
  exact accounted.moved counted fewer late

theorem Kept.step (kept : Kept host sessionId progress) (orderly : NoticesOrderly progress event)
    (reduced : progress.state.reduce host event = .ok decision) :
    Kept host sessionId (progress.next event decision) := by
  have whole := kept
  obtain ⟨rfl, keys, ids, accounted⟩ := kept
  cases session_step reduced with
  | eligible asked waiting => exact whole.quiet rfl rfl rfl (by simp) (by simp)
  | polled timer waiting =>
    unfold SessionState.onWaitingTimer
    split
    · exact whole.quiet rfl rfl rfl (by simp) (by simp)
    · refine Kept.next [.effect .inspect (progress.state.sequence + 1)] ids rfl rfl ?_
      refine accounted.asked .inspect { progress.state with
        phase := .inspecting, sequence := progress.state.sequence + 1 }
        (accounted.unnumbered _) (Nat.le_succ _) ?_ (by simp [isLate, waiting])
      intro other awaited
      refine ⟨?_, accounted.unnumbered other⟩
      rintro rfl
      simp [ahead] at awaited
  | inspected report result =>
    have inspecting := report.2.1
    cases result with
    | gone | busy | archived => exact whole.quiet rfl rfl rfl (by simp [ahead]) (by simp [isLate, inspecting])
    | unused =>
      refine Kept.next [.effect .taskCheck progress.state.sequence] ids rfl rfl ?_
      refine accounted.asked .taskCheck { progress.state.withoutFailure with phase := .checkingTask }
        (accounted.unasked _ (by simp [inspecting, ahead])) le_rfl ?_ (by simp [isLate, inspecting])
      intro other awaited
      cases List.mem_singleton.mp awaited
      exact ⟨by decide, accounted.unasked _ (by simp [inspecting, ahead])⟩
  | taskChecked report result =>
    have checking := report.2.1
    cases result with
    | unfinished => exact whole.quiet rfl rfl rfl (by simp [ahead]) (by simp [isLate, checking])
    | finished =>
      refine Kept.next [.effect .archive progress.state.sequence] ids rfl rfl ?_
      refine accounted.asked .archive { progress.state.withoutFailure with phase := .archiving }
        (accounted.unasked _ (by simp [checking, ahead])) le_rfl (by simp [ahead]) (by simp [isLate, checking])
  | archived report archivedAt settled waits status told =>
    have archiving := report.2.1
    rcases told with nothing | notified
    · exact whole.quiet (by rw [settled]; rfl) nothing (by rw [settled]; rfl) (by simp [settled, ahead])
        (by simp [settled, isLate])
    · refine Kept.next [.archived] ids (by rw [settled]; rfl) (by rw [notified]; rfl) ?_
      have fresh : SessionKey.archived ∉ keys := by
        intro used
        have late := accounted.archived used
        simp [isLate, archiving] at late
      refine accounted.noticed fresh (by simp) (by simp [settled, isLate]) (by simp) ?_ (by simp [settled, ahead])
        (by simp [settled, isLate])
      rw [settled]
      rfl
  | deleting timer archived =>
    refine Kept.next [.effect .delete (progress.state.sequence + 1)] ids rfl rfl ?_
    exact accounted.asked .delete { progress.state with
      phase := .deleting, sequence := progress.state.sequence + 1 }
      (accounted.unnumbered _) (Nat.le_succ _) (by simp [ahead]) (by simp [isLate])
  | noticed | other => exact whole.quiet rfl rfl rfl (fun _ => id) id
  | deleted report result => cases result <;> exact whole.quiet rfl rfl rfl (by simp [ahead]) (by simp [isLate])
  | failed operation report own =>
    obtain ⟨-, phase⟩ := operationFor_iff.mp own
    have late : isLate progress.state.phase →
        isLate (progress.state.retryDecision host operation event).state.phase := by
      rw [phase]
      cases operation <;> simp [isLate, Operation.phase, SessionState.retryDecision]
    have none : ahead (progress.state.retryDecision host operation event).state.phase = [] := by
      cases operation <;> simp [ahead, SessionState.retryDecision]
    by_cases notify : progress.state.shouldNotify (progress.state.nextFailure operation event) event
    · have told : tells progress.state event = some (operation, event.occurredAt) := by
        simp [tells, report, own, notify]
      have fresh : .failed operation event.occurredAt ∉ keys := by
        intro used
        exact orderly (operation, event.occurredAt) told (accounted.failed _ _ used)
      refine Kept.next [.failed operation event.occurredAt] ids rfl ?_ ?_
      · have operations : (progress.state.nextFailure operation event).operation = operation := by
          unfold SessionState.nextFailure
          cases found : progress.state.failure.filter (·.operation = operation) with
          | none => rfl
          | some prior => simpa using (Option.filter_eq_some_iff.mp found).2
        simp [SessionState.retryDecision, notify, SessionState.failureNotice, operations,
          SessionState.notification, SessionKey.id, SessionKey.tag, SessionKey.suffix]
      · exact accounted.noticed fresh (by simp) (by simp) (by simp [told]) rfl none late
    · exact whole.quiet rfl (by simp [SessionState.retryDecision, notify]) rfl (by simp [none]) late

end

/-- The ids of all effects a session's run asks for are distinct. -/
theorem session_run_distinct (lawful : host.Lawful) {config : SessionLifecycleConfig} {clock : Timestamp}
    {definition : WorkflowDefinition SessionState} (built : sessionLifecycleWorkflow host config clock = .ok definition)
    {events : List Event} (run : ((folding definition).restricted NoticesOrderly).Run events progress) :
    (progress.effects.map (·.id)).Nodup := by
  obtain ⟨settings, rfl, -⟩ := sessionLifecycleWorkflow_ok built
  have kept : ∃ sessionId, Kept host sessionId progress := by
    refine run.history (motive := fun _ progress => ∃ sessionId, Kept host sessionId progress) ?_ ?_
    · rintro progress ⟨input, now, decision, begun, rfl⟩
      obtain ⟨phase, -, -, -, -, -, nothing⟩ := initialiseSession_ok begun
      refine ⟨_, rfl, [], by simp [Progress.began, nothing], List.nodup_nil, by simp, by simp, by simp, by simp⟩
    · rintro events event before after - ⟨sessionId, here⟩ ⟨⟨-, -, decision, reduced, rfl⟩, orderly⟩
      exact ⟨sessionId, here.step orderly reduced⟩
  obtain ⟨sessionId, -, keys, ids, accounted⟩ := kept
  rw [ids]
  exact accounted.distinct.map (SessionKey.id_injective lawful _)

/-- An unused session that is not archived yet. -/
def unarchived : List (String × JsValue) :=
  [("exists", .bool true), ("archived", .bool false), ("running", .bool false)]

/-- The owner marks the session as eligible in the instant in which its task check fails. -/
def markedEligible : Event :=
  { id := "session-eligible:1", type := "session.eligible", occurredAt := 1767556802000
    payload := .object [] }

/-- In that one instant the session is inspected again and its next task check fails, too. -/
theorem coinciding_not_distinct : ∃ definition events progress,
    sessionLifecycleWorkflow trackedHost trackedConfig 1767556800000 = .ok definition ∧
      ((folding definition).restricted fun progress event => Answers progress event ∧ Due progress event).Run
        events progress ∧
      (events.map (·.occurredAt)).Pairwise (· ≤ ·) ∧ ¬ (progress.effects.map (·.id)).Nodup := by
  obtain ⟨progress, replayed, ids⟩ : ∃ progress, replay (sessionDefinition trackedHost trackedSettings)
        (fun progress event => Answers progress event ∧ Due progress event)
        [.timer 1767556800000 1767556800000,
          .other (operationReport .inspect "4b9891d509b4baabf72437d08bf0de91" "delivered" unarchived
            1767556801000),
          .other (operationReport .taskCheck "4b9891d509b4baabf72437d08bf0de91" "failed" [] 1767556802000),
          .other markedEligible, .timer 1767556802000 1767556802000,
          .other (operationReport .inspect "b857a7828f6e79d0bf5f1a69885f6cac" "delivered" unarchived
            1767556802000),
          .other (operationReport .taskCheck "b857a7828f6e79d0bf5f1a69885f6cac" "failed" [] 1767556802000)]
        (.began trackedStart) = some progress ∧
      progress.effects.map (·.id) = ["inspect:4b9891d509b4baabf72437d08bf0de91",
        "task-check:4b9891d509b4baabf72437d08bf0de91",
        "session-notification:698c2e1615d23004541bc64ec11201a4",
        "inspect:b857a7828f6e79d0bf5f1a69885f6cac", "task-check:b857a7828f6e79d0bf5f1a69885f6cac",
        "session-notification:698c2e1615d23004541bc64ec11201a4"] :=
    ⟨_, rfl, rfl⟩
  refine ⟨_, _, progress, tracked_built, replay_run tracked_begun replayed, by decide, ?_⟩
  rw [ids]
  decide

/-- An hour later the retry is told of under an id of its own. -/
theorem retried_distinct : ∃ progress : Progress SessionState, (progress.effects.map (·.id)).Nodup ∧
    progress.effects.map (·.kind) = [inspectSession, isCompleted, notifyOwner, inspectSession, isCompleted,
      notifyOwner] := by
  obtain ⟨progress, replayed, kinds⟩ : ∃ progress, replay (sessionDefinition trackedHost trackedSettings) NoticesOrderly
        [.timer 1767556800000 1767556800000,
          .other (operationReport .inspect "4b9891d509b4baabf72437d08bf0de91" "delivered" unarchived
            1767556801000),
          .other (operationReport .taskCheck "4b9891d509b4baabf72437d08bf0de91" "failed" [] 1767556802000),
          .timer 1767560402000 1767560402000,
          .other (operationReport .inspect "b857a7828f6e79d0bf5f1a69885f6cac" "delivered" unarchived
            1767560403000),
          .other (operationReport .taskCheck "b857a7828f6e79d0bf5f1a69885f6cac" "failed" [] 1767560404000)]
        (.began trackedStart) = some progress ∧
      progress.effects.map (·.kind) = [inspectSession, isCompleted, notifyOwner, inspectSession, isCompleted,
        notifyOwner] :=
    ⟨_, rfl, rfl⟩
  exact ⟨progress, session_run_distinct trackedHost_lawful tracked_built (replay_run tracked_begun replayed), kinds⟩

end QuarkSelfAI.SessionLifecycle

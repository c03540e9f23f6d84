import QuarkSelfAI.Features.Ended
import QuarkSelfAI.Workflow.Isolation
import QuarkSelfAI.Workflow.Serving

/-!
# Timers make progress

A due timer is to leave its instance no longer due. It does when its event was not
recorded before, and when the state it meets takes timers. `Paced` is the invariant that
says so of a wake time. `Astray`, `Strands` and `names` list what breaks it: an event
that sets a wake time no timer is taken for, that brings an ended instance back under a
spent one, or that names a wake time of its own which may be spent already.
-/

namespace QuarkSelfAI.Features

open Foundation Storage Workflow Domain Followup

/-- The id of the timer that is set for an instant. -/
def timerId (scheduledAt : Timestamp) : String := "timer:" ++ toISOString scheduledAt

theorem timerId_inj {one other : Timestamp} : timerId one = timerId other ↔ one = other := by
  constructor
  · intro same
    exact toISOString_injective (String.append_right_inj _ |>.mp same)
  · rintro rfl
    rfl

theorem timerId_prefix (scheduledAt : Timestamp) : startsWith (timerId scheduledAt) "timer:" := by
  simp [startsWith, timerId]

namespace Feature

/-- The states whose timers ask for something, set the next wake time or meet an end. -/
def timed : (feature : Feature) → feature.State → Prop
  | .messageIntake, _ | .collaborationPolicyApproval, _ => False
  | .focusDiscovery, state => state.stage = .scheduled
  | .sessionLifecycle, state => state.phase = .waiting ∨ state.phase = .archived
  | .xiaoweiResearch, state => state.phase = .ready ∨ state.phase = .syncing ∨ state.phase = .completed
  | .overdueMonitor, state => state.phase = .scheduled
  | .completedCleanup, state => state.phase = .scheduled
  | .followupReview, state => state.phase = .scheduled
  | .followupOutreach, state => state.phase ≠ .waitingReply
  | .collaborationSchedule, state => state.phase = .scheduled

/-- The intervals that an instance keeps are positive. -/
def spaced : (feature : Feature) → feature.State → Prop
  | .messageIntake, _ | .collaborationPolicyApproval, _ => True
  | .focusDiscovery, state => 0 < state.intervalMs ∧ 0 < state.retryMs
  | .sessionLifecycle, state => 0 < state.pollIntervalMs ∧ 0 < state.retryBaseMs ∧ 0 < state.retryMaxMs ∧
      0 < state.deleteAfterMs
  | .xiaoweiResearch, state => 0 < state.retryBaseMs ∧ 0 < state.retryMaxMs
  | .overdueMonitor, state => 0 < state.intervalMs ∧ 0 < state.retryMs
  | .completedCleanup, state => 0 < state.pollIntervalMs
  | .followupReview, state => 0 < state.pollIntervalMs
  | .followupOutreach, state => 0 < state.retryBaseMs ∧ 0 < state.retryMaxMs
  | .collaborationSchedule, state => 0 < state.intervalMs

/-- The events that may set a wake time counted from when they occurred. -/
def counts : Feature → Event → Prop
  | .messageIntake, _ | .collaborationPolicyApproval, _ => False
  | .focusDiscovery, event | .collaborationSchedule, event => isOutcome event
  | .followupReview, event => event.type = "timer" ∨ isOutcome event
  | .xiaoweiResearch, event | .followupOutreach, event => event.type = "effect.failed"
  | .sessionLifecycle, _ | .overdueMonitor, _ | .completedCleanup, _ => True

/-- The wake time that an event names, rather than counts from when it occurred. -/
def names (host : Host) : (feature : Feature) → feature.State → Event → Timestamp → Prop
  | .sessionLifecycle, state, event, instant =>
    (event.type = "session.eligible" ∧ instant = event.occurredAt) ∨ event.type = "effect.delivered" ∧ ∃ archivedAt,
        SessionLifecycle.stamp host "archive effect archivedAt" (event.payload.get "archivedAt") = .ok archivedAt ∧
          instant = later archivedAt.instant state.deleteAfterMs
  | _, _, _, _ => False

/-- A card could not be shown while an outreach waits for its reply: the outreach is to
be woken in a state that no timer leaves. -/
def Astray : (feature : Feature) → feature.State → Event → Prop
  | .followupOutreach, state, event => state.phase = .waitingReply ∧
      Reports "effect.failed" requestInteraction event ∧ ¬ OutreachState.aboutNotice event
  | _, _, _ => False

/-- A report that leaves the wake time and makes an ended instance wait again. -/
def Strands : Feature → Event → Prop
  | .xiaoweiResearch, event => isOutcome event ∧ Xiaowei.XiaoweiResearchState.aboutNotice event
  | .followupOutreach, event => isNotice event ∨ Reports "effect.delivered" requestInteraction event
  | _, _ => False

end Feature

/-- The events that keep the timers of an instance going. -/
structure OnTime (host : Host) (feature : Feature) (here : Standing feature.State) (event : Event) : Prop where
  due : event.type = "timer" → ∃ scheduledAt ∈ here.wakeAt,
    event = Runtime.timerEvent scheduledAt event.occurredAt ∧ scheduledAt ≤ event.occurredAt
  clock : feature.counts event → ∀ instant, here.recorded (timerId instant) → instant ≤ event.occurredAt
  named : ∀ instant, feature.names host here.state event instant → here.recorded (timerId instant) = false
  homeward : ¬ feature.Astray here.state event
  awake : isEnded here.status → feature.Strands event → ∀ instant ∈ here.wakeAt, here.recorded (timerId instant) = false

/-- A wake time is met by a state that takes its timer, and the timer is to come. -/
structure Paced (feature : Feature) (here : Standing feature.State) : Prop where
  spaced : feature.spaced here.state
  timed : ∀ instant ∈ here.wakeAt, feature.timed here.state
  coming : ∀ instant ∈ here.wakeAt, isEnded here.status ∨ here.recorded (timerId instant) = false

/-- What a decision does with the wake time of its instance. -/
inductive Wakes (host : Host) (feature : Feature) (state : feature.State) (event : Event)
    (decision : WorkflowDecision feature.State) : Prop where
  | cleared (wakeAt : decision.wakeAt = some none)
  | counted (instant : Timestamp) (wakeAt : decision.wakeAt = some (some instant))
      (counts : feature.counts event) (future : event.occurredAt < instant) (timed : feature.timed decision.state)
  | named (instant : Timestamp) (wakeAt : decision.wakeAt = some (some instant)) (untimed : event.type ≠ "timer")
      (names : feature.names host state event instant) (timed : feature.timed decision.state)
  | kept (wakeAt : decision.wakeAt = none) (untimed : event.type ≠ "timer")
      (timed : feature.timed state → feature.timed decision.state)
      (still : feature.Strands event ∨ ((feature.endsWith state).isSome → isEnded decision.status))
  | ended (wakeAt : decision.wakeAt = none) (timed : feature.timed state → feature.timed decision.state)
      (ended : isEnded decision.status)
  | asleep (wakeAt : decision.wakeAt = none) (untimed : ¬ feature.timed state)
  | astray (astray : feature.Astray state event)

section

variable {host : Host} {feature : Feature} {progress : Progress feature.State} {event : Event}
  {decision : WorkflowDecision feature.State}

theorem recorded_next {instant : Timestamp} : (progress.next event decision).standing.recorded (timerId instant) =
      (progress.standing.recorded (timerId instant) || decide (timerId instant = event.id)) := by
  have listed : (progress.next event decision).eventIds = progress.eventIds ++ [event.id] := by
    simp [Progress.eventIds, Progress.next]
  rw [Progress.standing, listed, Bool.eq_iff_iff]
  simp [Progress.standing]

/-- A timer that was not recorded is not recorded by a later event. -/
theorem uncalled {instant : Timestamp} (produced : Produced event)
    (onTime : OnTime host feature progress.standing event) (unused : progress.standing.recorded (timerId instant) = false)
    (other : event.type = "timer" → event.occurredAt < instant) :
    (progress.next event decision).standing.recorded (timerId instant) = false := by
  rw [recorded_next, unused, Bool.false_or, decide_eq_false_iff_not]
  intro same
  by_cases timer : event.type = "timer"
  · obtain ⟨scheduledAt, -, made, reached⟩ := onTime.due timer
    have id : event.id = timerId scheduledAt := congrArg (·.id) made
    have one := timerId_inj.mp (same.trans id)
    exact absurd (other timer) (not_lt.mpr (one ▸ reached))
  · rw [Produced, if_neg timer, ← same, timerId_prefix] at produced
    cases produced

theorem Paced.next (here : Paced feature progress.standing) (tells : feature.Tells progress.status progress.state)
    (produced : Produced event) (onTime : OnTime host feature progress.standing event)
    (wakes : Wakes host feature progress.state event decision) (spaced : feature.spaced decision.state) :
    Paced feature (progress.next event decision).standing := by
  -- A wake time that was set is the only one to look at.
  have only : ∀ {wakeAt instant}, decision.wakeAt = some (some wakeAt) →
      instant ∈ (progress.next event decision).standing.wakeAt → instant = wakeAt := by
    intro wakeAt instant set woken
    rw [Progress.standing, Progress.next, set] at woken
    exact (Option.mem_some_iff.mp woken).symm
  have old : ∀ {instant}, decision.wakeAt = none →
      instant ∈ (progress.next event decision).standing.wakeAt → instant ∈ progress.standing.wakeAt := by
    intro instant kept woken
    rw [Progress.standing, Progress.next, kept] at woken
    exact woken
  cases wakes with
  | cleared wakeAt =>
    have none : (progress.next event decision).standing.wakeAt = none := by
      rw [Progress.standing, Progress.next, wakeAt]
      rfl
    exact ⟨spaced, by simp [none], by simp [none]⟩
  | counted instant wakeAt counts future timed =>
    have unused : progress.standing.recorded (timerId instant) = false := by
      by_contra used
      exact absurd (onTime.clock counts instant (eq_true_of_ne_false used)) (not_le.mpr future)
    refine ⟨spaced, fun _ _ => timed, fun woken is => .inr ?_⟩
    rw [only wakeAt is]
    exact uncalled produced onTime unused fun _ => future
  | named instant wakeAt untimed names timed =>
    refine ⟨spaced, fun _ _ => timed, fun woken is => .inr ?_⟩
    rw [only wakeAt is]
    exact uncalled produced onTime (onTime.named instant names) fun timer => absurd timer untimed
  | kept wakeAt untimed timed still =>
    refine ⟨spaced, fun instant woken => timed (here.timed instant (old wakeAt woken)), fun instant woken => ?_⟩
    have before := old wakeAt woken
    have comes : progress.standing.recorded (timerId instant) = false →
        (progress.next event decision).standing.recorded (timerId instant) = false :=
      fun unused => uncalled produced onTime unused fun timer => absurd timer untimed
    rcases here.coming instant before with ended | unused
    · rcases still with strands | stays
      · exact .inr (comes (onTime.awake ended strands instant before))
      · refine .inl (stays ?_)
        rw [tells ended]
        rfl
    · exact .inr (comes unused)
  | ended wakeAt timed ended =>
    exact ⟨spaced, fun instant woken => timed (here.timed instant (old wakeAt woken)), fun _ _ => .inl ended⟩
  | asleep wakeAt untimed =>
    have never : ∀ instant, instant ∉ (progress.next event decision).standing.wakeAt :=
      fun instant woken => untimed (here.timed instant (old wakeAt woken))
    exact ⟨spaced, fun instant woken => absurd woken (never instant), fun instant woken => absurd woken (never instant)⟩
  | astray astray => exact absurd astray onTime.homeward

/-- A timer that is taken leaves its instance ended, asleep or to be woken later. -/
theorem Paced.taken {before : Standing feature.State} (here : Paced feature before) {scheduledAt now : Timestamp}
    (wakeAt : before.wakeAt = some scheduledAt)
    (wakes : Wakes host feature before.state (Runtime.timerEvent scheduledAt now) decision) :
    isEnded decision.status ∨ ∀ instant ∈ decision.wakeAt.getD before.wakeAt, now < instant := by
  have timer : (Runtime.timerEvent scheduledAt now).type = "timer" := rfl
  cases wakes with
  | cleared cleared => simp [cleared]
  | counted instant set counts future =>
    rw [set]
    refine .inr fun woken is => ?_
    rw [← Option.mem_some_iff.mp is]
    exact future
  | named _ _ untimed | kept _ untimed => exact absurd timer untimed
  | ended _ _ ended => exact .inl ended
  | asleep _ untimed => exact absurd (here.timed scheduledAt wakeAt) untimed
  | astray astray =>
    cases feature with
    | followupOutreach =>
      have failed : (Runtime.timerEvent scheduledAt now).type = "effect.failed" := astray.2.1.1
      rw [timer] at failed
      exact absurd failed (by decide)
    | _ => exact astray.elim

end

/-! ## What each definition does with its wake time -/

section

variable {host : Host} {event : Event}

theorem later_lt {now : Timestamp} {delay : Nat} (positive : 0 < delay) : now < later now delay := by
  simp only [later]
  exact Int.lt_add_of_pos_right now (by exact_mod_cast positive)

theorem backoff_pos {base limit count : Nat} (spaced : 0 < base ∧ 0 < limit) :
    0 < min limit (base * 2 ^ min (count - 1) 10) := by
  have power : 0 < base * 2 ^ min (count - 1) 10 := Nat.mul_pos spaced.1 (Nat.two_pow_pos _)
  exact lt_min spaced.2 power

theorem intake_wakes {state : Intake.IntakeState} {decision : WorkflowDecision Intake.IntakeState}
    (reduced : state.reduce host event = .ok decision) : Wakes host .messageIntake state event decision := by
  cases Intake.intake_step reduced with
  | failed | decided | evaluated => exact .cleared rfl
  | responded | projected | delegated | other => exact .asleep rfl id
  | loaded =>
    refine .asleep ?_ id
    unfold Intake.IntakeState.afterContext
    dsimp only
    split <;> rfl
  | settling =>
    unfold Intake.IntakeState.settleProjection
    dsimp only
    split
    · exact .cleared rfl
    · exact .asleep rfl id

theorem discovery_wakes {state : Intake.DiscoveryState} {decision : WorkflowDecision Intake.DiscoveryState}
    (spaced : Feature.spaced .focusDiscovery state) (reduced : state.reduce event = .ok decision) :
    Wakes host .focusDiscovery state event decision ∧ Feature.spaced .focusDiscovery decision.state := by
  unfold Intake.DiscoveryState.reduce at reduced
  rcases ite_eq_iff.mp reduced with ⟨-, reduced⟩ | ⟨unstarted, reduced⟩
  · cases reduced
    exact ⟨.cleared rfl, spaced⟩
  have keeps : state.stage = .discovering → Wakes host .focusDiscovery state event (.keep .waiting state) :=
    fun stage => .asleep rfl (by simp [Feature.timed, stage])
  rcases ite_eq_iff.mp reduced with ⟨delivered, reduced⟩ | ⟨-, reduced⟩
  · unfold Intake.DiscoveryState.scheduleNext at reduced
    split at reduced
    · cases reduced
      exact ⟨keeps delivered.1, spaced⟩
    split at reduced
    · cases reduced
    · cases reduced
      exact ⟨.counted _ rfl (by simp [Feature.counts, isOutcome, delivered.2]) (later_lt spaced.1) rfl, spaced⟩
  rcases ite_eq_iff.mp reduced with ⟨failed, reduced⟩ | ⟨-, reduced⟩
  · cases reduced
    unfold Intake.DiscoveryState.retryLater
    split
    · exact ⟨keeps failed.1, spaced⟩
    · exact ⟨.counted _ rfl (by simp [Feature.counts, isOutcome, failed.2]) (later_lt spaced.2) rfl, spaced⟩
  · cases reduced
    refine ⟨?_, spaced⟩
    by_cases stage : state.stage = .scheduled
    · exact .kept rfl (fun timer => unstarted ⟨stage, timer⟩) id (.inr (by simp [Feature.endsWith]))
    · exact .asleep rfl stage

theorem overdue_wakes {state : TaskMaintenance.OverdueState} {decision : WorkflowDecision TaskMaintenance.OverdueState}
    (spaced : Feature.spaced .overdueMonitor state) (reduced : state.reduce host event = .ok decision) :
    Wakes host .overdueMonitor state event decision ∧ Feature.spaced .overdueMonitor decision.state := by
  unfold TaskMaintenance.OverdueState.reduce at reduced
  rcases ite_eq_iff.mp reduced with ⟨-, reduced⟩ | ⟨untimed, reduced⟩
  · cases reduced
    exact ⟨.cleared rfl, spaced⟩
  rcases ite_eq_iff.mp reduced with ⟨notice, reduced⟩ | ⟨-, reduced⟩
  · cases reduced
    refine ⟨.kept rfl ?_ id (.inr (by simp [Feature.endsWith])), spaced⟩
    intro timer
    simp [isOutcome, timer] at notice
  rcases ite_eq_iff.mp reduced with ⟨-, reduced⟩ | ⟨-, reduced⟩
  · unfold TaskMaintenance.OverdueState.onScanned at reduced
    obtain ⟨tasks, -, reduced⟩ := bind_ok.mp reduced
    obtain ⟨reminded, -, reduced⟩ := bind_ok.mp reduced
    cases reduced
    exact ⟨.counted _ rfl trivial (later_lt spaced.1) rfl, spaced⟩
  rcases ite_eq_iff.mp reduced with ⟨-, reduced⟩ | ⟨-, reduced⟩
  · cases reduced
    exact ⟨.counted _ rfl trivial (later_lt spaced.2) rfl, spaced⟩
  · cases reduced
    unfold TaskMaintenance.OverdueState.onOther
    split
    · rename_i phase
      exact ⟨.counted _ rfl trivial (later_lt spaced.1) phase, spaced⟩
    · rename_i phase
      exact ⟨.asleep rfl phase, spaced⟩

theorem cleanup_wakes {state : TaskMaintenance.CleanupState} {decision : WorkflowDecision TaskMaintenance.CleanupState}
    (spaced : Feature.spaced .completedCleanup state) (reduced : state.reduce host event = .ok decision) :
    Wakes host .completedCleanup state event decision ∧ Feature.spaced .completedCleanup decision.state := by
  unfold TaskMaintenance.CleanupState.reduce at reduced
  rcases ite_eq_iff.mp reduced with ⟨timer, reduced⟩ | ⟨untimed, reduced⟩
  · unfold TaskMaintenance.CleanupState.onTimer at reduced
    obtain ⟨slot, -, reduced⟩ := bind_ok.mp reduced
    split at reduced
    · cases reduced
      exact ⟨.counted _ rfl trivial (later_lt spaced) timer.2, spaced⟩
    · cases reduced
      exact ⟨.cleared rfl, spaced⟩
  rcases ite_eq_iff.mp reduced with ⟨notice, reduced⟩ | ⟨-, reduced⟩
  · cases reduced
    refine ⟨.kept rfl ?_ id (.inr (by simp [Feature.endsWith])), spaced⟩
    intro timer
    simp [isOutcome, timer] at notice
  rcases ite_eq_iff.mp reduced with ⟨-, reduced⟩ | ⟨-, reduced⟩
  · unfold TaskMaintenance.CleanupState.onCleaned at reduced
    obtain ⟨deleted, -, reduced⟩ := bind_ok.mp reduced
    cases reduced
    exact ⟨.counted _ rfl trivial (later_lt spaced) rfl, spaced⟩
  rcases ite_eq_iff.mp reduced with ⟨-, reduced⟩ | ⟨-, reduced⟩
  · cases reduced
    exact ⟨.counted _ rfl trivial (later_lt spaced) rfl, spaced⟩
  · cases reduced
    unfold TaskMaintenance.CleanupState.onOther
    split
    · rename_i phase
      exact ⟨.counted _ rfl trivial (later_lt spaced) phase, spaced⟩
    · rename_i phase
      exact ⟨.asleep rfl phase, spaced⟩

theorem review_wakes {state : FollowupReviewState} {decision : WorkflowDecision FollowupReviewState}
    (spaced : Feature.spaced .followupReview state) (reduced : state.reduce host event = .ok decision) :
    Wakes host .followupReview state event decision ∧ Feature.spaced .followupReview decision.state := by
  have reported : ∀ {kind}, Reports "effect.delivered" kind event → Feature.counts .followupReview event := by
    intro kind report
    simp [Feature.counts, isOutcome, report.1]
  have asleep : state.phase ≠ .scheduled → ∀ {next : FollowupReviewState},
      Wakes host .followupReview state event (.keep .waiting next) := fun phase => .asleep rfl phase
  cases review_step reduced with
  | idle current timer phase => exact ⟨.counted _ rfl (.inl timer) (later_lt spaced) phase, spaced⟩
  | listed | evaluating | applying => exact ⟨.cleared rfl, spaced⟩
  | distributing evaluation base current source =>
    cases source with
    | evaluated | applied => exact ⟨.cleared rfl, spaced⟩
  | nothing evaluation base current source =>
    cases source with
    | evaluated report | applied report => exact ⟨.counted _ rfl (reported report) (later_lt spaced) rfl, spaced⟩
  | progressed pending outcome phase => exact ⟨asleep (by rcases phase with phase | phase <;> simp [phase]), spaced⟩
  | finished current outcome => exact ⟨.counted _ rfl (.inr outcome) (later_lt spaced) rfl, spaced⟩
  | failed type => exact ⟨.counted _ rfl (.inr (by simp [isOutcome, type])) (later_lt spaced) rfl, spaced⟩
  | kept untimed =>
    refine ⟨?_, spaced⟩
    by_cases phase : state.phase = .scheduled
    · exact .kept rfl (fun timer => untimed timer phase) id (.inr (by simp [Feature.endsWith]))
    · exact asleep phase

theorem schedule_wakes {state : Collaboration.ScheduleState} {decision : WorkflowDecision Collaboration.ScheduleState}
    (spaced : Feature.spaced .collaborationSchedule state) (reduced : state.reduce host event = .ok decision) :
    Wakes host .collaborationSchedule state event decision ∧ Feature.spaced .collaborationSchedule decision.state := by
  unfold Collaboration.ScheduleState.reduce at reduced
  obtain ⟨checked, valid, rest⟩ := bind_ok.mp reduced
  have same : checked = state := by
    unfold Collaboration.scheduleState at valid
    split at valid
    · exact (Except.ok.inj valid).symm
    · cases valid
  subst same
  rcases ite_eq_iff.mp rest with ⟨-, rest⟩ | ⟨untimed, rest⟩
  · cases rest
    exact ⟨.cleared rfl, spaced⟩
  rcases ite_eq_iff.mp rest with ⟨report, rest⟩ | ⟨-, rest⟩
  · rcases ite_eq_iff.mp rest with ⟨-, rest⟩ | ⟨-, rest⟩
    · unfold Collaboration.ScheduleState.onBriefed at rest
      obtain ⟨title, -, rest⟩ := bind_ok.mp rest
      obtain ⟨body, -, rest⟩ := bind_ok.mp rest
      obtain ⟨reviewedAt, -, rest⟩ := bind_ok.mp rest
      cases rest
      exact ⟨.cleared rfl, spaced⟩
    · cases rest
      exact ⟨.counted _ rfl report.1 (later_lt spaced) rfl, spaced⟩
  rcases ite_eq_iff.mp rest with ⟨report, rest⟩ | ⟨-, rest⟩
  · cases rest
    exact ⟨.counted _ rfl report.1 (later_lt spaced) rfl, spaced⟩
  · cases rest
    refine ⟨?_, spaced⟩
    by_cases phase : checked.phase = .scheduled
    · exact .kept rfl (fun timer => untimed ⟨timer, phase⟩) id (.inr (by simp [Feature.endsWith]))
    · exact .asleep rfl phase

theorem approval_wakes {state : Collaboration.ApprovalState} {decision : WorkflowDecision Collaboration.ApprovalState}
    (reduced : state.reduce host event = .ok decision) :
    Wakes host .collaborationPolicyApproval state event decision := by
  refine .asleep ?_ id
  cases Collaboration.approval_step reduced <;> rfl

theorem synced_spaced {state next : Xiaowei.XiaoweiResearchState} (synced : state.synced event = some next)
    (spaced : Feature.spaced .xiaoweiResearch state) : Feature.spaced .xiaoweiResearch next := by
  unfold Xiaowei.XiaoweiResearchState.synced at synced
  split at synced
  · cases synced
    exact spaced
  · split at synced
    · cases synced
      exact spaced
    · cases synced

theorem research_wakes {state : Xiaowei.XiaoweiResearchState} {decision : WorkflowDecision Xiaowei.XiaoweiResearchState}
    (spaced : Feature.spaced .xiaoweiResearch state) (reduced : state.reduce host event = .ok decision) :
    Wakes host .xiaoweiResearch state event decision ∧ Feature.spaced .xiaoweiResearch decision.state := by
  cases Xiaowei.research_step reduced with
  | started | sent | progressed | replied | retimed => exact ⟨.cleared rfl, spaced⟩
  | synced _ _ _ _ synced => exact ⟨.cleared rfl, synced_spaced synced spaced⟩
  | finished next _ _ synced =>
    have kept : Feature.spaced .xiaoweiResearch next := synced_spaced synced spaced
    exact ⟨.ended rfl (fun _ => .inr (.inr rfl)) (.inl rfl), kept⟩
  | failed operation report =>
    refine ⟨.counted _ rfl report (later_lt (backoff_pos spaced)) ?_, spaced⟩
    unfold Xiaowei.XiaoweiResearchState.retry
    dsimp only [Feature.timed]
    split
    · exact .inl rfl
    · exact .inr (.inl rfl)
  | unconcerned about =>
    refine ⟨.kept rfl ?_ id ?_, spaced⟩
    · intro timer
      rcases about with ⟨outcome, -⟩ | ⟨delivered, -⟩
      · simp [isOutcome, timer] at outcome
      · simp [timer] at delivered
    · rcases about with ⟨outcome, notice, -⟩ | ⟨-, phase⟩
      · exact .inl ⟨outcome, notice⟩
      · exact .inr (by simp [Feature.endsWith, completes, phase])
  | other untimed =>
    refine ⟨?_, spaced⟩
    by_cases completed : state.phase = .completed
    · exact .ended rfl id (by simp [Xiaowei.XiaoweiResearchState.onOther, WorkflowDecision.keep, completed, isEnded])
    by_cases timer : event.type = "timer"
    · obtain ⟨unready, unsynced⟩ := untimed timer
      exact .asleep rfl (by simp [Feature.timed, unready, unsynced, completed])
    · exact .kept rfl timer id (.inr (by simp [Feature.endsWith, completes, completed]))

theorem outreach_wakes {state : OutreachState} {decision : WorkflowDecision OutreachState}
    (spaced : Feature.spaced .followupOutreach state) (reduced : state.reduce host event = .ok decision) :
    Wakes host .followupOutreach state event decision ∧ Feature.spaced .followupOutreach decision.state := by
  cases outreach_step reduced with
  | resolving | reasked | resent | rerecorded | renotified | selected | queried | declined | approved | sent
  | replied | recorded | notified => exact ⟨.cleared rfl, spaced⟩
  | resolved found =>
    refine ⟨.cleared rfl, ?_⟩
    dsimp only [OutreachState.asking, resolved]
    split
    · exact spaced
    · exact spaced
  | noticed _ notice =>
    refine ⟨.kept rfl ?_ id (.inl (.inl notice)), spaced⟩
    intro timer
    have outcome := notice.1
    simp [isOutcome, timer] at outcome
  | shown _ report =>
    refine ⟨.kept rfl ?_ id (.inl (.inr report)), spaced⟩
    intro timer
    have delivered := report.1
    simp [timer] at delivered
  | failed operation unnoticed report waits =>
    refine ⟨?_, spaced⟩
    by_cases waiting : state.phase = .waitingReply
    · -- Only a card is retried where a reply is waited for.
      cases operation with
      | interaction =>
        refine .astray ⟨waiting, report, fun about => unnoticed ⟨?_, about⟩⟩
        simp [isOutcome, report.1]
      | resolveContact | send | taskUpdate | notify => simpa [waiting] using waits _ rfl
    · refine .counted _ rfl report.1 (later_lt (backoff_pos spaced)) ?_
      dsimp only [OutreachState.retry, Feature.timed, Operation.retried]
      split
      · simp
      · exact waiting
  | other late =>
    refine ⟨?_, spaced⟩
    by_cases completed : state.phase = .completed
    · exact .ended rfl id (by simp [OutreachState.onOther, WorkflowDecision.keep, completed, isEnded])
    by_cases timer : event.type = "timer"
    · refine .asleep rfl ?_
      rcases late.untimed timer with waiting | ended
      · simp [Feature.timed, waiting]
      · exact absurd ended completed
    · exact .kept rfl timer id (.inr (by simp [Feature.endsWith, completes, completed]))

theorem session_wakes {state : SessionLifecycle.SessionState}
    {decision : WorkflowDecision SessionLifecycle.SessionState} (spaced : Feature.spaced .sessionLifecycle state)
    (reduced : state.reduce host event = .ok decision) :
    Wakes host .sessionLifecycle state event decision ∧ Feature.spaced .sessionLifecycle decision.state := by
  have asleep : state.phase ≠ .waiting → state.phase ≠ .archived → ¬ Feature.timed .sessionLifecycle state :=
    fun waiting archived => not_or.mpr ⟨waiting, archived⟩
  cases SessionLifecycle.session_step reduced with
  | eligible asked waiting => exact ⟨.named _ rfl (by simp [asked]) (.inl ⟨asked, rfl⟩) (.inl waiting), spaced⟩
  | polled timer waiting =>
    unfold SessionLifecycle.SessionState.onWaitingTimer
    split
    · exact ⟨.counted _ rfl trivial (later_lt spaced.1) (.inl waiting), spaced⟩
    · exact ⟨.cleared rfl, spaced⟩
  | inspected report result =>
    cases result with
    | gone | unused => exact ⟨.cleared rfl, spaced⟩
    | busy => exact ⟨.counted _ rfl trivial (later_lt spaced.1) (.inl rfl), spaced⟩
    | archived => exact ⟨.counted _ rfl trivial (later_lt spaced.2.2.2) (.inr rfl), spaced⟩
  | taskChecked report result =>
    cases result with
    | unfinished => exact ⟨.counted _ rfl trivial (later_lt spaced.1) (.inl rfl), spaced⟩
    | finished => exact ⟨.cleared rfl, spaced⟩
  | archived report archivedAt settled waits status told read =>
    refine ⟨.named _ waits (by simp [report.1]) (.inr ⟨report.1, archivedAt, read, rfl⟩) ?_, ?_⟩
    · rw [settled]
      exact .inr rfl
    · rw [settled]
      exact spaced
  | deleting => exact ⟨.cleared rfl, spaced⟩
  | noticed notice =>
    refine ⟨?_, spaced⟩
    have untimed : event.type ≠ "timer" := by
      intro timer
      have outcome := notice.1
      simp [isOutcome, timer] at outcome
    by_cases completed : state.phase = .completed
    · exact .asleep rfl (by simp [Feature.timed, completed])
    · exact .kept rfl untimed id (.inr (by simp [Feature.endsWith, completes, completed]))
  | deleted report result =>
    cases result with
    | done => exact ⟨.asleep rfl (asleep (by simp [report.2.1]) (by simp [report.2.1])), spaced⟩
    | refused => exact ⟨.counted _ rfl trivial (later_lt spaced.1) (.inr rfl), spaced⟩
  | failed operation =>
    refine ⟨.counted _ rfl trivial (later_lt (backoff_pos ⟨spaced.2.1, spaced.2.2.1⟩)) ?_, spaced⟩
    dsimp only [SessionLifecycle.SessionState.retryDecision, Feature.timed]
    split
    · exact .inr rfl
    · exact .inl rfl
  | other =>
    refine ⟨?_, spaced⟩
    unfold SessionLifecycle.SessionState.onOther
    by_cases phase : state.phase = .waiting ∨ state.phase = .archived
    · rw [if_pos phase]
      exact .counted _ rfl trivial (later_lt spaced.1) phase
    · rw [if_neg phase]
      exact .asleep rfl phase

end

/-! ## Every definition -/

section

variable {host : Host} {feature : Feature} {definition : WorkflowDefinition feature.State} {event : Event}
  {now : Timestamp} {decision : WorkflowDecision feature.State} {input : JsValue}

theorem Feature.Built.wakes (built : feature.Built host definition) {state : feature.State}
    (spaced : feature.spaced state) (reduced : definition.reduce state event = .ok decision) :
    Wakes host feature state event decision ∧ feature.spaced decision.state := by
  cases built with
  | messageIntake => exact ⟨intake_wakes reduced, trivial⟩
  | focusDiscovery => exact discovery_wakes spaced reduced
  | sessionLifecycle => exact session_wakes spaced reduced
  | xiaoweiResearch => exact research_wakes spaced reduced
  | overdueMonitor => exact overdue_wakes spaced reduced
  | completedCleanup => exact cleanup_wakes spaced reduced
  | followupReview => exact review_wakes spaced reduced
  | followupOutreach => exact outreach_wakes spaced reduced
  | collaborationSchedule => exact schedule_wakes spaced reduced
  | collaborationPolicyApproval => exact ⟨approval_wakes reduced, trivial⟩

/-- An instance begins with no timer recorded, and awake in a state that takes timers. -/
theorem began_paced (spaced : feature.spaced decision.state)
    (timed : decision.wakeAt.join.isSome → feature.timed decision.state) :
    Paced feature (Progress.began decision).standing := by
  refine ⟨spaced, fun instant woken => ?_, fun _ _ => .inr ?_⟩
  · have woken : decision.wakeAt.join = some instant := woken
    exact timed (by rw [woken]; rfl)
  · simp [Progress.standing, Progress.eventIds, Progress.began]

theorem discoveryInteger_le {label : String} {minimum result : Nat} {value : JsValue}
    (read : Intake.discoveryInteger label minimum value = .ok result) : minimum ≤ result := by
  unfold Intake.discoveryInteger at read
  split at read
  · exact integerSetting_le read
  · cases read

theorem discovery_paced {decision : WorkflowDecision Intake.DiscoveryState}
    (begun : Intake.initialiseDiscovery input now = .ok decision) :
    Paced .focusDiscovery (Progress.began decision).standing := by
  unfold Intake.initialiseDiscovery at begun
  obtain ⟨intervalMs, interval, begun⟩ := bind_ok.mp begun
  obtain ⟨overlapMs, -, begun⟩ := bind_ok.mp begun
  split at begun
  · cases begun
  · obtain ⟨retryMs, retry, begun⟩ := bind_ok.mp begun
    obtain ⟨sources, -, begun⟩ := bind_ok.mp begun
    cases begun
    exact began_paced ⟨lt_of_lt_of_le (by decide) (discoveryInteger_le interval),
      lt_of_lt_of_le (by decide) (discoveryInteger_le retry)⟩ fun _ => rfl

theorem session_paced {settings : SessionLifecycle.SessionSettings} (spaced : settings.Spaced)
    {decision : WorkflowDecision SessionLifecycle.SessionState}
    (begun : SessionLifecycle.initialiseSession host settings input now = .ok decision) :
    Paced .sessionLifecycle (Progress.began decision).standing := by
  have days : 0 < settings.deleteAfterDays * SessionLifecycle.dayMs := Nat.mul_pos spaced.deleteAfterDays (by decide)
  unfold SessionLifecycle.initialiseSession at begun
  dsimp only [bind, Except.bind, pure, Except.pure] at begun
  repeat' split at begun
  all_goals first
    | cases begun
      exact began_paced ⟨spaced.pollIntervalMs, spaced.retryBaseMs, spaced.retryMaxMs, days⟩ fun _ => .inl rfl
    | cases begun

theorem research_paced {settings : Xiaowei.ResearchSettings}
    (spaced : 0 < settings.retryBaseMs ∧ 0 < settings.retryMaxMs)
    {decision : WorkflowDecision Xiaowei.XiaoweiResearchState}
    (begun : Xiaowei.initialiseResearch host settings input now = .ok decision) :
    Paced .xiaoweiResearch (Progress.began decision).standing := by
  unfold Xiaowei.initialiseResearch at begun
  dsimp only [bind, Except.bind, pure, Except.pure] at begun
  repeat' split at begun
  all_goals first
    | cases begun
      refine began_paced spaced fun awake => ?_
      simp_all [Feature.timed]
    | cases begun

theorem outreach_paced {settings : OutreachSettings} (spaced : 0 < settings.retryBaseMs ∧ 0 < settings.retryMaxMs)
    {decision : WorkflowDecision OutreachState} (begun : initialiseOutreach host settings input now = .ok decision) :
    Paced .followupOutreach (Progress.began decision).standing := by
  unfold initialiseOutreach at begun
  dsimp only [bind, Except.bind, pure, Except.pure] at begun
  repeat' split at begun
  all_goals first
    | cases begun
      exact began_paced spaced fun _ => by simp [Feature.timed]
    | cases begun

theorem Feature.Built.begins_paced (built : feature.Built host definition)
    (begun : definition.initialise input now = .ok decision) : Paced feature (Progress.began decision).standing := by
  cases built with
  | messageIntake =>
    obtain ⟨state, rfl, -⟩ := Intake.initialiseIntake_ok begun
    exact began_paced trivial (by simp [Intake.IntakeState.awaiting])
  | focusDiscovery => exact discovery_paced begun
  | sessionLifecycle settings spaced => exact session_paced spaced begun
  | xiaoweiResearch settings spaced => exact research_paced spaced begun
  | followupOutreach settings spaced => exact outreach_paced spaced begun
  | overdueMonitor initial scheduled spaced | completedCleanup initial scheduled spaced
  | followupReview initial scheduled spaced =>
    cases begun
    exact began_paced spaced fun _ => scheduled
  | collaborationSchedule interval spaced =>
    cases begun
    exact began_paced spaced fun _ => rfl
  | collaborationPolicyApproval =>
    obtain ⟨proposal, -, begun⟩ := bind_ok.mp begun
    cases begun
    exact began_paced trivial (by simp)

/-- The invariant along every run whose events are on time. -/
theorem run_paced (built : feature.Built host definition) {events : List Event} {progress : Progress feature.State}
    (run : (meeting definition (OnTime host feature)).Run events progress) :
    Paced feature progress.standing ∧ feature.Tells progress.status progress.state := by
  refine run.history (motive := fun _ progress =>
    Paced feature progress.standing ∧ feature.Tells progress.status progress.state) ?_ ?_
  · rintro progress ⟨input, now, decision, begun, rfl⟩
    exact ⟨built.begins_paced begun, fun ended => absurd ended (not_ended (built.begins begun))⟩
  · rintro events event before after - ⟨here, tells⟩ ⟨⟨produced, -, decision, reduced, rfl⟩, onTime⟩
    obtain ⟨wakes, spaced⟩ := built.wakes here.spaced reduced
    exact ⟨here.next tells produced onTime wakes spaced, built.reduces reduced⟩

/-- An instance that has ended, or is to be woken later, is not due. -/
theorem not_due {State : Type} {row : Instance State}
    (rests : isEnded row.status ∨ ∀ instant ∈ row.wakeAt, now < instant) : WorkflowStore.due now row = false := by
  rw [WorkflowStore.due, decide_eq_false_iff_not]
  rintro ⟨active, reached⟩
  rcases rests with ended | future
  · rcases ended with ended | ended <;> simp [ended] at active
  · cases wakes : row.wakeAt with
    | none =>
      rw [wakes] at reached
      cases reached
    | some instant =>
      rw [wakes] at reached
      exact absurd (of_decide_eq_true reached) (not_le.mpr (future instant wakes))

theorem due_active {State : Type} {row : Instance State} (isDue : WorkflowStore.due now row) :
    ¬ isEnded row.status := by
  have active := (of_decide_eq_true isDue).1
  rintro (ended | ended) <;> simp [ended] at active

/-- A due instance whose timer a pass dispatched without throwing is no longer due. -/
theorem timers_progress [DecidableEq feature.State] (registered : feature.Registers host definition)
    {runtime : Runtime feature.State} (keyed : runtime.Keyed)
    (installed : runtime.definitions definition.kind = some definition) {requests : List Request}
    {store : Store feature.State}
    (run : ((serving runtime).restricted (meetsAt definition (OnTime host feature))).Run requests store)
    {now clock : Timestamp} {limit : Nat} {earlier later : List (Instance feature.State)}
    {current : Instance feature.State} (batch : store.dueWorkflows now limit = earlier ++ current :: later)
    (kind : current.kind = definition.kind) {after : Store feature.State}
    (ran : runtime.runTimers now clock (earlier ++ [current]) store = (.ok (), after)) :
    ∃ row, after.workflow current.id = some row ∧ WorkflowStore.due now row = false := by
  have listed : current ∈ store.dueWorkflows now limit := by simp [batch]
  obtain ⟨stored, isDue⟩ := Runtime.dueWorkflows_spec listed
  obtain ⟨scheduledAt, wakes, reached⟩ := Runtime.due_wakes isDue
  obtain ⟨-, events, progress, path, alike⟩ := stored_run keyed installed run stored kind
  have paced : Paced feature (standing store current) := by
    rw [alike]
    exact (run_paced registered.built path).1
  obtain ⟨middle, row, before, dispatched⟩ := Runtime.runTimers_last wakes ran
  have foreign : ∀ other ∈ earlier, other.id ≠ current.id := by
    have distinct : ((earlier ++ current :: later).map (·.id)).Nodup := batch ▸ Runtime.dueWorkflows_nodup
    rw [List.map_append] at distinct
    intro other prior
    exact (List.nodup_append.mp distinct).2.2 _ (List.mem_map_of_mem prior) _ (by simp)
  have here : middle.workflow current.id = some current := by
    rw [Runtime.workflow_runTimers before foreign, stored]
  have unrecorded : Runtime.recorded middle current.id (timerId scheduledAt) = false := by
    by_contra used
    have used := (Runtime.recorded_runTimers before current.id _).mp (eq_true_of_ne_false used)
    rcases used with used | ⟨other, prior, same, -⟩
    · rcases paced.coming scheduledAt wakes with ended | unused
      · exact due_active isDue ended
      · rw [show Runtime.recorded store current.id (timerId scheduledAt) = false from unused] at used
        cases used
    · exact foreign other prior same
  have spec := Runtime.dispatch_spec dispatched
  generalize answered : (Except.ok row : Except String (Instance feature.State)) = reply at spec
  cases spec with
  | threw => cases answered
  | repeated _ _ recorded =>
    have used : Runtime.recorded after current.id (timerId scheduledAt) = true := by
      rw [Runtime.recorded, show timerId scheduledAt = (Runtime.timerEvent scheduledAt now).id from rfl, recorded]
      rfl
    rw [unrecorded] at used
    cases used
  | @advanced found input next read decided _ applied =>
    cases here.symm.trans read
    obtain ⟨source, decision, known, -, reduced, -, rfl⟩ := Runtime.decide_ok_iff.mp decided
    rw [kind, installed] at known
    cases known
    refine ⟨_, by rw [Runtime.workflow_advanced applied, Runtime.advanceInput, if_pos rfl], ?_⟩
    obtain ⟨moves, -⟩ := registered.built.wakes paced.spaced reduced
    exact not_due (paced.taken wakes moves)

end

/-! ## A card that could not be shown -/

section

variable {State : Type} {runtime : Runtime State} {now : Timestamp} {store after : Store State}
  {current : Instance State}

/-- The one instance that is due, and the store after its timer was dispatched. -/
def passOver (runtime : Runtime State) (now : Timestamp) (store : Store State) :
    Option (Instance State × Store State) :=
  match store.dueWorkflows now 20 with
  | [current] =>
    match runtime.runTimers now now [current] store with
    | (.ok (), after) => some (current, after)
    | _ => none
  | _ => none

theorem passOver_spec (passed : passOver runtime now store = some (current, after)) :
    store.dueWorkflows now 20 = [current] ∧ runtime.runTimers now now [current] store = (.ok (), after) := by
  unfold passOver at passed
  split at passed
  · rename_i batch
    split at passed
    · rename_i ran
      cases passed
      exact ⟨batch, ran⟩
    · cases passed
  · cases passed

end

def questionRuntime : Runtime OutreachState where
  config := ⟨"workflow-worker", none, none, none, none⟩
  definitions kind :=
    if kind = "followup.outreach" then
      some (outreachDefinition questionHost questionSettings)
    else none
  effectHandlers _ := none
  collate left right := left ≤ right

theorem questionRuntime_keyed : questionRuntime.Keyed := by
  intro kind definition known
  simp only [questionRuntime] at known
  split at known
  · rename_i named
    cases known
    exact named.symm
  · cases known

def askQuestion : Request := .start "question" "followup.outreach" questionInput 1767556800000 1767556800000

/-- The reply is waited for when the last attempt to show the card is reported to have failed. -/
def cardFails : List Given :=
  oneFound ++ [.other (ownerApproved 1767556802000),
    .other (effectReport "followup-send:7690125071a8b5ee8eb8eb71e33a96f5" sendAsUser "delivered"
      [("messageId", "om_9"), ("chatId", "oc_1")] 1767556803000),
    .other (effectReport "followup-approval:bc18c75d3bfce8d10989c1953b25edec" requestInteraction "failed" []
      1767556804000)]

def cardRequests : List Request :=
  askQuestion :: cardFails.map fun given => .dispatch "question" given.event given.event.occurredAt

/-- The timer of the retry is taken and changes nothing: the outreach stays due. -/
theorem failedCard_staysDue : ∃ requests store current after row,
    (serving questionRuntime).Run requests store ∧ store.dueWorkflows 1767556924000 20 = [] ++ current :: [] ∧
      questionRuntime.runTimers 1767556924000 1767556924000 ([] ++ [current]) store = (.ok (), after) ∧
      after.workflow current.id = some row ∧ WorkflowStore.due 1767556924000 row := by
  have stays : ((passOver questionRuntime 1767556924000 (cardRequests.foldl questionRuntime.serve .empty)).any
      fun passed => (passed.2.workflow passed.1.id).any (WorkflowStore.due 1767556924000)) = true := by
    decide +kernel
  obtain ⟨⟨current, after⟩, passed, stays⟩ := (Option.any_eq_true _ _).mp stays
  obtain ⟨row, found, isDue⟩ := (Option.any_eq_true _ _).mp stays
  obtain ⟨batch, ran⟩ := passOver_spec passed
  exact ⟨_, _, current, after, row, serve_run questionRuntime cardRequests, batch, ran, found, isDue⟩

/-- The first timer of a question looks for the contact, and the question sleeps. -/
theorem askedQuestion_rests : ∃ store current after row, store.dueWorkflows 1767556800000 20 = [] ++ current :: [] ∧
      questionRuntime.runTimers 1767556800000 1767556800000 ([] ++ [current]) store = (.ok (), after) ∧
      after.workflow current.id = some row ∧ WorkflowStore.due 1767556800000 row = false := by
  have passes : ((passOver questionRuntime 1767556800000 (questionRuntime.serve .empty askQuestion)).any
      fun passed => passed.1.kind = "followup.outreach") = true := by
    decide +kernel
  obtain ⟨⟨current, after⟩, passed, kind⟩ := (Option.any_eq_true _ _).mp passes
  obtain ⟨batch, ran⟩ := passOver_spec passed
  have registered : Feature.followupOutreach.Registers questionHost
      (outreachDefinition questionHost questionSettings) :=
    ⟨_, question_built⟩
  have asked : ((serving questionRuntime).restricted (meetsAt
      (outreachDefinition questionHost questionSettings)
      (OnTime questionHost .followupOutreach))).Run
        [askQuestion] (questionRuntime.serve .empty askQuestion) :=
    ⟨.empty, rfl, .next ⟨serve_served questionRuntime .empty askQuestion, trivial⟩ .done⟩
  have first : questionRuntime.runTimers 1767556800000 1767556800000 ([] ++ [current])
      (questionRuntime.serve .empty askQuestion) = (.ok (), after) := ran
  have due : (questionRuntime.serve .empty askQuestion).dueWorkflows 1767556800000 20 = [] ++ current :: [] := batch
  obtain ⟨row, found, rests⟩ :=
    timers_progress registered questionRuntime_keyed rfl asked due (of_decide_eq_true kind) first
  exact ⟨_, current, after, row, batch, ran, found, rests⟩

end QuarkSelfAI.Features

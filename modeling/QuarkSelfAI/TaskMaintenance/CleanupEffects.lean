import QuarkSelfAI.TaskMaintenance.Cleanup
import QuarkSelfAI.TaskMaintenance.Streaks
import QuarkSelfAI.Workflow.Folding

/-!
# The effect ids of the completed-task cleanup

A cleanup is identified by its project and local day, a result by the day it was
pending for, a notice by the start of its streak of failures. `Accounted` says which
ids a run has used, in terms of what its reports left behind; as long as no due
timer returns to a day that is spent, every new id is a new one.
-/

namespace QuarkSelfAI.TaskMaintenance

open Foundation Storage Workflow

variable {host : Host} {state : CleanupState} {event : Event}

/-! ## Ids -/

/-- What an effect of the cleanup is identified by. -/
inductive CleanupKey where
  | cleanup (day : String)
  | result (day : String)
  | recovered (startedAt : Timestamp)
  | failed (startedAt : Timestamp)

namespace CleanupKey

def tag : CleanupKey → String
  | .cleanup _ => "dida-completed-cleanup"
  | .result _ => "dida-cleanup-result"
  | .recovered _ => "dida-cleanup-recovered"
  | .failed _ => "dida-cleanup-failed"

def values (projectId : String) : CleanupKey → List String
  | .cleanup day | .result day => [projectId, day]
  | .recovered startedAt | .failed startedAt => [toISOString startedAt]

def id (host : Host) (projectId : String) (key : CleanupKey) : String := host.stable key.tag (key.values projectId)

theorem id_injective (lawful : host.Lawful) (projectId : String) : Function.Injective (id host projectId) := by
  intro left right same
  have plain : ∀ key : CleanupKey, ':' ∉ key.tag.toList := by
    intro key
    cases key <;> simp [tag]
  obtain ⟨tags, joined⟩ := (Host.stable_inj lawful (plain left) (plain right)).mp same
  have days : ∀ {one other : String}, Host.joined [projectId, one] = Host.joined [projectId, other] → one = other := by
    intro one other equal
    simpa [Host.joined_two] using equal
  have instants : ∀ {one other : Timestamp},
      Host.joined [toISOString one] = Host.joined [toISOString other] → one = other := by
    intro one other equal
    exact toISOString_injective (by simpa using equal)
  -- Different tags are different words; under one tag the values decide.
  cases left <;> cases right <;> simp only [tag, String.reduceEq] at tags
  · exact congrArg _ (days joined)
  · exact congrArg _ (days joined)
  all_goals exact congrArg _ (instants joined)

end CleanupKey

/-! ## What an event does -/

def cleanupMonitor : Monitor CleanupState :=
  { kind := cleanupCompleted, streak := (·.failure), threshold := (·.failureThreshold) }

@[simp] theorem cleanupMonitor_streak : cleanupMonitor.streak state = state.failure := rfl

@[simp] theorem cleanupMonitor_threshold : cleanupMonitor.threshold state = state.failureThreshold := rfl

@[simp] theorem onFailed_state : (state.onFailed host event).state = { state with
    phase := .scheduled, pendingDay := none
    failure := some (failed state.failure event.occurredAt state.failureThreshold).1 } := rfl

/-- What a reduction does: nothing to the ids, the start of a cleanup, or what follows
a report of it. -/
inductive CleanupStep (host : Host) (state : CleanupState) (event : Event) : WorkflowDecision CleanupState → Prop where
  | quiet {decision} (delivered : cleanupMonitor.reports "effect.delivered" event = false)
      (failed : cleanupMonitor.reports "effect.failed" event = false) (kept : decision.state = state)
      (nothing : decision.effects = []) : CleanupStep host state event decision
  | started {decision slot} (timer : event.type = "timer") (scheduled : state.phase = .scheduled)
      (located : localSlot host event.occurredAt state.timeZone state.scheduledHour = .ok slot)
      (due : slot.due) (unfinished : state.lastCompletedDay ≠ some slot.day)
      (begun : decision.state = { state with phase := .cleaning, pendingDay := some slot.day })
      (asked : decision.effects = [state.cleanupEffect host event slot.day]) :
      CleanupStep host state event decision
  | cleaned {decision deleted} (report : cleanupMonitor.reports "effect.delivered" event)
      (parsed : parseDeletedTasks host (event.payload.get "deleted") = .ok deleted)
      (ended : decision.state = { state with
        phase := .scheduled, pendingDay := none, failure := none
        lastCompletedDay := state.pendingDay.or state.lastCompletedDay })
      (told : decision.effects = state.cleanedEffects host event deleted) :
      CleanupStep host state event decision
  | failed (report : cleanupMonitor.reports "effect.failed" event) :
      CleanupStep host state event (state.onFailed host event)

theorem parseDeletedTasks_nil {deleted : JsValue} (parsed : parseDeletedTasks host deleted = .ok []) :
    deleted = .array [] := by
  unfold parseDeletedTasks at parsed
  split at parsed
  · rename_i items
    cases items with
    | nil => rfl
    | cons item rest =>
      obtain ⟨_, _, parsed⟩ := bind_ok.mp parsed
      obtain ⟨_, _, parsed⟩ := bind_ok.mp parsed
      cases parsed
  · cases parsed

theorem cleanup_step {decision : WorkflowDecision CleanupState}
    (reduced : state.reduce host event = .ok decision) : CleanupStep host state event decision := by
  unfold CleanupState.reduce at reduced
  split at reduced
  · rename_i timer
    have unreported : ∀ type, "timer" ≠ type → cleanupMonitor.reports type event = false :=
      fun type other => Monitor.reports_other timer.1 other
    obtain ⟨slot, located, reduced⟩ := bind_ok.mp reduced
    split at reduced
    · cases reduced
      exact .quiet (unreported _ (by decide)) (unreported _ (by decide)) rfl rfl
    · rename_i unspent
      cases reduced
      obtain ⟨due, unfinished⟩ := not_or.mp unspent
      exact .started timer.1 timer.2 located (not_not.mp due) unfinished rfl rfl
  · split at reduced
    · rename_i notice
      have unreported : ∀ type, cleanupMonitor.reports type event = false := by
        intro type
        simp [Monitor.reports, cleanupMonitor, notice.2, notifyOwner, cleanupCompleted]
      cases reduced
      exact .quiet (unreported _) (unreported _) rfl rfl
    · split at reduced
      · rename_i report
        obtain ⟨deleted, parsed, reduced⟩ := bind_ok.mp reduced
        cases reduced
        exact .cleaned (decide_eq_true report) parsed rfl rfl
      · rename_i undelivered
        split at reduced
        · rename_i report
          cases reduced
          exact .failed (decide_eq_true report)
        · rename_i unfailed
          cases reduced
          exact .quiet (decide_eq_false undelivered) (decide_eq_false unfailed) rfl rfl

/-! ## What a run left behind -/

/-- The days whose cleanup was reported, delivered or failed. -/
def reportedDays (history : List (CleanupState × Event)) : List String :=
  history.filterMap fun entry =>
    if cleanupMonitor.reports "effect.delivered" entry.2 ∨ cleanupMonitor.reports "effect.failed" entry.2 then
      entry.1.pendingDay
    else none

/-- A delivery of deleted tasks while no cleanup is under way. -/
def stray (state : CleanupState) (event : Event) : Bool :=
  cleanupMonitor.reports "effect.delivered" event ∧ state.pendingDay = none ∧ event.payload.get "deleted" ≠ .array []

def strays (history : List (CleanupState × Event)) : List Timestamp :=
  history.filterMap fun entry => if stray entry.1 entry.2 then some entry.2.occurredAt else none

variable {history : List (CleanupState × Event)} {progress : Progress CleanupState}

theorem reportedDays_next : reportedDays (history ++ [(state, event)]) = reportedDays history ++
    if cleanupMonitor.reports "effect.delivered" event ∨ cleanupMonitor.reports "effect.failed" event then
      state.pendingDay.toList else [] := by
  rw [reportedDays, List.filterMap_append, ← reportedDays]
  cases pending : state.pendingDay <;> split <;> simp_all

theorem strays_next : strays (history ++ [(state, event)]) = strays history ++
    if stray state event then [event.occurredAt] else [] := by
  rw [strays, List.filterMap_append, ← strays]
  split <;> simp_all

/-- A due timer on the day of a cleanup that was reported, other than the last completed. -/
def returns (host : Host) (progress : Progress CleanupState) (event : Event) : Bool :=
  match localSlot host event.occurredAt progress.state.timeZone progress.state.scheduledHour with
  | .error _ => false
  | .ok slot => event.type = "timer" ∧ progress.state.phase = .scheduled ∧ slot.due ∧
      progress.state.lastCompletedDay ≠ some slot.day ∧ slot.day ∈ reportedDays progress.applied

/-- The condition on one event: no due timer returns to the day of a reported cleanup,
other than the last completed one; streaks of failures that grow to the threshold have
begun at different instants; deliveries of deleted tasks outside a cleanup come at
different instants. -/
structure CleanupOrderly (host : Host) (progress : Progress CleanupState) (event : Event) : Prop where
  timer : returns host progress event = false
  streak : ∀ startedAt ∈ cleanupMonitor.tells progress.state event,
    startedAt ∉ cleanupMonitor.toldStreaks progress.applied
  stray : stray progress.state event → event.occurredAt ∉ strays progress.applied

instance (host : Host) (progress : Progress CleanupState) (event : Event) :
    Decidable (CleanupOrderly host progress event) :=
  decidable_of_iff
    (returns host progress event = false ∧ (∀ startedAt ∈ cleanupMonitor.tells progress.state event,
      startedAt ∉ cleanupMonitor.toldStreaks progress.applied) ∧
      (stray progress.state event → event.occurredAt ∉ strays progress.applied))
    ⟨fun ⟨timer, streak, stray⟩ => ⟨timer, streak, stray⟩,
      fun orderly => ⟨orderly.timer, orderly.streak, orderly.stray⟩⟩

/-! ## The ids a run has used -/

/-- What the id of a cleanup or of a result goes back to: a report, the cleanup under way,
or a stray delivery. -/
def Covered (state : CleanupState) (days : List String) (outside : List Timestamp) : CleanupKey → Prop
  | .cleanup day => day ∈ days ∨ state.pendingDay = some day
  | .result day => day ∈ days ∨ ∃ instant ∈ outside, day = toISOString instant
  | .failed _ | .recovered _ => True

structure Accounted (keys : List CleanupKey) (state : CleanupState) (days : List String)
    (told outside : List Timestamp) : Prop where
  distinct : keys.Nodup
  covered : ∀ key ∈ keys, Covered state days outside key
  pending : ∀ day, state.pendingDay = some day → day ∉ days ∧ 'T' ∉ day.toList
  resting : state.phase = .scheduled → state.pendingDay = none
  plain : ∀ day ∈ days, 'T' ∉ day.toList
  noticed : Noticed (.failed · ∈ keys) (.recovered · ∈ keys) state.failure told

namespace Accounted

variable {keys : List CleanupKey} {days : List String} {told outside : List Timestamp}

/-- A cleanup begins on a day that none was reported for. -/
theorem started {day : String} (here : Accounted keys state days told outside)
    (scheduled : state.phase = .scheduled) (unreported : day ∉ days) (plain : 'T' ∉ day.toList) :
    Accounted (keys ++ [.cleanup day]) { state with phase := .cleaning, pendingDay := some day }
      days told outside := by
  have idle := here.resting scheduled
  have fresh : .cleanup day ∉ keys := by
    intro used
    rcases here.covered _ used with reported | pending
    · exact unreported reported
    · simp [idle] at pending
  refine ⟨here.distinct.append (List.nodup_singleton _) (by simpa using fresh), ?_, ?_, ?_, here.plain, ?_⟩
  · intro key used
    rcases List.mem_append.mp used with before | added
    · have covered := here.covered key before
      cases key with
      | cleanup other => exact .inl (covered.resolve_right (by simp [idle]))
      | result _ | recovered _ | failed _ => exact covered
    · rw [List.mem_singleton.mp added]
      exact .inr rfl
  · intro other pending
    cases pending
    exact ⟨unreported, plain⟩
  · intro phase
    cases phase
  · simpa using here.noticed

/-- A report ends the cleanup under way; what it adds is told about the streak or is
covered by the report. -/
theorem ended {streak : Option FailureState} {longer : List Timestamp}
    (here : Accounted keys state days told outside) (added : List CleanupKey) (last : Option String)
    (wider : List Timestamp) (distinct : (keys ++ added).Nodup)
    (covered : ∀ key ∈ added, ∀ day, (key ≠ .cleanup day) ∧ (key = .result day →
      state.pendingDay = some day ∨ ∃ instant ∈ wider, day = toISOString instant))
    (noticed : Noticed (.failed · ∈ keys ++ added) (.recovered · ∈ keys ++ added) streak longer) :
    Accounted (keys ++ added) { state with
        phase := .scheduled, pendingDay := none, failure := streak, lastCompletedDay := last }
      (days ++ state.pendingDay.toList) longer (outside ++ wider) := by
  refine ⟨distinct, ?_, ?_, fun _ => rfl, ?_, noticed⟩
  · intro key used
    rcases List.mem_append.mp used with before | new
    · have covered := here.covered key before
      cases key with
      | cleanup day =>
        left
        rcases covered with reported | pending
        · exact List.mem_append_left _ reported
        · simp [pending]
      | result day =>
        rcases covered with reported | ⟨instant, listed, written⟩
        · exact .inl (List.mem_append_left _ reported)
        · exact .inr ⟨instant, List.mem_append_left _ listed, written⟩
      | recovered _ | failed _ => trivial
    · cases key with
      | cleanup day => exact ((covered _ new day).1 rfl).elim
      | result day =>
        rcases (covered _ new day).2 rfl with pending | ⟨instant, listed, written⟩
        · exact .inl (by simp [pending])
        · exact .inr ⟨instant, List.mem_append_right _ listed, written⟩
      | recovered _ | failed _ => trivial
  · intro day pending
    cases pending
  · intro day listed
    rcases List.mem_append.mp listed with reported | pending
    · exact here.plain day reported
    · exact (here.pending day (by simpa using pending)).2

theorem fresh_result {day : String} (here : Accounted keys state days told outside)
    (pending : state.pendingDay = some day) : .result day ∉ keys := by
  intro used
  obtain ⟨unreported, plain⟩ := here.pending day pending
  rcases here.covered _ used with reported | ⟨instant, _, written⟩
  · exact unreported reported
  · exact plain (written ▸ toISOString_mark instant)

theorem fresh_stray {instant : Timestamp} (here : Accounted keys state days told outside)
    (new : instant ∉ outside) : .result (toISOString instant) ∉ keys := by
  intro used
  rcases here.covered _ used with reported | ⟨other, listed, written⟩
  · exact here.plain _ reported (toISOString_mark instant)
  · exact new (toISOString_injective written ▸ listed)

end Accounted

/-! ## One step -/

/-- The key of the result or the recovery that a delivery notifies of. -/
def cleanedKeys (state : CleanupState) (event : Event) (deleted : List DeletedTask) : List CleanupKey :=
  if deleted ≠ [] then [.result (state.pendingDay.getD (toISOString event.occurredAt))]
  else (recoveries state.failure).map .recovered

def failedKeys (state : CleanupState) (event : Event) : List CleanupKey :=
  (tellings state.failure event.occurredAt state.failureThreshold).map .failed

theorem cleanedEffects_ids {deleted : List DeletedTask} : (state.cleanedEffects host event deleted).map (·.id) =
      (cleanedKeys state event deleted).map (CleanupKey.id host state.projectId) := by
  unfold CleanupState.cleanedEffects cleanedKeys recoveries
  split
  · rfl
  · cases state.failure with
    | none => rfl
    | some current =>
      dsimp only
      split <;> rfl

theorem onFailed_ids : (state.onFailed host event).effects.map (·.id) =
    (failedKeys state event).map (CleanupKey.id host state.projectId) := by
  unfold CleanupState.onFailed failed failedKeys tellings
  dsimp only
  split <;> rfl

namespace Accounted

variable {keys : List CleanupKey} {days : List String} {told outside : List Timestamp}

theorem afterCleaned {deleted : List DeletedTask} (here : Accounted keys state days told outside) (last : Option String)
    (new : deleted ≠ [] → state.pendingDay = none → event.occurredAt ∉ outside) :
    Accounted (keys ++ cleanedKeys state event deleted)
      { state with phase := .scheduled, pendingDay := none, failure := none, lastCompletedDay := last }
      (days ++ state.pendingDay.toList) told
      (outside ++ if deleted ≠ [] ∧ state.pendingDay = none then [event.occurredAt] else []) := by
  unfold cleanedKeys
  split
  · rename_i some
    have fresh : .result (state.pendingDay.getD (toISOString event.occurredAt)) ∉ keys := by
      cases pending : state.pendingDay with
      | some day => exact here.fresh_result pending
      | none => exact here.fresh_stray (new some pending)
    refine here.ended _ last _ (here.distinct.append (List.nodup_singleton _) (by simpa using fresh)) ?_ ?_
    · intro key added day
      rw [List.mem_singleton.mp added]
      cases pending : state.pendingDay with
      | some day => simp
      | none => simp [some, eq_comm]
    · exact (here.noticed.settled [] (by simp)).of_iff (by simp) (by simp)
  · rename_i none
    have fresh : ∀ key ∈ (recoveries state.failure).map CleanupKey.recovered, key ∉ keys := by
      intro key added
      obtain ⟨startedAt, kept, rfl⟩ := List.mem_map.mp added
      exact (here.noticed.running startedAt kept).2
    have distinct : (keys ++ (recoveries state.failure).map CleanupKey.recovered).Nodup :=
      here.distinct.append (recoveries_distinct.map fun _ _ same => CleanupKey.recovered.inj same)
        fun key used added => fresh key added used
    have recovered := here.ended _ last [] distinct (by simp)
      ((here.noticed.settled _ fun _ kept => kept).of_iff (by simp) (by simp))
    simpa [none] using recovered

theorem afterFailed (here : Accounted keys state days told outside) (host : Host)
    (new : ∀ startedAt ∈ tellings state.failure event.occurredAt state.failureThreshold,
      startedAt ∉ told) : Accounted (keys ++ failedKeys state event) (state.onFailed host event).state
      (days ++ state.pendingDay.toList)
      (told ++ tellings state.failure event.occurredAt state.failureThreshold) outside := by
  have fresh : ∀ key ∈ failedKeys state event, key ∉ keys := by
    intro key added used
    obtain ⟨startedAt, told, rfl⟩ := List.mem_map.mp added
    exact new startedAt told (here.noticed.begun startedAt used)
  have distinct : (keys ++ failedKeys state event).Nodup :=
    here.distinct.append (tellings_distinct.map fun _ _ same => CleanupKey.failed.inj same)
      fun key used added => fresh key added used
  have ended := here.ended _ state.lastCompletedDay [] distinct (by simp [failedKeys])
    ((here.noticed.failing new).of_iff (by simp [failedKeys]) (by simp [failedKeys]))
  simpa using ended

end Accounted

/-! ## Runs -/

theorem completedCleanupWorkflow_ok {config : DidaMaintenanceConfig} {clock : Timestamp}
    {definition : WorkflowDefinition CleanupState}
    (built : completedCleanupWorkflow host config clock = .ok definition) :
    ∃ initial, definition = cleanupDefinition host initial ∧ initial.phase = .scheduled ∧
      initial.pendingDay = none ∧ initial.failure = none ∧ 0 < initial.pollIntervalMs := by
  unfold completedCleanupWorkflow at built
  obtain ⟨projectId, _, built⟩ := bind_ok.mp built
  obtain ⟨scheduledHour, _, built⟩ := bind_ok.mp built
  split at built
  · cases built
  · obtain ⟨pollIntervalMs, polls, built⟩ := bind_ok.mp built
    obtain ⟨retentionDays, _, built⟩ := bind_ok.mp built
    obtain ⟨maxPerRun, _, built⟩ := bind_ok.mp built
    obtain ⟨failureThreshold, _, built⟩ := bind_ok.mp built
    obtain ⟨authorization, _, built⟩ := bind_ok.mp built
    obtain ⟨_, _, built⟩ := bind_ok.mp built
    cases built
    exact ⟨_, rfl, rfl, rfl, rfl, lt_of_lt_of_le (by decide) (integerSetting_le polls)⟩

/-- What a run has asked for, with the keys behind the ids. -/
def Kept (host : Host) (projectId : String) (progress : Progress CleanupState) : Prop :=
  progress.state.projectId = projectId ∧ ∃ keys, progress.effects.map (·.id) = keys.map (CleanupKey.id host projectId) ∧
      Accounted keys progress.state (reportedDays progress.applied) (cleanupMonitor.toldStreaks progress.applied)
        (strays progress.applied)

theorem Kept.next {projectId : String}
    {decision : WorkflowDecision CleanupState} {keys : List CleanupKey} (added : List CleanupKey)
    (ids : progress.effects.map (·.id) = keys.map (CleanupKey.id host projectId))
    (project : decision.state.projectId = projectId)
    (asked : decision.effects.map (·.id) = added.map (CleanupKey.id host projectId))
    (accounted : Accounted (keys ++ added) decision.state
      (reportedDays (progress.applied ++ [(progress.state, event)]))
      (cleanupMonitor.toldStreaks (progress.applied ++ [(progress.state, event)]))
      (strays (progress.applied ++ [(progress.state, event)]))) :
    Kept host projectId (progress.next event decision) := by
  refine ⟨project, keys ++ added, ?_, accounted⟩
  rw [Progress.next, List.map_append, List.map_append, ids, asked]

theorem Kept.step (lawful : host.Lawful) {projectId : String} {decision : WorkflowDecision CleanupState}
    (here : Kept host projectId progress) (orderly : CleanupOrderly host progress event)
    (reduced : progress.state.reduce host event = .ok decision) :
    Kept host projectId (progress.next event decision) := by
  obtain ⟨project, keys, ids, accounted⟩ := here
  subst project
  cases cleanup_step reduced with
  | quiet delivered failed kept nothing =>
    refine Kept.next [] ids (by rw [kept]) (by simp [nothing]) ?_
    rw [reportedDays_next, Monitor.toldStreaks_next, strays_next]
    simpa [delivered, failed, Monitor.tells_other failed, stray, kept] using accounted
  | started timer scheduled located due unfinished begun asked =>
    rename_i slot
    have unreported : ∀ type, "timer" ≠ type → cleanupMonitor.reports type event = false :=
      fun type other => Monitor.reports_other timer other
    have fresh : slot.day ∉ reportedDays progress.applied := by
      simpa [returns, timer, scheduled, located, due, unfinished] using orderly.timer
    refine Kept.next [.cleanup slot.day] ids (by rw [begun]) (by rw [asked]; rfl) ?_
    rw [reportedDays_next, Monitor.toldStreaks_next, strays_next]
    simpa [unreported, Monitor.tells_other, stray, begun] using
      accounted.started scheduled fresh (localSlot_plain lawful located)
  | cleaned report parsed ended told =>
    rename_i deleted
    have unfailed : cleanupMonitor.reports "effect.failed" event = false :=
      Monitor.reports_other (Monitor.reports_type report) (by decide)
    have some : event.payload.get "deleted" ≠ .array [] ↔ deleted ≠ [] := by
      refine not_congr ⟨fun empty => ?_, fun none => parseDeletedTasks_nil (none ▸ parsed)⟩
      rw [empty] at parsed
      cases parsed
      rfl
    have new : deleted ≠ [] → progress.state.pendingDay = none →
        event.occurredAt ∉ strays progress.applied := fun some' idle =>
      orderly.stray (by simp [stray, report, idle, some.mpr some'])
    refine Kept.next _ ids (by rw [ended]) (by rw [told, cleanedEffects_ids]) ?_
    rw [reportedDays_next, Monitor.toldStreaks_next, strays_next, ended]
    have next := accounted.afterCleaned (progress.state.pendingDay.or progress.state.lastCompletedDay) new
    simpa [report, unfailed, Monitor.tells_other unfailed, stray, some, and_comm] using next
  | failed report =>
    have undelivered : cleanupMonitor.reports "effect.delivered" event = false :=
      Monitor.reports_other (Monitor.reports_type report) (by decide)
    refine Kept.next _ ids rfl onFailed_ids ?_
    rw [reportedDays_next, Monitor.toldStreaks_next, strays_next]
    have told : cleanupMonitor.tells progress.state event = _ := Monitor.tells_failed report
    have next := accounted.afterFailed host (told ▸ orderly.streak)
    simpa [report, undelivered, told, stray] using next

/-- The ids of all effects a run asks for are distinct. -/
theorem cleanup_run_distinct (lawful : host.Lawful) {config : DidaMaintenanceConfig} {clock : Timestamp}
    {definition : WorkflowDefinition CleanupState} (built : completedCleanupWorkflow host config clock = .ok definition)
    {events : List Event} {progress : Progress CleanupState}
    (run : ((folding definition).restricted (CleanupOrderly host)).Run events progress) :
    (progress.effects.map (·.id)).Nodup := by
  obtain ⟨initial, rfl, scheduled, idle, calm, -⟩ := completedCleanupWorkflow_ok built
  have kept : Kept host initial.projectId progress := by
    refine run.invariant ?_ ?_
    · rintro progress ⟨input, now, decision, begun, rfl⟩
      cases begun
      refine ⟨rfl, [], rfl, List.nodup_nil, by simp, ?_, fun _ => idle,
        by simp [Progress.began, reportedDays], ?_, by simp, by simp⟩
      · intro day pending
        simp [Progress.began, idle] at pending
      · intro startedAt kept
        simp [Progress.began, calm, recoveries] at kept
    · rintro before event after here ⟨⟨_, _, decision, reduced, rfl⟩, orderly⟩
      exact here.step lawful orderly reduced
  obtain ⟨_, keys, ids, accounted⟩ := kept
  rw [ids]
  exact accounted.distinct.map (CleanupKey.id_injective lawful _)

/-! ## Two nights -/

def nightlyHost : Host :=
  .tabulated "Asia/Shanghai" 28800000
    [("inbox\x002026-01-05", "3619f285be15b46e5114d1f7252eb12e"),
      ("inbox\x002026-01-06", "a60331d8ffba3df136c644607a19819c")]
    [("2025-12-01T00:00:00.000Z", 1764547200000)]

theorem nightlyHost_lawful : nightlyHost.Lawful := Host.tabulated_lawful (by decide) (by decide)

def nightlyConfig : DidaMaintenanceConfig :=
  { projectId := "inbox", overdueIntervalMs := none, overdueRetryMs := none
    failureNotifyThreshold := none, overdueNotificationTimeZone := none
    overdueNotificationStartHour := none, overdueNotificationEndHour := none
    overdueReminderMinimumIntervalMs := none, cleanupTimeZone := none, cleanupHour := none
    cleanupPollIntervalMs := none, cleanupFailureNotifyThreshold := none
    completedRetentionDays := none, cleanupMaxPerRun := none
    cleanupAuthorization := .object [("id", "owner-policy:dida-cleanup:v1"), ("grantedBy", "owner"),
      ("grantedAt", "2025-12-01T00:00:00.000Z"), ("scope", "dida.completed-task-cleanup"),
      ("revision", .number 1), ("source", "owner-directive:periodic-cleanup"),
      ("projectId", "inbox"), ("minimumRetentionDays", .number 30),
      ("maximumDeletesPerRun", .number 50)] }

def nightlyState : CleanupState :=
  initialCleanup "inbox" "Asia/Shanghai" 3 1800000 30 50 3
    { evidence := { id := "owner-policy:dida-cleanup:v1", grantedBy := "owner"
                    grantedAt := "2025-12-01T00:00:00.000Z", scope := "dida.completed-task-cleanup"
                    revision := 1, source := "owner-directive:periodic-cleanup" }
      projectId := "inbox", minimumRetentionDays := 30, maximumDeletesPerRun := 50 }

theorem nightly_built : completedCleanupWorkflow nightlyHost nightlyConfig 1767556800000 =
    .ok (cleanupDefinition nightlyHost nightlyState) := by
  rfl

/-- The first night's cleanup fails a minute after it was asked for. -/
def nightlyFailed : Event :=
  { id := "effect:dida-completed-cleanup:3619f285be15b46e5114d1f7252eb12e:failed"
    type := "effect.failed", occurredAt := 1767556860000
    payload := .object [("effectId", "dida-completed-cleanup:3619f285be15b46e5114d1f7252eb12e"),
      ("effectKind", cleanupCompleted), ("error", "dida365 unavailable")] }

def nightlyStart : WorkflowDecision CleanupState :=
  { status := .waiting, state := nightlyState, wakeAt := some (some 1767556800000), effects := [] }

/-- Half an hour later, on the same day, the cleanup is asked for under the same id. -/
theorem retried_not_distinct : ∃ definition events progress,
    completedCleanupWorkflow nightlyHost nightlyConfig 1767556800000 = .ok definition ∧
      (folding definition).Run events progress ∧ ¬ (progress.effects.map (·.id)).Nodup := by
  obtain ⟨progress, replayed, ids⟩ : ∃ progress, replay (cleanupDefinition nightlyHost nightlyState) (fun _ _ => True)
        [.timer 1767556800000 1767556800000, .other nightlyFailed, .timer 1767558660000 1767558660000]
        (.began nightlyStart) = some progress ∧
      progress.effects.map (·.id) = ["dida-completed-cleanup:3619f285be15b46e5114d1f7252eb12e",
        "dida-completed-cleanup:3619f285be15b46e5114d1f7252eb12e"] :=
    ⟨_, rfl, rfl⟩
  have begun : (cleanupDefinition nightlyHost nightlyState).initialise .null 1767556800000 = .ok nightlyStart := rfl
  refine ⟨_, _, progress, nightly_built, (replay_run begun replayed).unrestricted, ?_⟩
  rw [ids]
  decide

/-- A day later it is a new cleanup. -/
theorem nightly_distinct : ∃ progress : Progress CleanupState, (progress.effects.map (·.id)).Nodup ∧
    progress.effects.map (·.id) = ["dida-completed-cleanup:3619f285be15b46e5114d1f7252eb12e",
      "dida-completed-cleanup:a60331d8ffba3df136c644607a19819c"] := by
  obtain ⟨progress, replayed, ids⟩ : ∃ progress,
      replay (cleanupDefinition nightlyHost nightlyState) (CleanupOrderly nightlyHost)
        [.timer 1767556800000 1767556800000, .other nightlyFailed, .timer 1767645060000 1767645060000]
        (.began nightlyStart) = some progress ∧
      progress.effects.map (·.id) = ["dida-completed-cleanup:3619f285be15b46e5114d1f7252eb12e",
        "dida-completed-cleanup:a60331d8ffba3df136c644607a19819c"] :=
    ⟨_, rfl, rfl⟩
  have begun : (cleanupDefinition nightlyHost nightlyState).initialise .null 1767556800000 = .ok nightlyStart := rfl
  exact ⟨progress, cleanup_run_distinct nightlyHost_lawful nightly_built (replay_run begun replayed), ids⟩

end QuarkSelfAI.TaskMaintenance

import QuarkSelfAI.TaskMaintenance.Overdue
import QuarkSelfAI.TaskMaintenance.Streaks
import QuarkSelfAI.Workflow.Folding

/-!
# The effect ids of the overdue monitor

A scan is identified by the instant its timer was set for, a reminder by its task and
fingerprint, a notice by the start of its streak of failures. Only the last reminder
of a task is remembered, so a fingerprint that returns is reminded of again: every
new id is a new one as long as that does not happen.
-/

namespace QuarkSelfAI.TaskMaintenance

open Foundation Storage Workflow

variable {host : Host} {state : OverdueState} {event : Event} {seen : List String} {progress : Progress OverdueState}

/-! ## Ids -/

/-- What an effect of the monitor is identified by. -/
inductive OverdueKey where
  | scan (scheduledAt : Timestamp)
  | reminder (taskId fingerprint : String)
  | recovered (startedAt : Timestamp)
  | failed (startedAt : Timestamp)

namespace OverdueKey

def tag : OverdueKey → String
  | .scan _ => "dida-overdue-scan"
  | .reminder _ _ => "dida-overdue-notification"
  | .recovered _ => "dida-overdue-recovered"
  | .failed _ => "dida-overdue-failed"

def values (projectId : String) : OverdueKey → List String
  | .scan scheduledAt => [projectId, toISOString scheduledAt]
  | .reminder taskId fingerprint => [taskId, fingerprint]
  | .recovered startedAt | .failed startedAt => [toISOString startedAt]

def id (host : Host) (projectId : String) (key : OverdueKey) : String := host.stable key.tag (key.values projectId)

/-- The fingerprint can be told from the task before it. -/
def Plain : OverdueKey → Prop
  | .reminder _ fingerprint => '\x00' ∉ fingerprint.toList
  | _ => True

theorem id_injOn (lawful : host.Lawful) (projectId : String) {left right : OverdueKey} (plainLeft : left.Plain)
    (plainRight : right.Plain) (same : left.id host projectId = right.id host projectId) : left = right := by
  have unmarked : ∀ key : OverdueKey, ':' ∉ key.tag.toList := by
    intro key
    cases key <;> simp [tag]
  obtain ⟨tags, joined⟩ := (Host.stable_inj lawful (unmarked left) (unmarked right)).mp same
  have instants : ∀ {one other : Timestamp}, toISOString one = toISOString other → one = other :=
    fun equal => toISOString_injective equal
  -- Different tags are different words; under one tag the values decide.
  cases left <;> cases right <;> simp only [tag, String.reduceEq] at tags
  · rw [values, values, Host.joined_two, Host.joined_two] at joined
    exact congrArg _ (instants (by simpa using joined))
  · rw [values, values, Host.joined_two, Host.joined_two, suffixed_inj plainLeft plainRight] at joined
    rw [joined.1, joined.2]
  all_goals exact congrArg _ (instants (by simpa [values] using joined))

end OverdueKey

/-- A fingerprint ends in a number, after the text of an instant. -/
theorem fingerprint_plain (lawful : host.Lawful) {task : OverdueTask} {instant : Timestamp}
    (written : task.dueDate = toISOString instant) : '\x00' ∉ (task.fingerprint host).toList := by
  intro listed
  rw [OverdueTask.fingerprint, String.toList_append, String.toList_append, written] at listed
  rcases List.mem_append.mp listed with dueDate | rest
  · rcases toISOString_chars dueDate with digit | mark
    · exact absurd digit (by decide)
    · simp at mark
  · rcases List.mem_append.mp rest with colon | priority
    · simp at colon
    · exact lawful.numberText _ priority

theorem parseOverdueItems_written {items : List JsValue} {index : Nat} {tasks : List OverdueTask}
    (parsed : parseOverdueItems host items index = .ok tasks) :
    ∀ task ∈ tasks, ∃ instant, task.dueDate = toISOString instant := by
  induction items generalizing index tasks with
  | nil =>
    cases parsed
    simp
  | cons item rest ih =>
    obtain ⟨first, here, parsed⟩ := bind_ok.mp parsed
    obtain ⟨others, there, parsed⟩ := bind_ok.mp parsed
    cases parsed
    rw [List.forall_mem_cons]
    refine ⟨?_, ih there⟩
    unfold parseOverdueTask at here
    split at here
    · split at here
      · cases here
      · cases here
        exact ⟨_, rfl⟩
    · cases here

/-! ## The reminders of a scan -/

def overdueMonitor : Monitor OverdueState :=
  { kind := listOverdue, streak := (·.failure), threshold := (·.failureThreshold) }

/-- The tasks a report of a scan lists. -/
def scanned (host : Host) (event : Event) : List OverdueTask :=
  if overdueMonitor.reports "effect.delivered" event then
    match parseOverdueTasks host (event.payload.get "tasks") with
    | .ok tasks => tasks
    | .error _ => []
  else []

/-- What the state before a scan holds back. -/
def holds (host : Host) (state : OverdueState) (event : Event) (task : OverdueTask) : Bool :=
  (noticeOf state.notified task.taskId >>= state.heldBack host event task) = .ok true

/-- The first entry of each task that is not held back, but for the tasks in `seen`. -/
def reminders (host : Host) (state : OverdueState) (event : Event) : List String → List OverdueTask → List OverdueTask
  | _, [] => []
  | seen, task :: rest =>
    if task.taskId ∈ seen ∨ holds host state event task then reminders host state event seen rest
    else task :: reminders host state event (task.taskId :: seen) rest

theorem reminders_sublist {tasks : List OverdueTask} : (reminders host state event seen tasks).Sublist tasks := by
  induction tasks generalizing seen with
  | nil => exact .slnil
  | cons task rest ih =>
    rw [reminders]
    split
    · exact ih.cons _
    · exact ih.cons_cons _

theorem reminders_unseen {tasks : List OverdueTask} :
    ∀ task ∈ reminders host state event seen tasks, task.taskId ∉ seen := by
  induction tasks generalizing seen with
  | nil => simp [reminders]
  | cons task rest ih =>
    rw [reminders]
    split
    · exact ih
    · rename_i fresh
      rw [List.forall_mem_cons]
      refine ⟨(not_or.mp fresh).1, fun other listed here => ?_⟩
      exact ih other listed (List.mem_cons_of_mem _ here)

/-- No task is reminded of twice in a scan. -/
theorem reminders_distinct {tasks : List OverdueTask} :
    ((reminders host state event seen tasks).map (·.taskId)).Nodup := by
  induction tasks generalizing seen with
  | nil => simp [reminders]
  | cons task rest ih =>
    rw [reminders]
    split
    · exact ih
    · rw [List.map_cons, List.nodup_cons]
      refine ⟨fun repeated => ?_, ih⟩
      obtain ⟨other, listed, same⟩ := List.mem_map.mp repeated
      exact reminders_unseen other listed (by simp [same])

/-- A task reminded of at this very instant is held back. -/
theorem heldBack_again {task : OverdueTask} {previous : Notice} {held : Bool}
    (positive : 0 < state.reminderMinimumIntervalMs) (now : previous.notifiedAt = event.occurredAt)
    (decided : state.heldBack host event task (some previous) = .ok held) : held = true := by
  obtain ⟨sameDay, _, decided⟩ := bind_ok.mp decided
  have recent : state.recentlyNotified event (some previous) = true := by
    have waited : event.occurredAt - previous.notifiedAt = 0 := by rw [now, sub_self]
    simpa [OverdueState.recentlyNotified, waited] using positive
  rw [if_pos (.inr (.inr recent))] at decided
  cases decided
  rfl

/-- The reminders that went out before an entry of a scan: their tasks were noted at the
instant of the scan, all others stand as before it. -/
def Noted (state : OverdueState) (event : Event) (seen : List String) (notified : List (String × Notice)) : Prop :=
  ∀ taskId, if taskId ∈ seen
    then ∃ notice, notified.lookup taskId = some notice ∧ notice.notifiedAt = event.occurredAt
    else notified.lookup taskId = state.notified.lookup taskId

theorem Noted.assign {notified : List (String × Notice)} {taskId : String} {notice : Notice}
    (here : Noted state event seen notified) (now : notice.notifiedAt = event.occurredAt) :
    Noted state event (taskId :: seen) (assign notified taskId notice) := by
  intro other
  rw [lookup_assign]
  by_cases same : other = taskId
  · rw [if_pos (by simp [same]), if_pos same]
    exact ⟨notice, rfl, now⟩
  · have before := here other
    simpa [same] using before

/-- The loop sends what `reminders` lists. -/
theorem remind_ids (projectId : String) {tasks : List OverdueTask} {notified next : List (String × Notice)}
    {effects : List EffectInput} (positive : 0 < state.reminderMinimumIntervalMs)
    (noted : Noted state event seen notified) (ran : state.remind host event tasks notified = .ok (next, effects)) :
    effects.map (·.id) = ((reminders host state event seen tasks).map fun task =>
      OverdueKey.reminder task.taskId (task.fingerprint host)).map (OverdueKey.id host projectId) := by
  induction tasks generalizing seen notified next effects with
  | nil =>
    cases ran
    rfl
  | cons task rest ih =>
    obtain ⟨previous, found, guarded⟩ := bind_ok.mp ran
    obtain ⟨held, decided, looped⟩ := bind_ok.mp guarded
    have before := noted task.taskId
    rw [reminders]
    by_cases again : task.taskId ∈ seen
    · rw [if_pos again] at before
      obtain ⟨notice, kept, now⟩ := before
      have same : previous = some notice := by
        simp only [noticeOf, kept] at found
        cases found
        rfl
      rw [same] at decided
      rw [heldBack_again positive now decided, if_pos rfl] at looped
      rw [if_pos (.inl again)]
      exact ih noted looped
    · rw [if_neg again] at before
      have unchanged : noticeOf state.notified task.taskId = .ok previous := by
        rw [← found, noticeOf, noticeOf, before]
      have holding : holds host state event task = held := by
        cases held <;> simp [holds, unchanged, decided, bind, Except.bind]
      cases held with
      | true =>
        rw [if_pos rfl] at looped
        rw [if_pos (.inr holding)]
        exact ih noted looped
      | false =>
        rw [if_neg (by simp)] at looped
        obtain ⟨⟨_, others⟩, sent, ended⟩ := bind_ok.mp looped
        cases ended
        rw [if_neg (by simp [again, holding]), List.map_cons, List.map_cons, List.map_cons, ih (noted.assign rfl) sent]
        rfl

/-! ## What a run left behind -/

/-- The reminders a report of a scan sends, by task and fingerprint. -/
def remindersOf (host : Host) (state : OverdueState) (event : Event) : List (String × String) :=
  (reminders host state event [] (scanned host event)).map fun task => (task.taskId, task.fingerprint host)

/-- The reminders of a run. -/
def reminded (host : Host) (history : List (OverdueState × Event)) : List (String × String) :=
  history.flatMap fun entry => remindersOf host entry.1 entry.2

/-- The condition on one event: no task is reminded of again under a fingerprint it was
reminded of under before, and streaks of failures that grow to the threshold have begun
at different instants. -/
structure OverdueOrderly (host : Host) (progress : Progress OverdueState) (event : Event) : Prop where
  reminder : ∀ entry ∈ remindersOf host progress.state event, entry ∉ reminded host progress.applied
  streak : ∀ startedAt ∈ overdueMonitor.tells progress.state event,
    startedAt ∉ overdueMonitor.toldStreaks progress.applied

instance (host : Host) (progress : Progress OverdueState) (event : Event) :
    Decidable (OverdueOrderly host progress event) :=
  decidable_of_iff
    ((∀ entry ∈ remindersOf host progress.state event, entry ∉ reminded host progress.applied) ∧
      (∀ startedAt ∈ overdueMonitor.tells progress.state event,
        startedAt ∉ overdueMonitor.toldStreaks progress.applied))
    ⟨fun ⟨reminder, streak⟩ => ⟨reminder, streak⟩, fun orderly => ⟨orderly.reminder, orderly.streak⟩⟩

/-! ## What an event does -/

inductive OverdueStep (host : Host) (state : OverdueState) (event : Event) : WorkflowDecision OverdueState → Prop where
  | quiet {decision} (delivered : overdueMonitor.reports "effect.delivered" event = false)
      (failed : overdueMonitor.reports "effect.failed" event = false) (kept : decision.state = state)
      (nothing : decision.effects = []) : OverdueStep host state event decision
  | scan (timer : event.type = "timer") : OverdueStep host state event (state.onTimer host event)
  | scanned {decision tasks next reminded} (report : overdueMonitor.reports "effect.delivered" event)
      (parsed : parseOverdueTasks host (event.payload.get "tasks") = .ok tasks)
      (ran : state.remind host event tasks state.notified = .ok (next, reminded))
      (ended : decision.state = { state with
        phase := .scheduled, failure := none, notified := pruneFingerprints next event.occurredAt })
      (sent : decision.effects = reminded ++ state.recovery host event) :
      OverdueStep host state event decision
  | failed (report : overdueMonitor.reports "effect.failed" event) :
      OverdueStep host state event (state.onFailed host event)

theorem overdue_step {decision : WorkflowDecision OverdueState}
    (reduced : state.reduce host event = .ok decision) : OverdueStep host state event decision := by
  unfold OverdueState.reduce at reduced
  split at reduced
  · rename_i timer
    cases reduced
    exact .scan timer.1
  · split at reduced
    · rename_i notice
      have unreported : ∀ type, overdueMonitor.reports type event = false := by
        intro type
        simp [Monitor.reports, overdueMonitor, notice.2, notifyOwner, listOverdue]
      cases reduced
      exact .quiet (unreported _) (unreported _) rfl rfl
    · split at reduced
      · rename_i report
        obtain ⟨tasks, parsed, looped⟩ := bind_ok.mp reduced
        obtain ⟨⟨next, reminded⟩, ran, ended⟩ := bind_ok.mp looped
        cases ended
        exact .scanned (decide_eq_true report) parsed ran rfl rfl
      · rename_i undelivered
        split at reduced
        · rename_i report
          cases reduced
          exact .failed (decide_eq_true report)
        · rename_i unfailed
          cases reduced
          exact .quiet (decide_eq_false undelivered) (decide_eq_false unfailed) rfl rfl

theorem remindersOf_other (undelivered : overdueMonitor.reports "effect.delivered" event = false) :
    remindersOf host state event = [] := by
  simp [remindersOf, scanned, undelivered, reminders]

/-! ## The ids a run has used -/

/-- Every used key goes back to a timer, a reminder or a streak of the run. -/
structure OverdueAccounted (keys : List OverdueKey) (streak : Option FailureState)
    (timers : List String) (reminded : List (String × String)) (told : List Timestamp) : Prop where
  distinct : keys.Nodup
  scan : ∀ scheduledAt, .scan scheduledAt ∈ keys → "timer:" ++ toISOString scheduledAt ∈ timers
  reminder : ∀ taskId fingerprint, .reminder taskId fingerprint ∈ keys →
    (taskId, fingerprint) ∈ reminded ∧ '\x00' ∉ fingerprint.toList
  noticed : Noticed (.failed · ∈ keys) (.recovered · ∈ keys) streak told

namespace OverdueAccounted

variable {keys : List OverdueKey} {streak : Option FailureState} {timers : List String}
  {sent : List (String × String)} {told : List Timestamp}

theorem grow {after : Option FailureState} {longer : List Timestamp}
    (here : OverdueAccounted keys streak timers sent told) (added : List OverdueKey) (timer : String)
    (more : List (String × String)) (distinct : (keys ++ added).Nodup)
    (scan : ∀ scheduledAt, .scan scheduledAt ∈ added → "timer:" ++ toISOString scheduledAt = timer)
    (reminder : ∀ taskId fingerprint, .reminder taskId fingerprint ∈ added →
      (taskId, fingerprint) ∈ more ∧ '\x00' ∉ fingerprint.toList)
    (noticed : Noticed (.failed · ∈ keys ++ added) (.recovered · ∈ keys ++ added) after longer) :
    OverdueAccounted (keys ++ added) after (timers ++ [timer]) (sent ++ more) longer := by
  refine ⟨distinct, ?_, ?_, noticed⟩
  · intro scheduledAt used
    rcases List.mem_append.mp used with before | new
    · exact List.mem_append_left _ (here.scan scheduledAt before)
    · exact List.mem_append_right _ (by simp [scan scheduledAt new])
  · intro taskId fingerprint used
    rcases List.mem_append.mp used with before | new
    · exact (here.reminder taskId fingerprint before).imp_left (List.mem_append_left _)
    · exact (reminder taskId fingerprint new).imp_left (List.mem_append_right _)

end OverdueAccounted

/-! ## Runs -/

theorem recovery_ids : (state.recovery host event).map (·.id) =
    ((recoveries state.failure).map OverdueKey.recovered).map (OverdueKey.id host state.projectId) := by
  unfold OverdueState.recovery recoveries
  cases state.failure with
  | none => rfl
  | some current =>
    dsimp only
    split <;> rfl

theorem overdue_onFailed_ids : (state.onFailed host event).effects.map (·.id) =
    ((tellings state.failure event.occurredAt state.failureThreshold).map OverdueKey.failed).map
      (OverdueKey.id host state.projectId) := by
  unfold OverdueState.onFailed failed tellings
  dsimp only
  split <;> rfl

/-- The keys of what a report of a scan notifies of. -/
def scanKeys (host : Host) (state : OverdueState) (event : Event) : List OverdueKey :=
  ((reminders host state event [] (scanned host event)).map fun task =>
    .reminder task.taskId (task.fingerprint host)) ++ (recoveries state.failure).map .recovered

theorem mem_scanKeys {taskId fingerprint : String} : .reminder taskId fingerprint ∈ scanKeys host state event ↔
      (taskId, fingerprint) ∈ remindersOf host state event := by
  simp [scanKeys, remindersOf]

theorem scanned_written : ∀ task ∈ scanned host event, ∃ instant, task.dueDate = toISOString instant := by
  unfold scanned
  split
  · split
    · rename_i parsed
      unfold parseOverdueTasks at parsed
      split at parsed
      · exact parseOverdueItems_written parsed
      · cases parsed
    · simp
  · simp

theorem remindersOf_plain (lawful : host.Lawful) {taskId fingerprint : String}
    (listed : (taskId, fingerprint) ∈ remindersOf host state event) : '\x00' ∉ fingerprint.toList := by
  obtain ⟨task, due, same⟩ := List.mem_map.mp listed
  cases same
  obtain ⟨instant, written⟩ := scanned_written task (reminders_sublist.subset due)
  exact fingerprint_plain lawful written

theorem scanKeys_distinct : (scanKeys host state event).Nodup := by
  refine List.Nodup.append ?_ (recoveries_distinct.map fun _ _ same => OverdueKey.recovered.inj same) ?_
  · refine List.Nodup.of_map (fun key => match key with | .reminder taskId _ => taskId | _ => "") ?_
    rw [List.map_map]
    exact reminders_distinct
  · intro key reminder recovered
    obtain ⟨_, _, rfl⟩ := List.mem_map.mp recovered
    simp at reminder

theorem OverdueAccounted.afterScanned (lawful : host.Lawful) {keys : List OverdueKey}
    {timers : List String} {before : List (String × String)} {told : List Timestamp}
    (here : OverdueAccounted keys state.failure timers before told) (timer : String)
    (new : ∀ entry ∈ remindersOf host state event, entry ∉ before) :
    OverdueAccounted (keys ++ scanKeys host state event) none (timers ++ [timer])
      (before ++ remindersOf host state event) told := by
  have fresh : ∀ key ∈ scanKeys host state event, key ∉ keys := by
    intro key added used
    rcases List.mem_append.mp added with reminder | recovered
    · obtain ⟨task, _, rfl⟩ := List.mem_map.mp reminder
      exact new _ (mem_scanKeys.mp added) (here.reminder _ _ used).1
    · obtain ⟨startedAt, kept, rfl⟩ := List.mem_map.mp recovered
      exact (here.noticed.running startedAt kept).2 used
  refine here.grow _ timer _
    (here.distinct.append scanKeys_distinct fun key used added => fresh key added used)
    (by simp [scanKeys]) ?_ ?_
  · intro taskId fingerprint added
    have sent := mem_scanKeys.mp added
    exact ⟨sent, remindersOf_plain lawful sent⟩
  · exact (here.noticed.settled _ fun _ kept => kept).of_iff (by simp [scanKeys]) (by simp [scanKeys])

/-- What a run has asked for, with the keys behind the ids. -/
structure OverdueKept (host : Host) (projectId : String) (progress : Progress OverdueState)
    (keys : List OverdueKey) : Prop where
  project : progress.state.projectId = projectId
  positive : 0 < progress.state.reminderMinimumIntervalMs
  ids : progress.effects.map (·.id) = keys.map (OverdueKey.id host projectId)
  accounted : OverdueAccounted keys progress.state.failure progress.eventIds
    (reminded host progress.applied) (overdueMonitor.toldStreaks progress.applied)

theorem OverdueKept.next {projectId : String}
    {decision : WorkflowDecision OverdueState} {keys : List OverdueKey}
    (here : OverdueKept host projectId progress keys) (added : List OverdueKey)
    (project : decision.state.projectId = progress.state.projectId)
    (interval : decision.state.reminderMinimumIntervalMs = progress.state.reminderMinimumIntervalMs)
    (asked : decision.effects.map (·.id) = added.map (OverdueKey.id host projectId))
    (accounted : OverdueAccounted (keys ++ added) decision.state.failure
      (progress.eventIds ++ [event.id])
      (reminded host progress.applied ++ remindersOf host progress.state event)
      (overdueMonitor.toldStreaks progress.applied ++ overdueMonitor.tells progress.state event)) :
    OverdueKept host projectId (progress.next event decision) (keys ++ added) where
  project := project.trans here.project
  positive := interval ▸ here.positive
  ids := by rw [Progress.next, List.map_append, List.map_append, here.ids, asked]
  accounted := by
    have sent : reminded host (progress.applied ++ [(progress.state, event)]) =
        reminded host progress.applied ++ remindersOf host progress.state event := by
      simp [reminded]
    have given : (progress.next event decision).eventIds = progress.eventIds ++ [event.id] := by
      simp [Progress.next, Progress.eventIds]
    rw [given, Progress.next, sent, Monitor.toldStreaks_next]
    exact accounted

theorem OverdueKept.step (lawful : host.Lawful) {projectId : String} {decision : WorkflowDecision OverdueState}
    {keys : List OverdueKey} (here : OverdueKept host projectId progress keys) (produced : Produced event)
    (new : event.id ∉ progress.eventIds) (orderly : OverdueOrderly host progress event)
    (reduced : progress.state.reduce host event = .ok decision) :
    ∃ added, OverdueKept host projectId (progress.next event decision) (keys ++ added) := by
  have accounted := here.accounted
  obtain rfl := here.project
  cases overdue_step reduced with
  | quiet delivered failed kept nothing =>
    refine ⟨[], here.next [] (by rw [kept]) (by rw [kept]) (by simp [nothing]) ?_⟩
    rw [remindersOf_other delivered, Monitor.tells_other failed, kept, List.append_nil
      (overdueMonitor.toldStreaks progress.applied)]
    exact accounted.grow [] _ [] (by simpa using accounted.distinct) (by simp) (by simp)
      (accounted.noticed.of_iff (by simp) (by simp))
  | scan timer =>
    have unreported : ∀ type, "timer" ≠ type → overdueMonitor.reports type event = false :=
      fun type other => Monitor.reports_other timer other
    rw [Produced, if_pos timer] at produced
    obtain ⟨scheduledAt, set⟩ := produced
    have id : event.id = "timer:" ++ toISOString scheduledAt := by rw [set]; rfl
    have distinct : (keys ++ [OverdueKey.scan scheduledAt]).Nodup := by
      refine accounted.distinct.append (List.nodup_singleton _) ?_
      have fresh := fun used => new (id ▸ accounted.scan scheduledAt used)
      simpa using fresh
    refine ⟨[.scan scheduledAt], here.next _ rfl rfl (by rw [set]; rfl) ?_⟩
    rw [remindersOf_other (unreported _ (by decide)), Monitor.tells_other (unreported _ (by decide)),
      List.append_nil (overdueMonitor.toldStreaks progress.applied)]
    exact accounted.grow _ _ [] distinct (by simp [id]) (by simp)
      (accounted.noticed.of_iff (by simp) (by simp))
  | scanned report parsed ran ended sent =>
    rename_i tasks next effects
    have unfailed : overdueMonitor.reports "effect.failed" event = false :=
      Monitor.reports_other (Monitor.reports_type report) (by decide)
    have listed : scanned host event = tasks := by simp [scanned, report, parsed]
    have noted : Noted progress.state event [] progress.state.notified := fun taskId => by simp
    have ids := remind_ids progress.state.projectId here.positive noted ran
    refine ⟨scanKeys host progress.state event, here.next _ (by rw [ended]) (by rw [ended]) ?_ ?_⟩
    · rw [sent, List.map_append, ids, recovery_ids, scanKeys, listed, List.map_append]
    · rw [Monitor.tells_other unfailed, ended, List.append_nil
        (overdueMonitor.toldStreaks progress.applied)]
      exact accounted.afterScanned lawful _ orderly.reminder
  | failed report =>
    have undelivered : overdueMonitor.reports "effect.delivered" event = false :=
      Monitor.reports_other (Monitor.reports_type report) (by decide)
    have told : overdueMonitor.tells progress.state event = _ := Monitor.tells_failed report
    have fresh : ∀ startedAt ∈ tellings progress.state.failure event.occurredAt
        progress.state.failureThreshold, startedAt ∉ overdueMonitor.toldStreaks progress.applied :=
      told ▸ orderly.streak
    refine ⟨_, here.next _ rfl rfl overdue_onFailed_ids ?_⟩
    rw [remindersOf_other undelivered, told]
    refine accounted.grow _ _ [] ?_ (by simp) (by simp)
      ((accounted.noticed.failing fresh).of_iff (by simp) (by simp))
    refine accounted.distinct.append
      (tellings_distinct.map fun _ _ same => OverdueKey.failed.inj same) fun key used added => ?_
    obtain ⟨startedAt, listed, rfl⟩ := List.mem_map.mp added
    exact fresh startedAt listed (accounted.noticed.begun startedAt used)

theorem overdueWorkflow_ok {config : DidaMaintenanceConfig} {clock : Timestamp}
    {definition : WorkflowDefinition OverdueState} (built : overdueWorkflow host config clock = .ok definition) :
    ∃ initial, definition = overdueDefinition host initial ∧ initial.notified = [] ∧
      initial.failure = none ∧ 0 < initial.reminderMinimumIntervalMs ∧ initial.phase = .scheduled ∧
      0 < initial.intervalMs ∧ 0 < initial.retryMs := by
  unfold overdueWorkflow at built
  obtain ⟨projectId, _, built⟩ := bind_ok.mp built
  obtain ⟨intervalMs, intervals, built⟩ := bind_ok.mp built
  obtain ⟨retryMs, retries, built⟩ := bind_ok.mp built
  obtain ⟨failureThreshold, _, built⟩ := bind_ok.mp built
  obtain ⟨startHour, _, built⟩ := bind_ok.mp built
  obtain ⟨endHour, _, built⟩ := bind_ok.mp built
  split at built
  · cases built
  · obtain ⟨minimum, set, built⟩ := bind_ok.mp built
    obtain ⟨_, _, built⟩ := bind_ok.mp built
    cases built
    exact ⟨_, rfl, rfl, rfl, lt_of_lt_of_le (by decide) (integerSetting_le set), rfl,
      lt_of_lt_of_le (by decide) (integerSetting_le intervals),
      lt_of_lt_of_le (by decide) (integerSetting_le retries)⟩

/-- The ids of all effects a run asks for are distinct. -/
theorem overdue_run_distinct (lawful : host.Lawful) {config : DidaMaintenanceConfig} {clock : Timestamp}
    {definition : WorkflowDefinition OverdueState} (built : overdueWorkflow host config clock = .ok definition)
    {events : List Event} {progress : Progress OverdueState}
    (run : ((folding definition).restricted (OverdueOrderly host)).Run events progress) :
    (progress.effects.map (·.id)).Nodup := by
  obtain ⟨initial, rfl, _, calm, positive, -⟩ := overdueWorkflow_ok built
  have kept : ∃ keys, OverdueKept host initial.projectId progress keys := by
    refine run.history (motive := fun _ progress => ∃ keys, OverdueKept host initial.projectId progress keys) ?_ ?_
    · rintro progress ⟨input, now, decision, begun, rfl⟩
      cases begun
      refine ⟨[], rfl, positive, rfl, List.nodup_nil, by simp, by simp, ?_, by simp, by simp⟩
      intro startedAt kept
      simp [Progress.began, calm, recoveries] at kept
    · rintro _ event before after _ ⟨keys, here⟩ ⟨⟨produced, new, decision, reduced, rfl⟩, orderly⟩
      obtain ⟨added, next⟩ := here.step lawful produced new orderly reduced
      exact ⟨keys ++ added, next⟩
  obtain ⟨keys, here⟩ := kept
  rw [here.ids]
  refine here.accounted.distinct.map_on fun left inLeft right inRight same => ?_
  have plain : ∀ key ∈ keys, key.Plain := by
    intro key used
    cases key with
    | reminder taskId fingerprint => exact (here.accounted.reminder taskId fingerprint used).2
    | scan _ | recovered _ | failed _ => trivial
  exact OverdueKey.id_injOn lawful _ (plain left inLeft) (plain right inRight) same

/-! ## A due date that returns -/

def overdueHost : Host :=
  .tabulated "Asia/Shanghai" 28800000
    [("project-automation\x002026-08-24T02:00:00.000Z", "0a1d1eb6ed2a16166973b6a5ceb9ae38"),
      ("project-automation\x002026-08-24T02:30:01.000Z", "0de9bee71db75040b9e62f4160f95f1c"),
      ("project-automation\x002026-08-25T03:30:01.000Z", "8037e23001d0659ddbfa50d122cdd418"),
      ("task-1\x002026-08-20T00:00:00.000Z:5", "6770d079a4007ccc377a4b3180315446"),
      ("task-1\x002026-08-22T00:00:00.000Z:5", "1e1cb467d563ea485561e54f945b109d")]
    [("2026-08-20T00:00:00.000Z", 1787184000000), ("2026-08-22T00:00:00.000Z", 1787356800000)]

theorem overdueHost_lawful : overdueHost.Lawful := Host.tabulated_lawful (by decide) (by decide)

def overdueConfig : DidaMaintenanceConfig :=
  { projectId := "project-automation", overdueIntervalMs := none, overdueRetryMs := none
    failureNotifyThreshold := none, overdueNotificationTimeZone := none
    overdueNotificationStartHour := none, overdueNotificationEndHour := none
    overdueReminderMinimumIntervalMs := none, cleanupTimeZone := none, cleanupHour := none
    cleanupPollIntervalMs := none, cleanupFailureNotifyThreshold := none
    completedRetentionDays := none, cleanupMaxPerRun := none, cleanupAuthorization := .undefined }

def overdueInitial : OverdueState := initialOverdue "project-automation" 1800000 600000 3 "Asia/Shanghai" 9 19 86400000

theorem overdue_built : overdueWorkflow overdueHost overdueConfig 1787536800000 =
    .ok (overdueDefinition overdueHost overdueInitial) := by
  rfl

def overdueStart : WorkflowDecision OverdueState :=
  { status := .waiting, state := overdueInitial, wakeAt := some (some 1787536800000), effects := [] }

/-- A scan that lists one task. -/
def scanReport (scanId dueDate : String) (occurredAt : Timestamp) : Event :=
  { id := "effect:" ++ scanId ++ ":delivered", type := "effect.delivered", occurredAt
    payload := .object [("tasks", .array [.object [("taskId", "task-1"), ("title", "处理客户阻塞"),
        ("dueDate", .string dueDate), ("priority", .number 5)]]),
      ("effectId", .string scanId), ("effectKind", .string listOverdue)] }

/-- Three scans, each a day after the other; the due date of the third is `last`. -/
def threeScans (last : String) : List Given :=
  [.timer 1787536800000 1787536800000, .other (scanReport "dida-overdue-scan:0a1d1eb6ed2a16166973b6a5ceb9ae38"
      "2026-08-20T00:00:00.000Z" 1787536801000),
    .timer 1787538601000 1787626800000,
    .other (scanReport "dida-overdue-scan:0de9bee71db75040b9e62f4160f95f1c"
      "2026-08-22T00:00:00.000Z" 1787626801000),
    .timer 1787628601000 1787716800000,
    .other (scanReport "dida-overdue-scan:8037e23001d0659ddbfa50d122cdd418" last
      1787716801000)]

/-- A due date that moves and moves back is reminded of twice under one id. -/
theorem returned_not_distinct : ∃ definition events progress,
    overdueWorkflow overdueHost overdueConfig 1787536800000 = .ok definition ∧
      (folding definition).Run events progress ∧ ¬ (progress.effects.map (·.id)).Nodup := by
  obtain ⟨progress, replayed, ids⟩ : ∃ progress, replay (overdueDefinition overdueHost overdueInitial) (fun _ _ => True)
        (threeScans "2026-08-20T00:00:00.000Z") (.began overdueStart) = some progress ∧
      progress.effects.map (·.id) =
        ["dida-overdue-scan:0a1d1eb6ed2a16166973b6a5ceb9ae38", "dida-overdue-notification:6770d079a4007ccc377a4b3180315446",
          "dida-overdue-scan:0de9bee71db75040b9e62f4160f95f1c", "dida-overdue-notification:1e1cb467d563ea485561e54f945b109d",
          "dida-overdue-scan:8037e23001d0659ddbfa50d122cdd418", "dida-overdue-notification:6770d079a4007ccc377a4b3180315446"] :=
    ⟨_, rfl, rfl⟩
  have begun : (overdueDefinition overdueHost overdueInitial).initialise .null 1787536800000 = .ok overdueStart := rfl
  refine ⟨_, _, progress, overdue_built, (replay_run begun replayed).unrestricted, ?_⟩
  rw [ids]
  decide

/-- A due date that moves once is reminded of twice under two ids. -/
theorem moved_distinct : ∃ progress : Progress OverdueState, (progress.effects.map (·.id)).Nodup ∧
    progress.effects.map (·.id) =
      ["dida-overdue-scan:0a1d1eb6ed2a16166973b6a5ceb9ae38", "dida-overdue-notification:6770d079a4007ccc377a4b3180315446",
        "dida-overdue-scan:0de9bee71db75040b9e62f4160f95f1c", "dida-overdue-notification:1e1cb467d563ea485561e54f945b109d",
        "dida-overdue-scan:8037e23001d0659ddbfa50d122cdd418"] := by
  obtain ⟨progress, replayed, ids⟩ : ∃ progress,
      replay (overdueDefinition overdueHost overdueInitial) (OverdueOrderly overdueHost)
        (threeScans "2026-08-22T00:00:00.000Z") (.began overdueStart) = some progress ∧
      progress.effects.map (·.id) =
        ["dida-overdue-scan:0a1d1eb6ed2a16166973b6a5ceb9ae38", "dida-overdue-notification:6770d079a4007ccc377a4b3180315446",
          "dida-overdue-scan:0de9bee71db75040b9e62f4160f95f1c", "dida-overdue-notification:1e1cb467d563ea485561e54f945b109d",
          "dida-overdue-scan:8037e23001d0659ddbfa50d122cdd418"] :=
    ⟨_, rfl, rfl⟩
  have begun : (overdueDefinition overdueHost overdueInitial).initialise .null 1787536800000 = .ok overdueStart := rfl
  exact ⟨progress, overdue_run_distinct overdueHost_lawful overdue_built (replay_run begun replayed), ids⟩

end QuarkSelfAI.TaskMaintenance

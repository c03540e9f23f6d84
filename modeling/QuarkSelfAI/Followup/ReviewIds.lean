import QuarkSelfAI.Followup.ReviewSteps

/-!
# The effect ids of a review

Lists and evaluations are numbered. An update is identified by its task and day, the
notices to the owner by the day, and a question to another person by nothing but task,
person and question; so ids differ as long as no review brings one of these again.
-/

namespace QuarkSelfAI.Followup

open Foundation Storage Workflow Domain

variable {host : Host} {state : FollowupReviewState} {event : Event} {progress : Progress FollowupReviewState}

/-! ## What an event brings -/

/-- The evaluation that an event delivers. -/
def evaluationBy (host : Host) (state : FollowupReviewState) (event : Event) : Option FollowupEvaluation :=
  if Reports "effect.delivered" evaluateFollowups event ∧ state.phase = .evaluating then
    (validateFollowupEvaluation host event.payload).toOption
  else none

/-- The evaluation that an event distributes. -/
def distributedBy (host : Host) (state : FollowupReviewState) (event : Event) : Option FollowupEvaluation :=
  if Reports "effect.delivered" applyFollowupUpdate event ∧ state.phase = .applying ∧
      state.remaining event = some [] then state.evaluation
  else (evaluationBy host state event).filter (·.updates = [])

/-- The local day of an event. -/
def dayOf (host : Host) (state : FollowupReviewState) (event : Event) : String :=
  ((state.slot host event.occurredAt).toOption.map (·.day)).getD ""

/-- The tasks to be updated, with the day. -/
def updatesBy (host : Host) (state : FollowupReviewState) (event : Event) : List String :=
  ((evaluationBy host state event).map fun evaluation => evaluation.updates.map fun update =>
    Host.joined [update.taskId, dayOf host state event]).getD []

/-- The day on which the owner is told of updates. -/
def updatesToldBy (host : Host) (state : FollowupReviewState) (event : Event) : Option String :=
  ((distributedBy host state event).filter (·.updates ≠ [])).map fun _ => dayOf host state event

/-- The day on which the owner is told of reminders. -/
def remindersToldBy (host : Host) (state : FollowupReviewState) (event : Event) : Option String :=
  ((distributedBy host state event).filter (·.reminders ≠ [])).map fun _ => dayOf host state event

/-- What identifies a question to another person. -/
def FollowupOutreachInput.identity (item : FollowupOutreachInput) : String :=
  Host.joined [item.taskId, item.person, item.question]

/-- The questions to other people that are opened. -/
def outreachBy (host : Host) (state : FollowupReviewState) (event : Event) : List String :=
  ((distributedBy host state event).map fun evaluation => evaluation.outreachRequests.map (·.identity)).getD []

/-- The condition on one event: no task is updated twice on a day, the owner is told of
updates and of reminders once a day, and no question is opened again. -/
structure Unrepeated (host : Host) (progress : Progress FollowupReviewState) (event : Event) : Prop where
  updates : (updatesBy host progress.state event).Nodup ∧ ∀ entry ∈ progress.applied,
    ∀ update ∈ updatesBy host progress.state event, update ∉ updatesBy host entry.1 entry.2
  updatesTold : ∀ entry ∈ progress.applied, ∀ day ∈ updatesToldBy host progress.state event,
    updatesToldBy host entry.1 entry.2 ≠ some day
  remindersTold : ∀ entry ∈ progress.applied, ∀ day ∈ remindersToldBy host progress.state event,
    remindersToldBy host entry.1 entry.2 ≠ some day
  outreach : (outreachBy host progress.state event).Nodup ∧ ∀ entry ∈ progress.applied,
    ∀ question ∈ outreachBy host progress.state event, question ∉ outreachBy host entry.1 entry.2

instance (progress : Progress FollowupReviewState) (event : Event) : Decidable (Unrepeated host progress event) :=
  decidable_of_iff
    (((updatesBy host progress.state event).Nodup ∧ ∀ entry ∈ progress.applied,
        ∀ update ∈ updatesBy host progress.state event, update ∉ updatesBy host entry.1 entry.2) ∧
      (∀ entry ∈ progress.applied, ∀ day ∈ updatesToldBy host progress.state event,
        updatesToldBy host entry.1 entry.2 ≠ some day) ∧
      (∀ entry ∈ progress.applied, ∀ day ∈ remindersToldBy host progress.state event,
        remindersToldBy host entry.1 entry.2 ≠ some day) ∧
      (outreachBy host progress.state event).Nodup ∧ ∀ entry ∈ progress.applied,
        ∀ question ∈ outreachBy host progress.state event, question ∉ outreachBy host entry.1 entry.2)
    ⟨fun ⟨updates, updatesTold, remindersTold, outreach⟩ => ⟨updates, updatesTold, remindersTold, outreach⟩,
      fun unrepeated => ⟨unrepeated.updates, unrepeated.updatesTold, unrepeated.remindersTold, unrepeated.outreach⟩⟩

/-! ## Ids -/

/-- What an effect of a review is identified by. -/
inductive ReviewKey where
  | listed (day : String) (sequence : Nat)
  | evaluated (day : String) (sequence : Nat)
  | update (text : String)
  | updates (day : String)
  | reminders (day : String)
  | outreach (text : String)

namespace ReviewKey

def tag : ReviewKey → String
  | .listed _ _ => "followup-list-active"
  | .evaluated _ _ => "followup-evaluate"
  | .update _ => "followup-apply-update"
  | .updates _ => "followup-updates"
  | .reminders _ => "followup-reminders"
  | .outreach _ => "followup-open-outreach"

def text : ReviewKey → String
  | .listed day sequence | .evaluated day sequence => Host.joined [day, toString sequence]
  | .update text | .updates text | .reminders text | .outreach text => text

def id (host : Host) (key : ReviewKey) : String := host.stable key.tag [key.text]

/-- A day may hold the separator, the number after it cannot. -/
theorem numbered_inj {day otherDay : String} {sequence other : Nat}
    (same : Host.joined [day, toString sequence] = Host.joined [otherDay, toString other]) :
    day = otherDay ∧ sequence = other := by
  rw [Host.joined_two, Host.joined_two] at same
  have apart := (suffixed_inj (not_mem_decimal (by decide) sequence) (not_mem_decimal (by decide) other)).mp same
  exact ⟨apart.1, decimal_inj.mp apart.2⟩

theorem id_injective (lawful : host.Lawful) : Function.Injective (ReviewKey.id host) := by
  intro left right same
  have plain : ∀ key : ReviewKey, ':' ∉ key.tag.toList := by
    intro key
    cases key <;> simp [tag]
  obtain ⟨tags, texts⟩ := (Host.stable_inj lawful (plain left) (plain right)).mp same
  rw [Host.joined_one, Host.joined_one] at texts
  -- Different tags are different words; under one tag the texts decide.
  cases left <;> cases right <;> simp only [tag, String.reduceEq] at tags
  · obtain ⟨rfl, rfl⟩ := numbered_inj texts
    rfl
  · obtain ⟨rfl, rfl⟩ := numbered_inj texts
    rfl
  all_goals exact congrArg _ texts

/-- The keys that go with a state: numbers come up to its sequence, and while it loads no
evaluation of that number was asked for. -/
def within (state : FollowupReviewState) : ReviewKey → Prop
  | .listed _ sequence => sequence ≤ state.sequence
  | .evaluated _ sequence => sequence ≤ state.sequence ∧ (state.phase = .loading → sequence < state.sequence)
  | _ => True

/-- The keys that an event brings with the content of its evaluation. -/
def Brought (host : Host) (state : FollowupReviewState) (event : Event) : ReviewKey → Prop
  | .listed _ _ | .evaluated _ _ => False
  | .update text => text ∈ updatesBy host state event
  | .updates day => updatesToldBy host state event = some day
  | .reminders day => remindersToldBy host state event = some day
  | .outreach text => text ∈ outreachBy host state event

/-- A key that carries a number. -/
def isNumbered : ReviewKey → Bool
  | .listed _ _ | .evaluated _ _ => true
  | _ => false

end ReviewKey

/-! ## Accounting -/

/-- The keys of all effects that were asked for, and where they come from. -/
structure ReviewKeys (host : Host) (progress : Progress FollowupReviewState) (keys : List ReviewKey) : Prop where
  ids : progress.effects.map (·.id) = keys.map (ReviewKey.id host)
  distinct : keys.Nodup
  within : ∀ key ∈ keys, key.within progress.state
  brought : ∀ key ∈ keys, key.isNumbered ∨ ∃ entry ∈ progress.applied, key.Brought host entry.1 entry.2

section

variable {keys : List ReviewKey} {decision : WorkflowDecision FollowupReviewState} {evaluation : FollowupEvaluation}
  {base : FollowupReviewState} {day : String} {current : Slot} {updates : List FollowupUpdate}

theorem within_counted {next : FollowupReviewState} (counted : next.sequence = state.sequence + 1) :
    ∀ key : ReviewKey, key.within state → key.within next := by
  intro key here
  cases key with
  | listed day sequence =>
    have bound : sequence ≤ state.sequence := here
    change sequence ≤ next.sequence
    omega
  | evaluated day sequence =>
    have bound : sequence ≤ state.sequence := here.1
    exact ⟨by omega, fun _ => by omega⟩
  | update | updates | reminders | outreach => trivial

theorem within_kept {next : FollowupReviewState} (kept : next.sequence = state.sequence)
    (loading : next.phase = .loading → state.phase = .loading) :
    ∀ key : ReviewKey, key.within state → key.within next := by
  intro key here
  cases key with
  | listed day sequence =>
    have bound : sequence ≤ state.sequence := here
    change sequence ≤ next.sequence
    omega
  | evaluated day sequence =>
    obtain ⟨bound, below⟩ : sequence ≤ state.sequence ∧ (state.phase = .loading → sequence < state.sequence) := here
    refine ⟨by omega, fun now => ?_⟩
    have strict := below (loading now)
    omega
  | update | updates | reminders | outreach => trivial

namespace ReviewKeys

/-- What the event brings was not brought before. -/
theorem fresh (here : ReviewKeys host progress keys) (orderly : Unrepeated host progress event) {key : ReviewKey}
    (brought : key.Brought host progress.state event) : key ∉ keys := by
  intro listed
  rcases here.brought key listed with numbered | ⟨entry, applied, before⟩
  · cases key <;> first
      | exact brought
      | cases numbered
  · cases key with
    | listed | evaluated => exact brought
    | update text => exact orderly.updates.2 entry applied text brought before
    | updates day => exact orderly.updatesTold entry applied day brought before
    | reminders day => exact orderly.remindersTold entry applied day brought before
    | outreach text => exact orderly.outreach.2 entry applied text brought before

theorem next (here : ReviewKeys host progress keys) (added : List ReviewKey)
    (ids : decision.effects.map (·.id) = added.map (ReviewKey.id host)) (distinct : added.Nodup)
    (fresh : ∀ key ∈ added, key ∉ keys)
    (kept : ∀ key : ReviewKey, key.within progress.state → key.within decision.state)
    (within : ∀ key ∈ added, key.within decision.state)
    (brought : ∀ key ∈ added, key.isNumbered ∨ key.Brought host progress.state event) :
    ∃ keys, ReviewKeys host (progress.next event decision) keys := by
  refine ⟨keys ++ added, ?_, ?_, ?_, ?_⟩
  · rw [Progress.next, List.map_append, List.map_append, here.ids, ids]
  · exact here.distinct.append distinct fun key before now => fresh key now before
  · intro key listed
    rcases List.mem_append.mp listed with before | now
    · exact kept key (here.within key before)
    · exact within key now
  · intro key listed
    rcases List.mem_append.mp listed with before | now
    · refine (here.brought key before).imp_right ?_
      rintro ⟨entry, applied, brings⟩
      exact ⟨entry, List.mem_append_left _ applied, brings⟩
    · refine (brought key now).imp_right fun brings => ?_
      exact ⟨(progress.state, event), List.mem_append_right _ (List.mem_singleton_self _), brings⟩

/-- A step that asks for nothing. -/
theorem quiet (here : ReviewKeys host progress keys) (nothing : decision.effects = [])
    (sequence : decision.state.sequence = progress.state.sequence)
    (phase : decision.state.phase = .loading → progress.state.phase = .loading) :
    ∃ keys, ReviewKeys host (progress.next event decision) keys :=
  here.next [] (by rw [nothing]; rfl) List.nodup_nil (by simp) (within_kept sequence phase) (by simp) (by simp)

/-- A step that asks for what its event brings. -/
theorem bring (here : ReviewKeys host progress keys) (orderly : Unrepeated host progress event)
    (added : List ReviewKey) (ids : decision.effects.map (·.id) = added.map (ReviewKey.id host))
    (distinct : added.Nodup) (sequence : decision.state.sequence = progress.state.sequence)
    (phase : decision.state.phase ≠ .loading) (brought : ∀ key ∈ added, key.Brought host progress.state event) :
    ∃ keys, ReviewKeys host (progress.next event decision) keys := by
  refine here.next added ids distinct (fun key listed => here.fresh orderly (brought key listed))
    (within_kept sequence fun now => absurd now phase) ?_ fun key listed => .inr (brought key listed)
  intro key listed
  have brings := brought key listed
  cases key with
  | listed | evaluated => exact brings.elim
  | update | updates | reminders | outreach => trivial

end ReviewKeys

/-! ## Evaluations -/

theorem dayOf_eq (located : state.slot host event.occurredAt = .ok current) : dayOf host state event = current.day := by
  rw [dayOf, located]
  rfl

theorem evaluationBy_eq (report : Reports "effect.delivered" evaluateFollowups event)
    (phase : state.phase = .evaluating) (accepted : validateFollowupEvaluation host event.payload = .ok evaluation) :
    evaluationBy host state event = some evaluation := by
  rw [evaluationBy, if_pos ⟨report, phase⟩, accepted]
  rfl

theorem distributedBy_eq (source : Distributes host state event evaluation base) :
    distributedBy host state event = some evaluation := by
  unfold distributedBy
  cases source with
  | evaluated report phase accepted without =>
    have other : ¬ (Reports "effect.delivered" applyFollowupUpdate event ∧ state.phase = .applying ∧
        state.remaining event = some []) := by
      rintro ⟨-, applying, -⟩
      exact absurd (phase.symm.trans applying) (by decide)
    rw [if_neg other, evaluationBy_eq report phase accepted, Option.filter_some, if_pos (by simp [without])]
  | applied report phase last known => rw [if_pos ⟨report, phase, last⟩, known]

/-- What an evaluation is distributed under. -/
def distributionKeys (day : String) (evaluation : FollowupEvaluation) : List ReviewKey :=
  (if evaluation.updates ≠ [] then [.updates day] else []) ++
    (if evaluation.reminders ≠ [] then [.reminders day] else []) ++
    evaluation.outreachRequests.map fun item => .outreach item.identity

theorem id_stable {tag : String} {values : List String} :
    host.stable tag values = host.stable tag [Host.joined values] := by
  rw [Host.stable, Host.stable, Host.joined_one]

theorem distribution_ids : (FollowupReviewState.distribution host event day evaluation).map (·.id) =
      (distributionKeys day evaluation).map (ReviewKey.id host) := by
  have requests : ∀ items : List FollowupOutreachInput,
      (items.map (FollowupReviewState.outreachEffect host event)).map (·.id) =
        (items.map fun item => ReviewKey.outreach item.identity).map (ReviewKey.id host) := by
    intro items
    rw [List.map_map, List.map_map]
    exact List.map_congr_left fun item _ => id_stable
  simp only [FollowupReviewState.distribution, distributionKeys, List.map_append, requests]
  congr 2 <;> split <;> rfl

theorem distributionKeys_brought (source : Distributes host state event evaluation base)
    (located : state.slot host event.occurredAt = .ok current) :
    ∀ key ∈ distributionKeys current.day evaluation, key.Brought host state event := by
  have known := distributedBy_eq source
  have day := dayOf_eq located
  intro key listed
  simp only [distributionKeys, List.mem_append, List.mem_map] at listed
  rcases listed with (listed | listed) | ⟨item, asked, rfl⟩
  · split at listed
    · rename_i updates
      cases List.mem_singleton.mp listed
      change updatesToldBy host state event = some current.day
      rw [updatesToldBy, known, Option.filter_some, if_pos (by simp [updates]), Option.map_some, day]
    · cases listed
  · split at listed
    · rename_i reminders
      cases List.mem_singleton.mp listed
      change remindersToldBy host state event = some current.day
      rw [remindersToldBy, known, Option.filter_some, if_pos (by simp [reminders]), Option.map_some, day]
    · cases listed
  · change item.identity ∈ outreachBy host state event
    rw [outreachBy, known]
    exact List.mem_map_of_mem asked

theorem distributionKeys_nodup
    (source : Distributes host state event evaluation base) (distinct : (outreachBy host state event).Nodup) :
    (distributionKeys day evaluation).Nodup := by
  have questions : (evaluation.outreachRequests.map (·.identity)).Nodup := by
    rw [outreachBy, distributedBy_eq source] at distinct
    exact distinct
  have requests : (evaluation.outreachRequests.map fun item => ReviewKey.outreach item.identity).Nodup := by
    have tagged := questions.map (f := ReviewKey.outreach) fun left right same => by injection same
    rwa [List.map_map] at tagged
  unfold distributionKeys
  split_ifs <;> simp [requests]

/-- The keys of the updates of an evaluation. -/
def updateKeys (day : String) (updates : List FollowupUpdate) : List ReviewKey :=
  updates.map fun update => .update (Host.joined [update.taskId, day])

theorem updates_ids : (updates.map (state.updateEffect host event day)).map (·.id) =
      (updateKeys day updates).map (ReviewKey.id host) := by
  rw [updateKeys, List.map_map, List.map_map]
  exact List.map_congr_left fun update _ => id_stable

theorem updatesBy_eq (report : Reports "effect.delivered" evaluateFollowups event) (phase : state.phase = .evaluating)
    (accepted : validateFollowupEvaluation host event.payload = .ok evaluation)
    (located : state.slot host event.occurredAt = .ok current) :
    updatesBy host state event = evaluation.updates.map fun update => Host.joined [update.taskId, current.day] := by
  rw [updatesBy, evaluationBy_eq report phase accepted, dayOf_eq located]
  rfl

theorem updateKeys_nodup (distinct : (updates.map fun update => Host.joined [update.taskId, day]).Nodup) :
    (updateKeys day updates).Nodup := by
  have tagged := distinct.map (f := ReviewKey.update) fun left right same => by injection same
  rwa [List.map_map] at tagged

theorem ReviewKeys.step (here : ReviewKeys host progress keys) (orderly : Unrepeated host progress event)
    (reduced : progress.state.reduce host event = .ok decision) :
    ∃ keys, ReviewKeys host (progress.next event decision) keys := by
  cases review_step reduced with
  | idle | progressed | kept => exact here.quiet rfl rfl id
  | listed current timer phase located due new =>
    refine here.next [.listed current.day (progress.state.sequence + 1)] ?_ (List.nodup_singleton _) ?_
      (within_counted rfl) ?_ (by simp [ReviewKey.isNumbered])
    · exact congrArg (fun id => [id]) id_stable
    · intro key now listed
      cases List.mem_singleton.mp now
      have bound : progress.state.sequence + 1 ≤ progress.state.sequence := here.within _ listed
      omega
    · intro key now
      cases List.mem_singleton.mp now
      exact le_rfl
  | evaluating current report phase located =>
    refine here.next [.evaluated current.day progress.state.sequence] ?_ (List.nodup_singleton _) ?_
      (within_kept rfl fun now => absurd now (by simp)) ?_ (by simp [ReviewKey.isNumbered])
    · exact congrArg (fun id => [id]) id_stable
    · intro key now listed
      cases List.mem_singleton.mp now
      exact absurd ((here.within _ listed).2 phase) (lt_irrefl _)
    · intro key now
      cases List.mem_singleton.mp now
      exact ⟨le_rfl, fun loading => absurd loading (by simp)⟩
  | applying evaluation current report phase accepted updates located =>
    have brought := updatesBy_eq report phase accepted located
    refine here.bring orderly (updateKeys current.day evaluation.updates) updates_ids ?_ rfl (by simp) ?_
    · exact updateKeys_nodup (brought ▸ orderly.updates.1)
    · intro key listed
      obtain ⟨update, asked, rfl⟩ := List.mem_map.mp listed
      change Host.joined [update.taskId, current.day] ∈ updatesBy host progress.state event
      rw [brought]
      exact List.mem_map_of_mem asked
  | distributing evaluation base current source located told =>
    refine here.bring orderly (distributionKeys current.day evaluation) distribution_ids
      (distributionKeys_nodup source orderly.outreach.1) ?_ (by simp) (distributionKeys_brought source located)
    cases source <;> rfl
  | nothing evaluation base current source located =>
    refine here.quiet rfl ?_ (by simp [FollowupReviewState.finished])
    cases source <;> rfl
  | finished current outcome phase last located => exact here.quiet rfl rfl (by simp [FollowupReviewState.finished])
  | failed type phase => exact here.quiet rfl rfl (by simp [FollowupReviewState.onFailed])

end

/-- The ids of all effects a review's run asks for are distinct. -/
theorem review_run_distinct (lawful : host.Lawful) {config : FollowupReviewConfig} {clock : Timestamp}
    {definition : WorkflowDefinition FollowupReviewState}
    (built : followupReviewWorkflow host config clock = .ok definition) {events : List Event}
    (run : ((folding definition).restricted (Unrepeated host)).Run events progress) :
    (progress.effects.map (·.id)).Nodup := by
  obtain ⟨projectId, taskProjection, timeZone, scheduledHour, pollIntervalMs, rfl, -⟩ := followupReviewWorkflow_ok built
  have counted : ∃ keys, ReviewKeys host progress keys := by
    refine run.history (motive := fun _ progress => ∃ keys, ReviewKeys host progress keys) ?_ ?_
    · rintro progress ⟨input, now, decision, begun, rfl⟩
      cases begun
      exact ⟨[], rfl, List.nodup_nil, by simp, by simp⟩
    · rintro events event before after - ⟨keys, here⟩ ⟨⟨-, -, decision, reduced, rfl⟩, orderly⟩
      exact here.step orderly reduced
  obtain ⟨keys, counted⟩ := counted
  rw [counted.ids]
  exact counted.distinct.map (ReviewKey.id_injective lawful)

/-! ## One Monday -/

def reviewHost : Host :=
  .tabulated "Asia/Shanghai" 28800000
    [("2026-01-05\x001", "0f3a1b5c7d9e2f4a6b8c0d1e3f5a7b9c"), ("2026-01-05\x002", "1a4b2c6d8e0f3a5b7c9d1e2f4a6b8c0d"),
      ("task-1\x002026-01-05", "2b5c3d7e9f1a4b6c8d0e2f3a5b7c9d1e"),
      ("task-2\x002026-01-05", "3c6d4e8f0a2b5c7d9e1f3a4b6c8d0e2f")]
    []

theorem reviewHost_lawful : reviewHost.Lawful := Host.tabulated_lawful (by decide) (by decide)

def reviewConfig : FollowupReviewConfig :=
  { projectId := some "automation", taskProjection := .object [("projectId", "automation")]
    timeZone := none, scheduledHour := none, pollIntervalMs := none }

def reviewInitial : FollowupReviewState :=
  initialReview "automation" (.object [("projectId", "automation")]) "Asia/Shanghai" 10 3600000

theorem review_built : followupReviewWorkflow reviewHost reviewConfig 1767553200000 =
    .ok (reviewDefinition reviewHost reviewInitial) := by
  rfl

def reviewStart : WorkflowDecision FollowupReviewState :=
  { status := .waiting, state := reviewInitial, wakeAt := some (some 1767580200000), effects := [] }

theorem review_begun : (reviewDefinition reviewHost reviewInitial).initialise .undefined 1767580200000 =
    .ok reviewStart := by
  rfl

def oneUpdate (taskId : String) : List (String × JsValue) :=
  [("updates", .array [.object [("taskId", .string taskId), ("title", "发布计划"), ("summary", "推迟一天"),
      ("changes", .array ["截止日改为周三"]), ("reason", "依赖未就绪")]]),
    ("reminders", .array []), ("outreachRequests", .array [])]

/-- One review of the day: the tasks are listed and evaluated. -/
def reviewed (listId evaluateId taskId : String) (now : Timestamp) : List Given :=
  [.timer now now, .other (effectReport s!"followup-list-active:{listId}" listActive "delivered"
      [("projectId", "automation"), ("tasks", .array [])] now),
    .other (effectReport s!"followup-evaluate:{evaluateId}" evaluateFollowups "delivered" (oneUpdate taskId) now)]

/-- The update of the first review fails, and the second one of the day asks for another. -/
def reviewedAgain (taskId : String) : List Given :=
  reviewed "0f3a1b5c7d9e2f4a6b8c0d1e3f5a7b9c" "0f3a1b5c7d9e2f4a6b8c0d1e3f5a7b9c" "task-1" 1767580200000 ++
    [.other (effectReport "followup-apply-update:2b5c3d7e9f1a4b6c8d0e2f3a5b7c9d1e" applyFollowupUpdate "failed" []
      1767580201000)] ++
    reviewed "1a4b2c6d8e0f3a5b7c9d1e2f4a6b8c0d" "1a4b2c6d8e0f3a5b7c9d1e2f4a6b8c0d" taskId 1767583801000

/-- A review that is repeated on its day asks for the same update under the same id. -/
theorem sameDay_not_distinct : ∃ definition events progress,
    followupReviewWorkflow reviewHost reviewConfig 1767553200000 = .ok definition ∧
      ((folding definition).restricted fun progress event => Answers progress event ∧ Due progress event).Run
        events progress ∧ ¬ (progress.effects.map (·.id)).Nodup := by
  obtain ⟨progress, replayed, ids⟩ : ∃ progress, replay (reviewDefinition reviewHost reviewInitial)
        (fun progress event => Answers progress event ∧ Due progress event)
        (reviewedAgain "task-1") (.began reviewStart) = some progress ∧
      progress.effects.map (·.id) = ["followup-list-active:0f3a1b5c7d9e2f4a6b8c0d1e3f5a7b9c",
        "followup-evaluate:0f3a1b5c7d9e2f4a6b8c0d1e3f5a7b9c",
        "followup-apply-update:2b5c3d7e9f1a4b6c8d0e2f3a5b7c9d1e",
        "followup-list-active:1a4b2c6d8e0f3a5b7c9d1e2f4a6b8c0d",
        "followup-evaluate:1a4b2c6d8e0f3a5b7c9d1e2f4a6b8c0d",
        "followup-apply-update:2b5c3d7e9f1a4b6c8d0e2f3a5b7c9d1e"] :=
    ⟨_, rfl, rfl⟩
  refine ⟨_, _, progress, review_built, replay_run review_begun replayed, ?_⟩
  rw [ids]
  decide

/-- Another task is updated by the second review. -/
theorem otherTask_distinct : ∃ progress : Progress FollowupReviewState, (progress.effects.map (·.id)).Nodup ∧
    progress.effects.map (·.kind) = [listActive, evaluateFollowups, applyFollowupUpdate, listActive,
      evaluateFollowups, applyFollowupUpdate] := by
  obtain ⟨progress, replayed, kinds⟩ : ∃ progress,
      replay (reviewDefinition reviewHost reviewInitial) (Unrepeated reviewHost)
        (reviewedAgain "task-2") (.began reviewStart) = some progress ∧
      progress.effects.map (·.kind) = [listActive, evaluateFollowups, applyFollowupUpdate, listActive,
        evaluateFollowups, applyFollowupUpdate] :=
    ⟨_, rfl, rfl⟩
  exact ⟨progress, review_run_distinct reviewHost_lawful review_built (replay_run review_begun replayed), kinds⟩

end QuarkSelfAI.Followup

import QuarkSelfAI.Followup.ReviewIds

/-!
# The days of a review

A review is begun on the local day of its timer and marks the local day of its last
report as reviewed. As long as the two are one day, every workday on which a timer finds
the review scheduled has its tasks listed.
-/

namespace QuarkSelfAI.Followup

open Foundation Storage Workflow Domain

variable {host : Host} {state : FollowupReviewState} {event : Event} {progress : Progress FollowupReviewState}

/-! ## Beginning and completing -/

/-- The workday on which a timer finds a review scheduled, at its hour or later. -/
def workdayOf (host : Host) (state : FollowupReviewState) (event : Event) : Option String :=
  if event.type = "timer" ∧ state.phase = .scheduled then
    ((state.slot host event.occurredAt).toOption.filter (·.due)).map (·.day)
  else none

/-- The day on which an event begins a review. -/
def begunBy (host : Host) (state : FollowupReviewState) (event : Event) : Option String :=
  (workdayOf host state event).filter fun day => state.lastCompletedDay ≠ some day

/-- The day on which the last review was begun. -/
def begunOn (host : Host) (applied : List (FollowupReviewState × Event)) : Option String :=
  (applied.filterMap fun entry => begunBy host entry.1 entry.2).getLast?

/-- The event is the last one of a review: the last report of what was distributed, or an
evaluation with nothing to be done. -/
def completes (host : Host) (state : FollowupReviewState) (event : Event) : Bool :=
  (isOutcome event ∧ state.phase = .distributing ∧ state.remaining event = some []) ∨
    (distributedBy host state event).any fun evaluation =>
      evaluation.updates = [] ∧ evaluation.reminders = [] ∧ evaluation.outreachRequests = []

/-- The condition on one event: a review is completed on the local day it was begun on. -/
def SameDay (host : Host) (progress : Progress FollowupReviewState) (event : Event) : Prop :=
  completes host progress.state event → begunOn host progress.applied = some (dayOf host progress.state event)

instance (host : Host) (progress : Progress FollowupReviewState) (event : Event) :
    Decidable (SameDay host progress event) :=
  inferInstanceAs (Decidable (_ → _))

/-- The tasks of a day were asked for. -/
def ListedOn (host : Host) (effects : List EffectInput) (day : String) : Prop :=
  ∃ effect ∈ effects, effect.kind = listActive ∧
    ∃ sequence : Nat, effect.id = host.stable "followup-list-active" [day, toString sequence]

/-- Every workday was reviewed, and every review was marked under the day it was begun on. -/
structure Reviewed (host : Host) (progress : Progress FollowupReviewState) : Prop where
  listed : ∀ entry ∈ progress.applied, ∀ day ∈ workdayOf host entry.1 entry.2, ListedOn host progress.effects day
  marked : ∀ before state event after, progress.applied = before ++ (state, event) :: after →
    completes host state event → ∃ decision, state.reduce host event = .ok decision ∧
      decision.state.lastCompletedDay = begunOn host before

/-! ## One event -/

section

variable {current : Slot} {day : String} {evaluation : FollowupEvaluation} {base : FollowupReviewState}

theorem workdayOf_eq (timer : event.type = "timer") (phase : state.phase = .scheduled)
    (located : state.slot host event.occurredAt = .ok current) :
    workdayOf host state event = if current.due then some current.day else none := by
  rw [workdayOf, if_pos ⟨timer, phase⟩, located]
  cases due : current.due <;> simp [Except.toOption, Option.filter, due]

/-- Only a timer that finds the review scheduled has a workday. -/
theorem workdayOf_none (other : event.type = "timer" → state.phase ≠ .scheduled) :
    workdayOf host state event = none := by
  rw [workdayOf, if_neg]
  rintro ⟨timer, phase⟩
  exact other timer phase

theorem begunBy_none (other : event.type = "timer" → state.phase ≠ .scheduled) : begunBy host state event = none := by
  rw [begunBy, workdayOf_none other]
  rfl

theorem begunOn_next {applied : List (FollowupReviewState × Event)} : begunOn host (applied ++ [(state, event)]) =
      (begunBy host state event).or (begunOn host applied) := by
  rw [begunOn, List.filterMap_append]
  cases begun : begunBy host state event with
  | none => simp [begun, begunOn]
  | some day => simp [begun]

theorem distribution_nil : FollowupReviewState.distribution host event day evaluation = [] ↔
      evaluation.updates = [] ∧ evaluation.reminders = [] ∧ evaluation.outreachRequests = [] := by
  unfold FollowupReviewState.distribution
  by_cases updates : evaluation.updates = [] <;> by_cases reminders : evaluation.reminders = [] <;>
    simp [updates, reminders]

theorem distributedBy_some (distributed : distributedBy host state event = some evaluation) :
    ∃ base, Distributes host state event evaluation base := by
  unfold distributedBy at distributed
  split at distributed
  · rename_i applied
    exact ⟨_, .applied applied.1 applied.2.1 applied.2.2 distributed⟩
  · obtain ⟨evaluated, without⟩ := Option.filter_eq_some_iff.mp distributed
    unfold evaluationBy at evaluated
    split at evaluated
    · rename_i report
      cases accepted : validateFollowupEvaluation host event.payload with
      | error message =>
        rw [accepted] at evaluated
        cases evaluated
      | ok other =>
        rw [accepted] at evaluated
        cases evaluated
        exact ⟨_, .evaluated report.1 report.2 accepted (of_decide_eq_true without)⟩
    · cases evaluated

theorem Distributes.phase (source : Distributes host state event evaluation base) : state.phase ≠ .scheduled := by
  cases source with
  | evaluated _ phase | applied _ phase => simp [phase]

theorem Distributes.lastCompletedDay
    (source : Distributes host state event evaluation base) : base.lastCompletedDay = state.lastCompletedDay := by
  cases source <;> rfl

theorem completes_distributes (source : Distributes host state event evaluation base)
    (untold : FollowupReviewState.distribution host event day evaluation = []) : completes host state event = true := by
  simp [completes, distributedBy_eq source, distribution_nil.mp untold]

/-- An event that reports nothing last and distributes nothing completes nothing. -/
theorem unfinished (unreported : state.phase = .distributing → isOutcome event → state.remaining event ≠ some [])
    (undistributed : ∀ evaluation base, ¬ Distributes host state event evaluation base) :
    completes host state event = false := by
  have none : distributedBy host state event = none := by
    rw [Option.eq_none_iff_forall_ne_some]
    intro evaluation distributed
    obtain ⟨base, source⟩ := distributedBy_some distributed
    exact undistributed evaluation base source
  simp only [completes, none, Option.any_none, Bool.false_eq_true, or_false, decide_eq_false_iff_not]
  rintro ⟨outcome, phase, last⟩
  exact unreported phase outcome last

theorem ListedOn.mono {effects more : List EffectInput} (listed : ListedOn host effects day) :
    ListedOn host (effects ++ more) day := by
  obtain ⟨effect, asked, rest⟩ := listed
  exact ⟨effect, List.mem_append_left _ asked, rest⟩

end

/-! ## Runs -/

/-- What holds of a review on its way: a day is marked, and a review is under way, only
where the tasks of that day were asked for. -/
structure OnDay (host : Host) (progress : Progress FollowupReviewState) : Prop where
  reviewed : Reviewed host progress
  completed : ∀ day ∈ progress.state.lastCompletedDay, ListedOn host progress.effects day
  underway : progress.state.phase ≠ .scheduled →
    ∃ day, begunOn host progress.applied = some day ∧ ListedOn host progress.effects day

namespace OnDay

variable {decision : WorkflowDecision FollowupReviewState}

/-- The clauses of `Reviewed` after one more event. -/
theorem reviewedNext (here : OnDay host progress) (reduced : progress.state.reduce host event = .ok decision)
    (listed : ∀ day ∈ workdayOf host progress.state event,
      ListedOn host (progress.effects ++ decision.effects) day) (marked : completes host progress.state event →
      decision.state.lastCompletedDay = begunOn host progress.applied) :
    Reviewed host (progress.next event decision) := by
  refine ⟨?_, ?_⟩
  · intro entry given day due
    rcases List.mem_append.mp given with before | now
    · exact (here.reviewed.listed entry before day due).mono
    · cases List.mem_singleton.mp now
      exact listed day due
  · intro before state event' after split completed
    rcases List.append_eq_append_iff.mp split with ⟨longer, rfl, rest⟩ | ⟨longer, known, rest⟩
    · -- The entry is the new one, or stands after it.
      cases longer with
      | nil =>
        rw [List.nil_append] at rest
        cases rest
        rw [List.append_nil]
        exact ⟨decision, reduced, marked completed⟩
      | cons entry longer =>
        have impossible := congrArg List.length rest
        simp at impossible
    · cases longer with
      | nil =>
        rw [List.nil_append] at rest
        cases rest
        rw [List.append_nil] at known
        rw [← known]
        exact ⟨decision, reduced, marked completed⟩
      | cons entry longer =>
        cases rest
        exact here.reviewed.marked before state event' longer known completed

/-- An event that leaves a review under way keeps its day. -/
theorem carries (here : OnDay host progress) (reduced : progress.state.reduce host event = .ok decision)
    (phase : progress.state.phase ≠ .scheduled) (unfinished : completes host progress.state event = false)
    (same : decision.state.lastCompletedDay = progress.state.lastCompletedDay) :
    OnDay host (progress.next event decision) := by
  refine ⟨here.reviewedNext reduced ?_ ?_, ?_, ?_⟩
  · rw [workdayOf_none fun _ => phase]
    intro day due
    cases due
  · intro completed
    rw [unfinished] at completed
    cases completed
  · intro day completed
    exact (here.completed day (same ▸ completed)).mono
  · intro _
    obtain ⟨day, begun, listed⟩ := here.underway phase
    refine ⟨day, ?_, listed.mono⟩
    rw [Progress.next, begunOn_next, begunBy_none fun _ => phase]
    exact begun

/-- A completed review marks the day it was begun on. -/
theorem marks (here : OnDay host progress) (reduced : progress.state.reduce host event = .ok decision)
    (phase : progress.state.phase ≠ .scheduled) {current : Slot}
    (located : progress.state.slot host event.occurredAt = .ok current)
    (completed : completes host progress.state event) (sameDay : SameDay host progress event)
    (scheduled : decision.state.phase = .scheduled) (day : decision.state.lastCompletedDay = some current.day) :
    OnDay host (progress.next event decision) := by
  have began : begunOn host progress.applied = some current.day := by
    rw [sameDay completed, dayOf_eq located]
  refine ⟨here.reviewedNext reduced ?_ fun _ => day.trans began.symm, ?_, ?_⟩
  · rw [workdayOf_none fun _ => phase]
    intro day due
    cases due
  · intro marked last
    obtain ⟨listedDay, begun, listed⟩ := here.underway phase
    have same : marked = listedDay := Option.some_inj.mp
      ((last.symm.trans (day.trans began.symm)).trans begun)
    exact same ▸ listed.mono
  · intro underway
    exact absurd scheduled underway

/-- An event that finds the review scheduled may begin one. -/
theorem begins (here : OnDay host progress) (reduced : progress.state.reduce host event = .ok decision)
    (phase : progress.state.phase = .scheduled) (listed : ∀ day ∈ workdayOf host progress.state event,
      ListedOn host (progress.effects ++ decision.effects) day)
    (same : decision.state.lastCompletedDay = progress.state.lastCompletedDay)
    (underway : decision.state.phase ≠ .scheduled → ∃ day ∈ begunBy host progress.state event,
      ListedOn host (progress.effects ++ decision.effects) day) : OnDay host (progress.next event decision) := by
  refine ⟨here.reviewedNext reduced listed ?_, ?_, ?_⟩
  · intro completed
    rw [unfinished (by simp [phase])] at completed
    · cases completed
    · rintro evaluation base source
      exact source.phase phase
  · intro day completed
    exact (here.completed day (same ▸ completed)).mono
  · intro busy
    obtain ⟨day, begun, listed⟩ := underway busy
    refine ⟨day, ?_, listed⟩
    rw [Progress.next, begunOn_next, begun]
    rfl

theorem step (here : OnDay host progress) (sameDay : SameDay host progress event)
    (reduced : progress.state.reduce host event = .ok decision) : OnDay host (progress.next event decision) := by
  cases review_step reduced with
  | idle current timer phase located idle =>
    refine here.begins reduced phase ?_ rfl fun busy => absurd phase busy
    rw [workdayOf_eq timer phase located]
    intro day due
    split at due
    · rename_i workday
      cases due
      rcases idle with early | done
      · exact absurd workday early
      · exact (here.completed _ done).mono
    · cases due
  | listed current timer phase located due new =>
    have workday : workdayOf host progress.state event = some current.day := by
      rw [workdayOf_eq timer phase located, if_pos due]
    have asked : ListedOn host (progress.effects ++ [FollowupReviewState.listEffect host
        { progress.state with phase := .loading, sequence := progress.state.sequence + 1 }
          event current.day]) current.day :=
      ⟨_, List.mem_append_right _ (List.mem_singleton_self _), rfl, _, rfl⟩
    refine here.begins reduced phase ?_ rfl fun _ => ⟨current.day, ?_, asked⟩
    · rw [workday]
      intro day same
      cases same
      exact asked
    · rw [begunBy, workday, Option.filter_some, if_pos (by simpa using new)]
      rfl
  | evaluating current report phase located =>
    refine here.carries reduced (by simp [phase]) (unfinished (by simp [phase]) ?_) rfl
    rintro evaluation base (⟨-, other, -, -⟩ | ⟨-, other, -, -⟩)
    all_goals exact absurd (phase.symm.trans other) (by decide)
  | applying evaluation current report phase accepted updates located =>
    refine here.carries reduced (by simp [phase]) (unfinished (by simp [phase]) ?_) rfl
    rintro other base (⟨-, -, known, without⟩ | ⟨-, applying, -, -⟩)
    · cases accepted.symm.trans known
      exact updates without
    · exact absurd (phase.symm.trans applying) (by decide)
  | distributing evaluation base current source located told =>
    refine here.carries reduced source.phase ?_ source.lastCompletedDay
    have untold : ¬ (evaluation.updates = [] ∧ evaluation.reminders = [] ∧ evaluation.outreachRequests = []) :=
      fun nothing => told (distribution_nil.mpr nothing)
    have phase : progress.state.phase ≠ .distributing := by
      cases source with
      | evaluated _ phase | applied _ phase => simp [phase]
    simp [completes, phase, distributedBy_eq source, untold]
  | nothing evaluation base current source located untold =>
    exact here.marks reduced source.phase located (completes_distributes source untold) sameDay rfl rfl
  | progressed pending outcome phase left more =>
    have busy : progress.state.phase ≠ .scheduled := by
      rcases phase with phase | phase <;> simp [phase]
    have unreported : progress.state.remaining event ≠ some [] := by
      rw [left]
      simpa using more
    refine here.carries reduced busy (unfinished (fun _ _ => unreported) ?_) rfl
    rintro evaluation base (⟨-, evaluating, -, -⟩ | ⟨-, -, last, -⟩)
    · rcases phase with phase | phase
      all_goals exact absurd (phase.symm.trans evaluating) (by decide)
    · exact unreported last
  | finished current outcome phase last located =>
    refine here.marks reduced (by simp [phase]) located ?_ sameDay rfl rfl
    simp [completes, outcome, phase, last]
  | failed type phase =>
    have busy : progress.state.phase ≠ .scheduled := by
      rcases phase with phase | phase | phase <;> simp [phase]
    refine here.carries reduced busy (unfinished ?_ ?_) rfl
    · rcases phase with phase | phase | phase <;> simp [phase]
    · rintro evaluation base (⟨report, -, -, -⟩ | ⟨report, -, -, -⟩)
      all_goals exact absurd (type.symm.trans report.1) (by decide)
  | kept untimed unreported unfailed undistributed =>
    by_cases phase : progress.state.phase = .scheduled
    · refine here.begins reduced phase ?_ rfl fun busy => absurd phase busy
      rw [workdayOf_none untimed]
      intro day due
      cases due
    · refine here.carries reduced phase (unfinished ?_ undistributed) rfl
      intro distributing outcome
      rw [unreported distributing outcome]
      simp

end OnDay

/-- In every run whose reviews are completed on the day they were begun on, every workday on
which a timer finds the review scheduled is reviewed. -/
theorem review_run_everyWorkday {config : FollowupReviewConfig} {clock : Timestamp}
    {definition : WorkflowDefinition FollowupReviewState}
    (built : followupReviewWorkflow host config clock = .ok definition) {events : List Event}
    (run : ((folding definition).restricted (SameDay host)).Run events progress) : Reviewed host progress := by
  obtain ⟨projectId, taskProjection, timeZone, scheduledHour, pollIntervalMs, rfl, -⟩ := followupReviewWorkflow_ok built
  have onDay : OnDay host progress := by
    refine run.history (motive := fun _ progress => OnDay host progress) ?_ ?_
    · rintro progress ⟨input, now, decision, begun, rfl⟩
      cases begun
      refine ⟨⟨?_, ?_⟩, ?_, fun busy => absurd rfl busy⟩
      · intro entry given
        cases given
      · intro before state event after split
        simp [Progress.began] at split
      · intro day completed
        cases completed
    · rintro events event before after - here ⟨⟨-, -, decision, reduced, rfl⟩, sameDay⟩
      exact here.step sameDay reduced
  exact onDay.reviewed

/-! ## Monday night -/

def nightConfig : FollowupReviewConfig :=
  { reviewConfig with pollIntervalMs := some 43200000 }

def nightInitial : FollowupReviewState :=
  { reviewInitial with pollIntervalMs := 43200000 }

theorem night_built : followupReviewWorkflow reviewHost nightConfig 1767553200000 =
    .ok (reviewDefinition reviewHost nightInitial) := by
  rfl

/-- A review begun on Monday at 23:00, with nothing to be done. -/
def nightStart : WorkflowDecision FollowupReviewState :=
  { status := .waiting, state := nightInitial, wakeAt := some (some 1767625200000), effects := [] }

theorem night_begun : (reviewDefinition reviewHost nightInitial).initialise .undefined 1767625200000 =
    .ok nightStart := by
  rfl

def nothingToDo : List (String × JsValue) :=
  [("updates", .array []), ("reminders", .array []), ("outreachRequests", .array [])]

def nightReview (evaluatedAt : Timestamp) : List Given :=
  [.timer 1767625200000 1767625200000,
    .other (effectReport "followup-list-active:0f3a1b5c7d9e2f4a6b8c0d1e3f5a7b9c" listActive "delivered"
      [("projectId", "automation"), ("tasks", .array [])] 1767627000000),
    .other (effectReport "followup-evaluate:0f3a1b5c7d9e2f4a6b8c0d1e3f5a7b9c" evaluateFollowups "delivered"
      nothingToDo evaluatedAt)]

/-- The evaluation arrives a second after midnight: at noon the review of Tuesday is taken to
be done, and the next timer is Wednesday's. -/
theorem midnight_not_reviewed : ∃ definition events progress,
    followupReviewWorkflow reviewHost nightConfig 1767553200000 = .ok definition ∧
      ((folding definition).restricted fun progress event => Answers progress event ∧ Due progress event).Run
        events progress ∧ Settled progress ∧ progress.wakeAt = some 1767758401000 ∧
      ¬ Reviewed reviewHost progress := by
  obtain ⟨progress, replayed, settled, wakes, tuesday, unlisted⟩ : ∃ progress,
      replay (reviewDefinition reviewHost nightInitial)
        (fun progress event => Answers progress event ∧ Due progress event)
        (nightReview 1767628801000 ++ [.timer 1767672001000 1767672001000, .timer 1767715201000 1767715201000])
        (.began nightStart) = some progress ∧
      Settled progress ∧ progress.wakeAt = some 1767758401000 ∧
      (∃ entry ∈ progress.applied, workdayOf reviewHost entry.1 entry.2 = some "2026-01-06") ∧
      (∀ effect ∈ progress.effects, effect.kind = listActive →
        effect.id = reviewHost.stable "followup-list-active" ["2026-01-05", "1"]) :=
    ⟨_, rfl, by decide, rfl, by decide, by decide⟩
  refine ⟨_, _, progress, night_built, replay_run night_begun replayed, settled, wakes, ?_⟩
  intro reviewed
  obtain ⟨entry, given, due⟩ := tuesday
  obtain ⟨effect, asked, kind, sequence, id⟩ := reviewed.listed entry given _ due
  have same := id.symm.trans (unlisted effect asked kind)
  obtain ⟨-, texts⟩ := (Host.stable_inj reviewHost_lawful (by decide) (by decide)).mp same
  rw [Host.joined_two, Host.joined_two] at texts
  exact absurd ((tagged_inj (by decide) (by decide)).mp texts).1 (by decide)

/-- The same evaluation a minute before midnight leaves Tuesday to its own review. -/
theorem evening_reviewed : ∃ progress, Reviewed reviewHost progress ∧
    progress.state.lastCompletedDay = some "2026-01-05" := by
  obtain ⟨progress, replayed, completed⟩ : ∃ progress,
      replay (reviewDefinition reviewHost nightInitial) (SameDay reviewHost) (nightReview 1767628740000)
        (.began nightStart) = some progress ∧
      progress.state.lastCompletedDay = some "2026-01-05" :=
    ⟨_, rfl, rfl⟩
  exact ⟨progress, review_run_everyWorkday night_built (replay_run night_begun replayed), completed⟩

end QuarkSelfAI.Followup

import QuarkSelfAI.TaskMaintenance.Contracts

/-!
# Streaks of failures and their notices

The overdue monitor and the cleanup count failures alike: a streak that grows to the
threshold is told once, and the first success after it is told too. `Noticed` is the
invariant by which neither notice is sent twice for one beginning.
-/

namespace QuarkSelfAI.TaskMaintenance

open Foundation Storage Workflow

variable {State : Type}

/-- The streak that a failure tells of, by its beginning. -/
def tellings (streak : Option FailureState) (now : Timestamp) (threshold : Nat) : List Timestamp :=
  if shouldNotify (failure streak now) threshold then [(failure streak now).startedAt] else []

/-- The streak that a success recovers from, by its beginning. -/
def recoveries : Option FailureState → List Timestamp
  | none => []
  | some current => if current.notified then [current.startedAt] else []

theorem tellings_distinct {streak : Option FailureState} {now : Timestamp} {threshold : Nat} :
    (tellings streak now threshold).Nodup := by
  unfold tellings
  split <;> simp

theorem recoveries_distinct {streak : Option FailureState} : (recoveries streak).Nodup := by
  unfold recoveries
  split
  · simp
  · split <;> simp

theorem mem_recoveries {streak : Option FailureState} {startedAt : Timestamp} : startedAt ∈ recoveries streak ↔
      ∃ current, streak = some current ∧ current.notified ∧ current.startedAt = startedAt := by
  cases streak with
  | none => simp [recoveries]
  | some current =>
    rw [recoveries]
    by_cases notified : current.notified
    · rw [if_pos notified, List.mem_singleton]
      constructor
      · rintro rfl
        exact ⟨current, rfl, notified, rfl⟩
      · rintro ⟨_, same, _, rfl⟩
        cases same
        rfl
    · rw [if_neg notified]
      refine ⟨fun listed => absurd listed List.not_mem_nil, ?_⟩
      rintro ⟨_, same, known, _⟩
      cases same
      exact absurd known notified

/-! ## Monitors -/

/-- What a workflow watches: the reports of one effect, and the streak of their failures. -/
structure Monitor (State : Type) where
  kind : String
  streak : State → Option FailureState
  threshold : State → Nat

namespace Monitor

variable {monitor : Monitor State} {state : State} {event : Event} {history : List (State × Event)}

def reports (monitor : Monitor State) (type : String) (event : Event) : Bool :=
  event.type = type ∧ effectKind event = some monitor.kind

theorem reports_type {type : String} (report : monitor.reports type event) : event.type = type :=
  (of_decide_eq_true report).1

theorem reports_other {type other : String} (report : event.type = other) (different : other ≠ type) :
    monitor.reports type event = false := by
  simp [reports, report, different]

/-- The streak that an event tells of, by its beginning. -/
def tells (monitor : Monitor State) (state : State) (event : Event) : List Timestamp :=
  if monitor.reports "effect.failed" event then
    tellings (monitor.streak state) event.occurredAt (monitor.threshold state)
  else []

/-- The streaks that were told of, by their beginnings. -/
def toldStreaks (monitor : Monitor State) (history : List (State × Event)) : List Timestamp :=
  history.flatMap fun entry => monitor.tells entry.1 entry.2

theorem toldStreaks_next : monitor.toldStreaks (history ++ [(state, event)]) =
    monitor.toldStreaks history ++ monitor.tells state event := by
  simp [toldStreaks]

theorem tells_other (unfailed : monitor.reports "effect.failed" event = false) : monitor.tells state event = [] := by
  simp [tells, unfailed]

theorem tells_failed (report : monitor.reports "effect.failed" event) : monitor.tells state event =
    tellings (monitor.streak state) event.occurredAt (monitor.threshold state) := by
  simp [tells, report]

end Monitor

/-! ## Notices -/

/-- The notices sent so far go back to told streaks, and a told streak that still runs
was not recovered from. -/
structure Noticed (failedAt recoveredAt : Timestamp → Prop) (streak : Option FailureState)
    (told : List Timestamp) : Prop where
  running : ∀ startedAt ∈ recoveries streak, startedAt ∈ told ∧ ¬ recoveredAt startedAt
  begun : ∀ startedAt, failedAt startedAt → startedAt ∈ told
  recovered : ∀ startedAt, recoveredAt startedAt → startedAt ∈ told

namespace Noticed

variable {failedAt recoveredAt : Timestamp → Prop} {streak : Option FailureState}
  {told : List Timestamp}

theorem of_iff {failedNow recoveredNow : Timestamp → Prop} (here : Noticed failedAt recoveredAt streak told)
    (failed : ∀ startedAt, failedNow startedAt ↔ failedAt startedAt)
    (recovered : ∀ startedAt, recoveredNow startedAt ↔ recoveredAt startedAt) :
    Noticed failedNow recoveredNow streak told := by
  rw [funext fun startedAt => propext (failed startedAt), funext fun startedAt => propext (recovered startedAt)]
  exact here

/-- After a success no streak runs; the one told of is recovered from. -/
theorem settled (here : Noticed failedAt recoveredAt streak told) (sent : List Timestamp)
    (fewer : ∀ startedAt ∈ sent, startedAt ∈ recoveries streak) :
    Noticed failedAt (fun startedAt => recoveredAt startedAt ∨ startedAt ∈ sent) none told := by
  refine ⟨by simp [recoveries], here.begun, ?_⟩
  rintro startedAt (before | now)
  · exact here.recovered startedAt before
  · exact (here.running startedAt (fewer startedAt now)).1

/-- After a failure the streak goes on; the one it tells of is new to `told`. -/
theorem failing (here : Noticed failedAt recoveredAt streak told) {now : Timestamp} {threshold : Nat}
    (new : ∀ startedAt ∈ tellings streak now threshold, startedAt ∉ told) :
    Noticed (fun startedAt => failedAt startedAt ∨ startedAt ∈ tellings streak now threshold)
      recoveredAt (some (failed streak now threshold).1) (told ++ tellings streak now threshold) := by
  refine ⟨?_, ?_, fun startedAt used => List.mem_append_left _ (here.recovered startedAt used)⟩
  · intro startedAt kept
    obtain ⟨_, same, notified, rfl⟩ := mem_recoveries.mp kept
    cases same
    rw [failed_notified, Bool.or_eq_true] at notified
    rw [failed_startedAt]
    by_cases tells : shouldNotify (failure streak now) threshold
    · have listed : (failure streak now).startedAt ∈ tellings streak now threshold := by
        simp [tellings, tells]
      exact ⟨List.mem_append_right _ listed, fun used => new _ listed (here.recovered _ used)⟩
    · obtain ⟨before, running, known, start⟩ := failure_notified (notified.resolve_right tells)
      have listed := here.running _ (mem_recoveries.mpr ⟨before, running, known, start⟩)
      exact ⟨List.mem_append_left _ listed.1, listed.2⟩
  · rintro startedAt (before | now)
    · exact List.mem_append_left _ (here.begun startedAt before)
    · exact List.mem_append_right _ now

end Noticed

end QuarkSelfAI.TaskMaintenance

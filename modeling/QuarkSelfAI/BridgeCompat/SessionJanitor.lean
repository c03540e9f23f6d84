import Mathlib.Algebra.Group.Int.Defs
import QuarkSelfAI.Foundation.Batch
import QuarkSelfAI.Foundation.IsoTime

/-!
# The clean-up of research sessions

One sweep deletes the archived sessions whose time is over, then archives the sessions whose task is done.
Each of the two passes takes the first twenty candidates in the order of the list. The sweeps run one after
the other at times spaced by a day, and what Codex, the runner and the task service answer is fixed; the
notices to the owner are left out.
-/

namespace QuarkSelfAI.BridgeCompat

open Foundation

def hourMs : Int := 60 * 60 * 1000

def dayMs : Int := 24 * hourMs

/-- A row of `mentionResearchSessions`. -/
structure ResearchSession where
  sessionId : String
  taskId : Option String
  archivedAt : Option Timestamp
  archiveFailureCount : Nat
  archiveNextRetryAt : Option Timestamp
  deletedAt : Option Timestamp
  deleteFailureCount : Nat
  deleteNextRetryAt : Option Timestamp

/-- `getCodexSessionState`: `null` when the state cannot be read. -/
inductive CodexSession where
  | unreadable
  | missing
  | active
  | archived
deriving DecidableEq

/-- What the sweep asks others, with the answers that they give. -/
structure JanitorHost where
  codex : String → CodexSession
  isRunning : String → Bool
  /-- A clarification names the session. -/
  waiting : String → Bool
  completed : String → Bool
  /-- The exit code of `codex archive` and of `codex delete` is zero. -/
  archives : String → Bool
  deletes : String → Bool
  deleteAfterMs : Int

namespace ResearchSession

variable (host : JanitorHost) (now : Timestamp)

/-- The wait before the next attempt, after a number of failures. -/
def retryDelayMs (count : Nat) : Int := min dayMs (hourMs * 2 ^ min (count - 1) 5)

def retryDue (nextRetryAt : Option Timestamp) : Bool :=
  match nextRetryAt with
  | none => true
  | some nextRetryAt => nextRetryAt ≤ now

/-! ## Deletion -/

/-- The candidates of `deleteExpired`. -/
def expired (session : ResearchSession) : Bool :=
  match session.archivedAt with
  | none => false
  | some archivedAt =>
    session.deletedAt = none ∧ host.isRunning session.sessionId = false ∧ host.deleteAfterMs ≤ now - archivedAt ∧
      retryDue now session.deleteNextRetryAt = true

def markDeleted (session : ResearchSession) : ResearchSession :=
  { session with deletedAt := some now, deleteFailureCount := 0, deleteNextRetryAt := none }

def recordDeleteFailure (session : ResearchSession) : ResearchSession :=
  let count := session.deleteFailureCount + 1
  { session with deleteFailureCount := count, deleteNextRetryAt := some (now + retryDelayMs count) }

def delete (session : ResearchSession) : ResearchSession :=
  match host.codex session.sessionId with
  | .missing => session.markDeleted now
  | .unreadable => session.recordDeleteFailure now
  | .active => session
  -- After a failed command the state is read again, and the answer is the same.
  | .archived => if host.deletes session.sessionId then session.markDeleted now else session.recordDeleteFailure now

/-! ## Archiving -/

def isWaiting (session : ResearchSession) : Bool := host.waiting session.sessionId

def isCompleted (session : ResearchSession) : Bool := session.taskId.any host.completed

/-- The candidates of the second pass. -/
def unarchived (session : ResearchSession) : Bool :=
  session.archivedAt = none ∧ session.taskId ≠ none ∧ session.isWaiting host = false ∧
    host.isRunning session.sessionId = false ∧ retryDue now session.archiveNextRetryAt = true

def markArchived (session : ResearchSession) : ResearchSession :=
  { session with archivedAt := some now, archiveFailureCount := 0, archiveNextRetryAt := none }

def recordFailure (session : ResearchSession) : ResearchSession :=
  let count := session.archiveFailureCount + 1
  { session with archiveFailureCount := count, archiveNextRetryAt := some (now + retryDelayMs count) }

def archive (session : ResearchSession) : ResearchSession :=
  if host.codex session.sessionId = .archived then session.markArchived now
  else if session.isCompleted host = false then session
  else if host.archives session.sessionId then session.markArchived now
  else session.recordFailure now

end ResearchSession

open ResearchSession

/-- `.slice(0, 20)`. -/
def sweepLimit : Nat := 20

def deleteExpired (host : JanitorHost) (now : Timestamp) (sessions : List ResearchSession) : List ResearchSession :=
  handleFirst (expired host now) (delete host now) sweepLimit sessions

def archiveCompleted (host : JanitorHost) (now : Timestamp) (sessions : List ResearchSession) : List ResearchSession :=
  handleFirst (unarchived host now) (archive host now) sweepLimit sessions

def sweep (host : JanitorHost) (now : Timestamp) (sessions : List ResearchSession) : List ResearchSession :=
  archiveCompleted host now (deleteExpired host now sessions)

/-- The time of a sweep. -/
def sweepAt (start : Timestamp) (count : Nat) : Timestamp := start + count * dayMs

/-- The sessions after a number of sweeps. -/
def sweeps (host : JanitorHost) (start : Timestamp) (sessions : List ResearchSession) : Nat → List ResearchSession
  | 0 => sessions
  | count + 1 => sweep host (sweepAt start count) (sweeps host start sessions count)

/-! ## What is to hold -/

namespace ResearchSession

/-- A session that is to be archived. -/
def Done (host : JanitorHost) (session : ResearchSession) : Prop :=
  session.archivedAt = none ∧ session.isCompleted host = true ∧ session.isWaiting host = false ∧
    host.isRunning session.sessionId = false

/-- A session that is to be deleted. -/
def Over (host : JanitorHost) (now : Timestamp) (session : ResearchSession) : Prop :=
  session.deletedAt = none ∧ host.isRunning session.sessionId = false ∧
    (∃ archivedAt, session.archivedAt = some archivedAt ∧ host.deleteAfterMs ≤ now - archivedAt) ∧
    (host.codex session.sessionId = .archived ∨ host.codex session.sessionId = .missing)

/-- A candidate that the second pass leaves as it is. -/
def stays (host : JanitorHost) (session : ResearchSession) : Bool :=
  host.codex session.sessionId ≠ .archived ∧ session.isCompleted host = false

/-- A candidate that the first pass does not delete. -/
def remains (host : JanitorHost) (session : ResearchSession) : Bool :=
  host.codex session.sessionId = .active ∨ host.codex session.sessionId = .unreadable

end ResearchSession

/-- Nothing is left to be archived or deleted. -/
def Clean (host : JanitorHost) (now : Timestamp) (sessions : List ResearchSession) : Prop :=
  ∀ session ∈ sessions, ¬ session.Done host ∧ ¬ session.Over host now

/-- From some sweep on nothing is left to be archived or deleted. -/
def CleansUp (host : JanitorHost) (start : Timestamp) (sessions : List ResearchSession) : Prop :=
  ∃ enough, ∀ count, enough ≤ count → Clean host (sweepAt start count) (sweeps host start sessions count)

/-- A session is to be handled and has twenty candidates before it that a sweep handles without effect. -/
def Starved (host : JanitorHost) (now : Timestamp) (sessions : List ResearchSession) : Prop :=
  ∃ before session after, sessions = before ++ session :: after ∧
    (session.Done host ∧ sweepLimit ≤ before.countP (fun other => other.unarchived host now && other.stays host) ∨
      session.Over host now ∧ sweepLimit ≤ before.countP (fun other => other.expired host now && other.remains host))

/-- No command of the command line fails. -/
def Succeeding (host : JanitorHost) : Prop := ∀ sessionId, host.archives sessionId = true ∧ host.deletes sessionId = true

section Passes

variable {host : JanitorHost} {now start : Timestamp} {session : ResearchSession} {sessions : List ResearchSession}
  {limit : Timestamp} {nextRetryAt : Option Timestamp}

namespace ResearchSession

@[simp] theorem delete_archivedAt : (session.delete host now).archivedAt = session.archivedAt := by
  unfold delete
  split
  · rfl
  · rfl
  · rfl
  · split <;> rfl

@[simp] theorem archive_deletedAt : (session.archive host now).deletedAt = session.deletedAt := by
  unfold archive
  split
  · rfl
  · split
    · rfl
    · split <;> rfl

theorem deletedAt_of_delete (undeleted : (session.delete host now).deletedAt = none) : session.deletedAt = none := by
  unfold delete at undeleted
  split at undeleted
  · cases undeleted
  · exact undeleted
  · exact undeleted
  · split at undeleted
    · cases undeleted
    · exact undeleted

theorem archivedAt_of_archive (kept : (session.archive host now).archivedAt = none) : session.archivedAt = none := by
  unfold archive at kept
  split at kept
  · cases kept
  · split at kept
    · exact kept
    · split at kept
      · cases kept
      · exact kept

/-- A candidate that stays is left as it is. -/
theorem archive_stays (stays : session.stays host = true) : session.archive host now = session := by
  obtain ⟨active, open_⟩ : host.codex session.sessionId ≠ .archived ∧ session.isCompleted host = false := by
    simpa [ResearchSession.stays] using stays
  rw [archive, if_neg active, if_pos open_]

theorem archive_done (succeeds : Succeeding host) (goes : session.stays host = false) :
    session.archive host now = session.markArchived now := by
  unfold archive
  split
  · rfl
  · rename_i active
    split
    · rename_i pending
      simp [ResearchSession.stays, active, pending] at goes
    · rw [if_pos (succeeds _).1]

theorem delete_done (succeeds : Succeeding host) (goes : session.remains host = false) :
    session.delete host now = session.markDeleted now := by
  unfold delete
  split
  · rfl
  · rename_i unreadable
    simp [remains, unreadable] at goes
  · rename_i active
    simp [remains, active] at goes
  · rw [if_pos (succeeds _).2]

theorem unarchived_archivedAt (selected : session.unarchived host now = true) : session.archivedAt = none := by
  simp only [unarchived, decide_eq_true_eq] at selected
  exact selected.1

theorem expired_archivedAt (selected : session.expired host now = true) : session.archivedAt ≠ none := by
  intro none
  simp [expired, none] at selected

end ResearchSession

theorem expired_undeleted (selected : session.expired host now = true) : session.deletedAt = none := by
  unfold expired at selected
  split at selected
  · cases selected
  · simp only [decide_eq_true_eq] at selected
    exact selected.1

/-- The two numbers that the sweeps bring down. -/
def pending (sessions : List ResearchSession) : Nat :=
  sessions.countP (fun session => session.archivedAt = none) + sessions.countP (fun session => session.deletedAt = none)

theorem deleteExpired_pending (host : JanitorHost) (now : Timestamp) (sessions : List ResearchSession) :
    (deleteExpired host now sessions).countP (fun session => session.archivedAt = none) ≤
        sessions.countP (fun session => session.archivedAt = none) ∧
      (deleteExpired host now sessions).countP (fun session => session.deletedAt = none) ≤
        sessions.countP (fun session => session.deletedAt = none) := by
  refine ⟨handleFirst_le (fun item kept => ?_) _ _, handleFirst_le (fun item kept => ?_) _ _⟩
  · simpa using kept
  · exact decide_eq_true (deletedAt_of_delete (of_decide_eq_true kept))

theorem archiveCompleted_pending (host : JanitorHost) (now : Timestamp) (sessions : List ResearchSession) :
    (archiveCompleted host now sessions).countP (fun session => session.archivedAt = none) ≤
        sessions.countP (fun session => session.archivedAt = none) ∧
      (archiveCompleted host now sessions).countP (fun session => session.deletedAt = none) ≤
        sessions.countP (fun session => session.deletedAt = none) := by
  refine ⟨handleFirst_le (fun item kept => ?_) _ _, handleFirst_le (fun item kept => ?_) _ _⟩
  · exact decide_eq_true (archivedAt_of_archive (of_decide_eq_true kept))
  · simpa using kept

theorem sweep_pending (host : JanitorHost) (now : Timestamp) (sessions : List ResearchSession) :
    pending (sweep host now sessions) ≤ pending sessions := by
  obtain ⟨archived, deleted⟩ := deleteExpired_pending host now sessions
  obtain ⟨later, last⟩ := archiveCompleted_pending host now (deleteExpired host now sessions)
  unfold pending sweep
  omega

/-! ## Starvation lasts -/

/-- A session that is to be archived, with twenty candidates before it that stay. -/
def ArchiveStarved (host : JanitorHost) (now : Timestamp) (sessions : List ResearchSession) : Prop :=
  ∃ before session after, sessions = before ++ session :: after ∧ session.Done host ∧
    sweepLimit ≤ before.countP (fun other => other.unarchived host now && other.stays host)

/-- A session that is to be deleted, with twenty candidates before it that remain. -/
def DeleteStarved (host : JanitorHost) (now : Timestamp) (sessions : List ResearchSession) : Prop :=
  ∃ before session after, sessions = before ++ session :: after ∧ session.Over host now ∧
    sweepLimit ≤ before.countP (fun other => other.expired host now && other.remains host)

theorem starved_iff : Starved host now sessions ↔ ArchiveStarved host now sessions ∨ DeleteStarved host now sessions := by
  constructor
  · rintro ⟨before, session, after, split, ⟨done, many⟩ | ⟨spent, many⟩⟩
    · exact .inl ⟨before, session, after, split, done, many⟩
    · exact .inr ⟨before, session, after, split, spent, many⟩
  · rintro (⟨before, session, after, split, done, many⟩ | ⟨before, session, after, split, spent, many⟩)
    · exact ⟨before, session, after, split, .inl ⟨done, many⟩⟩
    · exact ⟨before, session, after, split, .inr ⟨spent, many⟩⟩

theorem dayMs_pos : (0 : Int) ≤ dayMs := by decide

theorem retryDue_later (due : retryDue now nextRetryAt = true) : retryDue (now + dayMs) nextRetryAt = true := by
  cases nextRetryAt with
  | none => rfl
  | some nextRetryAt =>
    simp only [retryDue, decide_eq_true_eq] at due ⊢
    exact Int.le_trans due (Int.le_add_of_nonneg_right dayMs_pos)

theorem unarchived_later (selected : session.unarchived host now = true) :
    session.unarchived host (now + dayMs) = true := by
  simp only [unarchived, decide_eq_true_eq] at selected ⊢
  exact ⟨selected.1, selected.2.1, selected.2.2.1, selected.2.2.2.1, retryDue_later selected.2.2.2.2⟩

theorem expired_later (selected : session.expired host now = true) : session.expired host (now + dayMs) = true := by
  unfold expired at selected ⊢
  split at selected
  · cases selected
  · simp only [decide_eq_true_eq] at selected ⊢
    refine ⟨selected.1, selected.2.1, ?_, retryDue_later selected.2.2.2⟩
    have passed := selected.2.2.1
    simp only [dayMs, hourMs]
    omega

theorem over_later (spent : session.Over host now) : session.Over host (now + dayMs) := by
  obtain ⟨undeleted, idle, ⟨archivedAt, archived, passed⟩, known⟩ := spent
  refine ⟨undeleted, idle, ⟨archivedAt, archived, ?_⟩, known⟩
  simp only [dayMs, hourMs]
  omega

/-- A candidate that remains is a candidate again a day later, also after a failed attempt. -/
theorem delete_remains (selected : session.expired host now = true) (remains : session.remains host = true) :
    (session.delete host now).expired host (now + dayMs) = true ∧ (session.delete host now).remains host = true := by
  have later := expired_later selected
  simp only [ResearchSession.remains, decide_eq_true_eq] at remains
  rcases remains with active | unreadable
  · rw [delete, active]
    exact ⟨later, by simp [ResearchSession.remains, active]⟩
  · rw [delete, unreadable]
    refine ⟨?_, by simp [ResearchSession.remains, recordDeleteFailure, unreadable]⟩
    obtain ⟨archivedAt, archived⟩ := Option.ne_none_iff_exists'.mp (expired_archivedAt selected)
    have wait : retryDelayMs (session.deleteFailureCount + 1) ≤ dayMs := min_le_left _ _
    simp only [expired, archived, decide_eq_true_eq] at later
    simp only [expired, recordDeleteFailure, archived, decide_eq_true_eq]
    refine ⟨later.1, later.2.1, later.2.2.1, ?_⟩
    simp only [retryDue, decide_eq_true_eq]
    exact Int.add_le_add_left wait now

theorem ArchiveStarved.deleteExpired (starved : ArchiveStarved host now sessions) :
    ArchiveStarved host now (deleteExpired host now sessions) := by
  obtain ⟨before, session, after, rfl, done, many⟩ := starved
  have unselected : session.expired host now = true → sweepLimit ≤ before.countP (expired host now) :=
    fun selected => absurd done.1 (expired_archivedAt selected)
  refine ⟨_, session, _, handleFirst_kept unselected, done, le_trans many ?_⟩
  refine countP_forall₂_le (handleFirst_handled _ _) ?_
  rintro other _ (rfl | ⟨selected, rfl⟩) counted
  · exact counted
  · exact absurd (unarchived_archivedAt (Bool.and_eq_true_iff.mp counted).1) (expired_archivedAt selected)

theorem ArchiveStarved.archiveCompleted (starved : ArchiveStarved host now sessions) :
    ArchiveStarved host (now + dayMs) (archiveCompleted host now sessions) := by
  obtain ⟨before, session, after, rfl, done, many⟩ := starved
  have candidates : before.countP (fun other => other.unarchived host now && other.stays host) ≤
      before.countP (unarchived host now) :=
    List.countP_mono_left fun other _ counted => (Bool.and_eq_true_iff.mp counted).1
  refine ⟨_, session, _, handleFirst_kept fun _ => le_trans many candidates, done, le_trans many ?_⟩
  refine countP_forall₂_le (handleFirst_handled _ _) ?_
  intro other next handled counted
  obtain ⟨selected, stays⟩ := Bool.and_eq_true_iff.mp counted
  have same : next = other := by
    rcases handled with rfl | ⟨_, rfl⟩
    · rfl
    · exact archive_stays stays
  rw [same]
  exact Bool.and_eq_true_iff.mpr ⟨unarchived_later selected, stays⟩

theorem DeleteStarved.deleteExpired (starved : DeleteStarved host now sessions) :
    DeleteStarved host (now + dayMs) (deleteExpired host now sessions) := by
  obtain ⟨before, session, after, rfl, spent, many⟩ := starved
  have candidates : before.countP (fun other => other.expired host now && other.remains host) ≤
      before.countP (expired host now) :=
    List.countP_mono_left fun other _ counted => (Bool.and_eq_true_iff.mp counted).1
  refine ⟨_, session, _, handleFirst_kept fun _ => le_trans many candidates, over_later spent, le_trans many ?_⟩
  refine countP_forall₂_le (handleFirst_handled _ _) ?_
  intro other next handled counted
  obtain ⟨selected, remains⟩ := Bool.and_eq_true_iff.mp counted
  rcases handled with rfl | ⟨_, rfl⟩
  · exact Bool.and_eq_true_iff.mpr ⟨expired_later selected, remains⟩
  · exact Bool.and_eq_true_iff.mpr (delete_remains selected remains)

theorem DeleteStarved.archiveCompleted {later : Timestamp} (starved : DeleteStarved host later sessions) :
    DeleteStarved host later (archiveCompleted host now sessions) := by
  obtain ⟨before, session, after, rfl, spent, many⟩ := starved
  obtain ⟨archivedAt, archived, _⟩ := spent.2.2.1
  have unselected : session.unarchived host now = true → sweepLimit ≤ before.countP (unarchived host now) :=
    fun selected => absurd (archived.symm.trans (unarchived_archivedAt selected)) nofun
  refine ⟨_, session, _, handleFirst_kept unselected, spent, le_trans many ?_⟩
  refine countP_forall₂_le (handleFirst_handled _ _) ?_
  rintro other _ (rfl | ⟨selected, rfl⟩) counted
  · exact counted
  · exact absurd (unarchived_archivedAt selected) (expired_archivedAt (Bool.and_eq_true_iff.mp counted).1)

theorem Starved.sweep (starved : Starved host now sessions) : Starved host (now + dayMs) (sweep host now sessions) := by
  rcases starved_iff.mp starved with archive | delete
  · exact starved_iff.mpr (.inl archive.deleteExpired.archiveCompleted)
  · exact starved_iff.mpr (.inr delete.deleteExpired.archiveCompleted)

theorem sweepAt_succ (start : Timestamp) (count : Nat) : sweepAt start (count + 1) = sweepAt start count + dayMs := by
  rw [sweepAt, sweepAt, Int.natCast_succ, Int.add_mul, Int.one_mul, Int.add_assoc]

/-- A session that is starved once is starved for good. -/
theorem Starved.forever {count : Nat} (starved : Starved host (sweepAt start count) (sweeps host start sessions count))
    (more : Nat) : Starved host (sweepAt start (count + more)) (sweeps host start sessions (count + more)) := by
  induction more with
  | zero => exact starved
  | succ more ih =>
    rw [← Nat.add_assoc, sweepAt_succ]
    exact ih.sweep

theorem Starved.unclean (starved : Starved host now sessions) : ¬ Clean host now sessions := by
  obtain ⟨before, session, after, rfl, cause⟩ := starved
  intro clean
  obtain ⟨undone, unover⟩ := clean session (by simp)
  rcases cause with ⟨done, _⟩ | ⟨spent, _⟩
  · exact undone done
  · exact unover spent

/-! ## Progress -/

/-- A session that is to be archived and whose retry is due is not left waiting by every session before it. -/
theorem sweep_archives (succeeds : Succeeding host) (listed : session ∈ sessions) (done : session.Done host)
    (due : retryDue now session.archiveNextRetryAt = true) (unstarved : ¬ Starved host (now + dayMs) (sweep host now sessions)) :
    pending (sweep host now sessions) < pending sessions := by
  obtain ⟨open_, completed, awake, idle⟩ := done
  -- The first pass does not touch it.
  have there : session ∈ deleteExpired host now sessions := by
    obtain ⟨before, after, rfl⟩ := List.append_of_mem listed
    rw [deleteExpired, handleFirst_kept fun selected => absurd open_ (expired_archivedAt selected)]
    simp
  obtain ⟨before, after, split⟩ := List.append_of_mem there
  have few : before.countP (fun other => other.unarchived host now && other.stays host) < sweepLimit := by
    by_contra many
    refine unstarved (starved_iff.mpr (.inl ?_))
    exact ArchiveStarved.archiveCompleted
      ⟨before, session, after, split, ⟨open_, completed, awake, idle⟩, Nat.le_of_not_lt many⟩
  have selected : session.unarchived host now = true := by
    have assigned : session.taskId ≠ none := by
      intro none
      simp [isCompleted, none] at completed
    simp only [unarchived, decide_eq_true_eq]
    exact ⟨open_, assigned, awake, idle, due⟩
  have goes : session.stays host = false := by simp [stays, completed]
  have archived : (archiveCompleted host now (before ++ session :: after)).countP (fun session => session.archivedAt = none) <
      (before ++ session :: after).countP (fun session => session.archivedAt = none) := by
    refine handleFirst_lt (fun item kept => ?_) (fun item selected goes => ⟨?_, ?_⟩) selected goes few
    · exact decide_eq_true (archivedAt_of_archive (of_decide_eq_true kept))
    · exact decide_eq_true (unarchived_archivedAt selected)
    · rw [archive_done succeeds goes]
      rfl
  rw [← split] at archived
  obtain ⟨same, deleted⟩ := deleteExpired_pending host now sessions
  obtain ⟨_, kept⟩ := archiveCompleted_pending host now (deleteExpired host now sessions)
  unfold pending sweep
  omega

/-- The same of a session that is to be deleted. -/
theorem sweep_deletes (succeeds : Succeeding host) (listed : session ∈ sessions) (spent : session.Over host now)
    (due : retryDue now session.deleteNextRetryAt = true) (unstarved : ¬ Starved host now sessions) :
    pending (sweep host now sessions) < pending sessions := by
  obtain ⟨undeleted, idle, ⟨archivedAt, archived, passed⟩, known⟩ := spent
  obtain ⟨before, after, split⟩ := List.append_of_mem listed
  have few : before.countP (fun other => other.expired host now && other.remains host) < sweepLimit := by
    by_contra many
    refine unstarved (starved_iff.mpr (.inr ?_))
    exact ⟨before, session, after, split, ⟨undeleted, idle, ⟨archivedAt, archived, passed⟩, known⟩, Nat.le_of_not_lt many⟩
  have selected : session.expired host now = true := by
    simp only [expired, archived, decide_eq_true_eq]
    exact ⟨undeleted, idle, passed, due⟩
  have goes : session.remains host = false := by
    rcases known with archived | missing
    · simp [remains, archived]
    · simp [remains, missing]
  have deleted : (deleteExpired host now (before ++ session :: after)).countP (fun session => session.deletedAt = none) <
      (before ++ session :: after).countP (fun session => session.deletedAt = none) := by
    refine handleFirst_lt (fun item kept => ?_) (fun item selected goes => ⟨?_, ?_⟩) selected goes few
    · exact decide_eq_true (deletedAt_of_delete (of_decide_eq_true kept))
    · exact decide_eq_true (expired_undeleted selected)
    · rw [delete_done succeeds goes]
      rfl
  rw [← split] at deleted
  obtain ⟨same, _⟩ := deleteExpired_pending host now sessions
  obtain ⟨archives, deletes⟩ := archiveCompleted_pending host now (deleteExpired host now sessions)
  unfold pending sweep
  omega

/-- The retries that a session to be handled still waits for are due by some time. -/
def DueBy (host : JanitorHost) (limit : Timestamp) (session : ResearchSession) : Prop :=
  retryDue limit session.archiveNextRetryAt = true ∧
    (session.remains host = false → retryDue limit session.deleteNextRetryAt = true)

theorem retryDue_le (early : (limit : Int) ≤ now)
    (due : retryDue limit nextRetryAt = true) : retryDue now nextRetryAt = true := by
  cases nextRetryAt with
  | none => rfl
  | some nextRetryAt =>
    simp only [retryDue, decide_eq_true_eq] at due ⊢
    exact Int.le_trans due early

theorem exists_dueBy (host : JanitorHost) (sessions : List ResearchSession) :
    ∃ limit, ∀ session ∈ sessions, DueBy host limit session := by
  induction sessions with
  | nil => exact ⟨0, nofun⟩
  | cons first rest ih =>
    obtain ⟨limit, due⟩ := ih
    have at_ : ∀ nextRetryAt : Option Timestamp, ∃ limit, retryDue limit nextRetryAt = true := by
      intro nextRetryAt
      cases nextRetryAt with
      | none => exact ⟨0, rfl⟩
      | some nextRetryAt => exact ⟨nextRetryAt, decide_eq_true (Int.le_refl nextRetryAt)⟩
    obtain ⟨archive, archiveDue⟩ := at_ first.archiveNextRetryAt
    obtain ⟨delete, deleteDue⟩ := at_ first.deleteNextRetryAt
    refine ⟨max limit (max archive delete), List.forall_mem_cons.mpr ⟨⟨?_, fun _ => ?_⟩, fun session listed => ⟨?_, fun goes => ?_⟩⟩⟩
    · exact retryDue_le (le_trans (le_max_left archive delete) (le_max_right limit _)) archiveDue
    · exact retryDue_le (le_trans (le_max_right archive delete) (le_max_right limit _)) deleteDue
    · exact retryDue_le (le_max_left limit _) (due session listed).1
    · exact retryDue_le (le_max_left limit _) ((due session listed).2 goes)

/-- No sweep puts off a session that is to be handled. -/
theorem sweep_dueBy (succeeds : Succeeding host) (due : ∀ session ∈ sessions, DueBy host limit session) :
    ∀ session ∈ sweep host now sessions, DueBy host limit session := by
  refine handleFirst_all (fun session here => ?_) (handleFirst_all (fun session here => ?_) due)
  · cases goes : session.stays host with
    | true =>
      rw [archive_stays goes]
      exact here
    | false =>
      rw [archive_done succeeds goes]
      exact ⟨rfl, here.2⟩
  · cases goes : session.remains host with
    | true =>
      simp only [remains, decide_eq_true_eq] at goes
      rcases goes with active | unreadable
      · rw [delete, active]
        exact here
      · rw [delete, unreadable]
        refine ⟨here.1, fun goes => ?_⟩
        simp [remains, recordDeleteFailure, unreadable] at goes
    | false =>
      rw [delete_done succeeds goes]
      exact ⟨here.1, fun _ => rfl⟩

theorem sweeps_dueBy (succeeds : Succeeding host) (due : ∀ session ∈ sessions, DueBy host limit session)
    (count : Nat) : ∀ session ∈ sweeps host start sessions count, DueBy host limit session := by
  induction count with
  | zero => exact due
  | succ count ih => exact sweep_dueBy succeeds ih

theorem sweepAt_le (start : Timestamp) {early late : Nat} (order : early ≤ late) :
    (sweepAt start early : Int) ≤ sweepAt start late :=
  Int.add_le_add_left (Int.mul_le_mul_of_nonneg_right (Int.ofNat_le.mpr order) dayMs_pos) start

theorem exists_late (start limit : Timestamp) : ∃ count, (limit : Int) ≤ sweepAt start count := by
  refine ⟨(limit - start).toNat, ?_⟩
  have days : ((limit - start).toNat : Int) * 1 ≤ (limit - start).toNat * dayMs :=
    Int.mul_le_mul_of_nonneg_left (by decide) (Int.natCast_nonneg _)
  have enough := Int.self_le_toNat (limit - start)
  rw [Int.mul_one] at days
  exact Int.le_trans (Int.le_add_of_sub_left_le enough) (Int.add_le_add_left days start)

/-- Every session is handled in the end exactly when no sweep finds one that is to be handled behind twenty
candidates that it handles without effect. -/
theorem cleansUp_iff (succeeds : Succeeding host) :
    CleansUp host start sessions ↔ ∀ count, ¬ Starved host (sweepAt start count) (sweeps host start sessions count) := by
  constructor
  · rintro ⟨enough, clean⟩ count starved
    exact (starved.forever enough).unclean (clean (count + enough) (Nat.le_add_left _ _))
  · intro unstarved
    obtain ⟨settled, constant⟩ : ∃ settled, ∀ count, settled ≤ count →
        pending (sweeps host start sessions count) = pending (sweeps host start sessions settled) :=
      exists_settled fun count => sweep_pending host (sweepAt start count) (sweeps host start sessions count)
    obtain ⟨limit, due⟩ := exists_dueBy host sessions
    obtain ⟨late, reached⟩ := exists_late start limit
    refine ⟨max settled late, fun count later session listed => ?_⟩
    have passed : (limit : Int) ≤ sweepAt start count :=
      le_trans reached (sweepAt_le start (le_trans (le_max_right _ _) later))
    obtain ⟨archiveDue, deleteDue⟩ := sweeps_dueBy succeeds due count session listed
    have still : pending (sweeps host start sessions (count + 1)) = pending (sweeps host start sessions count) :=
      (constant _ (le_trans (le_trans (le_max_left _ _) later) (Nat.le_succ _))).trans
        (constant _ (le_trans (le_max_left _ _) later)).symm
    constructor
    · intro done
      have next := unstarved (count + 1)
      rw [sweepAt_succ] at next
      exact absurd still (Nat.ne_of_lt (sweep_archives succeeds listed done (retryDue_le passed archiveDue) next))
    · intro spent
      have goes : session.remains host = false := by
        rcases spent.2.2.2 with archived | missing
        · simp [remains, archived]
        · simp [remains, missing]
      exact absurd still
        (Nat.ne_of_lt (sweep_deletes succeeds listed spent (retryDue_le passed (deleteDue goes)) (unstarved count)))

/-- A session of which every pass makes nothing. -/
def blocking (host : JanitorHost) (session : ResearchSession) : Bool := session.stays host || session.remains host

@[simp] theorem delete_sessionId : (session.delete host now).sessionId = session.sessionId := by
  unfold delete
  split
  · rfl
  · rfl
  · rfl
  · split <;> rfl

@[simp] theorem delete_taskId : (session.delete host now).taskId = session.taskId := by
  unfold delete
  split
  · rfl
  · rfl
  · rfl
  · split <;> rfl

@[simp] theorem archive_sessionId : (session.archive host now).sessionId = session.sessionId := by
  unfold archive
  split
  · rfl
  · split
    · rfl
    · split <;> rfl

@[simp] theorem archive_taskId : (session.archive host now).taskId = session.taskId := by
  unfold archive
  split
  · rfl
  · split
    · rfl
    · split <;> rfl

theorem blocking_congr {one other : ResearchSession} (session : one.sessionId = other.sessionId)
    (task : one.taskId = other.taskId) : blocking host one = blocking host other := by
  cases one
  cases other
  cases session
  cases task
  rfl

theorem sweeps_blocking (host : JanitorHost) (start : Timestamp) (sessions : List ResearchSession) (count : Nat) :
    (sweeps host start sessions count).countP (blocking host) ≤ sessions.countP (blocking host) := by
  induction count with
  | zero => exact Nat.le_refl _
  | succ count ih =>
    refine le_trans (le_trans (handleFirst_le (fun item here => ?_) _ _) (handleFirst_le (fun item here => ?_) _ _)) ih
    · exact (blocking_congr archive_sessionId archive_taskId).symm.trans here
    · exact (blocking_congr delete_sessionId delete_taskId).symm.trans here

/-- Fewer than twenty sessions of which a pass makes nothing starve no other. -/
theorem unstarved_of_few (few : sessions.countP (blocking host) < sweepLimit) (count : Nat) :
    ¬ Starved host (sweepAt start count) (sweeps host start sessions count) := by
  intro starved
  have less := Nat.lt_of_le_of_lt (sweeps_blocking host start sessions count) few
  obtain ⟨before, session, after, split, cause⟩ := starved
  rw [split, List.countP_append] at less
  have least : sweepLimit ≤ before.countP (blocking host) := by
    rcases cause with ⟨_, many⟩ | ⟨_, many⟩
    all_goals
      refine le_trans many (List.countP_mono_left fun other _ counted => ?_)
      simp [blocking, (Bool.and_eq_true_iff.mp counted).2]
  omega

end Passes

/-- A host that has archived nothing, on which one task is completed. -/
def quietHost : JanitorHost where
  codex _ := .active
  isRunning _ := false
  waiting _ := false
  completed taskId := taskId = "done"
  archives _ := true
  deletes _ := true
  deleteAfterMs := 7 * dayMs

def openSession (taskId : String) : ResearchSession := ⟨"session", some taskId, none, 0, none, none, 0, none⟩

theorem cleansUp_three : CleansUp quietHost 0 [openSession "open", openSession "done", openSession "open"] :=
  (cleansUp_iff fun _ => ⟨rfl, rfl⟩).mpr (unstarved_of_few (by decide))

/-- Twenty sessions with open tasks stand before one whose task is completed, and it is never archived. -/
theorem twenty_starve : ¬ ∃ count, Clean quietHost (sweepAt 0 count)
      (sweeps quietHost 0 (List.replicate 20 (openSession "open") ++ [openSession "done"]) count) := by
  rintro ⟨count, clean⟩
  have starved : Starved quietHost (sweepAt 0 0)
      (sweeps quietHost 0 (List.replicate 20 (openSession "open") ++ [openSession "done"]) 0) :=
    ⟨List.replicate 20 (openSession "open"), openSession "done", [], rfl, .inl ⟨⟨rfl, by decide, rfl, rfl⟩, by decide⟩⟩
  have later := starved.forever count
  rw [Nat.zero_add] at later
  exact later.unclean clean

end QuarkSelfAI.BridgeCompat

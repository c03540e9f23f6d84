import Mathlib.Data.Prod.Lex
import Mathlib.Data.String.Basic
import QuarkSelfAI.ControlPlane.DeviceLeases

/-!
# The queue of a device

A poll looks at the first dispatch of the queue alone: it leases that one, or it throws
what the verification of that one threw, whatever is queued behind.
-/

namespace QuarkSelfAI.ControlPlane

open Foundation ClientRuntime

/-- `created_at, task_id`. -/
def DispatchRow.queueKey (row : DispatchRow) : String ×ₗ String := toLex (row.createdAt, row.taskId)

namespace DeviceWorld

variable {host : DeviceHost}

/-! ## The first row -/

theorem earlier_eq (first second : DispatchRow) :
    earlier first second = if second.queueKey < first.queueKey then second else first := by
  simp only [earlier, DispatchRow.queueKey, Prod.Lex.toLex_lt_toLex]

theorem earlier_le_left (first second : DispatchRow) : (earlier first second).queueKey ≤ first.queueKey := by
  rw [earlier_eq]
  split
  · rename_i before
    exact le_of_lt before
  · exact le_rfl

theorem earlier_le_right (first second : DispatchRow) : (earlier first second).queueKey ≤ second.queueKey := by
  rw [earlier_eq]
  split
  · exact le_rfl
  · rename_i notBefore
    exact not_lt.mp notBefore

theorem foldl_earlier_le (row : DispatchRow) (rest : List DispatchRow) :
    ∀ other ∈ row :: rest, (rest.foldl earlier row).queueKey ≤ other.queueKey := by
  induction rest generalizing row with
  | nil =>
    intro other listed
    rw [List.mem_singleton.mp listed]
    exact le_rfl
  | cons next rest ih =>
    have least := ih (earlier row next)
    intro other listed
    rcases List.mem_cons.mp listed with rfl | listed
    · exact (least _ List.mem_cons_self).trans (earlier_le_left other next)
    · rcases List.mem_cons.mp listed with rfl | later
      · exact (least _ List.mem_cons_self).trans (earlier_le_right row other)
      · exact least other (List.mem_cons_of_mem _ later)

theorem firstOf_least {rows : List DispatchRow} {row : DispatchRow} (first : firstOf rows = some row) :
    ∀ other ∈ rows, row.queueKey ≤ other.queueKey := by
  cases rows with
  | nil => nofun
  | cons head rest =>
    cases first
    exact foldl_earlier_le head rest

theorem firstOf_eq_none_iff {rows : List DispatchRow} : firstOf rows = none ↔ rows = [] := by
  cases rows with
  | nil => exact ⟨fun _ => rfl, fun _ => rfl⟩
  | cons head rest => exact ⟨nofun, nofun⟩

/-- The first dispatch that a session waits for. -/
structure FirstAwaited (world : DeviceWorld) (session : SessionRow) (row : DispatchRow) : Prop where
  stored : row ∈ world.dispatches
  awaits : awaitsLease session row = true
  least : ∀ other ∈ world.dispatches, awaitsLease session other = true → row.queueKey ≤ other.queueKey

/-- The query selects it. -/
theorem FirstAwaited.selected {world : DeviceWorld} {session : SessionRow} {row : DispatchRow}
    (first : FirstAwaited world session row) :
    firstOf (world.dispatches.rows.filter (awaitsLease session)) = some row := by
  have listed : row ∈ world.dispatches.rows.filter (awaitsLease session) :=
    List.mem_filter.mpr ⟨first.stored, first.awaits⟩
  cases found : firstOf (world.dispatches.rows.filter (awaitsLease session)) with
  | none =>
    rw [firstOf_eq_none_iff.mp found] at listed
    cases listed
  | some other =>
    obtain ⟨stored, awaits⟩ := List.mem_filter.mp (firstOf_mem found)
    have same := le_antisymm (first.least other stored awaits) (firstOf_least found row listed)
    -- The two have one task of one tenant, so they are one row.
    have task : row.taskId = other.taskId := congrArg Prod.snd (toLex_inj.mp same)
    have keys : row.key = other.key := by
      rw [key_of_scope (awaitsLease_iff.mp first.awaits).1, key_of_scope (awaitsLease_iff.mp awaits).1, task]
    rw [Table.eq_of_key first.stored stored keys]

/-! ## Polls -/

/-- A poll with no other call while its plan is verified. -/
def pollNow (host : DeviceHost) (sessionId : String) (now : Timestamp) (ttlMs : Nat) (token : String)
    (world : DeviceWorld) : DeviceReply :=
  match answer host (.poll sessionId now ttlMs) world with
  | (.verifying ticket, waiting) => (answer host (.resume ticket token) waiting).1
  | (reply, _) => reply

theorem pollNow_eq (host : DeviceHost) (token : String) {world : DeviceWorld} {sessionId : String}
    {now : Timestamp} {ttlMs : Nat} {session : SessionRow} {row : DispatchRow} (inUse : InUse world.directory sessionId now session)
    (ttl : positive ttlMs "lease ttl" = .ok ()) (first : FirstAwaited world session row) :
    ∃ waiting, waiting.dispatches = world.dispatches ∧ pollNow host sessionId now ttlMs token world =
      (settle waiting leaseReply (commitLease host session row now ttlMs token waiting)).1 := by
  refine ⟨{ world with calls := (world.calls.suspend (.polling session row now ttlMs)).resume world.calls.next },
    rfl, ?_⟩
  have found : activeSession sessionId now world.directory = (.ok session, world.directory) :=
    activeSession_ok.mpr ⟨inUse, rfl⟩
  simp only [pollNow, answer, requestLease, ttl, withSession, found, first.selected]
  rw [Suspension.find?_suspend, if_pos rfl]
  rfl

/-- A verified plan of a row that awaits its lease is leased. -/
theorem commitLease_leases {world : DeviceWorld} {session : SessionRow} {row : DispatchRow} {token : String}
    {now : Timestamp} {ttlMs : Nat} {plan : JsValue} (stored : row ∈ world.dispatches)
    (awaits : awaitsLease session row = true) (drawn : checkToken token "lease" = .ok ())
    (verified : verifySignedExecutionPlan host.plans row.plan now = .ok plan) :
    ∃ lease next, commitLease host session row now ttlMs token world = .ok (some lease, next) ∧
      lease.taskId = row.taskId := by
  obtain ⟨scope, unacknowledged, waits⟩ := awaitsLease_iff.mp awaits
  have task : taskRow session row.taskId world = some row := by
    rw [taskRow_eq_some_iff, ← key_of_scope scope]
    exact ⟨Table.find?_self stored, scope⟩
  unfold commitLease grantLease
  rw [verified]
  cases running : row.running? now with
  | some columns => exact ⟨_, _, rfl, rfl⟩
  | none =>
    simp only [task, Option.filter_some, unacknowledged, waits, and_self, decide_true, if_true, running, drawn]
    exact ⟨_, _, rfl, rfl⟩

section Polls

variable {world : DeviceWorld} {sessionId token : String} {now : Timestamp} {ttlMs : Nat}
  {session : SessionRow} {row : DispatchRow}

theorem pollNow_leases {plan : JsValue} (inUse : InUse world.directory sessionId now session)
    (ttl : positive ttlMs "lease ttl" = .ok ()) (drawn : checkToken token "lease" = .ok ())
    (first : FirstAwaited world session row) (verified : verifySignedExecutionPlan host.plans row.plan now = .ok plan) :
    ∃ lease, pollNow host sessionId now ttlMs token world = .lease lease ∧ lease.taskId = row.taskId := by
  obtain ⟨waiting, same, polled⟩ := pollNow_eq host token inUse ttl first
  have stored : row ∈ waiting.dispatches := by
    rw [same]
    exact first.stored
  obtain ⟨lease, next, committed, task⟩ := commitLease_leases stored first.awaits drawn verified
  rw [polled, committed]
  exact ⟨lease, rfl, task⟩

theorem pollNow_throws {message : String} (inUse : InUse world.directory sessionId now session)
    (ttl : positive ttlMs "lease ttl" = .ok ()) (first : FirstAwaited world session row)
    (failed : verifySignedExecutionPlan host.plans row.plan now = .error message) :
    pollNow host sessionId now ttlMs token world = .refused message := by
  obtain ⟨waiting, same, polled⟩ := pollNow_eq host token inUse ttl first
  rw [polled, commitLease, failed]
  rfl

/-- A poll leases the first dispatch exactly when its plan is verified, and throws otherwise. -/
theorem poll_first (host : DeviceHost) (inUse : InUse world.directory sessionId now session)
    (ttl : positive ttlMs "lease ttl" = .ok ()) (drawn : checkToken token "lease" = .ok ())
    (first : FirstAwaited world session row) :
    ((∃ lease, pollNow host sessionId now ttlMs token world = .lease lease ∧ lease.taskId = row.taskId) ↔
      ∃ plan, verifySignedExecutionPlan host.plans row.plan now = .ok plan) ∧
    ((∃ message, pollNow host sessionId now ttlMs token world = .refused message) ↔
      ¬ ∃ plan, verifySignedExecutionPlan host.plans row.plan now = .ok plan) := by
  cases verified : verifySignedExecutionPlan host.plans row.plan now with
  | ok plan =>
    obtain ⟨lease, leased, task⟩ := pollNow_leases inUse ttl drawn first verified
    rw [leased]
    exact ⟨⟨fun _ => ⟨plan, rfl⟩, fun _ => ⟨lease, rfl, task⟩⟩, ⟨nofun, fun none => absurd ⟨plan, rfl⟩ none⟩⟩
  | error message =>
    rw [pollNow_throws inUse ttl first verified]
    exact ⟨⟨nofun, nofun⟩, ⟨fun _ => nofun, fun _ => ⟨message, rfl⟩⟩⟩

end Polls

/-! ## Two dispatches -/

def sampleSession : SessionRow :=
  ⟨"session.one", "test.alpha", "user.owner", "device.owner", sampleStart, sampleStart + 36000000, .active⟩

def firstDispatch : Dispatch := sampleDispatch "task.one" "2026-09-06T01:00:00.000Z" "2026-09-06T00:00:00.000Z"

def secondDispatch : Dispatch := sampleDispatch "task.two" "2036-09-06T01:00:00.000Z" "2026-09-06T00:00:00.001Z"

/-- The plan of the first ends in an hour, that of the second in ten years. -/
def queueingCalls : List DeviceCall :=
  [.issueChallenge sampleScope sampleStart 60000 "challenge.one" "nonce.one",
    .openSession sampleProof sampleStart 36000000, .resume 0 "session.one",
    .enqueue firstDispatch sampleStart, .resume 1 "", .enqueue secondDispatch sampleStart, .resume 2 ""]

def queuedWorld : DeviceWorld := sampleMachine.finish queueingCalls

theorem queuedWorld_eq : queuedWorld = (enqueued secondDispatch sampleStart (enqueued firstDispatch sampleStart
    (sampleMachine.finish (queueingCalls.take 3))).2).2 := by
  have first : verifySignedExecutionPlan sampleDeviceHost.plans firstDispatch.plan sampleStart = .ok _ :=
    samplePlan_accepted rfl le_rfl (by decide)
  have second : verifySignedExecutionPlan sampleDeviceHost.plans secondDispatch.plan sampleStart = .ok _ :=
    samplePlan_accepted rfl le_rfl (by decide)
  have calls : queuedWorld = sampleMachine.finish (queueingCalls.take 3 ++ [.enqueue firstDispatch sampleStart,
    .resume 1 "", .enqueue secondDispatch sampleStart, .resume 2 ""]) := rfl
  rw [calls, Machine.finish_append]
  generalize opened : sampleMachine.finish (queueingCalls.take 3) = world
  have next : world.calls.next = 1 ∧ (enqueued firstDispatch sampleStart world).2.calls.next = 2 := by
    rw [← opened]
    decide
  rw [sampleMachine, replay_enqueue next.1 (by decide) first]
  rw [replay_enqueue next.2 (by decide) second]
  rfl

theorem queuedWorld_rows : queuedWorld.dispatches.rows = [queuedRow firstDispatch, queuedRow secondDispatch] ∧
    queuedWorld.directory.sessions.rows = [sampleSession] := by
  rw [queuedWorld_eq]
  decide

theorem queued_first : FirstAwaited queuedWorld sampleSession (queuedRow firstDispatch) where
  stored := by
    rw [← Table.mem_rows, queuedWorld_rows.1]
    exact List.mem_cons_self
  awaits := by decide
  least := by
    intro other listed _
    rw [← Table.mem_rows, queuedWorld_rows.1] at listed
    rcases List.mem_cons.mp listed with rfl | listed
    · exact le_rfl
    · rw [List.mem_singleton.mp listed]
      decide

theorem queued_inUse {now : Timestamp} (early : now < sampleStart + 36000000) :
    InUse queuedWorld.directory "session.one" now sampleSession := by
  refine ⟨?_, rfl, early⟩
  rw [Table.find?, queuedWorld_rows.2]
  rfl

theorem second_verified {now : Timestamp} (started : sampleStart ≤ now) (later : now < 2104189200000) :
    verifySignedExecutionPlan sampleDeviceHost.plans (queuedRow secondDispatch).plan now =
      .ok (samplePlan "2036-09-06T01:00:00.000Z") := by
  rw [secondDispatch, sampleDispatch_plan]
  exact samplePlan_accepted rfl started later

theorem queued_leased : ∃ lease,
    pollNow sampleDeviceHost "session.one" sampleStart 60000 "lease.one" queuedWorld = .lease lease ∧
      lease.taskId = "task.one" := by
  have verified : verifySignedExecutionPlan sampleDeviceHost.plans (queuedRow firstDispatch).plan sampleStart =
      .ok (samplePlan "2026-09-06T01:00:00.000Z") := by
    rw [firstDispatch, sampleDispatch_plan]
    exact samplePlan_verified
  exact (poll_first sampleDeviceHost (queued_inUse (by decide)) (by decide)
    (by decide) queued_first).1.mpr ⟨_, verified⟩

/-- Two hours later the plan of the second can still be verified, and a poll throws. -/
theorem queued_blocked : (∃ labels, sampleMachine.system.Run labels queuedWorld) ∧
    InUse queuedWorld.directory "session.one" (sampleStart + 7200000) sampleSession ∧
    queuedRow secondDispatch ∈ queuedWorld.dispatches ∧ awaitsLease sampleSession (queuedRow secondDispatch) = true ∧
    (∃ plan, verifySignedExecutionPlan sampleDeviceHost.plans (queuedRow secondDispatch).plan
      (sampleStart + 7200000) = .ok plan) ∧
    pollNow sampleDeviceHost "session.one" (sampleStart + 7200000) 60000 "lease.one" queuedWorld =
      .refused "signed plan is not currently valid" := by
  have inUse : InUse queuedWorld.directory "session.one" (sampleStart + 7200000) sampleSession :=
    queued_inUse (by decide)
  have stored : queuedRow secondDispatch ∈ queuedWorld.dispatches := by
    rw [← Table.mem_rows, queuedWorld_rows.1]
    exact List.mem_cons_of_mem _ List.mem_cons_self
  have failed : verifySignedExecutionPlan sampleDeviceHost.plans (queuedRow firstDispatch).plan
      (sampleStart + 7200000) = .error "signed plan is not currently valid" := by decide
  exact ⟨sampleMachine.finish_reached queueingCalls, inUse, stored, by decide,
    ⟨_, second_verified (by decide) (by decide)⟩,
    pollNow_throws inUse (by decide) queued_first failed⟩

end DeviceWorld

end QuarkSelfAI.ControlPlane

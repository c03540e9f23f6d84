import QuarkSelfAI.ControlPlane.DeviceSafety

/-!
# Leases of dispatches

A dispatch is only moved on: an acknowledged one keeps its lease, and a new lease has a
higher attempt. So of the leases given for a task, all but the present one are over.
-/

namespace QuarkSelfAI.ControlPlane

open Foundation ClientRuntime

namespace DeviceWorld

variable {host : DeviceHost} {users : Table UserRow.key} {devices : Table DeviceRow.key}
  {labels : List (DeviceCall × DeviceReply)} {label : DeviceCall × DeviceReply} {before after : DeviceWorld}
  {row : DispatchRow} {session : SessionRow} {key : TaskKey} {now : Timestamp} {world : DeviceWorld}
  {columns : LeaseColumns} {lease : DeviceLease}

/-! ## What a row keeps -/

/-- How a dispatch may stand later. -/
structure Later (old new : DispatchRow) : Prop where
  scope : new.scope = old.scope
  planId : new.planId = old.planId
  plan : new.plan = old.plan
  acknowledged : ∀ {time}, old.acknowledgedAt = some time → new.acknowledgedAt = some time
  lease : new.leaseAttempt = old.leaseAttempt ∧ new.lease = old.lease ∨
    old.leaseAttempt < new.leaseAttempt ∧ old.acknowledgedAt = none

theorem Later.refl (row : DispatchRow) : Later row row := ⟨rfl, rfl, rfl, id, .inl ⟨rfl, rfl⟩⟩

theorem Later.trans {first second third : DispatchRow} (here : Later first second)
    (there : Later second third) : Later first third where
  scope := there.scope.trans here.scope
  planId := there.planId.trans here.planId
  plan := there.plan.trans here.plan
  acknowledged acknowledged := there.acknowledged (here.acknowledged acknowledged)
  lease := by
    rcases here.lease with ⟨attempt, lease⟩ | ⟨more, open'⟩
    · rcases there.lease with ⟨attempt', lease'⟩ | ⟨more, open'⟩
      · exact .inl ⟨attempt'.trans attempt, lease'.trans lease⟩
      · refine .inr ⟨attempt ▸ more, ?_⟩
        cases acknowledged : first.acknowledgedAt with
        | none => rfl
        | some time =>
          rw [here.acknowledged acknowledged] at open'
          cases open'
    · rcases there.lease with ⟨attempt', _⟩ | ⟨more', _⟩
      · exact .inr ⟨attempt' ▸ more, open'⟩
      · exact .inr ⟨Nat.lt_trans more more', open'⟩

theorem later_step {call : DeviceCall} {reply : DeviceReply} {old : DispatchRow}
    (found : before.dispatches.find? key = some old) (effect : Effect host before call reply after) :
    ∃ new, after.dispatches.find? key = some new ∧ Later old new := by
  cases effect with
  | queued waiting verified inserted => exact ⟨old, Table.find?_kept inserted found, .refl old⟩
  | leased waiting here scope unacknowledged past updated =>
    obtain ⟨new, stored, rfl | ⟨rfl, rfl⟩⟩ := Table.find?_changed updated found
    · exact ⟨_, stored, .refl _⟩
    · rw [here] at found
      cases found
      exact ⟨_, stored, rfl, rfl, rfl, id, .inr ⟨Nat.lt_succ_self _, unacknowledged⟩⟩
  | @accepted _ _ _ _ acceptedAt _ _ _ _ inUse here scope running same updated =>
    obtain ⟨new, stored, rfl | ⟨rfl, rfl⟩⟩ := Table.find?_changed updated found
    · exact ⟨_, stored, .refl _⟩
    · refine ⟨_, stored, ?_⟩
      unfold acknowledgedRow
      split
      · rename_i none
        exact ⟨rfl, rfl, rfl, fun some => absurd (none.symm.trans some) nofun, .inl ⟨rfl, rfl⟩⟩
      · exact .refl _
  | resulted inUse here scope acknowledged device inserted updated =>
    obtain ⟨new, stored, rfl | ⟨rfl, rfl⟩⟩ := Table.find?_changed updated found
    · exact ⟨_, stored, .refl _⟩
    · exact ⟨_, stored, rfl, rfl, rfl, id, .inl ⟨rfl, rfl⟩⟩
  | _ => exact ⟨old, found, .refl old⟩

theorem later_steps {start finish : DeviceWorld} {old : DispatchRow} (found : start.dispatches.find? key = some old)
    (steps : (machine host users devices).system.Steps start labels finish) :
    ∃ new, finish.dispatches.find? key = some new ∧ Later old new := by
  induction steps generalizing old with
  | done => exact ⟨old, found, .refl old⟩
  | next transition _ ih =>
    obtain ⟨middle, stored, later⟩ := later_step found (effect_of_step transition)
    obtain ⟨new, finds, rest⟩ := ih stored
    exact ⟨new, finds, later.trans rest⟩

theorem result_steps {start finish : DeviceWorld} {row : ResultRow} (found : start.results.find? key = some row)
    (steps : (machine host users devices).system.Steps start labels finish) :
    finish.results.find? key = some row := by
  refine steps.preserves (fun world => world.results.find? key = some row) ?_ found
  rintro before ⟨call, reply⟩ after found transition
  cases effect_of_answer transition with
  | resulted inUse here scope acknowledged device inserted updated => exact Table.find?_kept inserted found
  | _ => exact found

/-! ## Waiting polls -/

theorem moves_step (transition : (machine host users devices).system.Step before label after) :
    Suspension.Moves before.calls after.calls := by
  obtain ⟨call, reply⟩ := label
  cases effect_of_answer transition with
  | opening | enqueuing | polling => exact .suspend _ _
  | opened | queued | existing | returned | nothing | leased | abandoned => exact .resume _ _
  | _ => exact .stay _

theorem earlier_mem (first second : DispatchRow) : earlier first second = first ∨ earlier first second = second := by
  unfold earlier
  split
  · exact .inr rfl
  · exact .inl rfl

theorem foldl_earlier_mem (row : DispatchRow) (rest : List DispatchRow) : rest.foldl earlier row ∈ row :: rest := by
  induction rest generalizing row with
  | nil => exact List.mem_singleton_self row
  | cons next rest ih =>
    rcases List.mem_cons.mp (ih (earlier row next)) with same | listed
    · rw [List.foldl_cons, same]
      rcases earlier_mem row next with left | right
      · rw [left]
        exact List.mem_cons_self
      · rw [right]
        exact List.mem_cons_of_mem _ List.mem_cons_self
    · exact List.mem_cons_of_mem _ (List.mem_cons_of_mem _ listed)

theorem firstOf_mem {rows : List DispatchRow} (first : firstOf rows = some row) : row ∈ rows := by
  cases rows with
  | nil => cases first
  | cons head rest =>
    cases first
    exact foldl_earlier_mem head rest

theorem awaitsLease_iff : awaitsLease session row = true ↔
    row.scope = session.scope ∧ row.acknowledgedAt = none ∧ row.state ∈ [.queued, .leased] := by
  rw [awaitsLease, decide_eq_true_eq]

/-- What a poll has selected. -/
theorem selected (first : firstOf (world.dispatches.rows.filter (awaitsLease session)) = some row) :
    row ∈ world.dispatches ∧ row.scope = session.scope ∧ row.acknowledgedAt = none := by
  obtain ⟨stored, awaits⟩ := List.mem_filter.mp (firstOf_mem first)
  obtain ⟨scope, unacknowledged, _⟩ := awaitsLease_iff.mp awaits
  exact ⟨stored, scope, unacknowledged⟩

theorem key_of_scope (scope : row.scope = session.scope) : row.key = (session.tenantId, row.taskId) :=
  Prod.ext (congrArg Scope.tenantId scope) rfl

/-! ## Leases that were given -/

/-- The time that a call brings. -/
def timeOf : DeviceCall → Option Timestamp
  | .issueChallenge _ now _ _ _ => some now
  | .openSession _ now _ => some now
  | .enqueue _ now => some now
  | .poll _ now _ => some now
  | .acknowledge _ _ _ now => some now
  | .submitResult _ _ now => some now
  | .resume _ _ => none
  | .roster _ => none

/-- The times that calls have brought. -/
def times (labels : List (DeviceCall × DeviceReply)) : List Timestamp := labels.filterMap fun label => timeOf label.1

/-- The leases that polls return for a task. -/
def leasesOf (key : TaskKey) (world : DeviceWorld) (entry : DeviceCall × DeviceReply) : List DeviceLease :=
  match entry.2, entry.1 with
  | .lease lease, .resume ticket _ =>
    match world.calls.find? ticket with
    | some (.polling session _ _ _) => if (session.tenantId, lease.taskId) = key then [lease] else []
    | _ => []
  | _, _ => []

theorem mem_times_step (brought : now ∈ times labels) : now ∈ times (labels ++ [label]) := by
  rw [times, List.filterMap_append]
  exact List.mem_append_left _ brought

/-- A lease that was given for a task: the present one, or an earlier one that is over. -/
def Given (labels : List (DeviceCall × DeviceReply)) (world : DeviceWorld) (key : TaskKey) (attempt : Nat)
    (columns : LeaseColumns) : Prop :=
  ∃ row, world.dispatches.find? key = some row ∧ (row.leaseAttempt = attempt ∧ row.lease = some columns ∨
      attempt < row.leaseAttempt ∧ ∃ now ∈ times labels, columns.leaseExpiresAt ≤ now)

/-- A poll that waits: its time was brought by a call, its row is one of its session's, and
the lease of that row was given. -/
structure Polled (labels : List (DeviceCall × DeviceReply)) (world : DeviceWorld) (session : SessionRow)
    (row : DispatchRow) (now : Timestamp) : Prop where
  brought : now ∈ times labels
  scope : row.scope = session.scope
  given : ∀ columns, row.lease = some columns → Given labels world row.key row.leaseAttempt columns

/-- Every poll that waits is as it should be. -/
def AllPolled (labels : List (DeviceCall × DeviceReply)) (world : DeviceWorld) : Prop :=
  ∀ {ticket session row now ttlMs}, world.calls.find? ticket = some (.polling session row now ttlMs) →
    Polled labels world session row now

theorem over_of_running
    (past : row.running? now = none) (lease : row.lease = some columns) : columns.leaseExpiresAt ≤ now := by
  rw [DispatchRow.running?, lease, Option.filter_some] at past
  split at past
  · cases past
  · rename_i expired
    exact Int.not_lt.mp (by simpa using expired)

theorem lease_of_running (running : row.running? now = some columns) : row.lease = some columns :=
  (Option.filter_eq_some_iff.mp running).1

theorem given_step {attempt : Nat} (polled : AllPolled labels before) (given : Given labels before key attempt columns)
    (effect : Effect host before label.1 label.2 after) :
    Given (labels ++ [label]) after key attempt columns := by
  obtain ⟨row, found, held⟩ := given
  -- Only a new lease changes the row's own: the one it replaces is over.
  have replaced : ∃ new, after.dispatches.find? key = some new ∧
      (new.leaseAttempt = row.leaseAttempt ∧ new.lease = row.lease ∨ row.leaseAttempt < new.leaseAttempt ∧
        ∀ columns, row.lease = some columns → ∃ now ∈ times labels, columns.leaseExpiresAt ≤ now) := by
    obtain ⟨call, reply⟩ := label
    cases effect with
    | leased waiting here scope unacknowledged past updated =>
      obtain ⟨new, stored, rfl | ⟨rfl, rfl⟩⟩ := Table.find?_changed updated found
      · exact ⟨_, stored, .inl ⟨rfl, rfl⟩⟩
      · rw [here] at found
        cases found
        exact ⟨_, stored, .inr ⟨Nat.lt_succ_self _, fun columns lease =>
          ⟨_, (polled waiting).brought, over_of_running past lease⟩⟩⟩
    | queued waiting verified inserted => exact ⟨row, Table.find?_kept inserted found, .inl ⟨rfl, rfl⟩⟩
    | accepted inUse here scope running same updated =>
      obtain ⟨new, stored, rfl | ⟨rfl, rfl⟩⟩ := Table.find?_changed updated found
      · exact ⟨_, stored, .inl ⟨rfl, rfl⟩⟩
      · refine ⟨_, stored, .inl ?_⟩
        unfold acknowledgedRow
        split
        · exact ⟨rfl, rfl⟩
        · exact ⟨rfl, rfl⟩
    | resulted inUse here scope acknowledged device inserted updated =>
      obtain ⟨new, stored, rfl | ⟨rfl, rfl⟩⟩ := Table.find?_changed updated found
      all_goals exact ⟨_, stored, .inl ⟨rfl, rfl⟩⟩
    | _ => exact ⟨row, found, .inl ⟨rfl, rfl⟩⟩
  obtain ⟨new, stored, ⟨sameAttempt, sameLease⟩ | ⟨more, past⟩⟩ := replaced
  · refine ⟨new, stored, ?_⟩
    rw [sameAttempt, sameLease]
    rcases held with present | ⟨less, now, brought, past⟩
    · exact .inl present
    · exact .inr ⟨less, now, mem_times_step brought, past⟩
  · refine ⟨new, stored, .inr ?_⟩
    rcases held with ⟨rfl, lease⟩ | ⟨less, now, brought, past⟩
    · obtain ⟨now, brought, past⟩ := past columns lease
      exact ⟨more, now, mem_times_step brought, past⟩
    · exact ⟨Nat.lt_trans less more, now, mem_times_step brought, past⟩

theorem Polled.step (polled : Polled labels before session row now) (all : AllPolled labels before)
    (effect : Effect host before label.1 label.2 after) : Polled (labels ++ [label]) after session row now where
  brought := mem_times_step polled.brought
  scope := polled.scope
  given columns lease := given_step all (polled.given columns lease) effect

/-- A poll that waits has waited before, or is asked in this step. -/
theorem polling_step {ticket ttlMs : Nat} (transition : (machine host users devices).system.Step before label after)
    (waiting : after.calls.find? ticket = some (.polling session row now ttlMs)) :
    before.calls.find? ticket = some (.polling session row now ttlMs) ∨
      (∃ sessionId, label.1 = .poll sessionId now ttlMs) ∧ after.dispatches = before.dispatches ∧
        firstOf (before.dispatches.rows.filter (awaitsLease session)) = some row := by
  by_cases old : ticket < before.calls.next
  · exact .inl ((moves_step transition).found old waiting)
  · have grown : after.calls.next ≠ before.calls.next := fun same => old (same ▸ Suspension.find?_lt waiting)
    obtain ⟨call, reply⟩ := label
    cases effect_of_answer transition with
    | polling inUse first =>
      cases Suspension.found_new old waiting
      exact .inr ⟨⟨_, rfl⟩, rfl, first⟩
    | opening requested =>
      obtain ⟨_, _, _, _, _, _, _, _, _, rfl⟩ := requestSession_ok requested
      cases Suspension.found_new old waiting
    | enqueuing => cases Suspension.found_new old waiting
    | _ => exact absurd rfl grown

theorem allPolled_step (polled : AllPolled labels before)
    (transition : (machine host users devices).system.Step before label after) :
    AllPolled (labels ++ [label]) after := by
  intro ticket session row now ttlMs waiting
  rcases polling_step transition waiting with older | ⟨⟨sessionId, asked⟩, unmoved, first⟩
  · exact (polled older).step polled (effect_of_step transition)
  · obtain ⟨stored, scope, _⟩ := selected first
    refine ⟨?_, scope, ?_⟩
    · rw [times, List.filterMap_append]
      refine List.mem_append_right _ (List.mem_filterMap.mpr ⟨label, List.mem_singleton_self _, ?_⟩)
      rw [asked, timeOf]
    · intro columns lease
      refine ⟨row, ?_, .inl ⟨rfl, lease⟩⟩
      rw [unmoved]
      exact Table.find?_self stored

theorem mem_leasesOf (listed : lease ∈ leasesOf key world label) :
    ∃ ticket token session row now ttlMs, label = (.resume ticket token, .lease lease) ∧
      world.calls.find? ticket = some (.polling session row now ttlMs) ∧
      key = (session.tenantId, lease.taskId) := by
  unfold leasesOf at listed
  split at listed
  · rename_i returned ticket token _ _
    split at listed
    · rename_i session row now ttlMs waiting
      split at listed
      · rename_i same
        cases List.mem_singleton.mp listed
        exact ⟨ticket, token, session, row, now, ttlMs, Prod.ext ‹_› ‹_›, waiting, same.symm⟩
      · cases listed
    · cases listed
  · cases listed

/-- A poll returns the lease of the task it has selected. -/
theorem task_of_lease {ticket : Nat} {token : String} {ttlMs : Nat}
    (waiting : before.calls.find? ticket = some (.polling session row now ttlMs))
    (effect : Effect host before (.resume ticket token) (.lease lease) after) :
    lease.taskId = row.taskId := by
  cases effect with
  | returned waits held running same =>
    cases waiting.symm.trans waits
    subst same
    rcases held with rfl | ⟨found, _⟩
    · rfl
    · exact congrArg Prod.snd (Table.find?_key found)
  | leased waits found scope unacknowledged past updated =>
    cases waiting.symm.trans waits
    exact congrArg Prod.snd (Table.find?_key found)

/-- What a step returns was given. -/
theorem given_returned (polled : AllPolled labels before)
    (transition : (machine host users devices).system.Step before label after)
    (listed : lease ∈ leasesOf key before label) :
    Given (labels ++ [label]) after key lease.attempt ⟨lease.leaseToken, lease.leasedAt, lease.expiresAt⟩ := by
  obtain ⟨ticket, token, session, row, now, ttlMs, rfl, waiting, rfl⟩ := mem_leasesOf listed
  have effect : Effect host before (.resume ticket token) (.lease lease) after := effect_of_step transition
  rw [task_of_lease waiting effect]
  cases effect with
  | @returned _ _ _ _ _ _ _ holder columns waits held running same =>
    cases waiting.symm.trans waits
    subst same
    refine given_step polled ?_ (effect_of_step transition)
    have stored := lease_of_running running
    rcases held with rfl | ⟨found, _⟩
    · have given := (polled waiting).given columns stored
      rwa [key_of_scope (polled waiting).scope] at given
    · exact ⟨holder, found, .inl ⟨rfl, stored⟩⟩
  | leased waits found scope unacknowledged past updated =>
    cases waiting.symm.trans waits
    exact ⟨_, Table.find?_rewritten updated found, .inl ⟨rfl, rfl⟩⟩

/-- What a run has returned was given. -/
theorem given_run (run : (machine host users devices).system.Run labels world) (key : TaskKey) :
    AllPolled labels world ∧ ∀ lease ∈ (machine host users devices).seen (leasesOf key) labels,
      Given labels world key lease.attempt ⟨lease.leaseToken, lease.leasedAt, lease.expiresAt⟩ := by
  refine run.history (motive := fun labels world => AllPolled labels world ∧
    ∀ lease ∈ (machine host users devices).seen (leasesOf key) labels,
      Given labels world key lease.attempt ⟨lease.leaseToken, lease.leasedAt, lease.expiresAt⟩) ?_ ?_
  · intro initial valid
    cases valid
    exact ⟨nofun, nofun⟩
  · rintro labels label before after prior ⟨polled, given⟩ transition
    refine ⟨allPolled_step polled transition, ?_⟩
    intro lease listed
    rw [Machine.seen_step prior] at listed
    rcases List.mem_append.mp listed with older | newer
    · exact given_step polled (given lease older) (effect_of_step transition)
    · exact given_returned polled transition newer

/-- No time that a call has brought is past the end of a lease. -/
def Unexpired (labels : List (DeviceCall × DeviceReply)) (lease : DeviceLease) : Prop :=
  ∀ now ∈ times labels, now < lease.expiresAt

/-- Of the leases returned for a task, those that are not over are one lease. -/
theorem oneToken_run {first second : DeviceLease} (run : (machine host users devices).system.Run labels world)
    (here : first ∈ (machine host users devices).seen (leasesOf key) labels)
    (there : second ∈ (machine host users devices).seen (leasesOf key) labels) (runs : Unexpired labels first)
    (runs' : Unexpired labels second) :
    first.leaseToken = second.leaseToken ∧ first.attempt = second.attempt := by
  have given := (given_run run key).2
  have present : ∀ {lease : DeviceLease}, lease ∈ (machine host users devices).seen (leasesOf key) labels →
      Unexpired labels lease → ∃ row, world.dispatches.find? key = some row ∧ row.leaseAttempt = lease.attempt ∧
        row.lease = some ⟨lease.leaseToken, lease.leasedAt, lease.expiresAt⟩ := by
    intro lease listed unexpired
    obtain ⟨row, found, present | ⟨_, now, brought, past⟩⟩ := given lease listed
    · exact ⟨row, found, present⟩
    · exact absurd (unexpired now brought) (Int.not_lt.mpr past)
  obtain ⟨row, found, attempt, lease⟩ := present here runs
  obtain ⟨row', found', attempt', lease'⟩ := present there runs'
  obtain rfl : row = row' := Option.some.inj (found.symm.trans found')
  have same := Option.some.inj (lease.symm.trans lease')
  exact ⟨congrArg LeaseColumns.leaseToken same, attempt.symm.trans attempt'⟩

/-- A poll that is asked for after a task is acknowledged returns no lease of it. -/
theorem acknowledged_unleased {asked waiting resumed after : DeviceWorld} {between : List (DeviceCall × DeviceReply)}
    {sessionId token : String} {ttlMs ticket : Nat} {reply : DeviceReply}
    (found : asked.dispatches.find? key = some row) (acknowledged : row.acknowledgedAt ≠ none)
    (polls : (machine host users devices).system.Step asked (.poll sessionId now ttlMs, .verifying ticket) waiting)
    (steps : (machine host users devices).system.Steps waiting between resumed)
    (resumes : (machine host users devices).system.Step resumed (.resume ticket token, reply) after) :
    leasesOf key resumed (.resume ticket token, reply) = [] := by
  refine List.eq_nil_iff_forall_not_mem.mpr fun lease listed => ?_
  have asks : Effect host asked (.poll sessionId now ttlMs) (.verifying ticket) waiting := effect_of_step polls
  obtain ⟨_, _, session, selected', now', ttlMs', same, waits, rfl⟩ := mem_leasesOf listed
  cases same
  cases asks with
  | @polling _ _ _ session' first inUse selects =>
    obtain ⟨stored, scope, unacknowledged⟩ := selected selects
    -- The row that the poll has selected is the one it still waits with.
    have asked' := Suspension.found_steps DeviceWorld.calls moves_step steps (Nat.lt_succ_self _) waits
    cases Suspension.found_new (Nat.lt_irrefl _) asked'
    rw [task_of_lease waits (effect_of_step resumes), ← key_of_scope scope, Table.find?_self stored] at found
    cases found
    exact acknowledged unacknowledged

end DeviceWorld

end QuarkSelfAI.ControlPlane

import QuarkSelfAI.ControlPlane.DeviceLeases

/-!
# Scopes of device sessions

A session reads and writes the rows of its own tenant, user and device: two worlds that
agree on these answer it alike and still agree afterwards, and every other row stays.
-/

namespace QuarkSelfAI.ControlPlane

open Foundation ClientRuntime

def ResultRow.scope (row : ResultRow) : Scope := ⟨row.tenantId, row.userId, row.result.deviceId⟩

namespace DeviceWorld

variable {host : DeviceHost} {users : Table UserRow.key} {devices : Table DeviceRow.key} {world : DeviceWorld}
  {before after : DeviceWorld} {row : DispatchRow} {change : DispatchRow → DispatchRow} {key : TaskKey}
  {call : DeviceCall}

def dispatchesOf (scope : Scope) (world : DeviceWorld) : List DispatchRow :=
  world.dispatches.rows.filter fun row => row.scope = scope

def resultsOf (scope : Scope) (world : DeviceWorld) : List ResultRow :=
  world.results.rows.filter fun row => row.scope = scope

/-! ## Results of dispatches -/

/-- Every result is one of a dispatch of its scope. -/
def ResultsOwned (world : DeviceWorld) : Prop :=
  ∀ row ∈ world.results, ∃ dispatch, world.dispatches.find? row.key = some dispatch ∧ dispatch.scope = row.scope

theorem resultsOwned_step {reply : DeviceReply}
    (owned : ResultsOwned before) (effect : Effect host before call reply after) : ResultsOwned after := by
  have kept : ∀ row ∈ before.results, ∃ dispatch, after.dispatches.find? row.key = some dispatch ∧
      dispatch.scope = row.scope := by
    intro row stored
    obtain ⟨old, found, scope⟩ := owned row stored
    obtain ⟨new, finds, later⟩ := later_step found effect
    exact ⟨new, finds, later.scope.trans scope⟩
  cases effect with
  | resulted inUse found scope acknowledged device inserted updated =>
    intro row listed
    rcases (Table.mem_insert inserted).mp listed with older | rfl
    · exact kept row older
    · refine ⟨_, Table.find?_rewritten updated found, ?_⟩
      refine scope.trans (Eq.symm ?_)
      exact congrArg (Scope.mk _ _) device
  | _ => exact kept

theorem resultsOwned_run {labels : List (DeviceCall × DeviceReply)}
    (run : (machine host users devices).system.Run labels world) : ResultsOwned world := by
  refine run.history (motive := fun _ world => ResultsOwned world) ?_ ?_
  · intro initial valid
    cases valid
    nofun
  · intro _ _ before after _ owned transition
    exact resultsOwned_step owned (effect_of_step transition)

/-! ## What a session changes -/

/-- A call on a session: one that names it, or one that goes on with a poll on it. -/
inductive OnSession (world : DeviceWorld) : DeviceCall → String → Scope → Prop where
  | named {call : DeviceCall} {session : SessionRow} {sessionId : String}
      (names : sessionOf call = some sessionId)
      (found : world.directory.sessions.find? sessionId = some session) :
      OnSession world call sessionId session.scope
  | polls {ticket : Nat} {token sessionId : String} {session : SessionRow} {row : DispatchRow}
      {now : Timestamp} {ttlMs : Nat}
      (waiting : world.calls.find? ticket = some (.polling session row now ttlMs)) :
      OnSession world (.resume ticket token) sessionId session.scope

/-- What is not of a session is as it was. -/
structure OthersKept (sessionId : String) (scope : Scope) (before after : DeviceWorld) : Prop where
  users : after.directory.users = before.directory.users
  devices : after.directory.devices = before.directory.devices
  challenges : after.challenges = before.challenges
  sessions : ∀ other, other ≠ sessionId → after.directory.sessions.find? other = before.directory.sessions.find? other
  dispatches : ∀ other, other ≠ scope → dispatchesOf other after = dispatchesOf other before
  results : ∀ other, other ≠ scope → resultsOf other after = resultsOf other before

theorem OthersKept.refl {sessionId : String} {scope : Scope}
    (directory : after.directory = before.directory) (challenges : after.challenges = before.challenges)
    (dispatches : after.dispatches = before.dispatches) (results : after.results = before.results) :
    OthersKept sessionId scope before after where
  users := by rw [directory]
  devices := by rw [directory]
  challenges := challenges
  sessions other _ := by rw [directory]
  dispatches other _ := by rw [dispatchesOf, dispatches, dispatchesOf]
  results other _ := by rw [resultsOf, results, resultsOf]

/-- Rewriting a row of one scope leaves the dispatches of others. -/
theorem dispatchesOf_updated {keeps : ∀ row, (change row).key = row.key} {other : Scope}
    (updated : after.dispatches = before.dispatches.update key change keeps)
    (same : ∀ row, (change row).scope = row.scope) (found : before.dispatches.find? key = some row)
    (apart : row.scope ≠ other) : dispatchesOf other after = dispatchesOf other before := by
  refine Table.filter_update_apart updated (fun row => ?_) found (decide_eq_false apart)
  rw [same row]

theorem acknowledgedRow_scope (at' : Timestamp) (row : DispatchRow) : (acknowledgedRow at' row).scope = row.scope := by
  unfold acknowledgedRow
  split
  · rfl
  · rfl

theorem others_step {reply : DeviceReply}
    {sessionId : String} {scope : Scope} (on : OnSession before call sessionId scope)
    (effect : Effect host before call reply after) : OthersKept sessionId scope before after := by
  cases effect with
  | challenged | opening | enqueuing | roster => cases on with | named names => cases names
  | opened waiting | queued waiting =>
    cases on with
    | named names => cases names
    | polls polls => cases polls.symm.trans waiting
  | leased waiting found inScope unacknowledged past updated =>
    cases on with
    | named names => cases names
    | polls polls =>
      cases polls.symm.trans waiting
      refine ⟨rfl, rfl, rfl, fun _ _ => rfl, ?_, fun _ _ => rfl⟩
      intro other apart
      refine dispatchesOf_updated updated (fun _ => rfl) found ?_
      rw [inScope]
      exact Ne.symm apart
  | accepted inUse found inScope running same updated =>
    cases on with
    | named names stored =>
      cases names
      cases inUse.1.symm.trans stored
      refine ⟨rfl, rfl, rfl, fun _ _ => rfl, ?_, fun _ _ => rfl⟩
      intro other apart
      refine dispatchesOf_updated updated (acknowledgedRow_scope _) found ?_
      rw [inScope]
      exact Ne.symm apart
  | resulted inUse found inScope acknowledged device inserted updated =>
    cases on with
    | named names stored =>
      cases names
      cases inUse.1.symm.trans stored
      refine ⟨rfl, rfl, rfl, fun _ _ => rfl, ?_, ?_⟩
      · intro other apart
        refine dispatchesOf_updated updated (fun _ => rfl) found ?_
        rw [inScope]
        exact Ne.symm apart
      · intro other apart
        have elsewhere : ¬ (ResultRow.scope ⟨_, _, _⟩ = other) := fun same =>
          apart (same.symm.trans (congrArg (Scope.mk _ _) device))
        rw [resultsOf, Table.rows_insert inserted, List.filter_append,
          List.filter_cons_of_neg (by simpa using elsewhere), List.filter_nil, List.append_nil, resultsOf]
  | lapsed named =>
    cases on with
    | named names stored =>
      cases named.symm.trans names
      refine ⟨rfl, rfl, rfl, ?_, fun _ _ => rfl, fun _ _ => rfl⟩
      intro other apart
      exact (Directory.find?_setSession _ other _ _).trans (if_neg apart)
    | polls => cases named
  | _ => exact .refl rfl rfl rfl rfl

/-! ## What a session depends on -/

/-- Two worlds agree on a session and on the dispatches and results of its scope. -/
structure Agree (sessionId : String) (scope : Scope) (first second : DeviceWorld) : Prop where
  session : first.directory.sessions.find? sessionId = second.directory.sessions.find? sessionId
  inScope : ∀ session, second.directory.sessions.find? sessionId = some session → session.scope = scope
  dispatches : dispatchesOf scope first = dispatchesOf scope second
  results : resultsOf scope first = resultsOf scope second

/-- Two replies are one reply, up to the ticket under which the same poll waits. -/
def SameReply (first second : DeviceReply × DeviceWorld) : Prop :=
  first.1 = second.1 ∨ ∃ ticket ticket' session row now ttlMs,
    first.1 = .verifying ticket ∧ second.1 = .verifying ticket' ∧
    first.2.calls.find? ticket = some (.polling session row now ttlMs) ∧
    second.2.calls.find? ticket' = some (.polling session row now ttlMs)

/-- Two worlds answer alike, and agree afterwards. -/
structure Alike (sessionId : String) (scope : Scope) (first second : DeviceReply × DeviceWorld) : Prop where
  reply : SameReply first second
  agree : Agree sessionId scope first.2 second.2

/-- Two outcomes are one, and leave worlds that agree. -/
inductive SameOutcome {α : Type} (sessionId : String) (scope : Scope) :
    Except String (α × DeviceWorld) → Except String (α × DeviceWorld) → Prop where
  | ok {value : α} {first second : DeviceWorld} (agree : Agree sessionId scope first second) :
      SameOutcome sessionId scope (.ok (value, first)) (.ok (value, second))
  | error (message : String) : SameOutcome sessionId scope (.error message) (.error message)

section Agreeing

variable {sessionId : String} {scope : Scope} {first second : DeviceWorld} {session : SessionRow} {now : Timestamp}

theorem mem_dispatchesOf : row ∈ dispatchesOf scope world ↔ row ∈ world.dispatches ∧ row.scope = scope := by
  rw [dispatchesOf, List.mem_filter, decide_eq_true_eq]
  rfl

theorem mem_resultsOf {row : ResultRow} : row ∈ resultsOf scope world ↔ row ∈ world.results ∧ row.scope = scope := by
  rw [resultsOf, List.mem_filter, decide_eq_true_eq]
  rfl

theorem taskRow_iff {taskId : String} (inScope : session.scope = scope) : taskRow session taskId world = some row ↔
      row ∈ dispatchesOf scope world ∧ row.key = (session.tenantId, taskId) := by
  rw [taskRow_eq_some_iff, Table.find?_eq_some_iff, mem_dispatchesOf, inScope, and_right_comm]

theorem Agree.taskRow (agree : Agree sessionId scope first second) (inScope : session.scope = scope)
    (taskId : String) : taskRow session taskId first = taskRow session taskId second := by
  ext row
  rw [taskRow_iff inScope, taskRow_iff inScope, agree.dispatches]

/-- The result of a dispatch of a scope is one of that scope. -/
theorem result_iff (owned : ResultsOwned world) {dispatch : DispatchRow}
    (found : world.dispatches.find? key = some dispatch) (inScope : dispatch.scope = scope) {row : ResultRow} :
    world.results.find? key = some row ↔ row ∈ resultsOf scope world ∧ row.key = key := by
  rw [Table.find?_eq_some_iff, mem_resultsOf]
  constructor
  · rintro ⟨stored, rfl⟩
    obtain ⟨own, finds, same⟩ := owned row stored
    cases found.symm.trans finds
    exact ⟨⟨stored, same.symm.trans inScope⟩, rfl⟩
  · rintro ⟨⟨stored, _⟩, keyed⟩
    exact ⟨stored, keyed⟩

theorem awaiting_eq (world : DeviceWorld) : world.dispatches.rows.filter (awaitsLease session) =
    (dispatchesOf session.scope world).filter (awaitsLease session) := by
  rw [dispatchesOf, List.filter_filter]
  refine List.filter_congr fun row _ => ?_
  by_cases own : row.scope = session.scope
  · simp [own]
  · simp [awaitsLease, own]

theorem Agree.rewritten (agree : Agree sessionId scope first second) (keeps : ∀ row, (change row).key = row.key)
    (same : ∀ row, (change row).scope = row.scope) :
    ((first.dispatches.update key change keeps).rows.filter fun row => row.scope = scope) =
      (second.dispatches.update key change keeps).rows.filter fun row => row.scope = scope := by
  have selected : ∀ row, decide ((change row).scope = scope) = decide (row.scope = scope) := by
    intro row
    rw [same row]
  rw [Table.filter_update rfl selected, Table.filter_update rfl selected]
  exact congrArg _ agree.dispatches

theorem Agree.updated (agree : Agree sessionId scope first second) (keeps : ∀ row, (change row).key = row.key)
    (same : ∀ row, (change row).scope = row.scope) :
    Agree sessionId scope { first with dispatches := first.dispatches.update key change keeps }
      { second with dispatches := second.dispatches.update key change keeps } :=
  { agree with dispatches := agree.rewritten keeps same }

theorem settle_alike {α : Type} {wrap : α → DeviceReply} {one other : Except String (α × DeviceWorld)}
    (agree : Agree sessionId scope first second) (same : SameOutcome sessionId scope one other) :
    Alike sessionId scope (settle first wrap one) (settle second wrap other) := by
  cases same with
  | ok after => exact ⟨.inl rfl, after⟩
  | error message => exact ⟨.inl rfl, agree⟩

theorem withSession_alike {body body' : SessionRow → DeviceReply × DeviceWorld}
    (agree : Agree sessionId scope first second)
    (within : ∀ session, session.scope = scope → Alike sessionId scope (body session) (body' session)) :
    Alike sessionId scope (withSession sessionId now first body) (withSession sessionId now second body') := by
  cases found : second.directory.sessions.find? sessionId with
  | none =>
    simp only [withSession, activeSession, agree.session, found]
    exact ⟨.inl rfl, agree⟩
  | some row =>
    by_cases active : row.state = .active
    · by_cases late : row.expiresAt ≤ now
      · simp only [withSession, activeSession, agree.session, found, active, ne_eq, not_true_eq_false,
          if_false, late, if_true]
        refine ⟨.inl rfl, ?_, ?_, agree.dispatches, agree.results⟩
        · simp only [Directory.find?_setSession, agree.session]
        · intro session stored
          rw [Directory.find?_setSession, if_pos rfl, found] at stored
          cases stored
          exact agree.inScope row found
      · simp only [withSession, activeSession, agree.session, found, active, ne_eq, not_true_eq_false, if_false, late]
        exact within row (agree.inScope row found)
    · simp only [withSession, activeSession, agree.session, found, active, ne_eq, not_false_eq_true, if_true]
      exact ⟨.inl rfl, agree⟩

theorem commitLease_same {ttlMs : Nat} {token : String}
    (agree : Agree sessionId scope first second) (inScope : session.scope = scope) :
    SameOutcome sessionId scope (commitLease host session row now ttlMs token first)
      (commitLease host session row now ttlMs token second) := by
  simp only [commitLease, grantLease, agree.taskRow inScope]
  cases verifySignedExecutionPlan host.plans row.plan now with
  | error message => exact .error message
  | ok plan =>
    cases row.running? now with
    | some columns => exact .ok agree
    | none =>
      cases (taskRow session row.taskId second).filter _ with
      | none => exact .ok agree
      | some current =>
        cases running : current.running? now with
        | some columns =>
          simp only [running]
          exact .ok agree
        | none =>
          simp only [running]
          cases checkToken token "lease" with
          | error message => exact .error message
          | ok done => exact .ok (agree.updated _ fun _ => rfl)

theorem acknowledge_alike {leaseToken taskId : String}
    (agree : Agree sessionId scope first second) (inScope : session.scope = scope) :
    Alike sessionId scope (acknowledge session leaseToken taskId now first)
      (acknowledge session leaseToken taskId now second) := by
  unfold acknowledge
  rw [agree.taskRow inScope]
  cases taskRow session taskId second with
  | none => exact ⟨.inl rfl, agree⟩
  | some row =>
    dsimp only
    split
    · exact ⟨.inl rfl, agree.updated _ (acknowledgedRow_scope _)⟩
    · exact ⟨.inl rfl, agree⟩

theorem submitResult_same {input : DeviceResult} (agree : Agree sessionId scope first second)
    (inScope : session.scope = scope) (owned : ResultsOwned first) (owned' : ResultsOwned second) :
    SameOutcome sessionId scope (submitResult host session input first)
      (submitResult host session input second) := by
  simp only [submitResult, agree.taskRow inScope]
  cases task : taskRow session input.taskId second with
  | none => exact .error _
  | some row =>
    have here : taskRow session input.taskId first = some row := (agree.taskRow inScope _).trans task
    obtain ⟨found, own⟩ := taskRow_eq_some_iff.mp here
    obtain ⟨found', _⟩ := taskRow_eq_some_iff.mp task
    have results : first.results.find? (session.tenantId, input.taskId) =
        second.results.find? (session.tenantId, input.taskId) := by
      ext result
      rw [result_iff owned found (own.trans inScope), result_iff owned' found' (own.trans inScope), agree.results]
    rw [results]
    rw [throwIf]
    split
    · exact .error _
    · dsimp only [bind, Except.bind]
      cases validateResult host input with
      | error message => exact .error message
      | ok valid =>
        cases stored : second.results.find? (session.tenantId, input.taskId) with
        | some existing =>
          simp only [throwIf]
          split
          · exact .error _
          · exact .ok agree
        | none =>
          let result : ResultRow := ⟨session.tenantId, session.userId, input⟩
          have fresh : first.results.find? result.key = none := results.trans stored
          have fresh' : second.results.find? result.key = none := stored
          obtain ⟨next, inserted⟩ := Table.exists_insert fresh
          obtain ⟨next', inserted'⟩ := Table.exists_insert fresh'
          simp only [Table.insertOrThrow, result, inserted, inserted']
          have keeps : ∀ row : DispatchRow,
              ({ row with state := endState input.outcome } : DispatchRow).key = row.key := fun _ => rfl
          refine .ok ⟨agree.session, agree.inScope, agree.rewritten keeps fun _ => rfl, ?_⟩
          rw [resultsOf, resultsOf, Table.rows_insert inserted, Table.rows_insert inserted',
            List.filter_append, List.filter_append]
          exact congrArg (· ++ _) agree.results

/-- Two worlds that agree on a session answer a call that names it alike. -/
theorem named_alike (agree : Agree sessionId scope first second)
    (owned : ResultsOwned first) (owned' : ResultsOwned second) (named : sessionOf call = some sessionId) :
    Alike sessionId scope (answer host call first) (answer host call second) := by
  cases call with
  | poll other now ttlMs =>
    cases named
    simp only [answer, requestLease]
    cases positive ttlMs "lease ttl" with
    | error message => exact ⟨.inl rfl, agree⟩
    | ok done =>
      refine withSession_alike agree fun session own => ?_
      subst own
      rw [awaiting_eq, awaiting_eq, agree.dispatches]
      cases firstOf ((dispatchesOf session.scope second).filter (awaitsLease session)) with
      | none => exact ⟨.inl rfl, agree⟩
      | some row =>
        refine ⟨.inr ⟨_, _, session, row, now, ttlMs, rfl, rfl, ?_, ?_⟩, ?_⟩
        · rw [Suspension.find?_suspend, if_pos rfl]
        · rw [Suspension.find?_suspend, if_pos rfl]
        · exact ⟨agree.session, agree.inScope, agree.dispatches, agree.results⟩
  | acknowledge other leaseToken taskId now =>
    cases named
    exact withSession_alike agree fun session own => acknowledge_alike agree own
  | submitResult other input now =>
    cases named
    exact withSession_alike agree fun session own => settle_alike agree (submitResult_same agree own owned owned')
  | _ => cases named

/-- A poll that goes on is answered alike wherever it waits. -/
theorem resumed_alike {ticket ticket' : Nat} {token : String} {ttlMs : Nat} (agree : Agree sessionId scope first second)
    (own : session.scope = scope) (waiting : first.calls.find? ticket = some (.polling session row now ttlMs))
    (waiting' : second.calls.find? ticket' = some (.polling session row now ttlMs)) :
    Alike sessionId scope (answer host (.resume ticket token) first)
      (answer host (.resume ticket' token) second) := by
  simp only [answer, waiting, waiting']
  have agrees : Agree sessionId scope { first with calls := first.calls.resume ticket }
      { second with calls := second.calls.resume ticket' } :=
    ⟨agree.session, agree.inScope, agree.dispatches, agree.results⟩
  exact settle_alike agrees (commitLease_same agrees own)

end Agreeing

/-! ## Safety -/

/-- The service over runs, however its calls and their waiting interleave. -/
structure DeviceSafe (host : DeviceHost) (users : Table UserRow.key) (devices : Table DeviceRow.key)
    (labels : List (DeviceCall × DeviceReply)) (world : DeviceWorld) : Prop where
  /-- A challenge opens at most one session. -/
  opensOnce : ∀ challengeId, ((machine host users devices).seen (opensOf challengeId) labels).length ≤ 1
  /-- A device has at most one active session. -/
  oneActive : OneActive world.directory.sessions
  /-- Later a task is leased as now or by a higher attempt, and as now once acknowledged. -/
  leases : ∀ {after later key old}, world.dispatches.find? key = some old →
    (machine host users devices).system.Steps world after later →
      ∃ new, later.dispatches.find? key = some new ∧ Later old new
  /-- A poll that is asked for after a task is acknowledged returns no lease of it. -/
  unleased : ∀ {key row sessionId now ttlMs ticket waiting between resumed token reply after},
    world.dispatches.find? key = some row → row.acknowledgedAt ≠ none →
      (machine host users devices).system.Step world (.poll sessionId now ttlMs, .verifying ticket) waiting →
      (machine host users devices).system.Steps waiting between resumed →
      (machine host users devices).system.Step resumed (.resume ticket token, reply) after →
        leasesOf key resumed (.resume ticket token, reply) = []
  /-- Of the leases returned for a task, those that are not over are one lease. -/
  oneToken : ∀ {key first second}, first ∈ (machine host users devices).seen (leasesOf key) labels →
      second ∈ (machine host users devices).seen (leasesOf key) labels →
        Unexpired labels first → Unexpired labels second →
          first.leaseToken = second.leaseToken ∧ first.attempt = second.attempt
  /-- A stored result stays. -/
  results : ∀ {after later key row}, world.results.find? key = some row →
    (machine host users devices).system.Steps world after later → later.results.find? key = some row
  /-- A call on a session changes rows of its tenant, user and device alone. -/
  changes : ∀ {call reply after sessionId scope}, OnSession world call sessionId scope →
    (machine host users devices).system.Step world (call, reply) after → OthersKept sessionId scope world after
  /-- A call that names a session depends on these rows alone. -/
  depends : ∀ {users' devices' labels' other call sessionId scope},
    (machine host users' devices').system.Run labels' other → Agree sessionId scope world other →
      sessionOf call = some sessionId → Alike sessionId scope (answer host call world) (answer host call other)
  /-- So does a poll that goes on. -/
  resumes : ∀ {other ticket ticket' token sessionId session row now ttlMs}, Agree sessionId session.scope world other →
      world.calls.find? ticket = some (.polling session row now ttlMs) →
      other.calls.find? ticket' = some (.polling session row now ttlMs) →
        Alike sessionId session.scope (answer host (.resume ticket token) world)
          (answer host (.resume ticket' token) other)

theorem devices_safe {labels : List (DeviceCall × DeviceReply)} {world : DeviceWorld}
    (run : (machine host users devices).system.Run labels world) : DeviceSafe host users devices labels world where
  opensOnce := opens_once run
  oneActive := oneActive_run run
  leases found steps := later_steps found steps
  unleased found acknowledged polls steps resumed := acknowledged_unleased found acknowledged polls steps resumed
  oneToken here there runs runs' := oneToken_run run here there runs runs'
  results found steps := result_steps found steps
  changes on transition := others_step on (effect_of_step transition)
  depends otherRun agree named := named_alike agree (resultsOwned_run run) (resultsOwned_run otherRun) named
  resumes agree waiting waiting' := resumed_alike agree rfl waiting waiting'

def leasedDispatch : Dispatch := sampleDispatch "task.one" "2026-09-06T01:00:00.000Z" "2026-09-06T00:00:00.000Z"

def leasingSession : SessionRow :=
  ⟨"session.one", "test.alpha", "user.owner", "device.owner", sampleStart, sampleStart + 300000, .active⟩

/-- A dispatch is leased, acknowledged and answered by a result. -/
def answeringCalls : List DeviceCall :=
  openingCalls ++ leasingCalls ++ [.submitResult "session.one" sampleResult (sampleStart + 2)]

theorem answered_safe : (sampleMachine.replay answeringCalls sampleMachine.initial).1.getLast?.map (·.2) =
      some (.result ⟨"test.alpha", "user.owner", sampleResult⟩) ∧ DeviceSafe sampleDeviceHost sampleUsers sampleDevices
      (sampleMachine.replay answeringCalls sampleMachine.initial).1
      (sampleMachine.replay answeringCalls sampleMachine.initial).2 := by
  refine ⟨?_, devices_safe (sampleMachine.replay_run answeringCalls)⟩
  have first : verifySignedExecutionPlan sampleDeviceHost.plans leasedDispatch.plan sampleStart = .ok _ :=
    samplePlan_accepted rfl le_rfl (by decide)
  have stored : verifySignedExecutionPlan sampleDeviceHost.plans (queuedRow leasedDispatch).plan sampleStart =
      .ok (samplePlan "2026-09-06T01:00:00.000Z") := by
    rw [leasedDispatch, sampleDispatch_plan]
    exact samplePlan_verified
  have calls : answeringCalls = openingCalls ++ [.enqueue leasedDispatch sampleStart, .resume 1 "",
      .poll "session.one" sampleStart 60000, .resume 2 "lease.one",
      .acknowledge "session.one" "lease.one" "task.one" (sampleStart + 1),
      .submitResult "session.one" sampleResult (sampleStart + 2)] := rfl
  rw [calls, Machine.replay_append]
  generalize opened : (sampleMachine.replay openingCalls sampleMachine.initial).2 = world
  obtain ⟨next, later, selected, found⟩ : world.calls.next = 1 ∧
      (enqueued leasedDispatch sampleStart world).2.calls.next = 2 ∧
      firstOf ((enqueued leasedDispatch sampleStart world).2.dispatches.rows.filter (awaitsLease leasingSession)) =
        some (queuedRow leasedDispatch) ∧
      (enqueued leasedDispatch sampleStart world).2.directory.sessions.find? "session.one" = some leasingSession := by
    rw [← opened]
    decide
  rw [sampleMachine, replay_enqueue next (by decide) first,
    replay_poll later rfl (activeSession_ok.mpr ⟨⟨found, rfl, by decide⟩, rfl⟩) selected stored, ← opened,
    List.getLast?_append]
  decide

end DeviceWorld

end QuarkSelfAI.ControlPlane

import QuarkSelfAI.ControlPlane.DeviceSessions

/-!
# Steps of device sessions

What each call does to challenges, sessions, dispatches and results, read off the code
once.
-/

namespace QuarkSelfAI.ControlPlane

open Foundation ClientRuntime

namespace DeviceWorld

/-- A session that is active and has time left. -/
def InUse (directory : Directory) (sessionId : String) (now : Timestamp) (session : SessionRow) : Prop :=
  directory.sessions.find? sessionId = some session ∧ session.state = .active ∧ now < session.expiresAt

variable {now : Timestamp} {session : SessionRow} {sessionId : String} {ttlMs : Nat}

theorem activeSession_ok {directory after : Directory} : activeSession sessionId now directory = (.ok session, after) ↔
      InUse directory sessionId now session ∧ after = directory := by
  unfold activeSession InUse
  cases directory.sessions.find? sessionId with
  | none => simp
  | some row =>
    dsimp only
    by_cases active : row.state = .active
    · by_cases past : row.expiresAt ≤ now
      · simp only [active, ne_eq, not_true_eq_false, if_false, past, if_true, Prod.mk.injEq,
          reduceCtorEq, false_and, Option.some.injEq, false_iff, not_and]
        rintro ⟨rfl, _, running⟩
        exact absurd past (Int.not_le.mpr running)
      · simp only [active, ne_eq, not_true_eq_false, if_false, past, Prod.mk.injEq, Except.ok.injEq, Option.some.injEq]
        constructor
        · rintro ⟨rfl, rfl⟩
          exact ⟨⟨rfl, active, Int.not_le.mp past⟩, rfl⟩
        · rintro ⟨⟨rfl, _⟩, rfl⟩
          exact ⟨rfl, rfl⟩
    · simp only [active, ne_eq, not_false_eq_true, if_true, Prod.mk.injEq, reduceCtorEq, false_and,
        Option.some.injEq, false_iff, not_and]
      rintro ⟨rfl, isActive, _⟩
      exact absurd isActive active

/-- Without a session in use, nothing happens but that its time is noticed. -/
theorem activeSession_error {directory after : Directory}
    {message : String} (refused : activeSession sessionId now directory = (.error message, after)) :
    after = directory ∨ after = { directory with
      sessions := Directory.setSession sessionId .expired directory.sessions } := by
  unfold activeSession at refused
  split at refused
  · exact .inl (Prod.mk.inj refused).2.symm
  · split at refused
    · exact .inl (Prod.mk.inj refused).2.symm
    · split at refused
      · exact .inr (Prod.mk.inj refused).2.symm
      · cases (Prod.mk.inj refused).1

theorem taskRow_eq_some_iff {taskId : String} {world : DeviceWorld}
    {row : DispatchRow} : taskRow session taskId world = some row ↔
      world.dispatches.find? (session.tenantId, taskId) = some row ∧ row.scope = session.scope := by
  rw [taskRow, Option.filter_eq_some_iff, decide_eq_true_eq]

/-- The session that a call names. -/
def sessionOf : DeviceCall → Option String
  | .poll sessionId _ _ => some sessionId
  | .acknowledge sessionId _ _ _ => some sessionId
  | .submitResult sessionId _ _ => some sessionId
  | _ => none

/-- What a call does. -/
inductive Effect (host : DeviceHost) (before : DeviceWorld) : DeviceCall → DeviceReply → DeviceWorld → Prop where
  | challenged {scope : Scope} {now : Timestamp} {ttlMs : Nat} {challenge nonce : String}
      {row : ChallengeRow} {challenges : Table ChallengeRow.challengeId} (fresh : row.consumedAt = none)
      (inserted : before.challenges.insert? row = some challenges) :
      Effect host before (.issueChallenge scope now ttlMs challenge nonce) (.challenge row)
        { before with challenges }
  | opening {proof : DeviceProof} {now : Timestamp} {ttlMs : Nat} {pending : Pending}
      (requested : requestSession proof now ttlMs before = .ok pending) :
      Effect host before (.openSession proof now ttlMs) (.verifying before.calls.next)
        { before with calls := before.calls.suspend pending }
  | enqueuing {dispatch : Dispatch} {now : Timestamp} :
      Effect host before (.enqueue dispatch now) (.verifying before.calls.next)
        { before with calls := before.calls.suspend (.enqueuing dispatch now) }
  | polling {sessionId : String} {now : Timestamp} {ttlMs : Nat} {session : SessionRow} {row : DispatchRow}
      (inUse : InUse before.directory sessionId now session)
      (first : firstOf (before.dispatches.rows.filter (awaitsLease session)) = some row) :
      Effect host before (.poll sessionId now ttlMs) (.verifying before.calls.next)
        { before with calls := before.calls.suspend (.polling session row now ttlMs) }
  | idle {sessionId : String} {now : Timestamp} {ttlMs : Nat} {session : SessionRow}
      (inUse : InUse before.directory sessionId now session) :
      Effect host before (.poll sessionId now ttlMs) .empty before
  | opened {ticket : Nat} {token : String} {proof : DeviceProof} {now : Timestamp} {ttlMs : Nat}
      {row current : ChallengeRow} {publicKey : String} {session : SessionRow}
      {challenges : Table ChallengeRow.challengeId} {sessions : Table SessionRow.sessionId}
      (waiting : before.calls.find? ticket = some (.opening proof now ttlMs row publicKey))
      (verified : host.verifyProof publicKey row.nonce proof.signature = true)
      (scope : session.scope = ⟨row.tenantId, row.userId, proof.deviceId⟩)
      (active : session.state = .active)
      (found : before.challenges.find? proof.challengeId = some current) (unconsumed : current.consumedAt = none)
      (inserted : (before.directory.sessions.mapRows (supersede session.tenantId session.deviceId)
        (supersede_sessionId session.tenantId session.deviceId)).insert? session = some sessions)
      (updated : challenges = before.challenges.update proof.challengeId (consume now) fun _ => rfl) :
      Effect host before (.resume ticket token) (.session session)
        { before with
          challenges, directory := { before.directory with sessions }, calls := before.calls.resume ticket }
  | queued {ticket : Nat} {token : String} {dispatch : Dispatch} {now : Timestamp} {plan : JsValue}
      {dispatches : Table DispatchRow.key}
      (waiting : before.calls.find? ticket = some (.enqueuing dispatch now))
      (verified : verifySignedExecutionPlan host.plans dispatch.plan now = .ok plan)
      (inserted : before.dispatches.insert? (queuedRow dispatch) = some dispatches) :
      Effect host before (.resume ticket token) (.dispatched dispatch)
        { before with dispatches, calls := before.calls.resume ticket }
  | existing {ticket : Nat} {token : String} {dispatch : Dispatch} :
      Effect host before (.resume ticket token) (.dispatched dispatch)
        { before with calls := before.calls.resume ticket }
  | returned {ticket : Nat} {token : String} {session : SessionRow} {row : DispatchRow} {now : Timestamp}
      {ttlMs : Nat} {lease : DeviceLease} {holder : DispatchRow} {columns : LeaseColumns}
      (waiting : before.calls.find? ticket = some (.polling session row now ttlMs))
      (held : holder = row ∨ before.dispatches.find? (session.tenantId, row.taskId) = some holder ∧
        holder.scope = session.scope ∧ holder.acknowledgedAt = none)
      (running : holder.running? now = some columns)
      (same : lease = { holder with plan := row.plan }.leaseOf columns) :
      Effect host before (.resume ticket token) (.lease lease)
        { before with calls := before.calls.resume ticket }
  | nothing {ticket : Nat} {token : String} {session : SessionRow} {row : DispatchRow} {now : Timestamp}
      {ttlMs : Nat} (waiting : before.calls.find? ticket = some (.polling session row now ttlMs)) :
      Effect host before (.resume ticket token) .empty
        { before with calls := before.calls.resume ticket }
  | leased {ticket : Nat} {token : String} {session : SessionRow} {row current : DispatchRow}
      {now expiresAt : Timestamp} {ttlMs : Nat} {dispatches : Table DispatchRow.key}
      (waiting : before.calls.find? ticket = some (.polling session row now ttlMs))
      (found : before.dispatches.find? (session.tenantId, row.taskId) = some current)
      (scope : current.scope = session.scope) (unacknowledged : current.acknowledgedAt = none)
      (past : current.running? now = none)
      (updated : dispatches = before.dispatches.update (session.tenantId, row.taskId)
        (leasedRow token now expiresAt) fun _ => rfl) :
      Effect host before (.resume ticket token)
        (.lease ({ leasedRow token now expiresAt current with plan := row.plan }.leaseOf
          ⟨token, now, expiresAt⟩))
        { before with dispatches, calls := before.calls.resume ticket }
  | accepted {sessionId leaseToken taskId : String} {now acceptedAt : Timestamp} {session : SessionRow}
      {row : DispatchRow} {columns : LeaseColumns} {dispatches : Table DispatchRow.key}
      (inUse : InUse before.directory sessionId now session)
      (found : before.dispatches.find? (session.tenantId, taskId) = some row)
      (scope : row.scope = session.scope) (running : row.running? now = some columns)
      (same : columns.leaseToken = leaseToken)
      (updated : dispatches = before.dispatches.update (session.tenantId, taskId)
        (acknowledgedRow acceptedAt) (acknowledgedRow_key acceptedAt)) :
      Effect host before (.acknowledge sessionId leaseToken taskId now)
        (.accepted taskId row.planId session.deviceId acceptedAt) { before with dispatches }
  | resulted {sessionId : String} {input : DeviceResult} {now : Timestamp} {session : SessionRow}
      {row : DispatchRow} {results : Table ResultRow.key} {dispatches : Table DispatchRow.key}
      (inUse : InUse before.directory sessionId now session)
      (found : before.dispatches.find? (session.tenantId, input.taskId) = some row)
      (scope : row.scope = session.scope) (acknowledged : row.acknowledgedAt ≠ none)
      (device : input.deviceId = session.deviceId)
      (inserted : before.results.insert? ⟨session.tenantId, session.userId, input⟩ = some results)
      (updated : dispatches = before.dispatches.update (session.tenantId, input.taskId)
        (fun row => { row with state := endState input.outcome }) fun _ => rfl) :
      Effect host before (.submitResult sessionId input now)
        (.result ⟨session.tenantId, session.userId, input⟩) { before with results, dispatches }
  | known {sessionId : String} {input : DeviceResult} {now : Timestamp} {session : SessionRow}
      (inUse : InUse before.directory sessionId now session)
      (found : before.results.find? (session.tenantId, input.taskId) = some ⟨session.tenantId, session.userId, input⟩) :
      Effect host before (.submitResult sessionId input now)
        (.result ⟨session.tenantId, session.userId, input⟩) before
  | lapsed {call : DeviceCall} {message sessionId : String} (named : sessionOf call = some sessionId) :
      Effect host before call (.refused message) { before with directory := { before.directory with
        sessions := Directory.setSession sessionId .expired before.directory.sessions } }
  | abandoned {ticket : Nat} {token message : String} :
      Effect host before (.resume ticket token) (.refused message)
        { before with calls := before.calls.resume ticket }
  | refused (call : DeviceCall) (message : String) : Effect host before call (.refused message) before
  | unknown (ticket : Nat) (token : String) : Effect host before (.resume ticket token) .done before
  | roster (change : RosterChange) : Effect host before (.roster change) .done
      { before with directory := before.directory.apply change.inDirectory }

section Bodies

variable {host : DeviceHost} {world next : DeviceWorld}

theorem issueChallenge_ok {scope : Scope} {challenge nonce : String}
    {row : ChallengeRow} (issued : issueChallenge host scope now ttlMs challenge nonce world = .ok (row, next)) :
    row.consumedAt = none ∧ ∃ challenges, world.challenges.insert? row = some challenges ∧
      next = { world with challenges } := by
  simp only [issueChallenge, bind_ok, deviceScope, positive, throwIf_ok, exists_const] at issued
  obtain ⟨_, _, issued⟩ := issued
  cases found : world.directory.devices.find? (scope.tenantId, scope.deviceId) with
  | none =>
    rw [found] at issued
    cases issued
  | some device =>
    simp only [found, bind_ok, checkToken, throwIf_ok, exists_const, Table.insertOrThrow_ok] at issued
    obtain ⟨_, _, _, _, challenges, inserted, same⟩ := issued
    obtain ⟨rfl, rfl⟩ := Prod.mk.inj (Except.ok.inj same)
    exact ⟨rfl, challenges, inserted, rfl⟩

theorem requestSession_ok {proof : DeviceProof} {pending : Pending}
    (requested : requestSession proof now ttlMs world = .ok pending) :
    ∃ row device, world.challenges.find? proof.challengeId = some row ∧
      world.directory.devices.find? (row.tenantId, row.deviceId) = some device ∧
      row.deviceId = proof.deviceId ∧ row.consumedAt = none ∧ device.state = .registered ∧
      world.directory.userActive row.tenantId row.userId = true ∧ now < row.expiresAt ∧
      pending = .opening proof now ttlMs row device.publicKey := by
  simp only [requestSession, bind_ok, positive, throwIf_ok, exists_const] at requested
  obtain ⟨_, _, requested⟩ := requested
  cases found : world.challenges.find? proof.challengeId with
  | none =>
    rw [found] at requested
    cases requested
  | some row =>
    rw [found] at requested
    cases known : world.directory.devices.find? (row.tenantId, row.deviceId) with
    | none =>
      simp only [known] at requested
      cases requested
    | some device =>
      simp only [known, bind_ok, throwIf_ok, exists_const, not_or, ne_eq, not_not, Bool.not_eq_false,
        not_le, Except.ok.injEq] at requested
      obtain ⟨⟨same, unconsumed, registered, active⟩, running, rfl⟩ := requested
      exact ⟨row, device, rfl, known, same, unconsumed, registered, active, running, rfl⟩

theorem commitSession_ok {proof : DeviceProof} {row : ChallengeRow} {publicKey token : String}
    (committed : commitSession host proof now ttlMs row publicKey token world = .ok (session, next)) :
    host.verifyProof publicKey row.nonce proof.signature = true ∧
      session.scope = ⟨row.tenantId, row.userId, proof.deviceId⟩ ∧ session.state = .active ∧
      ∃ current sessions, world.challenges.find? proof.challengeId = some current ∧ current.consumedAt = none ∧
        (world.directory.sessions.mapRows (supersede session.tenantId session.deviceId)
          (supersede_sessionId session.tenantId session.deviceId)).insert? session = some sessions ∧
        next = { world with
          challenges := world.challenges.update proof.challengeId (consume now) fun _ => rfl
          directory := { world.directory with sessions } } := by
  simp only [commitSession, bind_ok, checkToken, throwIf_ok, exists_const, Bool.not_eq_false,
    Table.insertOrThrow_ok] at committed
  obtain ⟨verified, _, unconsumed, sessions, inserted, same⟩ := committed
  obtain ⟨rfl, rfl⟩ := Prod.mk.inj (Except.ok.inj same)
  cases found : world.challenges.find? proof.challengeId with
  | none => simp [found] at unconsumed
  | some current =>
    rw [found, Option.all_some, decide_eq_true_eq, not_not] at unconsumed
    exact ⟨verified, rfl, rfl, current, sessions, rfl, unconsumed, inserted, rfl⟩

theorem commitDispatch_ok {dispatch stored : Dispatch}
    (committed : commitDispatch host dispatch now world = .ok (stored, next)) : next = world ∨ stored = dispatch ∧
      (∃ plan, verifySignedExecutionPlan host.plans dispatch.plan now = .ok plan) ∧
      ∃ dispatches, world.dispatches.insert? (queuedRow dispatch) = some dispatches ∧
        next = { world with dispatches } := by
  simp only [commitDispatch, placeDispatch, bind_ok, throwIf_ok, exists_const] at committed
  obtain ⟨plan, verified, _, committed⟩ := committed
  cases found : world.dispatches.find? (dispatch.tenantId, dispatch.taskId) with
  | some existing =>
    simp only [found, bind_ok, throwIf_ok, exists_const] at committed
    exact .inl (Prod.mk.inj (Except.ok.inj committed.2)).2.symm
  | none =>
    simp only [found, bind_ok, throwIf_ok, exists_const, Table.insertOrThrow_ok] at committed
    obtain ⟨_, dispatches, inserted, same⟩ := committed
    obtain ⟨rfl, rfl⟩ := Prod.mk.inj (Except.ok.inj same)
    exact .inr ⟨rfl, ⟨plan, verified⟩, dispatches, inserted, rfl⟩

theorem commitLease_ok {row : DispatchRow} {token : String} {value : Option DeviceLease}
    (committed : commitLease host session row now ttlMs token world = .ok (value, next)) :
    value = none ∧ next = world ∨ (∃ holder columns, (holder = row ∨
          world.dispatches.find? (session.tenantId, row.taskId) = some holder ∧
            holder.scope = session.scope ∧ holder.acknowledgedAt = none) ∧
        holder.running? now = some columns ∧
        value = some ({ holder with plan := row.plan }.leaseOf columns) ∧ next = world) ∨
      ∃ current, world.dispatches.find? (session.tenantId, row.taskId) = some current ∧
        current.scope = session.scope ∧ current.acknowledgedAt = none ∧ current.running? now = none ∧
        value = some ({ leasedRow token now (now + ttlMs) current with plan := row.plan }.leaseOf
          ⟨token, now, now + ttlMs⟩) ∧
        next = { world with
          dispatches := world.dispatches.update (session.tenantId, row.taskId)
            (leasedRow token now (now + ttlMs)) fun _ => rfl } := by
  simp only [commitLease, grantLease, bind_ok] at committed
  obtain ⟨_, _, committed⟩ := committed
  cases running : row.running? now with
  | some columns =>
    rw [running] at committed
    obtain ⟨rfl, rfl⟩ := Prod.mk.inj (Except.ok.inj committed)
    exact .inr (.inl ⟨row, columns, .inl rfl, running, rfl, rfl⟩)
  | none =>
    rw [running] at committed
    dsimp only at committed
    split at committed
    · obtain ⟨rfl, rfl⟩ := Prod.mk.inj (Except.ok.inj committed)
      exact .inl ⟨rfl, rfl⟩
    · rename_i current awaits
      obtain ⟨stored, waits⟩ := Option.filter_eq_some_iff.mp awaits
      obtain ⟨found, scope⟩ := taskRow_eq_some_iff.mp stored
      obtain ⟨unacknowledged, _⟩ := of_decide_eq_true waits
      cases held : current.running? now with
      | some columns =>
        rw [held] at committed
        obtain ⟨rfl, rfl⟩ := Prod.mk.inj (Except.ok.inj committed)
        exact .inr (.inl ⟨current, columns, .inr ⟨found, scope, unacknowledged⟩, held, rfl, rfl⟩)
      | none =>
        simp only [held, bind_ok, checkToken, throwIf_ok, exists_const] at committed
        obtain ⟨rfl, rfl⟩ := Prod.mk.inj (Except.ok.inj committed.2)
        have task : current.taskId = row.taskId := congrArg Prod.snd (Table.find?_key found)
        refine .inr (.inr ⟨current, found, scope, unacknowledged, held, rfl, ?_⟩)
        rw [task]

theorem submitResult_ok {input : DeviceResult} {result : ResultRow}
    (submitted : submitResult host session input world = .ok (result, next)) :
    result = ⟨session.tenantId, session.userId, input⟩ ∧
      (world.results.find? (session.tenantId, input.taskId) = some result ∧ next = world ∨
        ∃ row results, world.dispatches.find? (session.tenantId, input.taskId) = some row ∧
          row.scope = session.scope ∧ row.acknowledgedAt ≠ none ∧ input.deviceId = session.deviceId ∧
          world.results.insert? result = some results ∧ next = { world with
            results
            dispatches := world.dispatches.update (session.tenantId, input.taskId)
              (fun row => { row with state := endState input.outcome }) fun _ => rfl }) := by
  simp only [submitResult, bind_ok, throwIf_ok, exists_const, not_or, Bool.not_eq_true] at submitted
  obtain ⟨⟨acknowledged, device⟩, _, _, submitted⟩ := submitted
  cases found : world.results.find? (session.tenantId, input.taskId) with
  | some existing =>
    simp only [found, bind_ok, throwIf_ok, exists_const, ne_eq, not_not] at submitted
    obtain ⟨rfl, same⟩ := submitted
    obtain ⟨rfl, rfl⟩ := Prod.mk.inj (Except.ok.inj same)
    exact ⟨rfl, .inl ⟨rfl, rfl⟩⟩
  | none =>
    simp only [found, bind_ok, Table.insertOrThrow_ok] at submitted
    obtain ⟨results, inserted, same⟩ := submitted
    obtain ⟨rfl, rfl⟩ := Prod.mk.inj (Except.ok.inj same)
    cases task : taskRow session input.taskId world with
    | none => simp [task] at acknowledged
    | some row =>
      obtain ⟨stored, scope⟩ := taskRow_eq_some_iff.mp task
      rw [task, Option.all_some, Bool.or_eq_false_iff, decide_eq_false_iff_not] at acknowledged
      exact ⟨rfl, .inr ⟨row, results, stored, scope, acknowledged.1, not_not.mp device, inserted, rfl⟩⟩

end Bodies

/-! ## Answers -/

section Answers

variable {host : DeviceHost} {before after : DeviceWorld} {reply : DeviceReply} {call : DeviceCall}

theorem settle_effect {α : Type} {world : DeviceWorld} {wrap : α → DeviceReply}
    {outcome : Except String (α × DeviceWorld)} (settled : settle world wrap outcome = (reply, after))
    (succeeds : ∀ value next, outcome = .ok (value, next) → Effect host before call (wrap value) next)
    (refuses : ∀ message, Effect host before call (.refused message) world) :
    Effect host before call reply after := by
  cases outcome with
  | ok result =>
    cases settled
    exact succeeds _ _ rfl
  | error message =>
    cases settled
    exact refuses message

theorem withSession_effect
    {body : SessionRow → DeviceReply × DeviceWorld} (named : sessionOf call = some sessionId)
    (answered : withSession sessionId now before body = (reply, after))
    (within : ∀ session, InUse before.directory sessionId now session → body session = (reply, after) →
      Effect host before call reply after) : Effect host before call reply after := by
  unfold withSession at answered
  cases found : activeSession sessionId now before.directory with
  | mk result directory =>
    rw [found] at answered
    cases result with
    | error message =>
      cases answered
      rcases activeSession_error found with rfl | rfl
      · exact .refused call message
      · exact .lapsed named
    | ok session => exact within session (activeSession_ok.mp found).1 answered

theorem resume_effect {ticket : Nat} {token : String} {pending : Pending}
    (waiting : before.calls.find? ticket = some pending)
    (answered : resume host pending token { before with calls := before.calls.resume ticket } = (reply, after)) :
    Effect host before (.resume ticket token) reply after := by
  cases pending with
  | opening proof now ttlMs row publicKey =>
    refine settle_effect answered ?_ fun message => .abandoned
    intro session next committed
    obtain ⟨verified, scope, active, current, sessions, found, unconsumed, inserted, rfl⟩ := commitSession_ok committed
    exact .opened waiting verified scope active found unconsumed inserted rfl
  | enqueuing dispatch now =>
    refine settle_effect answered ?_ fun message => .abandoned
    intro stored next committed
    rcases commitDispatch_ok committed with rfl | ⟨rfl, ⟨plan, verified⟩, dispatches, inserted, rfl⟩
    · exact .existing
    · exact .queued waiting verified inserted
  | polling session row now ttlMs =>
    refine settle_effect answered ?_ fun message => .abandoned
    intro value next committed
    rcases commitLease_ok committed with ⟨rfl, rfl⟩ | ⟨holder, columns, held, running, rfl, rfl⟩ |
      ⟨current, found, scope, unacknowledged, past, rfl, rfl⟩
    · exact .nothing waiting
    · exact .returned waiting held running rfl
    · exact .leased waiting found scope unacknowledged past rfl

theorem poll_effect (answered : requestLease sessionId now ttlMs before = (reply, after)) :
    Effect host before (.poll sessionId now ttlMs) reply after := by
  unfold requestLease at answered
  split at answered
  · cases answered
    exact .refused _ _
  · refine withSession_effect rfl answered ?_
    intro session inUse within
    split at within
    · cases within
      exact .idle inUse
    · rename_i row first
      cases within
      exact .polling inUse first

theorem acknowledge_effect {sessionId leaseToken taskId : String} (inUse : InUse before.directory sessionId now session)
    (answered : acknowledge session leaseToken taskId now before = (reply, after)) :
    Effect host before (.acknowledge sessionId leaseToken taskId now) reply after := by
  unfold acknowledge at answered
  split at answered
  · cases answered
    exact .refused _ _
  · rename_i row task
    obtain ⟨found, scope⟩ := taskRow_eq_some_iff.mp task
    split at answered
    · rename_i runs
      obtain ⟨columns, running, same⟩ := (Option.any_eq_true _ _).mp runs
      cases answered
      exact .accepted inUse found scope running (of_decide_eq_true same) rfl
    · cases answered
      exact .refused _ _

theorem effect_of_answer (answered : answer host call before = (reply, after)) :
    Effect host before call reply after := by
  cases call with
  | issueChallenge scope now ttlMs challenge nonce =>
    refine settle_effect answered ?_ fun message => .refused _ message
    intro row next issued
    obtain ⟨fresh, challenges, inserted, rfl⟩ := issueChallenge_ok issued
    exact .challenged fresh inserted
  | openSession proof now ttlMs =>
    simp only [answer, await] at answered
    split at answered
    · rename_i pending requested
      cases answered
      exact .opening requested
    · cases answered
      exact .refused _ _
  | enqueue dispatch now =>
    simp only [answer, await] at answered
    split at answered
    · rename_i pending admitted
      cases answered
      cases admits : admitDispatch host dispatch with
      | error message =>
        rw [admits] at admitted
        cases admitted
      | ok done =>
        rw [admits] at admitted
        cases admitted
        exact .enqueuing
    · cases answered
      exact .refused _ _
  | poll sessionId now ttlMs => exact poll_effect answered
  | resume ticket token =>
    simp only [answer] at answered
    cases waiting : before.calls.find? ticket with
    | none =>
      rw [waiting] at answered
      cases answered
      exact .unknown ticket token
    | some pending =>
      rw [waiting] at answered
      exact resume_effect waiting answered
  | acknowledge sessionId leaseToken taskId now =>
    exact withSession_effect rfl answered fun session inUse within => acknowledge_effect inUse within
  | submitResult sessionId input now =>
    refine withSession_effect rfl answered fun session inUse within => ?_
    refine settle_effect within ?_ fun message => .refused _ message
    intro result next submitted
    obtain ⟨rfl, ⟨found, rfl⟩ | ⟨row, results, found, scope, acknowledged, device, inserted, rfl⟩⟩ :=
      submitResult_ok submitted
    · exact .known inUse found
    · exact .resulted inUse found scope acknowledged device inserted rfl
  | roster change =>
    cases answered
    exact .roster change

theorem effect_of_step {users : Table UserRow.key} {devices : Table DeviceRow.key} {label : DeviceCall × DeviceReply}
    (transition : (machine host users devices).system.Step before label after) :
    Effect host before label.1 label.2 after :=
  effect_of_answer transition

end Answers

end DeviceWorld

end QuarkSelfAI.ControlPlane

import QuarkSelfAI.ClientRuntime.Verify
import QuarkSelfAI.ControlPlane.Directory
import QuarkSelfAI.Foundation.Suspension

/-!
# Device sessions

The six operations of `SqliteInactiveDeviceSessionProviderV1`. Opening a session,
enqueueing a dispatch and polling wait for a verifier between what they read and what
they write; every other call may run meanwhile. Every call brings its own time.
-/

namespace QuarkSelfAI.ControlPlane

open Foundation CapabilityPlatform ClientRuntime

/-! ## Rows -/

structure ChallengeRow where
  challengeId : String
  tenantId : String
  userId : String
  deviceId : String
  nonce : String
  issuedAt : Timestamp
  expiresAt : Timestamp
  consumedAt : Option Timestamp
deriving DecidableEq

inductive DispatchState where
  | queued
  | leased
  | completed
  | failed
  | cancelled
deriving DecidableEq

/-- The columns that a lease sets together. -/
structure LeaseColumns where
  leaseToken : String
  leasedAt : Timestamp
  leaseExpiresAt : Timestamp
deriving DecidableEq

/-- A tenant and a task. -/
abbrev TaskKey := String × String

structure DispatchRow where
  tenantId : String
  taskId : String
  userId : String
  deviceId : String
  planId : String
  plan : JsValue
  idempotencyKey : String
  state : DispatchState
  createdAt : String
  leaseAttempt : Nat
  lease : Option LeaseColumns
  acknowledgedAt : Option Timestamp
deriving DecidableEq

def DispatchRow.key (row : DispatchRow) : TaskKey := (row.tenantId, row.taskId)

def DispatchRow.scope (row : DispatchRow) : Scope := ⟨row.tenantId, row.userId, row.deviceId⟩

inductive Outcome where
  | succeeded
  | failed
  | cancelled
deriving DecidableEq

/-- `Omit<RedactedResultV1, 'tenantId' | 'userId'>`. -/
structure DeviceResult where
  taskId : String
  deviceId : String
  planId : String
  outcome : Outcome
  summaryCode : String
  artifactDigests : List String
  completedAt : String
deriving DecidableEq

/-- `cp_device_result`, with its JSON as the value it holds. -/
structure ResultRow where
  tenantId : String
  userId : String
  result : DeviceResult
deriving DecidableEq

def ResultRow.key (row : ResultRow) : TaskKey := (row.tenantId, row.result.taskId)

/-! ## Checks -/

def isTokenChar (char : Char) : Bool := isIdChar char || char = '_' || char = ':'

/-- `^[a-z0-9][a-z0-9._:-]{0,255}$`. -/
def tokenPattern (text : String) : Bool :=
  match text.toList with
  | [] => false
  | first :: rest => isIdStart first && rest.all isTokenChar && rest.length ≤ 255

/-- `^(?:\/|[A-Za-z]:[\\/]|~[\\/])`. -/
def startsAtRoot (text : String) : Bool :=
  match text.toList with
  | [] => false
  | first :: rest => first = '/' || (first.isAlpha && isDrive rest) || (first = '~' && rest.head?.any isSlash)

def unsafeText (text : String) : Bool := startsAtRoot text || secretAssignmentPattern text

inductive TenantMode where
  | testOnly
  | registered
deriving DecidableEq

/-- What the provider is built with: the verifier of proofs (of a public key, a nonce and
a signature), the host of plans, and the tenants it admits. -/
structure DeviceHost where
  verifyProof : String → String → String → Bool
  plans : PlanHost
  tenantMode : TenantMode

def deviceScope (host : DeviceHost) (scope : Scope) : Except String Unit :=
  throwIf ((host.tenantMode = .testOnly ∧ startsWith scope.tenantId "test." = false) ∨
      tokenPattern scope.tenantId = false ∨ tokenPattern scope.userId = false ∨
      tokenPattern scope.deviceId = false)
    "inactive device provider tenant admission is invalid"

def positive (value : Nat) (label : String) : Except String Unit :=
  throwIf (9007199254740991 < value ∨ value = 0) s!"{label} must be positive"

def checkToken (value label : String) : Except String Unit :=
  throwIf (tokenPattern value = false) s!"{label} token is invalid"

def validateResult (host : DeviceHost) (input : DeviceResult) : Except String Unit :=
  throwIf (tokenPattern input.deviceId = false ∨ tokenPattern input.taskId = false ∨
      tokenPattern input.planId = false ∨ tokenPattern input.summaryCode = false ∨
      unsafeText input.summaryCode = true ∨ 64 < input.artifactDigests.length ∨
      ¬ input.artifactDigests.Nodup ∨ input.artifactDigests.all digestPattern = false ∨
      host.plans.parse input.completedAt = none)
    "result is not privacy bounded"

/-! ## Calls -/

structure DeviceProof where
  schemaVersion : Nat
  challengeId : String
  deviceId : String
  keyId : String
  algorithm : String
  signature : String

structure Dispatch where
  tenantId : String
  userId : String
  taskId : String
  deviceId : String
  plan : JsValue
  idempotencyKey : String
  state : DispatchState
  createdAt : String
deriving DecidableEq

/-- A call that waits for a verifier, with what it has read. -/
inductive Pending where
  | opening (proof : DeviceProof) (now : Timestamp) (ttlMs : Nat) (row : ChallengeRow) (publicKey : String)
  | enqueuing (dispatch : Dispatch) (now : Timestamp)
  | polling (session : SessionRow) (row : DispatchRow) (now : Timestamp) (ttlMs : Nat)

structure DeviceWorld where
  directory : Directory
  challenges : Table ChallengeRow.challengeId
  dispatches : Table DispatchRow.key
  results : Table ResultRow.key
  calls : Suspension Pending

/-- What `poll` returns of a leased dispatch. -/
structure DeviceLease where
  taskId : String
  planId : String
  plan : JsValue
  deviceId : String
  leaseToken : String
  attempt : Nat
  leasedAt : Timestamp
  expiresAt : Timestamp
deriving DecidableEq

def DispatchRow.leaseOf (row : DispatchRow) (columns : LeaseColumns) : DeviceLease :=
  ⟨row.taskId, row.planId, row.plan, row.deviceId, columns.leaseToken, row.leaseAttempt, columns.leasedAt,
    columns.leaseExpiresAt⟩

/-- `row.lease_token && Date.parse(row.lease_expires_at) > now`. -/
def DispatchRow.running? (row : DispatchRow) (now : Timestamp) : Option LeaseColumns :=
  row.lease.filter fun columns => now < columns.leaseExpiresAt

def DispatchRow.record (row : DispatchRow) : Dispatch :=
  ⟨row.tenantId, row.userId, row.taskId, row.deviceId, row.plan, row.idempotencyKey, row.state, row.createdAt⟩

/-- What other components do to users and devices. -/
inductive RosterChange where
  | addUser (row : UserRow)
  | addDevice (row : DeviceRow)
  | userState (key : String × String) (state : UserState)
  | deviceState (key : String × String) (state : DeviceState)

def RosterChange.inDirectory : RosterChange → DirectoryChange
  | .addUser row => .addUser row
  | .addDevice row => .addDevice row
  | .userState key state => .userState key state
  | .deviceState key state => .deviceState key state

/-- A call that waits goes on at `resume`, with the token it then draws. -/
inductive DeviceCall where
  | issueChallenge (scope : Scope) (now : Timestamp) (ttlMs : Nat) (challenge nonce : String)
  | openSession (proof : DeviceProof) (now : Timestamp) (ttlMs : Nat)
  | enqueue (dispatch : Dispatch) (now : Timestamp)
  | poll (sessionId : String) (now : Timestamp) (ttlMs : Nat)
  | resume (ticket : Nat) (token : String)
  | acknowledge (sessionId leaseToken taskId : String) (now : Timestamp)
  | submitResult (sessionId : String) (input : DeviceResult) (now : Timestamp)
  | roster (change : RosterChange)

inductive DeviceReply where
  | challenge (row : ChallengeRow)
  | verifying (ticket : Nat)
  | session (row : SessionRow)
  | dispatched (dispatch : Dispatch)
  | lease (value : DeviceLease)
  | empty
  | accepted (taskId planId deviceId : String) (acceptedAt : Timestamp)
  | result (row : ResultRow)
  | refused (message : String)
  | done
deriving DecidableEq

namespace DeviceWorld

/-! ## Challenges and sessions -/

def issueChallenge (host : DeviceHost) (scope : Scope) (now : Timestamp) (ttlMs : Nat)
    (challenge nonce : String) (world : DeviceWorld) : Except String (ChallengeRow × DeviceWorld) := do
  deviceScope host scope
  positive ttlMs "challenge ttl"
  match world.directory.devices.find? (scope.tenantId, scope.deviceId) with
  | none => .error "registered device is unavailable"
  | some device => do
    throwIf (device.userId ≠ scope.userId ∨ device.state ≠ .registered ∨
        world.directory.userActive device.tenantId device.userId = false)
      "registered device is unavailable"
    checkToken challenge "challenge"
    checkToken nonce "nonce"
    let row : ChallengeRow := {
      challengeId := challenge, tenantId := scope.tenantId, userId := scope.userId, deviceId := scope.deviceId
      nonce, issuedAt := now, expiresAt := now + ttlMs, consumedAt := none }
    throwIf (world.challenges.rows.any (fun other => other.nonce = nonce) = true)
      "UNIQUE constraint failed: cp_device_challenge.nonce"
    let challenges ← world.challenges.insertOrThrow row "cp_device_challenge.challenge_id"
    .ok (row, { world with challenges })

/-- What `openSession` does before it waits for the proof to be verified. -/
def requestSession (proof : DeviceProof) (now : Timestamp) (ttlMs : Nat) (world : DeviceWorld) :
    Except String Pending := do
  positive ttlMs "session ttl"
  throwIf (proof.schemaVersion ≠ 1 ∨ proof.algorithm ≠ "ed25519" ∨ proof.keyId = "" ∨ proof.signature = "")
    "device proof is invalid"
  match world.challenges.find? proof.challengeId with
  | none => .error "device challenge is unavailable or out of scope"
  | some row =>
    match world.directory.devices.find? (row.tenantId, row.deviceId) with
    | none => .error "device challenge is unavailable or out of scope"
    | some device => do
      throwIf (row.deviceId ≠ proof.deviceId ∨ row.consumedAt ≠ none ∨ device.state ≠ .registered ∨
          world.directory.userActive row.tenantId row.userId = false)
        "device challenge is unavailable or out of scope"
      throwIf (row.expiresAt ≤ now) "device challenge expired"
      .ok (.opening proof now ttlMs row device.publicKey)

def consume (now : Timestamp) (row : ChallengeRow) : ChallengeRow :=
  { row with consumedAt := some now }

/-- `UPDATE … SET state='superseded' WHERE tenant_id=? AND device_id=? AND state='active'`. -/
def supersede (tenantId deviceId : String) (row : SessionRow) : SessionRow :=
  if row.tenantId = tenantId ∧ row.deviceId = deviceId ∧ row.state = .active then
    { row with state := .superseded }
  else row

theorem supersede_sessionId (tenantId deviceId : String) (row : SessionRow) :
    (supersede tenantId deviceId row).sessionId = row.sessionId := by
  unfold supersede
  split
  · rfl
  · rfl

/-- What `openSession` does once the verifier has answered. -/
def commitSession (host : DeviceHost) (proof : DeviceProof) (now : Timestamp) (ttlMs : Nat)
    (row : ChallengeRow) (publicKey token : String) (world : DeviceWorld) :
    Except String (SessionRow × DeviceWorld) := do
  throwIf (host.verifyProof publicKey row.nonce proof.signature = false) "device proof verification failed"
  checkToken token "session"
  let session : SessionRow := {
    sessionId := token, tenantId := row.tenantId, userId := row.userId, deviceId := proof.deviceId
    issuedAt := now, expiresAt := now + ttlMs, state := .active }
  throwIf ((world.challenges.find? proof.challengeId).all (fun current => current.consumedAt ≠ none) = true)
    "device challenge was already consumed"
  let challenges := world.challenges.update proof.challengeId (consume now) fun _ => rfl
  let superseded := world.directory.sessions.mapRows (supersede session.tenantId session.deviceId)
    (supersede_sessionId session.tenantId session.deviceId)
  let sessions ← superseded.insertOrThrow session "cp_device_session.session_id"
  .ok (session, { world with challenges, directory := { world.directory with sessions } })

/-! ## Dispatches -/

/-- `value.length` as a condition. -/
def hasItems : JsValue → Except String Bool
  | .array items => .ok (items ≠ [])
  | .string text => .ok (text ≠ "")
  | .undefined => .error "Cannot read properties of undefined (reading 'length')"
  | .null => .error "Cannot read properties of null (reading 'length')"
  | _ => .ok false

/-- What `enqueue` checks before it verifies the plan. -/
def admitDispatch (host : DeviceHost) (dispatch : Dispatch) : Except String Unit := do
  let envelope := dispatch.plan.get "envelope"
  let refusal := "inactive device queue accepts admitted no-effect dispatches only"
  throwIf ((host.tenantMode = .testOnly ∧ startsWith dispatch.tenantId "test." = false) ∨
    dispatch.state ≠ .queued) refusal
  let effects ← hasItems (envelope.get "allowedEffects")
  throwIf (effects = true) refusal
  let grants ← hasItems (envelope.get "approvalGrants")
  throwIf (grants = true) refusal
  throwIf (envelope.get "tenantId" ≠ .string dispatch.tenantId ∨
      envelope.get "userId" ≠ .string dispatch.userId ∨ envelope.get "deviceId" ≠ .string dispatch.deviceId)
    "dispatch plan scope mismatch"

def queuedRow (dispatch : Dispatch) : DispatchRow where
  tenantId := dispatch.tenantId
  taskId := dispatch.taskId
  userId := dispatch.userId
  deviceId := dispatch.deviceId
  planId := (dispatch.plan.get "planId").toText
  plan := dispatch.plan.stringified
  idempotencyKey := dispatch.idempotencyKey
  state := .queued
  createdAt := dispatch.createdAt
  leaseAttempt := 0
  lease := none
  acknowledgedAt := none

/-- What `enqueue` does with a dispatch whose plan is verified. -/
def placeDispatch (dispatch : Dispatch) (world : DeviceWorld) : Except String (Dispatch × DeviceWorld) := do
  throwIf ((world.directory.devices.find? (dispatch.tenantId, dispatch.deviceId)).all (fun device =>
      device.userId ≠ dispatch.userId || device.state ≠ .registered) = true)
    "dispatch device is unavailable"
  match world.dispatches.find? (dispatch.tenantId, dispatch.taskId) with
  | some existing => do
    throwIf (existing.idempotencyKey ≠ dispatch.idempotencyKey ∨ existing.plan ≠ dispatch.plan.stringified)
      "immutable dispatch already exists with different content"
    .ok (existing.record, world)
  | none => do
    throwIf (world.dispatches.rows.any (fun row =>
        row.tenantId = dispatch.tenantId && row.idempotencyKey = dispatch.idempotencyKey) = true)
      "idempotency key is already assigned to another task"
    let dispatches ← world.dispatches.insertOrThrow (queuedRow dispatch) "cp_device_dispatch.task_id"
    .ok (dispatch, { world with dispatches })

/-- What `enqueue` does once the verifier has answered. -/
def commitDispatch (host : DeviceHost) (dispatch : Dispatch) (now : Timestamp) (world : DeviceWorld) :
    Except String (Dispatch × DeviceWorld) := do
  let _ ← verifySignedExecutionPlan host.plans dispatch.plan now
  placeDispatch dispatch world

/-! ## Sessions in use -/

/-- The session a call names, and the directory: a session past its time is marked. -/
def activeSession (sessionId : String) (now : Timestamp) (directory : Directory) :
    Except String SessionRow × Directory :=
  match directory.sessions.find? sessionId with
  | none => (.error "device session is not active", directory)
  | some row =>
    if row.state ≠ .active then (.error "device session is not active", directory)
    else if row.expiresAt ≤ now then
      (.error "device session expired",
        { directory with sessions := Directory.setSession sessionId .expired directory.sessions })
    else (.ok row, directory)

/-- Run a body within the session a call names. -/
def withSession (sessionId : String) (now : Timestamp) (world : DeviceWorld)
    (body : SessionRow → DeviceReply × DeviceWorld) : DeviceReply × DeviceWorld :=
  match activeSession sessionId now world.directory with
  | (.error message, directory) => (.refused message, { world with directory })
  | (.ok session, _) => body session

/-- Nothing is returned but what is, and what threw is returned as refused. -/
def settle {α : Type} (world : DeviceWorld) (reply : α → DeviceReply) :
    Except String (α × DeviceWorld) → DeviceReply × DeviceWorld
  | .ok (value, next) => (reply value, next)
  | .error message => (.refused message, world)

def taskRow (session : SessionRow) (taskId : String) (world : DeviceWorld) : Option DispatchRow :=
  (world.dispatches.find? (session.tenantId, taskId)).filter fun row => row.scope = session.scope

def awaitsLease (session : SessionRow) (row : DispatchRow) : Bool :=
  row.scope = session.scope ∧ row.acknowledgedAt = none ∧ row.state ∈ [.queued, .leased]

/-- `ORDER BY created_at, task_id`. -/
def earlier (first second : DispatchRow) : DispatchRow :=
  if second.createdAt < first.createdAt ∨ second.createdAt = first.createdAt ∧ second.taskId < first.taskId
  then second else first

/-- The first row in the order of the query. -/
def firstOf : List DispatchRow → Option DispatchRow
  | [] => none
  | row :: rest => some (rest.foldl earlier row)

/-- What `poll` does before it waits for the plan to be verified. -/
def requestLease (sessionId : String) (now : Timestamp) (ttlMs : Nat) (world : DeviceWorld) :
    DeviceReply × DeviceWorld :=
  match positive ttlMs "lease ttl" with
  | .error message => (.refused message, world)
  | .ok _ => withSession sessionId now world fun session =>
    match firstOf (world.dispatches.rows.filter (awaitsLease session)) with
    | none => (.empty, world)
    | some row => (.verifying world.calls.next,
        { world with calls := world.calls.suspend (.polling session row now ttlMs) })

def leasedRow (token : String) (now expiresAt : Timestamp) (row : DispatchRow) : DispatchRow :=
  { row with
    state := .leased, leaseAttempt := row.leaseAttempt + 1
    lease := some ⟨token, now, expiresAt⟩ }

/-- What `poll` does with a row whose plan is verified. -/
def grantLease (session : SessionRow) (row : DispatchRow) (now : Timestamp) (ttlMs : Nat) (token : String)
    (world : DeviceWorld) : Except String (Option DeviceLease × DeviceWorld) :=
  match row.running? now with
  | some columns => .ok (some (row.leaseOf columns), world)
  | none =>
    match (taskRow session row.taskId world).filter fun current =>
        current.acknowledgedAt = none ∧ current.state ∈ [.queued, .leased] with
    | none => .ok (none, world)
    | some current =>
      match current.running? now with
      | some columns => .ok (some ({ current with plan := row.plan }.leaseOf columns), world)
      | none => do
        checkToken token "lease"
        let expiresAt := now + ttlMs
        let dispatches := world.dispatches.update (session.tenantId, current.taskId)
          (leasedRow token now expiresAt) fun _ => rfl
        .ok (some ({ current with plan := row.plan, leaseAttempt := current.leaseAttempt + 1 }.leaseOf
          ⟨token, now, expiresAt⟩), { world with dispatches })

/-- What `poll` does once the verifier has answered. -/
def commitLease (host : DeviceHost) (session : SessionRow) (row : DispatchRow) (now : Timestamp)
    (ttlMs : Nat) (token : String) (world : DeviceWorld) : Except String (Option DeviceLease × DeviceWorld) := do
  let _ ← verifySignedExecutionPlan host.plans row.plan now
  grantLease session row now ttlMs token world

def acknowledgedRow (at' : Timestamp) (row : DispatchRow) : DispatchRow :=
  if row.acknowledgedAt = none then { row with acknowledgedAt := some at' } else row

theorem acknowledgedRow_key (at' : Timestamp) (row : DispatchRow) : (acknowledgedRow at' row).key = row.key := by
  unfold acknowledgedRow
  split
  · rfl
  · rfl

def acknowledge (session : SessionRow) (leaseToken taskId : String) (now : Timestamp)
    (world : DeviceWorld) : DeviceReply × DeviceWorld :=
  match taskRow session taskId world with
  | none => (.refused "task lease is unavailable, expired or out of scope", world)
  | some row =>
    if (row.running? now).any (fun columns => columns.leaseToken = leaseToken) then
      let acceptedAt := row.acknowledgedAt.getD now
      (.accepted taskId row.planId session.deviceId acceptedAt, { world with
        dispatches := world.dispatches.update (session.tenantId, taskId) (acknowledgedRow acceptedAt)
          (acknowledgedRow_key acceptedAt) })
    else (.refused "task lease is unavailable, expired or out of scope", world)

def endState : Outcome → DispatchState
  | .succeeded => .completed
  | .failed => .failed
  | .cancelled => .cancelled

def submitResult (host : DeviceHost) (session : SessionRow) (input : DeviceResult) (world : DeviceWorld) :
    Except String (ResultRow × DeviceWorld) := do
  throwIf ((taskRow session input.taskId world).all (fun row =>
      row.acknowledgedAt = none || row.planId ≠ input.planId) = true ∨ input.deviceId ≠ session.deviceId)
    "result is outside the acknowledged lease scope"
  validateResult host input
  let result : ResultRow := ⟨session.tenantId, session.userId, input⟩
  match world.results.find? (session.tenantId, input.taskId) with
  | some existing => do
    throwIf (existing ≠ result) "immutable result already exists with different evidence"
    .ok (existing, world)
  | none => do
    let results ← world.results.insertOrThrow result "cp_device_result"
    let dispatches := world.dispatches.update (session.tenantId, input.taskId)
      (fun row => { row with state := endState input.outcome }) fun _ => rfl
    .ok (result, { world with results, dispatches })

/-! ## The service -/

def leaseReply : Option DeviceLease → DeviceReply
  | some value => .lease value
  | none => .empty

/-- Let a call wait that has got this far. -/
def await (world : DeviceWorld) : Except String Pending → DeviceReply × DeviceWorld
  | .ok pending => (.verifying world.calls.next, { world with calls := world.calls.suspend pending })
  | .error message => (.refused message, world)

def resume (host : DeviceHost) (pending : Pending) (token : String) (world : DeviceWorld) : DeviceReply × DeviceWorld :=
  match pending with
  | .opening proof now ttlMs row publicKey =>
    settle world .session (commitSession host proof now ttlMs row publicKey token world)
  | .enqueuing dispatch now => settle world .dispatched (commitDispatch host dispatch now world)
  | .polling session row now ttlMs => settle world leaseReply (commitLease host session row now ttlMs token world)

def answer (host : DeviceHost) (call : DeviceCall) (world : DeviceWorld) : DeviceReply × DeviceWorld :=
  match call with
  | .issueChallenge scope now ttlMs challenge nonce =>
    settle world .challenge (issueChallenge host scope now ttlMs challenge nonce world)
  | .openSession proof now ttlMs => await world (requestSession proof now ttlMs world)
  | .enqueue dispatch now => await world ((admitDispatch host dispatch).map fun _ => .enqueuing dispatch now)
  | .poll sessionId now ttlMs => requestLease sessionId now ttlMs world
  | .resume ticket token =>
    match world.calls.find? ticket with
    | none => (.done, world)
    | some pending => resume host pending token { world with calls := world.calls.resume ticket }
  | .acknowledge sessionId leaseToken taskId now =>
    withSession sessionId now world fun session => acknowledge session leaseToken taskId now world
  | .submitResult sessionId input now =>
    withSession sessionId now world fun session => settle world .result (submitResult host session input world)
  | .roster change => (.done, { world with directory := world.directory.apply change.inDirectory })

/-- The service over any users and devices, with no session yet. -/
def machine (host : DeviceHost) (users : Table UserRow.key) (devices : Table DeviceRow.key) :
    Machine DeviceWorld DeviceCall DeviceReply where
  initial := ⟨⟨users, devices, .empty⟩, .empty, .empty, .empty, .empty⟩
  perform := answer host

section Verified

variable {host : DeviceHost} {users : Table UserRow.key} {devices : Table DeviceRow.key} {now : Timestamp} {token : String}
  {world : DeviceWorld} {ticket : Nat} {plan : JsValue}

/-- A world in which a call that waited last goes on. -/
def resumed (world : DeviceWorld) (pending : Pending) : DeviceWorld :=
  { world with calls := (world.calls.suspend pending).resume world.calls.next }

/-- The reply to a dispatch with a verified plan, and the world after it. -/
def enqueued (dispatch : Dispatch) (now : Timestamp) (world : DeviceWorld) : DeviceReply × DeviceWorld :=
  settle (resumed world (.enqueuing dispatch now)) .dispatched (placeDispatch dispatch (resumed world (.enqueuing dispatch now)))

/-- The reply to a poll that selects a row with a verified plan, and the world after it. -/
def polled (session : SessionRow) (row : DispatchRow) (now : Timestamp) (ttlMs : Nat) (token : String) (world : DeviceWorld) :
    DeviceReply × DeviceWorld :=
  settle (resumed world (.polling session row now ttlMs)) leaseReply
    (grantLease session row now ttlMs token (resumed world (.polling session row now ttlMs)))

theorem replay_enqueue {dispatch : Dispatch} {calls : List DeviceCall} (next : world.calls.next = ticket)
    (admitted : admitDispatch host dispatch = .ok ())
    (verified : verifySignedExecutionPlan host.plans dispatch.plan now = .ok plan) :
    (machine host users devices).replay (.enqueue dispatch now :: .resume ticket token :: calls) world =
      ((.enqueue dispatch now, .verifying ticket) :: (.resume ticket token, (enqueued dispatch now world).1) ::
        ((machine host users devices).replay calls (enqueued dispatch now world).2).1,
        ((machine host users devices).replay calls (enqueued dispatch now world).2).2) := by
  have found := Suspension.find?_suspend world.calls (.enqueuing dispatch now) world.calls.next
  rw [if_pos rfl] at found
  subst next
  simp only [Machine.replay, machine, answer, admitted, Except.map, await, found, resume, commitDispatch, verified]
  rfl

theorem replay_poll {session : SessionRow} {row : DispatchRow} {ttlMs : Nat} {sessionId : String} {calls : List DeviceCall}
    (next : world.calls.next = ticket) (ttl : positive ttlMs "lease ttl" = .ok ())
    (active : activeSession sessionId now world.directory = (.ok session, world.directory))
    (first : firstOf (world.dispatches.rows.filter (awaitsLease session)) = some row)
    (verified : verifySignedExecutionPlan host.plans row.plan now = .ok plan) :
    (machine host users devices).replay (.poll sessionId now ttlMs :: .resume ticket token :: calls) world =
      ((.poll sessionId now ttlMs, .verifying ticket) ::
        (.resume ticket token, (polled session row now ttlMs token world).1) ::
        ((machine host users devices).replay calls (polled session row now ttlMs token world).2).1,
        ((machine host users devices).replay calls (polled session row now ttlMs token world).2).2) := by
  have found := Suspension.find?_suspend world.calls (.polling session row now ttlMs) world.calls.next
  rw [if_pos rfl] at found
  subst next
  simp only [Machine.replay, machine, answer, requestLease, ttl, withSession, active, first, found, resume, commitLease,
    verified]
  rfl

end Verified

/-! ## A tenant with one device -/

def sampleDeviceHost : DeviceHost where
  verifyProof _ nonce signature := signature = nonce ++ ".signed"
  plans := sampleHost
  tenantMode := .testOnly

def sampleScope : Scope := ⟨"test.alpha", "user.owner", "device.owner"⟩

def sampleUsers : Table UserRow.key := ⟨[⟨"test.alpha", "user.owner", .active⟩], by decide⟩

def sampleDevices : Table DeviceRow.key :=
  ⟨[⟨"test.alpha", "device.owner", "user.owner", "public", .registered⟩], by decide⟩

/-- The start of the time of the plans of `sampleDispatch`. -/
def sampleStart : Timestamp := 1788652800000

def sampleProof : DeviceProof := ⟨1, "challenge.one", "device.owner", "key.one", "ed25519", "nonce.one.signed"⟩

def sampleDispatch (taskId expiresAt createdAt : String) : Dispatch where
  tenantId := "test.alpha"
  userId := "user.owner"
  taskId
  deviceId := "device.owner"
  plan := samplePlan expiresAt
  idempotencyKey := taskId
  state := .queued
  createdAt

theorem sampleDispatch_plan (taskId expiresAt createdAt : String) :
    (queuedRow (sampleDispatch taskId expiresAt createdAt)).plan = samplePlan expiresAt := by
  have envelope : JsValue.stringifiedMembers sampleEnvelope = sampleEnvelope := by decide
  simp only [queuedRow, sampleDispatch, samplePlan, JsValue.stringified, JsValue.stringifiedMembers, envelope]

/-- A session is opened. -/
def openingCalls : List DeviceCall :=
  [.issueChallenge sampleScope sampleStart 60000 "challenge.one" "nonce.one",
    .openSession sampleProof sampleStart 300000, .resume 0 "session.one"]

/-- A dispatch is queued, leased and acknowledged. -/
def leasingCalls : List DeviceCall :=
  [.enqueue (sampleDispatch "task.one" "2026-09-06T01:00:00.000Z" "2026-09-06T00:00:00.000Z") sampleStart, .resume 1 "",
    .poll "session.one" sampleStart 60000, .resume 2 "lease.one",
    .acknowledge "session.one" "lease.one" "task.one" (sampleStart + 1)]

def sampleResult : DeviceResult where
  taskId := "task.one"
  deviceId := "device.owner"
  planId := "plan.one"
  outcome := .succeeded
  summaryCode := "done"
  artifactDigests := []
  completedAt := "2026-09-06T00:00:00.000Z"

def sampleMachine : Machine DeviceWorld DeviceCall DeviceReply := machine sampleDeviceHost sampleUsers sampleDevices

end DeviceWorld

end QuarkSelfAI.ControlPlane

import QuarkSelfAI.CapabilityPlatform.Checks
import QuarkSelfAI.ControlPlane.Directory
import QuarkSelfAI.Foundation.Suspension

/-!
# Matter ownership

The owner lease of a namespace, with the operations of
`SqliteInactiveMatterOwnerLeaseV1`. A transfer reads the row, waits for the recovery
verifier, and commits at the time of its clock against the row it then finds; other
calls run in between. All calls read one clock that never goes back.
-/

namespace QuarkSelfAI.ControlPlane

open Foundation CapabilityPlatform

/-! ## Rows -/

/-- A tenant, a user and a namespace. -/
abbrev Matter := String × String × String

structure OwnerRow where
  tenantId : String
  userId : String
  nameSpace : String
  deviceId : String
  epoch : Nat
  leaseExpiresAt : Timestamp
  releasedAt : Option Timestamp
  updatedAt : Timestamp

def OwnerRow.matter (row : OwnerRow) : Matter := (row.tenantId, row.userId, row.nameSpace)

structure TransferRow where
  tenantId : String
  userId : String
  nameSpace : String
  fromDeviceId : String
  toDeviceId : String
  fromEpoch : Nat
  toEpoch : Nat
  recoveryDigest : String
  approvalDigest : String
  transferredAt : Timestamp

def TransferRow.matter (row : TransferRow) : Matter := (row.tenantId, row.userId, row.nameSpace)

def TransferRow.key (row : TransferRow) : Matter × Nat := (row.matter, row.toEpoch)

structure OwnerStore where
  leases : Table OwnerRow.matter
  transfers : Table TransferRow.key

/-- What a call returns of a lease. -/
structure MatterOwnerLease where
  tenantId : String
  userId : String
  nameSpace : String
  deviceId : String
  epoch : Nat
  expiresAt : Timestamp
deriving DecidableEq

def MatterOwnerLease.matter (lease : MatterOwnerLease) : Matter := (lease.tenantId, lease.userId, lease.nameSpace)

def OwnerRow.lease (row : OwnerRow) : MatterOwnerLease :=
  ⟨row.tenantId, row.userId, row.nameSpace, row.deviceId, row.epoch, row.leaseExpiresAt⟩

/-! ## Checks -/

def namespacePattern (text : String) : Bool :=
  match text.toList with
  | [] => false
  | first :: rest => first.isLower && rest.all isIdChar && rest.length ≤ 63

def checkScope (nameSpace : String) : Except String Unit :=
  throwIf (namespacePattern nameSpace = false) "Matter namespace is invalid"

def checkEpoch (epoch : Nat) : Except String Unit :=
  throwIf (9007199254740991 < epoch ∨ epoch < 1) "Matter owner epoch is invalid"

def checkTtl (ttlMs : Nat) : Except String Unit := throwIf (ttlMs < 1000 ∨ 300000 < ttlMs) "Matter owner ttl is invalid"

/-- `SELECT` of an active session of a registered device of an active user. -/
def isLive (directory : Directory) (row : SessionRow) (now : Timestamp) : Bool :=
  row.state = .active ∧ now < row.expiresAt ∧ (directory.devices.find? (row.tenantId, row.deviceId)).any (fun device =>
      device.userId = row.userId ∧ device.state = .registered) ∧
    directory.userActive row.tenantId row.userId

def liveSession (directory : Directory) (sessionId : String) (now : Timestamp) : Except String Scope := do
  throwIf (sessionId = "" ∨ 256 < utf16Length sessionId) "device session is invalid"
  match directory.sessions.find? sessionId with
  | some row =>
    if isLive directory row now then .ok row.scope
    else .error "active registered device session is unavailable"
  | none => .error "active registered device session is unavailable"

/-- Released, or past its time. -/
def OwnerRow.inactive (row : OwnerRow) (now : Timestamp) : Bool := row.releasedAt ≠ none || row.leaseExpiresAt ≤ now

/-! ## Claim, check and release -/

def matterOf (scope : Scope) (nameSpace : String) : Matter := (scope.tenantId, scope.userId, nameSpace)

def claimedRow (expiresAt now : Timestamp) (row : OwnerRow) : OwnerRow :=
  { row with leaseExpiresAt := expiresAt, releasedAt := none, updatedAt := now }

def releasedRow (now : Timestamp) (row : OwnerRow) : OwnerRow :=
  { row with releasedAt := some now, leaseExpiresAt := now, updatedAt := now }

def claimBody (scope : Scope) (nameSpace : String) (expectedEpoch : Option Nat) (now : Timestamp)
    (ttlMs : Nat) (store : OwnerStore) : Except String (MatterOwnerLease × OwnerStore) :=
  let expiresAt := now + ttlMs
  match store.leases.find? (matterOf scope nameSpace) with
  | none => do
    throwIf (expectedEpoch ≠ none) "Matter owner epoch is unavailable"
    let row : OwnerRow := {
      tenantId := scope.tenantId, userId := scope.userId, nameSpace, deviceId := scope.deviceId, epoch := 1
      leaseExpiresAt := expiresAt, releasedAt := none, updatedAt := now }
    let leases ← store.leases.insertOrThrow row "cp_matter_owner_lease"
    .ok (row.lease, { store with leases })
  | some row => do
    throwIf (row.deviceId ≠ scope.deviceId ∨ some row.epoch ≠ expectedEpoch)
      "Matter owner belongs to another device or epoch"
    .ok ((claimedRow expiresAt now row).lease, { store with
      leases := store.leases.update (matterOf scope nameSpace) (claimedRow expiresAt now) fun _ => rfl })

def releaseBody (scope : Scope) (nameSpace : String) (expectedEpoch : Nat) (now : Timestamp)
    (store : OwnerStore) : Except String OwnerStore :=
  match store.leases.find? (matterOf scope nameSpace) with
  | none => .error "Matter owner release is out of scope"
  | some row => do
    throwIf (row.deviceId ≠ scope.deviceId ∨ row.epoch ≠ expectedEpoch ∨ row.releasedAt ≠ none)
      "Matter owner release is out of scope"
    .ok { store with
      leases := store.leases.update (matterOf scope nameSpace) (releasedRow now) fun _ => rfl }

/-! ## Transfer -/

structure TransferInput where
  expectedEpoch : Nat
  recoveryDigest : String
  approvalDigest : String
deriving DecidableEq

/-- A transfer that waits for the verifier: the call, and the row it has read. -/
structure Transfer where
  sessionId : String
  nameSpace : String
  input : TransferInput
  requestedAt : Timestamp
  ttlMs : Nat
  prior : OwnerRow

structure OwnerWorld where
  directory : Directory
  store : OwnerStore
  now : Timestamp
  calls : Suspension Transfer

/-- What a transfer does before it waits: it ends with the row and the target device that
are given to `recovery.verify`. -/
def requestTransfer (sessionId nameSpace : String) (input : TransferInput) (ttlMs : Nat)
    (world : OwnerWorld) : Except String (Transfer × String) := do
  checkScope nameSpace
  checkTtl ttlMs
  checkEpoch input.expectedEpoch
  throwIf (digestPattern input.recoveryDigest = false ∨ digestPattern input.approvalDigest = false)
    "Matter transfer evidence digest is invalid"
  let target ← liveSession world.directory sessionId world.now
  match world.store.leases.find? (matterOf target nameSpace) with
  | none => .error "Matter transfer source is unavailable"
  | some prior => do
    throwIf (prior.deviceId = target.deviceId ∨ prior.epoch ≠ input.expectedEpoch ∨ prior.inactive world.now = false)
      "Matter transfer source is unavailable"
    .ok (⟨sessionId, nameSpace, input, world.now, ttlMs, prior⟩, target.deviceId)

def transferredRow (deviceId : String) (epoch : Nat) (expiresAt now : Timestamp) (row : OwnerRow) : OwnerRow :=
  { row with deviceId, epoch, leaseExpiresAt := expiresAt, releasedAt := none, updatedAt := now }

/-- What a transfer does once its evidence is verified. -/
def commitTransfer (transfer : Transfer) (world : OwnerWorld) : Except String (MatterOwnerLease × OwnerStore) := do
  throwIf (world.now < transfer.requestedAt) "Matter transfer clock moved backwards"
  let target ← liveSession world.directory transfer.sessionId world.now
  let matter := matterOf target transfer.nameSpace
  match world.store.leases.find? matter with
  | none => .error "Matter transfer source changed while verifying recovery"
  | some current => do
    throwIf (current.deviceId ≠ transfer.prior.deviceId ∨ current.epoch ≠ transfer.input.expectedEpoch ∨
        current.inactive world.now = false)
      "Matter transfer source changed while verifying recovery"
    throwIf (9007199254740991 ≤ current.epoch) "Matter owner epoch exhausted"
    let expiresAt := world.now + transfer.ttlMs
    let change := transferredRow target.deviceId (current.epoch + 1) expiresAt world.now
    let leases := world.store.leases.update matter change fun _ => rfl
    let transfers ← world.store.transfers.insertOrThrow {
      tenantId := target.tenantId, userId := target.userId, nameSpace := transfer.nameSpace
      fromDeviceId := current.deviceId, toDeviceId := target.deviceId
      fromEpoch := transfer.input.expectedEpoch, toEpoch := current.epoch + 1
      recoveryDigest := transfer.input.recoveryDigest, approvalDigest := transfer.input.approvalDigest
      transferredAt := world.now } "cp_matter_owner_transfer"
    .ok ((change current).lease, { leases, transfers })

/-! ## Calls -/

/-- `transfer` is two calls: its request, and its end with the verifier's answer. A
verifier that rejects counts as one that says no. -/
inductive OwnerCall where
  | claim (sessionId nameSpace : String) (expectedEpoch : Option Nat) (ttlMs : Nat)
  | verifyCurrent (sessionId nameSpace : String) (expectedEpoch : Nat)
  | release (sessionId nameSpace : String) (expectedEpoch : Nat)
  | transfer (sessionId nameSpace : String) (input : TransferInput) (ttlMs : Nat)
  | verified (ticket : Nat) (answer : Bool)
  | advance (milliseconds : Nat)
  | directory (change : DirectoryChange)
deriving DecidableEq

inductive OwnerReply where
  | claimed (lease : MatterOwnerLease)
  | current (value : Bool)
  | released
  /-- Under this ticket the verifier is asked about the lease and the target device. -/
  | verifying (ticket : Nat) (candidate : MatterOwnerLease) (targetDeviceId : String)
  | transferred (lease : MatterOwnerLease)
  | refused (message : String)
  | done
deriving DecidableEq

namespace OwnerWorld

def claim (sessionId nameSpace : String) (expectedEpoch : Option Nat) (ttlMs : Nat)
    (world : OwnerWorld) : Except String (MatterOwnerLease × OwnerStore) := do
  checkScope nameSpace
  checkTtl ttlMs
  let scope ← liveSession world.directory sessionId world.now
  claimBody scope nameSpace expectedEpoch world.now ttlMs world.store

def verifyCurrent (sessionId nameSpace : String) (expectedEpoch : Nat) (world : OwnerWorld) : Except String Bool := do
  checkScope nameSpace
  checkEpoch expectedEpoch
  let scope ← liveSession world.directory sessionId world.now
  .ok ((world.store.leases.find? (matterOf scope nameSpace)).any fun row =>
    row.deviceId = scope.deviceId ∧ row.epoch = expectedEpoch ∧ row.releasedAt = none ∧ world.now < row.leaseExpiresAt)

def release (sessionId nameSpace : String) (expectedEpoch : Nat) (world : OwnerWorld) : Except String OwnerStore := do
  checkScope nameSpace
  checkEpoch expectedEpoch
  let scope ← liveSession world.directory sessionId world.now
  releaseBody scope nameSpace expectedEpoch world.now world.store

/-- The end of a transfer. -/
def endTransfer (transfer : Transfer) (answer : Bool) (world : OwnerWorld) :
    Except String (MatterOwnerLease × OwnerStore) := do
  throwIf (answer = false) "Matter recovery and owner approval were not verified"
  commitTransfer transfer world

def answer (call : OwnerCall) (world : OwnerWorld) : OwnerReply × OwnerWorld :=
  match call with
  | .claim sessionId nameSpace expectedEpoch ttlMs =>
    match world.claim sessionId nameSpace expectedEpoch ttlMs with
    | .ok (lease, store) => (.claimed lease, { world with store })
    | .error message => (.refused message, world)
  | .verifyCurrent sessionId nameSpace expectedEpoch =>
    match world.verifyCurrent sessionId nameSpace expectedEpoch with
    | .ok value => (.current value, world)
    | .error message => (.refused message, world)
  | .release sessionId nameSpace expectedEpoch =>
    match world.release sessionId nameSpace expectedEpoch with
    | .ok store => (.released, { world with store })
    | .error message => (.refused message, world)
  | .transfer sessionId nameSpace input ttlMs =>
    match requestTransfer sessionId nameSpace input ttlMs world with
    | .ok (transfer, targetDeviceId) =>
      (.verifying world.calls.next transfer.prior.lease targetDeviceId,
        { world with calls := world.calls.suspend transfer })
    | .error message => (.refused message, world)
  | .verified ticket answer =>
    match world.calls.find? ticket with
    | none => (.done, world)
    | some transfer =>
      let calls := world.calls.resume ticket
      match world.endTransfer transfer answer with
      | .ok (lease, store) => (.transferred lease, { world with store, calls })
      | .error message => (.refused message, { world with calls })
  | .advance milliseconds => (.done, { world with now := world.now + milliseconds })
  | .directory change => (.done, { world with directory := world.directory.apply change })

/-- The service over any directory, from any time on. -/
def machine (directory : Directory) (start : Timestamp) : Machine OwnerWorld OwnerCall OwnerReply where
  initial := ⟨directory, ⟨.empty, .empty⟩, start, .empty⟩
  perform := answer

end OwnerWorld

end QuarkSelfAI.ControlPlane

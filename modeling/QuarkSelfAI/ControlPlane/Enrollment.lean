import QuarkSelfAI.CapabilityPlatform.Checks
import QuarkSelfAI.ControlPlane.Directory
import QuarkSelfAI.Foundation.Suspension

/-!
# Device enrollment

`begin`, `approve` and `poll` of `SqliteInactiveDeviceEnrollmentV1`. An approval marks
its request, waits for the device to be registered and then completes the request or
takes it back; a crash drops the approvals that wait. Every call brings its own time.
-/

namespace QuarkSelfAI.ControlPlane

open Foundation CapabilityPlatform

/-! ## Rows -/

inductive EnrollmentState where
  | pending
  | approving
  | approved
  | expired
deriving DecidableEq

structure EnrollmentRow where
  requestId : String
  userCode : String
  pollTokenDigest : String
  tenantHint : String
  userHint : String
  deviceId : String
  publicKey : String
  state : EnrollmentState
  createdAt : Timestamp
  expiresAt : Timestamp
  decisionStartedAt : Option Timestamp
  approvedAt : Option Timestamp

/-! ## Checks -/

/-- SHA-256, and whether a text is the encoding of an Ed25519 key. -/
structure EnrollmentHost where
  sha256 : String → String
  isEd25519Key : String → Bool

def requestPattern (text : String) : Bool :=
  startsWith text "enrollment." && (text.toList.drop 11).length = 32 && (text.toList.drop 11).all isHexDigit

def isUpperHexDigit (char : Char) : Bool := char.isDigit || char ∈ ['A', 'B', 'C', 'D', 'E', 'F']

def userCodePattern (text : String) : Bool :=
  let groups := text.toList.splitOn '-'
  groups.length = 4 && groups.all fun group => group.length = 4 && group.all isUpperHexDigit

def pollTokenPattern (text : String) : Bool :=
  text.toList.length = 43 && text.toList.all fun char => char.isAlphanum || char = '_' || char = '-'

/-- `(?:^|[\\/])Users[\\/]` in any case. -/
def namesUsersFolder (text : String) : Bool :=
  ('/' :: text.toList).tails.any fun chars =>
    chars.head?.any isSlash && "users".toList.isPrefixOf (chars.tail.map Char.toLower) &&
      (chars.drop 6).head?.any isSlash

def unsafeEvidencePattern (text : String) : Bool := namesUsersFolder text || secretAssignmentPattern text

structure EnrollmentInput where
  tenantId : String
  userId : String
  deviceId : String
  publicKey : String

def validId (value label : String) : Except String Unit :=
  throwIf (isSegment value.toList = false) s!"{label} is invalid"

def validateDeviceIdentity (input : EnrollmentInput) : Except String Unit := do
  validId input.tenantId "tenantId"
  validId input.userId "userId"
  validId input.deviceId "deviceId"
  throwIf (input.publicKey = "" ∨ unsafeEvidencePattern input.publicKey = true)
    "device identity public key is invalid"

def validateEd25519PublicKey (host : EnrollmentHost) (value : String) : Except String Unit :=
  throwIf (startsWith value "ed25519-spki:" = false ∨ host.isEd25519Key (String.ofList (value.toList.drop 13)) = false)
    "device enrollment public key is invalid"

def validateInput (host : EnrollmentHost) (input : EnrollmentInput) : Except String Unit := do
  validateDeviceIdentity input
  validateEd25519PublicKey host input.publicKey

/-! ## Calls -/

/-- The identifiers a request draws. -/
structure EnrollmentDraw where
  requestId : String
  userCode : String
  pollToken : String
deriving DecidableEq

/-- An approval that waits for `registerDevice`. -/
structure Approval where
  tenantId : String
  userId : String
  requestId : String
  deviceId : String
  publicKey : String
  now : Timestamp

structure EnrollmentWorld where
  enrollments : Table EnrollmentRow.requestId
  devices : Table DeviceRow.key
  calls : Suspension Approval

/-- The state of a request as others see it. -/
inductive EnrollmentProgress where
  | pending
  | approved
  | expired
deriving DecidableEq

structure EnrollmentStatus where
  requestId : String
  deviceId : String
  state : EnrollmentProgress
  expiresAt : Timestamp
deriving DecidableEq

/-- `approve` is its start, in the order in which approvals are served, the registration
of the device, and its end, when `registerDevice` resolves or rejects with a message. -/
inductive EnrollmentCall where
  | begins (input : EnrollmentInput) (draw : EnrollmentDraw) (now : Timestamp)
  | approve (tenantId userId userCode : String) (now : Timestamp)
  | register (ticket : Nat)
  | settle (ticket : Nat) (rejected : Option String)
  | poll (requestId pollToken : String) (now : Timestamp)
  | crash

inductive EnrollmentReply where
  | begun (draw : EnrollmentDraw) (expiresAt : Timestamp)
  | registering (ticket : Nat) (deviceId publicKey : String)
  | registered
  | status (value : EnrollmentStatus)
  | refused (message : String)
  | done
deriving DecidableEq

namespace EnrollmentRow

def status (row : EnrollmentRow) : EnrollmentStatus where
  requestId := row.requestId
  deviceId := row.deviceId
  state := match row.state with
    | .approved => .approved
    | .expired => .expired
    | _ => .pending
  expiresAt := row.expiresAt

def expire (now : Timestamp) (row : EnrollmentRow) : EnrollmentRow :=
  if row.state = .pending ∧ row.expiresAt ≤ now then { row with state := .expired } else row

theorem expire_requestId (now : Timestamp) (row : EnrollmentRow) : (row.expire now).requestId = row.requestId := by
  unfold expire
  split
  · rfl
  · rfl

/-- `WHERE state IN ('pending','approving')`. -/
def isOpen (row : EnrollmentRow) : Bool := row.state = .pending || row.state = .approving

def isOf (input : EnrollmentInput) (row : EnrollmentRow) : Bool :=
  row.tenantHint = input.tenantId ∧ row.userHint = input.userId ∧ row.deviceId = input.deviceId

def begin (now : Timestamp) (row : EnrollmentRow) : EnrollmentRow :=
  { row with state := .approving, decisionStartedAt := some now }

theorem begin_requestId (now : Timestamp) (row : EnrollmentRow) : (row.begin now).requestId = row.requestId := rfl

def complete (now : Timestamp) (row : EnrollmentRow) : EnrollmentRow :=
  { row with state := .approved, approvedAt := some now }

theorem complete_requestId (now : Timestamp) (row : EnrollmentRow) : (row.complete now).requestId = row.requestId := rfl

def takeBack (row : EnrollmentRow) : EnrollmentRow :=
  if row.state = .approving then { row with state := .pending, decisionStartedAt := none } else row

theorem takeBack_requestId (row : EnrollmentRow) : row.takeBack.requestId = row.requestId := by
  unfold takeBack
  split
  · rfl
  · rfl

end EnrollmentRow

namespace EnrollmentWorld

def expire (now : Timestamp) (world : EnrollmentWorld) : EnrollmentWorld :=
  { world with
    enrollments := world.enrollments.mapRows (EnrollmentRow.expire now) (EnrollmentRow.expire_requestId now) }

/-- Ten minutes. -/
def lifetimeMs : Int := 600000

def requestedRow (host : EnrollmentHost) (input : EnrollmentInput) (draw : EnrollmentDraw)
    (now : Timestamp) : EnrollmentRow where
  requestId := draw.requestId
  userCode := draw.userCode
  pollTokenDigest := host.sha256 draw.pollToken
  tenantHint := input.tenantId
  userHint := input.userId
  deviceId := input.deviceId
  publicKey := input.publicKey
  state := .pending
  createdAt := now
  expiresAt := now + lifetimeMs
  decisionStartedAt := none
  approvedAt := none

/-- What `begin` does once expired requests are marked. The check of open requests also
keeps the unique index on them. -/
def request (host : EnrollmentHost) (input : EnrollmentInput) (draw : EnrollmentDraw) (now : Timestamp)
    (world : EnrollmentWorld) : Except String EnrollmentWorld := do
  throwIf (world.enrollments.rows.any (fun row => row.isOf input && row.isOpen) = true)
    "device enrollment request already pending"
  throwIf (requestPattern draw.requestId = false ∨ userCodePattern draw.userCode = false ∨
    pollTokenPattern draw.pollToken = false) "device enrollment entropy source is invalid"
  throwIf (world.enrollments.rows.any (fun row => row.userCode = draw.userCode) = true)
    "device enrollment identifier collision"
  match world.enrollments.insert? (requestedRow host input draw now) with
  | some enrollments => .ok { world with enrollments }
  | none => .error "device enrollment identifier collision"

def requestDevice (host : EnrollmentHost) (input : EnrollmentInput) (draw : EnrollmentDraw)
    (now : Timestamp) (world : EnrollmentWorld) : EnrollmentReply × EnrollmentWorld :=
  match validateInput host input with
  | .error message => (.refused message, world)
  | .ok _ =>
    match (world.expire now).request host input draw now with
    | .ok next => (.begun draw (now + lifetimeMs), next)
    | .error message => (.refused message, world.expire now)

/-- The request that an approval may begin or take over. -/
def approvable (tenantId userId : String) (now : Timestamp) (row : EnrollmentRow) : Except String Unit := do
  throwIf (row.tenantHint ≠ tenantId ∨ row.userHint ≠ userId)
    "device enrollment request is not authorized for authenticated user"
  throwIf (row.state = .expired) "device enrollment request expired"
  throwIf (row.state = .approving ∧ (row.decisionStartedAt.any fun started => now < started + 30000) = true)
    "device enrollment approval is already in progress"

/-- What `#approveSerial` does before it calls `registerDevice`. -/
def approveSerial (tenantId userId userCode : String) (now : Timestamp) (world : EnrollmentWorld) :
    EnrollmentReply × EnrollmentWorld :=
  if userCodePattern userCode = false then (.refused "device enrollment user code is invalid", world)
  else
    let current := world.expire now
    match current.enrollments.rows.find? fun row => row.userCode = userCode with
    | none => (.refused "device enrollment request is unavailable", current)
    | some row =>
      match approvable tenantId userId now row with
      | .error message => (.refused message, current)
      | .ok _ =>
        if row.state = .approved then (.status row.status, current)
        else (.registering current.calls.next row.deviceId row.publicKey, { current with
          enrollments := current.enrollments.update row.requestId (EnrollmentRow.begin now)
            (EnrollmentRow.begin_requestId now)
          calls := current.calls.suspend
            ⟨tenantId, userId, row.requestId, row.deviceId, row.publicKey, now⟩ })

/-- `putDevice` of the device an approval waits for. -/
def register (approval : Approval) (world : EnrollmentWorld) : EnrollmentReply × EnrollmentWorld :=
  let device : DeviceRow := ⟨approval.tenantId, approval.deviceId, approval.userId, approval.publicKey, .registered⟩
  if ((world.devices.find? device.key).any fun existing =>
      existing.userId ≠ device.userId || existing.publicKey ≠ device.publicKey) = true then
    (.refused "device identity is immutable inside a tenant", world)
  else (.registered, { world with devices := world.devices.put device })

/-- What `#approveSerial` does when `registerDevice` has resolved or rejected. -/
def settle (approval : Approval) (rejected : Option String) (world : EnrollmentWorld) :
    EnrollmentReply × EnrollmentWorld :=
  match rejected with
  | some message => (.refused message, { world with
      enrollments := world.enrollments.update approval.requestId EnrollmentRow.takeBack
        EnrollmentRow.takeBack_requestId })
  | none =>
    match world.enrollments.find? approval.requestId with
    | none => (.refused "device enrollment approval conflict", world)
    | some row =>
      if row.state = .approving then
        (.status (row.complete approval.now).status, { world with
          enrollments := world.enrollments.update approval.requestId (EnrollmentRow.complete approval.now)
            (EnrollmentRow.complete_requestId approval.now) })
      else (.refused "device enrollment approval conflict", world)

def poll (host : EnrollmentHost) (requestId pollToken : String) (now : Timestamp) (world : EnrollmentWorld) :
    EnrollmentReply × EnrollmentWorld :=
  if requestPattern requestId = false ∨ pollTokenPattern pollToken = false then
    (.refused "device enrollment poll credential is invalid", world)
  else
    let current := world.expire now
    match current.enrollments.find? requestId with
    | none => (.refused "device enrollment poll credential is invalid", current)
    | some row =>
      if row.pollTokenDigest = host.sha256 pollToken then (.status row.status, current)
      else (.refused "device enrollment poll credential is invalid", current)

def answer (host : EnrollmentHost) (call : EnrollmentCall) (world : EnrollmentWorld) :
    EnrollmentReply × EnrollmentWorld :=
  match call with
  | .begins input draw now => world.requestDevice host input draw now
  | .approve tenantId userId userCode now => world.approveSerial tenantId userId userCode now
  | .register ticket =>
    match world.calls.find? ticket with
    | none => (.done, world)
    | some approval => world.register approval
  | .settle ticket rejected =>
    match world.calls.find? ticket with
    | none => (.done, world)
    | some approval => settle approval rejected { world with calls := world.calls.resume ticket }
  | .poll requestId pollToken now => world.poll host requestId pollToken now
  | .crash => (.done, { world with calls := world.calls.clear })

def machine (host : EnrollmentHost) : Machine EnrollmentWorld EnrollmentCall EnrollmentReply where
  initial := ⟨.empty, .empty, .empty⟩
  perform := answer host

end EnrollmentWorld

end QuarkSelfAI.ControlPlane

import QuarkSelfAI.CapabilityPlatform.Checks
import QuarkSelfAI.ControlPlane.Directory
import QuarkSelfAI.Foundation.Suspension

/-!
# Logins

`authenticate` of `SqliteCloudIdentityProviderV1`. A login reads the account and its
throttle, waits for the password to be derived, and then records a failure or starts
a session; other logins run in between.
-/

namespace QuarkSelfAI.ControlPlane

open Foundation CapabilityPlatform

/-! ## Rows -/

/-- A tenant and a user. -/
abbrev Account := String × String

inductive TenantState where
  | test
  | active
  | suspended
deriving DecidableEq

structure TenantRow where
  tenantId : String
  state : TenantState

/-- `cp_auth_account`, whose state is `active` or `disabled` as that of a user. -/
structure AccountRow where
  tenantId : String
  userId : String
  passwordSalt : String
  passwordHash : String
  state : UserState

def AccountRow.key (row : AccountRow) : Account := (row.tenantId, row.userId)

structure ThrottleRow where
  tenantId : String
  userId : String
  windowStartedAt : Timestamp
  failureCount : Nat
  blockedUntil : Option Timestamp
deriving DecidableEq

def ThrottleRow.key (row : ThrottleRow) : Account := (row.tenantId, row.userId)

inductive BrowserSessionState where
  | active
  | revoked
  | expired
deriving DecidableEq

structure BrowserSessionRow where
  sessionDigest : String
  tenantId : String
  userId : String
  issuedAt : Timestamp
  expiresAt : Timestamp
  state : BrowserSessionState

/-- The tables that decide who may log in. Other components write them. -/
structure People where
  tenants : Table TenantRow.tenantId
  users : Table UserRow.key
  accounts : Table AccountRow.key

/-- What `authenticate` selects of an account. -/
structure LoginRow where
  passwordSalt : String
  passwordHash : String
  accountState : UserState
  userState : UserState
  tenantState : TenantState

def People.loginRow? (people : People) (account : Account) : Option LoginRow := do
  let row ← people.accounts.find? account
  let user ← people.users.find? account
  let tenant ← people.tenants.find? account.1
  some ⟨row.passwordSalt, row.passwordHash, row.state, user.state, tenant.state⟩

/-! ## The throttle -/

/-- Fifteen minutes. -/
def throttleWindow : Int := 900000

/-- The window that is open at a time: its start, and the failures counted in it. -/
def openWindow? (existing : Option ThrottleRow) (timestamp : Timestamp) : Option (Timestamp × Nat) :=
  existing.bind fun row =>
    if timestamp - row.windowStartedAt < throttleWindow then some (row.windowStartedAt, row.failureCount)
    else none

def isBlocked (existing : Option ThrottleRow) (timestamp : Timestamp) : Bool :=
  (existing.bind ThrottleRow.blockedUntil).any fun blockedUntil => timestamp < blockedUntil

/-- The row that `#recordFailure` writes. -/
def failureRow (account : Account) (timestamp : Timestamp) (existing : Option ThrottleRow) : ThrottleRow :=
  let withinWindow := openWindow? existing timestamp
  let count := match withinWindow with
    | some (_, failureCount) => failureCount + 1
    | none => 1
  { tenantId := account.1, userId := account.2
    windowStartedAt := (withinWindow.map Prod.fst).getD timestamp
    failureCount := count
    blockedUntil := if 5 ≤ count then some (timestamp + throttleWindow) else none }

/-! ## Logins -/

/-- scrypt, and the digest under which a session is stored. -/
structure IdentityHost where
  derive : String → String → String
  sessionDigest : String → String

/-- A login that waits for the derived password, with the rows it has read. -/
structure Login where
  tenantId : String
  userId : String
  password : String
  timestamp : Timestamp
  row : Option LoginRow
  throttle : Option ThrottleRow

namespace Login

def account (login : Login) : Account := (login.tenantId, login.userId)

def blocked (login : Login) : Bool := isBlocked login.throttle login.timestamp

/-- The password is the one of an active account, of an active user, of a tenant that is
not suspended. -/
def accepted (host : IdentityHost) (login : Login) : Bool :=
  login.row.any fun row => row.accountState = .active ∧ row.userState = .active ∧
    row.tenantState ∈ [.active, .test] ∧ row.passwordHash = host.derive login.password row.passwordSalt

end Login

structure LoginWorld where
  people : People
  throttles : Table ThrottleRow.key
  sessions : Table BrowserSessionRow.sessionDigest
  calls : Suspension Login

def validateIdentity (tenantId userId : String) : Except String Unit :=
  throwIf (isSegment tenantId.toList = false ∨ isSegment userId.toList = false) "cloud identity scope is invalid"

def isLineBreakOrNul (char : Char) : Bool := char = '\x00' || char = '\r' || char = '\n'

def passwordBytes (value : String) : Except String Unit :=
  throwIf (value.utf8ByteSize < 12 ∨ 256 < value.utf8ByteSize ∨ value.toList.any isLineBreakOrNul = true)
    "cloud authentication failed"

/-- `authenticate` is two calls: its start, and its end once the password is derived. The
session reference is the random one the call draws. -/
inductive LoginCall where
  | authenticate (tenantId userId password : String) (now : Timestamp)
  | derived (ticket : Nat) (sessionReference : String)
  | administer (people : People)

inductive LoginReply where
  | pending (ticket : Nat)
  | authenticated (sessionReference : String) (expiresAt : Timestamp)
  | refused (message : String)
  | done
deriving DecidableEq

namespace LoginWorld

/-- What a login does before it waits. -/
def startLogin (tenantId userId password : String) (now : Timestamp) (world : LoginWorld) : Except String Login := do
  validateIdentity tenantId userId
  passwordBytes password
  .ok { tenantId, userId, password, timestamp := now
        row := world.people.loginRow? (tenantId, userId)
        throttle := world.throttles.find? (tenantId, userId) }

/-- Eight hours. -/
def sessionTime : Int := 28800000

/-- What a login does with the derived password. There is no transaction: a session that
cannot be stored leaves the throttle deleted. -/
def endLogin (host : IdentityHost) (login : Login) (sessionReference : String) (world : LoginWorld) :
    LoginReply × LoginWorld :=
  if login.blocked then (.refused "cloud authentication failed", world)
  else if login.accepted host then
    let cleared := { world with throttles := world.throttles.delete login.account }
    let expiresAt := login.timestamp + sessionTime
    match cleared.sessions.insertOrThrow {
      sessionDigest := host.sessionDigest sessionReference, tenantId := login.tenantId
      userId := login.userId, issuedAt := login.timestamp, expiresAt, state := .active }
      "cp_browser_session" with
    | .ok sessions => (.authenticated sessionReference expiresAt, { cleared with sessions })
    | .error message => (.refused message, cleared)
  else
    (.refused "cloud authentication failed", { world with
      throttles := world.throttles.put (failureRow login.account login.timestamp login.throttle) })

def answer (host : IdentityHost) (call : LoginCall) (world : LoginWorld) : LoginReply × LoginWorld :=
  match call with
  | .authenticate tenantId userId password now =>
    match world.startLogin tenantId userId password now with
    | .ok login => (.pending world.calls.next, { world with calls := world.calls.suspend login })
    | .error message => (.refused message, world)
  | .derived ticket sessionReference =>
    match world.calls.find? ticket with
    | none => (.done, world)
    | some login => endLogin host login sessionReference { world with calls := world.calls.resume ticket }
  | .administer people => (.done, { world with people })

/-- The service before any login, whoever may log in. -/
def machine (host : IdentityHost) (people : People) : Machine LoginWorld LoginCall LoginReply where
  initial := ⟨people, .empty, .empty, .empty⟩
  perform := answer host

end LoginWorld

end QuarkSelfAI.ControlPlane

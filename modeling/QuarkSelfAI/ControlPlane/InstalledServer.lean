import QuarkSelfAI.ControlPlane.Login

/-!
# The installed server

What a running server does to its installation: the identity operations of
`SqliteCloudIdentityProviderV1` add and change rows of the control database, and the start and the
stop of `runCloudServerEntryV1` make and remove the lease, its renamed remains and the socket in the
runtime directory, by single steps between which the process may be cut off. `recoverInstalledFirstOwner`
reads all of it, and the operations of the installation's lifecycle begin with it.
-/

namespace QuarkSelfAI.ControlPlane

open Foundation CapabilityPlatform

/-! ## The control database -/

inductive CloudRole where
  | owner
  | member
  | auditor
deriving DecidableEq

structure TenantRecord where
  tenantId : String
  name : String
  state : TenantState
  createdAt : Timestamp

structure UserRecord where
  tenantId : String
  userId : String
  displayName : String
  state : UserState
  createdAt : Timestamp

def UserRecord.key (row : UserRecord) : Account := (row.tenantId, row.userId)

structure AccountRecord where
  tenantId : String
  userId : String
  passwordSalt : String
  passwordHash : String
  roles : List CloudRole
  state : UserState
  createdAt : Timestamp

def AccountRecord.key (row : AccountRecord) : Account := (row.tenantId, row.userId)

structure ControlDatabase where
  tenants : Table TenantRecord.tenantId
  users : Table UserRecord.key
  accounts : Table AccountRecord.key
  throttles : Table ThrottleRow.key
  sessions : Table BrowserSessionRow.sessionDigest

structure TenantContext where
  tenantId : String
  userId : String
  roles : List CloudRole
deriving DecidableEq

structure UserProvision where
  userId : String
  displayName : String
  password : String
  roles : List CloudRole

/-- The identity host, the authorization port of an administrative action, and whether the process
creates sockets that are its owner's alone. -/
structure ServerHost extends IdentityHost where
  authorize : TenantContext → String → String → Bool
  privateUmask : Bool

/-- `\s*[:=]` at the head. -/
def assigns (chars : List Char) : Bool := (chars.dropWhile isSpace).head?.any fun char => char ∈ [':', '=']

/-- `(?:token|secret|password|private[_-]?key)\s*[:=]`, whatever the case. -/
def assignsSecret (text : String) : Bool :=
  text.toList.tails.any fun rest =>
    ["token", "secret", "password", "privatekey", "private_key", "private-key"].any fun word =>
      word.toList.isPrefixOf (rest.map Char.toLower) && assigns (rest.drop word.length)

def safeDisplayName (value : String) : Bool :=
  trim value ≠ "" && utf16Length value ≤ 200 && !value.toList.any isLineBreakOrNul && !assignsSecret value

def validateRoles (roles : List CloudRole) : Except String Unit :=
  throwIf (roles = [] ∨ ¬ roles.Nodup) "cloud identity roles are invalid"

/-- `session:` and 64 hexadecimal digits. -/
def isSessionReference (reference : String) : Bool :=
  startsWith reference "session:" && (reference.toList.drop 8).length = 64 && (reference.toList.drop 8).all isHexDigit

namespace ControlDatabase

/-- The rows of a table under another view that keeps the key. -/
def view {Key Row Seen : Type} {key : Row → Key} {seenKey : Seen → Key} (table : Table key) (seen : Row → Seen)
    (keeps : ∀ row, seenKey (seen row) = key row) : Table seenKey where
  rows := table.rows.map seen
  unique := by
    have same : seenKey ∘ seen = key := funext keeps
    rw [List.map_map, same]
    exact table.unique

def people (database : ControlDatabase) : People where
  tenants := view database.tenants (fun row => ⟨row.tenantId, row.state⟩) fun _ => rfl
  users := view database.users (fun row => ⟨row.tenantId, row.userId, row.state⟩) fun _ => rfl
  accounts := view database.accounts
    (fun row => ⟨row.tenantId, row.userId, row.passwordSalt, row.passwordHash, row.state⟩) fun _ => rfl

/-- What `authenticate` works on. -/
def login (database : ControlDatabase) (calls : Suspension Login) : LoginWorld :=
  ⟨database.people, database.throttles, database.sessions, calls⟩

/-- Store what `authenticate` has changed. -/
def logged (database : ControlDatabase) (world : LoginWorld) : ControlDatabase :=
  { database with throttles := world.throttles, sessions := world.sessions }

/-- The actor, his user and his tenant are active. -/
def actorAvailable (context : TenantContext) (database : ControlDatabase) : Bool :=
  ((database.accounts.find? (context.tenantId, context.userId)).any fun row => row.state = .active) &&
    ((database.users.find? (context.tenantId, context.userId)).any fun row => row.state = .active) &&
    (database.tenants.find? context.tenantId).any fun row => row.state = .active

/-- The transaction of `provisionUser`. -/
def insertUser (host : ServerHost) (context : TenantContext) (input : UserProvision) (salt : String) (createdAt : Timestamp)
    (database : ControlDatabase) : Except String (Unit × ControlDatabase) := do
  throwIf (database.actorAvailable context = false) "cloud identity administration actor is unavailable"
  let users ← database.users.insertOrThrow
    ⟨context.tenantId, input.userId, input.displayName, .active, createdAt⟩ "cp_user"
  let accounts ← database.accounts.insertOrThrow
    ⟨context.tenantId, input.userId, salt, host.derive input.password salt, input.roles, .active, createdAt⟩
    "cp_auth_account"
  .ok ((), { database with users, accounts })

/-- `provisionUser`, with the salt it draws. Nothing is read before the password is derived. -/
def provisionUser (host : ServerHost) (context : TenantContext) (input : UserProvision) (salt : String) (now : Timestamp)
    (database : ControlDatabase) : Except String Unit × ControlDatabase :=
  let checked : Except String Unit := do
    validateIdentity context.tenantId context.userId
    validateIdentity context.tenantId input.userId
    validateRoles input.roles
    throwIf (host.authorize context "user.provision-account" s!"user:{input.userId}" = false)
      "cloud identity administration is not authorized"
    throwIf (safeDisplayName input.displayName = false) "cloud identity display name is invalid"
    passwordBytes input.password
  match checked with
  | .error message => (.error message, database)
  | .ok () =>
    match transaction (insertUser host context input salt now) database with
    | (.error message, kept) =>
      (.error (if startsWith message "UNIQUE constraint failed" then "cloud identity user already exists" else message), kept)
    | (.ok (), next) => (.ok (), next)

/-- Set the state of a browser session that is active. -/
def endSession (digest : String) (state : BrowserSessionState) (database : ControlDatabase) : ControlDatabase :=
  { database with
    sessions := database.sessions.update digest
      (fun row => if row.state = .active then { row with state } else row) fun row => by split <;> rfl }

def revoke (host : ServerHost) (reference : String) (database : ControlDatabase) : Except String Unit × ControlDatabase :=
  if isSessionReference reference = false then (.error "cloud session reference is invalid", database)
  else (.ok (), database.endSession (host.sessionDigest reference) .revoked)

def resolveSession (host : ServerHost) (reference : String) (now : Timestamp) (database : ControlDatabase) :
    Option TenantContext × ControlDatabase :=
  if isSessionReference reference = false then (none, database)
  else
    let digest := host.sessionDigest reference
    match database.sessions.find? digest with
    | none => (none, database)
    | some row =>
      match database.accounts.find? (row.tenantId, row.userId), database.users.find? (row.tenantId, row.userId),
        database.tenants.find? row.tenantId with
      | some account, some user, some tenant =>
        if row.state ≠ .active ∨ account.state ≠ .active ∨ user.state ≠ .active ∨ tenant.state ∉ [.active, .test] then
          (none, database)
        else if row.expiresAt ≤ now then (none, database.endSession digest .expired)
        else (some ⟨row.tenantId, row.userId, account.roles⟩, database)
      | _, _, _ => (none, database)

/-- The tenants with their users and accounts. -/
def joined (database : ControlDatabase) : List (TenantRecord × UserRecord × AccountRecord) :=
  database.tenants.rows.flatMap fun tenant =>
    (database.users.rows.filter fun user => user.tenantId = tenant.tenantId).flatMap fun user =>
      (database.accounts.rows.filter fun account => account.key = user.key).map fun account => (tenant, user, account)

end ControlDatabase

/-- Who the owner is, as the database tells. -/
structure DatabaseOwner where
  tenantId : String
  userId : String
  createdAt : Timestamp

def inspectInstalledFirstOwnerDatabase (database : ControlDatabase) : Except String DatabaseOwner :=
  match database.joined.head? with
  | none => .error "installed owner bootstrap database is invalid"
  | some (tenant, user, account) => do
    throwIf (tenant.createdAt ≠ user.createdAt ∨ tenant.createdAt ≠ account.createdAt ∨ account.roles ≠ [.owner] ∨
        tenant.state ≠ .active ∨ user.state ≠ .active ∨ account.state ≠ .active ∨
        database.tenants.rows.length ≠ 1 ∨ database.users.rows.length ≠ 1 ∨ database.accounts.rows.length ≠ 1 ∨
        database.sessions.rows.length ≠ 0)
      "installed owner bootstrap database is invalid"
    .ok ⟨tenant.tenantId, user.userId, tenant.createdAt⟩

/-! ## The runtime directory -/

/-- A lease that was renamed to be removed; `owned` as long as its owner file is there. -/
structure StaleLease where
  uuid : String
  owned : Bool

/-- `lease` is the directory of the lease, with or without its owner file; `socket` is whether the
socket is its owner's alone. -/
structure RuntimeDirectory where
  lease : Option Bool
  stale : List StaleLease
  socket : Option Bool

namespace RuntimeDirectory

def empty : RuntimeDirectory := ⟨none, [], none⟩

def entries (runtime : RuntimeDirectory) : List String :=
  (runtime.lease.map fun _ => "instance").toList ++ runtime.stale.map (fun lease => s!"instance.stale.{lease.uuid}") ++
    (runtime.socket.map fun _ => "device.sock").toList

end RuntimeDirectory

/-- The next step of the process. `reclaimed` is whether this start has removed a lease. -/
inductive ServerPhase where
  | stopped
  | making (attempt : Nat) (reclaimed : Bool)
  | writing (reclaimed : Bool)
  | discarding (attempt : Nat)
  | removing (attempt : Nat)
  | reconciling (reclaimed : Bool)
  | listening
  /-- `chmod` of the socket. -/
  | guarding
  | running
  | closing
  | releasing
deriving DecidableEq

structure ServerConfiguration where
  installationId : String
  configDigest : String

structure OwnerReceipt where
  installationId : String
  configurationDigest : String
  tenantId : String
  userId : String
  createdAt : Timestamp
deriving DecidableEq

structure FirstOwnerInput where
  tenantId : String
  tenantName : String
  userId : String
  displayName : String

/-- An installation with the process that runs in it. What the device operations write is not read here. -/
structure InstalledServer (Devices : Type) where
  configuration : ServerConfiguration
  receipt : OwnerReceipt
  database : ControlDatabase
  devices : Devices
  calls : Suspension Login
  stateEntries : List String
  runtime : RuntimeDirectory
  phase : ServerPhase

inductive ServerCall (Devices : Type) where
  | start
  /-- The process does its next step. -/
  | advance (uuid : String)
  | stop
  | crash
  | authenticate (tenantId userId password : String) (now : Timestamp)
  | derived (ticket : Nat) (sessionReference : String)
  | resolveSession (sessionReference : String) (now : Timestamp)
  | revoke (sessionReference : String)
  | provisionUser (context : TenantContext) (input : UserProvision) (salt : String) (now : Timestamp)
  | device (change : Devices → Devices)

inductive ServerReply where
  | done
  | refused (message : String)
  | login (reply : LoginReply)
  | resolved (context : Option TenantContext)
  | provisioned
  /-- A crash came before a step. -/
  | cut (phase : ServerPhase)
deriving DecidableEq

namespace InstalledServer

variable {Devices : Type}

def walEntries : List String := ["control.sqlite3-shm", "control.sqlite3-wal"]

def runtimeAllowed : List String := ["device.sock", "instance", "server-upgrade-intent.json"]

def stateAllowed : List String := "control.sqlite3" :: "owner-bootstrap-receipt.json" :: walEntries

/-- What `bootstrapInstalledFirstOwner` leaves. -/
def bootstrapped (host : ServerHost) (configuration : ServerConfiguration) (input : FirstOwnerInput)
    (password salt : String) (now : Timestamp) (devices : Devices) : InstalledServer Devices where
  configuration := configuration
  receipt := ⟨configuration.installationId, configuration.configDigest, input.tenantId, input.userId, now⟩
  database :=
    { tenants := Table.empty.insertOrIgnore ⟨input.tenantId, input.tenantName, .active, now⟩
      users := Table.empty.insertOrIgnore ⟨input.tenantId, input.userId, input.displayName, .active, now⟩
      accounts := Table.empty.insertOrIgnore
        ⟨input.tenantId, input.userId, salt, host.derive password salt, [.owner], .active, now⟩
      throttles := .empty
      sessions := .empty }
  devices := devices
  calls := .empty
  stateEntries := ["control.sqlite3", "owner-bootstrap-receipt.json"]
  runtime := .empty
  phase := .stopped

def recoverInstalledFirstOwner (server : InstalledServer Devices) : Except String OwnerReceipt := do
  throwIf (server.runtime.entries.any (fun name => name ∉ runtimeAllowed) = true ∨
      "control.sqlite3" ∉ server.stateEntries ∨ "owner-bootstrap-receipt.json" ∉ server.stateEntries ∨
      server.stateEntries.any (fun name => name ∉ stateAllowed) = true)
    "installed owner bootstrap layout is invalid"
  -- `validateRuntimeSidecars`
  throwIf (server.runtime.socket = some false) "installed owner bootstrap layout is invalid"
  throwIf (server.receipt.installationId ≠ server.configuration.installationId ∨
      server.receipt.configurationDigest ≠ server.configuration.configDigest)
    "installed owner bootstrap lineage drifted"
  let owner ← inspectInstalledFirstOwnerDatabase server.database
  throwIf (owner.tenantId ≠ server.receipt.tenantId ∨ owner.userId ≠ server.receipt.userId ∨
      owner.createdAt ≠ server.receipt.createdAt)
    "installed owner bootstrap database is invalid"
  .ok server.receipt

/-! ## The process -/

def opened (server : InstalledServer Devices) : InstalledServer Devices :=
  { server with stateEntries := server.stateEntries ++ walEntries.filter (· ∉ server.stateEntries) }

/-- Go on to the release of the lease, with the database closed. -/
def closed (server : InstalledServer Devices) : InstalledServer Devices :=
  { server with
    stateEntries := server.stateEntries.filter (· ∉ walEntries)
    calls := server.calls.clear
    phase := .closing }

def maximumLeaseAttempts : Nat := 3

/-- The next step of the process. The process of a lease that is found is gone. -/
def advance (host : ServerHost) (uuid : String) (server : InstalledServer Devices) :
    ServerReply × InstalledServer Devices :=
  let runtime := server.runtime
  match server.phase with
  | .making attempt reclaimed =>
    match runtime.lease with
    | none => (.done, { server with runtime := { runtime with lease := some false }, phase := .writing reclaimed })
    | some true => (.done, { server with
        runtime := { runtime with lease := none, stale := runtime.stale ++ [⟨uuid, true⟩] }
        phase := .discarding attempt })
    | some false => (.refused "existing server instance lease is invalid", { server with phase := .stopped })
  | .writing reclaimed =>
    (.done, { server with runtime := { runtime with lease := some true }, phase := .reconciling reclaimed })
  | .discarding attempt =>
    let unowned : List StaleLease := (runtime.stale.getLast?.map fun lease => { lease with owned := false }).toList
    (.done, { server with
      runtime := { runtime with stale := runtime.stale.dropLast ++ unowned }, phase := .removing attempt })
  | .removing attempt =>
    let server := { server with runtime := { runtime with stale := runtime.stale.dropLast } }
    if attempt + 1 < maximumLeaseAttempts then (.done, { server with phase := .making (attempt + 1) true })
    else (.refused "could not acquire installed server instance lease", { server with phase := .stopped })
  | .reconciling reclaimed =>
    if reclaimed then
      match runtime.socket with
      | some false => (.refused "stale cloud SSH IPC socket is unsafe", server.closed)
      | some true => (.done, { server with runtime := { runtime with socket := none }, phase := .listening })
      | none => (.done, { server with phase := .listening })
    else (.done, { server with phase := .listening })
  | .listening =>
    match runtime.socket with
    | some _ => (.refused "cloud SSH IPC socket path already exists", server.closed)
    | none => (.done, { server.opened with
        runtime := { runtime with socket := some host.privateUmask }, phase := .guarding })
  | .guarding => (.done, { server with runtime := { runtime with socket := some true }, phase := .running })
  | .closing => (.done, { server with runtime := { runtime with lease := some false }, phase := .releasing })
  | .releasing => (.done, { server with runtime := { runtime with lease := none }, phase := .stopped })
  | .stopped | .running => (.done, server)

/-- An operation of the running server. -/
def whileRunning (server : InstalledServer Devices) (result : ServerReply × InstalledServer Devices) :
    ServerReply × InstalledServer Devices :=
  if server.phase = .running then result else (.refused "the server does not run", server)

def perform (host : ServerHost) (call : ServerCall Devices) (server : InstalledServer Devices) :
    ServerReply × InstalledServer Devices :=
  let loginCall (call : LoginCall) :=
    let (reply, world) := LoginWorld.answer host.toIdentityHost call (server.database.login server.calls)
    (ServerReply.login reply, { server with database := server.database.logged world, calls := world.calls })
  match call with
  | .start =>
    if server.phase = .stopped then (.done, { server with phase := .making 0 false })
    else (.refused "another installed server instance owns the provider graph", server)
  | .advance uuid => server.advance host uuid
  | .stop => server.whileRunning (.done, { server.closed with runtime := { server.runtime with socket := none } })
  | .crash => (.cut server.phase, { server with phase := .stopped, calls := server.calls.clear })
  | .authenticate tenantId userId password now => server.whileRunning (loginCall (.authenticate tenantId userId password now))
  | .derived ticket sessionReference => server.whileRunning (loginCall (.derived ticket sessionReference))
  | .resolveSession sessionReference now =>
    let (context, database) := server.database.resolveSession host sessionReference now
    server.whileRunning (.resolved context, { server with database })
  | .revoke sessionReference =>
    let (outcome, database) := server.database.revoke host sessionReference
    server.whileRunning (match outcome with
      | .ok () => .done
      | .error message => .refused message, { server with database })
  | .provisionUser context input salt now =>
    let (outcome, database) := server.database.provisionUser host context input salt now
    server.whileRunning (match outcome with
      | .ok () => .provisioned
      | .error message => .refused message, { server with database })
  | .device change => server.whileRunning (.done, { server with devices := change server.devices })

/-- The server of an installation that was just bootstrapped. -/
def machine (host : ServerHost) (configuration : ServerConfiguration) (input : FirstOwnerInput)
    (password salt : String) (now : Timestamp) (devices : Devices) :
    Machine (InstalledServer Devices) (ServerCall Devices) ServerReply where
  initial := bootstrapped host configuration input password salt now devices
  perform := perform host

/-! ## The lifecycle -/

inductive LifecycleOperation where
  | status
  | deactivate
  | upgrade
  | backup
deriving DecidableEq

/-- An operation of the lifecycle: it recovers the owner, a backup inspects its snapshot too, and it
checks what use does not change. -/
def lifecycle (unchanged : LifecycleOperation → Except String Unit) (operation : LifecycleOperation)
    (server : InstalledServer Devices) : Except String OwnerReceipt := do
  let receipt ← server.recoverInstalledFirstOwner
  if operation = .backup then
    let snapshot ← inspectInstalledFirstOwnerDatabase server.database
    throwIf (snapshot.tenantId ≠ receipt.tenantId ∨ snapshot.userId ≠ receipt.userId ∨
        snapshot.createdAt ≠ receipt.createdAt)
      "server state snapshot owner lineage drifted"
  unchanged operation
  .ok receipt

end InstalledServer

end QuarkSelfAI.ControlPlane

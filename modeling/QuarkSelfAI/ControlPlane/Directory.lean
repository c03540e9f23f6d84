import QuarkSelfAI.Foundation.IsoTime
import QuarkSelfAI.Foundation.Table

/-!
# Users, devices and sessions

The tables `cp_user`, `cp_device` and `cp_device_session` that the providers of the
control plane read, and the changes other components make to them. A session keeps
its tenant, user and device for good.
-/

namespace QuarkSelfAI.ControlPlane

open Foundation

inductive UserState where
  | active
  | disabled
deriving DecidableEq

inductive DeviceState where
  | pending
  | registered
  | revoked
deriving DecidableEq

inductive SessionState where
  | active
  | superseded
  | expired
  | revoked
deriving DecidableEq

structure UserRow where
  tenantId : String
  userId : String
  state : UserState
deriving DecidableEq

def UserRow.key (row : UserRow) : String × String := (row.tenantId, row.userId)

structure DeviceRow where
  tenantId : String
  deviceId : String
  userId : String
  publicKey : String
  state : DeviceState
deriving DecidableEq

def DeviceRow.key (row : DeviceRow) : String × String := (row.tenantId, row.deviceId)

structure SessionRow where
  sessionId : String
  tenantId : String
  userId : String
  deviceId : String
  issuedAt : Timestamp
  expiresAt : Timestamp
  state : SessionState
deriving DecidableEq

/-- Who acts: the tenant, user and device of a session. -/
structure Scope where
  tenantId : String
  userId : String
  deviceId : String
deriving DecidableEq

def SessionRow.scope (row : SessionRow) : Scope := ⟨row.tenantId, row.userId, row.deviceId⟩

structure Directory where
  users : Table UserRow.key
  devices : Table DeviceRow.key
  sessions : Table SessionRow.sessionId

namespace Directory

def empty : Directory := ⟨.empty, .empty, .empty⟩

def userActive (directory : Directory) (tenantId userId : String) : Bool :=
  (directory.users.find? (tenantId, userId)).any fun row => row.state = .active

/-- Set the state of a session. -/
def withState (state : SessionState) (row : SessionRow) : SessionRow :=
  { row with state }

def setSession (sessionId : String) (state : SessionState) (sessions : Table SessionRow.sessionId) :
    Table SessionRow.sessionId :=
  sessions.update sessionId (withState state) fun _ => rfl

theorem find?_setSession (sessionId other : String) (state : SessionState) (sessions : Table SessionRow.sessionId) :
    (setSession sessionId state sessions).find? other =
      if other = sessionId then (sessions.find? other).map (withState state) else sessions.find? other :=
  Table.find?_update other

theorem mem_setSession {sessionId : String} {state : SessionState} {sessions : Table SessionRow.sessionId}
    {row : SessionRow} : row ∈ setSession sessionId state sessions ↔
      (∃ old ∈ sessions, old.sessionId = sessionId ∧ row = withState state old) ∨
        row ∈ sessions ∧ row.sessionId ≠ sessionId :=
  Table.mem_update

def setDevice (key : String × String) (state : DeviceState) (devices : Table DeviceRow.key) : Table DeviceRow.key :=
  devices.update key (fun row => { row with state }) fun _ => rfl

def setUser (key : String × String) (state : UserState) (users : Table UserRow.key) : Table UserRow.key :=
  users.update key (fun row => { row with state }) fun _ => rfl

end Directory

/-- What other components do to the directory: rows appear, and states change. -/
inductive DirectoryChange where
  | addUser (row : UserRow)
  | addDevice (row : DeviceRow)
  | addSession (row : SessionRow)
  | userState (key : String × String) (state : UserState)
  | deviceState (key : String × String) (state : DeviceState)
  | sessionState (sessionId : String) (state : SessionState)
deriving DecidableEq

namespace Directory

def apply (directory : Directory) : DirectoryChange → Directory
  | .addUser row => { directory with users := directory.users.insertOrIgnore row }
  | .addDevice row => { directory with devices := directory.devices.insertOrIgnore row }
  | .addSession row => { directory with sessions := directory.sessions.insertOrIgnore row }
  | .userState key state => { directory with users := setUser key state directory.users }
  | .deviceState key state => { directory with devices := setDevice key state directory.devices }
  | .sessionState sessionId state =>
    { directory with sessions := setSession sessionId state directory.sessions }

/-- The scope of a session, in whatever state it is. -/
def scope? (directory : Directory) (sessionId : String) : Option Scope :=
  (directory.sessions.find? sessionId).map SessionRow.scope

theorem insertOrIgnore_found {Key Row : Type} [DecidableEq Key] {key : Row → Key} {table : Table key}
    {row stored : Row} {sought : Key} (found : table.find? sought = some stored) :
    (table.insertOrIgnore row).find? sought = some stored := by
  unfold Table.insertOrIgnore
  cases inserted : table.insert? row with
  | none => exact found
  | some next => exact Table.find?_kept inserted found

theorem scope?_setSession (sessionId other : String) (state : SessionState) (sessions : Table SessionRow.sessionId) :
    ((setSession sessionId state sessions).find? other).map SessionRow.scope =
      (sessions.find? other).map SessionRow.scope := by
  have updated : setSession sessionId state sessions = sessions.update sessionId (withState state) (fun _ => rfl) := rfl
  exact Table.map_find?_updated updated (fun _ => rfl) other

/-- No change moves a session to another tenant, user or device. -/
theorem scope?_apply {directory : Directory} {change : DirectoryChange} {sessionId : String}
    {scope : Scope} (known : directory.scope? sessionId = some scope) :
    (directory.apply change).scope? sessionId = some scope := by
  cases change with
  | addSession row =>
    obtain ⟨stored, found, same⟩ := Option.map_eq_some_iff.mp known
    exact Option.map_eq_some_iff.mpr ⟨stored, insertOrIgnore_found found, same⟩
  | sessionState changed state => exact (scope?_setSession changed sessionId state directory.sessions).trans known
  | _ => exact known

end Directory

end QuarkSelfAI.ControlPlane

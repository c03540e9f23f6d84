import QuarkSelfAI.CapabilityPlatform.Checks
import QuarkSelfAI.Foundation.Transition

/-!
# Installed capabilities of the client

The tables `local_capability_state` and `local_capability_selection` of an enrolled client:
versions that are installed and inactive, and the version of each capability that is
selected, with the one before it.
-/

namespace QuarkSelfAI.ClientRuntime

open Foundation CapabilityPlatform

/-! ## Snapshots and selections -/

inductive Installation where
  | absent
  | staged
  | installed
deriving DecidableEq

inductive Loading where
  | unloaded
  | loaded
deriving DecidableEq

inductive LifecycleAuthorization where
  | unauthorized
  | authorized
deriving DecidableEq

inductive LifecycleExecution where
  | stopped
  | running
deriving DecidableEq

inductive LifecycleEffects where
  | disabled
  | recording
  | enabled
deriving DecidableEq

/-- `CapabilityLifecycleSnapshotV1`. -/
structure LifecycleSnapshot where
  capabilityId : String
  version : String
  artifactDigest : String
  deviceId : String
  installation : Installation
  loading : Loading
  authorization : LifecycleAuthorization
  execution : LifecycleExecution
  effects : LifecycleEffects
  updatedAt : String
deriving DecidableEq

def LifecycleSnapshot.key (snapshot : LifecycleSnapshot) : String × String := (snapshot.capabilityId, snapshot.version)

structure CapabilitySelection where
  capabilityId : String
  currentVersion : String
  previousVersion : Option String
  updatedAt : Timestamp
deriving DecidableEq

/-- The device that is enrolled, and `Date.parse`. -/
structure ClientHost where
  deviceId : String
  parseDate : String → Option Timestamp

structure CapabilityState where
  capabilities : Table LifecycleSnapshot.key
  selections : Table CapabilitySelection.capabilityId

/-- The `idPattern` of the local state: slashes may stand anywhere after the first character. -/
def stateIdPattern (text : String) : Bool :=
  match text.toList with
  | [] => false
  | first :: rest => isIdStart first && rest.all (fun char => isIdChar char || char = '/') && rest.length ≤ 127

/-- `isInactiveSnapshot`. -/
def isInactiveSnapshot (host : ClientHost) (snapshot : LifecycleSnapshot) : Bool :=
  stateIdPattern snapshot.capabilityId && versionPattern snapshot.version && digestPattern snapshot.artifactDigest &&
    (host.parseDate snapshot.updatedAt).isSome && snapshot.deviceId = host.deviceId &&
    snapshot.installation = .installed && snapshot.loading = .unloaded && snapshot.authorization = .unauthorized &&
    snapshot.execution = .stopped && snapshot.effects = .disabled

namespace CapabilityState

def empty : CapabilityState := ⟨.empty, .empty⟩

/-! ## Reads -/

def identityInvalid : String := "inactive capability identity is invalid"

def inactiveCapability (host : ClientHost) (state : CapabilityState) (capabilityId version : String) :
    Except String (Option LifecycleSnapshot) := do
  throwIf (stateIdPattern capabilityId = false ∨ versionPattern version = false) identityInvalid
  match state.capabilities.find? (capabilityId, version) with
  | none => .ok none
  | some snapshot => do
    throwIf (isInactiveSnapshot host snapshot = false) "persisted inactive capability state drifted"
    .ok (some snapshot)

def selectionDrifted : String := "persisted inactive capability selection drifted"

def inactiveCapabilitySelection (host : ClientHost) (state : CapabilityState) (capabilityId : String) :
    Except String (Option CapabilitySelection) := do
  throwIf (stateIdPattern capabilityId = false) identityInvalid
  match state.selections.find? capabilityId with
  | none => .ok none
  | some selection => do
    throwIf (versionPattern selection.currentVersion = false ∨
      selection.previousVersion.any (fun previous => versionPattern previous = false) = true) selectionDrifted
    let current ← inactiveCapability host state capabilityId selection.currentVersion
    throwIf (current = none) selectionDrifted
    match selection.previousVersion with
    | none => .ok (some selection)
    | some version => do
      let previous ← inactiveCapability host state capabilityId version
      throwIf (previous = none) selectionDrifted
      .ok (some selection)

/-! ## Writes -/

def saveInactiveCapability (host : ClientHost) (snapshot : LifecycleSnapshot) (state : CapabilityState) :
    Except String LifecycleSnapshot × CapabilityState :=
  if isInactiveSnapshot host snapshot = false then
    (.error "client accepts installed-inactive capability state only", state)
  else match state.capabilities.find? snapshot.key with
    | some existing =>
      if existing ≠ snapshot then (.error "inactive capability state is immutable", state)
      else (.ok snapshot, state)
    | none => (.ok snapshot, { state with capabilities := state.capabilities.put snapshot })

/-- What `selectInactiveCapability` reads before it writes. -/
def selectable (host : ClientHost) (state : CapabilityState) (capabilityId version : String) (now : Option Timestamp) :
    Except String (Timestamp × Option CapabilitySelection) := do
  let selected ← inactiveCapability host state capabilityId version
  match selected, now with
  | some _, some now => do
    let current ← inactiveCapabilitySelection host state capabilityId
    .ok (now, current)
  | _, _ => .error "only an installed inactive capability version can be selected"

def selectInactiveCapability (host : ClientHost) (capabilityId version : String) (now : Option Timestamp)
    (state : CapabilityState) : Except String (Option CapabilitySelection) × CapabilityState :=
  match selectable host state capabilityId version now with
  | .error message => (.error message, state)
  | .ok (now, current) =>
    if current.map CapabilitySelection.currentVersion = some version then (.ok current, state)
    else
      let row := ⟨capabilityId, version, current.map CapabilitySelection.currentVersion, now⟩
      let next := { state with selections := state.selections.put row }
      (inactiveCapabilitySelection host next capabilityId, next)

/-- What `rollbackInactiveCapability` reads before it writes: the selection and the version before. -/
def revertible (host : ClientHost) (state : CapabilityState) (capabilityId : String) (now : Option Timestamp) :
    Except String (Timestamp × CapabilitySelection × String) := do
  let current ← inactiveCapabilitySelection host state capabilityId
  match current.bind fun selection => selection.previousVersion.map (selection, ·), now with
  | some (selection, previous), some now => do
    let target ← inactiveCapability host state capabilityId previous
    throwIf (target = none) "inactive capability rollback target is not installed"
    .ok (now, selection, previous)
  | _, _ => .error "inactive capability has no rollback version"

def rollbackInactiveCapability (host : ClientHost) (capabilityId : String) (now : Option Timestamp)
    (state : CapabilityState) : Except String (Option CapabilitySelection) × CapabilityState :=
  match revertible host state capabilityId now with
  | .error message => (.error message, state)
  | .ok (now, selection, previous) =>
    let row := ⟨capabilityId, previous, some selection.currentVersion, now⟩
    let next := { state with selections := state.selections.put row }
    (inactiveCapabilitySelection host next capabilityId, next)

structure CapabilityRemoval where
  removed : LifecycleSnapshot
  selection : Option CapabilitySelection
deriving DecidableEq

/-- What `removeInactiveCapability` reads before it writes. -/
def removable (host : ClientHost) (state : CapabilityState) (capabilityId version : String) (now : Option Timestamp) :
    Except String (Timestamp × LifecycleSnapshot × Option CapabilitySelection) := do
  let removed ← inactiveCapability host state capabilityId version
  match removed, now with
  | some removed, some now => do
    let selection ← inactiveCapabilitySelection host state capabilityId
    .ok (now, removed, selection)
  | _, _ => .error "inactive capability version is not installed"

/-- The selections once a version is removed. -/
def withoutVersion (capabilityId version : String) (now : Timestamp) (selection : Option CapabilitySelection)
    (selections : Table CapabilitySelection.capabilityId) : Table CapabilitySelection.capabilityId :=
  match selection with
  | none => selections
  | some selection =>
    if selection.currentVersion = version then
      match selection.previousVersion with
      | some previous => selections.put ⟨capabilityId, previous, none, now⟩
      | none => selections.delete capabilityId
    else if selection.previousVersion = some version then
      selections.put ⟨capabilityId, selection.currentVersion, none, now⟩
    else selections

def removeInactiveCapability (host : ClientHost) (capabilityId version : String) (now : Option Timestamp)
    (state : CapabilityState) : Except String CapabilityRemoval × CapabilityState :=
  match removable host state capabilityId version now with
  | .error message => (.error message, state)
  | .ok (now, removed, selection) =>
    let next : CapabilityState :=
      { capabilities := state.capabilities.delete (capabilityId, version)
        selections := withoutVersion capabilityId version now selection state.selections }
    match inactiveCapabilitySelection host next capabilityId with
    | .error message => (.error message, next)
    | .ok left => (.ok ⟨removed, left⟩, next)

end CapabilityState

/-! ## Installation plans -/

/-- What an installation plan says that the store reads. -/
structure InstallationPlan where
  planId : String
  deviceId : String
  capabilityId : String
  version : String
  artifactDigest : String
  targetState : String
  loadAllowed : Bool
  runAllowed : Bool
  externalWritesEnabled : Bool
deriving DecidableEq

/-- `inactiveLifecycleSnapshot`. -/
def inactiveLifecycleSnapshot (plan : InstallationPlan) (installedAt : Timestamp) : LifecycleSnapshot where
  capabilityId := plan.capabilityId
  version := plan.version
  artifactDigest := plan.artifactDigest
  deviceId := plan.deviceId
  installation := .installed
  loading := .unloaded
  authorization := .unauthorized
  execution := .stopped
  effects := .disabled
  updatedAt := toISOString installedAt

namespace CapabilityState

/-- The end of `InactiveArtifactStoreV1.install`, which writes the state in one go: it saves
the version and selects it if none is selected. -/
def recordInstalled (host : ClientHost) (plan : InstallationPlan) (installedAt : Timestamp) (now : Timestamp)
    (state : CapabilityState) : Except String Unit × CapabilityState :=
  match saveInactiveCapability host (inactiveLifecycleSnapshot plan installedAt) state with
  | (.error message, saved) => (.error message, saved)
  | (.ok _, saved) =>
    match inactiveCapabilitySelection host saved plan.capabilityId with
    | .error message => (.error message, saved)
    | .ok (some _) => (.ok (), saved)
    | .ok none =>
      let (selected, after) := selectInactiveCapability host plan.capabilityId plan.version (some now) saved
      (selected.map fun _ => (), after)

end CapabilityState

/-- `validatePlan`, which also tells the time. -/
def validatePlan (plan : InstallationPlan) (now : Option Timestamp) : Except String Timestamp := do
  throwIf (idPattern plan.capabilityId = false ∨ versionPattern plan.version = false)
    "inactive artifact identity is invalid"
  match now with
  | none => .error "inactive installation plan is invalid"
  | some now => do
    throwIf (plan.planId = "" ∨ digestPattern plan.artifactDigest = false ∨ plan.deviceId = "" ∨
      plan.deviceId.toList.any isSlash = true ∨ plan.targetState ≠ "installed-inactive" ∨ plan.loadAllowed = true ∨
      plan.runAllowed = true ∨ plan.externalWritesEnabled = true) "inactive installation plan is invalid"
    .ok now

/-- Calls that write the tables. An install writes them once its files have landed; an
upgrade goes on to select its version, a rollback and an uninstall of the artifact store
end in the calls of the state. -/
inductive CapabilityCall where
  | save (snapshot : LifecycleSnapshot)
  | select (capabilityId version : String) (now : Option Timestamp)
  | rollback (capabilityId : String) (now : Option Timestamp)
  | remove (capabilityId version : String) (now : Option Timestamp)
  | install (plan : InstallationPlan) (installedAt : Timestamp) (now : Option Timestamp)
deriving DecidableEq

inductive CapabilityReply where
  | saved (snapshot : LifecycleSnapshot)
  | selected (selection : Option CapabilitySelection)
  | removed (removal : CapabilityState.CapabilityRemoval)
  | installed
  | refused (message : String)
deriving DecidableEq

namespace CapabilityState

/-- Answer what a call returns, or the error it throws. -/
def answered {α : Type} (reply : α → CapabilityReply) (outcome : Except String α × CapabilityState) :
    CapabilityReply × CapabilityState :=
  match outcome with
  | (.ok value, state) => (reply value, state)
  | (.error message, state) => (.refused message, state)

def perform (host : ClientHost) (call : CapabilityCall) (state : CapabilityState) : CapabilityReply × CapabilityState :=
  match call with
  | .save snapshot => answered .saved (saveInactiveCapability host snapshot state)
  | .select capabilityId version now => answered .selected (selectInactiveCapability host capabilityId version now state)
  | .rollback capabilityId now => answered .selected (rollbackInactiveCapability host capabilityId now state)
  | .remove capabilityId version now => answered .removed (removeInactiveCapability host capabilityId version now state)
  | .install plan installedAt now =>
    match validatePlan plan now with
    | .error message => (.refused message, state)
    | .ok now => answered (fun _ => .installed) (recordInstalled host plan installedAt now state)

def machine (host : ClientHost) : Machine CapabilityState CapabilityCall CapabilityReply where
  initial := empty
  perform := perform host

end CapabilityState

end QuarkSelfAI.ClientRuntime

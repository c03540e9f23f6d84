import QuarkSelfAI.Foundation.JsValue
import QuarkSelfAI.Foundation.Table
import QuarkSelfAI.Foundation.Transition

/-!
# The policy store

Policies and their revisions, with the operations of `SqliteAssistantStore`. A
draft is saved in one transaction. An activation reads the revision first and
writes in a transaction of its own, so another process may save or activate in
between: a session keeps the activations that have been checked and not yet
committed. The JSON columns hold the values their texts determine.
-/

namespace QuarkSelfAI.Storage

open Foundation

inductive PolicyStatus where
  | draft
  | enabled
  | disabled
deriving DecidableEq

/-- The members of `document` and of `simulation`. -/
structure PolicyDraftInput where
  id : String
  name : String
  sourceText : String
  document : List (String × JsValue)
  simulation : List (String × JsValue)

structure PolicyDefinition where
  id : String
  name : String
  status : PolicyStatus
  activeRevision : Option Nat

structure PolicyRevision where
  policyId : String
  revision : Nat
  sourceText : String
  compiled : List (String × JsValue)
  simulation : List (String × JsValue)
  approvedAt : Option String
deriving DecidableEq

/-- The primary key of `policy_revision`. -/
def PolicyRevision.key (row : PolicyRevision) : String × Nat := (row.policyId, row.revision)

/-- `JSON.parse(row.simulation).safeToActivate === true`. -/
def PolicyRevision.safeToActivate (row : PolicyRevision) : Bool :=
  (JsValue.object row.simulation).get "safeToActivate" = .bool true

structure PolicyStore where
  definitions : Table PolicyDefinition.id
  revisions : Table PolicyRevision.key

namespace PolicyStore

def empty : PolicyStore := ⟨.empty, .empty⟩

/-- The revision numbers of a policy, in insertion order. -/
def numbers (store : PolicyStore) (policyId : String) : List Nat :=
  (store.revisions.rows.filter fun row => row.policyId = policyId).map (·.revision)

/-! ## savePolicyDraft -/

/-- `policy_id = ? AND source_text = ? AND compiled = ? AND simulation = ?`. -/
def sameDraft (draft : PolicyDraftInput) (row : PolicyRevision) : Bool :=
  row.policyId = draft.id ∧ row.sourceText = draft.sourceText ∧
    row.compiled = JsValue.stringifiedMembers draft.document ∧
    row.simulation = JsValue.stringifiedMembers draft.simulation

/-- `ORDER BY revision DESC LIMIT 1`. -/
def existingRevision (draft : PolicyDraftInput) (store : PolicyStore) : Option Nat :=
  ((store.revisions.rows.filter (sameDraft draft)).map (·.revision)).max?

/-- The definition insert, which renames a policy that is there. -/
def upsertDefinition (draft : PolicyDraftInput) (definitions : Table PolicyDefinition.id) : Table PolicyDefinition.id :=
  match definitions.insert?
    { id := draft.id, name := draft.name, status := .draft, activeRevision := none } with
  | some next => next
  | none => definitions.update draft.id (fun row => { row with name := draft.name }) fun _ => rfl

def draftRow (draft : PolicyDraftInput) (revision : Nat) : PolicyRevision :=
  { policyId := draft.id, revision, sourceText := draft.sourceText
    compiled := JsValue.stringifiedMembers draft.document
    simulation := JsValue.stringifiedMembers draft.simulation, approvedAt := none }

@[simp] theorem draftRow_policyId (draft : PolicyDraftInput) (revision : Nat) :
    (draftRow draft revision).policyId = draft.id := rfl

@[simp] theorem draftRow_revision (draft : PolicyDraftInput) (revision : Nat) :
    (draftRow draft revision).revision = revision := rfl

/-- `coalesce(max(revision), 0) + 1`. -/
def nextRevision (store : PolicyStore) (policyId : String) : Nat := (store.numbers policyId).max?.getD 0 + 1

def saveBody (draft : PolicyDraftInput) (store : PolicyStore) : Except String (Nat × PolicyStore) :=
  let definitions := upsertDefinition draft store.definitions
  match store.existingRevision draft with
  | some revision => .ok (revision, { store with definitions })
  | none => do
    let revision := store.nextRevision draft.id
    let revisions ← store.revisions.insertOrThrow (draftRow draft revision)
      "policy_revision.policy_id, policy_revision.revision"
    .ok (revision, { definitions, revisions })

def savePolicyDraft (draft : PolicyDraftInput) (store : PolicyStore) : Except String Nat × PolicyStore :=
  transaction (saveBody draft) store

/-! ## activatePolicy -/

/-- The check before the transaction. -/
def checkActivation (id : String) (revision : Int) (store : PolicyStore) : Except String Nat :=
  match revision.toNat?.bind fun number => store.revisions.find? (id, number) with
  | none => .error s!"policy {id} revision {revision} does not exist"
  | some row =>
    if row.safeToActivate then .ok row.revision
    else .error s!"policy {id} revision {revision} failed the safety simulation"

def approvedRevision (approvedAt : String) (row : PolicyRevision) : PolicyRevision :=
  { row with approvedAt := some approvedAt }

def enabledDefinition (revision : Nat) (row : PolicyDefinition) : PolicyDefinition :=
  { row with status := .enabled, activeRevision := some revision }

@[simp] theorem approvedRevision_key (approvedAt : String) (row : PolicyRevision) :
    (approvedRevision approvedAt row).key = row.key := rfl

@[simp] theorem enabledDefinition_id (revision : Nat) (row : PolicyDefinition) :
    (enabledDefinition revision row).id = row.id := rfl

/-- The transaction of an activation. -/
def activateBody (id : String) (revision : Nat) (approvedAt : String) (store : PolicyStore) :
    Except String (Unit × PolicyStore) :=
  let revisions := store.revisions.update (id, revision) (approvedRevision approvedAt)
    (approvedRevision_key approvedAt)
  match store.definitions.find? id with
  | none => .error s!"policy {id} does not exist"
  | some _ =>
    let definitions := store.definitions.update id (enabledDefinition revision)
      (enabledDefinition_id revision)
    .ok ((), { definitions, revisions })

def commitActivation (id : String) (revision : Nat) (approvedAt : String) (store : PolicyStore) :
    Except String Unit × PolicyStore :=
  transaction (activateBody id revision approvedAt) store

end PolicyStore

/-! ## Sessions -/

/-- An activation whose check has passed. -/
structure Activation where
  id : String
  revision : Nat
  approvedAt : String
deriving DecidableEq

structure PolicySession where
  store : PolicyStore
  checked : List Activation

/-- `activatePolicy` is the check of a call and `commitActivation` its transaction. -/
inductive PolicyCall where
  | savePolicyDraft (draft : PolicyDraftInput)
  | activatePolicy (id : String) (revision : Int) (approvedAt : String)
  | commitActivation (activation : Activation)

inductive PolicyReply where
  | saved (revision : Nat)
  | checked
  | activated
  | threw (message : String)

namespace PolicySession

def initial : PolicySession := ⟨.empty, []⟩

def answer (call : PolicyCall) (session : PolicySession) : PolicyReply × PolicySession :=
  match call with
  | .savePolicyDraft draft =>
    match session.store.savePolicyDraft draft with
    | (.ok revision, store) => (.saved revision, { session with store })
    | (.error message, store) => (.threw message, { session with store })
  | .activatePolicy id revision approvedAt =>
    match session.store.checkActivation id revision with
    | .ok number => (.checked, { session with checked := ⟨id, number, approvedAt⟩ :: session.checked })
    | .error message => (.threw message, session)
  | .commitActivation activation =>
    let checked := session.checked.erase activation
    match session.store.commitActivation activation.id activation.revision activation.approvedAt with
    | (.ok _, store) => (.activated, { store, checked })
    | (.error message, store) => (.threw message, { store, checked })

/-- Only a checked activation can be committed. -/
def machine : GuardedMachine PolicySession PolicyCall where
  initial := initial
  perform call session :=
    match call with
    | .commitActivation activation => if activation ∈ session.checked then some (answer call session).2 else none
    | _ => some (answer call session).2

/-- A run of the calls of any number of processes, interleaved. -/
abbrev Run (calls : List PolicyCall) (session : PolicySession) : Prop := machine.system.Run calls session

end PolicySession

end QuarkSelfAI.Storage

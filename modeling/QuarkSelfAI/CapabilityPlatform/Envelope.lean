import QuarkSelfAI.CapabilityPlatform.Program

/-!
# Execution envelopes

`validateExecutionEnvelope` and the digest of the payload, which is everything but
the plan metadata. The plan metadata is checked last and by itself, so the rest of an
envelope is accepted whatever plan it carries.
-/

namespace QuarkSelfAI.CapabilityPlatform

open Foundation

/-! ## Graphs -/

/-- The nodes and edges of a graph. -/
def IsGraph (capabilityIds : List String) (value : JsValue) (nodes : List String) (edges : List Edge) : Prop :=
  ∃ graph, value = .object graph ∧ KnownKeys graph ["nodes", "edges"] ∧
    AreNodes capabilityIds (member graph "nodes") nodes ∧ AreEdges nodes (member graph "edges") edges

/-- Only the envelope refuses a repeated edge. -/
def checkEnvelopeGraph (capabilityIds : List String) (value : JsValue) : Except String Unit := do
  let graph ← record value "envelope.program.graph"
  exactKeys graph ["nodes", "edges"] "envelope.program.graph"
  let nodes ← checkNodes envelopeTexts capabilityIds (member graph "nodes")
  let edges ← checkEdges envelopeTexts nodes (member graph "edges")
  unique (edges.map Edge.key) "envelope.program.graph.edges"
  assertAcyclic (adjacencyOf nodes edges) envelopeTexts.cycle

variable {value : JsValue} {done : Unit} {index : Nat}

theorem checkEnvelopeGraph_ok {capabilityIds : List String} :
    checkEnvelopeGraph capabilityIds value = .ok done ↔ ∃ nodes edges,
      IsGraph capabilityIds value nodes edges ∧ (edges.map Edge.key).Nodup ∧
        assertAcyclic (adjacencyOf nodes edges) envelopeTexts.cycle = .ok () := by
  simp only [checkEnvelopeGraph, IsGraph, bind_ok, record_ok, exactKeys_ok, checkNodes_ok,
    checkEdges_ok, unique_ok, exists_const]
  constructor
  · rintro ⟨graph, same, known, nodes, listed, edges, joins, distinct, acyclic⟩
    exact ⟨nodes, edges, ⟨graph, same, known, listed, joins⟩, distinct, acyclic⟩
  · rintro ⟨nodes, edges, ⟨graph, same, known, listed, joins⟩, distinct, acyclic⟩
    exact ⟨graph, same, known, nodes, listed, edges, joins, distinct, acyclic⟩

/-! ## Parts of an envelope -/

def checkPinnedBlueprint (value : JsValue) : Except String Unit := do
  let blueprint ← record value "envelope.blueprint"
  let _ ← identifier (member blueprint "id") "envelope.blueprint.id"
  let _ ← version (member blueprint "version") "envelope.blueprint.version"
  let _ ← digest (member blueprint "digest") "envelope.blueprint.digest"
  .ok ()

def IsPinnedBlueprint (value : JsValue) : Prop :=
  ∃ blueprint, value = .object blueprint ∧ (∃ id, member blueprint "id" = .string id ∧ IsIdentifier id) ∧
    (∃ version, member blueprint "version" = .string version ∧ IsVersion version) ∧
    ∃ digest, member blueprint "digest" = .string digest ∧ IsDigest digest

theorem checkPinnedBlueprint_ok : checkPinnedBlueprint value = .ok done ↔ IsPinnedBlueprint value := by
  simp only [checkPinnedBlueprint, IsPinnedBlueprint, bind_ok, record_ok, identifier_ok, version_ok,
    digest_ok, exists_and_right, and_true]

def checkCapability (value : JsValue) (index : Nat) : Except String String := do
  let label := s!"envelope.capabilities[{index}]"
  let capability ← record value label
  exactKeys capability ["id", "version", "artifactDigest"] label
  let id ← identifier (member capability "id") s!"{label}.id"
  let _ ← version (member capability "version") s!"{label}.version"
  let _ ← digest (member capability "artifactDigest") s!"{label}.artifactDigest"
  .ok id

/-- A pinned capability and its identifier. -/
def IsCapability (value : JsValue) (id : String) : Prop :=
  ∃ capability, value = .object capability ∧ KnownKeys capability ["id", "version", "artifactDigest"] ∧
    (member capability "id" = .string id ∧ IsIdentifier id) ∧
    (∃ version, member capability "version" = .string version ∧ IsVersion version) ∧
    ∃ digest, member capability "artifactDigest" = .string digest ∧ IsDigest digest

theorem checkCapability_ok {id : String} : checkCapability value index = .ok id ↔ IsCapability value id := by
  simp only [checkCapability, IsCapability, bind_ok, record_ok, exactKeys_ok, identifier_ok, version_ok,
    digest_ok, exists_const, Except.ok.injEq]
  constructor
  · rintro ⟨capability, same, known, id', first, version, second, digest, third, rfl⟩
    exact ⟨capability, same, known, first, ⟨version, second⟩, digest, third⟩
  · rintro ⟨capability, same, known, first, ⟨version, second⟩, digest, third⟩
    exact ⟨capability, same, known, id, first, version, second, digest, third, rfl⟩

def checkCapabilities (value : JsValue) : Except String (List String) := do
  let capabilities ← array value "envelope.capabilities"
  throwIf (256 < capabilities.length) "execution envelope cannot pin more than 256 capabilities"
  let ids ← each checkCapability capabilities
  unique ids "envelope.capabilities"
  .ok ids

def AreCapabilities (value : JsValue) (ids : List String) : Prop :=
  ∃ capabilities, value = .array capabilities ∧ capabilities.length ≤ 256 ∧
    List.Forall₂ IsCapability capabilities ids ∧ ids.Nodup

theorem checkCapabilities_ok {ids : List String} : checkCapabilities value = .ok ids ↔ AreCapabilities value ids := by
  have accepts : ∀ item index id, checkCapability item index = .ok id ↔ IsCapability item id :=
    fun _ _ _ => checkCapability_ok
  simp only [checkCapabilities, AreCapabilities, bind_ok, array_ok, throwIf_ok, each_ok accepts,
    unique_ok, exists_const, Except.ok.injEq, not_lt]
  constructor
  · rintro ⟨capabilities, same, few, ids', listed, distinct, rfl⟩
    exact ⟨capabilities, same, few, listed, distinct⟩
  · rintro ⟨capabilities, same, few, listed, distinct⟩
    exact ⟨capabilities, same, few, ids, listed, distinct, rfl⟩

def checkContext (value : JsValue) (index : Nat) : Except String Unit := do
  let reference ← record value s!"envelope.context[{index}]"
  let opaqueText ← text (member reference "opaqueReference") s!"envelope.context[{index}].opaqueReference" 500
  throwIf (isRevealing opaqueText = true)
    "execution context must use opaque references without local paths or secrets"

def IsContext (value : JsValue) : Prop :=
  ∃ reference, value = .object reference ∧ ∃ opaqueText,
    (member reference "opaqueReference" = .string opaqueText ∧ IsText 500 opaqueText) ∧ isRevealing opaqueText = false

theorem checkContext_ok : checkContext value index = .ok done ↔ IsContext value := by
  simp only [checkContext, IsContext, bind_ok, record_ok, text_ok, throwIf_ok, Bool.not_eq_true]

variable (parse : String → Option Timestamp) {envelope : Members} {check : JsValue → Nat → Except String Unit}

def checkWorkspaceGrant (value : JsValue) (index : Nat) : Except String Unit := do
  let grant ← record value s!"envelope.workspaceGrants[{index}]"
  let handle ← text (member grant "handle") s!"envelope.workspaceGrants[{index}].handle" 500
  throwIf (absolutePathPattern handle = true) "workspace grant must use an opaque handle"
  let _ ← timestamp parse (member grant "expiresAt") s!"envelope.workspaceGrants[{index}].expiresAt"
  .ok ()

def IsWorkspaceGrant (value : JsValue) : Prop :=
  ∃ grant, value = .object grant ∧ (∃ handle, (member grant "handle" = .string handle ∧ IsText 500 handle) ∧
      absolutePathPattern handle = false) ∧
    ∃ expiresAt, member grant "expiresAt" = .string expiresAt ∧ IsTimestamp parse expiresAt

theorem checkWorkspaceGrant_ok : checkWorkspaceGrant parse value index = .ok done ↔ IsWorkspaceGrant parse value := by
  simp only [checkWorkspaceGrant, IsWorkspaceGrant, bind_ok, record_ok, text_ok, timestamp_ok,
    throwIf_ok, exists_const, Bool.not_eq_true, and_true]
  constructor
  · rintro ⟨grant, same, handle, first, local', expiresAt, second⟩
    exact ⟨grant, same, ⟨handle, first, local'⟩, expiresAt, second⟩
  · rintro ⟨grant, same, ⟨handle, first, local'⟩, expiresAt, second⟩
    exact ⟨grant, same, handle, first, local', expiresAt, second⟩

/-- The members an approval grant shares with its envelope. -/
def scopeMembers : List String := ["tenantId", "userId", "deviceId", "agentId", "actionId"]

def checkApprovalGrant (envelope : Members) (effects : List String) (value : JsValue) (index : Nat) :
    Except String Unit := do
  let label := s!"envelope.approvalGrants[{index}]"
  let grant ← record value label
  throwIf (∃ name ∈ scopeMembers, member grant name ≠ member envelope name)
    "approval grant scope does not match execution envelope"
  let effectKind ← text (member grant "effectKind") s!"{label}.effectKind" 500
  throwIf (effectKind ∉ effects) "approval grant effect is not declared by the envelope"
  let grantedAt ← timestamp parse (member grant "grantedAt") s!"{label}.grantedAt"
  let expiresAt ← timestamp parse (member grant "expiresAt") s!"{label}.expiresAt"
  throwIf ((parse expiresAt).getD 0 ≤ (parse grantedAt).getD 0)
    "approval grant must expire after it is granted"

def IsApprovalGrant (envelope : Members) (effects : List String) (value : JsValue) : Prop :=
  ∃ grant, value = .object grant ∧ (¬ ∃ name ∈ scopeMembers, member grant name ≠ member envelope name) ∧
    ∃ effectKind, (member grant "effectKind" = .string effectKind ∧ IsText 500 effectKind) ∧ effectKind ∈ effects ∧
      ∃ grantedAt, (member grant "grantedAt" = .string grantedAt ∧ IsTimestamp parse grantedAt) ∧
        ∃ expiresAt, (member grant "expiresAt" = .string expiresAt ∧ IsTimestamp parse expiresAt) ∧
          ¬ (parse expiresAt).getD 0 ≤ (parse grantedAt).getD 0

theorem checkApprovalGrant_ok {effects : List String}
    : checkApprovalGrant parse envelope effects value index = .ok done ↔
      IsApprovalGrant parse envelope effects value := by
  simp only [checkApprovalGrant, IsApprovalGrant, bind_ok, record_ok, text_ok, timestamp_ok, throwIf_ok,
    exists_const, not_not]

def checkExecutorRequirement (value : JsValue) : Except String Unit := do
  let label := "envelope.executorRequirement"
  let requirement ← record value label
  exactKeys requirement ["protocolVersions", "capabilities", "allowedExecutors", "preferredExecutors"] label
  let protocols ← identifiers (member requirement "protocolVersions") s!"{label}.protocolVersions"
  let capabilities ← identifiers (member requirement "capabilities") s!"{label}.capabilities"
  let allowedExecutors ← identifiers (member requirement "allowedExecutors") s!"{label}.allowedExecutors"
  let preferredExecutors ← identifiers (member requirement "preferredExecutors") s!"{label}.preferredExecutors"
  throwIf (protocols = [] ∨ allowedExecutors = [])
    "execution envelope requires a protocol and at least one allowed executor"
  unique protocols s!"{label}.protocolVersions"
  unique capabilities s!"{label}.capabilities"
  unique allowedExecutors s!"{label}.allowedExecutors"
  unique preferredExecutors s!"{label}.preferredExecutors"
  throwIf (¬ preferredExecutors ⊆ allowedExecutors) "preferred executor is outside the signed allowlist"

/-- A list of identifiers under a name. -/
def HasIdentifiers (members : Members) (name : String) (values : List String) : Prop :=
  member members name = .array (values.map .string) ∧ ∀ value ∈ values, IsIdentifier value

def IsExecutorRequirement (value : JsValue) : Prop :=
  ∃ requirement, value = .object requirement ∧
    KnownKeys requirement ["protocolVersions", "capabilities", "allowedExecutors", "preferredExecutors"] ∧
    ∃ protocols, HasIdentifiers requirement "protocolVersions" protocols ∧
    ∃ capabilities, HasIdentifiers requirement "capabilities" capabilities ∧
    ∃ allowedExecutors, HasIdentifiers requirement "allowedExecutors" allowedExecutors ∧
    ∃ preferredExecutors, HasIdentifiers requirement "preferredExecutors" preferredExecutors ∧
      ¬ (protocols = [] ∨ allowedExecutors = []) ∧ protocols.Nodup ∧ capabilities.Nodup ∧
      allowedExecutors.Nodup ∧ preferredExecutors.Nodup ∧ preferredExecutors ⊆ allowedExecutors

theorem checkExecutorRequirement_ok : checkExecutorRequirement value = .ok done ↔ IsExecutorRequirement value := by
  simp only [checkExecutorRequirement, IsExecutorRequirement, HasIdentifiers, bind_ok, record_ok,
    exactKeys_ok, identifiers_ok, throwIf_ok, unique_ok, exists_const, not_not]

def checkContinuity (value : JsValue) : Except String Unit := do
  let continuity ← record value "envelope.continuity"
  throwIf (member continuity "midActionSwitchAllowed" ≠ .bool false)
    "execution envelope cannot allow mid-action switching"

def IsContinuity (value : JsValue) : Prop :=
  ∃ continuity, value = .object continuity ∧ member continuity "midActionSwitchAllowed" = .bool false

theorem checkContinuity_ok : checkContinuity value = .ok done ↔ IsContinuity value := by
  simp only [checkContinuity, IsContinuity, bind_ok, record_ok, throwIf_ok, ne_eq, not_not]

def checkPlan (value : JsValue) : Except String Unit := do
  let plan ← record value "envelope.plan"
  let _ ← digest (member plan "digest") "envelope.plan.digest"
  let _ ← text (member plan "signature") "envelope.plan.signature" 1000
  let _ ← text (member plan "keyId") "envelope.plan.keyId" 300
  .ok ()

def IsPlan (value : JsValue) : Prop :=
  ∃ plan, value = .object plan ∧ (∃ digest, member plan "digest" = .string digest ∧ IsDigest digest) ∧
    (∃ signature, member plan "signature" = .string signature ∧ IsText 1000 signature) ∧
    ∃ keyId, member plan "keyId" = .string keyId ∧ IsText 300 keyId

theorem checkPlan_ok : checkPlan value = .ok done ↔ IsPlan value := by
  simp only [checkPlan, IsPlan, bind_ok, record_ok, digest_ok, text_ok, exists_and_right, and_true]

/-! ## Envelopes -/

/-- `for (const field of fields) identifier(record[field], label)`. -/
def checkIdentifiers (members : Members) (label : String) : List String → Except String Unit
  | [] => .ok ()
  | field :: rest => do
    let _ ← identifier (member members field) s!"{label}.{field}"
    checkIdentifiers members label rest

def AreIdentifiers (members : Members) (fields : List String) : Prop :=
  ∀ field ∈ fields, ∃ id, member members field = .string id ∧ IsIdentifier id

theorem checkIdentifiers_ok {members : Members} {label : String} {fields : List String} :
    checkIdentifiers members label fields = .ok done ↔ AreIdentifiers members fields := by
  induction fields with
  | nil => simp [checkIdentifiers, AreIdentifiers]
  | cons field rest ih =>
    simp only [checkIdentifiers, AreIdentifiers, bind_ok, identifier_ok, List.forall_mem_cons, exists_and_right] at ih ⊢
    rw [ih]

def checkProgram (value capabilities : JsValue) : Except String Unit := do
  let program ← record value "envelope.program"
  exactKeys program ["role", "goals", "graph", "modelPolicy"] "envelope.program"
  checkRole envelopeTexts (member program "role")
  checkGoals envelopeTexts (member program "goals")
  let capabilityIds ← checkCapabilities capabilities
  checkEnvelopeGraph capabilityIds (member program "graph")
  checkModelPolicy envelopeTexts (member program "modelPolicy")

/-- A program over the capabilities that are pinned. -/
def IsProgram (value capabilities : JsValue) : Prop :=
  ∃ program, value = .object program ∧ KnownKeys program ["role", "goals", "graph", "modelPolicy"] ∧
    IsRole (member program "role") ∧ AreGoals (member program "goals") ∧
    (∃ capabilityIds, AreCapabilities capabilities capabilityIds ∧
      ∃ nodes edges, IsGraph capabilityIds (member program "graph") nodes edges ∧ (edges.map Edge.key).Nodup ∧
        assertAcyclic (adjacencyOf nodes edges) envelopeTexts.cycle = .ok ()) ∧
    IsModelPolicy (member program "modelPolicy")

theorem checkProgram_ok {value capabilities : JsValue} :
    checkProgram value capabilities = .ok done ↔ IsProgram value capabilities := by
  simp only [checkProgram, IsProgram, bind_ok, record_ok, exactKeys_ok, checkRole_ok, checkGoals_ok,
    checkCapabilities_ok, checkEnvelopeGraph_ok, checkModelPolicy_ok, exists_const]
  constructor
  · rintro ⟨program, same, known, role, goals, capabilityIds, pinned, graph, policy⟩
    exact ⟨program, same, known, role, goals, ⟨capabilityIds, pinned, graph⟩, policy⟩
  · rintro ⟨program, same, known, role, goals, ⟨capabilityIds, pinned, graph⟩, policy⟩
    exact ⟨program, same, known, role, goals, capabilityIds, pinned, graph, policy⟩

/-- Check every item for its exception. -/
def checkEach (check : JsValue → Nat → Except String Unit) (value : JsValue) (label : String) : Except String Unit := do
  let items ← array value label
  let _ ← each check items
  .ok ()

/-- A list of accepted items. -/
def AllItems (Accepted : JsValue → Prop) (value : JsValue) : Prop :=
  ∃ items, value = .array items ∧ ∀ item ∈ items, Accepted item

theorem each_unit_ok {Accepted : JsValue → Prop}
    (accepts : ∀ item index done, check item index = .ok done ↔ Accepted item) {items : List JsValue} :
    (∃ results, each check items = .ok results) ↔ ∀ item ∈ items, Accepted item := by
  simp only [each_ok accepts]
  induction items with
  | nil => exact ⟨fun _ item none => absurd none List.not_mem_nil, fun _ => ⟨[], .nil⟩⟩
  | cons item rest ih =>
    rw [List.forall_mem_cons, ← ih]
    constructor
    · rintro ⟨results, checked⟩
      cases checked with
      | cons first later => exact ⟨first, _, later⟩
    · rintro ⟨first, results, later⟩
      exact ⟨() :: results, .cons first later⟩

theorem checkEach_ok {Accepted : JsValue → Prop}
    (accepts : ∀ item index done, check item index = .ok done ↔ Accepted item)
    {label : String} : checkEach check value label = .ok done ↔ AllItems Accepted value := by
  simp only [checkEach, AllItems, bind_ok, array_ok, and_true, ← each_unit_ok accepts]

def checkApprovalGrants (envelope : Members) : Except String Unit := do
  let grants ← array (member envelope "approvalGrants") "envelope.approvalGrants"
  let effects ← texts (member envelope "allowedEffects") "envelope.allowedEffects" 500
  let _ ← each (checkApprovalGrant parse envelope effects) grants
  .ok ()

def AreApprovalGrants (envelope : Members) : Prop :=
  ∃ grants, member envelope "approvalGrants" = .array grants ∧ ∃ effects,
    (member envelope "allowedEffects" = .array (effects.map .string) ∧ ∀ effect ∈ effects, IsText 500 effect) ∧
    ∀ grant ∈ grants, IsApprovalGrant parse envelope effects grant

theorem checkApprovalGrants_ok : checkApprovalGrants parse envelope = .ok done ↔ AreApprovalGrants parse envelope := by
  have accepts : ∀ effects item index done, checkApprovalGrant parse envelope effects item index =
      .ok done ↔ IsApprovalGrant parse envelope effects item :=
    fun _ _ _ _ => checkApprovalGrant_ok parse
  simp only [checkApprovalGrants, AreApprovalGrants, bind_ok, array_ok, texts_ok, and_true, each_unit_ok (accepts _)]

/-- Everything of an envelope but its plan metadata. -/
def checkPayload (envelope : Members) : Except String Unit := do
  throwIf (member envelope "schemaVersion" ≠ .number 1) "envelope.schemaVersion must be 1"
  checkIdentifiers envelope "envelope" ["tenantId", "userId", "deviceId", "agentId", "runId", "actionId"]
  checkPinnedBlueprint (member envelope "blueprint")
  checkProgram (member envelope "program") (member envelope "capabilities")
  checkEach checkContext (member envelope "context") "envelope.context"
  checkEach (checkWorkspaceGrant parse) (member envelope "workspaceGrants") "envelope.workspaceGrants"
  checkApprovalGrants parse envelope
  let _ ← text (member envelope "idempotencyKey") "envelope.idempotencyKey" 300
  let _ ← timestamp parse (member envelope "deadline") "envelope.deadline"
  checkExecutorRequirement (member envelope "executorRequirement")
  checkContinuity (member envelope "continuity")

/-- What the checks of the payload accept. -/
structure IsPayload (envelope : Members) : Prop where
  schemaVersion : member envelope "schemaVersion" = .number 1
  scope : AreIdentifiers envelope ["tenantId", "userId", "deviceId", "agentId", "runId", "actionId"]
  blueprint : IsPinnedBlueprint (member envelope "blueprint")
  program : IsProgram (member envelope "program") (member envelope "capabilities")
  context : AllItems IsContext (member envelope "context")
  workspaceGrants : AllItems (IsWorkspaceGrant parse) (member envelope "workspaceGrants")
  approvalGrants : AreApprovalGrants parse envelope
  idempotencyKey : ∃ key, member envelope "idempotencyKey" = .string key ∧ IsText 300 key
  deadline : ∃ deadline, member envelope "deadline" = .string deadline ∧ IsTimestamp parse deadline
  executorRequirement : IsExecutorRequirement (member envelope "executorRequirement")
  continuity : IsContinuity (member envelope "continuity")

theorem checkPayload_ok : checkPayload parse envelope = .ok done ↔ IsPayload parse envelope := by
  have contexts : ∀ item index done, checkContext item index = .ok done ↔ IsContext item := fun _ _ _ => checkContext_ok
  have grants : ∀ item index done, checkWorkspaceGrant parse item index = .ok done ↔
      IsWorkspaceGrant parse item := fun _ _ _ => checkWorkspaceGrant_ok parse
  simp only [checkPayload, bind_ok, throwIf_ok, exists_const, ne_eq, not_not, checkIdentifiers_ok,
    checkPinnedBlueprint_ok, checkProgram_ok, checkEach_ok contexts, checkEach_ok grants, checkApprovalGrants_ok, text_ok,
    timestamp_ok, checkExecutorRequirement_ok, checkContinuity_ok]
  constructor
  · rintro ⟨schemaVersion, scope, blueprint, program, context, workspaceGrants, approvalGrants, key,
      idempotencyKey, at', deadline, executorRequirement, continuity⟩
    exact ⟨schemaVersion, scope, blueprint, program, context, workspaceGrants, approvalGrants,
      ⟨key, idempotencyKey⟩, ⟨at', deadline⟩, executorRequirement, continuity⟩
  · rintro ⟨schemaVersion, scope, blueprint, program, context, workspaceGrants, approvalGrants,
      ⟨key, idempotencyKey⟩, ⟨at', deadline⟩, executorRequirement, continuity⟩
    exact ⟨schemaVersion, scope, blueprint, program, context, workspaceGrants, approvalGrants, key,
      idempotencyKey, at', deadline, executorRequirement, continuity⟩

def envelopeNames : List String :=
  ["schemaVersion", "tenantId", "userId", "deviceId", "agentId", "runId", "actionId", "blueprint",
    "program", "capabilities", "context", "workspaceGrants", "approvalGrants", "idempotencyKey",
    "deadline", "budget", "dataClasses", "allowedEffects", "executorRequirement", "continuity", "plan"]

def validateExecutionEnvelope (value : JsValue) : Except String Members := do
  let envelope ← record value "envelope"
  exactKeys envelope envelopeNames "envelope"
  checkPayload parse envelope
  checkPlan (member envelope "plan")
  .ok envelope

theorem validateExecutionEnvelope_ok : validateExecutionEnvelope parse value = .ok envelope ↔ value = .object envelope ∧
      KnownKeys envelope envelopeNames ∧ IsPayload parse envelope ∧ IsPlan (member envelope "plan") := by
  simp only [validateExecutionEnvelope, bind_ok, record_ok, exactKeys_ok, checkPayload_ok, checkPlan_ok,
    exists_const, Except.ok.injEq]
  constructor
  · rintro ⟨_, same, known, payload, plan, rfl⟩
    exact ⟨same, known, payload, plan⟩
  · rintro ⟨same, known, payload, plan⟩
    exact ⟨envelope, same, known, payload, plan, rfl⟩

/-! ## The digest of the payload -/

/-- An envelope without its plan metadata. -/
def withoutPlan (envelope : Members) : Members := envelope.filter fun member => member.1 ≠ "plan"

def executionEnvelopePayloadDigest (sha256 : String → String) (value : JsValue) : Except String String := do
  let envelope ← validateExecutionEnvelope parse value
  contentDigest sha256 (.object (withoutPlan envelope))

end QuarkSelfAI.CapabilityPlatform

import QuarkSelfAI.CapabilityPlatform.Manifest
import QuarkSelfAI.ControlPlane.DeviceSessions
import QuarkSelfAI.ControlPlane.InstalledServer
import QuarkSelfAI.Foundation.JsonParse

/-!
# The registry of inactive capabilities

`SqliteInactiveCapabilityRegistryV1` keeps one row for each tenant, capability and version. A registration
writes the manifest as JSON, and every read parses it, validates it and hashes it again. The fields of a
record that are the same for all releases (its state, no consumer, no lease, no schedule, no external writes)
are left out.
-/

namespace QuarkSelfAI.ControlPlane.CapabilityRegistry

open Foundation CapabilityPlatform

/-! ## Inputs and rows -/

/-- `'private' | 'tenant'`. -/
inductive Visibility where
  | owner
  | tenant
deriving DecidableEq

/-- The manifest of a candidate is any value of the language. -/
structure ManifestPublicationCandidate where
  schemaVersion : Nat
  candidateId : String
  manifest : {value : JsValue // value.isProper = true}
  manifestDigest : String
  evidencePolicyRevision : String
  status : String
  publicationAllowed : Bool
  activationAllowed : Bool
  currentOwnerPreserved : Bool

structure ArtifactVerificationReport where
  schemaVersion : Nat
  capabilityId : String
  version : String
  artifactDigest : String
  sourceRevision : String
  policyRevision : String
  checks : List (String × String)
  decision : String
  evaluatedAt : String

/-- What the registry is built with: SHA-256 in hexadecimal digits, `Date.parse` and the tenants it admits. -/
structure RegistryHost where
  sha256 : String → String
  hexadecimal : ∀ text, digestPattern ("sha256:" ++ sha256 text) = true
  parseDate : String → Option Timestamp
  tenantMode : TenantMode

structure CapabilityCatalogRecord where
  tenantId : String
  ownerUserId : String
  manifest : JsValue
  manifestDigest : String
  evidencePolicyRevision : String
  visibility : Visibility
  registeredAt : String

/-- A row of `cp_capability_release`. -/
structure ReleaseRow where
  tenantId : String
  capabilityId : String
  version : String
  ownerUserId : String
  manifestJson : String
  manifestDigest : String
  artifactDigest : String
  evidencePolicyRevision : String
  visibility : Visibility
  registeredAt : String
deriving DecidableEq

/-- The primary key. -/
def ReleaseRow.key (row : ReleaseRow) : String × String × String := (row.tenantId, row.capabilityId, row.version)

/-- A call of `registerInactive`, with the answer of the authorization port and whether the caller has a row of
`cp_user`; a time that is no time is none. -/
structure RegisterCall where
  context : TenantContext
  candidate : ManifestPublicationCandidate
  evidence : ArtifactVerificationReport
  visibility : Visibility
  now : Option Timestamp
  allowed : Bool
  enrolled : Bool

/-! ## Checks -/

/-- A small letter or a digit, and up to 127 characters of `[a-z0-9.]`, slashes and hyphens. -/
def registryIdPattern (text : String) : Bool :=
  match text.toList with
  | [] => false
  | first :: rest => isIdStart first && rest.all (fun char => isIdChar char || char = '/') && rest.length ≤ 127

def validId (value label : String) : Except String Unit :=
  throwIf (registryIdPattern value = false) s!"{label} is invalid"

def validVersion (value : String) : Except String Unit :=
  throwIf (versionPattern value = false) "capability version is invalid"

def validateContext (mode : TenantMode) (context : TenantContext) : Except String Unit := do
  throwIf (mode = .testOnly ∧ startsWith context.tenantId "test." = false)
    "Capability Registry tenant admission is invalid"
  validId context.tenantId "tenantId"
  validId context.userId "userId"
  throwIf (context.roles = [] ∨ ¬ context.roles.Nodup) "tenant roles are invalid"

def authorizeRegistry (allowed : Bool) : Except String Unit :=
  throwIf (allowed = false) "Capability Registry operation is not authorized"

/-- A text of a manifest. -/
def manifestText (manifest : JsValue) (name : String) : String := (manifest.text? name).getD ""

/-- `manifest.source.artifactDigest`. -/
def artifactDigestOf (manifest : JsValue) : String := manifestText (manifest.get "source") "artifactDigest"

def validateCandidate (host : RegistryHost) (value : ManifestPublicationCandidate) : Except String Unit := do
  throwIf (value.schemaVersion ≠ 1 ∨ value.status ≠ "validated-unpublished" ∨ value.publicationAllowed = true ∨
      value.activationAllowed = true ∨ value.currentOwnerPreserved = false)
    "manifest candidate is not safe for inactive registration"
  let manifest := value.manifest.1
  let _ ← validateCapabilityManifest manifest
  throwIf (manifest.get "kind" = .string "integration-pack")
    "private integration manifests cannot enter the core registry"
  throwIf (.string value.candidateId ≠ manifest.get "id") "manifest candidate identity or evidence is invalid"
  let digest ← contentDigest host.sha256 manifest
  throwIf (value.manifestDigest ≠ digest ∨ isBlank value.evidencePolicyRevision = true)
    "manifest candidate identity or evidence is invalid"
  let source := manifest.get "source"
  throwIf ((source.get "signature").get "status" ≠ .string "verified" ∨
      (source.get "sbom").get "format" = .string "none" ∨ (source.get "sbom").get "digest" = .undefined)
    "manifest candidate lacks verified supply-chain evidence"

def requiredChecks : List String := ["license", "signature", "sbom", "malware", "maintenance", "dependencies"]

def validateEvidence (host : RegistryHost) (candidate : ManifestPublicationCandidate)
    (evidence : ArtifactVerificationReport) : Except String Unit :=
  let manifest := candidate.manifest.1
  throwIf (evidence.schemaVersion ≠ 1 ∨ evidence.decision ≠ "verified" ∨
      .string evidence.capabilityId ≠ manifest.get "id" ∨ .string evidence.version ≠ manifest.get "version" ∨
      .string evidence.artifactDigest ≠ (manifest.get "source").get "artifactDigest" ∨
      .string evidence.sourceRevision ≠ (manifest.get "source").get "revision" ∨
      evidence.policyRevision ≠ candidate.evidencePolicyRevision ∨
      requiredChecks.any (fun check => evidence.checks.lookup check ≠ some "pass") = true ∨
      host.parseDate evidence.evaluatedAt = none)
    "artifact evidence does not authorize inactive registration"

def visible (record : CapabilityCatalogRecord) (context : TenantContext) : Bool :=
  record.visibility = .tenant || record.ownerUserId = context.userId

/-! ## Rows and records -/

/-- The row that an insertion writes. -/
def rowOf (record : CapabilityCatalogRecord) : ReleaseRow where
  tenantId := record.tenantId
  capabilityId := manifestText record.manifest "id"
  version := manifestText record.manifest "version"
  ownerUserId := record.ownerUserId
  manifestJson := record.manifest.stringify.getD ""
  manifestDigest := record.manifestDigest
  artifactDigest := artifactDigestOf record.manifest
  evidencePolicyRevision := record.evidencePolicyRevision
  visibility := record.visibility
  registeredAt := record.registeredAt

def recordFromRow (host : RegistryHost) (row : ReleaseRow) : Except String CapabilityCatalogRecord := do
  let manifest ← (JsValue.parse row.manifestJson).elim (.error "JSON.parse: unexpected token") .ok
  let _ ← validateCapabilityManifest manifest
  throwIf (digestPattern row.manifestDigest = false) "persisted capability release integrity is invalid"
  let digest ← contentDigest host.sha256 manifest
  throwIf (row.manifestDigest ≠ digest ∨ (manifest.get "source").get "artifactDigest" ≠ .string row.artifactDigest)
    "persisted capability release integrity is invalid"
  .ok
    { tenantId := row.tenantId
      ownerUserId := row.ownerUserId
      manifest
      manifestDigest := row.manifestDigest
      evidencePolicyRevision := row.evidencePolicyRevision
      visibility := row.visibility
      registeredAt := row.registeredAt }

/-! ## Operations -/

/-- The record of a release that is new. -/
def newRecord (call : RegisterCall) (now : Timestamp) : CapabilityCatalogRecord where
  tenantId := call.context.tenantId
  ownerUserId := call.context.userId
  manifest := call.candidate.manifest.1
  manifestDigest := call.candidate.manifestDigest
  evidencePolicyRevision := call.candidate.evidencePolicyRevision
  visibility := call.visibility
  registeredAt := toISOString now

/-- The row of a key. -/
def findRelease (tenantId capabilityId version : String) (rows : List ReleaseRow) : Option ReleaseRow :=
  rows.find? (·.key = (tenantId, capabilityId, version))

/-- `#get`. -/
def storedRelease (host : RegistryHost) (tenantId capabilityId version : String) (rows : List ReleaseRow) :
    Except String (Option CapabilityCatalogRecord) :=
  match findRelease tenantId capabilityId version rows with
  | none => .ok none
  | some row => (recordFromRow host row).map some

/-- `registerInactive`, with the rows that it leaves. -/
def register (host : RegistryHost) (call : RegisterCall) (rows : List ReleaseRow) :
    Except String (CapabilityCatalogRecord × List ReleaseRow) := do
  validateContext host.tenantMode call.context
  authorizeRegistry call.allowed
  validateCandidate host call.candidate
  validateEvidence host call.candidate call.evidence
  let manifest := call.candidate.manifest.1
  let existing ← storedRelease host call.context.tenantId (manifestText manifest "id") (manifestText manifest "version") rows
  match existing with
  | some existing => do
    throwIf (existing.manifestDigest ≠ call.candidate.manifestDigest ∨ existing.visibility ≠ call.visibility)
      "immutable capability release already exists with different content"
    throwIf (visible existing call.context = false) "private capability release owner differs from caller"
    .ok (existing, rows)
  | none => do
    let now ← call.now.elim (.error "timestamp is invalid") .ok
    let record := newRecord call now
    throwIf (call.enrolled = false) "FOREIGN KEY constraint failed"
    .ok (record, rows ++ [rowOf record])

/-- The registrations, one after the other; one that throws leaves the table. -/
def registry (host : RegistryHost) : Machine (List ReleaseRow) RegisterCall (Except String CapabilityCatalogRecord) where
  initial := []
  perform call rows :=
    match register host call rows with
    | .ok (record, rows) => (.ok record, rows)
    | .error error => (.error error, rows)

def getRelease (host : RegistryHost) (allowed : Bool) (context : TenantContext) (capabilityId version : String)
    (rows : List ReleaseRow) : Except String (Option CapabilityCatalogRecord) := do
  validateContext host.tenantMode context
  validId capabilityId "capabilityId"
  validVersion version
  authorizeRegistry allowed
  let record ← storedRelease host context.tenantId capabilityId version rows
  .ok (record.filter (visible · context))

/-- The rows that the `WHERE` of a listing selects. -/
def visibleRows (context : TenantContext) (rows : List ReleaseRow) : List ReleaseRow :=
  rows.filter fun row =>
    row.tenantId = context.tenantId && (row.visibility = .tenant || row.ownerUserId = context.userId)

/-- `ORDER BY capability_id, version`. -/
def Precedes (left right : ReleaseRow) : Prop :=
  left.capabilityId < right.capabilityId ∨ left.capabilityId = right.capabilityId ∧ left.version ≤ right.version

instance : DecidableRel Precedes := fun _ _ => inferInstanceAs (Decidable (_ ∨ _))

def listVisible (host : RegistryHost) (allowed : Bool) (context : TenantContext) (rows : List ReleaseRow) :
    Except String (List CapabilityCatalogRecord) := do
  validateContext host.tenantMode context
  authorizeRegistry allowed
  each (fun row _ => recordFromRow host row) ((visibleRows context rows).insertionSort Precedes)

end QuarkSelfAI.ControlPlane.CapabilityRegistry

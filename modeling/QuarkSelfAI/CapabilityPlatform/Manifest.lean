import QuarkSelfAI.CapabilityPlatform.Checks

/-!
# Capability manifests

`validateCapabilityManifest` and its parts, check by check in the order of the source. Only the identity of an
accepted manifest is read by those who keep it, so the lemma about the validator gives that.
-/

namespace QuarkSelfAI.CapabilityPlatform

open Foundation

/-! ## The words of a manifest -/

def capabilityKinds : List String :=
  ["skill", "knowledge", "policy", "workflow", "connector", "package", "sdk", "cli", "binary", "project",
    "browser-runtime", "container", "notebook", "sandbox", "application", "game", "simulation", "integration-pack",
    "agent", "composite"]

def sourceKinds : List String := ["git", "registry", "local-build", "first-party"]

def isolationKinds : List String := ["pure", "process", "container", "browser-profile", "vm", "remote-service"]

def interfaceKinds : List String := ["tool", "port", "event", "resource", "ui", "runtime", "experience"]

def permissionKinds : List String :=
  ["workspace", "file", "browser", "desktop", "network", "secret-reference", "process", "container", "gpu", "port",
    "data", "external-effect"]

def permissionOperations : List String :=
  ["discover", "read", "write", "execute", "connect", "listen", "render", "persist"]

def approvalKinds : List String := ["none", "install", "session", "action"]

def placementKinds : List String := ["local", "cloud", "hybrid"]

/-- A text that is one of some words. -/
def oneOf (words : List String) (value : JsValue) (label refusal : String) : Except String String := do
  let word ← text value label 500
  throwIf (word ∉ words) refusal
  .ok word

/-- A member of an optional object. -/
def optionalMember (object : Option Members) (name : String) : JsValue :=
  match object with
  | none => .undefined
  | some members => member members name

/-! ## Permissions -/

def checkEffect (permission : Members) (label : String) : Except String (Option Members) :=
  match member permission "effect" with
  | .undefined => .ok none
  | value => do
    let effect ← record value s!"{label}.effect"
    exactKeys effect ["kind", "externalWrite", "writeVerificationRequired"] s!"{label}.effect"
    .ok (some effect)

def validatePermission (placement : List String) (value : JsValue) (label : String) : Except String Unit := do
  let permission ← record value label
  exactKeys permission
    ["id", "kind", "operations", "scope", "placement", "approval", "required", "dataClasses", "effect"] label
  let _ ← identifier (member permission "id") s!"{label}.id"
  let kind ← oneOf permissionKinds (member permission "kind") s!"{label}.kind" s!"{label}.kind is invalid"
  let operations ← texts (member permission "operations") s!"{label}.operations" 500
  throwIf (operations = []) s!"{label}.operations cannot be empty"
  throwIf (operations.any (· ∉ permissionOperations)) s!"{label}.operations is invalid"
  unique operations s!"{label}.operations"
  let scope ← text (member permission "scope") s!"{label}.scope" 500
  throwIf (absolutePathPattern scope) s!"{label}.scope must use an opaque handle, not an absolute path"
  throwIf (secretAssignmentPattern scope) s!"{label}.scope cannot contain secret-shaped values"
  let _ ← oneOf placement (member permission "placement") s!"{label}.placement"
    s!"{label}.placement is not supported by the capability"
  let approval ← oneOf approvalKinds (member permission "approval") s!"{label}.approval" s!"{label}.approval is invalid"
  let _ ← boolean (member permission "required") s!"{label}.required"
  let dataClasses ← texts (member permission "dataClasses") s!"{label}.dataClasses" 100
  unique dataClasses s!"{label}.dataClasses"
  let effect ← checkEffect permission label
  if kind = "external-effect" then
    throwIf (optionalMember effect "externalWrite" ≠ .bool true ∨
        optionalMember effect "writeVerificationRequired" ≠ .bool true ∨ approval ≠ "action")
      s!"{label} external effects require action approval and write verification"
  else
    throwIf (optionalMember effect "externalWrite" = .bool true)
      s!"{label} external writes must use kind external-effect"

/-! ## Source and runtime -/

def checkSource (value : JsValue) : Except String Unit := do
  let source ← record value "manifest.source"
  exactKeys source ["kind", "locator", "revision", "artifactDigest", "license", "supplier", "signature", "sbom"]
    "manifest.source"
  let _ ← oneOf sourceKinds (member source "kind") "manifest.source.kind" "manifest.source.kind is invalid"
  let locator ← text (member source "locator") "manifest.source.locator" 1000
  throwIf (absolutePathPattern locator) "manifest.source.locator must be portable"
  let _ ← text (member source "revision") "manifest.source.revision" 200
  let _ ← digest (member source "artifactDigest") "manifest.source.artifactDigest"
  let _ ← text (member source "license") "manifest.source.license" 100
  let _ ← text (member source "supplier") "manifest.source.supplier" 200
  let signature ← record (member source "signature") "manifest.source.signature"
  exactKeys signature ["status", "keyId"] "manifest.source.signature"
  let status ← oneOf ["verified", "missing", "invalid"] (member signature "status") "manifest.source.signature.status"
    "manifest.source.signature.status is invalid"
  let keyId ← optionalText (member signature "keyId") "manifest.source.signature.keyId" 300
  throwIf (status = "verified" ∧ keyId = none) "verified manifest source signature requires keyId"
  let sbom ← record (member source "sbom") "manifest.source.sbom"
  exactKeys sbom ["format", "digest"] "manifest.source.sbom"
  let format ← oneOf ["spdx", "cyclonedx", "none"] (member sbom "format") "manifest.source.sbom.format"
    "manifest.source.sbom.format is invalid"
  let sbomDigest ← match member sbom "digest" with
    | .undefined => .ok none
    | value => (digest value "manifest.source.sbom.digest").map some
  throwIf (format ≠ "none" ∧ sbomDigest = none) "manifest source SBOM requires digest"
  throwIf (format = "none" ∧ sbomDigest ≠ none) "manifest source SBOM digest requires a declared format"

/-- The placements of the runtime. -/
def checkRuntime (value : JsValue) : Except String (List String) := do
  let runtime ← record value "manifest.runtime"
  exactKeys runtime
    ["placements", "isolation", "supportedPlatforms", "executorRequirements", "stateNamespace", "offlineCapable"]
    "manifest.runtime"
  let placements ← texts (member runtime "placements") "manifest.runtime.placements" 500
  throwIf (placements = [] ∨ placements.any (· ∉ placementKinds)) "manifest.runtime.placements is invalid"
  unique placements "manifest.runtime.placements"
  let _ ← oneOf isolationKinds (member runtime "isolation") "manifest.runtime.isolation"
    "manifest.runtime.isolation is invalid"
  let supportedPlatforms ← texts (member runtime "supportedPlatforms") "manifest.runtime.supportedPlatforms" 500
  unique supportedPlatforms "manifest.runtime.supportedPlatforms"
  let executorRequirements ← texts (member runtime "executorRequirements") "manifest.runtime.executorRequirements" 500
  unique executorRequirements "manifest.runtime.executorRequirements"
  let _ ← identifier (member runtime "stateNamespace") "manifest.runtime.stateNamespace"
  let offlineCapable ← boolean (member runtime "offlineCapable") "manifest.runtime.offlineCapable"
  throwIf (offlineCapable = true ∧ "local" ∉ placements ∧ "hybrid" ∉ placements)
    "offline capability requires local or hybrid placement"
  .ok placements

/-! ## Requirements, lifecycle and interfaces -/

def checkRequirement (placements : List String) (item : JsValue) (index : Nat) : Except String String := do
  let label := s!"manifest.requirements[{index}]"
  let requirement ← record item label
  exactKeys requirement ["kind", "id", "versionRange", "placement", "required"] label
  let kind ← oneOf ["system", "model", "executor", "package", "network", "device", "capability"]
    (member requirement "kind") s!"{label}.kind" "manifest requirement kind is invalid"
  let placement ← oneOf placements (member requirement "placement") s!"{label}.placement"
    "manifest requirement placement is not supported by the capability"
  if member requirement "versionRange" ≠ .null then
    let _ ← text (member requirement "versionRange") s!"{label}.versionRange" 100
  let _ ← boolean (member requirement "required") s!"{label}.required"
  let id ← identifier (member requirement "id") s!"{label}.id"
  .ok s!"{kind}:{id}:{placement}"

def lifecycleActions : List String := ["install", "load", "start", "stop", "upgrade", "uninstall", "recover"]

/-- `names.sort().join(',')`. -/
def sortedNames (names : List String) : String := joined (names.insertionSort textOrder)

/-- The handler interface of an action. -/
def checkHandler (lifecycle : Members) (action : String) : Except String String := do
  let label := s!"manifest.lifecycle.{action}"
  let handler ← record (member lifecycle action) label
  exactKeys handler ["handlerInterface", "supported", "approval"] label
  let handlerInterface ← identifier (member handler "handlerInterface") s!"{label}.handlerInterface"
  let _ ← match member handler "supported" with
    | .bool value => .ok value
    | _ => .error s!"{label} is invalid"
  let _ ← oneOf approvalKinds (member handler "approval") s!"{label}.approval" s!"{label} is invalid"
  .ok handlerInterface

def checkLifecycle (value : JsValue) : Except String (List String) := do
  let lifecycle ← record value "manifest.lifecycle"
  throwIf (sortedNames (lifecycle.map Prod.fst) ≠ sortedNames lifecycleActions)
    "manifest lifecycle must declare every supported action exactly once"
  each (fun action _ => checkHandler lifecycle action) lifecycleActions

/-- The key of an interface, and its identifier if it is provided. -/
def checkInterface (item : JsValue) (index : Nat) : Except String (String × Option String) := do
  let label := s!"manifest.interfaces[{index}]"
  let entry ← record item label
  exactKeys entry ["kind", "id", "version", "direction", "inputSchema", "outputSchema", "compatibility"] label
  let kind ← oneOf interfaceKinds (member entry "kind") s!"{label}.kind" "manifest interface kind is invalid"
  let id ← identifier (member entry "id") s!"{label}.id"
  let _ ← version (member entry "version") s!"{label}.version"
  let direction ← oneOf ["provides", "requires"] (member entry "direction") s!"{label}.direction"
    "manifest interface direction is invalid"
  let _ ← optionalText (member entry "inputSchema") s!"{label}.inputSchema" 1000
  let _ ← optionalText (member entry "outputSchema") s!"{label}.outputSchema" 1000
  let compatibility ← texts (member entry "compatibility") s!"{label}.compatibility" 100
  unique compatibility s!"{label}.compatibility"
  .ok (s!"{kind}:{id}:{direction}", if direction = "provides" then some id else none)

/-! ## Dependencies, tests and recovery -/

def checkDependency (item : JsValue) (index : Nat) : Except String String := do
  let label := s!"manifest.dependencies[{index}]"
  let dependency ← record item label
  exactKeys dependency ["id", "versionRange", "required", "placement"] label
  let id ← identifier (member dependency "id") s!"{label}.id"
  let _ ← text (member dependency "versionRange") s!"{label}.versionRange" 100
  let _ ← boolean (member dependency "required") s!"{label}.required"
  if member dependency "placement" ≠ .undefined then
    let _ ← oneOf placementKinds (member dependency "placement") s!"{label}.placement"
      "manifest dependency placement is invalid"
  .ok id

/-- The data classes of a permission are among those of the manifest. -/
def checkDataClasses (declared : List String) (item : JsValue) (index : Nat) : Except String Unit := do
  let permission ← record item s!"manifest.permissions[{index}]"
  let classes ← array (member permission "dataClasses") s!"manifest.permissions[{index}].dataClasses"
  throwIf (classes.any fun item => item.toText ∉ declared)
    "manifest permission data class is not declared by the manifest"

def checkPermissions (placements : List String) (value dataClasses : JsValue) : Except String Unit := do
  let permissions ← array value "manifest.permissions"
  let _ ← each (fun item index => validatePermission placements item s!"manifest.permissions[{index}]") permissions
  let ids ← each (fun item index => do
    let permission ← record item s!"manifest.permissions[{index}]"
    identifier (member permission "id") s!"manifest.permissions[{index}].id") permissions
  unique ids "manifest.permissions"
  let declared ← texts dataClasses "manifest.dataClasses" 100
  unique declared "manifest.dataClasses"
  let _ ← each (checkDataClasses declared) permissions
  .ok ()

def checkTest (item : JsValue) (index : Nat) : Except String String := do
  let label := s!"manifest.tests[{index}]"
  let declaration ← record item label
  exactKeys declaration ["id", "kind", "required", "effectMode"] label
  let _ ← oneOf ["contract", "fixture", "redacted-replay", "health", "shadow"] (member declaration "kind")
    s!"{label}.kind" "manifest test kind is invalid"
  let _ ← boolean (member declaration "required") s!"{label}.required"
  let _ ← oneOf ["none", "recording-sink"] (member declaration "effectMode") s!"{label}.effectMode"
    "manifest tests cannot enable effects"
  identifier (member declaration "id") s!"{label}.id"

/-- `item.kind === 'contract' && item.required === true`. -/
def isContractTest (item : JsValue) : Bool := item.get "kind" = .string "contract" ∧ item.get "required" = .bool true

def checkTests (value : JsValue) : Except String Unit := do
  let tests ← array value "manifest.tests"
  let ids ← each checkTest tests
  unique ids "manifest.tests"
  throwIf (tests.any isContractTest = false) "manifest requires a contract test"

def checkHealthCheck (placements provided : List String) (item : JsValue) (index : Nat) : Except String String := do
  let label := s!"manifest.healthChecks[{index}]"
  let check ← record item label
  exactKeys check ["id", "interfaceId", "placement", "timeoutMs", "required"] label
  let _ ← oneOf placements (member check "placement") s!"{label}.placement"
    "manifest health check placement is not supported by the capability"
  throwIf (isSafeInteger (member check "timeoutMs") = false ∨ numeral (member check "timeoutMs") ≤ 0)
    "manifest health check timeout must be a positive integer"
  let interfaceId ← identifier (member check "interfaceId") s!"{label}.interfaceId"
  throwIf (interfaceId ∉ provided) "manifest health check interface is not declared as provided"
  let _ ← boolean (member check "required") s!"{label}.required"
  identifier (member check "id") s!"{label}.id"

def checkRecovery (value : JsValue) : Except String Unit := do
  let recovery ← record value "manifest.recovery"
  exactKeys recovery ["strategy", "rollbackVersion", "stateIncluded", "restoreEffectsEnabled"] "manifest.recovery"
  let _ ← oneOf ["stateless", "reinstall", "snapshot", "encrypted-state"] (member recovery "strategy")
    "manifest.recovery.strategy" "manifest recovery strategy is invalid"
  if member recovery "rollbackVersion" ≠ .null then
    let _ ← version (member recovery "rollbackVersion") "manifest.recovery.rollbackVersion"
  let _ ← boolean (member recovery "stateIncluded") "manifest.recovery.stateIncluded"
  throwIf (member recovery "restoreEffectsEnabled" ≠ .bool false)
    "manifest recovery must restore with effects disabled"

/-! ## The manifest -/

def manifestNames : List String :=
  ["schemaVersion", "id", "name", "version", "kind", "description", "source", "runtime", "requirements", "lifecycle",
    "interfaces", "dependencies", "permissions", "dataClasses", "tests", "healthChecks", "recovery"]

/-- What stands behind the identity of a manifest. -/
def checkContents (id : String) (manifest : Members) : Except String Unit := do
  let _ ← oneOf capabilityKinds (member manifest "kind") "manifest.kind" "manifest.kind is invalid"
  let _ ← text (member manifest "description") "manifest.description" 2000
  checkSource (member manifest "source")
  let placements ← checkRuntime (member manifest "runtime")
  let requirements ← array (member manifest "requirements") "manifest.requirements"
  let requirementKeys ← each (checkRequirement placements) requirements
  unique requirementKeys "manifest.requirements"
  let handlers ← checkLifecycle (member manifest "lifecycle")
  let interfaces ← array (member manifest "interfaces") "manifest.interfaces"
  let checked ← each checkInterface interfaces
  let provided := checked.filterMap Prod.snd
  unique (checked.map Prod.fst) "manifest.interfaces"
  let _ ← each (fun handler _ => throwIf (handler ∉ provided)
    s!"manifest lifecycle handler interface {handler} is not declared as provided") handlers
  let items ← array (member manifest "dependencies") "manifest.dependencies"
  let dependencies ← each checkDependency items
  unique dependencies "manifest.dependencies"
  throwIf (id ∈ dependencies) "manifest cannot depend on itself"
  checkPermissions placements (member manifest "permissions") (member manifest "dataClasses")
  checkTests (member manifest "tests")
  let checks ← array (member manifest "healthChecks") "manifest.healthChecks"
  let healthCheckIds ← each (checkHealthCheck placements provided) checks
  unique healthCheckIds "manifest.healthChecks"
  checkRecovery (member manifest "recovery")

def validateCapabilityManifest (value : JsValue) : Except String Members := do
  let manifest ← record value "manifest"
  exactKeys manifest manifestNames "manifest"
  throwIf (member manifest "schemaVersion" ≠ .number 1) "manifest.schemaVersion must be 1"
  let id ← identifier (member manifest "id") "manifest.id"
  let _ ← text (member manifest "name") "manifest.name" 200
  let _ ← version (member manifest "version") "manifest.version"
  checkContents id manifest
  .ok manifest

/-- The identity of a manifest. -/
structure Identified (manifest : Members) (id version : String) : Prop where
  named : member manifest "id" = .string id
  identifier : IsIdentifier id
  released : member manifest "version" = .string version
  semantic : IsVersion version

theorem validateCapabilityManifest_identified {value : JsValue} {manifest : Members}
    (accepted : validateCapabilityManifest value = .ok manifest) :
    value = .object manifest ∧ ∃ id version, Identified manifest id version := by
  simp only [validateCapabilityManifest, bind_ok, record_ok, exactKeys_ok, throwIf_ok, identifier_ok, text_ok,
    version_ok, Except.ok.injEq] at accepted
  obtain ⟨members, rfl, _, -, _, -, id, ⟨own, identifier⟩, _, -, version, ⟨named, semantic⟩, _, -, rfl⟩ := accepted
  exact ⟨rfl, id, version, own, identifier, named, semantic⟩

end QuarkSelfAI.CapabilityPlatform

import QuarkSelfAI.Foundation.SemanticVersion
import QuarkSelfAI.Orchestration.BlueprintGraph

/-!
# Compiling a blueprint

What `compileNoEffectExecutionPlan` checks and selects before it signs: every capability resolves to exactly one
artifact, every node calls an interface its capability provides, and every workspace handle is granted. A caret range
is compared by the text before the first full stop alone, so it honours semantic versions only where that decides.
-/

namespace QuarkSelfAI.Orchestration

open Foundation CapabilityPlatform

/-! ## Versions -/

/-- A version as the validators accept it. -/
structure ReleaseVersion where
  text : String
  accepted : IsVersion text

theorem takeNumber_of_afterNumber {chars after : List Char} (found : afterNumber chars = some after) :
    ∃ digits, SemanticVersion.takeNumber chars = some (digits, after) := by
  rw [afterNumber] at found
  rw [SemanticVersion.takeNumber]
  generalize chars.span Char.isDigit = parts at found
  obtain ⟨_ | ⟨first, digits⟩, rest⟩ := parts
  · cases found
  · cases found
    exact ⟨first :: digits, rfl⟩

/-- What the validators accept can be read. -/
theorem read_isSome {text : String} (accepted : versionPattern text = true) : (SemanticVersion.read text).isSome := by
  rw [versionPattern] at accepted
  rw [SemanticVersion.read]
  split at accepted <;> [skip; cases accepted]
  rename_i minor found
  obtain ⟨_, taken⟩ := takeNumber_of_afterNumber found
  simp only [taken]
  split at accepted <;> [skip; cases accepted]
  rename_i patch found
  obtain ⟨_, taken⟩ := takeNumber_of_afterNumber found
  simp only [taken]
  split at accepted
  · rename_i found
    obtain ⟨_, taken⟩ := takeNumber_of_afterNumber found
    simp only [taken, Option.isSome_some]
  · rename_i prerelease found
    obtain ⟨_, taken⟩ := takeNumber_of_afterNumber found
    simp only [taken, Option.isSome_some]
  · cases accepted

namespace ReleaseVersion

/-- What the text of a version says. -/
def number (version : ReleaseVersion) : SemanticVersion :=
  (SemanticVersion.read version.text).get (read_isSome version.accepted.2)

theorem valueOf_leading (version : ReleaseVersion) :
    SemanticVersion.valueOf (SemanticVersion.leading version.text) = version.number.major :=
  SemanticVersion.valueOf_leading (Option.some_get _).symm

end ReleaseVersion

def versionMatches (version range : String) : Bool :=
  if range = version then true
  else if startsWith range "^" then
    SemanticVersion.leading version = SemanticVersion.leading (String.ofList (range.toList.drop 1))
  else false

/-! ## Compilation -/

structure CapabilityReference where
  id : String
  versionRange : String
  artifactDigest : String

inductive InterfaceDirection where
  | provides
  | requires
deriving DecidableEq

/-- What the compiler reads of a validated manifest. -/
structure CapabilityManifest where
  id : String
  version : ReleaseVersion
  artifactDigest : String
  interfaces : List (InterfaceDirection × String)
  executorRequirements : List String
  dataClasses : List String

structure BlueprintPermission where
  kind : String
  externalWrite : Bool

/-- What the compiler reads of a validated blueprint; the validator has searched its graph for cycles. -/
structure AgentBlueprint where
  id : String
  digest : String
  capabilities : List CapabilityReference
  graph : BlueprintGraph
  acyclic : assertAcyclic graph.adjacency blueprintTexts.cycle = .ok ()
  preferred : List String
  fallback : List String
  workspaceHandles : List String
  permissions : List BlueprintPermission

inductive Admission where
  | testOnly
  | registered
deriving DecidableEq

structure CompilationInput where
  tenantId : String
  grantedHandles : List String

/-- A capability as the plan pins it. -/
structure PinnedCapability where
  id : String
  version : String
  artifactDigest : String
deriving DecidableEq

/-- What the compiler selects for the plan. -/
structure CompiledPlan where
  capabilities : List PinnedCapability
  dataClasses : List String
  executorCapabilities : List String
  allowedExecutors : List String
  preferredExecutors : List String
deriving DecidableEq

namespace CapabilityManifest

def answers (manifest : CapabilityManifest) (reference : CapabilityReference) : Bool :=
  manifest.id = reference.id && manifest.artifactDigest = reference.artifactDigest &&
    versionMatches manifest.version.text reference.versionRange

def provides (manifest : CapabilityManifest) (interfaceId : String) : Bool :=
  manifest.interfaces.any fun candidate => candidate.1 = .provides && candidate.2 = interfaceId

def pin (manifest : CapabilityManifest) : PinnedCapability :=
  ⟨manifest.id, manifest.version.text, manifest.artifactDigest⟩

end CapabilityManifest

/-- The one artifact a capability resolves to. -/
def resolve (manifests : List CapabilityManifest) (reference : CapabilityReference) :
    Except String CapabilityManifest :=
  match manifests.filter (·.answers reference) with
  | [manifest] => .ok manifest
  | _ => .error s!"blueprint capability {reference.id} must resolve to exactly one verified artifact"

def checkNodeInterface (selected : List CapabilityManifest) (node : GraphNode) : Except String Unit :=
  match selected.find? (·.id = node.capabilityId) with
  | none => .error s!"blueprint node {node.id} references an unresolved capability"
  | some manifest =>
    throwIf (manifest.provides node.interfaceId = false)
      s!"blueprint node {node.id} references an interface not provided by its capability"

/-- The plan of the selected manifests. -/
def planOf (blueprint : AgentBlueprint) (selected : List CapabilityManifest) : CompiledPlan where
  capabilities := selected.map CapabilityManifest.pin
  dataClasses := distinct (selected.flatMap CapabilityManifest.dataClasses)
  executorCapabilities := (distinct (selected.flatMap CapabilityManifest.executorRequirements)).insertionSort textOrder
  allowedExecutors := blueprint.preferred ++ blueprint.fallback
  preferredExecutors := blueprint.preferred

/-- `compileNoEffectExecutionPlan` up to the signature; `payloadDigest` is the digest of the blueprint's payload. -/
def compileNoEffectExecutionPlan (payloadDigest : String) (blueprint : AgentBlueprint)
    (manifests : List CapabilityManifest) (input : CompilationInput) (admission : Admission) :
    Except String CompiledPlan := do
  throwIf (payloadDigest ≠ blueprint.digest) "blueprint digest does not match its payload"
  throwIf (admission = .testOnly ∧ startsWith input.tenantId "test." = false)
    "inactive compiler tenant admission is invalid"
  throwIf (∃ permission ∈ blueprint.permissions,
    permission.kind = "external-effect" ∨ permission.externalWrite = true) "inactive compiler rejects external effects"
  let selected ← each (fun reference _ => resolve manifests reference) blueprint.capabilities
  blueprint.graph.nodes.forM (checkNodeInterface selected)
  let _ ← topologicalOrder blueprint.graph
  throwIf (∃ handle ∈ blueprint.workspaceHandles, handle ∉ input.grantedHandles)
    "blueprint workspace handle is not granted to this action"
  .ok (planOf blueprint selected)

/-! ## What compilation accepts -/

variable {manifests : List CapabilityManifest} {reference : CapabilityReference} {manifest : CapabilityManifest}

theorem resolve_ok :
    resolve manifests reference = .ok manifest ↔ manifests.filter (·.answers reference) = [manifest] := by
  rw [resolve]
  split
  · rename_i only same
    simp [same]
  · rename_i others
    constructor
    · rintro ⟨⟩
    · intro same
      exact absurd same (others manifest)

theorem resolve_answers (resolved : resolve manifests reference = .ok manifest) :
    manifest ∈ manifests ∧ manifest.answers reference = true := by
  have only := resolve_ok.mp resolved
  exact List.mem_filter.mp (only ▸ List.mem_singleton_self manifest)

/-! ## Caret ranges -/

section Caret

variable {version bound : ReleaseVersion}

theorem versionMatches_caret (version bound : ReleaseVersion) : versionMatches version.text ("^" ++ bound.text) = true ↔
      SemanticVersion.leading version.text = SemanticVersion.leading bound.text := by
  have numbered : "^" ++ bound.text ≠ version.text := by
    intro same
    have started := read_isSome version.accepted.2
    rw [← same, SemanticVersion.read] at started
    revert started
    simp [SemanticVersion.takeNumber, List.span_eq_takeWhile_dropWhile]
  have marked : startsWith ("^" ++ bound.text) "^" = true := by simp [startsWith]
  have behind : String.ofList (("^" ++ bound.text).toList.drop 1) = bound.text := by simp
  rw [versionMatches, if_neg numbered, if_pos marked, behind, decide_eq_true_eq]

/-- Versions with one text before the first full stop have one major number. -/
theorem major_eq (alike : SemanticVersion.leading version.text = SemanticVersion.leading bound.text) :
    version.number.major = bound.number.major := by
  rw [← version.valueOf_leading, ← bound.valueOf_leading, alike]

/-- The range is honoured: it matches exactly the compatible versions, and no capability resolves below its bound. -/
def Honoured (version bound : ReleaseVersion) : Prop :=
  (versionMatches version.text ("^" ++ bound.text) = true ↔ version.number.Compatible bound.number) ∧
    ∀ (manifests : List CapabilityManifest) (reference : CapabilityReference) (manifest : CapabilityManifest),
      reference.versionRange = "^" ++ bound.text → resolve manifests reference = .ok manifest →
        manifest.version = version → bound.number ≤ version.number

/-- The version is behind the bound within its major number. -/
def Behind (version bound : ReleaseVersion) : Prop := version.number.rest < bound.number.rest

/-- Under the major number zero, a number that a caret range keeps differs. -/
def Unstable (version bound : ReleaseVersion) : Prop :=
  bound.number.major = 0 ∧ (version.number.minor ≠ bound.number.minor ∨
    bound.number.minor = 0 ∧ version.number.patch ≠ bound.number.patch)

/-- The text before the first full stop misleads: it is the same for a version the range leaves out, or a leading zero
makes it differ for one that the range takes. -/
def Misled (version bound : ReleaseVersion) : Prop :=
  if SemanticVersion.leading version.text = SemanticVersion.leading bound.text then
    Behind version bound ∨ Unstable version bound
  else version.number.major = bound.number.major ∧ ¬ Behind version bound ∧ ¬ Unstable version bound

theorem compatible_iff : version.number.Compatible bound.number ↔
    version.number.major = bound.number.major ∧ ¬ Behind version bound ∧ ¬ Unstable version bound := by
  by_cases same : version.number.major = bound.number.major
  · rw [SemanticVersion.compatible_iff_of_major same, Behind, Unstable, not_lt, and_iff_right same]
    simp only [not_and, not_or, not_not, ne_eq]
  · refine iff_of_false (fun compatible => same compatible.2.1) (fun parts => same parts.1)

/-- A caret range is honoured unless the text before the first full stop misleads. -/
theorem honoured_iff (version bound : ReleaseVersion) : Honoured version bound ↔ ¬ Misled version bound := by
  have resolved : (versionMatches version.text ("^" ++ bound.text) = true ↔
      version.number.Compatible bound.number) → Honoured version bound := by
    intro exact
    refine ⟨exact, ?_⟩
    rintro manifests reference manifest range found rfl
    obtain ⟨-, answers⟩ := resolve_answers found
    rw [CapabilityManifest.answers, range, Bool.and_eq_true] at answers
    exact (exact.mp answers.2).1
  have reduced : Honoured version bound ↔ (versionMatches version.text ("^" ++ bound.text) = true ↔
      version.number.Compatible bound.number) := ⟨And.left, resolved⟩
  rw [reduced, versionMatches_caret, compatible_iff, Misled]
  split
  · rename_i alike
    simp only [alike, major_eq alike, true_and, true_iff, not_or]
  · rename_i different
    simp only [different, false_iff]

def searchManifest (version : ReleaseVersion) : CapabilityManifest where
  id := "tool/search"
  version := version
  artifactDigest := "sha256:a"
  interfaces := [(.provides, "search.query")]
  executorRequirements := []
  dataClasses := ["public"]

def searchBlueprint (range : String) : AgentBlueprint where
  id := "agent/search"
  digest := "sha256:b"
  capabilities := [⟨"tool/search", range, "sha256:a"⟩]
  graph := ⟨[⟨"search", "tool/search", "search.query"⟩], [], by simp, by simp⟩
  acyclic := by decide
  preferred := ["executor-a"]
  fallback := ["safe-fallback"]
  workspaceHandles := []
  permissions := []

/-- A blueprint that asks for `^1.5.0` is compiled to run `1.2.0`, and `^0.1.0` takes `0.2.0`. -/
theorem caret_takes_older :
    compileNoEffectExecutionPlan "sha256:b" (searchBlueprint "^1.5.0") [searchManifest ⟨"1.2.0", by decide⟩]
        ⟨"personal", []⟩ .registered =
      .ok ⟨[⟨"tool/search", "1.2.0", "sha256:a"⟩], ["public"], [], ["executor-a", "safe-fallback"], ["executor-a"]⟩ ∧
      ¬ Honoured ⟨"1.2.0", by decide⟩ ⟨"1.5.0", by decide⟩ ∧ ¬ Honoured ⟨"0.2.0", by decide⟩ ⟨"0.1.0", by decide⟩ := by
  refine ⟨by decide, ?_, ?_⟩
  all_goals
    intro honoured
    have compatible := honoured.1.mp (by decide)
    revert compatible
    decide

end Caret

end QuarkSelfAI.Orchestration

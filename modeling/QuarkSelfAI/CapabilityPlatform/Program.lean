import QuarkSelfAI.CapabilityPlatform.Checks

/-!
# Programs

The part a blueprint and an execution envelope have in common: a role, goals, a graph
of capability calls with declarative configurations, and a model policy. Both
validators make the same checks with texts of their own; the envelope also refuses a
repeated edge.
-/

namespace QuarkSelfAI.CapabilityPlatform

open Foundation

/-! ## Declarative configurations -/

mutual

/-- The visitor of `validateDeclarativeConfiguration`. -/
def visitItem : JsValue → String → Except String Unit
  | .string text, path => do
    throwIf (8192 < utf16Length text) s!"{path} exceeds 8192 characters"
    throwIf (isRevealing text = true) s!"{path} cannot contain an absolute path or secret-shaped value"
  | .array items, path => visitItems items path 0
  | .object members, path => visitMembers members path
  | .undefined, _ | .null, _ | .bool _, _ | .number _, _ | .nonFinite, _ => .ok ()

def visitItems : List JsValue → String → Nat → Except String Unit
  | [], _, _ => .ok ()
  | item :: rest, path, index => do
    visitItem item s!"{path}[{index}]"
    visitItems rest path (index + 1)

def visitMembers : Members → String → Except String Unit
  | [], _ => .ok ()
  | (name, value) :: rest, path => do
    throwIf (isExecutableName name = true) s!"{path}.{name} cannot carry an executable payload"
    visitItem value s!"{path}.{name}"
    visitMembers rest path

end

mutual

/-- Only short texts that reveal nothing, under names that carry no program. -/
def isPlain : JsValue → Bool
  | .string text => utf16Length text ≤ 8192 && !isRevealing text
  | .array items => arePlain items
  | .object members => havePlain members
  | .undefined | .null | .bool _ | .number _ | .nonFinite => true

def arePlain : List JsValue → Bool
  | [] => true
  | item :: rest => isPlain item && arePlain rest

def havePlain : Members → Bool
  | [] => true
  | (name, value) :: rest => !isExecutableName name && (isPlain value && havePlain rest)

end

mutual

theorem visitItem_ok : (value : JsValue) → (path : String) →
    ∀ {done}, visitItem value path = .ok done ↔ isPlain value = true
  | .undefined, _, _ | .null, _, _ | .bool _, _, _ | .number _, _, _ | .nonFinite, _, _ => by
    simp [visitItem, isPlain]
  | .string text, path, done => by
    simp only [visitItem, isPlain, bind_ok, throwIf_ok, exists_const, Bool.and_eq_true,
      decide_eq_true_eq, Bool.not_eq_true', Bool.not_eq_true, not_lt]
  | .array items, path, done => by
    rw [visitItem, isPlain]
    exact visitItems_ok items path 0
  | .object members, path, done => by
    rw [visitItem, isPlain]
    exact visitMembers_ok members path

theorem visitItems_ok : (items : List JsValue) → (path : String) → (index : Nat) →
    ∀ {done}, visitItems items path index = .ok done ↔ arePlain items = true
  | [], _, _, _ => by simp [visitItems, arePlain]
  | item :: rest, path, index, done => by
    simp only [visitItems, arePlain, bind_ok, Bool.and_eq_true, visitItem_ok item, visitItems_ok rest, exists_const]

theorem visitMembers_ok : (members : Members) → (path : String) →
    ∀ {done}, visitMembers members path = .ok done ↔ havePlain members = true
  | [], _, _ => by simp [visitMembers, havePlain]
  | (name, value) :: rest, path, done => by
    simp only [visitMembers, havePlain, bind_ok, throwIf_ok, Bool.and_eq_true, visitItem_ok value,
      visitMembers_ok rest, exists_const, Bool.not_eq_true', Bool.not_eq_true]

end

def validateDeclarativeConfiguration (value : JsValue) (label : String) : Except String Unit := do
  let serialized ← canonicalJson value
  throwIf (65536 < utf16Length serialized) s!"{label} exceeds 65536 canonical JSON characters"
  visitItem value label

/-- A configuration that only declares. -/
def Declarative (value : JsValue) : Prop :=
  (∃ serialized, canonicalJson value = .ok serialized ∧ utf16Length serialized ≤ 65536) ∧ isPlain value = true

variable {value : JsValue} {done : Unit}

theorem validateDeclarativeConfiguration_ok {label : String} :
    validateDeclarativeConfiguration value label = .ok done ↔ Declarative value := by
  simp only [validateDeclarativeConfiguration, Declarative, bind_ok, throwIf_ok, exists_const, visitItem_ok, not_lt]
  constructor
  · rintro ⟨serialized, written, short, plain⟩
    exact ⟨⟨serialized, written, short⟩, plain⟩
  · rintro ⟨⟨serialized, written, short⟩, plain⟩
    exact ⟨serialized, written, short, plain⟩

/-! ## Texts of the two validators -/

/-- The texts in which a validator differs from the other. -/
structure ProgramTexts where
  label : String
  role : String
  goalCount : String
  goals : String
  nodeCount : String
  unknownCapability : String
  edgeCount : String
  unknownNode : String
  cycle : String
  modelCount : String
  preferredModel : String

def blueprintTexts : ProgramTexts where
  label := "blueprint"
  role := "blueprint role cannot contain an absolute path or secret-shaped value"
  goalCount := "blueprint.goals must contain between 1 and 64 items"
  goals := "blueprint goals cannot contain absolute paths or secret-shaped values"
  nodeCount := "blueprint graph cannot contain more than 256 nodes"
  unknownCapability := "blueprint graph node references an undeclared capability"
  edgeCount := "blueprint graph cannot contain more than 1024 edges"
  unknownNode := "blueprint graph edge references an unknown node"
  cycle := "blueprint graph contains a cycle"
  modelCount := "blueprint cannot allow more than 64 models"
  preferredModel := "blueprint preferred model must be allowed"

def envelopeTexts : ProgramTexts where
  label := "envelope.program"
  role := "execution program role cannot contain an absolute path or secret-shaped value"
  goalCount := "execution program goals must contain between 1 and 64 items"
  goals := "execution program goals cannot contain absolute paths or secret-shaped values"
  nodeCount := "execution program graph cannot contain more than 256 nodes"
  unknownCapability := "execution program node references an unpinned capability"
  edgeCount := "execution program graph cannot contain more than 1024 edges"
  unknownNode := "execution program edge references an unknown node"
  cycle := "execution program graph contains a cycle"
  modelCount := "execution program cannot allow more than 64 models"
  preferredModel := "execution program preferred model must be allowed"

section Checks

variable (wording : ProgramTexts)

/-! ## Role and goals -/

def checkRole (value : JsValue) : Except String Unit := do
  let role ← text value s!"{wording.label}.role" 500
  throwIf (isRevealing role = true) wording.role

def IsRole (value : JsValue) : Prop := ∃ role, value = .string role ∧ IsText 500 role ∧ isRevealing role = false

theorem checkRole_ok : checkRole wording value = .ok done ↔ IsRole value := by
  simp only [checkRole, IsRole, bind_ok, text_ok, throwIf_ok, Bool.not_eq_true, and_assoc]

def checkGoals (value : JsValue) : Except String Unit := do
  let goals ← texts value s!"{wording.label}.goals" 2000
  throwIf (goals = [] ∨ 64 < goals.length) wording.goalCount
  throwIf (∃ goal ∈ goals, isRevealing goal = true) wording.goals

def AreGoals (value : JsValue) : Prop :=
  ∃ goals, value = .array (goals.map .string) ∧ (∀ goal ∈ goals, IsText 2000 goal) ∧
    ¬ (goals = [] ∨ 64 < goals.length) ∧ ¬ ∃ goal ∈ goals, isRevealing goal = true

theorem checkGoals_ok : checkGoals wording value = .ok done ↔ AreGoals value := by
  simp only [checkGoals, AreGoals, bind_ok, texts_ok, throwIf_ok, exists_const, and_assoc]

/-! ## Nodes -/

def checkNode (capabilityIds : List String) (value : JsValue) (index : Nat) : Except String String := do
  let label := s!"{wording.label}.graph.nodes[{index}]"
  let node ← record value label
  exactKeys node ["id", "capabilityId", "interfaceId", "configuration"] label
  let id ← identifier (member node "id") s!"{label}.id"
  let capabilityId ← identifier (member node "capabilityId") s!"{label}.capabilityId"
  throwIf (capabilityId ∉ capabilityIds) wording.unknownCapability
  let _ ← identifier (member node "interfaceId") s!"{label}.interfaceId"
  let _ ← record (member node "configuration") s!"{label}.configuration"
  validateDeclarativeConfiguration (member node "configuration") s!"{label}.configuration"
  .ok id

/-- A node of the graph and its identifier. -/
def IsNode (capabilityIds : List String) (value : JsValue) (id : String) : Prop :=
  ∃ node, value = .object node ∧ KnownKeys node ["id", "capabilityId", "interfaceId", "configuration"] ∧
    (member node "id" = .string id ∧ IsIdentifier id) ∧
    (∃ capabilityId, (member node "capabilityId" = .string capabilityId ∧ IsIdentifier capabilityId) ∧
      capabilityId ∈ capabilityIds) ∧
    (∃ interfaceId, member node "interfaceId" = .string interfaceId ∧ IsIdentifier interfaceId) ∧
    (∃ configuration, member node "configuration" = .object configuration) ∧
    Declarative (member node "configuration")

theorem checkNode_ok {capabilityIds : List String} {index : Nat} {id : String} :
    checkNode wording capabilityIds value index = .ok id ↔ IsNode capabilityIds value id := by
  simp only [checkNode, IsNode, bind_ok, record_ok, exactKeys_ok, identifier_ok, throwIf_ok,
    validateDeclarativeConfiguration_ok, exists_const, Except.ok.injEq, not_not]
  constructor
  · rintro ⟨node, same, known, id', first, capabilityId, second, pinned, interfaceId, third,
      configuration, fourth, declarative, rfl⟩
    exact ⟨node, same, known, first, ⟨capabilityId, second, pinned⟩, ⟨interfaceId, third⟩,
      ⟨configuration, fourth⟩, declarative⟩
  · rintro ⟨node, same, known, first, ⟨capabilityId, second, pinned⟩, ⟨interfaceId, third⟩,
      ⟨configuration, fourth⟩, declarative⟩
    exact ⟨node, same, known, id, first, capabilityId, second, pinned, interfaceId, third,
      configuration, fourth, declarative, rfl⟩

def checkNodes (capabilityIds : List String) (value : JsValue) : Except String (List String) := do
  let nodes ← array value s!"{wording.label}.graph.nodes"
  throwIf (256 < nodes.length) wording.nodeCount
  let ids ← each (checkNode wording capabilityIds) nodes
  unique ids s!"{wording.label}.graph.nodes"
  .ok ids

def AreNodes (capabilityIds : List String) (value : JsValue) (ids : List String) : Prop :=
  ∃ nodes, value = .array nodes ∧ nodes.length ≤ 256 ∧ List.Forall₂ (IsNode capabilityIds) nodes ids ∧ ids.Nodup

theorem checkNodes_ok {capabilityIds ids : List String} :
    checkNodes wording capabilityIds value = .ok ids ↔ AreNodes capabilityIds value ids := by
  have accepts : ∀ item index id, checkNode wording capabilityIds item index = .ok id ↔
      IsNode capabilityIds item id := fun _ _ _ => checkNode_ok wording
  simp only [checkNodes, AreNodes, bind_ok, array_ok, throwIf_ok, each_ok accepts, unique_ok,
    exists_const, Except.ok.injEq, not_lt]
  constructor
  · rintro ⟨nodes, same, few, ids', listed, distinct, rfl⟩
    exact ⟨nodes, same, few, listed, distinct⟩
  · rintro ⟨nodes, same, few, listed, distinct⟩
    exact ⟨nodes, same, few, ids, listed, distinct, rfl⟩

/-! ## Edges -/

/-- An edge; the source calls its ends `from` and `to`. -/
structure Edge where
  origin : String
  target : String
  output : String
  input : String

def Edge.key (edge : Edge) : String := "\x00".intercalate [edge.origin, edge.target, edge.output, edge.input]

def checkEdge (nodes : List String) (value : JsValue) (index : Nat) : Except String Edge := do
  let label := s!"{wording.label}.graph.edges[{index}]"
  let edge ← record value label
  exactKeys edge ["from", "to", "output", "input"] label
  let origin ← identifier (member edge "from") s!"{label}.from"
  let target ← identifier (member edge "to") s!"{label}.to"
  throwIf (origin ∉ nodes ∨ target ∉ nodes) wording.unknownNode
  let output ← text (member edge "output") s!"{label}.output" 200
  let input ← text (member edge "input") s!"{label}.input" 200
  .ok ⟨origin, target, output, input⟩

/-- What an edge of the graph says. -/
def IsEdge (nodes : List String) (value : JsValue) (edge : Edge) : Prop :=
  ∃ members, value = .object members ∧ KnownKeys members ["from", "to", "output", "input"] ∧
    (member members "from" = .string edge.origin ∧ IsIdentifier edge.origin) ∧
    (member members "to" = .string edge.target ∧ IsIdentifier edge.target) ∧
    (edge.origin ∈ nodes ∧ edge.target ∈ nodes) ∧
    (member members "output" = .string edge.output ∧ IsText 200 edge.output) ∧
    (member members "input" = .string edge.input ∧ IsText 200 edge.input)

theorem checkEdge_ok {nodes : List String} {index : Nat} {edge : Edge} :
    checkEdge wording nodes value index = .ok edge ↔ IsEdge nodes value edge := by
  simp only [checkEdge, IsEdge, bind_ok, record_ok, exactKeys_ok, identifier_ok, text_ok, throwIf_ok,
    exists_const, Except.ok.injEq, not_or, not_not]
  constructor
  · rintro ⟨members, same, known, origin, first, target, second, stored, output, third, input, fourth, rfl⟩
    exact ⟨members, same, known, first, second, stored, third, fourth⟩
  · rintro ⟨members, same, known, first, second, stored, third, fourth⟩
    exact ⟨members, same, known, _, first, _, second, stored, _, third, _, fourth, rfl⟩

def checkEdges (nodes : List String) (value : JsValue) : Except String (List Edge) := do
  let edges ← array value s!"{wording.label}.graph.edges"
  throwIf (1024 < edges.length) wording.edgeCount
  each (checkEdge wording nodes) edges

def AreEdges (nodes : List String) (value : JsValue) (edges : List Edge) : Prop :=
  ∃ items, value = .array items ∧ items.length ≤ 1024 ∧ List.Forall₂ (IsEdge nodes) items edges

theorem checkEdges_ok {nodes : List String} {edges : List Edge} :
    checkEdges wording nodes value = .ok edges ↔ AreEdges nodes value edges := by
  have accepts : ∀ item index edge, checkEdge wording nodes item index = .ok edge ↔
      IsEdge nodes item edge := fun _ _ _ => checkEdge_ok wording
  simp only [checkEdges, AreEdges, bind_ok, array_ok, throwIf_ok, each_ok accepts, exists_const, not_lt]

end Checks

/-! ## Cycles -/

/-- The depth-first search of `assertAcyclic` from one node: the nodes visited, the last
one first. `depth` bounds the recursion. -/
def visit (next : String → List String) (message : String) :
    Nat → List String → List String → String → Except String (List String)
  | 0, _, _, _ => .error "Maximum call stack size exceeded"
  | depth + 1, visiting, visited, node =>
    if node ∈ visiting then .error message
    else if node ∈ visited then .ok visited
    else do
      let visited ← (next node).foldlM
        (fun visited target => visit next message depth (node :: visiting) visited target) visited
      .ok (node :: visited)

/-- The neighbours of a node; a node without an entry has none. -/
def neighbours (adjacency : List (String × List String)) (node : String) : List String :=
  (adjacency.lookup node).getD []

def assertAcyclic (adjacency : List (String × List String)) (message : String) : Except String Unit := do
  let _ ← (adjacency.map Prod.fst).foldlM
    (fun visited node => visit (neighbours adjacency) message (adjacency.length + 1) [] visited node) []
  .ok ()

/-- The targets of every node, in the order of the edges. -/
def adjacencyOf (nodes : List String) (edges : List Edge) : List (String × List String) :=
  nodes.map fun node => (node, (edges.filter (·.origin = node)).map Edge.target)

/-! ## Model policy -/

section Checks

variable (wording : ProgramTexts)

def checkModelPolicy (value : JsValue) : Except String Unit := do
  let modelPolicy ← record value s!"{wording.label}.modelPolicy"
  exactKeys modelPolicy ["allowed", "preferred"] s!"{wording.label}.modelPolicy"
  let allowedModels ← identifiers (member modelPolicy "allowed") s!"{wording.label}.modelPolicy.allowed"
  throwIf (64 < allowedModels.length) wording.modelCount
  unique allowedModels s!"{wording.label}.modelPolicy.allowed"
  match member modelPolicy "preferred" with
  | .null => .ok ()
  | preferred => do
    let preferred ← identifier preferred s!"{wording.label}.modelPolicy.preferred"
    throwIf (preferred ∉ allowedModels) wording.preferredModel

def IsModelPolicy (value : JsValue) : Prop :=
  ∃ modelPolicy, value = .object modelPolicy ∧ KnownKeys modelPolicy ["allowed", "preferred"] ∧
    ∃ allowedModels : List String, (member modelPolicy "allowed" = .array (allowedModels.map .string) ∧
      ∀ model ∈ allowedModels, IsIdentifier model) ∧ allowedModels.length ≤ 64 ∧ allowedModels.Nodup ∧
      (member modelPolicy "preferred" = .null ∨ ∃ preferred,
        (member modelPolicy "preferred" = .string preferred ∧ IsIdentifier preferred) ∧ preferred ∈ allowedModels)

theorem checkModelPolicy_ok : checkModelPolicy wording value = .ok done ↔ IsModelPolicy value := by
  have preference : ∀ (preferred : JsValue) (label : String) (allowedModels : List String), ((match preferred with
        | .null => Except.ok ()
        | preferred => do
          let preferred ← identifier preferred label
          throwIf (preferred ∉ allowedModels) wording.preferredModel) = .ok done) ↔
        (preferred = .null ∨ ∃ chosen, (preferred = .string chosen ∧ IsIdentifier chosen) ∧
          chosen ∈ allowedModels) := by
    intro preferred label allowedModels
    cases preferred with
    | null => simp
    | _ => simp only [bind_ok, identifier_ok, throwIf_ok, not_not, reduceCtorEq, false_or]
  simp only [checkModelPolicy, IsModelPolicy, bind_ok, record_ok, exactKeys_ok, identifiers_ok,
    throwIf_ok, unique_ok, preference, exists_const, not_lt]

end Checks

end QuarkSelfAI.CapabilityPlatform

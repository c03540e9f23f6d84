import QuarkSelfAI.CapabilityPlatform.Acyclic

/-!
# The order of a capability graph

`topologicalOrder` counts the edges into every node and drains a sorted queue of nodes without any. A node joins the
queue when its count falls to zero, which happens once, so the loop ends after as many rounds as there are nodes. It
orders exactly the graphs that `assertAcyclic` accepts.
-/

namespace QuarkSelfAI.Orchestration

open Foundation CapabilityPlatform

structure GraphNode where
  id : String
  capabilityId : String
  interfaceId : String

/-- A capability graph as the blueprint validator accepts it: distinct nodes, and edges between declared nodes. -/
structure BlueprintGraph where
  nodes : List GraphNode
  edges : List Edge
  distinct : (nodes.map GraphNode.id).Nodup
  declared : ∀ edge ∈ edges, edge.origin ∈ nodes.map GraphNode.id ∧ edge.target ∈ nodes.map GraphNode.id

namespace BlueprintGraph

variable (graph : BlueprintGraph)

def ids : List String := graph.nodes.map GraphNode.id

/-- The map `assertAcyclic` is given. -/
def adjacency : List (String × List String) := adjacencyOf graph.ids graph.edges

/-- The number of edges into every node; a `Map` in the order of the nodes. -/
def indegree : List (String × Int) :=
  graph.edges.foldl (fun indegree edge => assign indegree edge.target ((indegree.lookup edge.target).getD 0 + 1))
    (graph.nodes.map fun node => (node.id, 0))

/-- The targets of a node, in the order of the edges; a node that is not declared has none. -/
def outgoing (id : String) : List String :=
  if id ∈ graph.ids then (graph.edges.filter (·.origin = id)).map Edge.target else []

end BlueprintGraph

/-- What the loop of `topologicalOrder` changes besides the order itself. -/
structure Draining where
  indegree : List (String × Int)
  queue : List String

namespace Draining

def count (state : Draining) (id : String) : Int := (state.indegree.lookup id).getD 0

/-- One target of the node that was taken. -/
def pass (state : Draining) (target : String) : Draining :=
  let next := state.count target - 1
  ⟨assign state.indegree target next, if next = 0 then state.queue ++ [target] else state.queue⟩

def sort (state : Draining) : Draining := { state with queue := state.queue.insertionSort textOrder }

end Draining

/-- The loop, for at most `rounds` rounds. -/
def drain (outgoing : String → List String) : Nat → Draining → List String → Option (List String)
  | _, ⟨_, []⟩, ordered => some ordered
  | 0, ⟨_, _ :: _⟩, _ => none
  | rounds + 1, ⟨indegree, id :: queue⟩, ordered =>
    drain outgoing rounds ((outgoing id).foldl Draining.pass ⟨indegree, queue⟩).sort (ordered ++ [id])

/-- The state the loop starts in. -/
def BlueprintGraph.ready (graph : BlueprintGraph) : Draining where
  indegree := graph.indegree
  queue := ((graph.indegree.filter fun entry => entry.2 = 0).map Prod.fst).insertionSort textOrder

def topologicalOrder (graph : BlueprintGraph) : Except String (List String) :=
  match drain graph.outgoing graph.nodes.length graph.ready [] with
  | none => .error "the queue was not drained"
  | some ordered =>
    if ordered.length = graph.nodes.length then .ok ordered
    else .error "blueprint capability graph contains a cycle"

/-! ## Counting edges -/

section Counting

variable {graph : BlueprintGraph} {id : String}

/-- An edge leads from one node to the other. -/
def Joins (graph : BlueprintGraph) (source target : String) : Prop :=
  ∃ edge ∈ graph.edges, edge.origin = source ∧ edge.target = target

theorem Joins.declared {source target : String} (joins : Joins graph source target) :
    source ∈ graph.ids ∧ target ∈ graph.ids := by
  obtain ⟨edge, listed, rfl, rfl⟩ := joins
  exact graph.declared edge listed

theorem leads_adjacency : Leads (neighbours graph.adjacency) = Joins graph := by
  ext source target
  rw [BlueprintGraph.adjacency, leads_adjacencyOf]
  constructor
  · exact And.right
  · intro joins
    exact ⟨joins.declared.1, joins⟩

/-- The edges into a node from nodes that are not ordered yet. -/
def waiting (graph : BlueprintGraph) (ordered : List String) (id : String) : Nat :=
  graph.edges.countP fun edge => edge.target = id ∧ edge.origin ∉ ordered

theorem waiting_eq_zero_iff {ordered : List String} :
    waiting graph ordered id = 0 ↔ ∀ source, Joins graph source id → source ∈ ordered := by
  simp only [waiting, List.countP_eq_zero, decide_eq_true_eq, not_and, not_not]
  constructor
  · rintro none source ⟨edge, listed, rfl, target⟩
    exact none edge listed target
  · intro all edge listed target
    exact all _ ⟨edge, listed, rfl, target⟩

/-- The edges from a node stop waiting when it is ordered; each is a target to pass. -/
theorem waiting_snoc {ordered : List String} {node : String} (declared : node ∈ graph.ids) (fresh : node ∉ ordered) :
    waiting graph ordered id = waiting graph (ordered ++ [node]) id + (graph.outgoing node).count id := by
  rw [BlueprintGraph.outgoing, if_pos declared, waiting, waiting]
  induction graph.edges with
  | nil => rfl
  | cons edge rest ih =>
    rw [List.countP_cons, List.countP_cons, ih, List.filter_cons]
    by_cases origin : edge.origin = node
    · simp only [origin, decide_true, if_true, List.map_cons, List.count_cons]
      simp [fresh]
      omega
    · simp [origin]
      omega

theorem count_ready : graph.ready.count id = waiting graph [] id := by
  rw [BlueprintGraph.ready, Draining.count, BlueprintGraph.indegree, waiting]
  have start : ((graph.nodes.map fun node => (node.id, (0 : Int))).lookup id).getD 0 = 0 := by
    cases found : (graph.nodes.map fun node => (node.id, (0 : Int))).lookup id with
    | none => rfl
    | some count =>
      obtain ⟨node, -, same⟩ := List.mem_map.mp (lookup_mem found)
      exact (congrArg Prod.snd same).symm
  generalize graph.nodes.map (fun node => (node.id, (0 : Int))) = counts at start
  suffices counted : ∀ (edges : List Edge) (counts : List (String × Int)),
      ((edges.foldl (fun indegree edge => assign indegree edge.target ((indegree.lookup edge.target).getD 0 + 1))
        counts).lookup id).getD 0 = (counts.lookup id).getD 0 + edges.countP fun edge => edge.target = id by
    rw [counted, start]
    simp
  intro edges
  induction edges with
  | nil => simp
  | cons edge rest ih =>
    intro counts
    rw [List.foldl_cons, ih, lookup_assign, List.countP_cons]
    by_cases same : id = edge.target
    · simp only [same, if_true, Option.getD_some, decide_true]
      omega
    · simp [same, Ne.symm same]

theorem names_ready : graph.indegree.map Prod.fst = graph.ids := by
  have start : (graph.nodes.map fun node => (node.id, (0 : Int))).map Prod.fst = graph.ids := by
    rw [List.map_map]
    rfl
  have known : ∀ edge ∈ graph.edges, edge.target ∈ graph.ids := fun edge listed => (graph.declared edge listed).2
  rw [BlueprintGraph.indegree]
  generalize graph.nodes.map (fun node => (node.id, (0 : Int))) = counts at start
  generalize graph.edges = edges at known
  induction edges generalizing counts with
  | nil => exact start
  | cons edge rest ih =>
    refine ih _ ?_ fun other listed => known other (List.mem_cons_of_mem _ listed)
    beta_reduce
    rw [assign, if_pos (lookup_isSome_iff.mpr (start ▸ known edge List.mem_cons_self)), List.map_map, ← start]
    apply List.map_congr_left
    rintro ⟨name, count⟩ -
    by_cases same : name = edge.target
    · simp [same]
    · simp [same]

end Counting

/-! ## What every round keeps -/

/-- The state of the loop with some targets of the last node still to pass: a count is the number of edges still to come,
and exactly the nodes without any are queued or ordered. -/
structure Drains (graph : BlueprintGraph) (state : Draining) (ordered pending : List String) : Prop where
  counts : ∀ id, state.count id = waiting graph ordered id + pending.count id
  reached : ∀ id, id ∈ state.queue ∨ id ∈ ordered ↔ id ∈ graph.ids ∧ state.count id = 0
  distinct : (state.queue ++ ordered).Nodup
  settled : Settled (Function.swap (Joins graph)) ordered.reverse

namespace Drains

variable {graph : BlueprintGraph} {state : Draining} {ordered pending : List String} {id target : String}
  {indegree : List (String × Int)}

theorem ready (graph : BlueprintGraph) : Drains graph graph.ready [] [] where
  counts id := by rw [count_ready, List.count_nil, Nat.cast_zero, add_zero]
  reached id := by
    have keyed : (graph.indegree.map Prod.fst).Nodup := names_ready ▸ graph.distinct
    simp only [BlueprintGraph.ready, List.mem_insertionSort, List.not_mem_nil, or_false, List.mem_map, List.mem_filter,
      decide_eq_true_eq, Draining.count]
    constructor
    · rintro ⟨⟨name, count⟩, ⟨listed, zero⟩, rfl⟩
      refine ⟨names_ready ▸ List.mem_map_of_mem listed, ?_⟩
      rw [(JsValue.lookup_eq_some_iff keyed).mpr listed]
      exact zero
    · rintro ⟨declared, zero⟩
      rw [← names_ready] at declared
      obtain ⟨⟨name, count⟩, listed, rfl⟩ := List.mem_map.mp declared
      rw [(JsValue.lookup_eq_some_iff keyed).mpr listed] at zero
      exact ⟨_, ⟨listed, zero⟩, rfl⟩
  distinct := by
    have keyed : (graph.indegree.map Prod.fst).Nodup := names_ready ▸ graph.distinct
    rw [List.append_nil]
    refine (List.perm_insertionSort _ _).nodup_iff.mpr (keyed.sublist ?_)
    exact (List.filter_sublist).map _
  settled := .nil

theorem pass (drains : Drains graph state ordered (target :: pending)) (declared : target ∈ graph.ids) :
    Drains graph (state.pass target) ordered pending := by
  have counted := drains.counts target
  rw [List.count_cons_self] at counted
  have set : ∀ id, (state.pass target).count id = if id = target then state.count target - 1 else state.count id := by
    intro id
    rw [Draining.pass, Draining.count, lookup_assign]
    split <;> rfl
  have behind : ¬ (target ∈ state.queue ∨ target ∈ ordered) := by
    intro reached
    have zero := ((drains.reached target).mp reached).2
    omega
  have queue : ∀ id, id ∈ (state.pass target).queue ↔ id ∈ state.queue ∨ id = target ∧ state.count target - 1 = 0 := by
    intro id
    rw [Draining.pass]
    by_cases last : state.count target - 1 = 0
    · simp [last]
    · simp [last]
  refine ⟨?_, ?_, ?_, drains.settled⟩
  · intro id
    rw [set]
    by_cases same : id = target
    · rw [if_pos same, same]
      omega
    · have kept := drains.counts id
      rw [List.count_cons_of_ne (Ne.symm same)] at kept
      rw [if_neg same, kept]
  · intro id
    rw [set, queue]
    by_cases same : id = target
    · subst same
      rw [if_pos rfl]
      constructor
      · rintro ((queued | ⟨-, zero⟩) | taken)
        · exact absurd (.inl queued) behind
        · exact ⟨declared, zero⟩
        · exact absurd (.inr taken) behind
      · rintro ⟨-, zero⟩
        exact .inl (.inr ⟨rfl, zero⟩)
    · rw [if_neg same, ← drains.reached id]
      simp [same]
  · rw [Draining.pass]
    by_cases last : state.count target - 1 = 0
    · rw [not_or] at behind
      simp only [last, if_true]
      rw [List.append_assoc]
      refine List.perm_middle.nodup_iff.mpr (List.nodup_cons.mpr ⟨?_, drains.distinct⟩)
      rw [List.mem_append, not_or]
      exact behind
    · rw [if_neg last]
      exact drains.distinct

theorem passes (drains : Drains graph state ordered pending) (declared : ∀ target ∈ pending, target ∈ graph.ids) :
    Drains graph (pending.foldl Draining.pass state) ordered [] := by
  induction pending generalizing state with
  | nil => exact drains
  | cons target rest ih =>
    exact ih (drains.pass (declared target List.mem_cons_self)) fun other listed =>
      declared other (List.mem_cons_of_mem _ listed)

/-- Taking a node from the queue leaves its targets to pass. -/
theorem take {queue : List String} (drains : Drains graph ⟨indegree, id :: queue⟩ ordered []) :
    Drains graph ⟨indegree, queue⟩ (ordered ++ [id]) (graph.outgoing id) := by
  obtain ⟨declared, zero⟩ := (drains.reached id).mp (.inl List.mem_cons_self)
  have apart : (queue ++ (ordered ++ [id])).Perm (id :: queue ++ ordered) := by
    rw [← List.append_assoc]
    exact List.perm_append_singleton _ _
  have fresh : id ∉ ordered := fun listed => (List.nodup_cons.mp drains.distinct).1 (List.mem_append_right _ listed)
  have counted : waiting graph ordered id = 0 := by
    have counted := drains.counts id
    rw [List.count_nil] at counted
    omega
  refine ⟨?_, ?_, apart.nodup_iff.mpr drains.distinct, ?_⟩
  · intro other
    have kept := drains.counts other
    rw [List.count_nil, waiting_snoc declared fresh] at kept
    have same : Draining.count ⟨indegree, queue⟩ other = Draining.count ⟨indegree, id :: queue⟩ other := rfl
    omega
  · intro other
    refine Iff.trans ?_ (drains.reached other)
    simp only [List.mem_append, List.mem_cons, List.not_mem_nil, or_false]
    tauto
  · rw [List.reverse_append, List.reverse_singleton, List.singleton_append]
    refine .cons (fun source joins => ?_) (fun listed => fresh (List.mem_reverse.mp listed)) drains.settled
    exact List.mem_reverse.mpr (waiting_eq_zero_iff.mp counted source joins)

theorem sort (drains : Drains graph state ordered []) : Drains graph state.sort ordered [] where
  counts := drains.counts
  reached id := by
    refine Iff.trans ?_ (drains.reached id)
    rw [Draining.sort, List.mem_insertionSort]
  distinct := ((List.perm_insertionSort _ _).append_right _).nodup_iff.mpr drains.distinct
  settled := drains.settled

theorem round {queue : List String} (drains : Drains graph ⟨indegree, id :: queue⟩ ordered []) :
    Drains graph ((graph.outgoing id).foldl Draining.pass ⟨indegree, queue⟩).sort (ordered ++ [id]) [] := by
  refine (drains.take.passes fun target listed => ?_).sort
  rw [BlueprintGraph.outgoing] at listed
  split at listed
  · obtain ⟨edge, inFilter, rfl⟩ := List.mem_map.mp listed
    exact (graph.declared edge (List.mem_of_mem_filter inFilter)).2
  · cases listed

theorem length_le (drains : Drains graph state ordered pending) :
    state.queue.length + ordered.length ≤ graph.nodes.length := by
  have known : state.queue ++ ordered ⊆ graph.ids := fun id listed =>
    ((drains.reached id).mp (List.mem_append.mp listed)).1
  have short := (drains.distinct.subperm known).length_le
  rwa [List.length_append, BlueprintGraph.ids, List.length_map] at short

/-- The loop ends with an empty queue. -/
theorem drain (drains : Drains graph state ordered []) {rounds : Nat}
    (enough : graph.nodes.length ≤ rounds + ordered.length) :
    ∃ last final, Orchestration.drain graph.outgoing rounds state ordered = some final ∧ last.queue = [] ∧
      Drains graph last final [] := by
  induction rounds generalizing state ordered with
  | zero =>
    obtain ⟨indegree, _ | ⟨id, queue⟩⟩ := state
    · exact ⟨⟨indegree, []⟩, ordered, rfl, rfl, drains⟩
    · have short := drains.length_le
      rw [List.length_cons] at short
      omega
  | succ rounds ih =>
    obtain ⟨indegree, _ | ⟨id, queue⟩⟩ := state
    · exact ⟨⟨indegree, []⟩, ordered, rfl, rfl, drains⟩
    · refine ih drains.round ?_
      rw [List.length_append, List.length_singleton]
      omega

/-- At the end every node is ordered exactly when the graph has no cycle. -/
theorem complete_iff (drains : Drains graph state ordered []) (empty : state.queue = []) :
    ordered.length = graph.nodes.length ↔ Acyclic (Joins graph) := by
  have distinct : ordered.Nodup := by simpa [empty] using drains.distinct
  have known : ordered ⊆ graph.ids := fun id listed => ((drains.reached id).mp (.inr listed)).1
  have size : graph.ids.length = graph.nodes.length := List.length_map _
  constructor
  · intro complete
    have all : ordered.Perm graph.ids := (distinct.subperm known).perm_of_length_le (by omega)
    refine acyclic_swap.mp (drains.settled.acyclic fun target source joins => ?_)
    exact List.mem_reverse.mpr (all.mem_iff.mpr joins.declared.2)
  · intro acyclic
    suffices all : graph.ids ⊆ ordered by
      have long : graph.ids.length ≤ ordered.length := (graph.distinct.subperm all).length_le
      have short : ordered.length ≤ graph.ids.length := (distinct.subperm known).length_le
      omega
    by_contra left
    obtain ⟨other, declared, behind⟩ : ∃ id ∈ graph.ids, id ∉ ordered := by
      simpa [List.subset_def] using left
    -- a node without a predecessor among those left has no edge to wait for
    have some : graph.ids.filter (· ∉ ordered) ≠ [] :=
      List.ne_nil_of_mem (List.mem_filter.mpr ⟨declared, by simpa using behind⟩)
    obtain ⟨first, listed, least⟩ := acyclic.exists_first some
    obtain ⟨inGraph, unordered⟩ : first ∈ graph.ids ∧ first ∉ ordered := by simpa using listed
    have waits : waiting graph ordered first = 0 := by
      refine waiting_eq_zero_iff.mpr fun source joins => ?_
      by_contra late
      exact least source (List.mem_filter.mpr ⟨joins.declared.1, by simpa using late⟩) joins
    have zero : state.count first = 0 := by
      rw [drains.counts, waits]
      rfl
    rcases (drains.reached first).mpr ⟨inGraph, zero⟩ with queued | taken
    · rw [empty] at queued
      cases queued
    · exact unordered taken

end Drains

/-! ## The order -/

section Order

variable {graph : BlueprintGraph} {ordered : List String}

theorem topologicalOrder_spec (graph : BlueprintGraph) : ∃ last final, last.queue = [] ∧ Drains graph last final [] ∧
    topologicalOrder graph =
      if final.length = graph.nodes.length then .ok final
      else .error "blueprint capability graph contains a cycle" := by
  obtain ⟨last, final, drained, empty, drains⟩ := (Drains.ready graph).drain (Nat.le_refl _)
  exact ⟨last, final, empty, drains, by rw [topologicalOrder, drained]⟩

/-- It returns exactly for the graphs without a cycle. -/
theorem topologicalOrder_returns : (∃ ordered, topologicalOrder graph = .ok ordered) ↔ Acyclic (Joins graph) := by
  obtain ⟨last, final, empty, drains, computed⟩ := topologicalOrder_spec graph
  rw [← drains.complete_iff empty, computed]
  split <;> simp [*]

theorem topologicalOrder_throws :
    topologicalOrder graph = .error "blueprint capability graph contains a cycle" ↔ ¬ Acyclic (Joins graph) := by
  obtain ⟨last, final, empty, drains, computed⟩ := topologicalOrder_spec graph
  rw [← drains.complete_iff empty, computed]
  split <;> simp [*]

theorem topologicalOrder_perm (returned : topologicalOrder graph = .ok ordered) : ordered.Perm graph.ids := by
  obtain ⟨last, final, empty, drains, computed⟩ := topologicalOrder_spec graph
  rw [computed] at returned
  split at returned
  · rename_i complete
    cases returned
    have distinct : ordered.Nodup := by simpa [empty] using drains.distinct
    have known : ordered ⊆ graph.ids := fun id listed => ((drains.reached id).mp (.inr listed)).1
    refine (distinct.subperm known).perm_of_length_le ?_
    rw [BlueprintGraph.ids, List.length_map, complete]
  · cases returned

theorem topologicalOrder_sorted (returned : topologicalOrder graph = .ok ordered) {source target : String}
    (joins : Joins graph source target) : ordered.idxOf source < ordered.idxOf target := by
  have listed : target ∈ ordered := (topologicalOrder_perm returned).mem_iff.mpr joins.declared.2
  obtain ⟨last, final, empty, drains, computed⟩ := topologicalOrder_spec graph
  rw [computed] at returned
  split at returned
  · cases returned
    exact drains.settled.idxOf_lt listed joins
  · cases returned

/-- The two checks agree, and the order has every node once and the source of every edge before its target. -/
theorem assertAcyclic_topologicalOrder (graph : BlueprintGraph) (message : String) :
    (assertAcyclic graph.adjacency message = .ok () ↔ ∃ ordered, topologicalOrder graph = .ok ordered) ∧
      (assertAcyclic graph.adjacency message = .error message ↔
        topologicalOrder graph = .error "blueprint capability graph contains a cycle") ∧
      ∀ ordered, topologicalOrder graph = .ok ordered → ordered.Perm (graph.nodes.map GraphNode.id) ∧
        ∀ edge ∈ graph.edges, ordered.idxOf edge.origin < ordered.idxOf edge.target := by
  refine ⟨?_, ?_, fun ordered returned => ⟨topologicalOrder_perm returned, fun edge listed => ?_⟩⟩
  · rw [assertAcyclic_ok, leads_adjacency, topologicalOrder_returns]
  · rw [assertAcyclic_error, leads_adjacency, topologicalOrder_throws]
  · exact topologicalOrder_sorted returned ⟨edge, listed, rfl, rfl⟩

end Order

end QuarkSelfAI.Orchestration

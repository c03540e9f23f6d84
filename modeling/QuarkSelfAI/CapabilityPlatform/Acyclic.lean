import QuarkSelfAI.CapabilityPlatform.Program
import QuarkSelfAI.Foundation.Digraph

/-!
# Graphs without a cycle

`assertAcyclic` finishes a node after everything it leads to, so the nodes it has visited are settled, and it refuses
exactly the adjacency maps with a cycle. The recursion is never deeper than the map has entries.
-/

namespace QuarkSelfAI.CapabilityPlatform

open Foundation

variable {next : String → List String} {message : String} {depth : Nat} {visiting visited after nodes : List String}
  {node : String} {search : List String → String → Except String (List String)}

/-- The second node is a neighbour of the first. -/
def Leads (next : String → List String) (node target : String) : Prop := target ∈ next node

/-! ## What a search leaves -/

/-- What the search of `visited` under the nodes `visiting` has become. -/
structure Visits (next : String → List String) (visiting visited after : List String) : Prop where
  settled : Settled (Leads next) after
  kept : visited ⊆ after
  outside : ∀ node ∈ after, node ∈ visited ∨ node ∉ visiting

theorem Visits.refl (settled : Settled (Leads next) visited) : Visits next visiting visited visited :=
  ⟨settled, List.Subset.refl _, fun _ listed => .inl listed⟩

theorem Visits.trans {middle : List String} (first : Visits next visiting visited middle)
    (second : Visits next visiting middle after) : Visits next visiting visited after where
  settled := second.settled
  kept := List.Subset.trans first.kept second.kept
  outside node listed := (second.outside node listed).elim (first.outside node) .inr

/-- Searching from several nodes in turn, where searching from one visits it. -/
theorem foldlM_visits {targets : List String}
    (each : ∀ {visited after target}, Settled (Leads next) visited → search visited target = .ok after →
      Visits next visiting visited after ∧ target ∈ after)
    (settled : Settled (Leads next) visited) (done : targets.foldlM search visited = .ok after) :
    Visits next visiting visited after ∧ targets ⊆ after := by
  induction targets generalizing visited with
  | nil =>
    obtain rfl : visited = after := by simpa [pure, Except.pure] using done
    exact ⟨.refl settled, List.nil_subset _⟩
  | cons target rest ih =>
    rw [List.foldlM_cons, bind_ok] at done
    obtain ⟨middle, found, done⟩ := done
    obtain ⟨first, reached⟩ := each settled found
    obtain ⟨second, others⟩ := ih first.settled done
    exact ⟨first.trans second, List.cons_subset.mpr ⟨second.kept reached, others⟩⟩

theorem visit_visits (settled : Settled (Leads next) visited)
    (done : visit next message depth visiting visited node = .ok after) :
    Visits next visiting visited after ∧ node ∈ after := by
  induction depth generalizing visiting visited node after with
  | zero => cases done
  | succ depth ih =>
    rw [visit] at done
    by_cases inPath : node ∈ visiting
    · rw [if_pos inPath] at done
      cases done
    rw [if_neg inPath] at done
    by_cases seen : node ∈ visited
    · rw [if_pos seen] at done
      cases done
      exact ⟨.refl settled, seen⟩
    rw [if_neg seen, bind_ok] at done
    obtain ⟨middle, searched, done⟩ := done
    cases done
    obtain ⟨visits, below⟩ := foldlM_visits (fun settled found => ih settled found) settled searched
    have fresh : node ∉ middle := fun listed => (visits.outside node listed).elim seen fun outside =>
      outside List.mem_cons_self
    refine ⟨⟨.cons below fresh visits.settled, ?_, ?_⟩, List.mem_cons_self⟩
    · exact List.subset_cons_of_subset _ visits.kept
    · intro other listed
      rcases List.mem_cons.mp listed with rfl | earlier
      · exact .inr inPath
      · exact (visits.outside other earlier).imp_right fun outside inPath => outside (List.mem_cons_of_mem _ inPath)

/-! ## How a search ends -/

/-- The search succeeds, or it refuses with its own message, which it never does without a cycle. -/
def Ends (next : String → List String) (message : String) (outcome : Except String (List String)) : Prop :=
  (∃ after, outcome = .ok after) ∨ outcome = .error message ∧ ¬ Acyclic (Leads next)

theorem foldlM_ends {targets : List String}
    (each : ∀ target ∈ targets, ∀ visited, Ends next message (search visited target)) :
    Ends next message (targets.foldlM search visited) := by
  induction targets generalizing visited with
  | nil => exact .inl ⟨visited, rfl⟩
  | cons target rest ih =>
    rw [List.foldlM_cons]
    rcases each target List.mem_cons_self visited with ⟨middle, found⟩ | ⟨refused, cyclic⟩
    · rw [found]
      exact ih fun other listed => each other (List.mem_cons_of_mem _ listed)
    · rw [refused]
      exact .inr ⟨rfl, cyclic⟩

/-- The nodes on the path are distinct nodes with a neighbour, so the depth suffices. -/
theorem visit_ends (covers : ∀ node target, Leads next node target → node ∈ nodes)
    (path : ∀ before ∈ visiting, Relation.TransGen (Leads next) before node) (distinct : visiting.Nodup)
    (known : visiting ⊆ nodes) (deep : nodes.length < visiting.length + depth) :
    Ends next message (visit next message depth visiting visited node) := by
  induction depth generalizing visiting visited node with
  | zero =>
    have short : visiting.length ≤ nodes.length := (distinct.subperm known).length_le
    omega
  | succ depth ih =>
    rw [visit]
    by_cases inPath : node ∈ visiting
    · rw [if_pos inPath]
      exact .inr ⟨rfl, fun acyclic => acyclic node (path node inPath)⟩
    rw [if_neg inPath]
    by_cases seen : node ∈ visited
    · exact .inl ⟨visited, if_pos seen⟩
    rw [if_neg seen]
    have searched : Ends next message ((next node).foldlM
        (fun visited target => visit next message depth (node :: visiting) visited target) visited) := by
      apply foldlM_ends
      intro target listed visited
      apply ih
      · intro before inPath
        rcases List.mem_cons.mp inPath with rfl | earlier
        · exact .single listed
        · exact (path before earlier).tail listed
      · exact List.nodup_cons.mpr ⟨inPath, distinct⟩
      · exact List.cons_subset.mpr ⟨covers node target listed, known⟩
      · rw [List.length_cons]
        omega
    rcases searched with ⟨middle, found⟩ | ⟨refused, cyclic⟩
    · exact .inl ⟨node :: middle, by rw [found]; rfl⟩
    · exact .inr ⟨by rw [refused]; rfl, cyclic⟩

/-! ## The check -/

variable {adjacency : List (String × List String)}

theorem mem_keys_of_leads {target : String} (step : Leads (neighbours adjacency) node target) :
    node ∈ adjacency.map Prod.fst := by
  rw [Leads, neighbours] at step
  cases found : adjacency.lookup node with
  | none => simp [found] at step
  | some targets =>
    obtain ⟨before, after, rfl, -⟩ := List.lookup_eq_some_iff.mp found
    simp

theorem assertAcyclic_ends : assertAcyclic adjacency message = .ok () ∨
    assertAcyclic adjacency message = .error message ∧ ¬ Acyclic (Leads (neighbours adjacency)) := by
  have searched : Ends (neighbours adjacency) message ((adjacency.map Prod.fst).foldlM
      (fun visited node => visit (neighbours adjacency) message (adjacency.length + 1) [] visited node) []) := by
    apply foldlM_ends
    intro node _ visited
    exact visit_ends (fun _ _ => mem_keys_of_leads) nofun List.nodup_nil (List.nil_subset _) (by simp)
  rw [assertAcyclic]
  rcases searched with ⟨visited, found⟩ | ⟨refused, cyclic⟩
  · exact .inl (by rw [found]; rfl)
  · exact .inr ⟨by rw [refused]; rfl, cyclic⟩

/-- `assertAcyclic` accepts exactly the adjacency maps without a cycle. -/
theorem assertAcyclic_ok : assertAcyclic adjacency message = .ok () ↔ Acyclic (Leads (neighbours adjacency)) := by
  constructor
  · intro accepted
    rw [assertAcyclic, bind_ok] at accepted
    obtain ⟨visited, searched, -⟩ := accepted
    obtain ⟨visits, all⟩ := foldlM_visits (fun settled found => visit_visits settled found) .nil searched
    exact visits.settled.acyclic fun node target step => all (mem_keys_of_leads step)
  · intro acyclic
    exact assertAcyclic_ends.resolve_right fun refused => refused.2 acyclic

/-- Every other map is refused with the message. -/
theorem assertAcyclic_error :
    assertAcyclic adjacency message = .error message ↔ ¬ Acyclic (Leads (neighbours adjacency)) := by
  rw [← assertAcyclic_ok]
  constructor
  · intro refused accepted
    rw [accepted] at refused
    cases refused
  · intro refused
    exact (assertAcyclic_ends.resolve_left refused).1

/-- The adjacency map of a graph leads along the edges from its nodes. -/
theorem leads_adjacencyOf {edges : List Edge} {target : String} :
    Leads (neighbours (adjacencyOf nodes edges)) node target ↔
      node ∈ nodes ∧ ∃ edge ∈ edges, edge.origin = node ∧ edge.target = target := by
  rw [Leads, neighbours, adjacencyOf]
  by_cases listed : node ∈ nodes
  · have found : (nodes.map fun node => (node, (edges.filter (·.origin = node)).map Edge.target)).lookup node =
        some ((edges.filter (·.origin = node)).map Edge.target) := by
      clear * - listed
      induction nodes with
      | nil => cases listed
      | cons first rest ih =>
        rw [List.map_cons, List.lookup_cons]
        by_cases same : node = first
        · subst same
          simp
        · have other : (node == first) = false := by simpa using same
          rw [other]
          exact ih ((List.mem_cons.mp listed).resolve_left same)
    rw [found]
    simp [listed, and_assoc]
  · have missing : (nodes.map fun node => (node, (edges.filter (·.origin = node)).map Edge.target)).lookup node =
        none := by
      rw [List.lookup_eq_none_iff]
      intro entry inMap
      obtain ⟨other, inNodes, rfl⟩ := List.mem_map.mp inMap
      have different : node ≠ other := fun same => listed (same ▸ inNodes)
      simpa using different
    rw [missing]
    simp [listed]

end QuarkSelfAI.CapabilityPlatform

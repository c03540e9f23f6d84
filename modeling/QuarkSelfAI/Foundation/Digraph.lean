import Mathlib.Data.List.Nodup
import Mathlib.Logic.Relation
import Mathlib.Order.WellFoundedSet

/-!
# Cycles and orders of a directed graph

A relation is acyclic when no node leads back to itself. `Settled` lists distinct nodes, each above everything it leads
to, as a depth-first search finishes them; a list that settles every node with a successor rules out cycles. Read
backwards under the swapped relation it puts the source of every edge before its target.
-/

namespace QuarkSelfAI.Foundation

universe u

variable {α : Type u} {edge : α → α → Prop} {nodes : List α} {node next : α}

/-- No node leads back to itself. -/
def Acyclic (edge : α → α → Prop) : Prop := ∀ node, ¬ Relation.TransGen edge node node

theorem acyclic_swap : Acyclic (Function.swap edge) ↔ Acyclic edge := by
  simp only [Acyclic, Relation.transGen_swap]

/-- Among finitely many nodes without a cycle one has no predecessor. -/
theorem Acyclic.exists_first (acyclic : Acyclic edge) (listed : nodes ≠ []) :
    ∃ node ∈ nodes, ∀ before ∈ nodes, ¬ edge before node := by
  have : IsStrictOrder α (Relation.TransGen edge) :=
    { irrefl := acyclic, trans := fun _ _ _ => Relation.TransGen.trans }
  have founded : {node | node ∈ nodes}.WellFoundedOn (Relation.TransGen edge) := (List.finite_toSet nodes).wellFoundedOn
  obtain ⟨some, inList⟩ := List.exists_mem_of_ne_nil nodes listed
  obtain ⟨⟨first, inFirst⟩, -, least⟩ := WellFounded.has_min founded Set.univ ⟨⟨some, inList⟩, trivial⟩
  refine ⟨first, inFirst, ?_⟩
  intro before inBefore step
  exact least ⟨before, inBefore⟩ trivial (.single step)

/-- Distinct nodes, each above everything it leads to. -/
inductive Settled (edge : α → α → Prop) : List α → Prop
  | nil : Settled edge []
  | cons {node : α} {rest : List α} (below : ∀ next, edge node next → next ∈ rest) (fresh : node ∉ rest)
    (settled : Settled edge rest) : Settled edge (node :: rest)

namespace Settled

theorem next_mem (settled : Settled edge nodes) (listed : node ∈ nodes) (step : edge node next) : next ∈ nodes := by
  induction settled with
  | nil => cases listed
  | cons below _ _ ih =>
    refine List.mem_cons_of_mem _ ?_
    rcases List.mem_cons.mp listed with rfl | behind
    · exact below next step
    · exact ih behind

theorem reach (settled : Settled edge nodes) (listed : node ∈ nodes) (path : Relation.TransGen edge node next) :
    next ∈ nodes := by
  induction path with
  | single step => exact settled.next_mem listed step
  | tail _ step ih => exact settled.next_mem ih step

theorem irreflexive (settled : Settled edge nodes) (listed : node ∈ nodes) : ¬ Relation.TransGen edge node node := by
  intro cycle
  induction settled with
  | nil => cases listed
  | cons below fresh settled ih =>
    rcases List.mem_cons.mp listed with rfl | behind
    · obtain ⟨next, step, back⟩ := Relation.TransGen.head'_iff.mp cycle
      rcases Relation.reflTransGen_iff_eq_or_transGen.mp back with rfl | path
      · exact fresh (below _ step)
      · exact fresh (settled.reach (below next step) path)
    · exact ih behind

/-- A list that settles every node with a successor rules out cycles. -/
theorem acyclic (settled : Settled edge nodes) (covers : ∀ node next, edge node next → node ∈ nodes) :
    Acyclic edge := by
  intro node cycle
  obtain ⟨next, step, -⟩ := Relation.TransGen.head'_iff.mp cycle
  exact settled.irreflexive (covers node next step) cycle

/-- Read backwards, the source of every edge comes before its target. -/
theorem idxOf_lt [DecidableEq α] (settled : Settled (Function.swap edge) nodes.reverse) (listed : next ∈ nodes)
    (step : edge node next) : nodes.idxOf node < nodes.idxOf next := by
  induction nodes using List.reverseRecOn with
  | nil => cases listed
  | append_singleton before last ih =>
    rw [List.reverse_append, List.reverse_singleton, List.singleton_append] at settled
    obtain _ | ⟨below, fresh, settled⟩ := settled
    rw [List.mem_reverse] at fresh
    rcases List.mem_append.mp listed with earlier | final
    · have origin : node ∈ before := List.mem_reverse.mp (settled.next_mem (List.mem_reverse.mpr earlier) step)
      rw [List.idxOf_append_of_mem origin, List.idxOf_append_of_mem earlier]
      exact ih settled earlier
    · obtain rfl := List.mem_singleton.mp final
      have origin : node ∈ before := List.mem_reverse.mp (below node step)
      rw [List.idxOf_append_of_mem origin, List.idxOf_append_of_notMem fresh]
      exact Nat.lt_add_right _ (List.idxOf_lt_length_iff.mpr origin)

end Settled

end QuarkSelfAI.Foundation

import Mathlib.Data.List.Sort

/-!
# Stable sorting under a preorder

A comparison may call distinct items equal. Sorting then keeps such items in the order they come in, so two
arrangements of the same items are sorted alike exactly when no two items that tie come in different orders.
-/

namespace QuarkSelfAI.Foundation

universe u

variable {α : Type u} {items : List α} {one other : α}

/-! ## Which of two items comes first -/

theorem pair_sublist_or (listed : one ∈ items) (found : other ∈ items)
    (different : one ≠ other) : [one, other].Sublist items ∨ [other, one].Sublist items := by
  obtain ⟨before, after, rfl⟩ := List.append_of_mem listed
  rcases List.mem_append.mp found with earlier | later
  · refine .inr ?_
    exact (List.singleton_sublist.mpr earlier).append (List.singleton_sublist.mpr List.mem_cons_self)
  · rcases List.mem_cons.mp later with same | behind
    · exact absurd same.symm different
    · refine .inl (List.sublist_append_of_sublist_right ?_)
      exact (List.singleton_sublist.mpr behind).cons_cons one

theorem pair_sublist_asymm (distinct : items.Nodup)
    (forward : [one, other].Sublist items) : ¬ [other, one].Sublist items := by
  induction items with
  | nil => cases forward
  | cons first rest ih =>
    obtain ⟨fresh, distinct⟩ := List.nodup_cons.mp distinct
    intro backward
    cases forward with
    | cons _ behind =>
      cases backward with
      | cons _ back => exact ih distinct behind back
      | cons_cons _ _ => exact fresh (behind.subset (by simp))
    | cons_cons _ behind =>
      cases backward with
      | cons _ back | cons_cons _ back => exact fresh (back.subset (by simp))

/-! ## Sorting -/

variable {precedes : α → α → Prop} [DecidableRel precedes]

/-- Items that tie are in the order they came in. -/
theorem tied_of_sorted (distinct : items.Nodup) (back : precedes other one)
    (sorted : [one, other].Sublist (items.insertionSort precedes)) : [one, other].Sublist items := by
  have nodup : (items.insertionSort precedes).Nodup := (List.perm_insertionSort _ _).nodup_iff.mpr distinct
  have listed : ∀ item ∈ [one, other], item ∈ items := fun item inPair =>
    (List.mem_insertionSort precedes).mp (sorted.subset inPair)
  have different : one ≠ other := by
    have apart := nodup.sublist sorted
    simpa using apart
  rcases pair_sublist_or (listed one (by simp)) (listed other (by simp)) different with first | second
  · exact first
  · exact absurd (List.pair_sublist_insertionSort back second) (pair_sublist_asymm nodup sorted)

/-- Two arrangements of the same items are sorted alike exactly when items that tie come in one order. -/
theorem insertionSort_eq_iff [Std.Total precedes] [IsTrans α precedes] {left right : List α} (perm : left.Perm right)
    (distinct : left.Nodup) : left.insertionSort precedes = right.insertionSort precedes ↔
      ∀ one other, precedes one other → precedes other one →
        ([one, other].Sublist left ↔ [one, other].Sublist right) := by
  have distinct' : right.Nodup := perm.nodup_iff.mp distinct
  constructor
  · intro same one other tie back
    constructor
    · intro first
      exact tied_of_sorted distinct' back (same ▸ List.pair_sublist_insertionSort tie first)
    · intro first
      exact tied_of_sorted distinct back (same ▸ List.pair_sublist_insertionSort tie first)
  · intro alike
    have ordered : ∀ {items : List α}, items.Nodup → (∀ one other, precedes one other → precedes other one →
          [one, other].Sublist items → [one, other].Sublist left) →
        (items.insertionSort precedes).Pairwise fun one other =>
          precedes one other ∧ (precedes other one → [one, other].Sublist left) := by
      intro items distinct moved
      refine List.pairwise_iff_forall_sublist.mpr fun {one other} sorted => ?_
      have tie := List.pairwise_iff_forall_sublist.mp (List.pairwise_insertionSort precedes items) sorted
      exact ⟨tie, fun back => moved one other tie back (tied_of_sorted distinct back sorted)⟩
    refine List.Perm.eq_of_pairwise ?_ (ordered distinct fun _ _ _ _ first => first)
      (ordered distinct' fun one other tie back => (alike one other tie back).mpr) ?_
    · rintro one other - - ⟨tie, first⟩ ⟨back, second⟩
      exact absurd (second tie) (pair_sublist_asymm distinct (first back))
    · exact (List.perm_insertionSort _ _).trans (perm.trans (List.perm_insertionSort _ _).symm)

end QuarkSelfAI.Foundation

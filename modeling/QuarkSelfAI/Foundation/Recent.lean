import Mathlib.Data.List.Sort

/-!
# The most recent entries of a list

Entries that carry a time, sorted with the latest one first and cut to a limit. An entry
that is not seen has more entries than the limit as late as itself.
-/

namespace QuarkSelfAI.Foundation

variable {α Time : Type*} [LinearOrder Time] {time : α → Time}

section Sorted

variable [DecidableRel fun left right : α => time right ≤ time left]

theorem latest_pairwise (list : List α) :
    (list.insertionSort fun left right => time right ≤ time left).Pairwise fun left right =>
      time right ≤ time left := by
  have total : Std.Total fun left right : α => time right ≤ time left :=
    ⟨fun left right => le_total (time right) (time left)⟩
  have transitive : IsTrans α fun left right => time right ≤ time left := ⟨fun _ _ _ first second => second.trans first⟩
  exact List.pairwise_insertionSort _ list

/-- An entry that is not seen has more entries than the limit as late as itself. -/
theorem countP_of_not_recent {list : List α} {entry : α} {limit : Nat} (listed : entry ∈ list)
    (missing : entry ∉ (list.insertionSort fun left right => time right ≤ time left).take limit) :
    limit < list.countP fun other => time entry ≤ time other := by
  have sorted : (list.insertionSort fun left right => time right ≤ time left).Pairwise fun left right =>
      time right ≤ time left := latest_pairwise list
  rw [← (List.perm_insertionSort (fun left right => time right ≤ time left) list).countP_eq]
  have somewhere := (List.mem_insertionSort fun left right => time right ≤ time left).mpr listed
  generalize list.insertionSort (fun left right => time right ≤ time left) = ordered at *
  rw [← List.take_append_drop limit ordered, List.pairwise_append] at sorted
  rw [← List.take_append_drop limit ordered, List.mem_append] at somewhere
  have dropped := somewhere.resolve_left missing
  have full : (ordered.take limit).length = limit := by
    have rest := List.length_pos_of_mem dropped
    rw [List.length_drop] at rest
    rw [List.length_take]
    omega
  have before : (ordered.take limit).countP (fun other => time entry ≤ time other) = limit := by
    rw [List.countP_eq_length.mpr, full]
    intro other taken
    exact decide_eq_true (sorted.2.2 other taken entry dropped)
  have own : 0 < (ordered.drop limit).countP fun other => time entry ≤ time other :=
    List.countP_pos_iff.mpr ⟨entry, dropped, decide_eq_true (le_refl _)⟩
  rw [← List.take_append_drop limit ordered, List.countP_append, before]
  omega

end Sorted

end QuarkSelfAI.Foundation

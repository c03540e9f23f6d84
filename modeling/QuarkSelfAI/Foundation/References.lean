import Mathlib.Data.List.Nodup

/-!
# Queues of references

A queue holds references to items, each of them once. Taking an entry out by its index, or cutting
off the first entries, is the same as leaving those references out.
-/

namespace QuarkSelfAI.Foundation

universe u

section Seek

variable {Item : Type u} {wanted : Item → Bool} {items : List Item}

/-- The first entry from an index on whose item is wanted, with its index. -/
def seek (wanted : Item → Bool) (items : List Item) : Nat → List Nat → Option (Nat × Nat)
  | _, [] => none
  | index, ref :: rest => if items[ref]?.any wanted then some (index, ref) else seek wanted items (index + 1) rest

theorem seek_placed {refs : List Nat} {start index ref : Nat} (found : seek wanted items start refs = some (index, ref)) :
    start ≤ index ∧ refs[index - start]? = some ref := by
  induction refs generalizing start with
  | nil => cases found
  | cons first rest ih =>
    rw [seek] at found
    split at found
    · cases found
      simp
    · obtain ⟨le, placed⟩ := ih found
      refine ⟨Nat.le_of_succ_le le, ?_⟩
      rw [show index - start = index - (start + 1) + 1 by omega, List.getElem?_cons_succ, placed]

theorem seek_wanted {refs : List Nat} {start index ref : Nat} (found : seek wanted items start refs = some (index, ref)) :
    ∃ item, items[ref]? = some item ∧ wanted item = true := by
  induction refs generalizing start with
  | nil => cases found
  | cons first rest ih =>
    rw [seek] at found
    split at found
    · rename_i wanted_first
      cases found
      exact (Option.any_eq_true _ _).mp wanted_first
    · exact ih found

end Seek

variable {Reference : Type u} [DecidableEq Reference] {queue : List Reference} {reference : Reference} {index : Nat}

/-- Taking out what stands at an index leaves out the reference that stands there. -/
theorem eraseIdx_eq_filter (nodup : queue.Nodup) (placed : queue[index]? = some reference) :
    queue.eraseIdx index = queue.filter (· ≠ reference) := by
  obtain ⟨bound, here⟩ := List.getElem?_eq_some_iff.mp placed
  have erased := nodup.erase_getElem index bound
  rw [here, nodup.erase_eq_filter] at erased
  calc queue.eraseIdx index
      = queue.filter fun other => other != reference := erased.symm
    _ = queue.filter (· ≠ reference) := List.filter_congr fun other _ => by simp [bne, beq_eq_decide]

/-- Cutting the first entries off leaves out the references that they are. -/
theorem drop_eq_filter (nodup : queue.Nodup) (count : Nat) :
    queue.drop count = queue.filter (· ∉ queue.take count) := by
  have apart : ∀ reference ∈ queue.drop count, reference ∉ queue.take count := by
    rw [← List.take_append_drop count queue, List.nodup_append] at nodup
    exact fun reference late early => nodup.2.2 reference early reference late rfl
  calc queue.drop count
      = (queue.drop count).filter (· ∉ queue.take count) := by
        rw [List.filter_eq_self.mpr]
        simpa using apart
    _ = (queue.take count).filter (· ∉ queue.take count) ++ (queue.drop count).filter (· ∉ queue.take count) := by
        have none_early : (queue.take count).filter (· ∉ queue.take count) = [] := by
          rw [List.filter_eq_nil_iff]
          simp
        rw [none_early, List.nil_append]
    _ = queue.filter (· ∉ queue.take count) := by
        rw [← List.filter_append, List.take_append_drop]

end QuarkSelfAI.Foundation

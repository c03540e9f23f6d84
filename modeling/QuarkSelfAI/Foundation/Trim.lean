import Mathlib.Data.List.TakeWhile
import QuarkSelfAI.Foundation.Text

/-!
# Trimmed texts

What `trim` leaves of a list of characters or code units: no white space at either end.
-/

namespace QuarkSelfAI.Foundation

section

variable {α : Type*} {space : α → Bool} {text : List α}

def trimmed (space : α → Bool) (text : List α) : List α := ((text.dropWhile space).reverse.dropWhile space).reverse

/-- No white space stands at either end. -/
structure IsTrimmed (space : α → Bool) (text : List α) : Prop where
  first : ∀ char ∈ text.head?, space char = false
  last : ∀ char ∈ text.getLast?, space char = false

theorem dropWhile_head (text : List α) : ∀ char ∈ (text.dropWhile space).head?, space char = false := by
  intro char head
  have found := List.head?_dropWhile_not space text
  rwa [Option.mem_def.mp head] at found

theorem dropWhile_of_head (head : ∀ char ∈ text.head?, space char = false) : text.dropWhile space = text := by
  cases text with
  | nil => rfl
  | cons char rest => exact List.dropWhile_cons_of_neg (by simp [head char rfl])

theorem trimmed_start (text : List α) : trimmed space text <+: text.dropWhile space := by
  rw [trimmed, ← List.reverse_suffix, List.reverse_reverse]
  exact List.dropWhile_suffix space

theorem isTrimmed_trimmed (text : List α) : IsTrimmed space (trimmed space text) where
  first := by
    intro char head
    refine dropWhile_head text char ?_
    obtain ⟨rest, whole⟩ : trimmed space text <+: text.dropWhile space := trimmed_start text
    rw [← whole, List.head?_append, Option.mem_def.mp head]
    rfl
  last := by
    intro char last
    rw [trimmed, List.getLast?_reverse] at last
    exact dropWhile_head _ char last

theorem IsTrimmed.trimmed_eq (ends : IsTrimmed space text) : trimmed space text = text := by
  rw [trimmed, dropWhile_of_head ends.first, dropWhile_of_head, List.reverse_reverse]
  rw [List.head?_reverse]
  exact ends.last

theorem length_trimmed_le (text : List α) : (trimmed space text).length ≤ text.length :=
  (trimmed_start text).length_le.trans (List.dropWhile_suffix space).length_le

theorem trimmed_space_append {front : List α} (blank : ∀ char ∈ front, space char = true) (text : List α) :
    trimmed space (front ++ text) = trimmed space text := by
  rw [trimmed, List.dropWhile_append_of_pos blank]
  rfl

/-- A text whose end is trimmed and not empty loses its white space in front only. -/
theorem trimmed_append {ending : List α} (front : List α) (ends : IsTrimmed space ending) (some : ending ≠ []) :
    trimmed space (front ++ ending) = front.dropWhile space ++ ending := by
  have whole : (front ++ ending).dropWhile space = front.dropWhile space ++ ending := by
    rw [List.dropWhile_append]
    split
    · rename_i blank
      rw [dropWhile_of_head ends.first, List.isEmpty_iff.mp blank, List.nil_append]
    · rfl
  rw [trimmed, whole, dropWhile_of_head, List.reverse_reverse]
  rw [List.head?_reverse, List.getLast?_append_of_ne_nil _ some]
  exact ends.last

theorem trimmed_eq_nil : trimmed space text = [] ↔ ∀ char ∈ text, space char = true := by
  constructor
  · intro none
    rw [trimmed, List.reverse_eq_nil_iff] at none
    have rest := List.dropWhile_eq_nil_iff.mp none
    by_contra visible
    cases found : text.dropWhile space with
    | nil => exact visible (List.dropWhile_eq_nil_iff.mp found)
    | cons char others =>
      have blank := rest char (by simp [found])
      have visible : space char = false := dropWhile_head text char (by simp [found])
      rw [visible] at blank
      cases blank
  · intro blank
    rw [trimmed, List.dropWhile_eq_nil_iff.mpr blank]
    rfl

end

theorem toList_trim (text : String) : (trim text).toList = trimmed isSpace text.toList := String.toList_ofList

end QuarkSelfAI.Foundation

import Mathlib.Data.List.Forall2
import QuarkSelfAI.Foundation.Table

/-!
# Checks that throw

A validator reads a value and throws at the first thing it refuses. What it accepts
is said by one relation for each check, and a loop of checks relates every item to
its result.
-/

namespace QuarkSelfAI.Foundation

universe u

/-- `if (refused) throw new Error(message)`. -/
def throwIf (refused : Prop) [Decidable refused] (message : String) : Except String Unit :=
  if refused then .error message else .ok ()

@[simp] theorem throwIf_ok {refused : Prop} [Decidable refused] {message : String} {done : Unit} :
    throwIf refused message = .ok done ↔ ¬ refused := by
  unfold throwIf
  split
  · rename_i refuses
    exact ⟨(nomatch ·), fun accepts => absurd refuses accepts⟩
  · rename_i accepts
    exact ⟨fun _ => accepts, fun _ => rfl⟩

section Loops

variable {α : Type u} {β : Type} {items : List α}

/-- Check every item, counting from `index`, and collect what the checks return. -/
def eachFrom (check : α → Nat → Except String β) : List α → Nat → Except String (List β)
  | [], _ => .ok []
  | item :: rest, index => do
    let result ← check item index
    let results ← eachFrom check rest (index + 1)
    .ok (result :: results)

/-- `items.map(check)`. -/
def each (check : α → Nat → Except String β) (items : List α) : Except String (List β) := eachFrom check items 0

/-- When no check depends on the place of its item, the loop relates the items to the
results one by one. -/
theorem each_ok {check : α → Nat → Except String β} {Checked : α → β → Prop}
    (accepts : ∀ item index result, check item index = .ok result ↔ Checked item result) {results : List β} :
    each check items = .ok results ↔ List.Forall₂ Checked items results := by
  have counted : ∀ index, eachFrom check items index = .ok results ↔ List.Forall₂ Checked items results := by
    induction items generalizing results with
    | nil =>
      intro index
      simp only [eachFrom, List.forall₂_nil_left_iff]
      exact ⟨fun same => (Except.ok.inj same).symm, fun none => by rw [none]⟩
    | cons item rest ih =>
      intro index
      simp only [eachFrom, bind_ok, accepts, ih]
      constructor
      · rintro ⟨result, first, others, later, same⟩
        cases same
        exact .cons first later
      · intro checked
        cases checked with
        | cons first later => exact ⟨_, first, _, later, rfl⟩
  exact counted 0

/-- When a check returns what it reads, so does the loop. -/
theorem forall₂_read {read : β → α} {Accepted : β → Prop} {results : List β} :
    List.Forall₂ (fun item result => item = read result ∧ Accepted result) items results ↔
      items = results.map read ∧ ∀ result ∈ results, Accepted result := by
  constructor
  · intro checked
    induction checked with
    | nil => exact ⟨rfl, by simp⟩
    | cons first _ ih =>
      obtain ⟨rfl, accepted⟩ := first
      obtain ⟨rfl, others⟩ := ih
      exact ⟨rfl, List.forall_mem_cons.mpr ⟨accepted, others⟩⟩
  · rintro ⟨rfl, accepted⟩
    rw [List.forall₂_map_left_iff, List.forall₂_same]
    exact fun result listed => ⟨rfl, accepted result listed⟩

/-- A loop that only checks accepts what each check accepts. -/
theorem forM_ok {check : α → Except String Unit} : items.forM check = .ok () ↔ ∀ item ∈ items, check item = .ok () := by
  induction items with
  | nil => simp [pure, Except.pure]
  | cons item rest ih =>
    have unfolded : (item :: rest).forM check = check item >>= fun _ => rest.forM check := rfl
    rw [unfolded, bind_ok, List.forall_mem_cons, ih]
    constructor
    · rintro ⟨_, first, others⟩
      exact ⟨first, others⟩
    · rintro ⟨first, others⟩
      exact ⟨(), first, others⟩

end Loops

end QuarkSelfAI.Foundation

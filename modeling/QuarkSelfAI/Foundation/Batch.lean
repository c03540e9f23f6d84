import Mathlib.Data.List.Forall2
import Mathlib.Order.WellFounded

/-!
# Work in batches

A pass over a list selects items in the order of the list, takes the first few of them and handles each
where it stands. An item that is handled without effect is selected again, so a later one is reached only
if fewer such items stand before it than a pass takes.
-/

namespace QuarkSelfAI.Foundation

universe u v

section Pass

variable {α : Type u}

/-- The first `budget` of the selected items are handled. -/
def handleFirst (select : α → Bool) (handle : α → α) : Nat → List α → List α
  | _, [] => []
  | 0, items => items
  | budget + 1, item :: rest =>
    if select item then handle item :: handleFirst select handle budget rest
    else item :: handleFirst select handle (budget + 1) rest

/-- What a pass makes of one item. -/
def Handled (select : α → Bool) (handle : α → α) (before after : α) : Prop :=
  after = before ∨ select before = true ∧ after = handle before

variable {select : α → Bool} {handle : α → α} {budget : Nat} {items : List α}

@[simp] theorem handleFirst_zero : handleFirst select handle 0 items = items := by
  cases items <;> rfl

theorem handled_self (items : List α) : List.Forall₂ (Handled select handle) items items :=
  List.forall₂_same.mpr fun _ _ => .inl rfl

/-- Every item stays where it is. -/
theorem handleFirst_handled (budget : Nat) (items : List α) :
    List.Forall₂ (Handled select handle) items (handleFirst select handle budget items) := by
  induction items generalizing budget with
  | nil => simp [handleFirst]
  | cons item rest ih =>
    cases budget with
    | zero => exact handled_self _
    | succ budget =>
      rw [handleFirst]
      split
      · rename_i selected
        exact .cons (.inr ⟨selected, rfl⟩) (ih budget)
      · exact .cons (.inl rfl) (ih (budget + 1))

theorem handleFirst_append (before after : List α) : handleFirst select handle budget (before ++ after) =
      handleFirst select handle budget before ++ handleFirst select handle (budget - before.countP select) after := by
  induction before generalizing budget with
  | nil => simp [handleFirst]
  | cons item rest ih =>
    cases budget with
    | zero => simp
    | succ budget =>
      rw [List.cons_append, handleFirst, handleFirst, List.countP_cons]
      split
      · rw [ih, List.cons_append, Nat.add_sub_add_right]
      · rw [ih, List.cons_append]
        rfl

/-- An item that is not reached, or not selected, is left as it is. -/
theorem handleFirst_kept {before after : List α} {item : α}
    (unreached : select item = true → budget ≤ before.countP select) :
    handleFirst select handle budget (before ++ item :: after) = handleFirst select handle budget before ++
        item :: handleFirst select handle (budget - before.countP select) after := by
  rw [handleFirst_append]
  congr 1
  cases left : budget - before.countP select with
  | zero => rw [handleFirst_zero, handleFirst_zero]
  | succ rest =>
    rw [handleFirst, if_neg]
    intro selected
    have enough := unreached selected
    omega

/-- What handling keeps holds of every item after a pass. -/
theorem handleFirst_all {holds : α → Prop} (kept : ∀ item, holds item → holds (handle item))
    (all : ∀ item ∈ items, holds item) : ∀ item ∈ handleFirst select handle budget items, holds item := by
  induction items generalizing budget with
  | nil => simp [handleFirst]
  | cons first rest ih =>
    obtain ⟨here, others⟩ := List.forall_mem_cons.mp all
    cases budget with
    | zero => exact all
    | succ budget =>
      rw [handleFirst]
      split
      · exact List.forall_mem_cons.mpr ⟨kept first here, ih others⟩
      · exact List.forall_mem_cons.mpr ⟨here, ih others⟩

/-- A count that no single item raises. -/
theorem countP_forall₂_le {β : Type v} {related : α → β → Prop} {counted : α → Bool} {recounted : β → Bool}
    {before : List α} {after : List β} (all : List.Forall₂ related before after)
    (carried : ∀ one other, related one other → counted one = true → recounted other = true) :
    before.countP counted ≤ after.countP recounted := by
  induction all with
  | nil => simp
  | @cons one other _ _ first _ ih =>
    rw [List.countP_cons, List.countP_cons]
    have here := carried one other first
    split
    · rename_i here'
      rw [if_pos (here here')]
      omega
    · omega

/-- A pass that closes some items raises the count of the open ones nowhere. -/
theorem handleFirst_le {isOpen : α → Bool} (closed : ∀ item, isOpen (handle item) = true → isOpen item = true)
    (budget : Nat) (items : List α) : (handleFirst select handle budget items).countP isOpen ≤ items.countP isOpen := by
  refine countP_forall₂_le (handleFirst_handled budget items).flip ?_
  rintro after before (rfl | ⟨_, rfl⟩) here
  · exact here
  · exact closed before here

/-- A pass makes progress whenever fewer items than it takes stand, handled without effect, before one that
it would close. -/
theorem handleFirst_lt {isOpen stuck : α → Bool} (closed : ∀ item, isOpen (handle item) = true → isOpen item = true)
    (closes : ∀ item, select item = true → stuck item = false → isOpen item = true ∧ isOpen (handle item) = false)
    {before after : List α} {item : α} (selected : select item = true) (unstuck : stuck item = false)
    (few : before.countP (fun other => select other && stuck other) < budget) :
    (handleFirst select handle budget (before ++ item :: after)).countP isOpen <
      (before ++ item :: after).countP isOpen := by
  induction before generalizing budget with
  | nil =>
    obtain ⟨budget, rfl⟩ := Nat.exists_eq_add_one_of_ne_zero (Nat.ne_of_gt (Nat.lt_of_le_of_lt (Nat.zero_le _) few))
    obtain ⟨here, gone⟩ := closes item selected unstuck
    have rest : (handleFirst select handle budget after).countP isOpen ≤ after.countP isOpen :=
      handleFirst_le closed budget after
    rw [List.nil_append, handleFirst, if_pos selected, List.countP_cons, List.countP_cons, gone, here]
    simp only [Bool.false_eq_true, if_false, if_true]
    omega
  | cons first rest ih =>
    obtain ⟨budget, rfl⟩ := Nat.exists_eq_add_one_of_ne_zero (Nat.ne_of_gt (Nat.lt_of_le_of_lt (Nat.zero_le _) few))
    rw [List.countP_cons] at few
    rw [List.cons_append, handleFirst]
    split
    · rename_i chosen
      rw [List.countP_cons, List.countP_cons]
      have here := closed first
      cases blocked : stuck first with
      | true =>
        rw [chosen, blocked] at few
        simp only [Bool.and_self, if_true] at few
        have later := @ih budget (by omega)
        split
        · rename_i still
          rw [if_pos (here still)]
          omega
        · omega
      | false =>
        obtain ⟨was, gone⟩ := closes first chosen blocked
        have later : (handleFirst select handle budget (rest ++ item :: after)).countP isOpen ≤
            (rest ++ item :: after).countP isOpen := handleFirst_le closed budget (rest ++ item :: after)
        rw [gone, was]
        simp only [Bool.false_eq_true, if_false, if_true]
        omega
    · rename_i passed
      rw [List.countP_cons, List.countP_cons]
      have later := @ih (budget + 1) (by simpa [passed] using few)
      omega

end Pass

/-- A number that never rises is constant from some time on. -/
theorem exists_settled {measure : Nat → Nat} (falls : ∀ time, measure (time + 1) ≤ measure time) :
    ∃ settled, ∀ time, settled ≤ time → measure time = measure settled := by
  refine ⟨Function.argmin measure, fun time later => ?_⟩
  exact le_antisymm (antitone_nat_of_succ_le falls later) (Function.argmin_le measure time)

end QuarkSelfAI.Foundation

import Mathlib.Data.List.Basic

/-!
# Logs of edges

A log that records each change as the value it left and the value it reached is
a path when every entry begins where the one before it ended.
-/

namespace QuarkSelfAI.Foundation

universe u

/-- The edges lead from `start` to `finish`, each beginning where the last ended. -/
def IsPath {α : Type u} (start : α) : List (α × α) → α → Prop
  | [], finish => start = finish
  | edge :: rest, finish => edge.1 = start ∧ IsPath edge.2 rest finish

variable {α : Type u} {start finish : α}

@[simp] theorem isPath_nil : IsPath start [] finish ↔ start = finish := Iff.rfl

@[simp] theorem isPath_cons {edge : α × α} {rest : List (α × α)} :
    IsPath start (edge :: rest) finish ↔ edge.1 = start ∧ IsPath edge.2 rest finish := Iff.rfl

theorem isPath_append {before after : List (α × α)} : IsPath start (before ++ after) finish ↔
      ∃ middle, IsPath start before middle ∧ IsPath middle after finish := by
  induction before generalizing start with
  | nil => simp
  | cons edge before ih => simp [ih, and_assoc]

/-- Logging one more change extends a path at the value it left. -/
theorem IsPath.snoc {middle : α} {edges : List (α × α)} (path : IsPath start edges middle) :
    IsPath start (edges ++ [(middle, finish)]) finish :=
  isPath_append.mpr ⟨middle, path, rfl, rfl⟩

end QuarkSelfAI.Foundation

import Mathlib.Data.List.Forall2
import Mathlib.Data.List.Perm.Basic
import QuarkSelfAI.Foundation.JsValue

/-!
# Equality of JSON values

Two values are equal when they differ in the order of members at most. For objects
whose members have distinct names this is equality of every member.
-/

namespace QuarkSelfAI.Foundation

namespace JsValue

theorem equalItems_iff {left right : List JsValue} : EqualItems left right ↔ List.Forall₂ Equal left right := by
  constructor
  · intro equal
    induction left generalizing right with
    | nil =>
      cases equal
      exact .nil
    | cons head rest ih =>
      cases equal with
      | cons heads tails => exact .cons heads (ih tails)
  · intro equal
    induction equal with
    | nil => exact .nil
    | cons heads _ ih => exact .cons heads ih

theorem equal_string {left right : String} (equal : Equal (.string left) (.string right)) : left = right := by
  cases equal
  rfl

/-- Members of one name with equal values. -/
def SameMember (left right : String × JsValue) : Prop := left.1 = right.1 ∧ Equal left.2 right.2

variable {left right : List (String × JsValue)}

theorem equalMembers_iff : EqualMembers left right ↔ List.Forall₂ SameMember left right := by
  constructor
  · intro equal
    induction left generalizing right with
    | nil =>
      cases equal
      exact .nil
    | cons head rest ih =>
      cases equal with
      | cons heads tails => exact .cons ⟨rfl, heads⟩ (ih tails)
  · intro equal
    induction equal with
    | nil => exact .nil
    | @cons first second _ _ heads _ ih =>
      obtain ⟨_, one⟩ := first
      obtain ⟨_, other⟩ := second
      obtain ⟨names, values⟩ := heads
      cases names
      exact .cons values ih

/-! ## Members of distinct names -/

/-- The names of the members are distinct. -/
def Distinct {Value : Type} (members : List (String × Value)) : Prop := (members.map Prod.fst).Nodup

theorem lookup_eq_some_iff {Value : Type} {members : List (String × Value)} (distinct : Distinct members)
    {name : String} {value : Value} : members.lookup name = some value ↔ (name, value) ∈ members := by
  constructor
  · intro found
    obtain ⟨before, after, split, _⟩ := List.lookup_eq_some_iff.mp found
    rw [split]
    simp
  · intro listed
    obtain ⟨before, after, rfl⟩ := List.append_of_mem listed
    refine List.lookup_eq_some_iff.mpr ⟨before, after, rfl, fun member earlier => ?_⟩
    rw [Distinct, List.map_append, List.map_cons] at distinct
    have apart := (List.nodup_append.mp distinct).2.2 member.1 (List.mem_map_of_mem earlier) name
      List.mem_cons_self
    simpa using apart.symm

theorem lookup_perm {Value : Type} {left right : List (String × Value)} (distinct : Distinct left)
    (order : left.Perm right) (name : String) : left.lookup name = right.lookup name := by
  have others : Distinct right := (order.map Prod.fst).nodup_iff.mp distinct
  ext value
  rw [lookup_eq_some_iff distinct, lookup_eq_some_iff others, order.mem_iff]

theorem lookup_same (same : List.Forall₂ SameMember left right)
    (name : String) : Option.Rel Equal (left.lookup name) (right.lookup name) := by
  induction same with
  | nil => exact .none
  | @cons first second _ _ heads _ ih =>
    obtain ⟨one, value⟩ := first
    obtain ⟨other, another⟩ := second
    obtain ⟨names, values⟩ := heads
    obtain rfl : one = other := names
    by_cases named : name = one
    · rw [named, List.lookup_cons_self, List.lookup_cons_self]
      exact .some values
    · have apart : (name == one) = false := by simpa using named
      rw [List.lookup_cons, List.lookup_cons, apart]
      exact ih

theorem rel_refl (value : Option JsValue) : Option.Rel Equal value value := by
  cases value with
  | none => exact .none
  | some value => exact .some (.refl value)

/-- Objects are equal exactly when they agree on every name. -/
theorem equal_object_iff (leftDistinct : Distinct left)
    (rightDistinct : Distinct right) : Equal (.object left) (.object right) ↔
      ∀ name, Option.Rel Equal (left.lookup name) (right.lookup name) := by
  constructor
  · intro equal name
    cases equal with
    | refl => exact rel_refl _
    | object members order =>
      rw [lookup_perm rightDistinct order.symm]
      exact lookup_same (equalMembers_iff.mp members) name
  · intro agree
    let between := left.map fun member => (member.1, (right.lookup member.1).getD .undefined)
    have names : between.map Prod.fst = left.map Prod.fst := by
      simp only [between, List.map_map]
      rfl
    have found : ∀ {name value}, (name, value) ∈ left →
        ∃ other, right.lookup name = some other ∧ Equal value other := by
      intro name value listed
      have pair := agree name
      rw [(lookup_eq_some_iff leftDistinct).mpr listed] at pair
      cases read : right.lookup name with
      | none =>
        rw [read] at pair
        cases pair
      | some other =>
        rw [read] at pair
        cases pair with
        | some equal => exact ⟨other, rfl, equal⟩
    have pairs : List.Forall₂ SameMember left between := by
      rw [List.forall₂_map_right_iff, List.forall₂_same]
      rintro ⟨name, value⟩ listed
      obtain ⟨other, read, equal⟩ := found listed
      refine ⟨rfl, ?_⟩
      simpa [read] using equal
    have betweenDistinct : Distinct between := by
      rw [Distinct, names]
      exact leftDistinct
    have order : between.Perm right := by
      refine (List.perm_ext_iff_of_nodup betweenDistinct.of_map rightDistinct.of_map).mpr ?_
      rintro ⟨name, value⟩
      rw [← lookup_eq_some_iff rightDistinct]
      constructor
      · intro listed
        obtain ⟨⟨other, before⟩, inLeft, same⟩ := List.mem_map.mp listed
        obtain ⟨rfl, rfl⟩ := Prod.mk.inj same
        obtain ⟨after, read, _⟩ := found inLeft
        simp [read]
      · intro read
        have pair := agree name
        rw [read] at pair
        cases start : left.lookup name with
        | none =>
          rw [start] at pair
          cases pair
        | some before =>
          exact List.mem_map.mpr ⟨(name, before), (lookup_eq_some_iff leftDistinct).mp start, by
            simp [read]⟩
    exact .object (equalMembers_iff.mpr pairs) order

end JsValue

end QuarkSelfAI.Foundation

import Mathlib.Data.List.Basic
import Mathlib.Data.List.Nodup
import QuarkSelfAI.Foundation.Text

/-!
# Records

A plain object used as a map: its members in insertion order under their names.
-/

namespace QuarkSelfAI.Foundation

universe u

variable {Value : Type u} {members : List (String × Value)}

/-- Set a member, in its place when it is there. -/
def assign (members : List (String × Value)) (name : String) (value : Value) : List (String × Value) :=
  if (members.lookup name).isSome then
    members.map fun member => if member.1 = name then (name, value) else member
  else members ++ [(name, value)]

/-- Set members in order, as a spread into an object literal does. -/
def assignAll (members extra : List (String × Value)) : List (String × Value) :=
  extra.foldl (fun members entry => assign members entry.1 entry.2) members

/-- The names a plain object answers without having them. -/
def inheritedNames : List String :=
  ["constructor", "__defineGetter__", "__defineSetter__", "hasOwnProperty", "__lookupGetter__",
    "__lookupSetter__", "isPrototypeOf", "propertyIsEnumerable", "toString", "valueOf", "__proto__",
    "toLocaleString"]

theorem lookup_member (other : String) (value : Value) (rest : List (String × Value)) (name : String) :
    ((other, value) :: rest).lookup name = if name = other then some value else rest.lookup name := by
  rw [List.lookup_cons]
  split
  · rename_i same
    rw [if_pos (by simpa using same)]
  · rename_i different
    rw [if_neg (by simpa using different)]

theorem lookup_append (left right : List (String × Value)) (name : String) :
    (left ++ right).lookup name = (left.lookup name).or (right.lookup name) := by
  induction left with
  | nil => rfl
  | cons member left ih =>
    obtain ⟨other, value⟩ := member
    rw [List.cons_append, lookup_member, lookup_member, ih]
    split <;> rfl

/-- Writing over one name leaves the lookups of the others alone. -/
theorem lookup_overwrite {name other : String} (different : other ≠ name) (value : Value)
    (members : List (String × Value)) :
    (members.map fun member => if member.1 = name then (name, value) else member).lookup other =
      members.lookup other := by
  induction members with
  | nil => rfl
  | cons member members ih =>
    obtain ⟨here, kept⟩ := member
    rw [List.map_cons, lookup_member]
    by_cases same : here = name
    · have missed : other ≠ here := by rwa [same]
      rw [if_pos same, lookup_member, if_neg different, if_neg missed, ih]
    · rw [if_neg same, lookup_member, ih]

/-- An assignment answers its own name and leaves every other member alone. -/
theorem lookup_assign (members : List (String × Value)) (name : String) (value : Value) (other : String) :
    (assign members name value).lookup other =
      if other = name then some value else members.lookup other := by
  unfold assign
  split
  · rename_i there
    by_cases sought : other = name
    · subst sought
      rw [if_pos rfl]
      induction members with
      | nil => cases there
      | cons member rest ih =>
        obtain ⟨here, old⟩ := member
        by_cases same : here = other
        · rw [List.map_cons, if_pos same, lookup_member, if_pos rfl]
        · rw [lookup_member, if_neg (Ne.symm same)] at there
          rw [List.map_cons, if_neg same, lookup_member, if_neg (Ne.symm same), ih there]
    · rw [if_neg sought, lookup_overwrite sought]
  · rename_i absent
    rw [lookup_append, lookup_member]
    by_cases sought : other = name
    · subst sought
      have missing : members.lookup other = none := Option.not_isSome_iff_eq_none.mp absent
      simp [missing]
    · simp [sought]

theorem lookup_isSome_iff {name : String} : (members.lookup name).isSome = true ↔ name ∈ members.map Prod.fst := by
  induction members with
  | nil => simp
  | cons member rest ih =>
    obtain ⟨here, kept⟩ := member
    rw [lookup_member, List.map_cons, List.mem_cons]
    by_cases same : name = here
    · simp [same]
    · rw [if_neg same, ih]
      simp [same]

/-- An assignment adds its own name to those that are there. -/
theorem mem_names_assign {name other : String} {value : Value} :
    other ∈ (assign members name value).map Prod.fst ↔ other = name ∨ other ∈ members.map Prod.fst := by
  rw [← lookup_isSome_iff, lookup_assign, ← lookup_isSome_iff]
  split
  · rename_i same
    simp [same]
  · rename_i different
    simp [different]

theorem lookup_mem {name : String} {value : Value}
    (found : members.lookup name = some value) : (name, value) ∈ members := by
  induction members with
  | nil => cases found
  | cons member members ih =>
    obtain ⟨here, kept⟩ := member
    rw [lookup_member] at found
    split at found
    · rename_i same
      cases found
      rw [same]
      exact List.mem_cons_self
    · exact List.mem_cons_of_mem _ (ih found)

theorem ok_of_isSome {ε α : Type} {outcome : Except ε α} {default : α} (answered : outcome.toOption.isSome = true) :
    outcome = .ok (outcome.toOption.getD default) := by
  cases outcome with
  | error error => cases answered
  | ok value => rfl

/-! ## Functions given by a table -/

/-- A function on texts with listed values; every other text is marked and kept. -/
def tabled (table : List (String × String)) (text : String) : String := (table.lookup text).getD ("~" ++ text)

theorem tabled_head {text value : String} {table : List (String × String)} :
    tabled ((text, value) :: table) text = value := by
  simp [tabled]

theorem tabled_injective {table : List (String × String)} (unmarked : ∀ entry ∈ table, startsWith entry.2 "~" = false)
    (distinct : (table.map (·.2)).Nodup) : Function.Injective (tabled table) := by
  have kept : ∀ {text value : String}, table.lookup text = some value → ∀ other, value ≠ "~" ++ other := by
    rintro text value found other rfl
    have plain := unmarked _ (lookup_mem found)
    simp [startsWith] at plain
  intro left right same
  unfold tabled at same
  cases atLeft : table.lookup left with
  | none =>
    cases atRight : table.lookup right with
    | none => simpa [atLeft, atRight] using same
    | some value =>
      rw [atLeft, atRight] at same
      exact absurd same.symm (kept atRight left)
  | some value =>
    cases atRight : table.lookup right with
    | none =>
      rw [atLeft, atRight] at same
      exact absurd same (kept atLeft right)
    | some other =>
      rw [atLeft, atRight] at same
      -- Equal values stand in one entry of the table.
      have entry := List.inj_on_of_nodup_map distinct (lookup_mem atLeft) (lookup_mem atRight) same
      exact congrArg Prod.fst entry

end QuarkSelfAI.Foundation

import QuarkSelfAI.Foundation.SortedJson

/-!
# Texts without undefined members

`JSON.stringify` leaves out the members that are `undefined`. The text of a value that is JSON but for such members is
the text of the value without them, and reads back as that value.
-/

namespace QuarkSelfAI.Foundation

namespace JsValue

/-- A member as it is found in the value without undefined members. -/
def kept (value : JsValue) : JsValue := if value = .undefined then .undefined else value.stringified

theorem stringifiedItems_eq (items : List JsValue) : stringifiedItems items = items.map stringified := by
  induction items with
  | nil => rfl
  | cons item items ih => rw [stringifiedItems, ih, List.map_cons]

theorem stringifiedMembers_eq (members : List (String × JsValue)) : stringifiedMembers members =
      (members.filter fun member => member.2 ≠ .undefined).map fun member => (member.1, member.2.stringified) := by
  induction members with
  | nil => rfl
  | cons member members ih =>
    obtain ⟨name, value⟩ := member
    by_cases missing : value = .undefined
    · rw [missing, stringifiedMembers, ih, List.filter_cons_of_neg (by simp)]
    · rw [stringifiedMembers, ih, List.filter_cons_of_pos (by simpa using missing), List.map_cons]
      exact missing

variable {value : JsValue} {members : List (String × JsValue)}

theorem distinct_stringified (distinct : Distinct members) : Distinct (stringifiedMembers members) := by
  rw [stringifiedMembers_eq, Distinct, List.map_map]
  exact distinct.sublist ((List.filter_sublist).map Prod.fst)

/-- The members of distinct names keep their values. -/
theorem lookup_stringified (distinct : Distinct members) (name : String) :
    ((stringifiedMembers members).lookup name).getD .undefined = ((members.lookup name).getD .undefined).kept := by
  have listed (other : JsValue) : (name, other) ∈ stringifiedMembers members ↔
      ∃ value, (name, value) ∈ members ∧ value ≠ .undefined ∧ value.stringified = other := by
    rw [stringifiedMembers_eq, List.mem_map]
    constructor
    · rintro ⟨member, there, same⟩
      obtain ⟨there, given⟩ := List.mem_filter.mp there
      cases same
      exact ⟨member.2, there, by simpa using given, rfl⟩
    · rintro ⟨value, there, given, rfl⟩
      exact ⟨(name, value), List.mem_filter.mpr ⟨there, by simpa using given⟩, rfl⟩
  cases found : members.lookup name with
  | none =>
    have nothing : (stringifiedMembers members).lookup name = none := by
      rw [Option.eq_none_iff_forall_ne_some]
      intro other also
      obtain ⟨value, there, -⟩ := (listed other).mp ((lookup_eq_some_iff (distinct_stringified distinct)).mp also)
      rw [(lookup_eq_some_iff distinct).mpr there] at found
      cases found
    rw [nothing]
    rfl
  | some value =>
    have there := (lookup_eq_some_iff distinct).mp found
    rw [Option.getD_some, kept]
    by_cases missing : value = .undefined
    · have nothing : (stringifiedMembers members).lookup name = none := by
        rw [Option.eq_none_iff_forall_ne_some]
        intro other also
        obtain ⟨another, also, given, -⟩ :=
          (listed other).mp ((lookup_eq_some_iff (distinct_stringified distinct)).mp also)
        rw [(lookup_eq_some_iff distinct).mpr also] at found
        exact given ((Option.some.inj found).trans missing)
      rw [nothing, if_pos missing]
      rfl
    · have also := (listed value.stringified).mpr ⟨value, there, missing, rfl⟩
      rw [(lookup_eq_some_iff (distinct_stringified distinct)).mpr also, if_neg missing]
      rfl

theorem Loose.given (loose : value.Loose) : value ≠ .undefined := by
  cases loose <;> nofun

theorem Loose.kept (loose : value.Loose) : value.kept = value.stringified := if_neg loose.given

/-- The value without undefined members is JSON. -/
theorem Loose.stringified_json (loose : value.Loose) : value.stringified.IsJson := by
  induction loose with
  | null | bool | string => trivial
  | number decimal => exact decimal
  | array each ih =>
    rw [stringified, stringifiedItems_eq]
    refine areJson_iff.mpr fun item listed => ?_
    obtain ⟨own, there, rfl⟩ := List.mem_map.mp listed
    exact ih own there
  | object distinct each ih =>
    rw [stringified]
    refine ⟨distinct_stringified distinct, haveJson_iff.mpr fun member listed => ?_⟩
    rw [stringifiedMembers_eq] at listed
    obtain ⟨own, there, rfl⟩ := List.mem_map.mp listed
    obtain ⟨there, given⟩ := List.mem_filter.mp there
    exact ih own there (by simpa using given)

/-- The text is that of the value without undefined members. -/
theorem Loose.stringify_stringified (loose : value.Loose) : stringify value.stringified = stringify value := by
  induction loose with
  | null | bool | number | string => rfl
  | @array items each ih =>
    have texts : stringifyItems (stringifiedItems items) = stringifyItems items := by
      clear each
      induction items with
      | nil => rfl
      | cons item items rest =>
        obtain ⟨first, later⟩ := List.forall_mem_cons.mp ih
        rw [stringifiedItems, stringifyItems, stringifyItems, first, rest later]
    rw [stringified, stringify, stringify, texts]
  | @object members distinct each ih =>
    have texts : stringifyMembers (stringifiedMembers members) = stringifyMembers members := by
      clear each distinct
      induction members with
      | nil => rfl
      | cons member members rest =>
        obtain ⟨name, value⟩ := member
        obtain ⟨first, later⟩ := List.forall_mem_cons.mp ih
        by_cases missing : value = .undefined
        · rw [missing, stringifiedMembers, rest later]
          rfl
        · rw [stringifiedMembers, stringifyMembers, stringifyMembers, first missing, rest later]
          exact missing
    rw [stringified, stringify, stringify, texts]

/-- A text reads back as the value without undefined members. -/
theorem Loose.parse_stringify (loose : value.Loose) : value.stringify.bind parse = some value.stringified := by
  rw [← loose.stringify_stringified]
  exact loose.stringified_json.parse_stringify

end JsValue

end QuarkSelfAI.Foundation

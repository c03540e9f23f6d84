import QuarkSelfAI.Foundation.JsValue

/-!
# Shapes of JSON values

What the type of an interface asks of a value: the fields it requires, each of its own shape. A value may have other
fields. Leaving fields out of a record asks less, and what is left out can be asked for beside it.
-/

namespace QuarkSelfAI.Foundation

/-- What a type asks of a value. -/
inductive Shape where
  | text
  | number
  | truth
  | oneOf (values : List JsValue)
  | nullable (shape : Shape)
  | array (item : Shape)
  | dictionary
  | record (fields : List (String × Shape))

namespace Shape

mutual

/-- The value has the shape. -/
def conforms : Shape → JsValue → Bool
  | .text, .string _ => true
  | .number, .number _ | .number, .nonFinite => true
  | .truth, .bool _ => true
  | .oneOf values, value => decide (value ∈ values)
  | .nullable shape, value => decide (value = .null) || conforms shape value
  | .array shape, .array items => items.all fun item => conforms shape item
  | .dictionary, .object _ => true
  | .record fields, .object members => conformFields fields (.object members)
  | _, _ => false

/-- The fields of a value have their shapes. -/
def conformFields : List (String × Shape) → JsValue → Bool
  | [], _ => true
  | (name, shape) :: fields, value => conforms shape (value.get name) && conformFields fields value

end

/-- The shape of a record without some of its fields. -/
def without (shape : Shape) (names : List String) : Shape :=
  match shape with
  | .record fields => .record (fields.filter fun field => field.1 ∉ names)
  | shape => shape

variable {shape : Shape} {fields : List (String × Shape)} {value : JsValue}

theorem conforms_text : conforms .text value = true ↔ ∃ text, value = .string text := by
  cases value <;> simp [conforms]

@[simp] theorem conforms_oneOf {values : List JsValue} : conforms (.oneOf values) value = true ↔ value ∈ values := by
  rw [conforms, decide_eq_true_iff]

theorem conforms_nullable : conforms (.nullable shape) value = true ↔ value = .null ∨ conforms shape value = true := by
  rw [conforms, Bool.or_eq_true, decide_eq_true_iff]

theorem conformFields_iff :
    conformFields fields value = true ↔ ∀ field ∈ fields, conforms field.2 (value.get field.1) = true := by
  induction fields with
  | nil => simp [conformFields]
  | cons field fields ih => simp [conformFields, ih]

theorem conforms_record : conforms (.record fields) value = true ↔
    (∃ members, value = .object members) ∧ ∀ field ∈ fields, conforms field.2 (value.get field.1) = true := by
  cases value with
  | object members => simp [conforms, conformFields_iff]
  | _ => exact iff_of_false (by simp [conforms]) fun both => by obtain ⟨⟨_, same⟩, -⟩ := both; cases same

/-- What is left out of a record is asked for beside it. -/
theorem conforms_without (names : List String) : conforms (.record fields) value = true ↔
    conforms ((record fields).without names) value = true ∧
      ∀ field ∈ fields, field.1 ∈ names → conforms field.2 (value.get field.1) = true := by
  rw [without, conforms_record, conforms_record]
  constructor
  · rintro ⟨object, each⟩
    exact ⟨⟨object, fun field listed => each field (List.mem_filter.mp listed).1⟩, fun field listed _ => each field listed⟩
  · rintro ⟨⟨object, others⟩, named⟩
    refine ⟨object, fun field listed => ?_⟩
    by_cases name : field.1 ∈ names
    · exact named field listed name
    · exact others field (List.mem_filter.mpr ⟨listed, by simpa using name⟩)

end Shape

end QuarkSelfAI.Foundation

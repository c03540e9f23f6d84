import QuarkSelfAI.Foundation.SortedJson

/-!
# The canonical JSON of the store

`canonicalJson` writes the columns that a repeated signal, workflow or action is compared with. It sorts the
members of an object with `localeCompare` and has no case for a member that is `undefined`, so the text of a value
is its canonical form only where no member is `undefined` and names that tie are inserted in one order.
-/

namespace QuarkSelfAI.Storage

open Foundation

/-- `precedes left right` stands for `left.localeCompare(right) <= 0`; distinct texts may tie. -/
structure Collation where
  precedes : String → String → Bool
  total : ∀ left right, precedes left right = true ∨ precedes right left = true
  trans : ∀ {first second third}, precedes first second = true → precedes second third = true → precedes first third = true

namespace Collation

variable (collation : Collation)

/-- The order that `sort` puts names in. -/
def Precedes (left right : String) : Prop := collation.precedes left right = true

instance : DecidableRel collation.Precedes := fun _ _ => inferInstanceAs (Decidable (_ = true))

instance : Std.Total collation.Precedes := ⟨collation.total⟩

instance : IsTrans String collation.Precedes := ⟨fun _ _ _ => collation.trans⟩

end Collation

/-- The text of a column; `none` stands for `undefined`. -/
def canonicalJson (collation : Collation) : JsValue → Option String := JsValue.sortedJson collation.Precedes

variable {collation : Collation} {value other : JsValue}

/-- The text is JSON and reads back as the value without its undefined members. -/
def ParsesBack (collation : Collation) (value : JsValue) : Prop :=
  ∃ text back, canonicalJson collation value = some text ∧ JsValue.parse text = some back ∧
    JsValue.Equal back value.stringified

/-- The texts of two values are JSON and agree exactly when the values do, up to the order of members. -/
structure CanonicalForm (collation : Collation) (value other : JsValue) : Prop where
  read : ParsesBack collation value ∧ ParsesBack collation other
  decides : canonicalJson collation value = canonicalJson collation other ↔
    JsValue.Equal value.stringified other.stringified

/-- Nothing of a JSON value is left out. -/
theorem stringified_json (json : value.IsJson) : value.stringified = value := by
  induction value using JsValue.induct with
  | undefined | nonFinite => exact json.elim
  | null | bool | number | string => rfl
  | array items ih =>
    have each := JsValue.areJson_iff.mp json
    have same : JsValue.stringifiedItems items = items := by
      clear json
      induction items with
      | nil => rfl
      | cons item items rest =>
        obtain ⟨first, later⟩ := List.forall_mem_cons.mp each
        rw [JsValue.stringifiedItems, ih item List.mem_cons_self first,
          rest (fun other listed => ih other (List.mem_cons_of_mem _ listed)) later]
    rw [JsValue.stringified, same]
  | object members ih =>
    have each := JsValue.haveJson_iff.mp json.2
    have same : JsValue.stringifiedMembers members = members := by
      clear json
      induction members with
      | nil => rfl
      | cons member members rest =>
        obtain ⟨name, value⟩ := member
        obtain ⟨first, later⟩ := List.forall_mem_cons.mp each
        have own := ih (name, value) List.mem_cons_self first
        have others := rest (fun other listed => ih other (List.mem_cons_of_mem _ listed)) later
        cases value with
        | undefined => exact first.elim
        | _ => rw [JsValue.stringifiedMembers, own, others]; nofun
    rw [JsValue.stringified, same]

/-- A text is JSON exactly where no member of the value is undefined. -/
theorem parsesBack_iff (loose : value.Loose) : ParsesBack collation value ↔ value.IsJson := by
  constructor
  · rintro ⟨text, back, written, read, -⟩
    by_contra other
    obtain ⟨broken, same, unread⟩ := @JsValue.Loose.broken collation.Precedes _ value loose other
    cases written.symm.trans same
    rw [unread.unparsed] at read
    cases read
  · intro json
    obtain ⟨text, written, read⟩ := @JsValue.IsJson.parse_sortedJson collation.Precedes _ value json
    exact ⟨text, _, written, read, (stringified_json json).symm ▸ JsValue.equal_arrange value⟩

/-- The texts of JSON values agree exactly when the values with their members sorted do. -/
theorem canonicalJson_eq_iff (json : value.IsJson) (json' : other.IsJson) :
    canonicalJson collation value = canonicalJson collation other ↔
      JsValue.Equal value other ∧ JsValue.TiesAlike collation.Precedes value other := by
  rw [← JsValue.arrange_eq_iff json json']
  constructor
  · intro same
    obtain ⟨text, written, read⟩ := @JsValue.IsJson.parse_sortedJson collation.Precedes _ value json
    obtain ⟨another, written', read'⟩ := @JsValue.IsJson.parse_sortedJson collation.Precedes _ other json'
    obtain rfl : text = another := Option.some.inj (written.symm.trans (Eq.trans same written'))
    exact Option.some.inj (read.symm.trans read')
  · intro same
    rw [canonicalJson, json.sortedJson, json'.sortedJson, same]

/-- The texts of two values are their canonical forms exactly when neither has an undefined member and, if they are
equal, the names that tie come in one order wherever both have an object. -/
theorem canonicalForm_iff (loose : value.Loose) (loose' : other.Loose) :
    CanonicalForm collation value other ↔ value.IsJson ∧ other.IsJson ∧
      (JsValue.Equal value other → JsValue.TiesAlike collation.Precedes value other) := by
  constructor
  · rintro ⟨⟨read, read'⟩, decides⟩
    have json := (parsesBack_iff loose).mp read
    have json' := (parsesBack_iff loose').mp read'
    rw [stringified_json json, stringified_json json', canonicalJson_eq_iff json json'] at decides
    exact ⟨json, json', fun equal => (decides.mpr equal).2⟩
  · rintro ⟨json, json', ties⟩
    refine ⟨⟨(parsesBack_iff loose).mpr json, (parsesBack_iff loose').mpr json'⟩, ?_⟩
    rw [stringified_json json, stringified_json json', canonicalJson_eq_iff json json']
    exact ⟨And.left, fun equal => ⟨equal, ties equal⟩⟩

/-! ## Signals that are told apart or run together -/

/-- The character decomposed, as far as the example needs it. -/
def decomposed (char : Char) : List Char := if char = 'é' then ['e', '\u0301'] else [char]

/-- A collation that does not tell a character from its decomposition. -/
def sampleCollation : Collation where
  precedes left right := left.toList.flatMap decomposed ≤ right.toList.flatMap decomposed
  total left right := by simpa using le_total (left.toList.flatMap decomposed) (right.toList.flatMap decomposed)
  trans := by
    intro first second third before after
    simp only [decide_eq_true_eq] at before after ⊢
    exact before.trans after

/-- Members that are scalars, with names of which no two tie. -/
theorem tiesAlike_flat {members others : List (String × JsValue)} (scalar : ∀ member ∈ members, member.2.isScalar = true)
    (apart : ∀ name ∈ members.map Prod.fst ++ others.map Prod.fst, ∀ other ∈ members.map Prod.fst ++ others.map Prod.fst,
      name ≠ other → ¬ (collation.Precedes name other ∧ collation.Precedes other name))
    (distinct : JsValue.Distinct members) (distinct' : JsValue.Distinct others) :
    JsValue.TiesAlike collation.Precedes (.object members) (.object others) := by
  refine JsValue.tiesAlike_object.mpr ⟨fun name other tie back => ?_, fun name => ?_⟩
  · have never : ∀ {names : List String}, names ⊆ members.map Prod.fst ++ others.map Prod.fst → names.Nodup →
        ¬ [name, other].Sublist names := by
      intro names within distinct first
      have different : name ≠ other := by simpa using distinct.sublist first
      exact apart name (within (first.subset (by simp))) other (within (first.subset (by simp))) different ⟨tie, back⟩
    exact iff_of_false (never (List.subset_append_left _ _) distinct) (never (List.subset_append_right _ _) distinct')
  · refine JsValue.tiesAlike_scalar ?_
    cases found : members.lookup name with
    | none => rfl
    | some value => exact scalar _ ((JsValue.lookup_eq_some_iff distinct).mp found)

theorem canonicalForm_plain :
    CanonicalForm sampleCollation (.object [("b", .number 1), ("a", .null)]) (.object [("a", .null), ("b", .number 1)]) := by
  have one : IsDecimal 1 := by decide +kernel
  have number : JsValue.Loose (.number 1) := .number one
  have distinct : JsValue.Distinct [("b", JsValue.number 1), ("a", .null)] ∧
      JsValue.Distinct [("a", JsValue.null), ("b", .number 1)] := by
    constructor <;> simp [JsValue.Distinct]
  refine (canonicalForm_iff (.object distinct.1 ?_) (.object distinct.2 ?_)).mpr ⟨?_, ?_, fun _ => ?_⟩
  · simp [number, JsValue.Loose.null]
  · simp [number, JsValue.Loose.null]
  · exact ⟨distinct.1, one, trivial, trivial⟩
  · exact ⟨distinct.2, trivial, one, trivial⟩
  · exact tiesAlike_flat (by decide) (by decide) distinct.1 distinct.2

/-- An undefined member makes the text no JSON, and names that tie keep the order in which they were inserted. -/
theorem canonicalForm_fails :
    (canonicalJson sampleCollation (.object [("a", .undefined)]) = some "\x7b\"a\":undefined\x7d" ∧
      JsValue.parse "\x7b\"a\":undefined\x7d" = none) ∧
    JsValue.Equal (.object [("é", .null), ("e\u0301", .bool true)]) (.object [("e\u0301", .bool true), ("é", .null)]) ∧
    canonicalJson sampleCollation (.object [("é", .null), ("e\u0301", .bool true)]) =
      some "\x7b\"é\":null,\"e\u0301\":true\x7d" ∧
    canonicalJson sampleCollation (.object [("e\u0301", .bool true), ("é", .null)]) =
      some "\x7b\"e\u0301\":true,\"é\":null\x7d" := by
  refine ⟨⟨by decide +kernel, by decide +kernel⟩, ?_, by decide +kernel, by decide +kernel⟩
  exact .object (.cons (.refl _) (.cons (.refl _) .nil)) (List.Perm.swap _ _ _)

end QuarkSelfAI.Storage

import QuarkSelfAI.CapabilityPlatform.Checks
import QuarkSelfAI.Foundation.SortedJson

/-!
# Digests of content

The order of `sort` tells any two texts apart, so sorting the members makes equal values one value and `canonicalJson`
writes one text for each value up to the order of members. A digest of the text is then a digest of the value, and it
survives the value's way through `JSON.stringify` and `JSON.parse`.
-/

namespace QuarkSelfAI.CapabilityPlatform

open Foundation

/-! ## The order of texts -/

/-- The code units of a character are not the first of those of another. -/
theorem utf16Codes_append_inj {char other : Char} {rest others : List Nat}
    (same : utf16Codes char ++ rest = utf16Codes other ++ others) : char = other ∧ rest = others := by
  have valid : ∀ char : Char, char.toNat < 0xD800 ∨ 0xDFFF < char.toNat ∧ char.toNat < 0x110000 := fun char => char.valid
  have first := valid char
  have second := valid other
  simp only [utf16Codes] at same
  split at same <;> split at same <;>
    simp only [List.cons_append, List.nil_append, List.cons.injEq] at same
  · exact ⟨Char.toNat_inj.mp same.1, same.2⟩
  · omega
  · omega
  · exact ⟨Char.toNat_inj.mp (by omega), same.2.2⟩

theorem utf16_inj {left right : List Char} (same : left.flatMap utf16Codes = right.flatMap utf16Codes) :
    left = right := by
  have written : ∀ char : Char, utf16Codes char ≠ [] := by
    intro char
    rw [utf16Codes]
    split <;> simp
  induction left generalizing right with
  | nil =>
    cases right with
    | nil => rfl
    | cons char right => simp [written char] at same
  | cons char left ih =>
    cases right with
    | nil => simp [written char] at same
    | cons other right =>
      rw [List.flatMap_cons, List.flatMap_cons] at same
      obtain ⟨rfl, rest⟩ := utf16Codes_append_inj same
      rw [ih rest]

instance : Std.Total textOrder := ⟨fun left right =>
  le_total (left.toList.flatMap utf16Codes) (right.toList.flatMap utf16Codes)⟩

instance : IsTrans String textOrder := ⟨fun _ _ _ => le_trans⟩

theorem textOrder_antisymm {left right : String} (before : textOrder left right) (after : textOrder right left) :
    left = right :=
  String.toList_inj.mp (utf16_inj (le_antisymm before after))

/-! ## Canonical texts -/

section Canonical

variable {value left right : JsValue}

/-- Wherever a JSON value has an object, its names are distinct. -/
theorem distinct_follow (json : value.IsJson) {path : List JsValue.Place} {members : List (String × JsValue)}
    (found : value.follow path = .object members) : JsValue.Distinct members := by
  induction path generalizing value with
  | nil =>
    have same : value = .object members := by cases value <;> exact found
    subst same
    exact json.1
  | cons place path ih =>
    cases value with
    | array items =>
      cases place with
      | index place =>
        rw [JsValue.follow] at found
        cases listed : items[place]? with
        | none =>
          rw [listed] at found
          exact absurd found (JsValue.follow_scalar rfl path members)
        | some item =>
          rw [listed] at found
          exact ih (JsValue.areJson_iff.mp json item (List.mem_of_getElem? listed)) found
      | name name => cases found
    | object own =>
      cases place with
      | index place => cases found
      | name name =>
        rw [JsValue.follow] at found
        cases named : own.lookup name with
        | none =>
          rw [named] at found
          exact absurd found (JsValue.follow_scalar rfl path members)
        | some below =>
          rw [named] at found
          have listed := (JsValue.lookup_eq_some_iff json.1).mp named
          exact ih (JsValue.haveJson_iff.mp json.2 (name, below) listed) found
    | _ => exact absurd found (JsValue.follow_scalar rfl (place :: path) members)

/-- No two names tie. -/
theorem tiesAlike (json : left.IsJson) (json' : right.IsJson) : JsValue.TiesAlike textOrder left right := by
  intro path members others found also one other before after
  obtain rfl := textOrder_antisymm before after
  have never : ∀ {members : List (String × JsValue)}, JsValue.Distinct members →
      ¬ [one, one].Sublist (members.map Prod.fst) := by
    intro members distinct twice
    simpa using distinct.sublist twice
  exact iff_of_false (never (distinct_follow json found)) (never (distinct_follow json' also))

/-- The canonical text of a JSON value is that of the value with its members sorted. -/
theorem canonicalJson_sorted (json : value.IsJson) :
    ∃ text, canonicalJson value = .ok text ∧ JsValue.sortedJson textOrder value = some text := by
  induction value using JsValue.induct with
  | undefined | nonFinite => exact json.elim
  | null | bool | number | string => exact ⟨_, rfl, rfl⟩
  | array items ih =>
    have each := JsValue.areJson_iff.mp json
    refine ⟨_, canonicalJson_array.mpr ⟨_, ?_, rfl⟩, rfl⟩
    rw [JsValue.sortedItems_eq, List.forall₂_map_right_iff, List.forall₂_same]
    intro item listed
    obtain ⟨text, canonical, sorted⟩ := ih item listed (each item listed)
    rw [canonical, sorted, Option.getD_some]
  | object members ih =>
    have each := JsValue.haveJson_iff.mp json.2
    have perm : (sortMembers members).Perm members := sortMembers_perm members
    have written : ∀ member ∈ members,
        MemberText member (JsValue.memberText (member.1, (JsValue.sortedJson textOrder member.2).getD "undefined")) := by
      intro member listed
      obtain ⟨text, canonical, sorted⟩ := ih member listed (each member listed)
      exact ⟨text, canonical, by rw [sorted]; rfl⟩
    refine ⟨"\x7b" ++ joined ((sortMembers members).map fun member =>
      JsValue.memberText (member.1, (JsValue.sortedJson textOrder member.2).getD "undefined")) ++ "\x7d",
      canonicalJson_object.mpr ⟨?_, _, ?_, rfl⟩, ?_⟩
    · intro member listed
      obtain ⟨name, value⟩ := member
      cases value with
      | undefined => exact (each _ listed).elim
      | _ => rfl
    · rw [List.forall₂_map_right_iff, List.forall₂_same]
      exact fun member listed => written member (perm.mem_iff.mp listed)
    · rw [JsValue.sortedJson, JsValue.sortedMembers_eq,
        JsValue.sortByName_map fun value => (JsValue.sortedJson textOrder value).getD "undefined", List.map_map]
      rfl

/-- One text for each value up to the order of members. -/
theorem canonicalJson_eq_iff (json : left.IsJson) (json' : right.IsJson) :
    canonicalJson left = canonicalJson right ↔ JsValue.Equal left right := by
  obtain ⟨text, canonical, sorted⟩ := canonicalJson_sorted json
  obtain ⟨another, canonical', sorted'⟩ := canonicalJson_sorted json'
  constructor
  · intro same
    rw [same] at canonical
    exact canonicalJson_inj (same.trans canonical) canonical
  · intro equal
    have arranged := (JsValue.arrange_eq_iff json json').mpr ⟨equal, tiesAlike json json'⟩
    rw [json.sortedJson, arranged, ← json'.sortedJson, sorted'] at sorted
    rw [canonical, canonical', Option.some.inj sorted]

/-- The text reads back as the value. -/
theorem parse_canonicalJson (json : value.IsJson) :
    ∃ text back, canonicalJson value = .ok text ∧ JsValue.parse text = some back ∧ JsValue.Equal back value := by
  obtain ⟨text, canonical, sorted⟩ := canonicalJson_sorted json
  obtain ⟨another, sorted', read⟩ := @JsValue.IsJson.parse_sortedJson textOrder _ value json
  obtain rfl : text = another := Option.some.inj (sorted.symm.trans sorted')
  exact ⟨text, _, canonical, read, JsValue.equal_arrange value⟩

/-- The text is a canonical encoding, so a digest outlives `JSON.stringify` and `JSON.parse`. -/
theorem canonicalJson_canonical (sha256 : String → String) (json : left.IsJson) (json' : right.IsJson) :
    (canonicalJson left = canonicalJson right ↔ JsValue.Equal left right) ∧
      (∃ text back, canonicalJson left = .ok text ∧ JsValue.parse text = some back ∧ JsValue.Equal back left) ∧
      ∃ text back, left.stringify = some text ∧ JsValue.parse text = some back ∧
        contentDigest sha256 back = contentDigest sha256 left := by
  refine ⟨canonicalJson_eq_iff json json', parse_canonicalJson json, ?_⟩
  obtain ⟨text, written⟩ := json.written
  have read := json.parse_stringify
  rw [written, Option.bind_some] at read
  exact ⟨text, left, written, read, rfl⟩

theorem canonicalJson_canonical_pair :
    (canonicalJson (.object [("b", .number 1), ("a", .null)]) = canonicalJson (.object [("a", .null), ("b", .number 1)]) ↔
      JsValue.Equal (.object [("b", .number 1), ("a", .null)]) (.object [("a", .null), ("b", .number 1)])) ∧
    ∃ text back, canonicalJson (.object [("b", .number 1), ("a", .null)]) = .ok text ∧
      JsValue.parse text = some back ∧ JsValue.Equal back (.object [("b", .number 1), ("a", .null)]) := by
  have one : IsDecimal 1 := by decide
  have json : (JsValue.object [("b", .number 1), ("a", .null)]).IsJson :=
    ⟨by simp [JsValue.Distinct], one, trivial, trivial⟩
  have json' : (JsValue.object [("a", .null), ("b", .number 1)]).IsJson :=
    ⟨by simp [JsValue.Distinct], trivial, one, trivial⟩
  obtain ⟨decides, reads, -⟩ := canonicalJson_canonical (fun text => text) json json'
  exact ⟨decides, reads⟩

end Canonical

end QuarkSelfAI.CapabilityPlatform

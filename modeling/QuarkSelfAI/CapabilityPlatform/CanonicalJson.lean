import Mathlib.Data.List.Sort
import QuarkSelfAI.Foundation.JsonParse
import QuarkSelfAI.Foundation.Table

/-!
# Canonical JSON

`canonicalJson` writes the members of every object in the order of their names, so
that equal values have equal texts and a digest can stand for a value. The text
determines the value up to the order of members.
-/

namespace QuarkSelfAI.CapabilityPlatform

open Foundation

/-! ## The text -/

/-- The UTF-16 code units of a character. -/
def utf16Codes (char : Char) : List Nat :=
  if char.toNat < 0x10000 then [char.toNat]
  else [0xD800 + (char.toNat - 0x10000) / 0x400, 0xDC00 + (char.toNat - 0x10000) % 0x400]

/-- The order `sort` puts texts in. -/
def textOrder (left right : String) : Prop := left.toList.flatMap utf16Codes ≤ right.toList.flatMap utf16Codes

instance : DecidableRel textOrder := fun left right =>
  inferInstanceAs (Decidable (left.toList.flatMap utf16Codes ≤ right.toList.flatMap utf16Codes))

/-- Members in the order of their names. -/
def sortMembers {Value : Type} (members : List (String × Value)) : List (String × Value) :=
  members.insertionSort fun left right => textOrder left.1 right.1

def memberTexts : List (String × Except String String) → Except String (List String)
  | [] => .ok []
  | (name, result) :: rest => do
    let text ← result
    let texts ← memberTexts rest
    .ok ((quote name ++ ":" ++ text) :: texts)

def isUndefined : JsValue → Bool
  | .undefined => true
  | _ => false

mutual

def canonicalJson : JsValue → Except String String
  | .null => .ok "null"
  | .bool value => .ok (if value then "true" else "false")
  | .string text => .ok (quote text)
  | .number value => .ok (numberText value)
  | .nonFinite => .error "canonical JSON rejects non-finite numbers"
  | .undefined => .error "canonical JSON rejects undefined"
  | .array items => do
    let texts ← canonicalItems items
    .ok ("[" ++ joined texts ++ "]")
  | .object members => do
    let results := canonicalMembers members
    if members.any fun member => isUndefined member.2 then
      .error "canonical JSON rejects undefined values"
    let texts ← memberTexts (sortMembers results)
    .ok ("\x7b" ++ joined texts ++ "\x7d")

def canonicalItems : List JsValue → Except String (List String)
  | [] => .ok []
  | item :: rest => do
    let text ← canonicalJson item
    let texts ← canonicalItems rest
    .ok (text :: texts)

/-- The text of every member, or why it has none. -/
def canonicalMembers : List (String × JsValue) → List (String × Except String String)
  | [] => []
  | (name, value) :: rest => (name, canonicalJson value) :: canonicalMembers rest

end

/-! ## Texts of items and members -/

theorem canonicalItems_ok {items : List JsValue} {texts : List String} : canonicalItems items = .ok texts ↔
      List.Forall₂ (fun item text => canonicalJson item = .ok text) items texts := by
  induction items generalizing texts with
  | nil =>
    simp only [canonicalItems, List.forall₂_nil_left_iff]
    exact ⟨fun same => (Except.ok.inj same).symm, fun none => by rw [none]⟩
  | cons item rest ih =>
    simp only [canonicalItems, bind_ok, ih]
    constructor
    · rintro ⟨text, first, others, later, same⟩
      cases same
      exact .cons first later
    · intro written
      cases written with
      | cons first later => exact ⟨_, first, _, later, rfl⟩

theorem canonicalMembers_eq (members : List (String × JsValue)) :
    canonicalMembers members = members.map fun member => (member.1, canonicalJson member.2) := by
  induction members with
  | nil => rfl
  | cons member rest ih =>
    obtain ⟨name, value⟩ := member
    rw [canonicalMembers, ih, List.map_cons]

theorem sortMembers_map {α β : Type} (change : α → β) (members : List (String × α)) :
    sortMembers (members.map fun member => (member.1, change member.2)) =
      (sortMembers members).map fun member => (member.1, change member.2) := by
  symm
  exact List.map_insertionSort _ _ _ members fun _ _ _ _ => Iff.rfl

theorem sortMembers_perm {Value : Type} (members : List (String × Value)) : (sortMembers members).Perm members :=
  List.perm_insertionSort _ members

/-- A member as its text. -/
def MemberText (member : String × JsValue) (text : String) : Prop :=
  ∃ written, canonicalJson member.2 = .ok written ∧ text = quote member.1 ++ ":" ++ written

theorem memberTexts_ok {members : List (String × JsValue)} {texts : List String} :
    memberTexts (members.map fun member => (member.1, canonicalJson member.2)) = .ok texts ↔
      List.Forall₂ MemberText members texts := by
  induction members generalizing texts with
  | nil =>
    simp only [List.map_nil, memberTexts, List.forall₂_nil_left_iff]
    exact ⟨fun same => (Except.ok.inj same).symm, fun none => by rw [none]⟩
  | cons member rest ih =>
    simp only [List.map_cons, memberTexts, bind_ok, ih]
    constructor
    · rintro ⟨text, first, others, later, same⟩
      cases same
      exact .cons ⟨text, first, rfl⟩ later
    · intro written
      cases written with
      | cons first later =>
        obtain ⟨text, canonical, rfl⟩ := first
        exact ⟨text, canonical, _, later, rfl⟩

variable {text : String}

theorem canonicalJson_array {items : List JsValue} : canonicalJson (.array items) = .ok text ↔ ∃ texts,
      List.Forall₂ (fun item text => canonicalJson item = .ok text) items texts ∧
        text = "[" ++ joined texts ++ "]" := by
  simp only [canonicalJson, bind_ok, canonicalItems_ok]
  constructor
  · rintro ⟨texts, written, same⟩
    exact ⟨texts, written, (Except.ok.inj same).symm⟩
  · rintro ⟨texts, written, rfl⟩
    exact ⟨texts, written, rfl⟩

theorem canonicalJson_object {members : List (String × JsValue)} : canonicalJson (.object members) = .ok text ↔
      (∀ member ∈ members, isUndefined member.2 = false) ∧ ∃ texts,
        List.Forall₂ MemberText (sortMembers members) texts ∧ text = "\x7b" ++ joined texts ++ "\x7d" := by
  rw [canonicalJson, canonicalMembers_eq]
  by_cases missing : members.any fun member => isUndefined member.2
  · have somewhere : ¬ ∀ member ∈ members, isUndefined member.2 = false := by
      intro defined
      obtain ⟨member, listed, gone⟩ := List.any_eq_true.mp missing
      rw [defined member listed] at gone
      cases gone
    simp only [missing, if_true, somewhere, false_and, iff_false]
    intro same
    cases same
  · have defined : ∀ member ∈ members, isUndefined member.2 = false := by
      intro member listed
      by_contra gone
      exact missing (List.any_eq_true.mpr ⟨member, listed, by simpa using gone⟩)
    simp only [missing, Bool.false_eq_true, if_false, sortMembers_map, bind_ok, memberTexts_ok]
    constructor
    · rintro ⟨texts, written, same⟩
      exact ⟨defined, texts, written, (Except.ok.inj same).symm⟩
    · rintro ⟨_, texts, written, rfl⟩
      exact ⟨texts, written, rfl⟩

/-! ## The text determines the value -/

/-- The kinds of value a text tells apart by its first character. -/
inductive JsonKind where
  | null
  | yes
  | no
  | string
  | array
  | object
  | number
deriving DecidableEq

def headKind (first : Char) : JsonKind :=
  if first = 'n' then .null
  else if first = 't' then .yes
  else if first = 'f' then .no
  else if first = quotationMark then .string
  else if first = '[' then .array
  else if first = Char.ofNat 0x7B then .object
  else .number

def jsonKind : JsValue → JsonKind
  | .undefined | .null => .null
  | .bool value => if value then .yes else .no
  | .string _ => .string
  | .array _ => .array
  | .object _ => .object
  | .number _ | .nonFinite => .number

theorem not_number_of {marks : List Char} (none : marks.all (fun mark => !isNumberChar mark) = true) :
    ∀ mark ∈ marks, isNumberChar mark = false := by
  intro mark listed
  simpa using List.all_eq_true.mp none mark listed

theorem headKind_number {first : Char} (number : isNumberChar first) : headKind first = .number := by
  have signs : ∀ other ∈ ['n', 't', 'f', quotationMark, '[', Char.ofNat 0x7B], isNumberChar other = false :=
    not_number_of (by decide)
  have plain : ∀ other ∈ ['n', 't', 'f', quotationMark, '[', Char.ofNat 0x7B], first ≠ other := by
    rintro other listed rfl
    rw [signs first listed] at number
    cases number
  simp only [List.forall_mem_cons, List.not_mem_nil, false_implies, implies_true, and_true] at plain
  obtain ⟨n, t, f, mark, bracket, brace⟩ := plain
  rw [headKind, if_neg n, if_neg t, if_neg f, if_neg mark, if_neg bracket, if_neg brace]

/-- The first character of a text tells the kind of its value. -/
theorem canonicalJson_head {value : JsValue} (written : canonicalJson value = .ok text) :
    ∃ first rest, text.toList = first :: rest ∧ headKind first = jsonKind value ∧ first ∉ [']', Char.ofNat 0x7D] := by
  cases value with
  | undefined | nonFinite =>
    rw [canonicalJson] at written
    cases written
  | null =>
    rw [canonicalJson] at written
    cases written
    exact ⟨'n', _, rfl, rfl, by decide⟩
  | bool value =>
    rw [canonicalJson] at written
    cases written
    cases value with
    | true => exact ⟨'t', _, rfl, rfl, by decide⟩
    | false => exact ⟨'f', _, rfl, rfl, by decide⟩
  | string text =>
    rw [canonicalJson] at written
    cases written
    obtain ⟨rest, head⟩ := quote_head text
    have kind : headKind quotationMark = .string := by decide
    exact ⟨quotationMark, rest, head, kind, by decide⟩
  | number value =>
    rw [canonicalJson] at written
    cases written
    obtain ⟨first, rest, head, number⟩ := numberText_head value
    refine ⟨first, rest, head, headKind_number number, fun close => ?_⟩
    have closes : ∀ other ∈ [']', Char.ofNat 0x7D], isNumberChar other = false := not_number_of (by decide)
    rw [closes first close] at number
    cases number
  | array items =>
    obtain ⟨texts, _, rfl⟩ := canonicalJson_array.mp written
    have kind : headKind '[' = .array := by decide
    exact ⟨'[', _, by rw [String.toList_append, String.toList_append]; rfl, kind, by decide⟩
  | object members =>
    obtain ⟨_, texts, _, rfl⟩ := canonicalJson_object.mp written
    have kind : headKind (Char.ofNat 0x7B) = .object := by decide
    exact ⟨Char.ofNat 0x7B, _, by rw [String.toList_append, String.toList_append]; rfl, kind, by decide⟩


/-- A text is followed by what ends it, so no number goes on. -/
theorem ends_stops {rest : List Char} (ends : Ends rest) : Stops isNumberChar rest := by
  intro first same
  have marks : ∀ other ∈ [',', ']', Char.ofNat 0x7D], isNumberChar other = false := not_number_of (by decide)
  exact marks first (ends first same)

theorem memberText_head {member : String × JsValue} (written : MemberText member text) :
    ∃ first rest, text.toList = first :: rest ∧ first ≠ Char.ofNat 0x7D := by
  obtain ⟨_, _, rfl⟩ := written
  obtain ⟨rest, head⟩ := quote_head member.1
  exact ⟨quotationMark, _, by rw [String.toList_append, String.toList_append, head]; rfl, by decide⟩

/-- A member is read back when its value is. -/
theorem memberText_readBack {member : String × JsValue}
    (reads : ReadBack (fun value text => canonicalJson value = .ok text) JsValue.Equal member.2) :
    ReadBack MemberText JsValue.SameMember member := by
  intro other text another before after written writes endsBefore endsAfter same
  obtain ⟨one, canonical, rfl⟩ := written
  obtain ⟨second, normal, rfl⟩ := writes
  have colon : ":".toList = [':'] := rfl
  simp only [String.toList_append, colon, List.append_assoc, List.singleton_append] at same
  obtain ⟨names, rest⟩ := quoted_append_inj same
  obtain ⟨values, done⟩ := reads canonical normal endsBefore endsAfter (List.cons.inj rest).2
  exact ⟨⟨names, values⟩, done⟩

theorem equal_of_sorted {left right : List (String × JsValue)}
    (same : List.Forall₂ JsValue.SameMember (sortMembers left) (sortMembers right)) :
    JsValue.Equal (.object left) (.object right) := by
  obtain ⟨between, pairs, order⟩ := List.perm_comp_forall₂ (sortMembers_perm left).symm same
  exact .object (JsValue.equalMembers_iff.mpr pairs) (order.trans (sortMembers_perm right))

theorem jsonKind_eq {value other : JsValue} {text another : String} {before after : List Char}
    (written : canonicalJson value = .ok text) (writes : canonicalJson other = .ok another)
    (same : text.toList ++ before = another.toList ++ after) : jsonKind value = jsonKind other := by
  obtain ⟨first, rest, head, kind, _⟩ := canonicalJson_head written
  obtain ⟨second, others, start, sort, _⟩ := canonicalJson_head writes
  rw [head, start] at same
  rw [← kind, ← sort, (List.cons.inj same).1]

/-- The canonical text of a value, with what ends it, determines the value. -/
theorem canonicalJson_readBack (value : JsValue) :
    ReadBack (fun value text => canonicalJson value = .ok text) JsValue.Equal value := by
  induction value using JsValue.induct with
  | undefined | nonFinite =>
    intro other text another before after written
    rw [canonicalJson] at written
    cases written
  | null =>
    intro other text another before after written writes endsBefore endsAfter same
    have kinds := jsonKind_eq written writes same
    cases other with
    | null =>
      cases written.symm.trans writes
      exact ⟨.refl _, List.append_cancel_left same⟩
    | undefined =>
      rw [canonicalJson] at writes
      cases writes
    | bool value => cases value <;> cases kinds
    | _ => cases kinds
  | bool value =>
    intro other text another before after written writes endsBefore endsAfter same
    have kinds := jsonKind_eq written writes same
    cases other with
    | bool other =>
      obtain rfl : value = other := by
        cases value <;> cases other <;> simp [jsonKind] at kinds ⊢
      cases written.symm.trans writes
      exact ⟨.refl _, List.append_cancel_left same⟩
    | _ => cases value <;> cases kinds
  | number value =>
    intro other text another before after written writes endsBefore endsAfter same
    have kinds := jsonKind_eq written writes same
    cases other with
    | number other =>
      rw [canonicalJson] at written writes
      cases written
      cases writes
      obtain ⟨words, rest⟩ := word_append_inj (fun _ => numberText_chars) (fun _ => numberText_chars)
        (ends_stops endsBefore) (ends_stops endsAfter) same
      rw [numberText_injective (String.toList_inj.mp words)]
      exact ⟨.refl _, rest⟩
    | nonFinite =>
      rw [canonicalJson] at writes
      cases writes
    | bool value => cases value <;> cases kinds
    | _ => cases kinds
  | string value =>
    intro other text another before after written writes endsBefore endsAfter same
    have kinds := jsonKind_eq written writes same
    cases other with
    | string other =>
      rw [canonicalJson] at written writes
      cases written
      cases writes
      obtain ⟨rfl, rest⟩ := quoted_append_inj same
      exact ⟨.refl _, rest⟩
    | bool value => cases value <;> cases kinds
    | _ => cases kinds
  | array items reads =>
    intro other text another before after written writes endsBefore endsAfter same
    have kinds := jsonKind_eq written writes same
    cases other with
    | array others =>
      obtain ⟨texts, items, rfl⟩ := canonicalJson_array.mp written
      obtain ⟨anothers, others, rfl⟩ := canonicalJson_array.mp writes
      have opening : "[".toList = ['['] := rfl
      have closing : "]".toList = [']'] := rfl
      simp only [String.toList_append, opening, closing, List.append_assoc,
        List.cons_append, List.cons.injEq, true_and] at same
      have heads : ∀ {item : JsValue} {text}, canonicalJson item = .ok text →
          ∃ first rest, text.toList = first :: rest ∧ first ≠ ']' := by
        intro item text written
        obtain ⟨first, rest, head, _, outside⟩ := canonicalJson_head written
        refine ⟨first, rest, head, ?_⟩
        rintro rfl
        exact outside List.mem_cons_self
      have closes : ']' ∈ [']', Char.ofNat 0x7D] := List.mem_cons_self
      obtain ⟨equal, rest⟩ := joined_inj closes reads heads items others same
      exact ⟨.array (JsValue.equalItems_iff.mpr equal), rest⟩
    | bool value => cases value <;> cases kinds
    | _ => cases kinds
  | object members reads =>
    intro other text another before after written writes endsBefore endsAfter same
    have kinds := jsonKind_eq written writes same
    cases other with
    | object others =>
      obtain ⟨_, texts, members, rfl⟩ := canonicalJson_object.mp written
      obtain ⟨_, anothers, others, rfl⟩ := canonicalJson_object.mp writes
      have opening : "\x7b".toList = [Char.ofNat 0x7B] := by decide
      have closing : "\x7d".toList = [Char.ofNat 0x7D] := by decide
      simp only [String.toList_append, opening, closing, List.append_assoc,
        List.cons_append, List.cons.injEq, true_and] at same
      have closes : Char.ofNat 0x7D ∈ [']', Char.ofNat 0x7D] := by decide
      obtain ⟨equal, rest⟩ := joined_inj closes
        (fun member listed => memberText_readBack
          (reads member ((sortMembers_perm _).mem_iff.mp listed)))
        memberText_head members others same
      exact ⟨equal_of_sorted equal, rest⟩
    | bool value => cases value <;> cases kinds
    | _ => cases kinds

/-- Values with one canonical text are equal. -/
theorem canonicalJson_inj {left right : JsValue} (one : canonicalJson left = .ok text)
    (other : canonicalJson right = .ok text) : JsValue.Equal left right :=
  (canonicalJson_readBack left one other ends_nil ends_nil rfl).1

end QuarkSelfAI.CapabilityPlatform

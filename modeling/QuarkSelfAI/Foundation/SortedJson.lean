import QuarkSelfAI.Foundation.JsonParse
import QuarkSelfAI.Foundation.StableSort

/-!
# JSON with sorted members

A text of a value whose objects list their members in a given order of names. A member that is `undefined` is
written as that word, and such a text is no JSON; the text of a JSON value reads back as the value with its
members sorted. The order of names may call different names equal.
-/

namespace QuarkSelfAI.Foundation

namespace JsValue

/-- JSON, but for members that are `undefined`. -/
inductive Loose : JsValue → Prop where
  | null : Loose .null
  | bool (value : Bool) : Loose (.bool value)
  | number {value : Rat} (decimal : IsDecimal value) : Loose (.number value)
  | string (text : String) : Loose (.string text)
  | array {items : List JsValue} (each : ∀ item ∈ items, Loose item) : Loose (.array items)
  | object {members : List (String × JsValue)} (distinct : Distinct members)
      (each : ∀ member ∈ members, member.2 ≠ .undefined → Loose member.2) : Loose (.object members)

/-- A member, as its name and its text. -/
def memberText (member : String × String) : String := quote member.1 ++ ":" ++ member.2

section Texts

variable (precedes : String → String → Prop) [DecidableRel precedes]

/-- Members in the order of their names. -/
def sortByName {Value : Type} (members : List (String × Value)) : List (String × Value) :=
  members.insertionSort fun left right => precedes left.1 right.1

mutual

/-- The text of a value; `none` stands for `undefined`. -/
def sortedJson : JsValue → Option String
  | .undefined => none
  | .null => some "null"
  | .bool value => some (if value then "true" else "false")
  | .number value => some (numberText value)
  | .nonFinite => some "null"
  | .string text => some (quote text)
  | .array items => some ("[" ++ joined (sortedItems items) ++ "]")
  | .object members =>
    some (String.ofList [openBrace] ++ joined ((sortByName precedes (sortedMembers members)).map memberText) ++
        String.ofList [closeBrace])

/-- `join` writes nothing for an item that is `undefined`. -/
def sortedItems : List JsValue → List String
  | [] => []
  | item :: rest => (sortedJson item).getD "" :: sortedItems rest

/-- A template writes the word for a member that is `undefined`. -/
def sortedMembers : List (String × JsValue) → List (String × String)
  | [] => []
  | (name, value) :: rest => (name, (sortedJson value).getD "undefined") :: sortedMembers rest

end

mutual

/-- The value with its members sorted, at every depth. -/
def arrange : JsValue → JsValue
  | .array items => .array (arrangeItems items)
  | .object members => .object (sortByName precedes (arrangeMembers members))
  | value => value

def arrangeItems : List JsValue → List JsValue
  | [] => []
  | item :: rest => arrange item :: arrangeItems rest

def arrangeMembers : List (String × JsValue) → List (String × JsValue)
  | [] => []
  | (name, value) :: rest => (name, arrange value) :: arrangeMembers rest

end

end Texts

variable {precedes : String → String → Prop} [DecidableRel precedes] {value : JsValue} {other : JsValue}

theorem sortByName_perm {Value : Type} (members : List (String × Value)) : (sortByName precedes members).Perm members :=
  List.perm_insertionSort _ members

theorem sortByName_map {α β : Type} (change : α → β) (members : List (String × α)) :
    sortByName precedes (members.map fun member => (member.1, change member.2)) =
      (sortByName precedes members).map fun member => (member.1, change member.2) := by
  symm
  exact List.map_insertionSort _ _ _ members fun _ _ _ _ => Iff.rfl

theorem names_sortByName {Value : Type} (members : List (String × Value)) :
    (sortByName precedes members).map Prod.fst = (members.map Prod.fst).insertionSort precedes :=
  List.map_insertionSort _ _ _ members fun _ _ _ _ => Iff.rfl

theorem sortedItems_eq (items : List JsValue) :
    sortedItems precedes items = items.map fun item => (sortedJson precedes item).getD "" := by
  induction items with
  | nil => rfl
  | cons item items ih => rw [sortedItems, ih, List.map_cons]

theorem sortedMembers_eq (members : List (String × JsValue)) : sortedMembers precedes members =
      members.map fun member => (member.1, (sortedJson precedes member.2).getD "undefined") := by
  induction members with
  | nil => rfl
  | cons member members ih => rw [sortedMembers, ih, List.map_cons]

theorem arrangeItems_eq (items : List JsValue) : arrangeItems precedes items = items.map (arrange precedes) := by
  induction items with
  | nil => rfl
  | cons item items ih => rw [arrangeItems, ih, List.map_cons]

theorem arrangeMembers_eq (members : List (String × JsValue)) :
    arrangeMembers precedes members = members.map fun member => (member.1, arrange precedes member.2) := by
  induction members with
  | nil => rfl
  | cons member members ih => rw [arrangeMembers, ih, List.map_cons]

/-- Sorting keeps the names. -/
theorem names_arranged (members : List (String × JsValue)) :
    (members.map fun member => (member.1, arrange precedes member.2)).map Prod.fst = members.map Prod.fst := by
  rw [List.map_map]
  rfl

/-- Sorting the members of a value leaves it equal. -/
theorem equal_arrange (value : JsValue) : Equal (value.arrange precedes) value := by
  induction value using JsValue.induct with
  | undefined | nonFinite | null | bool | number | string => exact .refl _
  | array items ih =>
    rw [arrange, arrangeItems_eq]
    refine .array (equalItems_iff.mpr ?_)
    rw [List.forall₂_map_left_iff, List.forall₂_same]
    exact ih
  | object members ih =>
    rw [arrange, arrangeMembers_eq, sortByName_map (JsValue.arrange precedes)]
    have perm : (sortByName precedes members).Perm members := sortByName_perm members
    refine .object (equalMembers_iff.mpr ?_) perm
    rw [List.forall₂_map_left_iff, List.forall₂_same]
    exact fun member listed => ⟨rfl, ih member (perm.mem_iff.mp listed)⟩

/-! ## Texts of JSON values -/

theorem IsJson.arrange (json : IsJson value) : IsJson (value.arrange precedes) := by
  induction value using JsValue.induct with
  | undefined | nonFinite => exact json.elim
  | null | bool | number | string => exact json
  | array items ih =>
    have each := areJson_iff.mp json
    rw [JsValue.arrange, arrangeItems_eq]
    refine areJson_iff.mpr fun item listed => ?_
    obtain ⟨own, there, rfl⟩ := List.mem_map.mp listed
    exact ih own there (each own there)
  | object members ih =>
    obtain ⟨distinct, each⟩ := json
    have each := haveJson_iff.mp each
    rw [JsValue.arrange, arrangeMembers_eq]
    have perm : (sortByName precedes (members.map fun member => (member.1, JsValue.arrange precedes member.2))).Perm _ :=
      sortByName_perm _
    refine ⟨?_, haveJson_iff.mpr fun member listed => ?_⟩
    · rw [Distinct, (perm.map Prod.fst).nodup_iff, names_arranged]
      exact distinct
    · obtain ⟨own, there, rfl⟩ := List.mem_map.mp (perm.mem_iff.mp listed)
      exact ih own there (each own there)

theorem stringifyItems_json {items : List JsValue} (json : ∀ item ∈ items, IsJson item) :
    stringifyItems items = items.map fun item => (stringify item).getD "" := by
  induction items with
  | nil => rfl
  | cons item items ih =>
    obtain ⟨text, written⟩ := (json item List.mem_cons_self).written
    rw [stringifyItems, ih fun other later => json other (List.mem_cons_of_mem _ later), List.map_cons, written]
    rfl

theorem stringifyMembers_json {members : List (String × JsValue)} (json : ∀ member ∈ members, IsJson member.2) :
    stringifyMembers members =
      members.map fun member => quote member.1 ++ ":" ++ (stringify member.2).getD "undefined" := by
  induction members with
  | nil => rfl
  | cons member members ih =>
    obtain ⟨text, written⟩ := (json member List.mem_cons_self).written
    rw [stringifyMembers_cons written, ih fun other later => json other (List.mem_cons_of_mem _ later), List.map_cons,
      written]
    rfl

/-- A JSON value is written as the value with its members sorted. -/
theorem IsJson.sortedJson (json : IsJson value) :
    JsValue.sortedJson precedes value = stringify (value.arrange precedes) := by
  induction value using JsValue.induct with
  | undefined | nonFinite => exact json.elim
  | null | bool | number | string => rfl
  | array items ih =>
    have each := areJson_iff.mp json
    have texts : sortedItems precedes items = stringifyItems (items.map (JsValue.arrange precedes)) := by
      rw [sortedItems_eq, stringifyItems_json, List.map_map]
      · refine List.map_congr_left fun item listed => ?_
        rw [ih item listed (each item listed)]
        rfl
      · intro item listed
        obtain ⟨own, there, rfl⟩ := List.mem_map.mp listed
        exact (each own there).arrange
    rw [JsValue.sortedJson, JsValue.arrange, arrangeItems_eq, texts]
    rfl
  | object members ih =>
    have each := haveJson_iff.mp json.2
    have texts : (sortByName precedes (sortedMembers precedes members)).map memberText =
        stringifyMembers (sortByName precedes (members.map fun member => (member.1, JsValue.arrange precedes member.2))) := by
      rw [sortedMembers_eq, sortByName_map fun value => (JsValue.sortedJson precedes value).getD "undefined",
        sortByName_map (JsValue.arrange precedes), stringifyMembers_json, List.map_map, List.map_map]
      · refine List.map_congr_left fun member listed => ?_
        have listed := (sortByName_perm members).mem_iff.mp listed
        simp only [Function.comp_apply, ih member listed (each member listed), memberText]
      · intro member listed
        obtain ⟨own, there, rfl⟩ := List.mem_map.mp listed
        exact (each own ((sortByName_perm members).mem_iff.mp there)).arrange
    rw [JsValue.sortedJson, JsValue.arrange, arrangeMembers_eq, texts]
    rfl

/-- The text of a JSON value reads back as the value with its members sorted. -/
theorem IsJson.parse_sortedJson (json : IsJson value) :
    ∃ text, JsValue.sortedJson precedes value = some text ∧ parse text = some (value.arrange precedes) := by
  have arranged : IsJson (value.arrange precedes) := json.arrange
  obtain ⟨text, written⟩ := arranged.written
  refine ⟨text, json.sortedJson.trans written, ?_⟩
  have read := arranged.parse_stringify
  rwa [written, Option.bind_some] at read

/-! ## Texts with a member that is undefined -/

/-- A text that is no JSON, whatever ends it. -/
structure Broken (text : String) : Prop where
  head : ∃ first rest, text.toList = first :: rest ∧ isJsonSpace first = false ∧ first ≠ ']'
  fails : ∀ (fuel : Nat) (rest : List Char), Ends rest → text.toList.length ≤ fuel →
    readValue fuel (text.toList ++ rest) = none

/-- A text of a JSON value, or one that is broken. -/
def Told (text : String) : Prop := (∃ value, IsJson value ∧ stringify value = some text) ∨ Broken text

theorem Told.head {text : String} (told : Told text) :
    ∃ first rest, text.toList = first :: rest ∧ isJsonSpace first = false ∧ first ≠ ']' := by
  rcases told with ⟨value, -, written⟩ | broken
  · exact stringify_head written
  · exact broken.head

/-- What is read off a text that is told: a value and what follows, or nothing. -/
theorem Told.read {text : String} {fuel : Nat} {rest : List Char} (told : Told text) (ends : Ends rest)
    (enough : text.toList.length ≤ fuel) :
    (∃ value, readValue fuel (text.toList ++ rest) = some (value, rest)) ∨ readValue fuel (text.toList ++ rest) = none := by
  rcases told with ⟨value, json, written⟩ | broken
  · exact .inl ⟨value, json.reads text written fuel rest ends enough⟩
  · exact .inr (broken.fails fuel rest ends enough)

theorem broken_undefined : Broken "undefined" := by
  refine ⟨⟨'u', _, rfl, by decide, by decide⟩, fun fuel rest _ enough => ?_⟩
  obtain ⟨fuel, rfl⟩ : ∃ less, fuel = less + 1 := ⟨fuel - 1, by simp at enough; omega⟩
  rfl

section Sequences

variable {text : String} {texts : List String} {fuel : Nat} {rest : List Char}

theorem readItems_broken (told : ∀ other ∈ text :: texts, Told other) (broken : ∃ other ∈ text :: texts, Broken other)
    (enough : (joined (text :: texts)).toList.length < fuel) :
    readItems fuel ((joined (text :: texts)).toList ++ ']' :: rest) = none := by
  induction texts generalizing text fuel with
  | nil =>
    obtain ⟨fuel, rfl⟩ : ∃ less, fuel = less + 1 := ⟨fuel - 1, by omega⟩
    obtain ⟨other, listed, broken⟩ := broken
    obtain rfl := List.mem_singleton.mp listed
    simp only [joined] at enough ⊢
    rw [readItems, broken.fails _ _ (ends_cons (by decide)) (by omega)]
  | cons second texts ih =>
    obtain ⟨fuel, rfl⟩ : ∃ less, fuel = less + 1 := ⟨fuel - 1, by omega⟩
    rw [joined_cons, List.length_append, List.length_cons] at enough
    rw [joined_cons, List.append_assoc, List.cons_append, readItems]
    rcases broken with ⟨other, listed, broken⟩
    rcases List.mem_cons.mp listed with rfl | later
    · rw [broken.fails _ _ (ends_cons (by decide)) (by omega)]
    · rcases @Told.read text fuel (',' :: ((joined (second :: texts)).toList ++ ']' :: rest))
        (told text List.mem_cons_self) (ends_cons (by decide)) (by omega) with ⟨value, read⟩ | failed
      · have behind := @ih second fuel (fun another listed => told another (List.mem_cons_of_mem _ listed))
          ⟨other, later, broken⟩ (by omega)
        simp only [read, readMark_own ',' (by decide), behind, Option.map_none]
      · rw [failed]

variable {member : String × String} {members : List (String × String)}

/-- The name of a member is read up to its text. -/
theorem readName_text : ∃ others, (memberText member).toList ++ rest = quotationMark :: others ∧
    readString others = some (member.1, ':' :: (member.2.toList ++ rest)) := by
  obtain ⟨others, split, read⟩ := readString_quote member.1 (':' :: (member.2.toList ++ rest))
  refine ⟨others, ?_, read⟩
  rw [memberText, String.toList_append, String.toList_append, ← split]
  simp

theorem memberText_length : (memberText member).toList.length = (quote member.1).toList.length + 1 + member.2.toList.length := by
  rw [memberText, String.toList_append, String.toList_append, List.length_append, List.length_append]
  rfl

theorem readMembers_broken (told : ∀ other ∈ member :: members, Told other.2)
    (broken : ∃ other ∈ member :: members, Broken other.2)
    (enough : (joined ((member :: members).map memberText)).toList.length < fuel) :
    readMembers fuel ((joined ((member :: members).map memberText)).toList ++ closeBrace :: rest) = none := by
  induction members generalizing member fuel with
  | nil =>
    obtain ⟨fuel, rfl⟩ : ∃ less, fuel = less + 1 := ⟨fuel - 1, by omega⟩
    obtain ⟨other, listed, broken⟩ := broken
    obtain rfl := List.mem_singleton.mp listed
    simp only [List.map_cons, List.map_nil, joined, memberText_length] at enough ⊢
    obtain ⟨others, split, name⟩ := @readName_text (closeBrace :: rest) other
    rw [split, readMembers, readMark_own _ (by decide), Option.bind_some, name]
    have failed := broken.fails fuel (closeBrace :: rest) (ends_cons (by decide)) (by omega)
    simp only [readMark_own ':' (by decide), Option.bind_some, failed]
  | cons second members ih =>
    obtain ⟨fuel, rfl⟩ : ∃ less, fuel = less + 1 := ⟨fuel - 1, by omega⟩
    simp only [List.map_cons] at enough ih ⊢
    rw [joined_cons, List.length_append, List.length_cons, memberText_length] at enough
    rw [joined_cons, List.append_assoc, List.cons_append]
    obtain ⟨others, split, name⟩ := @readName_text
      (',' :: ((joined (memberText second :: members.map memberText)).toList ++ closeBrace :: rest)) member
    rw [split, readMembers, readMark_own _ (by decide), Option.bind_some, name]
    simp only [readMark_own ':' (by decide), Option.bind_some]
    rcases broken with ⟨other, listed, broken⟩
    rcases List.mem_cons.mp listed with rfl | later
    · rw [broken.fails fuel _ (ends_cons (by decide)) (by omega)]
    · rcases @Told.read member.2 fuel
        (',' :: ((joined (memberText second :: members.map memberText)).toList ++ closeBrace :: rest))
        (told member List.mem_cons_self) (ends_cons (by decide)) (by omega) with ⟨value, read⟩ | failed
      · have behind := @ih fuel second (fun another listed => told another (List.mem_cons_of_mem _ listed))
          ⟨other, later, broken⟩ (by omega)
        simp only [read, readMark_own ',' (by decide), behind, Option.map_none]
      · rw [failed]

end Sequences

theorem broken_array {items : List JsValue}
    (told : ∀ item ∈ items, ∃ text, sortedJson precedes item = some text ∧ Told text)
    (broken : ∃ item ∈ items, ∃ text, sortedJson precedes item = some text ∧ Broken text) :
    Broken ("[" ++ joined (sortedItems precedes items) ++ "]") := by
  have split : ("[" ++ joined (sortedItems precedes items) ++ "]").toList =
      '[' :: ((joined (sortedItems precedes items)).toList ++ [']']) := by
    rw [String.toList_append, String.toList_append]
    rfl
  have told : ∀ text ∈ sortedItems precedes items, Told text := by
    intro text listed
    rw [sortedItems_eq] at listed
    obtain ⟨item, there, rfl⟩ := List.mem_map.mp listed
    obtain ⟨text, written, told⟩ := told item there
    rwa [written, Option.getD_some]
  have broken : ∃ text ∈ sortedItems precedes items, Broken text := by
    obtain ⟨item, there, text, written, broken⟩ := broken
    rw [sortedItems_eq]
    exact ⟨text, List.mem_map.mpr ⟨item, there, by rw [written, Option.getD_some]⟩, broken⟩
  refine ⟨⟨'[', _, split, by decide, by decide⟩, fun fuel rest ends enough => ?_⟩
  rw [split, List.length_cons, List.length_append, List.length_singleton] at enough
  obtain ⟨fuel, rfl⟩ : ∃ less, fuel = less + 1 := ⟨fuel - 1, by omega⟩
  have marks : '[' ≠ quotationMark := by decide
  rw [split, List.cons_append, List.append_assoc, List.singleton_append, readValue, skipSpace_cons (by decide)]
  simp only [if_neg marks, if_true]
  generalize sortedItems precedes items = texts at *
  cases texts with
  | nil =>
    obtain ⟨text, listed, -⟩ := broken
    cases listed
  | cons text texts =>
    obtain ⟨head, tail, own, plain, other⟩ := (told text List.mem_cons_self).head
    have begins : readMark ']' ((joined (text :: texts)).toList ++ ']' :: rest) = none := by
      rw [joined_toList, own]
      exact readMark_other _ _ plain other
    rw [begins]
    simp only [readItems_broken told broken (show _ < fuel by omega), Option.map_none]

theorem broken_object {members : List (String × JsValue)}
    (told : ∀ member ∈ members, Told ((sortedJson precedes member.2).getD "undefined"))
    (broken : ∃ member ∈ members, Broken ((sortedJson precedes member.2).getD "undefined")) :
    Broken (String.ofList [openBrace] ++
      joined ((sortByName precedes (sortedMembers precedes members)).map memberText) ++ String.ofList [closeBrace]) := by
  have listed : ∀ member : String × String, member ∈ sortByName precedes (sortedMembers precedes members) ↔
      ∃ own ∈ members, (own.1, (sortedJson precedes own.2).getD "undefined") = member := by
    intro member
    rw [(sortByName_perm _).mem_iff, sortedMembers_eq, List.mem_map]
  have told : ∀ member ∈ sortByName precedes (sortedMembers precedes members), Told member.2 := by
    intro member there
    obtain ⟨own, found, rfl⟩ := (listed member).mp there
    exact told own found
  have broken : ∃ member ∈ sortByName precedes (sortedMembers precedes members), Broken member.2 := by
    obtain ⟨own, found, broken⟩ := broken
    exact ⟨_, (listed _).mpr ⟨own, found, rfl⟩, broken⟩
  generalize sortByName precedes (sortedMembers precedes members) = texts at told broken
  have split : (String.ofList [openBrace] ++ joined (texts.map memberText) ++ String.ofList [closeBrace]).toList =
      openBrace :: ((joined (texts.map memberText)).toList ++ [closeBrace]) := by
    rw [String.toList_append, String.toList_append, String.toList_ofList, String.toList_ofList]
    rfl
  refine ⟨⟨openBrace, _, split, by decide, by decide⟩, fun fuel rest ends enough => ?_⟩
  rw [split, List.length_cons, List.length_append, List.length_singleton] at enough
  obtain ⟨fuel, rfl⟩ : ∃ less, fuel = less + 1 := ⟨fuel - 1, by omega⟩
  have marks : openBrace ≠ quotationMark ∧ openBrace ≠ '[' := by decide
  rw [split, List.cons_append, List.append_assoc, List.singleton_append, readValue, skipSpace_cons (by decide)]
  simp only [if_neg marks.1, if_neg marks.2, if_true]
  cases texts with
  | nil =>
    obtain ⟨text, listed, -⟩ := broken
    cases listed
  | cons member texts =>
    obtain ⟨others, own, -⟩ := @readName_text ((joinedTail (texts.map memberText)) ++ closeBrace :: rest) member
    have begins : readMark closeBrace ((joined ((member :: texts).map memberText)).toList ++ closeBrace :: rest) = none := by
      rw [List.map_cons, joined_toList, List.append_assoc, own]
      exact readMark_other _ _ (by decide) (by decide)
    rw [begins]
    simp only [readMembers_broken told broken (show _ < fuel by omega), Option.map_none]

/-- A value with an undefined member has a text that is no JSON. -/
theorem Loose.broken (loose : Loose value) (other : ¬ IsJson value) :
    ∃ text, sortedJson precedes value = some text ∧ Broken text := by
  have told : ∀ {value : JsValue}, Loose value → (¬ IsJson value → ∃ text, sortedJson precedes value = some text ∧ Broken text) →
      ∃ text, sortedJson precedes value = some text ∧ Told text := by
    intro value loose broken
    by_cases json : IsJson value
    · have arranged : IsJson (value.arrange precedes) := json.arrange
      obtain ⟨text, written⟩ := arranged.written
      exact ⟨text, json.sortedJson.trans written, .inl ⟨_, arranged, written⟩⟩
    · obtain ⟨text, written, broken⟩ := broken json
      exact ⟨text, written, .inr broken⟩
  induction loose with
  | null | bool | string => exact absurd trivial other
  | number decimal => exact absurd decimal other
  | @array items each ih =>
    refine ⟨_, rfl, broken_array (fun item listed => told (each item listed) (ih item listed)) ?_⟩
    have somewhere : ¬ ∀ item ∈ items, IsJson item := fun all => other (areJson_iff.mpr all)
    push Not at somewhere
    obtain ⟨item, listed, own⟩ := somewhere
    exact ⟨item, listed, ih item listed own⟩
  | @object members distinct each ih =>
    have every : ∀ member ∈ members, Told ((sortedJson precedes member.2).getD "undefined") := by
      intro member listed
      by_cases missing : member.2 = .undefined
      · rw [missing]
        exact .inr broken_undefined
      · obtain ⟨text, written, told⟩ := told (each member listed missing) (ih member listed missing)
        rwa [written, Option.getD_some]
    refine ⟨_, rfl, broken_object every ?_⟩
    have somewhere : ¬ ∀ member ∈ members, IsJson member.2 := fun all => other ⟨distinct, haveJson_iff.mpr all⟩
    push Not at somewhere
    obtain ⟨member, listed, own⟩ := somewhere
    refine ⟨member, listed, ?_⟩
    by_cases missing : member.2 = .undefined
    · rw [missing]
      exact broken_undefined
    · obtain ⟨text, written, broken⟩ := ih member listed missing own
      rwa [written, Option.getD_some]

theorem Broken.unparsed {text : String} (broken : Broken text) : parse text = none := by
  have failed := broken.fails (text.length + 1) [] ends_nil (by rw [String.length_toList]; exact Nat.le_succ _)
  rw [List.append_nil] at failed
  rw [parse, failed]

/-! ## Which values have one text -/

/-- A place in a value: an item of an array or a member of an object. -/
inductive Place where
  | index (place : Nat)
  | name (name : String)

/-- What stands in a value at the end of a path. -/
def follow : JsValue → List Place → JsValue
  | value, [] => value
  | .array items, .index place :: path => follow (items[place]?.getD .undefined) path
  | .object members, .name name :: path => follow ((members.lookup name).getD .undefined) path
  | _, _ :: _ => .undefined

variable (precedes) in
/-- Names that tie come in one order. -/
def SameTies (left right : List (String × JsValue)) : Prop :=
  ∀ one other, precedes one other → precedes other one →
    ([one, other].Sublist (left.map Prod.fst) ↔ [one, other].Sublist (right.map Prod.fst))

variable (precedes) in
/-- Wherever both values have an object, names that tie come in one order. -/
def TiesAlike (left right : JsValue) : Prop :=
  ∀ path members others, left.follow path = .object members → right.follow path = .object others →
    SameTies precedes members others

/-- Neither an array nor an object. -/
def isScalar : JsValue → Bool
  | .array _ | .object _ => false
  | _ => true

theorem follow_scalar (scalar : value.isScalar = true) (path : List Place)
    (members : List (String × JsValue)) : value.follow path ≠ .object members := by
  intro found
  cases path with
  | nil =>
    cases value <;> cases found
    cases scalar
  | cons place path => cases value <;> cases place <;> first | cases found | cases scalar

omit [DecidableRel precedes] in
theorem tiesAlike_scalar (scalar : value.isScalar = true) : TiesAlike precedes value other :=
  fun path members _ found => absurd found (follow_scalar scalar path members)

theorem arrange_scalar (scalar : value.isScalar = true) : value.arrange precedes = value := by
  cases value <;> first | rfl | cases scalar

theorem arrange_isScalar : (value.arrange precedes).isScalar = value.isScalar := by
  cases value <;> rfl

theorem equal_scalar (scalar : value.isScalar = true) (equal : Equal value other) : value = other := by
  cases equal with
  | refl => rfl
  | array | object => cases scalar

omit [DecidableRel precedes] in
theorem tiesAlike_array {items others : List JsValue} (length : items.length = others.length) :
    TiesAlike precedes (.array items) (.array others) ↔ List.Forall₂ (TiesAlike precedes) items others := by
  constructor
  · intro alike
    refine List.forall₂_iff_get.mpr ⟨length, fun index left right => fun path members found one other => ?_⟩
    refine alike (.index index :: path) members found ?_ ?_
    · rw [follow, List.getElem?_eq_getElem left]
      exact one
    · rw [follow, List.getElem?_eq_getElem right]
      exact other
  · intro alike path members found one other
    cases path with
    | nil => cases one
    | cons place path =>
      cases place with
      | name name => cases one
      | index index =>
        rw [follow] at one other
        by_cases inside : index < items.length
        · rw [List.getElem?_eq_getElem inside] at one
          rw [List.getElem?_eq_getElem (length ▸ inside)] at other
          exact (List.forall₂_iff_get.mp alike).2 index inside (length ▸ inside) path members found one other
        · rw [List.getElem?_eq_none (not_lt.mp inside)] at one
          exact absurd one (follow_scalar rfl path members)

omit [DecidableRel precedes] in
theorem tiesAlike_object {members others : List (String × JsValue)} :
    TiesAlike precedes (.object members) (.object others) ↔ SameTies precedes members others ∧
      ∀ name, TiesAlike precedes ((members.lookup name).getD .undefined) ((others.lookup name).getD .undefined) := by
  constructor
  · intro alike
    exact ⟨alike [] members others rfl rfl, fun name path found also one other => alike (.name name :: path) found also one other⟩
  · rintro ⟨here, below⟩ path found also one other
    cases path with
    | nil =>
      cases one
      cases other
      exact here
    | cons place path =>
      cases place with
      | index index => cases one
      | name name => exact below name path found also one other

theorem lookup_map_value {α β : Type} (change : α → β) (members : List (String × α)) (name : String) :
    (members.map fun member => (member.1, change member.2)).lookup name = (members.lookup name).map change := by
  induction members with
  | nil => rfl
  | cons member members ih =>
    obtain ⟨own, value⟩ := member
    simp only [List.map_cons, List.lookup_cons, ih]
    cases name == own <;> rfl

/-- Members with the same names in the same places and the same values are the same. -/
theorem eq_of_names {Value : Type} {left right : List (String × Value)} (distinct : Distinct left)
    (names : left.map Prod.fst = right.map Prod.fst) (values : ∀ name, left.lookup name = right.lookup name) :
    left = right := by
  have length : left.length = right.length := by simpa using congrArg List.length names
  refine List.ext_getElem length fun index inLeft inRight => ?_
  have named : left[index].1 = right[index].1 := by
    have place := congrArg (·[index]?) names
    simpa [inLeft, inRight] using place
  have distinct' : Distinct right := by
    rw [Distinct, ← names]
    exact distinct
  have one : left.lookup left[index].1 = some left[index].2 := (lookup_eq_some_iff distinct).mpr (List.getElem_mem inLeft)
  have other : right.lookup right[index].1 = some right[index].2 :=
    (lookup_eq_some_iff distinct').mpr (List.getElem_mem inRight)
  rw [← named, ← values, one] at other
  exact Prod.ext named (Option.some.inj other)

theorem forall₂_congr_mem {α β : Type} {one other : α → β → Prop} {left : List α} {right : List β}
    (same : ∀ item ∈ left, ∀ another ∈ right, (one item another ↔ other item another)) :
    List.Forall₂ one left right ↔ List.Forall₂ other left right := by
  rw [List.forall₂_iff_get, List.forall₂_iff_get]
  refine and_congr_right fun _ => forall_congr' fun index => forall_congr' fun inLeft => forall_congr' fun inRight => ?_
  exact same _ (List.get_mem _ _) _ (List.get_mem _ _)

theorem equal_array_iff {left right : List JsValue} :
    Equal (.array left) (.array right) ↔ List.Forall₂ Equal left right := by
  constructor
  · intro equal
    cases equal with
    | refl => exact List.forall₂_same.mpr fun item _ => .refl item
    | array items => exact equalItems_iff.mp items
  · intro items
    exact .array (equalItems_iff.mpr items)

theorem arrange_eq_scalar (scalar : value.isScalar = true) :
    value.arrange precedes = other.arrange precedes ↔ Equal value other ∧ TiesAlike precedes value other := by
  constructor
  · intro same
    have also : other.isScalar = true := by
      rw [← @arrange_isScalar precedes, ← same, arrange_isScalar, scalar]
    rw [arrange_scalar scalar, arrange_scalar also] at same
    exact ⟨same ▸ .refl value, tiesAlike_scalar scalar⟩
  · rintro ⟨equal, -⟩
    rw [equal_scalar scalar equal]

omit [DecidableRel precedes] in
/-- Members that are equal under every name and arranged alike. -/
theorem equal_tiesAlike_object {members others : List (String × JsValue)} (distinct : Distinct members)
    (distinct' : Distinct others) :
    Equal (.object members) (.object others) ∧ TiesAlike precedes (.object members) (.object others) ↔
      (∀ name, Option.Rel (fun left right => Equal left right ∧ TiesAlike precedes left right)
        (members.lookup name) (others.lookup name)) ∧ SameTies precedes members others := by
  rw [equal_object_iff distinct distinct', tiesAlike_object]
  constructor
  · rintro ⟨equal, ties, below⟩
    refine ⟨fun name => ?_, ties⟩
    have values := equal name
    have alike := below name
    cases one : members.lookup name with
    | none =>
      rw [one] at values
      cases other : others.lookup name with
      | none => exact .none
      | some value =>
        rw [other] at values
        cases values
    | some value =>
      rw [one] at values alike
      cases other : others.lookup name with
      | none =>
        rw [other] at values
        cases values
      | some another =>
        rw [other] at values alike
        cases values with
        | some equal => exact .some ⟨equal, alike⟩
  · rintro ⟨values, ties⟩
    have each : ∀ {one another : Option JsValue},
        Option.Rel (fun left right => Equal left right ∧ TiesAlike precedes left right) one another →
          Option.Rel Equal one another ∧ TiesAlike precedes (one.getD .undefined) (another.getD .undefined) := by
      intro one another both
      cases both with
      | none => exact ⟨.none, tiesAlike_scalar rfl⟩
      | some both => exact ⟨.some both.1, both.2⟩
    exact ⟨fun name => (each (values name)).1, ties, fun name => (each (values name)).2⟩

variable [Std.Total precedes] [IsTrans String precedes]

/-- Sorted members agree exactly when the members do on every name and names that tie come in one order. -/
theorem sorted_eq_iff {left right : List (String × JsValue)} (leftDistinct : Distinct left)
    (rightDistinct : Distinct right) : sortByName precedes left = sortByName precedes right ↔
      (∀ name, left.lookup name = right.lookup name) ∧ SameTies precedes left right := by
  have leftPerm : (sortByName precedes left).Perm left := sortByName_perm left
  have rightPerm : (sortByName precedes right).Perm right := sortByName_perm right
  have perm_of : (∀ name, left.lookup name = right.lookup name) → (left.map Prod.fst).Perm (right.map Prod.fst) := by
    intro values
    refine (List.perm_ext_iff_of_nodup leftDistinct rightDistinct).mpr fun name => ?_
    rw [← lookup_isSome_iff, ← lookup_isSome_iff, values]
  constructor
  · intro same
    have values : ∀ name, left.lookup name = right.lookup name := fun name =>
      lookup_perm leftDistinct (leftPerm.symm.trans (same ▸ rightPerm)) name
    refine ⟨values, (insertionSort_eq_iff (perm_of values) leftDistinct).mp ?_⟩
    rw [← names_sortByName, ← names_sortByName, same]
  · rintro ⟨values, ties⟩
    have sorted : Distinct (sortByName precedes left) := (leftPerm.map Prod.fst).nodup_iff.mpr leftDistinct
    refine eq_of_names sorted ?_ fun name => ?_
    · rw [names_sortByName, names_sortByName]
      exact (insertionSort_eq_iff (perm_of values) leftDistinct).mpr ties
    · rw [lookup_perm sorted leftPerm, values, ← lookup_perm rightDistinct rightPerm.symm]

/-- Two values are arranged alike exactly when they are equal up to the order of members and names that tie come in
one order. -/
theorem arrange_eq_iff (json : IsJson value) (json' : IsJson other) :
    value.arrange precedes = other.arrange precedes ↔ Equal value other ∧ TiesAlike precedes value other := by
  induction value using JsValue.induct generalizing other with
  | undefined | null | bool | number | nonFinite | string => exact arrange_eq_scalar rfl
  | array items ih =>
    cases other with
    | array others =>
      have json := areJson_iff.mp json
      have json' := areJson_iff.mp json'
      have each : List.Forall₂ (fun item another => item.arrange precedes = another.arrange precedes) items others ↔
          List.Forall₂ (fun item another => Equal item another ∧ TiesAlike precedes item another) items others :=
        forall₂_congr_mem fun item listed another found => ih item listed (json item listed) (json' another found)
      rw [arrange, arrange, arrangeItems_eq, arrangeItems_eq, array.injEq, ← List.forall₂_eq_eq_eq,
        List.forall₂_map_left_iff, List.forall₂_map_right_iff, each, equal_array_iff]
      constructor
      · intro both
        exact ⟨both.imp fun _ _ => And.left, (tiesAlike_array both.length_eq).mpr (both.imp fun _ _ => And.right)⟩
      · rintro ⟨equal, alike⟩
        have alike := (tiesAlike_array equal.length_eq).mp alike
        refine List.forall₂_iff_get.mpr ⟨equal.length_eq, fun index inLeft inRight => ?_⟩
        exact ⟨(List.forall₂_iff_get.mp equal).2 index inLeft inRight, (List.forall₂_iff_get.mp alike).2 index inLeft inRight⟩
    | object others =>
      refine ⟨fun same => ?_, fun both => ?_⟩
      · cases same
      · cases both.1
    | _ =>
      refine ⟨fun same => ?_, fun both => ?_⟩
      · cases same
      · cases both.1
  | object members ih =>
    cases other with
    | object others =>
      obtain ⟨distinct, json⟩ := json
      obtain ⟨distinct', json'⟩ := json'
      have json := haveJson_iff.mp json
      have json' := haveJson_iff.mp json'
      have arranged : ∀ {members : List (String × JsValue)}, Distinct members →
          Distinct (members.map fun member => (member.1, arrange precedes member.2)) := by
        intro members distinct
        rw [Distinct, names_arranged]
        exact distinct
      have ties : SameTies precedes (members.map fun member => (member.1, arrange precedes member.2))
          (others.map fun member => (member.1, arrange precedes member.2)) ↔ SameTies precedes members others := by
        rw [SameTies, names_arranged, names_arranged]
        rfl
      rw [arrange, arrange, arrangeMembers_eq, arrangeMembers_eq, object.injEq,
        sorted_eq_iff (arranged distinct) (arranged distinct'), ties, equal_tiesAlike_object distinct distinct']
      refine and_congr_left fun _ => forall_congr' fun name => ?_
      rw [lookup_map_value, lookup_map_value]
      cases one : members.lookup name with
      | none =>
        cases two : others.lookup name with
        | none => exact ⟨fun _ => .none, fun _ => rfl⟩
        | some another => exact ⟨(by cases ·), (by cases ·)⟩
      | some value =>
        cases two : others.lookup name with
        | none => exact ⟨(by cases ·), (by cases ·)⟩
        | some another =>
          have listed := (lookup_eq_some_iff distinct).mp one
          have found := (lookup_eq_some_iff distinct').mp two
          have same := @ih (name, value) listed another (json _ listed) (json' _ found)
          rw [Option.map_some, Option.map_some, Option.some.injEq, same]
          constructor
          · intro both
            exact .some both
          · rintro ⟨both⟩
            exact both
    | array others =>
      refine ⟨fun same => ?_, fun both => ?_⟩
      · cases same
      · cases both.1
    | _ =>
      refine ⟨fun same => ?_, fun both => ?_⟩
      · cases same
      · cases both.1

end JsValue

end QuarkSelfAI.Foundation

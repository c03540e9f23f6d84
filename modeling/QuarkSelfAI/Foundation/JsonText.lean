import Mathlib.Data.List.Forall2
import QuarkSelfAI.Foundation.JsValue
import QuarkSelfAI.Foundation.NumberText

/-!
# Texts of JavaScript values

How `JSON.stringify` writes a string and how `String` writes any value, and the
induction over values that reaches the members of a nested object in any order.
-/

namespace QuarkSelfAI.Foundation

/-! ## Strings in JSON -/

def quotationMark : Char := Char.ofNat 0x22

def reverseSolidus : Char := Char.ofNat 0x5C

/-- The characters with an escape of one letter. -/
def shortEscapes : List (Char × Char) :=
  [(Char.ofNat 0x08, 'b'), (Char.ofNat 0x09, 't'), (Char.ofNat 0x0A, 'n'), (Char.ofNat 0x0C, 'f'),
    (Char.ofNat 0x0D, 'r'), (quotationMark, quotationMark), (reverseSolidus, reverseSolidus)]

def lowerHexDigit (value : Nat) : Char := "0123456789abcdef".toList.getD value '0'

def quoteChar (char : Char) : List Char :=
  match shortEscapes.lookup char with
  | some letter => [reverseSolidus, letter]
  | none =>
    if char.toNat < 0x20 then
      [reverseSolidus, 'u', '0', '0', lowerHexDigit (char.toNat / 16), lowerHexDigit (char.toNat % 16)]
    else [char]

/-- `JSON.stringify(text)`. -/
def quote (text : String) : String :=
  String.ofList (quotationMark :: (text.toList.flatMap quoteChar ++ [quotationMark]))

theorem quote_head (text : String) : ∃ rest, (quote text).toList = quotationMark :: rest := ⟨_, String.toList_ofList⟩

example : quote "a\tb" = String.ofList [quotationMark, 'a', reverseSolidus, 't', 'b', quotationMark] := by
  decide

/-- `texts.join(',')`. -/
def joined : List String → String
  | [] => ""
  | [text] => text
  | text :: rest => text ++ "," ++ joined rest

/-! ## Comma sequences -/

/-- What may follow a value: nothing, a comma, or the end of an array or an object. -/
def Ends (rest : List Char) : Prop := ∀ first ∈ rest.head?, first ∈ [',', ']', Char.ofNat 0x7D]

theorem ends_nil : Ends [] := by
  intro first none
  cases none

theorem ends_cons {first : Char} {rest : List Char} (listed : first ∈ [',', ']', Char.ofNat 0x7D]) :
    Ends (first :: rest) := by
  intro head same
  obtain rfl : first = head := Option.some.inj same
  exact listed

/-- The texts after the first one, each behind a comma. -/
def joinedTail (texts : List String) : List Char := texts.flatMap fun text => ',' :: text.toList

theorem joined_toList (text : String) (rest : List String) :
    (joined (text :: rest)).toList = text.toList ++ joinedTail rest := by
  induction rest generalizing text with
  | nil => simp [joined, joinedTail]
  | cons second rest ih =>
    have comma : ",".toList = [','] := rfl
    rw [joined, String.toList_append, String.toList_append, ih, comma]
    · simp [joinedTail]
    · intro none
      cases none

theorem ends_joinedTail {texts : List String} {close : Char} {rest : List Char}
    (closes : close ∈ [',', ']', Char.ofNat 0x7D]) : Ends (joinedTail texts ++ close :: rest) := by
  cases texts with
  | nil => exact ends_cons closes
  | cons text texts => exact ends_cons (by simp)

/-- `value` can be told from its text, whatever ends the text. -/
def ReadBack {α : Type} (Written : α → String → Prop) (Same : α → α → Prop) (value : α) : Prop :=
  ∀ {other : α} {text another : String} {before after : List Char}, Written value text →
    Written other another → Ends before → Ends after →
    text.toList ++ before = another.toList ++ after → Same value other ∧ before = after

section Sequences

variable {α : Type} {Written : α → String → Prop} {Same : α → α → Prop} {close : Char}

theorem joinedTail_inj (closes : close ∈ [']', Char.ofNat 0x7D]) {values others : List α}
    {texts anothers : List String} {before after : List Char}
    (reads : ∀ value ∈ values, ReadBack Written Same value)
    (written : List.Forall₂ Written values texts) (writes : List.Forall₂ Written others anothers)
    (same : joinedTail texts ++ close :: before = joinedTail anothers ++ close :: after) :
    List.Forall₂ Same values others ∧ before = after := by
  have distinct : close ≠ ',' := by
    rintro rfl
    exact absurd closes (by decide)
  induction written generalizing others anothers with
  | nil =>
    cases writes with
    | nil => exact ⟨.nil, (List.cons.inj same).2⟩
    | cons head tail => exact absurd (List.cons.inj same).1 distinct
  | cons first later ih =>
    cases writes with
    | nil => exact absurd (List.cons.inj same).1 distinct.symm
    | cons head tail =>
      have ends := List.mem_cons_of_mem ',' closes
      simp only [joinedTail, List.flatMap_cons, List.cons_append, List.append_assoc, List.cons.injEq, true_and] at same
      obtain ⟨heads, rest⟩ := reads _ List.mem_cons_self first head (ends_joinedTail ends)
        (ends_joinedTail ends) same
      obtain ⟨tails, done⟩ := ih (fun value listed => reads value (List.mem_cons_of_mem _ listed)) tail rest
      exact ⟨.cons heads tails, done⟩

/-- The texts between the marks of an array or an object determine what they stand for. -/
theorem joined_inj (closes : close ∈ [']', Char.ofNat 0x7D]) {values others : List α}
    {texts anothers : List String} {before after : List Char}
    (reads : ∀ value ∈ values, ReadBack Written Same value)
    (heads : ∀ {value text}, Written value text → ∃ first rest, text.toList = first :: rest ∧ first ≠ close)
    (written : List.Forall₂ Written values texts) (writes : List.Forall₂ Written others anothers)
    (same : (joined texts).toList ++ close :: before = (joined anothers).toList ++ close :: after) :
    List.Forall₂ Same values others ∧ before = after := by
  have ends := List.mem_cons_of_mem ',' closes
  have empty : (joined []).toList = [] := rfl
  cases written with
  | nil =>
    cases writes with
    | nil => exact ⟨.nil, (List.cons.inj same).2⟩
    | cons head tail =>
      obtain ⟨first, rest, text, other⟩ := heads head
      rw [joined_toList, text, empty] at same
      exact absurd (List.cons.inj same).1.symm other
  | cons head tail =>
    cases writes with
    | nil =>
      obtain ⟨first, rest, text, other⟩ := heads head
      rw [joined_toList, text, empty] at same
      exact absurd (List.cons.inj same).1 other
    | cons first later =>
      rw [joined_toList, joined_toList, List.append_assoc, List.append_assoc] at same
      obtain ⟨equal, rest⟩ := reads _ List.mem_cons_self head first (ends_joinedTail ends)
        (ends_joinedTail ends) same
      obtain ⟨equals, done⟩ := joinedTail_inj closes
        (fun value listed => reads value (List.mem_cons_of_mem _ listed)) tail later rest
      exact ⟨.cons equal equals, done⟩

end Sequences

/-! ## String(value) -/

namespace JsValue

mutual

/-- `String(value)`; an object without a `toString` of its own. -/
def toText : JsValue → String
  | .undefined => "undefined"
  | .null => "null"
  | .bool value => if value then "true" else "false"
  | .number value => numberText value
  | .nonFinite => "NaN"
  | .string text => text
  | .array items => joined (itemTexts items)
  | .object _ => "[object Object]"

/-- The items of an array, as `join` writes them. -/
def itemTexts : List JsValue → List String
  | [] => []
  | .undefined :: rest | .null :: rest => "" :: itemTexts rest
  | item :: rest => toText item :: itemTexts rest

end

/-- Induction that has the members of an object, in whatever order they are met. -/
theorem induct {motive : JsValue → Prop} (undefined : motive .undefined) (null : motive .null)
    (bool : ∀ value, motive (.bool value)) (number : ∀ value, motive (.number value)) (nonFinite : motive .nonFinite)
    (string : ∀ text, motive (.string text)) (array : ∀ items, (∀ item ∈ items, motive item) → motive (.array items))
    (object : ∀ members, (∀ member ∈ members, motive member.2) → motive (.object members)) (value : JsValue) :
    motive value := by
  refine @JsValue.rec motive (fun items => ∀ item ∈ items, motive item)
    (fun members => ∀ member ∈ members, motive member.2) (fun member => motive member.2)
    undefined null bool number nonFinite string array object (by simp) ?_ (by simp) ?_ ?_ value
  · intro first rest one others item listed
    rcases List.mem_cons.mp listed with rfl | later
    · exact one
    · exact others item later
  · intro first rest one others member listed
    rcases List.mem_cons.mp listed with rfl | later
    · exact one
    · exact others member later
  · intro name value holds
    exact holds

end JsValue

end QuarkSelfAI.Foundation

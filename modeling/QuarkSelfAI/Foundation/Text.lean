import Mathlib.Algebra.GroupWithZero.Nat
import Mathlib.Data.List.Dedup
import Mathlib.Data.List.Infix
import Mathlib.Data.String.Basic

/-!
# Texts as JavaScript sees them

The few string operations of the host language that the models need, and when a
text can be taken apart again: at its first separator, at its last one, and into
fixed-width numbers.
-/

namespace QuarkSelfAI.Foundation

/-! ## Host operations -/

/-- The white space and line terminators `trim` removes. -/
def isSpace (char : Char) : Bool :=
  char.toNat ∈ [0x09, 0x0A, 0x0B, 0x0C, 0x0D, 0x20, 0xA0, 0x1680, 0x2000, 0x2001, 0x2002, 0x2003,
    0x2004, 0x2005, 0x2006, 0x2007, 0x2008, 0x2009, 0x200A, 0x2028, 0x2029, 0x202F, 0x205F, 0x3000,
    0xFEFF]

/-- `!text.trim()`. -/
def isBlank (text : String) : Bool := text.toList.all isSpace

def trim (text : String) : String := String.ofList (((text.toList.dropWhile isSpace).reverse.dropWhile isSpace).reverse)

/-- The UTF-16 code units of a character. -/
def utf16Units (char : Char) : Nat := if char.toNat < 0x10000 then 1 else 2

/-- `text.length`. -/
def utf16Length (text : String) : Nat := (text.toList.map utf16Units).sum

def utf16Prefix : Nat → List Char → List Char
  | _, [] => []
  | limit, char :: rest => if utf16Units char ≤ limit then char :: utf16Prefix (limit - utf16Units char) rest else []

/-- `text.slice(0, limit)`, without the half of a surrogate pair it may cut off. -/
def utf16Take (limit : Nat) (text : String) : String := String.ofList (utf16Prefix limit text.toList)

/-- `[...new Set(values)]`. -/
def distinct {α : Type} [DecidableEq α] (values : List α) : List α := values.reverse.dedup.reverse

@[simp] theorem mem_distinct {α : Type} [DecidableEq α] {value : α} {values : List α} :
    value ∈ distinct values ↔ value ∈ values := by
  simp [distinct]

/-- `text.includes(part)`. -/
def includes (text part : String) : Bool := text.toList.tails.any part.toList.isPrefixOf

/-- `text.startsWith(start)`. -/
def startsWith (text start : String) : Bool := start.toList.isPrefixOf text.toList

/-- What stands before and after the last separator, as `lastIndexOf` finds it. -/
def splitLast (separator : Char) (text : String) : Option (String × String) :=
  match text.toList.reverse.span (· ≠ separator) with
  | (_, []) => none
  | (after, _ :: before) => some (String.ofList before.reverse, String.ofList after.reverse)

example : splitLast ':' "10:30:5" = some ("10:30", "5") := by decide

def hexDigit (value : Nat) : Char := "0123456789ABCDEF".toList.getD value '0'

/-- The characters `encodeURIComponent` leaves as they are. -/
def isUnreserved (char : Char) : Bool := char.isAlphanum || char ∈ ['-', '_', '.', '!', '~', '*', '\'', '(', ')']

def encodeURIComponent (text : String) : String :=
  String.ofList (text.toList.flatMap fun char =>
    if isUnreserved char then [char]
    else (String.utf8EncodeChar char).flatMap fun byte => ['%', hexDigit (byte.toNat / 16), hexDigit (byte.toNat % 16)])

example : encodeURIComponent "a/é" = "a%2F%C3%A9" := by decide

/-! ## Parts of a text -/

theorem includes_iff {text part : String} : includes text part = true ↔ part.toList <:+: text.toList := by
  rw [includes, List.any_eq_true, List.infix_iff_prefix_suffix]
  constructor
  · rintro ⟨tail, listed, starts⟩
    exact ⟨tail, List.isPrefixOf_iff_prefix.mp starts, (List.mem_tails _ _).mp listed⟩
  · rintro ⟨tail, starts, ends⟩
    exact ⟨tail, (List.mem_tails _ _).mpr ends, List.isPrefixOf_iff_prefix.mpr starts⟩

theorem utf16Prefix_isPrefix (limit : Nat) (text : List Char) : utf16Prefix limit text <+: text := by
  fun_induction utf16Prefix limit text with
  | case1 => exact List.prefix_refl _
  | case2 limit char rest fits ih => exact (List.prefix_cons_inj char).mpr ih
  | case3 => exact List.nil_prefix

/-- A cut beyond a first part keeps that part. -/
theorem utf16Prefix_append {limit : Nat} {first rest : List Char} (fits : (first.map utf16Units).sum ≤ limit) :
    utf16Prefix limit (first ++ rest) = first ++ utf16Prefix (limit - (first.map utf16Units).sum) rest := by
  induction first generalizing limit with
  | nil => rfl
  | cons char first ih =>
    rw [List.map_cons, List.sum_cons] at fits ⊢
    have here : utf16Units char ≤ limit := by omega
    rw [List.cons_append, utf16Prefix, if_pos here, ih (by omega), Nat.sub_sub, List.cons_append]

/-! ## Separators -/

theorem append_cons_inj {α : Type*} {separator : α} {left right before after : List α}
    (inLeft : separator ∉ left) (inRight : separator ∉ right) :
    left ++ separator :: before = right ++ separator :: after ↔ left = right ∧ before = after := by
  induction left generalizing right with
  | nil =>
    cases right with
    | nil => simp
    | cons head right =>
      have different : separator ≠ head := fun same => inRight (same ▸ List.mem_cons_self)
      simp [different]
  | cons head left ih =>
    have different : head ≠ separator := fun same => inLeft (same ▸ List.mem_cons_self)
    cases right with
    | nil => simp [different]
    | cons other right =>
      have later : left ++ separator :: before = right ++ separator :: after ↔ left = right ∧ before = after :=
        ih (fun listed => inLeft (List.mem_cons_of_mem _ listed))
          (fun listed => inRight (List.mem_cons_of_mem _ listed))
      simp [later, and_assoc]

/-- Texts that start with tags free of the separator agree piece by piece. -/
theorem tagged_inj {separator : Char} {left right before after : String}
    (inLeft : separator ∉ left.toList) (inRight : separator ∉ right.toList) :
    left ++ (separator.toString ++ before) = right ++ (separator.toString ++ after) ↔
      left = right ∧ before = after := by
  simp only [← String.toList_inj, String.toList_append, Char.toString, String.toList_singleton, List.singleton_append]
  exact append_cons_inj inLeft inRight

/-- Texts that end with parts free of the separator agree piece by piece. -/
theorem suffixed_inj {separator : Char} {left right before after : String}
    (inBefore : separator ∉ before.toList) (inAfter : separator ∉ after.toList) :
    left ++ (separator.toString ++ before) = right ++ (separator.toString ++ after) ↔
      left = right ∧ before = after := by
  have reversed : before.toList.reverse ++ separator :: left.toList.reverse =
      after.toList.reverse ++ separator :: right.toList.reverse ↔
        before.toList.reverse = after.toList.reverse ∧ left.toList.reverse = right.toList.reverse :=
    append_cons_inj (by simpa using inBefore) (by simpa using inAfter)
  simp only [← String.toList_inj, String.toList_append, Char.toString, String.toList_singleton, List.singleton_append]
  rw [← List.reverse_inj]
  simpa [and_comm] using reversed

/-! ## Numbers -/

theorem decimal_inj {left right : Nat} : left.repr = right.repr ↔ left = right := by
  refine ⟨fun same => ?_, congrArg _⟩
  have digits : Nat.toDigits 10 left = Nat.toDigits 10 right := String.ofList_injective same
  rw [← Nat.ofDigitChars_ten_toDigits (n := left), digits, Nat.ofDigitChars_ten_toDigits]

/-- No decimal number holds a character that is no digit. -/
theorem not_mem_decimal {char : Char} (other : char.isDigit = false) (value : Nat) : char ∉ value.repr.toList := by
  intro listed
  have digit : char ∈ Nat.toDigits 10 value := by simpa [Nat.repr] using listed
  rw [Nat.isDigit_of_mem_toDigits (by decide) (by decide) digit] at other
  cases other

/-- `String(value).padStart(width, '0')`. -/
def pad (width value : Nat) : List Char :=
  let digits := Nat.toDigits 10 value
  List.replicate (width - digits.length) '0' ++ digits

theorem pad_inj {width left right : Nat} (same : pad width left = pad width right) : left = right := by
  have read : ∀ value, Nat.ofDigitChars 10 (pad width value) 0 = value := by
    intro value
    rw [pad, Nat.ofDigitChars_append, Nat.ofDigitChars_replicate_zero, Nat.mul_zero, Nat.ofDigitChars_ten_toDigits]
  rw [← read left, same, read]

theorem length_pad {width value : Nat} (positive : 0 < width) (fits : value < 10 ^ width) :
    (pad width value).length = width := by
  have short : (Nat.toDigits 10 value).length ≤ width := (Nat.length_toDigits_le_iff (by decide) positive).mpr fits
  rw [pad, List.length_append, List.length_replicate]
  omega

theorem pad_isDigit {width value : Nat} {char : Char} (listed : char ∈ pad width value) : char.isDigit := by
  rcases List.mem_append.mp listed with zero | digit
  · rw [List.eq_of_mem_replicate zero]
    decide
  · exact Nat.isDigit_of_mem_toDigits (by decide) (by decide) digit

end QuarkSelfAI.Foundation

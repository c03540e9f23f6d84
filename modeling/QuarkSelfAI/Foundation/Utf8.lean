import Mathlib.Data.List.Basic
import Mathlib.Data.String.Basic

/-!
# Texts as bytes

Texts are encoded in UTF-8. The decoder accepts any bytes: a maximal part of an ill-formed sequence is read as one
replacement character, as the host's decoder reads it. What was encoded is read back.
-/

namespace QuarkSelfAI.Foundation

/-- `Buffer.from(text, 'utf8')`. -/
def utf8Bytes (text : String) : List UInt8 := text.toList.flatMap String.utf8EncodeChar

def replacementChar : Char := Char.ofNat 0xFFFD

/-- A byte that may follow, between two bounds. -/
def followsWithin (low high : Nat) (bytes : List UInt8) : Bool :=
  match bytes with
  | [] => false
  | byte :: _ => low ≤ byte.toNat && byte.toNat ≤ high

/-- Six bits of a byte that follows. -/
def sixBits (bytes : List UInt8) : Nat :=
  match bytes with
  | [] => 0
  | byte :: _ => byte.toNat - 0x80

/-- The character that begins with a byte, and how many of the bytes after it belong to it. -/
def utf8Char (first : Nat) (rest : List UInt8) : Char × Nat :=
  if first < 0x80 then (Char.ofNat first, 0)
  else if first < 0xC2 ∨ 0xF4 < first then (replacementChar, 0)
  else if first < 0xE0 then
    if followsWithin 0x80 0xBF rest then (Char.ofNat ((first - 0xC0) * 64 + sixBits rest), 1) else (replacementChar, 0)
  else if first < 0xF0 then
    -- no overlong form and no surrogate
    if followsWithin (if first = 0xE0 then 0xA0 else 0x80) (if first = 0xED then 0x9F else 0xBF) rest then
      if followsWithin 0x80 0xBF rest.tail then
        (Char.ofNat ((first - 0xE0) * 4096 + sixBits rest * 64 + sixBits rest.tail), 2)
      else (replacementChar, 1)
    else (replacementChar, 0)
  else
    if followsWithin (if first = 0xF0 then 0x90 else 0x80) (if first = 0xF4 then 0x8F else 0xBF) rest then
      if followsWithin 0x80 0xBF rest.tail then
        if followsWithin 0x80 0xBF rest.tail.tail then
          (Char.ofNat ((first - 0xF0) * 262144 + sixBits rest * 4096 + sixBits rest.tail * 64 + sixBits rest.tail.tail), 3)
        else (replacementChar, 2)
      else (replacementChar, 1)
    else (replacementChar, 0)

/-- The characters of some bytes, at most as many as the bound. -/
def utf8Chars : Nat → List UInt8 → List Char
  | 0, _ => []
  | _ + 1, [] => []
  | bound + 1, first :: rest =>
    let (char, more) := utf8Char first.toNat rest
    char :: utf8Chars bound (rest.drop more)

/-- `bytes.toString('utf8')`. -/
def utf8Text (bytes : List UInt8) : String := String.ofList (utf8Chars bytes.length bytes)

example : utf8Text [0x61, 0xE2, 0x82, 0xC3, 0xA9] = "a\uFFFDé" := by decide

theorem toNat_byte {value : Nat} (small : value < 256) : (UInt8.ofNat value).toNat = value := by
  rw [UInt8.toNat_ofNat']
  exact Nat.mod_eq_of_lt small

/-- A byte made of six bits may follow within the bounds it is in. -/
theorem followsWithin_tail (value : Nat) (low high : Nat) (rest : List UInt8) (least : low ≤ value % 64 + 0x80)
    (most : value % 64 + 0x80 ≤ high) : followsWithin low high (UInt8.ofNat (value % 64 + 0x80) :: rest) = true := by
  have byte : (UInt8.ofNat (value % 64 + 0x80)).toNat = value % 64 + 0x80 := toNat_byte (by omega)
  rw [followsWithin, byte]
  simp [least, most]

theorem sixBits_tail (value : Nat) (rest : List UInt8) :
    sixBits (UInt8.ofNat (value % 64 + 0x80) :: rest) = value % 64 := by
  have byte : (UInt8.ofNat (value % 64 + 0x80)).toNat = value % 64 + 0x80 := toNat_byte (by omega)
  calc sixBits (UInt8.ofNat (value % 64 + 0x80) :: rest)
      = (UInt8.ofNat (value % 64 + 0x80)).toNat - 0x80 := rfl
    _ = value % 64 := by omega

/-- A character is read off its own bytes. -/
theorem utf8Char_encode (char : Char) (rest : List UInt8) : ∃ first more, String.utf8EncodeChar char = first :: more ∧
      utf8Char first.toNat (more ++ rest) = (char, more.length) := by
  have valid : char.toNat < 0xD800 ∨ 0xDFFF < char.toNat ∧ char.toNat < 0x110000 := char.valid
  have own : Char.ofNat char.toNat = char := Char.ofNat_toNat char
  have code : char.val.toNat = char.toNat := rfl
  rw [String.utf8EncodeChar, code]
  generalize char.toNat = value at valid own
  by_cases one : value ≤ 0x7F
  · refine ⟨UInt8.ofNat value, [], if_pos one, ?_⟩
    rw [toNat_byte (by omega), utf8Char, if_pos (by omega), own]
    rfl
  by_cases two : value ≤ 0x7FF
  · refine ⟨UInt8.ofNat (value / 64 % 0x20 + 0xC0), [UInt8.ofNat (value % 0x40 + 0x80)], ?_, ?_⟩
    · rw [if_neg one, if_pos two]
    have second : followsWithin 0x80 0xBF (UInt8.ofNat (value % 64 + 0x80) :: rest) = true :=
      followsWithin_tail value _ _ rest (by omega) (by omega)
    have sum : (value / 64 % 0x20 + 0xC0 - 0xC0) * 64 + value % 64 = value := by omega
    rw [toNat_byte (by omega), utf8Char, if_neg (by omega), if_neg (by omega), if_pos (by omega), List.cons_append,
      List.nil_append, if_pos second, sixBits_tail, sum, own]
    rfl
  by_cases three : value ≤ 0xFFFF
  · refine ⟨UInt8.ofNat (value / 4096 % 0x10 + 0xE0),
      [UInt8.ofNat (value / 64 % 0x40 + 0x80), UInt8.ofNat (value % 0x40 + 0x80)], ?_, ?_⟩
    · rw [if_neg one, if_neg two, if_pos three]
    have second : followsWithin (if value / 4096 % 0x10 + 0xE0 = 0xE0 then 0xA0 else 0x80)
        (if value / 4096 % 0x10 + 0xE0 = 0xED then 0x9F else 0xBF)
          (UInt8.ofNat (value / 64 % 64 + 0x80) :: UInt8.ofNat (value % 64 + 0x80) :: rest) = true := by
      apply followsWithin_tail <;> split <;> omega
    have third : followsWithin 0x80 0xBF (UInt8.ofNat (value % 64 + 0x80) :: rest) = true :=
      followsWithin_tail value _ _ rest (by omega) (by omega)
    have sum : (value / 4096 % 0x10 + 0xE0 - 0xE0) * 4096 + value / 64 % 64 * 64 + value % 64 = value := by omega
    rw [toNat_byte (by omega), utf8Char, if_neg (by omega), if_neg (by omega), if_neg (by omega), if_pos (by omega),
      List.cons_append, List.cons_append, List.nil_append, if_pos second, List.tail_cons, if_pos third, sixBits_tail,
      sixBits_tail, sum, own]
    rfl
  · refine ⟨UInt8.ofNat (value / 262144 % 0x08 + 0xF0), [UInt8.ofNat (value / 4096 % 0x40 + 0x80),
      UInt8.ofNat (value / 64 % 0x40 + 0x80), UInt8.ofNat (value % 0x40 + 0x80)], ?_, ?_⟩
    · rw [if_neg one, if_neg two, if_neg three]
    have second : followsWithin (if value / 262144 % 0x08 + 0xF0 = 0xF0 then 0x90 else 0x80)
        (if value / 262144 % 0x08 + 0xF0 = 0xF4 then 0x8F else 0xBF)
          (UInt8.ofNat (value / 4096 % 64 + 0x80) :: UInt8.ofNat (value / 64 % 64 + 0x80) ::
            UInt8.ofNat (value % 64 + 0x80) :: rest) = true := by
      apply followsWithin_tail <;> split <;> omega
    have third : followsWithin 0x80 0xBF
        (UInt8.ofNat (value / 64 % 64 + 0x80) :: UInt8.ofNat (value % 64 + 0x80) :: rest) = true :=
      followsWithin_tail (value / 64) _ _ _ (by omega) (by omega)
    have fourth : followsWithin 0x80 0xBF (UInt8.ofNat (value % 64 + 0x80) :: rest) = true :=
      followsWithin_tail value _ _ rest (by omega) (by omega)
    have sum : (value / 262144 % 0x08 + 0xF0 - 0xF0) * 262144 + value / 4096 % 64 * 4096 + value / 64 % 64 * 64 +
        value % 64 = value := by omega
    rw [toNat_byte (by omega), utf8Char, if_neg (by omega), if_neg (by omega), if_neg (by omega), if_neg (by omega),
      List.cons_append, List.cons_append, List.cons_append, List.nil_append, if_pos second, List.tail_cons,
      if_pos third, List.tail_cons, if_pos fourth, sixBits_tail, sixBits_tail, sixBits_tail, sum, own]
    rfl

/-- What was encoded is read back. -/
theorem utf8Text_utf8Bytes (text : String) : utf8Text (utf8Bytes text) = text := by
  suffices read : ∀ (chars : List Char) (bound : Nat), (chars.flatMap String.utf8EncodeChar).length ≤ bound →
      utf8Chars bound (chars.flatMap String.utf8EncodeChar) = chars by
    rw [utf8Text, utf8Bytes, read text.toList _ (Nat.le_refl _), String.ofList_toList]
  intro chars
  induction chars with
  | nil =>
    intro bound _
    cases bound <;> rfl
  | cons char chars ih =>
    intro bound enough
    obtain ⟨first, more, encoded, found⟩ := utf8Char_encode char (chars.flatMap String.utf8EncodeChar)
    rw [List.flatMap_cons, encoded, List.cons_append] at enough ⊢
    rw [List.length_cons, List.length_append] at enough
    obtain ⟨bound, rfl⟩ : ∃ less, bound = less + 1 := ⟨bound - 1, by omega⟩
    rw [utf8Chars, found]
    dsimp only
    rw [List.drop_append_of_le_length (Nat.le_refl _), List.drop_length, List.nil_append, ih _ (by omega)]

end QuarkSelfAI.Foundation

import Mathlib.Data.List.Basic
import Mathlib.Data.String.Basic

/-!
# Bytes as base64url

Three bytes are written as four digits of six bits, without padding. The decoder leaves out what is no digit.
-/

namespace QuarkSelfAI.Foundation

def base64urlDigits : List Char := "ABCDEFGHIJKLMNOPQRSTUVWXYZabcdefghijklmnopqrstuvwxyz0123456789-_".toList

def base64urlDigit (value : Nat) : Char := base64urlDigits.getD value 'A'

/-- Six bits at a time, the last of them filled up with zeros. -/
def sextets : List Nat → List Nat
  | first :: second :: third :: rest =>
    [first / 4, first % 4 * 16 + second / 16, second % 16 * 4 + third / 64, third % 64] ++ sextets rest
  | [first, second] => [first / 4, first % 4 * 16 + second / 16, second % 16 * 4]
  | [first] => [first / 4, first % 4 * 16]
  | [] => []

/-- Eight bits at a time, without what is left over. -/
def octets : List Nat → List Nat
  | first :: second :: third :: fourth :: rest =>
    [first * 4 + second / 16, second % 16 * 16 + third / 4, third % 4 * 64 + fourth] ++ octets rest
  | [first, second, third] => [first * 4 + second / 16, second % 16 * 16 + third / 4]
  | [first, second] => [first * 4 + second / 16]
  | [_] | [] => []

/-- `bytes.toString('base64url')`. -/
def base64urlText (bytes : List UInt8) : String := String.ofList ((sextets (bytes.map UInt8.toNat)).map base64urlDigit)

/-- `Buffer.from(text, 'base64url')`. -/
def base64urlBytes (text : String) : List UInt8 :=
  (octets (text.toList.filterMap fun char => base64urlDigits.idxOf? char)).map UInt8.ofNat

example : base64urlText [0x66, 0x6F, 0x6F, 0xFF] = "Zm9v_w" := by decide

theorem length_sextets (bytes : List Nat) : (sextets bytes).length = (4 * bytes.length + 2) / 3 := by
  fun_induction sextets bytes with
  | case1 first second third rest ih =>
    simp only [List.length_append, List.length_cons, List.length_nil, ih]
    omega
  | case2 | case3 | case4 => simp

theorem sextets_lt {bytes : List Nat} (small : ∀ byte ∈ bytes, byte < 256) : ∀ digit ∈ sextets bytes, digit < 64 := by
  fun_induction sextets bytes with
  | case1 first second third rest ih =>
    simp only [List.forall_mem_cons] at small
    obtain ⟨one, two, three, later⟩ := small
    simp only [List.forall_mem_append, List.forall_mem_cons]
    exact ⟨⟨by omega, by omega, by omega, by omega, nofun⟩, ih later⟩
  | case2 first second =>
    simp only [List.forall_mem_cons] at small ⊢
    exact ⟨by omega, by omega, by omega, nofun⟩
  | case3 first =>
    simp only [List.forall_mem_cons] at small ⊢
    exact ⟨by omega, by omega, nofun⟩
  | case4 => exact nofun

theorem octets_sextets {bytes : List Nat} (small : ∀ byte ∈ bytes, byte < 256) : octets (sextets bytes) = bytes := by
  fun_induction sextets bytes with
  | case1 first second third rest ih =>
    simp only [List.forall_mem_cons] at small
    obtain ⟨one, two, three, later⟩ := small
    simp only [List.cons_append, List.nil_append, octets, ih later, List.cons.injEq, and_true]
    omega
  | case2 first second =>
    simp only [List.forall_mem_cons] at small
    simp only [octets, List.cons.injEq, and_true]
    omega
  | case3 first =>
    simp only [List.forall_mem_cons] at small
    simp only [octets, List.cons.injEq, and_true]
    omega
  | case4 => rfl

theorem idxOf_base64urlDigit : ∀ digit < 64, base64urlDigits.idxOf? (base64urlDigit digit) = some digit := by
  decide

/-- What was written is read back. -/
theorem base64urlBytes_base64urlText (bytes : List UInt8) : base64urlBytes (base64urlText bytes) = bytes := by
  have small : ∀ byte ∈ bytes.map UInt8.toNat, byte < 256 := List.forall_mem_map.mpr fun byte _ => byte.toNat_lt
  have digits : ((sextets (bytes.map UInt8.toNat)).map base64urlDigit).filterMap (fun char => base64urlDigits.idxOf? char) =
      sextets (bytes.map UInt8.toNat) := by
    rw [List.filterMap_map]
    exact (List.filterMap_congr fun digit listed => idxOf_base64urlDigit digit (sextets_lt small digit listed)).trans
      List.filterMap_some
  have own : UInt8.ofNat ∘ UInt8.toNat = id := funext fun byte => UInt8.ofNat_toNat
  rw [base64urlBytes, base64urlText, String.toList_ofList, digits, octets_sextets small, List.map_map, own, List.map_id]

/-- The digits are written in one code unit each. -/
theorem base64urlDigit_ascii (value : Nat) : (base64urlDigit value).toNat < 128 := by
  have listed : ('A' :: base64urlDigits).all (fun char => decide (char.toNat < 128)) = true := by decide
  refine of_decide_eq_true (List.all_eq_true.mp listed _ ?_)
  rw [base64urlDigit, List.getD_eq_getElem?_getD]
  cases found : base64urlDigits[value]? with
  | none => exact List.mem_cons_self
  | some char => exact List.mem_cons_of_mem _ (List.mem_of_getElem? found)

theorem length_base64urlText (bytes : List UInt8) :
    (base64urlText bytes).toList.length = (4 * bytes.length + 2) / 3 := by
  rw [base64urlText, String.toList_ofList, List.length_map, length_sextets, List.length_map]

end QuarkSelfAI.Foundation

import Mathlib.Algebra.Order.Field.Rat
import Mathlib.Data.List.Basic
import Mathlib.Tactic.FieldSimp
import Mathlib.Tactic.Ring
import QuarkSelfAI.Foundation.Text

/-!
# Numbers as JavaScript writes them

A number is the decimal value its text denotes, and its text is laid out by
`Number::toString`: the significant digits, with a point or an exponent where the
value is large or small. The text determines the number.
-/

namespace QuarkSelfAI.Foundation

/-! ## Reading a text by its first foreign character -/

/-- What does not go on with a character of the class. -/
def Stops {α : Type*} (inClass : α → Bool) (rest : List α) : Prop := ∀ first ∈ rest.head?, inClass first = false

/-- Words of one class agree when they are followed by something else. -/
theorem word_append_inj {α : Type*} {inClass : α → Bool} {left right before after : List α}
    (inLeft : ∀ char ∈ left, inClass char) (inRight : ∀ char ∈ right, inClass char) (stopsLeft : Stops inClass before)
    (stopsRight : Stops inClass after) (same : left ++ before = right ++ after) : left = right ∧ before = after := by
  induction left generalizing right with
  | nil =>
    cases right with
    | nil => exact ⟨rfl, same⟩
    | cons head right =>
      have outside := stopsLeft head (by rw [List.nil_append] at same; simp [same])
      rw [inRight head List.mem_cons_self] at outside
      cases outside
  | cons head left ih =>
    cases right with
    | nil =>
      have outside := stopsRight head (by rw [List.nil_append] at same; simp [← same])
      rw [inLeft head List.mem_cons_self] at outside
      cases outside
    | cons other right =>
      obtain ⟨rfl, tails⟩ := List.cons.inj same
      obtain ⟨rfl, rest⟩ := ih (fun char listed => inLeft char (List.mem_cons_of_mem _ listed))
        (fun char listed => inRight char (List.mem_cons_of_mem _ listed)) tails
      exact ⟨rfl, rest⟩

/-! ## Layouts -/

/-- A decimal numeral: digits before and behind the point, and an exponent. -/
structure NumberLayout where
  whole : List Char
  fraction : List Char
  exponent : Option Int
deriving DecidableEq

namespace NumberLayout

def fractionText : List Char → List Char
  | [] => []
  | digits => '.' :: digits

def exponentText : Option Int → List Char
  | none => []
  | some exponent => 'e' :: (if 0 ≤ exponent then '+' else '-') :: Nat.toDigits 10 exponent.natAbs

def text (layout : NumberLayout) : List Char :=
  layout.whole ++ (fractionText layout.fraction ++ exponentText layout.exponent)

def value (layout : NumberLayout) : Rat :=
  Nat.ofDigitChars 10 (layout.whole ++ layout.fraction) 0 *
    10 ^ (layout.exponent.getD 0 - layout.fraction.length)

def Digits (layout : NumberLayout) : Prop :=
  (∀ char ∈ layout.whole, char.isDigit) ∧ ∀ char ∈ layout.fraction, char.isDigit

theorem exponentText_inj {left right : Option Int} (same : exponentText left = exponentText right) : left = right := by
  cases left with
  | none => cases right <;> simp_all [exponentText]
  | some left =>
    cases right with
    | none => simp [exponentText] at same
    | some right =>
      simp only [exponentText, List.cons.injEq, true_and] at same
      obtain ⟨sign, digits⟩ := same
      have magnitude : left.natAbs = right.natAbs := by
        rw [← Nat.ofDigitChars_ten_toDigits (n := left.natAbs), digits, Nat.ofDigitChars_ten_toDigits]
      have agree : 0 ≤ left ↔ 0 ≤ right := by
        by_cases one : 0 ≤ left <;> by_cases other : 0 ≤ right <;> simp [one, other] at sign ⊢
      congr 1
      omega

theorem exponentText_stops (exponent : Option Int) : Stops Char.isDigit (exponentText exponent) := by
  cases exponent with
  | none | some => simp [Stops, exponentText]

theorem fractionText_stops (fraction : List Char) (exponent : Option Int) :
    Stops Char.isDigit (fractionText fraction ++ exponentText exponent) := by
  cases fraction with
  | nil => simpa [fractionText] using exponentText_stops exponent
  | cons digit fraction => simp [Stops, fractionText]

theorem fractionText_inj {left right : List Char} {one other : Option Int}
    (inLeft : ∀ char ∈ left, char.isDigit) (inRight : ∀ char ∈ right, char.isDigit)
    (same : fractionText left ++ exponentText one = fractionText right ++ exponentText other) :
    left = right ∧ one = other := by
  cases left with
  | nil =>
    cases right with
    | nil => exact ⟨rfl, exponentText_inj (by simpa [fractionText] using same)⟩
    | cons => cases one <;> simp [fractionText, exponentText] at same
  | cons =>
    cases right with
    | nil => cases other <;> simp [fractionText, exponentText] at same
    | cons =>
      have tails := List.tail_eq_of_cons_eq same
      obtain ⟨digits, exponents⟩ := word_append_inj inLeft inRight (exponentText_stops one)
        (exponentText_stops other) tails
      exact ⟨digits, exponentText_inj exponents⟩

/-- The text of a numeral determines its layout. -/
theorem text_inj {left right : NumberLayout} (leftDigits : left.Digits) (rightDigits : right.Digits)
    (same : left.text = right.text) : left = right := by
  obtain ⟨whole, rest⟩ := word_append_inj leftDigits.1 rightDigits.1 (fractionText_stops _ _)
    (fractionText_stops _ _) same
  obtain ⟨fraction, exponent⟩ := fractionText_inj leftDigits.2 rightDigits.2 rest
  cases left
  cases right
  simp_all

end NumberLayout

/-! ## The layout of a number -/

/-- The number `digits × 10 ^ exponent`. -/
structure Scientific where
  digits : Nat
  exponent : Int
deriving DecidableEq

def Scientific.value (number : Scientific) : Rat := number.digits * 10 ^ number.exponent

/-- Drop trailing zeros of the digits, `fuel` of them at most. -/
def stripZeros : Nat → Scientific → Scientific
  | 0, number => number
  | fuel + 1, number =>
    if number.digits % 10 = 0 then stripZeros fuel ⟨number.digits / 10, number.exponent + 1⟩
    else number

/-- How many decimal places a fraction with this denominator needs, when it is finite. -/
def decimalPlaces (denominator : Nat) : Option Nat :=
  (List.range (denominator.log2 + 1)).find? fun places => 10 ^ places % denominator = 0

/-- The significant digits of a positive number. -/
def significant (value : Rat) : Option Scientific :=
  (decimalPlaces value.den).map fun (places : Nat) =>
    let digits := value.num.natAbs * (10 ^ places / value.den)
    stripZeros digits.log2 ⟨digits, -(places : Int)⟩

/-- `Number::toString` for a positive number: `point` digits stand before the point. -/
def Scientific.layout (number : Scientific) : NumberLayout :=
  let digits := Nat.toDigits 10 number.digits
  let point := digits.length + number.exponent
  if digits.length ≤ point ∧ point ≤ 21 then
    ⟨digits ++ List.replicate number.exponent.toNat '0', [], none⟩
  else if 0 < point ∧ point ≤ 21 then
    ⟨digits.take point.toNat, digits.drop point.toNat, none⟩
  else if -6 < point ∧ point ≤ 0 then
    ⟨['0'], List.replicate (-point).toNat '0' ++ digits, none⟩
  else ⟨digits.take 1, digits.drop 1, some (point - 1)⟩

/-- A value without a finite decimal expansion is no number of the language; its text
here is the fraction. -/
def magnitudeText (value : Rat) : List Char :=
  match significant value with
  | some number => number.layout.text
  | none => Nat.toDigits 10 value.num.natAbs ++ '/' :: Nat.toDigits 10 value.den

/-- `JSON.stringify(value)` for a finite number. -/
def numberText (value : Rat) : String :=
  String.ofList (if value < 0 then '-' :: magnitudeText (-value) else magnitudeText value)

example : numberText 1234.5 = "1234.5" := by decide +kernel
example : numberText 0.0000001 = "1e-7" := by decide +kernel
example : numberText (-1200) = "-1200" := by decide +kernel

/-! ## The text determines the number -/

theorem stripZeros_value (fuel : Nat) (number : Scientific) : (stripZeros fuel number).value = number.value := by
  induction fuel generalizing number with
  | zero => rfl
  | succ fuel ih =>
    unfold stripZeros
    split
    · rename_i round
      rw [ih]
      have tens : number.digits = number.digits / 10 * 10 := by omega
      have digits : (number.digits : Rat) = (number.digits / 10 : Nat) * 10 := by exact_mod_cast tens
      rw [Scientific.value, Scientific.value, digits, zpow_add_one₀ (by norm_num)]
      ring
    · rfl

theorem significant_value {value : Rat} {number : Scientific} (positive : 0 ≤ value)
    (found : significant value = some number) : number.value = value := by
  obtain ⟨places, search, rfl⟩ := Option.map_eq_some_iff.mp found
  have divides : value.den ∣ 10 ^ places := Nat.dvd_of_mod_eq_zero (by simpa using List.find?_some search)
  rw [stripZeros_value, Scientific.value]
  obtain ⟨scale, power⟩ := divides
  have denominator : (value.den : Rat) ≠ 0 := by exact_mod_cast value.den_nz
  have quotient : 10 ^ places / value.den = scale := by
    rw [power, Nat.mul_div_cancel_left _ value.den_pos]
  have numerator : ((value.num.natAbs : Nat) : Rat) = value.num := by
    have nonneg : 0 ≤ value.num := Rat.num_nonneg.mpr positive
    rw [Nat.cast_natAbs, abs_of_nonneg nonneg]
  have tens : (10 : Rat) ^ places = value.den * scale := by exact_mod_cast power
  have scaled : (scale : Rat) ≠ 0 := by
    rintro none
    rw [none, mul_zero] at tens
    exact pow_ne_zero places (by norm_num) tens
  rw [quotient, zpow_neg, zpow_natCast, tens, Nat.cast_mul, numerator]
  conv_rhs => rw [← Rat.num_div_den value]
  field_simp

variable {char : Char}

theorem isDigit_of_toDigits {value : Nat} (listed : char ∈ Nat.toDigits 10 value) : char.isDigit :=
  Nat.isDigit_of_mem_toDigits (by decide) (by decide) listed

theorem isDigit_of_zeros {count : Nat} (listed : char ∈ List.replicate count '0') : char.isDigit := by
  rw [List.eq_of_mem_replicate listed]
  decide

theorem Scientific.layout_digits (number : Scientific) : number.layout.Digits := by
  unfold layout
  dsimp only
  split
  · refine ⟨fun char listed => ?_, by simp⟩
    rcases List.mem_append.mp listed with digit | zero
    · exact isDigit_of_toDigits digit
    · exact isDigit_of_zeros zero
  · split
    · exact ⟨fun char listed => isDigit_of_toDigits (List.mem_of_mem_take listed),
        fun char listed => isDigit_of_toDigits (List.mem_of_mem_drop listed)⟩
    · split
      · refine ⟨fun char listed => ?_, fun char listed => ?_⟩
        · rw [List.mem_singleton.mp listed]
          decide
        rcases List.mem_append.mp listed with zero | digit
        · exact isDigit_of_zeros zero
        · exact isDigit_of_toDigits digit
      · exact ⟨fun char listed => isDigit_of_toDigits (List.mem_of_mem_take listed),
          fun char listed => isDigit_of_toDigits (List.mem_of_mem_drop listed)⟩

/-- However the digits are laid out, they denote the number. -/
theorem Scientific.layout_value (number : Scientific) : number.layout.value = number.value := by
  have digits : Nat.ofDigitChars 10 (Nat.toDigits 10 number.digits) 0 = number.digits := Nat.ofDigitChars_ten_toDigits
  have some : 0 < (Nat.toDigits 10 number.digits).length := List.length_pos_of_ne_nil Nat.toDigits_ne_nil
  unfold layout
  dsimp only
  generalize width : (Nat.toDigits 10 number.digits).length = count at some
  split
  · rename_i whole
    have natural : (10 : Rat) ^ number.exponent = 10 ^ number.exponent.toNat := by
      rw [← zpow_natCast, Int.toNat_of_nonneg (by omega)]
    simp only [NumberLayout.value, List.append_nil, Nat.ofDigitChars_append, digits,
      Nat.ofDigitChars_replicate_zero, value, natural]
    simp [mul_comm]
  · split
    · rename_i pointed
      have places : (0 : Int) - ((Nat.toDigits 10 number.digits).drop
          (count + number.exponent).toNat).length = number.exponent := by
        rw [List.length_drop, width]
        omega
      simp only [NumberLayout.value, List.take_append_drop, digits, value, Option.getD_none, places]
    · split
      · rename_i small
        have places : (0 : Int) - (List.replicate (-(count + number.exponent)).toNat '0' ++
            Nat.toDigits 10 number.digits).length = number.exponent := by
          rw [List.length_append, List.length_replicate, width]
          omega
        have read : Nat.ofDigitChars 10 (['0'] ++ (List.replicate (-(count + number.exponent)).toNat '0' ++
            Nat.toDigits 10 number.digits)) 0 = number.digits := by
          simp [Nat.ofDigitChars_cons, Nat.ofDigitChars_append, Nat.ofDigitChars_replicate_zero, digits]
        simp only [NumberLayout.value, read, value, Option.getD_none, places]
      · have places : ((count : Int) + number.exponent - 1) -
            ((Nat.toDigits 10 number.digits).drop 1).length = number.exponent := by
          rw [List.length_drop, width]
          omega
        simp only [NumberLayout.value, List.take_append_drop, digits, value, Option.getD_some, places]

/-- The characters numbers are written with. -/
def isNumberChar (char : Char) : Bool := char.isDigit || char ∈ ['-', '.', 'e', '+', '/']

theorem NumberLayout.text_chars {layout : NumberLayout} (digits : layout.Digits)
    (listed : char ∈ layout.text) : char.isDigit ∨ char ∈ ['-', '.', 'e', '+'] := by
  rcases List.mem_append.mp listed with whole | rest
  · exact .inl (digits.1 char whole)
  · rcases List.mem_append.mp rest with fraction | exponent
    · cases read : layout.fraction with
      | nil => simp [read, fractionText] at fraction
      | cons first others =>
        have pointed : char ∈ '.' :: first :: others := by rwa [read] at fraction
        rcases List.mem_cons.mp pointed with rfl | digit
        · simp
        · exact .inl (digits.2 char (read ▸ digit))
    · cases read : layout.exponent with
      | none => simp [read, exponentText] at exponent
      | some power =>
        rw [read, exponentText] at exponent
        rcases List.mem_cons.mp exponent with rfl | later
        · simp
        · rcases List.mem_cons.mp later with rfl | digit
          · split <;> simp
          · exact .inl (isDigit_of_toDigits digit)

theorem slash_not_mem_text {layout : NumberLayout} (digits : layout.Digits) : '/' ∉ layout.text := by
  intro listed
  rcases layout.text_chars digits listed with digit | sign
  · exact absurd digit (by decide)
  · exact absurd sign (by decide)

theorem slash_not_mem_toDigits (value : Nat) : '/' ∉ Nat.toDigits 10 value := by
  intro listed
  exact absurd (isDigit_of_toDigits listed) (by decide)

theorem magnitudeText_inj {left right : Rat} (leftPositive : 0 ≤ left) (rightPositive : 0 ≤ right)
    (same : magnitudeText left = magnitudeText right) : left = right := by
  unfold magnitudeText at same
  cases one : significant left with
  | some number =>
    cases other : significant right with
    | some another =>
      simp only [one, other] at same
      have layouts := NumberLayout.text_inj number.layout_digits another.layout_digits same
      rw [← significant_value leftPositive one, ← significant_value rightPositive other,
        ← number.layout_value, layouts, another.layout_value]
    | none =>
      simp only [one, other] at same
      exact absurd (same ▸ by simp) (slash_not_mem_text number.layout_digits)
  | none =>
    cases other : significant right with
    | some another =>
      simp only [one, other] at same
      exact absurd (same ▸ by simp) (slash_not_mem_text another.layout_digits)
    | none =>
      simp only [one, other] at same
      obtain ⟨numerators, denominators⟩ := (append_cons_inj (slash_not_mem_toDigits _)
        (slash_not_mem_toDigits _)).mp same
      have read : ∀ {one other : Nat}, Nat.toDigits 10 one = Nat.toDigits 10 other → one = other := by
        intro one other equal
        rw [← Nat.ofDigitChars_ten_toDigits (n := one), equal, Nat.ofDigitChars_ten_toDigits]
      refine Rat.ext ?_ (read denominators)
      have magnitudes := read numerators
      have first : 0 ≤ left.num := Rat.num_nonneg.mpr leftPositive
      have second : 0 ≤ right.num := Rat.num_nonneg.mpr rightPositive
      omega

/-- A magnitude starts with a digit. -/
theorem magnitudeText_head (value : Rat) : ∃ first rest, magnitudeText value = first :: rest ∧ first.isDigit := by
  have digits : ∀ number, ∃ first rest, Nat.toDigits 10 number = first :: rest ∧ first.isDigit := by
    intro number
    obtain ⟨first, rest, split⟩ := List.exists_cons_of_ne_nil (Nat.toDigits_ne_nil : Nat.toDigits 10 number ≠ [])
    exact ⟨first, rest, split, isDigit_of_toDigits (split ▸ List.mem_cons_self)⟩
  unfold magnitudeText
  split
  · rename_i number _
    obtain ⟨first, rest, split, digit⟩ := digits number.digits
    have headed : ∃ first rest, number.layout.whole = first :: rest ∧ first.isDigit := by
      unfold Scientific.layout
      dsimp only
      rw [split]
      split
      · exact ⟨first, _, rfl, digit⟩
      · split
        · rename_i pointed
          obtain ⟨count, positive⟩ : ∃ count, ((List.length (first :: rest) : Int) +
              number.exponent).toNat = count + 1 := ⟨_, (Nat.succ_pred (by omega)).symm⟩
          rw [positive]
          exact ⟨first, _, rfl, digit⟩
        · split
          · exact ⟨'0', _, rfl, by decide⟩
          · exact ⟨first, _, rfl, digit⟩
    obtain ⟨head, tail, whole, isDigit⟩ := headed
    exact ⟨head, _, by rw [NumberLayout.text, whole]; rfl, isDigit⟩
  · obtain ⟨first, rest, split, digit⟩ := digits value.num.natAbs
    exact ⟨first, _, by rw [split]; rfl, digit⟩

theorem numberText_injective : Function.Injective numberText := by
  intro left right same
  have texts := String.ofList_injective same
  obtain ⟨leftHead, leftTail, leftText, leftDigit⟩ := magnitudeText_head left
  obtain ⟨rightHead, rightTail, rightText, rightDigit⟩ := magnitudeText_head right
  by_cases leftSign : left < 0
  · by_cases rightSign : right < 0
    · rw [if_pos leftSign, if_pos rightSign] at texts
      exact neg_injective (magnitudeText_inj (neg_nonneg.mpr leftSign.le)
        (neg_nonneg.mpr rightSign.le) (List.cons.inj texts).2)
    · rw [if_pos leftSign, if_neg rightSign, rightText] at texts
      rw [← (List.cons.inj texts).1] at rightDigit
      exact absurd rightDigit (by decide)
  · by_cases rightSign : right < 0
    · rw [if_neg leftSign, if_pos rightSign, leftText] at texts
      rw [(List.cons.inj texts).1] at leftDigit
      exact absurd leftDigit (by decide)
    · rw [if_neg leftSign, if_neg rightSign] at texts
      exact magnitudeText_inj (not_lt.mp leftSign) (not_lt.mp rightSign) texts

theorem numberText_head (value : Rat) :
    ∃ first rest, (numberText value).toList = first :: rest ∧ isNumberChar first := by
  obtain ⟨first, rest, text, digit⟩ := magnitudeText_head value
  unfold numberText
  split
  · exact ⟨'-', magnitudeText (-value), String.toList_ofList, by decide⟩
  · exact ⟨first, rest, String.toList_ofList.trans text, by simp [isNumberChar, digit]⟩

theorem numberText_chars {value : Rat} (listed : char ∈ (numberText value).toList) : isNumberChar char := by
  have magnitude : ∀ {value : Rat}, char ∈ magnitudeText value → isNumberChar char := by
    intro value listed
    unfold magnitudeText at listed
    split at listed
    · rename_i number _
      rcases NumberLayout.text_chars number.layout_digits listed with digit | sign
      · simp [isNumberChar, digit]
      · have signs : char ∈ ['-', '.', 'e', '+', '/'] := List.mem_append_left ['/'] sign
        simp [isNumberChar, signs]
    · rcases List.mem_append.mp listed with digit | later
      · simp [isNumberChar, isDigit_of_toDigits digit]
      · rcases List.mem_cons.mp later with rfl | digit
        · decide
        · simp [isNumberChar, isDigit_of_toDigits digit]
  unfold numberText at listed
  split at listed
  · rw [String.toList_ofList] at listed
    rcases List.mem_cons.mp listed with rfl | later
    · decide
    · exact magnitude later
  · rw [String.toList_ofList] at listed
    exact magnitude listed

end QuarkSelfAI.Foundation

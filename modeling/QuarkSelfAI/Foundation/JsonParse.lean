import QuarkSelfAI.Foundation.JsonEqual
import QuarkSelfAI.Foundation.JsonText

/-!
# Reading JSON

`JSON.parse` reads a text by its grammar, one character of look-ahead at a time, and `JSON.stringify` writes a
value without spaces. What is written of a JSON value is read back as that value. A half of a surrogate pair
stands for no character here and is read as the replacement character; names that are array indices keep
their place among the members.
-/

namespace QuarkSelfAI.Foundation

/-! ## Numbers -/

/-- The digits after a point. -/
def readFraction : List Char → Option (List Char × List Char)
  | [] => some ([], [])
  | first :: rest =>
    if first = '.' then
      let digits := rest.takeWhile Char.isDigit
      if digits = [] then none else some (digits, rest.dropWhile Char.isDigit)
    else some ([], first :: rest)

/-- A sign of an exponent. -/
def readSign : List Char → Bool × List Char
  | [] => (false, [])
  | first :: rest => if first = '-' then (true, rest) else if first = '+' then (false, rest) else (false, first :: rest)

def readExponent : List Char → Option (Option Int × List Char)
  | [] => some (none, [])
  | first :: rest =>
    if first = 'e' ∨ first = 'E' then
      let (negative, rest) := readSign rest
      let digits := rest.takeWhile Char.isDigit
      if digits = [] then none
      else
        let magnitude : Int := Nat.ofDigitChars 10 digits 0
        some (some (if negative then -magnitude else magnitude), rest.dropWhile Char.isDigit)
    else some (none, first :: rest)

/-- A number without its sign. -/
def readMagnitude (text : List Char) : Option (NumberLayout × List Char) :=
  let whole := text.takeWhile Char.isDigit
  if whole = [] ∨ whole.head? = some '0' ∧ whole ≠ ['0'] then none
  else
    match readFraction (text.dropWhile Char.isDigit) with
    | none => none
    | some (fraction, rest) => (readExponent rest).map fun (exponent, rest) => (⟨whole, fraction, exponent⟩, rest)

def readNumber : List Char → Option (Rat × List Char)
  | [] => none
  | first :: rest =>
    if first = '-' then (readMagnitude rest).map fun (layout, rest) => (-layout.value, rest)
    else (readMagnitude (first :: rest)).map fun (layout, rest) => (layout.value, rest)

/-- A word of one class is taken off what does not go on with it. -/
theorem span_word {α : Type*} {inClass : α → Bool} {word rest : List α} (within : ∀ char ∈ word, inClass char)
    (stops : Stops inClass rest) :
    (word ++ rest).takeWhile inClass = word ∧ (word ++ rest).dropWhile inClass = rest := by
  have nothing : rest.takeWhile inClass = [] ∧ rest.dropWhile inClass = rest := by
    cases rest with
    | nil => exact ⟨rfl, rfl⟩
    | cons first rest =>
      have outside := stops first rfl
      simp [outside]
  rw [List.takeWhile_append_of_pos within, List.dropWhile_append_of_pos within, nothing.1, nothing.2, List.append_nil]
  exact ⟨rfl, rfl⟩

theorem Ends.stops {rest : List Char} (ends : Ends rest) : Stops Char.isDigit rest := by
  intro first listed
  have closing := ends first listed
  simp only [List.mem_cons, List.not_mem_nil, or_false] at closing
  rcases closing with rfl | rfl | rfl <;> decide

theorem readFraction_other {first : Char} {rest : List Char} (other : first ≠ '.') :
    readFraction (first :: rest) = some ([], first :: rest) := by
  rw [readFraction, if_neg other]

theorem readFraction_text {layout : NumberLayout} {rest : List Char} (digits : layout.Digits) (ends : Ends rest) :
    readFraction (NumberLayout.fractionText layout.fraction ++ (NumberLayout.exponentText layout.exponent ++ rest)) =
      some (layout.fraction, NumberLayout.exponentText layout.exponent ++ rest) := by
  have stops : Stops Char.isDigit (NumberLayout.exponentText layout.exponent ++ rest) := by
    cases layout.exponent with
    | none => exact ends.stops
    | some exponent => simp [Stops, NumberLayout.exponentText]
  cases fraction : layout.fraction with
  | nil =>
    cases exponent : layout.exponent with
    | none =>
      cases rest with
      | nil => rfl
      | cons first rest =>
        refine readFraction_other ?_
        rintro rfl
        exact absurd (ends '.' rfl) (by decide)
    | some exponent => exact readFraction_other (by decide)
  | cons digit others =>
    have taken := span_word (fraction ▸ digits.2) stops
    simp only [NumberLayout.fractionText, List.cons_append, readFraction, if_true]
    simp only [List.cons_append] at taken
    rw [taken.1, taken.2, if_neg (List.cons_ne_nil _ _)]

theorem readExponent_text {exponent : Option Int} {rest : List Char} (ends : Ends rest) :
    readExponent (NumberLayout.exponentText exponent ++ rest) = some (exponent, rest) := by
  cases exponent with
  | none =>
    cases rest with
    | nil => rfl
    | cons first rest =>
      have other : ¬ (first = 'e' ∨ first = 'E') := by
        rintro (rfl | rfl)
        · exact absurd (ends 'e' rfl) (by decide)
        · exact absurd (ends 'E' rfl) (by decide)
      exact if_neg other
  | some exponent =>
    have taken := span_word (show ∀ char ∈ Nat.toDigits 10 exponent.natAbs, char.isDigit from
      fun _ => isDigit_of_toDigits) ends.stops
    have signed : readSign ((if 0 ≤ exponent then '+' else '-') :: (Nat.toDigits 10 exponent.natAbs ++ rest)) =
        (decide (exponent < 0), Nat.toDigits 10 exponent.natAbs ++ rest) := by
      by_cases positive : 0 ≤ exponent
      · rw [if_pos positive, decide_eq_false (not_lt.mpr positive)]
        rfl
      · rw [if_neg positive, decide_eq_true (not_le.mp positive)]
        rfl
    have value : (if exponent < 0 then -(exponent.natAbs : Int) else exponent.natAbs) = exponent := by
      split <;> omega
    simp only [NumberLayout.exponentText, List.cons_append, readExponent, true_or, if_true, signed]
    rw [taken.1, taken.2, if_neg Nat.toDigits_ne_nil, Nat.ofDigitChars_ten_toDigits]
    simp only [decide_eq_true_eq, value]

/-- A numeral as JSON has it: digits before the point, the first of them a zero only alone. -/
def NumberLayout.Standard (layout : NumberLayout) : Prop :=
  layout.whole ≠ [] ∧ (layout.whole.head? = some '0' → layout.whole = ['0'])

theorem readMagnitude_text {layout : NumberLayout} {rest : List Char} (digits : layout.Digits)
    (standard : layout.Standard) (ends : Ends rest) : readMagnitude (layout.text ++ rest) = some (layout, rest) := by
  have stops : Stops Char.isDigit (NumberLayout.fractionText layout.fraction ++
      (NumberLayout.exponentText layout.exponent ++ rest)) := by
    cases layout.fraction with
    | cons digit others => simp [Stops, NumberLayout.fractionText]
    | nil =>
      cases layout.exponent with
      | none => exact ends.stops
      | some exponent => simp [Stops, NumberLayout.fractionText, NumberLayout.exponentText]
  have taken := span_word digits.1 stops
  have allowed : ¬ (layout.whole = [] ∨ layout.whole.head? = some '0' ∧ layout.whole ≠ ['0']) := by
    rintro (none | ⟨zero, others⟩)
    · exact standard.1 none
    · exact others (standard.2 zero)
  simp only [NumberLayout.text, List.append_assoc, readMagnitude]
  rw [taken.1, taken.2, if_neg allowed, readFraction_text digits ends]
  simp only [readExponent_text ends, Option.map_some]

/-! ### The text of a number -/

/-- The numbers of the language have finitely many decimals. -/
def IsDecimal (value : Rat) : Prop := (significant (if value < 0 then -value else value)).isSome

instance (value : Rat) : Decidable (IsDecimal value) := inferInstanceAs (Decidable (_ = _))

/-- The digits of a positive number do not start with a zero. -/
theorem toDigits_head {value : Nat} (positive : 0 < value) : (Nat.toDigits 10 value).head? ≠ some '0' := by
  induction value using Nat.strong_induction_on with
  | _ value ih =>
    by_cases small : value < 10
    · have single : ∀ digit < 10, 0 < digit → [Nat.digitChar digit].head? ≠ some '0' := by decide
      rw [Nat.toDigits_of_lt_base small]
      exact single value small positive
    · rw [Nat.toDigits_of_base_le (by decide) (not_lt.mp small), List.head?_append_of_ne_nil _ Nat.toDigits_ne_nil]
      exact ih (value / 10) (Nat.div_lt_self positive (by decide)) (by omega)

theorem Scientific.layout_standard {number : Scientific} (canonical : number.digits = 0 → number.exponent = 0) :
    number.layout.Standard := by
  by_cases zero : number.digits = 0
  · obtain ⟨digits, exponent⟩ := number
    obtain rfl : digits = 0 := zero
    obtain rfl : exponent = 0 := canonical rfl
    have layout : (⟨0, 0⟩ : Scientific).layout = ⟨['0'], [], none⟩ := by decide
    rw [layout]
    exact ⟨by simp, fun _ => rfl⟩
  have headed := toDigits_head (Nat.pos_of_ne_zero zero)
  obtain ⟨first, rest, digits⟩ := List.exists_cons_of_ne_nil (Nat.toDigits_ne_nil : Nat.toDigits 10 number.digits ≠ [])
  rw [digits] at headed
  have other : first ≠ '0' := fun same => headed (by rw [same]; rfl)
  unfold layout
  dsimp only
  rw [digits]
  split
  · exact ⟨by simp, fun head => absurd (Option.some.inj head) other⟩
  · split
    · rename_i pointed
      obtain ⟨count, positive⟩ : ∃ count, ((List.length (first :: rest) : Int) + number.exponent).toNat = count + 1 :=
        ⟨_, (Nat.succ_pred (by omega)).symm⟩
      rw [positive]
      exact ⟨by simp, fun head => absurd (Option.some.inj head) other⟩
    · split
      · exact ⟨by simp, fun _ => rfl⟩
      · exact ⟨by simp, fun head => absurd (Option.some.inj head) other⟩

theorem significant_canonical {value : Rat} {number : Scientific} (found : significant value = some number)
    (zero : number.digits = 0) (positive : 0 ≤ value) : number.exponent = 0 := by
  have none : value = 0 := by
    rw [← significant_value positive found, Scientific.value, zero, Nat.cast_zero, zero_mul]
  subst none
  have layout : significant 0 = some ⟨0, 0⟩ := by decide
  rw [layout] at found
  cases found
  rfl

theorem readMagnitude_number {value : Rat} {rest : List Char} (positive : 0 ≤ value)
    (decimal : (significant value).isSome) (ends : Ends rest) :
    ∃ layout, readMagnitude (magnitudeText value ++ rest) = some (layout, rest) ∧ layout.value = value := by
  obtain ⟨number, found⟩ := Option.isSome_iff_exists.mp decimal
  refine ⟨number.layout, ?_, by rw [number.layout_value, significant_value positive found]⟩
  rw [magnitudeText, found]
  exact readMagnitude_text number.layout_digits
    (number.layout_standard fun zero => significant_canonical found zero positive) ends

/-- The text of a number is read back, whatever ends it. -/
theorem readNumber_text {value : Rat} {rest : List Char} (decimal : IsDecimal value) (ends : Ends rest) :
    readNumber ((numberText value).toList ++ rest) = some (value, rest) := by
  rw [numberText, String.toList_ofList]
  unfold IsDecimal at decimal
  by_cases negative : value < 0
  · rw [if_pos negative] at decimal ⊢
    obtain ⟨layout, read, same⟩ := readMagnitude_number (neg_nonneg.mpr negative.le) decimal ends
    rw [List.cons_append, readNumber, if_pos rfl, read]
    simp [same]
  · rw [if_neg negative] at decimal ⊢
    obtain ⟨layout, read, same⟩ := readMagnitude_number (not_lt.mp negative) decimal ends
    obtain ⟨first, others, text, digit⟩ := magnitudeText_head value
    have unsigned : first ≠ '-' := by
      rintro rfl
      exact absurd digit (by decide)
    rw [text, List.cons_append] at read ⊢
    rw [readNumber, if_neg unsigned, read]
    simp [same]

/-! ## Strings -/

def hexValue (char : Char) : Option Nat :=
  ("0123456789abcdef".toList.idxOf? char).or ("0123456789ABCDEF".toList.idxOf? char)

/-- Four hexadecimal digits. -/
def readHex : List Char → Option (Nat × List Char)
  | first :: second :: third :: fourth :: rest => do
    let first ← hexValue first
    let second ← hexValue second
    let third ← hexValue third
    let fourth ← hexValue fourth
    some (16 * (16 * (16 * first + second) + third) + fourth, rest)
  | _ => none

/-- The second half of a surrogate pair. -/
def readLowSurrogate : List Char → Option (Nat × List Char)
  | first :: second :: rest =>
    if first = reverseSolidus ∧ second = 'u' then
      (readHex rest).filter fun (code, _) => 0xDC00 ≤ code ∧ code < 0xE000
    else none
  | _ => none

/-- The character behind the mark of an escape. -/
def readEscape : List Char → Option (Char × List Char)
  | [] => none
  | letter :: rest =>
    if letter = '/' then some ('/', rest)
    else if letter = 'u' then
      match readHex rest with
      | none => none
      | some (code, rest) =>
        if 0xD800 ≤ code ∧ code < 0xDC00 then
          match readLowSurrogate rest with
          | some (low, rest) => some (Char.ofNat (0x10000 + 0x400 * (code - 0xD800) + (low - 0xDC00)), rest)
          | none => some (Char.ofNat 0xFFFD, rest)
        else if 0xDC00 ≤ code ∧ code < 0xE000 then some (Char.ofNat 0xFFFD, rest)
        else some (Char.ofNat code, rest)
    else (shortEscapes.find? (·.2 = letter)).map fun escape => (escape.1, rest)

/-- One character of a string; the closing mark and control characters are none. -/
def readChar : List Char → Option (Char × List Char)
  | [] => none
  | first :: rest =>
    if first = quotationMark then none
    else if first = reverseSolidus then readEscape rest
    else if first.toNat < 0x20 then none
    else some (first, rest)

/-- The characters up to the closing mark, which is taken off; each takes at least one character of the text. -/
def readChars : Nat → List Char → Option (List Char × List Char)
  | 0, _ => none
  | fuel + 1, text =>
    if text.head? = some quotationMark then some ([], text.tail)
    else
      match readChar text with
      | none => none
      | some (char, rest) => (readChars fuel rest).map fun (chars, rest) => (char :: chars, rest)

/-- A string behind its opening mark. -/
def readString (text : List Char) : Option (String × List Char) :=
  (readChars (text.length + 1) text).map fun (chars, rest) => (String.ofList chars, rest)

theorem readChar_quoteChar (char : Char) (rest : List Char) :
    readChar (quoteChar char ++ rest) = some (char, rest) := by
  cases short : shortEscapes.lookup char with
  | some letter =>
    rw [quoteChar, short]
    have listed : (char, letter) ∈ shortEscapes := by
      obtain ⟨before, after, split, _⟩ := List.lookup_eq_some_iff.mp short
      rw [split]
      simp
    simp only [shortEscapes, List.mem_cons, Prod.mk.injEq, List.not_mem_nil, or_false] at listed
    rcases listed with ⟨rfl, rfl⟩ | ⟨rfl, rfl⟩ | ⟨rfl, rfl⟩ | ⟨rfl, rfl⟩ | ⟨rfl, rfl⟩ | ⟨rfl, rfl⟩ | ⟨rfl, rfl⟩ <;> rfl
  | none =>
    rw [quoteChar, short]
    dsimp only
    split
    · rename_i control
      have digits : ∀ value < 16, hexValue (lowerHexDigit value) = some value := by decide
      have zero : hexValue '0' = some 0 := by decide
      have code : 16 * (char.toNat / 16) + char.toNat % 16 = char.toNat := Nat.div_add_mod _ _
      have read : readHex ('0' :: '0' :: lowerHexDigit (char.toNat / 16) :: lowerHexDigit (char.toNat % 16) :: rest) =
          some (char.toNat, rest) := by
        simp only [readHex, zero, digits _ (show char.toNat / 16 < 16 by omega),
          digits _ (show char.toNat % 16 < 16 by omega), Option.bind_eq_bind, Option.bind_some]
        simp [code]
      have marks : reverseSolidus ≠ quotationMark ∧ 'u' ≠ '/' := by decide
      have low : ¬ (0xD800 ≤ char.toNat ∧ char.toNat < 0xDC00) ∧ ¬ (0xDC00 ≤ char.toNat ∧ char.toNat < 0xE000) := by
        omega
      simp only [List.cons_append, List.nil_append, readChar, if_neg marks.1, if_true, readEscape, if_neg marks.2, read,
        if_neg low.1, if_neg low.2, Char.ofNat_toNat]
    · rename_i plain
      have others : char ≠ quotationMark ∧ char ≠ reverseSolidus := by
        constructor
        all_goals
          rintro rfl
          exact absurd short (by decide)
      simp only [List.singleton_append, readChar, if_neg others.1, if_neg others.2, if_neg plain]

theorem quoteChar_head (char : Char) (rest : List Char) : (quoteChar char ++ rest).head? ≠ some quotationMark := by
  intro marked
  have read := readChar_quoteChar char rest
  obtain ⟨others, split⟩ : ∃ others, quoteChar char ++ rest = quotationMark :: others :=
    List.head?_eq_some_iff.mp marked
  rw [split, readChar, if_pos rfl] at read
  cases read

theorem quoteChar_length (char : Char) : 0 < (quoteChar char).length := by
  unfold quoteChar
  split
  · exact Nat.succ_pos _
  · split <;> exact Nat.succ_pos _

theorem readChars_quoted {chars rest : List Char} {fuel : Nat} (enough : chars.length < fuel) :
    readChars fuel (chars.flatMap quoteChar ++ quotationMark :: rest) = some (chars, rest) := by
  induction chars generalizing fuel with
  | nil =>
    obtain ⟨fuel, rfl⟩ : ∃ less, fuel = less + 1 := ⟨fuel - 1, by simp at enough; omega⟩
    rfl
  | cons char chars ih =>
    obtain ⟨fuel, rfl⟩ : ∃ less, fuel = less + 1 := ⟨fuel - 1, by simp at enough; omega⟩
    rw [List.flatMap_cons, List.append_assoc, readChars, if_neg (quoteChar_head char _), readChar_quoteChar]
    simp only [ih (by simpa using enough), Option.map_some]

theorem quoted_length (chars : List Char) : chars.length ≤ (chars.flatMap quoteChar).length := by
  induction chars with
  | nil => exact le_rfl
  | cons char chars ih =>
    have positive := quoteChar_length char
    simp only [List.flatMap_cons, List.length_append, List.length_cons]
    omega

/-- The text of a string, behind its opening mark, is read back. -/
theorem readString_quote (text : String) (rest : List Char) :
    ∃ others, (quote text).toList ++ rest = quotationMark :: others ∧ readString others = some (text, rest) := by
  refine ⟨text.toList.flatMap quoteChar ++ quotationMark :: rest, ?_, ?_⟩
  · rw [quote, String.toList_ofList]
    simp
  · have longer := quoted_length text.toList
    rw [readString, readChars_quoted (by simp only [List.length_append]; omega), Option.map_some]
    simp only [String.ofList_toList]

/-- Quoted texts agree piece by piece. -/
theorem quoted_append_inj {left right : String} {before after : List Char}
    (same : (quote left).toList ++ before = (quote right).toList ++ after) : left = right ∧ before = after := by
  obtain ⟨inside, opened, read⟩ := readString_quote left before
  obtain ⟨others, opened', read'⟩ := readString_quote right after
  rw [opened, opened', List.cons.injEq] at same
  rw [same.2, read', Option.some.injEq, Prod.mk.injEq] at read
  exact ⟨read.1.symm, read.2.symm⟩

/-! ## Values -/

def openBrace : Char := Char.ofNat 0x7B

def closeBrace : Char := Char.ofNat 0x7D

def isJsonSpace (char : Char) : Bool := char ∈ [' ', Char.ofNat 0x09, Char.ofNat 0x0A, Char.ofNat 0x0D]

def skipSpace (text : List Char) : List Char := text.dropWhile isJsonSpace

/-- Take a mark, after spaces. -/
def readMark (mark : Char) (text : List Char) : Option (List Char) :=
  let text := skipSpace text
  if text.head? = some mark then some text.tail else none

/-- A later member of one name takes the place of the earlier one. -/
def assignMember (members : List (String × JsValue)) (member : String × JsValue) : List (String × JsValue) :=
  if members.any (·.1 = member.1) then members.map fun other => if other.1 = member.1 then member else other
  else members ++ [member]

/-- The words of the grammar. -/
def readWord (text : List Char) : Option (JsValue × List Char) :=
  if text.take 4 = ['n', 'u', 'l', 'l'] then some (.null, text.drop 4)
  else if text.take 4 = ['t', 'r', 'u', 'e'] then some (.bool true, text.drop 4)
  else if text.take 5 = ['f', 'a', 'l', 's', 'e'] then some (.bool false, text.drop 5)
  else none

mutual

/-- A value, after spaces; each takes at least one character of the text. -/
def readValue : Nat → List Char → Option (JsValue × List Char)
  | 0, _ => none
  | fuel + 1, text =>
    match skipSpace text with
    | [] => none
    | first :: rest =>
      if first = quotationMark then (readString rest).map fun (text, rest) => (.string text, rest)
      else if first = '[' then
        match readMark ']' rest with
        | some rest => some (.array [], rest)
        | none => (readItems fuel rest).map fun (items, rest) => (.array items, rest)
      else if first = openBrace then
        match readMark closeBrace rest with
        | some rest => some (.object [], rest)
        | none => (readMembers fuel rest).map fun (members, rest) => (.object (members.foldl assignMember []), rest)
      else if first = '-' ∨ first.isDigit then
        (readNumber (first :: rest)).map fun (value, rest) => (.number value, rest)
      else readWord (first :: rest)

/-- The items of an array from the first one on, with the mark that closes it. -/
def readItems : Nat → List Char → Option (List JsValue × List Char)
  | 0, _ => none
  | fuel + 1, text =>
    match readValue fuel text with
    | none => none
    | some (item, rest) =>
      match readMark ',' rest with
      | some rest => (readItems fuel rest).map fun (items, rest) => (item :: items, rest)
      | none => (readMark ']' rest).map fun rest => ([item], rest)

/-- The members of an object from the first one on, with the mark that closes it. -/
def readMembers : Nat → List Char → Option (List (String × JsValue) × List Char)
  | 0, _ => none
  | fuel + 1, text =>
    match (readMark quotationMark text).bind readString with
    | none => none
    | some (name, rest) =>
      match (readMark ':' rest).bind (readValue fuel) with
      | none => none
      | some (value, rest) =>
        match readMark ',' rest with
        | some rest => (readMembers fuel rest).map fun (members, rest) => ((name, value) :: members, rest)
        | none => (readMark closeBrace rest).map fun rest => ([(name, value)], rest)

end

namespace JsValue

/-- `JSON.parse(text)`; `none` stands for the error that it throws. -/
def parse (text : String) : Option JsValue :=
  match readValue (text.length + 1) text.toList with
  | some (value, rest) => if skipSpace rest = [] then some value else none
  | none => none

mutual

/-- `JSON.stringify(value)`; `none` stands for `undefined`. -/
def stringify : JsValue → Option String
  | .undefined => none
  | .null => some "null"
  | .bool value => some (if value then "true" else "false")
  | .number value => some (numberText value)
  | .nonFinite => some "null"
  | .string text => some (quote text)
  | .array items => some ("[" ++ joined (stringifyItems items) ++ "]")
  | .object members =>
    some (String.ofList [openBrace] ++ joined (stringifyMembers members) ++ String.ofList [closeBrace])

def stringifyItems : List JsValue → List String
  | [] => []
  | item :: rest => (stringify item).getD "null" :: stringifyItems rest

def stringifyMembers : List (String × JsValue) → List String
  | [] => []
  | (name, value) :: rest =>
    match stringify value with
    | none => stringifyMembers rest
    | some text => (quote name ++ ":" ++ text) :: stringifyMembers rest

end

mutual

/-- The value is one of JSON: nothing in it is `undefined` or not finite, and the members of an object have
distinct names. -/
def IsJson : JsValue → Prop
  | .undefined => False
  | .null => True
  | .bool _ => True
  | .number value => IsDecimal value
  | .nonFinite => False
  | .string _ => True
  | .array items => AreJson items
  | .object members => Distinct members ∧ HaveJson members

def AreJson : List JsValue → Prop
  | [] => True
  | item :: rest => IsJson item ∧ AreJson rest

def HaveJson : List (String × JsValue) → Prop
  | [] => True
  | (_, value) :: rest => IsJson value ∧ HaveJson rest

end

mutual

/-- The value is one the language can build: its numbers have finitely many decimals, and the members of an
object have distinct names. -/
def isProper : JsValue → Bool
  | .undefined | .null | .bool _ | .nonFinite | .string _ => true
  | .number value => decide (IsDecimal value)
  | .array items => areProper items
  | .object members => decide (members.map Prod.fst).Nodup && haveProper members

def areProper : List JsValue → Bool
  | [] => true
  | item :: rest => isProper item && areProper rest

def haveProper : List (String × JsValue) → Bool
  | [] => true
  | (_, value) :: rest => isProper value && haveProper rest

end

theorem areProper_iff {items : List JsValue} : areProper items = true ↔ ∀ item ∈ items, isProper item = true := by
  induction items with
  | nil => simp [areProper]
  | cons item items ih => simp [areProper, ih]

theorem haveProper_iff {members : List (String × JsValue)} :
    haveProper members = true ↔ ∀ member ∈ members, isProper member.2 = true := by
  induction members with
  | nil => simp [haveProper]
  | cons member members ih => simp [haveProper, ih]

theorem areJson_iff {items : List JsValue} : AreJson items ↔ ∀ item ∈ items, IsJson item := by
  induction items with
  | nil => simp [AreJson]
  | cons item items ih => simp [AreJson, ih]

theorem haveJson_iff {members : List (String × JsValue)} : HaveJson members ↔ ∀ member ∈ members, IsJson member.2 := by
  induction members with
  | nil => simp [HaveJson]
  | cons member members ih => simp [HaveJson, ih]

/-! ## Round trip -/

variable {value : JsValue}

/-- What a value is written as starts with no space and closes nothing. -/
theorem stringify_head {text : String} (written : stringify value = some text) :
    ∃ first rest, text.toList = first :: rest ∧ isJsonSpace first = false ∧ first ≠ ']' := by
  cases value with
  | undefined => cases written
  | null | nonFinite =>
    cases written
    exact ⟨'n', _, rfl, by decide, by decide⟩
  | bool value =>
    cases written
    cases value with
    | false => exact ⟨'f', _, rfl, by decide, by decide⟩
    | true => exact ⟨'t', _, rfl, by decide, by decide⟩
  | number value =>
    cases written
    obtain ⟨first, rest, text, number⟩ := numberText_head value
    refine ⟨first, rest, text, ?_, ?_⟩
    · by_contra space
      simp only [isJsonSpace, Bool.not_eq_false, decide_eq_true_eq, List.mem_cons, List.not_mem_nil, or_false] at space
      rcases space with rfl | rfl | rfl | rfl <;> exact absurd number (by decide)
    · rintro rfl
      exact absurd number (by decide)
  | string text =>
    cases written
    obtain ⟨rest, split⟩ := quote_head text
    exact ⟨quotationMark, rest, split, by decide, by decide⟩
  | array items =>
    cases written
    exact ⟨'[', _, by rw [String.toList_append, String.toList_append]; rfl, by decide, by decide⟩
  | object members =>
    cases written
    exact ⟨openBrace, _, by rw [String.toList_append, String.toList_append, String.toList_ofList]; rfl, by decide,
      by decide⟩

theorem skipSpace_cons {first : Char} {rest : List Char} (mark : isJsonSpace first = false) :
    skipSpace (first :: rest) = first :: rest := by
  rw [skipSpace, List.dropWhile_cons_of_neg (by simp [mark])]

theorem readMark_own (mark : Char) {rest : List Char} (plain : isJsonSpace mark = false) :
    readMark mark (mark :: rest) = some rest := by
  simp [readMark, skipSpace_cons plain]

theorem readMark_other (mark first : Char) {rest : List Char} (plain : isJsonSpace first = false)
    (other : first ≠ mark) : readMark mark (first :: rest) = none := by
  simp [readMark, skipSpace_cons plain, other]

theorem IsJson.written (json : IsJson value) : ∃ text, stringify value = some text := by
  cases value with
  | undefined | nonFinite => exact json.elim
  | null | bool | number | string | array | object => exact ⟨_, rfl⟩

/-- The value is read off its text, whatever ends it. -/
def Reads (value : JsValue) : Prop :=
  ∀ text : String, stringify value = some text → ∀ (fuel : Nat) (rest : List Char), Ends rest →
    text.toList.length ≤ fuel → readValue fuel (text.toList ++ rest) = some (value, rest)

theorem joined_cons (text second : String) (rest : List String) :
    (joined (text :: second :: rest)).toList = text.toList ++ ',' :: (joined (second :: rest)).toList := by
  rw [joined_toList, joined_toList, joinedTail]
  rfl

section Items

variable {items : List JsValue} {first : JsValue} {fuel : Nat} {rest : List Char}

theorem readItems_text (json : ∀ item ∈ first :: items, IsJson item) (reads : ∀ item ∈ first :: items, Reads item)
    (enough : (joined (stringifyItems (first :: items))).toList.length < fuel) :
    readItems fuel ((joined (stringifyItems (first :: items))).toList ++ ']' :: rest) =
      some (first :: items, rest) := by
  induction items generalizing first fuel with
  | nil =>
    obtain ⟨fuel, rfl⟩ : ∃ less, fuel = less + 1 := ⟨fuel - 1, by omega⟩
    obtain ⟨text, written⟩ := (json first List.mem_cons_self).written
    simp only [stringifyItems, written, Option.getD_some, joined] at enough ⊢
    rw [readItems, reads first List.mem_cons_self text written _ _ (ends_cons (by decide)) (by omega)]
    simp only [readMark_other ',' ']' (by decide) (by decide), readMark_own ']' (by decide), Option.map_some]
  | cons second items ih =>
    obtain ⟨fuel, rfl⟩ : ∃ less, fuel = less + 1 := ⟨fuel - 1, by omega⟩
    obtain ⟨text, written⟩ := (json first List.mem_cons_self).written
    have split : (joined (stringifyItems (first :: second :: items))).toList =
        text.toList ++ ',' :: (joined (stringifyItems (second :: items))).toList := by
      simp only [stringifyItems, written, Option.getD_some, joined_cons]
    have later := @ih second fuel (fun item listed => json item (List.mem_cons_of_mem _ listed))
      (fun item listed => reads item (List.mem_cons_of_mem _ listed))
    rw [split, List.length_append, List.length_cons] at enough
    rw [split, List.append_assoc, List.cons_append, readItems,
      reads first List.mem_cons_self text written _ _ (ends_cons (by decide)) (by omega)]
    simp only [readMark_own ',' (by decide), later (by omega), Option.map_some]

end Items

section Members

variable {members : List (String × JsValue)} {member : String × JsValue} {fuel : Nat} {rest : List Char}

theorem stringifyMembers_cons {name text : String} (written : stringify value = some text) :
    stringifyMembers ((name, value) :: members) = (quote name ++ ":" ++ text) :: stringifyMembers members := by
  simp only [stringifyMembers, written]

/-- The name of a member is read up to its value. -/
theorem readMember_text {name text : String} (written : stringify value = some text)
    (reads : Reads value) (ends : Ends rest) (enough : text.toList.length ≤ fuel) :
    ∃ others, (quote name ++ ":" ++ text).toList ++ rest = quotationMark :: others ∧
      ∃ behind, readString others = some (name, behind) ∧
        (readMark ':' behind).bind (readValue fuel) = some (value, rest) := by
  obtain ⟨others, split, read⟩ := readString_quote name (':' :: (text.toList ++ rest))
  refine ⟨others, ?_, ':' :: (text.toList ++ rest), read, ?_⟩
  · rw [String.toList_append, String.toList_append, ← split]
    simp
  · rw [readMark_own _ (by decide), Option.bind_some, reads text written _ _ ends enough]

theorem readMembers_text (json : ∀ other ∈ member :: members, IsJson other.2)
    (reads : ∀ other ∈ member :: members, Reads other.2)
    (enough : (joined (stringifyMembers (member :: members))).toList.length < fuel) :
    readMembers fuel ((joined (stringifyMembers (member :: members))).toList ++ closeBrace :: rest) =
      some (member :: members, rest) := by
  induction members generalizing member fuel with
  | nil =>
    obtain ⟨fuel, rfl⟩ : ∃ less, fuel = less + 1 := ⟨fuel - 1, by omega⟩
    obtain ⟨text, written⟩ := (json member List.mem_cons_self).written
    rw [stringifyMembers_cons written] at enough ⊢
    simp only [stringifyMembers, joined, String.toList_append, List.length_append] at enough ⊢
    obtain ⟨others, split, behind, name, value⟩ := @readMember_text member.2 fuel (closeBrace :: rest) member.1 text
      written (reads member List.mem_cons_self) (ends_cons (by decide)) (by omega)
    rw [String.toList_append, String.toList_append] at split
    rw [readMembers, split, readMark_own _ (by decide), Option.bind_some, name]
    simp only [value, readMark_other ',' closeBrace (by decide) (by decide),
      readMark_own closeBrace (by decide), Option.map_some]
  | cons second members ih =>
    obtain ⟨fuel, rfl⟩ : ∃ less, fuel = less + 1 := ⟨fuel - 1, by omega⟩
    obtain ⟨text, written⟩ := (json member List.mem_cons_self).written
    obtain ⟨next, after⟩ := (json second (List.mem_cons_of_mem _ List.mem_cons_self)).written
    have split : (joined (stringifyMembers (member :: second :: members))).toList =
        (quote member.1 ++ ":" ++ text).toList ++ ',' :: (joined (stringifyMembers (second :: members))).toList := by
      rw [stringifyMembers_cons written, stringifyMembers_cons after, joined_cons]
    have later := @ih second fuel (fun other listed => json other (List.mem_cons_of_mem _ listed))
      (fun other listed => reads other (List.mem_cons_of_mem _ listed))
    rw [split, List.length_append, List.length_cons, String.toList_append, String.toList_append, List.length_append,
      List.length_append] at enough
    obtain ⟨others, own, behind, name, value⟩ := @readMember_text member.2 fuel
      (',' :: ((joined (stringifyMembers (second :: members))).toList ++ closeBrace :: rest)) member.1 text
      written (reads member List.mem_cons_self) (ends_cons (by decide)) (by omega)
    rw [split, List.append_assoc, List.cons_append, readMembers, own, readMark_own _ (by decide), Option.bind_some, name]
    simp only [value, readMark_own ',' (by decide), later (by omega), Option.map_some]

end Members

/-- Members of distinct names stay as they are read. -/
theorem assignMembers_distinct {members : List (String × JsValue)} (distinct : Distinct members) :
    members.foldl assignMember [] = members := by
  have general : ∀ (later earlier : List (String × JsValue)), Distinct (earlier ++ later) →
      later.foldl assignMember earlier = earlier ++ later := by
    intro later
    induction later with
    | nil => simp
    | cons member later ih =>
      intro earlier distinct
      have fresh : earlier.any (fun other => decide (other.1 = member.1)) = false := by
        rw [List.any_eq_false]
        intro other listed
        simp only [Distinct, List.map_append, List.map_cons, List.nodup_append] at distinct
        simpa using distinct.2.2 other.1 (List.mem_map_of_mem listed) member.1 List.mem_cons_self
      rw [List.foldl_cons, assignMember, fresh, if_neg (by simp), ih _ (by simpa using distinct)]
      simp
  simpa using general members [] (by simpa using distinct)

theorem reads_number {value : Rat} (decimal : IsDecimal value) : Reads (.number value) := by
  intro text written fuel rest ends enough
  cases written
  have head : ∃ first others, (numberText value).toList = first :: others ∧ (first = '-' ∨ first.isDigit) := by
    obtain ⟨first, others, magnitude, digit⟩ := magnitudeText_head value
    unfold numberText
    split
    · exact ⟨'-', _, String.toList_ofList, .inl rfl⟩
    · exact ⟨first, others, String.toList_ofList.trans magnitude, .inr digit⟩
  obtain ⟨first, others, split, numeric⟩ := head
  have read := @readNumber_text value rest decimal ends
  rw [split, List.cons_append] at read
  rw [split, List.length_cons] at enough
  obtain ⟨fuel, rfl⟩ : ∃ less, fuel = less + 1 := ⟨fuel - 1, by omega⟩
  have others : isJsonSpace first = false ∧ first ≠ quotationMark ∧ first ≠ '[' ∧ first ≠ openBrace := by
    rcases numeric with rfl | digit
    · decide
    · refine ⟨?_, ?_, ?_, ?_⟩
      · by_contra space
        simp only [isJsonSpace, Bool.not_eq_false, decide_eq_true_eq, List.mem_cons, List.not_mem_nil, or_false] at space
        rcases space with rfl | rfl | rfl | rfl <;> exact absurd digit (by decide)
      all_goals
        rintro rfl
        exact absurd digit (by decide)
  simp only [split, List.cons_append, readValue, skipSpace_cons others.1, others.2.1, others.2.2.1, others.2.2.2,
    if_false, numeric, if_true, read, Option.map_some]

theorem reads_string (text : String) : Reads (.string text) := by
  intro written same fuel rest ends enough
  cases same
  obtain ⟨others, split, read⟩ := readString_quote text rest
  obtain ⟨tail, marked⟩ := quote_head text
  rw [marked, List.length_cons] at enough
  obtain ⟨fuel, rfl⟩ : ∃ less, fuel = less + 1 := ⟨fuel - 1, by omega⟩
  rw [split, readValue, skipSpace_cons (by decide)]
  simp only [if_true, read, Option.map_some]

theorem reads_array {items : List JsValue} (json : ∀ item ∈ items, IsJson item) (reads : ∀ item ∈ items, Reads item) :
    Reads (.array items) := by
  intro text written fuel rest ends enough
  cases written
  have split : ("[" ++ joined (stringifyItems items) ++ "]").toList =
      '[' :: ((joined (stringifyItems items)).toList ++ [']']) := by
    rw [String.toList_append, String.toList_append]
    rfl
  rw [split, List.length_cons, List.length_append] at enough
  obtain ⟨fuel, rfl⟩ : ∃ less, fuel = less + 1 := ⟨fuel - 1, by omega⟩
  have marks : '[' ≠ quotationMark := by decide
  rw [split, List.cons_append, List.append_assoc, readValue, skipSpace_cons (by decide)]
  simp only [if_neg marks, if_true]
  cases items with
  | nil => rfl
  | cons first items =>
    obtain ⟨text, written⟩ := (json first List.mem_cons_self).written
    obtain ⟨head, tail, own, plain, other⟩ := stringify_head written
    have begins : readMark ']' ((joined (stringifyItems (first :: items))).toList ++ ([']'] ++ rest)) = none := by
      rw [stringifyItems, written, Option.getD_some, joined_toList, own]
      exact readMark_other _ _ plain other
    rw [begins]
    simp only [List.singleton_append, readItems_text json reads (show _ < fuel by rw [List.length_singleton] at enough; omega), Option.map_some]

theorem reads_object {members : List (String × JsValue)} (distinct : Distinct members)
    (json : ∀ member ∈ members, IsJson member.2) (reads : ∀ member ∈ members, Reads member.2) :
    Reads (.object members) := by
  intro text written fuel rest ends enough
  cases written
  have split : (String.ofList [openBrace] ++ joined (stringifyMembers members) ++ String.ofList [closeBrace]).toList =
      openBrace :: ((joined (stringifyMembers members)).toList ++ [closeBrace]) := by
    rw [String.toList_append, String.toList_append, String.toList_ofList, String.toList_ofList]
    rfl
  rw [split, List.length_cons, List.length_append] at enough
  obtain ⟨fuel, rfl⟩ : ∃ less, fuel = less + 1 := ⟨fuel - 1, by omega⟩
  have marks : openBrace ≠ quotationMark ∧ openBrace ≠ '[' := by decide
  rw [split, List.cons_append, List.append_assoc, readValue, skipSpace_cons (by decide)]
  simp only [if_neg marks.1, if_neg marks.2, if_true]
  cases members with
  | nil => rfl
  | cons first members =>
    obtain ⟨text, written⟩ := (json first List.mem_cons_self).written
    obtain ⟨tail, own⟩ := quote_head first.1
    have begins : readMark closeBrace ((joined (stringifyMembers (first :: members))).toList ++ ([closeBrace] ++ rest)) =
        none := by
      rw [stringifyMembers_cons written, joined_toList, String.toList_append, String.toList_append, own]
      exact readMark_other _ _ (by decide) (by decide)
    rw [begins]
    simp only [List.singleton_append, readMembers_text json reads (show _ < fuel by rw [List.length_singleton] at enough; omega),
      Option.map_some, assignMembers_distinct distinct]

/-- Every JSON value is read off its text. -/
theorem IsJson.reads (json : IsJson value) : Reads value := by
  induction value using JsValue.induct with
  | undefined | nonFinite => exact json.elim
  | null =>
    intro text written fuel rest ends enough
    cases written
    obtain ⟨fuel, rfl⟩ : ∃ less, fuel = less + 1 := ⟨fuel - 1, by simp at enough; omega⟩
    rfl
  | bool value =>
    intro text written fuel rest ends enough
    cases written
    cases value with
    | false | true =>
      obtain ⟨fuel, rfl⟩ : ∃ less, fuel = less + 1 := ⟨fuel - 1, by simp at enough; omega⟩
      rfl
  | number value => exact reads_number json
  | string text => exact reads_string text
  | array items ih =>
    have json := areJson_iff.mp json
    exact reads_array json fun item listed => ih item listed (json item listed)
  | object members ih =>
    have each := haveJson_iff.mp json.2
    exact reads_object json.1 each fun member listed => ih member listed (each member listed)

/-- A JSON value that is written can be read back. -/
theorem IsJson.parse_stringify (json : IsJson value) : value.stringify.bind parse = some value := by
  obtain ⟨text, written⟩ := json.written
  have read := json.reads text written (text.length + 1) [] ends_nil
    (by rw [String.length_toList]; exact Nat.le_succ _)
  rw [List.append_nil] at read
  rw [written, Option.bind_some, parse, read]
  simp [skipSpace]

end JsValue

end QuarkSelfAI.Foundation

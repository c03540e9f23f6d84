import Mathlib.Algebra.Order.Ring.Rat
import Mathlib.Data.Rat.Lemmas
import QuarkSelfAI.Workflow.Contracts

/-!
# What definitions take from their host

`Host` holds what the language and its libraries compute and no definition looks
into: digests, dates, time zones and the texts of numbers. The checks that every
definition repeats under its own labels are stated once here.
-/

namespace QuarkSelfAI.Workflow

open Foundation

/-- What `formatToParts` answers for the `en-US` parts a definition asks for. -/
structure ZonedParts where
  year : String
  month : String
  day : String
  weekday : String
  hour : Nat

def ZonedParts.dayText (parts : ZonedParts) : String := s!"{parts.year}-{parts.month}-{parts.day}"

/-- `digest` is the head of a SHA-256 in hex, `parseDate` is `new Date(text)`, `zoned`
the calendar of a time zone, `numberText` and `readNumber` are `String` and `Number`,
and `percentText` is `(value * 100).toFixed(0)`. -/
structure Host where
  digest : Nat → String → String
  parseDate : String → Option Timestamp
  zoned : String → Timestamp → Option ZonedParts
  numberText : Rat → String
  readNumber : String → Option Rat
  percentText : Rat → String

/-- What the results assume of a host: truncated digests of different texts differ,
and numbers and calendar parts are written without the separators around them. -/
structure Host.Lawful (host : Host) : Prop where
  digest : Function.Injective (host.digest 32)
  numberText : ∀ value, '\x00' ∉ (host.numberText value).toList
  dayText : ∀ zone instant parts, host.zoned zone instant = some parts → 'T' ∉ parts.dayText.toList

namespace Host

variable {host : Host}

def parts (host : Host) (instant : Timestamp) (timeZone : String) : Except String ZonedParts :=
  match host.zoned timeZone instant with
  | none => .error s!"Invalid time zone specified: {timeZone}"
  | some parts => .ok parts

mutual

/-- `String(value)`. -/
def text (host : Host) : JsValue → String
  | .undefined => "undefined"
  | .null => "null"
  | .bool value => if value then "true" else "false"
  | .number value => host.numberText value
  | .nonFinite => "NaN"
  | .string text => text
  | .array items => ",".intercalate (host.itemTexts items)
  | .object _ => "[object Object]"

def itemTexts (host : Host) : List JsValue → List String
  | [] => []
  | item :: rest =>
    (match item with
      | .undefined | .null => ""
      | item => host.text item) :: host.itemTexts rest

end

/-- `Number(value)`, unless it is `NaN`. -/
def toNumber (host : Host) : JsValue → Option Rat
  | .undefined | .nonFinite | .object _ => none
  | .null => some 0
  | .bool value => some (if value then 1 else 0)
  | .number value => some value
  | .string text => host.readNumber text
  | .array items => host.readNumber (host.text (.array items))

/-! ## Stable ids -/

/-- `values.join('\0')`. -/
def joined (values : List String) : String := "\x00".intercalate values

/-- A tag and the digest of the joined values. -/
def stable (host : Host) (tag : String) (values : List String) : String := tag ++ ":" ++ host.digest 32 (joined values)

@[simp] theorem joined_one (value : String) : joined [value] = value := by
  simp [joined]

theorem joined_two (left right : String) : joined [left, right] = left ++ ('\x00'.toString ++ right) := by
  simp [joined, String.intercalate_cons_cons, String.append_assoc]

theorem joined_three (first second third : String) : joined [first, second, third] =
    first ++ ('\x00'.toString ++ (second ++ ('\x00'.toString ++ third))) := by
  simp [joined, String.intercalate_cons_cons, String.append_assoc]

/-- Stable ids agree exactly when their tags and their joined values do. -/
theorem stable_inj (lawful : host.Lawful) {tag otherTag : String} {values others : List String}
    (inTag : ':' ∉ tag.toList) (inOther : ':' ∉ otherTag.toList) :
    host.stable tag values = host.stable otherTag others ↔ tag = otherTag ∧ joined values = joined others := by
  have colon : (":" : String) = ':'.toString := rfl
  unfold stable
  rw [String.append_assoc, String.append_assoc, colon, tagged_inj inTag inOther]
  exact and_congr_right fun _ => lawful.digest.eq_iff

end Host

/-! ## Repeated checks -/

/-- `Number.isSafeInteger`. -/
def isSafeInteger (value : Rat) : Bool := value.den = 1 ∧ value.num.natAbs ≤ 9007199254740991

/-- An optional setting that has to be an integer of at least `minimum`. -/
def integerSetting (refusal : String) (value : Option Rat) (fallback minimum : Nat) : Except String Nat :=
  let selected := value.getD fallback
  if ¬ isSafeInteger selected ∨ selected < minimum then .error refusal
  else .ok selected.num.toNat

theorem integerSetting_le {refusal : String} {value : Option Rat} {fallback minimum result : Nat}
    (set : integerSetting refusal value fallback minimum = .ok result) : minimum ≤ result := by
  unfold integerSetting at set
  simp only at set
  generalize value.getD fallback = selected at set
  split at set
  · cases set
  · rename_i fits
    cases set
    obtain ⟨safe, least⟩ := not_or.mp fits
    have whole : (selected.num : Rat) = selected := by
      have plain : selected.den = 1 := (of_decide_eq_true (not_not.mp safe)).1
      exact (Rat.den_eq_one_iff selected).mp plain
    have bounded : (minimum : Rat) ≤ selected.num := by
      rw [whole]
      exact not_lt.mp least
    have bound : (minimum : Int) ≤ selected.num := by exact_mod_cast bounded
    omega

/-- A non-blank string of at most `max` UTF-16 code units. -/
def boundedText (refusal label : String) (max : Nat) : JsValue → Except String String
  | .string text =>
    if isBlank text then .error refusal
    else if max < utf16Length text then .error s!"{label} exceeds {max} characters"
    else .ok text
  | _ => .error refusal

/-- A text that may be left out, or be `null` or empty. -/
def optionalText (refusal label : String) (max : Nat) : JsValue → Except String (Option String)
  | .undefined | .null => .ok none
  | .string "" => .ok none
  | value => do
    let text ← boundedText refusal label max value
    return some text

/-- The value of an optional text in a payload. -/
def textOrUndefined : Option String → JsValue
  | none => .undefined
  | some text => .string text

/-- A string that `Date` can read, as it is written. -/
def timestampText (host : Host) (label : String) : JsValue → Except String String
  | .string text =>
    match host.parseDate text with
    | none => .error s!"{label} must be a timestamp"
    | some _ => .ok text
  | _ => .error s!"{label} must be a timestamp"

/-- `!value` for a value of JSON. -/
def isFalsy : JsValue → Bool
  | .undefined | .null | .bool false | .nonFinite => true
  | .string text => text = ""
  | .number value => value = 0
  | _ => false

/-- The instant `delay` milliseconds after another. -/
def later (now : Timestamp) (delay : Int) : Timestamp := now + delay

/-! ## Events -/

def effectKind (event : Event) : Option String := event.payload.text? "effectKind"

def effectIdOf (event : Event) : Option String := event.payload.text? "effectId"

/-- The report of an effect, delivered or failed. -/
def isOutcome (event : Event) : Bool := event.type = "effect.delivered" ∨ event.type = "effect.failed"

/-! ## Effect kinds of the assistant -/

def notifyOwner : String := "assistant.notify-owner.v1"

def requestInteraction : String := "assistant.request-interaction.v1"

/-! ## A host -/

namespace Host

/-- The digits of a natural number; other numbers do not occur. -/
def naturalText (value : Rat) : String := String.ofList (Nat.toDigits 10 value.num.natAbs)

def readNatural (text : String) : Option Rat :=
  if text.toList.all Char.isDigit then some (Nat.ofDigitChars 10 text.toList 0 : Nat) else none

/-- The calendar of a zone `offset` milliseconds ahead of UTC. -/
def offsetParts (offset instant : Int) : ZonedParts :=
  let date := civilDate ((instant + offset) / 86400000)
  { year := String.ofList (yearText date.year)
    month := String.ofList (pad 2 date.month)
    day := String.ofList (pad 2 date.day)
    weekday := (["Thu", "Fri", "Sat", "Sun", "Mon", "Tue", "Wed"].getD
      ((instant + offset) / 86400000 % 7).toNat "")
    hour := ((instant + offset) % 86400000 / 3600000).toNat }

/-- A host in one time zone, with the digests and the dates that are listed. -/
def tabulated (zone : String) (offset : Int) (digests : List (String × String))
    (dates : List (String × Timestamp)) : Host where
  digest _ := tabled digests
  parseDate text := dates.lookup text
  zoned name instant := if name = zone then some (offsetParts offset instant) else none
  numberText := naturalText
  readNumber := readNatural
  percentText value := naturalText (Rat.floor (value * 100 + 1 / 2))

theorem tabulated_lawful {zone : String} {offset : Int} {digests : List (String × String)}
    {dates : List (String × Timestamp)} (unmarked : ∀ entry ∈ digests, startsWith entry.2 "~" = false)
    (distinct : (digests.map (·.2)).Nodup) : (tabulated zone offset digests dates).Lawful := by
  refine ⟨tabled_injective unmarked distinct, ?_, ?_⟩
  · intro value listed
    have digit : '\x00' ∈ Nat.toDigits 10 value.num.natAbs := by
      simpa [tabulated, naturalText] using listed
    exact absurd (Nat.isDigit_of_mem_toDigits (by decide) (by decide) digit) (by decide)
  · intro name instant parts zoned listed
    dsimp only [tabulated] at zoned
    split at zoned
    · cases zoned
      have year : ∀ {year}, 'T' ∉ yearText year := fun here => absurd (yearText_chars here) (by decide)
      have day : ∀ {width value}, 'T' ∉ pad width value := fun here => absurd (pad_isDigit here) (by decide)
      simp [ZonedParts.dayText, offsetParts, toString, year, day] at listed
    · cases zoned

end Host

end QuarkSelfAI.Workflow

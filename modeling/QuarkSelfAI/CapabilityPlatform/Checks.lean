import QuarkSelfAI.CapabilityPlatform.CanonicalJson
import QuarkSelfAI.Foundation.Checking
import QuarkSelfAI.Foundation.IsoTime

/-!
# Checks of capability documents

The checks that the validators of manifests, blueprints and execution envelopes are
made of. Each has one lemma that says what it accepts; the label only names the
place in the error.
-/

namespace QuarkSelfAI.CapabilityPlatform

open Foundation

/-! ## Patterns -/

def isIdStart (char : Char) : Bool := char.isLower || char.isDigit

def isIdChar (char : Char) : Bool := isIdStart char || char = '.' || char = '-'

/-- `[a-z0-9][a-z0-9.-]{0,63}`. -/
def isSegment : List Char → Bool
  | [] => false
  | first :: rest => isIdStart first && rest.all isIdChar && rest.length ≤ 63

def idPattern (text : String) : Bool :=
  match text.toList.span (· ≠ '/') with
  | (segment, []) => isSegment segment
  | (segment, _ :: rest) => isSegment segment && isSegment rest

/-- What follows a number at the head of a text. -/
def afterNumber (chars : List Char) : Option (List Char) :=
  match chars.span Char.isDigit with
  | ([], _) => none
  | (_, rest) => some rest

def isPrerelease (chars : List Char) : Bool :=
  chars ≠ [] && chars.all fun char => char.isAlphanum || char = '.' || char = '-'

def versionPattern (text : String) : Bool :=
  match afterNumber text.toList with
  | some ('.' :: minor) =>
    match afterNumber minor with
    | some ('.' :: patch) =>
      match afterNumber patch with
      | some [] => true
      | some ('-' :: prerelease) => isPrerelease prerelease
      | _ => false
    | _ => false
  | _ => false

def isHexDigit (char : Char) : Bool := char.isDigit || char ∈ ['a', 'b', 'c', 'd', 'e', 'f']

def digestPattern (text : String) : Bool :=
  startsWith text "sha256:" && (text.toList.drop 7).length = 64 && (text.toList.drop 7).all isHexDigit

def isSlash (char : Char) : Bool := char = '/' || char = reverseSolidus

def isDrive : List Char → Bool
  | colon :: slash :: _ => colon = ':' && isSlash slash
  | _ => false

def absolutePathPattern (text : String) : Bool :=
  match text.toList with
  | [] => false
  | first :: rest => first = '/' || (first.isAlpha && isDrive rest) || (first = '~' && rest.head?.all isSlash)

def secretWords : List String := ["token", "secret", "password", "privatekey", "private_key", "private-key"]

def startsWithSecret (chars : List Char) : Bool :=
  secretWords.any fun word =>
    word.toList.isPrefixOf (chars.map Char.toLower) &&
      ((chars.drop word.length).dropWhile isSpace).head?.any fun char => char = ':' || char = '='

def secretAssignmentPattern (text : String) : Bool := text.toList.tails.any startsWithSecret

/-- A text that names a local path or carries a secret. -/
def isRevealing (text : String) : Bool := absolutePathPattern text || secretAssignmentPattern text

/-- A name under which a configuration could carry a program. -/
def isExecutableName (name : String) : Bool :=
  String.ofList (name.toList.map Char.toLower) ∈ ["command", "commands", "script", "shell", "argv", "executable"]

example : idPattern "agent.project-owner/v1" = true := by decide
example : versionPattern "1.2.3-rc.1" = true := by decide
example : secretAssignmentPattern "my Token = x" = true := by decide

/-! ## Records -/

abbrev Members := List (String × JsValue)

/-- Read a member of an object. -/
def member (members : Members) (name : String) : JsValue := (members.lookup name).getD .undefined

def record (value : JsValue) (label : String) : Except String Members :=
  match value with
  | .object members => .ok members
  | _ => .error s!"{label} must be an object"

variable {value : JsValue} {label : String} {result : String}

theorem record_ok {members : Members} : record value label = .ok members ↔ value = .object members := by
  cases value <;> simp [record]

/-- No member has a name outside the list. -/
def KnownKeys (members : Members) (allowed : List String) : Prop := members.map Prod.fst ⊆ allowed

def exactKeys (members : Members) (allowed : List String) (label : String) : Except String Unit :=
  let unknown := (members.map Prod.fst).filter (· ∉ allowed)
  let names := joined unknown
  throwIf (unknown ≠ []) s!"{label} has unknown fields: {names}"

theorem exactKeys_ok {members : Members} {allowed : List String} {done : Unit} :
    exactKeys members allowed label = .ok done ↔ KnownKeys members allowed := by
  simp only [exactKeys, throwIf_ok, ne_eq, not_not, List.filter_eq_nil_iff, KnownKeys, decide_eq_true_eq]
  rfl

/-! ## Texts -/

/-- A text that is not blank and has `max` characters at most. -/
def IsText (max : Nat) (text : String) : Prop := isBlank text = false ∧ utf16Length text ≤ max

instance (max : Nat) (text : String) : Decidable (IsText max text) := inferInstanceAs (Decidable (_ ∧ _))

def text (value : JsValue) (label : String) (max : Nat) : Except String String :=
  match value with
  | .string text => do
    throwIf (¬ IsText max text) s!"{label} must be a non-empty string up to {max} characters"
    .ok text
  | _ => .error s!"{label} must be a non-empty string up to {max} characters"

theorem text_ok {max : Nat} : text value label max = .ok result ↔ value = .string result ∧ IsText max result := by
  cases value with
  | string other =>
    simp only [text, bind_ok, exists_const, throwIf_ok, not_not, JsValue.string.injEq, Except.ok.injEq]
    constructor
    · rintro ⟨accepted, rfl⟩
      exact ⟨rfl, accepted⟩
    · rintro ⟨rfl, accepted⟩
      exact ⟨accepted, rfl⟩
  | _ => simp [text]

def optionalText (value : JsValue) (label : String) (max : Nat) : Except String (Option String) :=
  match value with
  | .undefined => .ok none
  | value => do
    let result ← text value label max
    .ok (some result)

/-- A text that matches a pattern. -/
def matching (pattern : String → Bool) (max : Nat) (refusal : String) (value : JsValue) (label : String) :
    Except String String := do
  let result ← text value label max
  throwIf (pattern result = false) s!"{label} {refusal}"
  .ok result

theorem matching_ok {pattern : String → Bool} {max : Nat} {refusal label : String}
    : matching pattern max refusal value label = .ok result ↔
      value = .string result ∧ IsText max result ∧ pattern result = true := by
  simp only [matching, bind_ok, exists_const, text_ok, throwIf_ok, Bool.not_eq_false, Except.ok.injEq]
  constructor
  · rintro ⟨_, ⟨rfl, accepted⟩, holds, rfl⟩
    exact ⟨rfl, accepted, holds⟩
  · rintro ⟨rfl, accepted, holds⟩
    exact ⟨result, ⟨rfl, accepted⟩, holds, rfl⟩

def identifier (value : JsValue) (label : String) : Except String String :=
  matching idPattern 129 "is invalid" value label

def version (value : JsValue) (label : String) : Except String String :=
  matching versionPattern 100 "must be semantic version" value label

def digest (value : JsValue) (label : String) : Except String String :=
  matching digestPattern 80 "must be a sha256 digest" value label

def IsIdentifier (text : String) : Prop := IsText 129 text ∧ idPattern text = true

theorem identifier_ok : identifier value label = .ok result ↔ value = .string result ∧ IsIdentifier result :=
  matching_ok

def IsVersion (text : String) : Prop := IsText 100 text ∧ versionPattern text = true

instance (text : String) : Decidable (IsVersion text) := inferInstanceAs (Decidable (_ ∧ _))

theorem version_ok : version value label = .ok result ↔ value = .string result ∧ IsVersion result := matching_ok

def IsDigest (text : String) : Prop := IsText 80 text ∧ digestPattern text = true

theorem digest_ok : digest value label = .ok result ↔ value = .string result ∧ IsDigest result := matching_ok

/-- `Number.isNaN(Date.parse(text))` refuses. -/
def timestamp (parse : String → Option Timestamp) (value : JsValue) (label : String) : Except String String :=
  matching (fun text => (parse text).isSome) 100 "must be an ISO timestamp" value label

def IsTimestamp (parse : String → Option Timestamp) (text : String) : Prop :=
  IsText 100 text ∧ (parse text).isSome = true

theorem timestamp_ok {parse : String → Option Timestamp} :
    timestamp parse value label = .ok result ↔ value = .string result ∧ IsTimestamp parse result :=
  matching_ok

/-! ## Other values -/

def array (value : JsValue) (label : String) : Except String (List JsValue) :=
  match value with
  | .array items => .ok items
  | _ => .error s!"{label} must be an array"

theorem array_ok {items : List JsValue} : array value label = .ok items ↔ value = .array items := by
  cases value <;> simp [array]

def boolean (value : JsValue) (label : String) : Except String Bool :=
  match value with
  | .bool value => .ok value
  | _ => .error s!"{label} must be a boolean"

/-- `Number.isSafeInteger(value)`. -/
def isSafeInteger (value : JsValue) : Bool :=
  match value with
  | .number value => value.den = 1 && value.num.natAbs ≤ 9007199254740991
  | _ => false

/-- `Number(value)` of a number. -/
def numeral (value : JsValue) : Rat :=
  match value with
  | .number value => value
  | _ => 0

def unique (values : List String) (label : String) : Except String Unit :=
  throwIf (¬ values.Nodup) s!"{label} must be unique"

theorem unique_ok {values : List String} {done : Unit} : unique values label = .ok done ↔ values.Nodup := by
  rw [unique, throwIf_ok, not_not]

/-! ## Lists of texts -/

/-- `array(value, label).map((item, index) => text(item, label, max))`. -/
def texts (value : JsValue) (label : String) (max : Nat) : Except String (List String) := do
  let items ← array value label
  each (fun item index => text item s!"{label}[{index}]" max) items

theorem texts_ok {max : Nat} {results : List String} : texts value label max = .ok results ↔
      value = .array (results.map .string) ∧ ∀ result ∈ results, IsText max result := by
  have accepts : ∀ (item : JsValue) (index : Nat) result,
      text item s!"{label}[{index}]" max = .ok result ↔ item = .string result ∧ IsText max result :=
    fun _ _ _ => text_ok
  simp only [texts, bind_ok, array_ok, each_ok accepts, forall₂_read]
  constructor
  · rintro ⟨_, rfl, rfl, accepted⟩
    exact ⟨rfl, accepted⟩
  · rintro ⟨rfl, accepted⟩
    exact ⟨_, rfl, rfl, accepted⟩

def identifiers (value : JsValue) (label : String) : Except String (List String) := do
  let items ← array value label
  each (fun item index => identifier item s!"{label}[{index}]") items

theorem identifiers_ok {results : List String} : identifiers value label = .ok results ↔
      value = .array (results.map .string) ∧ ∀ result ∈ results, IsIdentifier result := by
  have accepts : ∀ (item : JsValue) (index : Nat) result,
      identifier item s!"{label}[{index}]" = .ok result ↔ item = .string result ∧ IsIdentifier result :=
    fun _ _ _ => identifier_ok
  simp only [identifiers, bind_ok, array_ok, each_ok accepts, forall₂_read]
  constructor
  · rintro ⟨_, rfl, rfl, accepted⟩
    exact ⟨rfl, accepted⟩
  · rintro ⟨rfl, accepted⟩
    exact ⟨_, rfl, rfl, accepted⟩

/-! ## Digests -/

/-- The digest of a value whose canonical text `sha256` hashes. -/
def contentDigest (sha256 : String → String) (value : JsValue) : Except String String := do
  let written ← canonicalJson value
  .ok ("sha256:" ++ sha256 written)

theorem contentDigest_ok {sha256 : String → String} : contentDigest sha256 value = .ok result ↔
      ∃ written, canonicalJson value = .ok written ∧ result = "sha256:" ++ sha256 written := by
  simp only [contentDigest, bind_ok, Except.ok.injEq, @eq_comm _ result]

end QuarkSelfAI.CapabilityPlatform

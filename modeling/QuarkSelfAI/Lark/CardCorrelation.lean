import QuarkSelfAI.Foundation.Base64url
import QuarkSelfAI.Foundation.Checking
import QuarkSelfAI.Foundation.JsonParse
import QuarkSelfAI.Foundation.Utf8

/-!
# Correlations of approval cards

A card carries the workflow and the effect it is about as JSON in base64url. The encoder bounds every field, the decoder
the whole text.
-/

namespace QuarkSelfAI.Lark

open Foundation

structure CardCorrelation where
  workflowId : String
  effectId : String
  eventType : Option String
  approvalId : Option String
  payloadKey : Option String
deriving DecidableEq

namespace CardCorrelation

def quarkPrefix : String := "quark_"

def required (value : JsValue) (label : String) : Except String String :=
  match value with
  | .string text => if isBlank text ∨ 500 < utf16Length text then .error s!"card {label} is invalid" else .ok text
  | _ => .error s!"card {label} is invalid"

/-- `/^[A-Za-z][A-Za-z0-9_]{0,63}$/`. -/
def isField (value : String) : Bool :=
  match value.toList with
  | [] => false
  | first :: rest => first.isAlpha && rest.length ≤ 63 && rest.all fun char => char.isAlphanum || char = '_'

def field (value : String) : Except String String :=
  if isField value then .ok value else .error "card payloadKey is invalid"

/-- `...(value ? { name: check(value) } : {})`. -/
def optionalMember (name : String) (check : String → Except String String) (value : Option String) :
    Except String (List (String × JsValue)) :=
  match value.filter (· ≠ "") with
  | none => .ok []
  | some text => (check text).map fun checked => [(name, .string checked)]

def encodeCardCorrelation (value : CardCorrelation) : Except String String := do
  let workflowId ← required value.workflowId "workflowId"
  let effectId ← required value.effectId "effectId"
  let eventType ← optionalMember "e" (required · "eventType") value.eventType
  let approvalId ← optionalMember "a" (required · "approvalId") value.approvalId
  let payloadKey ← optionalMember "p" field value.payloadKey
  let json := JsValue.object ([("w", .string workflowId), ("f", .string effectId)] ++ eventType ++ approvalId ++ payloadKey)
  return quarkPrefix ++ base64urlText (utf8Bytes (json.stringify.getD ""))

/-- `typeof item.name === 'string' && item.name`. -/
def optionalText (item : JsValue) (name : String) : Option String := (item.text? name).filter (· ≠ "")

/-- What the text carries; `Buffer.from(.., 'base64url')` is the host's. -/
def cardRecord (fromBase64url : String → List UInt8) (text : String) : Option JsValue :=
  JsValue.parse (utf8Text (fromBase64url (String.ofList (text.toList.drop 6))))

def decodeCardCorrelation (fromBase64url : String → List UInt8) (value : JsValue) : Except String CardCorrelation :=
  match value with
  | .string text => do
    throwIf (startsWith text quarkPrefix = false) "card correlation is missing"
    throwIf (4096 < utf16Length text) "card correlation is invalid"
    match cardRecord fromBase64url text with
    | some (.object members) => do
      let item := JsValue.object members
      let workflowId ← required (item.get "w") "workflowId"
      let effectId ← required (item.get "f") "effectId"
      let payloadKey ← (optionalText item "p").mapM field
      return ⟨workflowId, effectId, optionalText item "e", optionalText item "a", payloadKey⟩
    | _ => .error "card correlation is invalid"
  | _ => .error "card correlation is missing"

/-! ## What is encoded -/

/-- An identifier that is accepted. -/
def Named (text : String) : Prop := isBlank text = false ∧ utf16Length text ≤ 500

instance (text : String) : Decidable (Named text) := inferInstanceAs (Decidable (_ ∧ _))

theorem required_ok {value : JsValue} {label text : String} :
    required value label = .ok text ↔ value = .string text ∧ Named text := by
  unfold required Named
  split
  · rename_i other
    split
    · rename_i refused
      refine ⟨nofun, ?_⟩
      rintro ⟨same, named, short⟩
      cases same
      simp [named, Nat.not_lt.mpr short] at refused
    · rename_i accepted
      rw [Except.ok.injEq, JsValue.string.injEq]
      refine ⟨?_, And.left⟩
      rintro rfl
      simpa using accepted
  · rename_i other
    exact ⟨nofun, fun named => absurd named.1 (other text)⟩

theorem field_ok {value text : String} : field value = .ok text ↔ value = text ∧ isField text = true := by
  unfold field
  split
  · rename_i accepted
    rw [Except.ok.injEq]
    exact ⟨fun same => ⟨same, same ▸ accepted⟩, And.left⟩
  · rename_i refused
    refine ⟨nofun, ?_⟩
    rintro ⟨rfl, accepted⟩
    exact absurd accepted refused

theorem optionalMember_ok {name : String} {check : String → Except String String} {Accepted : String → Prop}
    (checks : ∀ text checked, check text = .ok checked ↔ text = checked ∧ Accepted checked) {value : Option String}
    {members : List (String × JsValue)} : optionalMember name check value = .ok members ↔
      (∀ text ∈ value.filter (· ≠ ""), Accepted text) ∧
        members = JsValue.whenSome name (value.filter (· ≠ "")) .string := by
  unfold optionalMember
  cases value.filter (· ≠ "") with
  | none => simp [JsValue.whenSome, eq_comm]
  | some text =>
    cases checked : check text with
    | error message =>
      have refused : ¬ Accepted text := by
        intro accepted
        rw [(checks text text).mpr ⟨rfl, accepted⟩] at checked
        cases checked
      simp [checked, Except.map, refused]
    | ok other =>
      obtain ⟨rfl, accepted⟩ := (checks text other).mp checked
      simp [checked, Except.map, JsValue.whenSome, accepted, eq_comm]

/-- The value with its empty fields left out. -/
def filled (value : CardCorrelation) : CardCorrelation :=
  { value with
    eventType := value.eventType.filter (· ≠ "")
    approvalId := value.approvalId.filter (· ≠ "")
    payloadKey := value.payloadKey.filter (· ≠ "") }

/-- The members that carry a value. -/
def members (value : CardCorrelation) : List (String × JsValue) :=
  [("w", .string value.workflowId), ("f", .string value.effectId)] ++ JsValue.whenSome "e" value.eventType .string ++
    JsValue.whenSome "a" value.approvalId .string ++ JsValue.whenSome "p" value.payloadKey .string

def json (value : CardCorrelation) : String := (JsValue.object value.members).stringify.getD ""

structure Encodable (value : CardCorrelation) : Prop where
  workflowId : Named value.workflowId
  effectId : Named value.effectId
  eventType : ∀ text ∈ value.filled.eventType, Named text
  approvalId : ∀ text ∈ value.filled.approvalId, Named text
  payloadKey : ∀ text ∈ value.filled.payloadKey, isField text = true

variable {value : CardCorrelation} {text : String} {fromBase64url : String → List UInt8}

theorem encodeCardCorrelation_ok : encodeCardCorrelation value = .ok text ↔
    value.Encodable ∧ text = quarkPrefix ++ base64urlText (utf8Bytes value.filled.json) := by
  have checks : ∀ label text checked, required (.string text) label = .ok checked ↔ text = checked ∧ Named checked := by
    intro label text checked
    rw [required_ok, JsValue.string.injEq]
  simp only [encodeCardCorrelation, bind_ok, checks, optionalMember_ok (checks _), optionalMember_ok @field_ok]
  constructor
  · rintro ⟨_, ⟨rfl, first⟩, _, ⟨rfl, second⟩, _, ⟨third, rfl⟩, _, ⟨fourth, rfl⟩, _, ⟨fifth, rfl⟩, made⟩
    exact ⟨⟨first, second, third, fourth, fifth⟩, (Except.ok.inj made).symm⟩
  · rintro ⟨⟨first, second, third, fourth, fifth⟩, rfl⟩
    exact ⟨_, ⟨rfl, first⟩, _, ⟨rfl, second⟩, _, ⟨third, rfl⟩, _, ⟨fourth, rfl⟩, _, ⟨fifth, rfl⟩, rfl⟩

/-! ## What is read back -/

theorem json_carried (value : CardCorrelation) : JsValue.parse value.json = some (.object value.members) := by
  have json : JsValue.IsJson (.object value.members) := by
    obtain ⟨_, _, event, approval, key⟩ := value
    cases event <;> cases approval <;> cases key <;>
      simp [members, JsValue.whenSome, JsValue.IsJson, JsValue.HaveJson, JsValue.Distinct]
  have parsed := json.parse_stringify
  rwa [JsValue.stringify, Option.bind_some] at parsed

/-- The bytes of a field in JSON, with its name and the marks around it. -/
def memberBytes : Option String → Nat
  | none => 0
  | some text => (utf8Bytes (quote text)).length + 5

theorem length_json (value : CardCorrelation) : (utf8Bytes value.json).length =
    1 + memberBytes value.workflowId + memberBytes value.effectId + memberBytes value.eventType +
      memberBytes value.approvalId + memberBytes value.payloadKey := by
  have append : ∀ front back : String, (utf8Bytes (front ++ back)).length = (utf8Bytes front).length + (utf8Bytes back).length := by
    simp [utf8Bytes]
  have names : ∀ name ∈ ["w", "f", "e", "a", "p"], (utf8Bytes (quote name)).length = 3 := by decide
  have marks : ∀ mark ∈ [String.ofList [openBrace], String.ofList [closeBrace], ":", ","], (utf8Bytes mark).length = 1 := by
    decide
  simp only [List.forall_mem_cons] at names marks
  obtain ⟨workflow, effect, event, approval, key⟩ := value
  cases event <;> cases approval <;> cases key <;>
    simp only [json, members, JsValue.whenSome, List.cons_append, List.nil_append, List.append_nil, JsValue.stringify,
      JsValue.stringifyMembers, Option.getD_some, joined, append, names, marks, memberBytes] <;> omega

/-- The host reads back what it has written. -/
def Lawful (fromBase64url : String → List UInt8) : Prop := ∀ bytes, fromBase64url (base64urlText bytes) = bytes

structure Carries (item : JsValue) (value : CardCorrelation) : Prop where
  workflowId : item.get "w" = .string value.workflowId ∧ Named value.workflowId
  effectId : item.get "f" = .string value.effectId ∧ Named value.effectId
  eventType : optionalText item "e" = value.eventType
  approvalId : optionalText item "a" = value.approvalId
  payloadKey : optionalText item "p" = value.payloadKey ∧ ∀ key ∈ value.payloadKey, isField key = true

theorem mapM_field_ok {key other : Option String} :
    key.mapM field = .ok other ↔ key = other ∧ ∀ text ∈ other, isField text = true := by
  cases key with
  | none =>
    refine ⟨fun made => ?_, fun same => same.1 ▸ rfl⟩
    cases made
    exact ⟨rfl, nofun⟩
  | some text =>
    change some <$> field text = _ ↔ _
    unfold field
    split
    · rename_i accepted
      refine ⟨fun made => ?_, fun same => same.1 ▸ rfl⟩
      cases made
      exact ⟨rfl, fun _ same => Option.some.inj same ▸ accepted⟩
    · rename_i refused
      refine ⟨nofun, ?_⟩
      rintro ⟨rfl, accepted⟩
      exact absurd (accepted text rfl) refused

theorem decodeCardCorrelation_ok : decodeCardCorrelation fromBase64url (.string text) = .ok value ↔
    startsWith text quarkPrefix = true ∧ utf16Length text ≤ 4096 ∧
      ∃ members, cardRecord fromBase64url text = some (.object members) ∧ Carries (.object members) value := by
  simp only [decodeCardCorrelation, bind_ok, throwIf_ok, Bool.not_eq_false, not_lt, exists_const]
  refine and_congr_right fun _ => and_congr_right fun _ => ?_
  split
  · rename_i members found
    simp only [bind_ok, required_ok, mapM_field_ok]
    constructor
    · rintro ⟨_, first, _, second, _, third, made⟩
      cases made
      exact ⟨members, found, first, second, rfl, rfl, third⟩
    · rintro ⟨others, same, first, second, third, fourth, fifth⟩
      obtain rfl : members = others := JsValue.object.inj (Option.some.inj (found.symm.trans same))
      exact ⟨_, first, _, second, _, fifth, by rw [third, fourth]; rfl⟩
  · rename_i other
    refine ⟨(by cases ·), ?_⟩
    rintro ⟨members, found, -⟩
    exact absurd found (other members)

theorem members_read (value : CardCorrelation) :
    (JsValue.object value.members).get "w" = .string value.workflowId ∧
      (JsValue.object value.members).get "f" = .string value.effectId ∧
      optionalText (.object value.members) "e" = value.eventType.filter (· ≠ "") ∧
      optionalText (.object value.members) "a" = value.approvalId.filter (· ≠ "") ∧
      optionalText (.object value.members) "p" = value.payloadKey.filter (· ≠ "") := by
  obtain ⟨_, _, event, approval, key⟩ := value
  cases event <;> cases approval <;> cases key <;> exact ⟨rfl, rfl, rfl, rfl, rfl⟩

theorem filled_optional (text : Option String) : (text.filter (· ≠ "")).filter (· ≠ "") = text.filter (· ≠ "") := by
  rw [Option.filter_filter]
  simp

theorem carries_members (encodable : value.Encodable) {other : CardCorrelation} :
    Carries (.object value.filled.members) other ↔ value.filled = other := by
  obtain ⟨workflow, effect, event, approval, key⟩ := members_read value.filled
  have event := event.trans (filled_optional value.eventType)
  have approval := approval.trans (filled_optional value.approvalId)
  have key := key.trans (filled_optional value.payloadKey)
  constructor
  · rintro ⟨first, second, third, fourth, fifth⟩
    obtain ⟨_, _, _, _, _⟩ := other
    cases workflow.symm.trans first.1
    cases effect.symm.trans second.1
    cases event.symm.trans third
    cases approval.symm.trans fourth
    cases key.symm.trans fifth.1
    rfl
  · rintro rfl
    exact ⟨⟨workflow, encodable.workflowId⟩, ⟨effect, encodable.effectId⟩, event, approval, key, encodable.payloadKey⟩

theorem utf16Length_encoded (bytes : List UInt8) :
    utf16Length (quarkPrefix ++ base64urlText bytes) = 6 + (4 * bytes.length + 2) / 3 := by
  have units : ∀ char ∈ (quarkPrefix ++ base64urlText bytes).toList, utf16Units char = 1 := by
    intro char listed
    rw [String.toList_append, List.mem_append] at listed
    rcases listed with first | digit
    · have narrow : quarkPrefix.toList.all (fun char => utf16Units char == 1) = true := by decide
      exact beq_iff_eq.mp (List.all_eq_true.mp narrow char first)
    · rw [base64urlText, String.toList_ofList] at digit
      obtain ⟨value, _, rfl⟩ := List.mem_map.mp digit
      rw [utf16Units, if_pos ((base64urlDigit_ascii value).trans (by decide))]
  rw [utf16Length, List.map_congr_left units, List.map_const', List.sum_replicate_nat, mul_one, String.toList_append, List.length_append,
    length_base64urlText]
  rfl

theorem decode_encoded (lawful : Lawful fromBase64url) (encodable : value.Encodable) {other : CardCorrelation} :
    decodeCardCorrelation fromBase64url (.string (quarkPrefix ++ base64urlText (utf8Bytes value.filled.json))) = .ok other ↔
      (utf8Bytes value.filled.json).length ≤ 3067 ∧ value.filled = other := by
  have begins : startsWith (quarkPrefix ++ base64urlText (utf8Bytes value.filled.json)) quarkPrefix = true := by
    simp [startsWith]
  have read : cardRecord fromBase64url (quarkPrefix ++ base64urlText (utf8Bytes value.filled.json)) =
      some (.object value.filled.members) := by
    have rest : (quarkPrefix ++ base64urlText (utf8Bytes value.filled.json)).toList.drop 6 =
        (base64urlText (utf8Bytes value.filled.json)).toList := by
      rw [String.toList_append]
      rfl
    rw [cardRecord, rest, String.ofList_toList, lawful, utf8Text_utf8Bytes, json_carried]
  rw [decodeCardCorrelation_ok, utf16Length_encoded, read]
  simp only [begins, true_and, Option.some.injEq, JsValue.object.injEq, exists_eq_left', carries_members encodable]
  exact and_congr_left fun _ => by omega

/-- No field is an empty text, and the JSON text is no longer than the decoder reads. -/
structure Answerable (value : CardCorrelation) : Prop where
  present : ∀ field ∈ [value.eventType, value.approvalId, value.payloadKey], field ≠ some ""
  short : 1 + memberBytes value.workflowId + memberBytes value.effectId + memberBytes value.eventType +
    memberBytes value.approvalId + memberBytes value.payloadKey ≤ 3067

theorem filled_eq_self : value.filled = value ↔
    ∀ field ∈ [value.eventType, value.approvalId, value.payloadKey], field ≠ some "" := by
  have own : ∀ field : Option String, field.filter (· ≠ "") = field ↔ field ≠ some "" := by
    intro field
    cases field <;> simp
  obtain ⟨_, _, event, approval, key⟩ := value
  simp only [filled, mk.injEq, own, List.forall_mem_cons, true_and]
  simp

/-- A card is answered exactly if no field is empty and its JSON text fits; what is decoded is encoded again exactly if
the event type and the approval that it carries are identifiers. -/
theorem cardCorrelation_iff (lawful : Lawful fromBase64url) :
    (∀ value text, encodeCardCorrelation value = .ok text →
      (decodeCardCorrelation fromBase64url (.string text) = .ok value ↔ value.Answerable)) ∧
    ∀ text value, decodeCardCorrelation fromBase64url (.string text) = .ok value →
      ((∃ encoded, encodeCardCorrelation value = .ok encoded) ↔
        ∀ item, cardRecord fromBase64url text = some item → ∀ name ∈ ["e", "a"], ∀ other,
          item.get name = .string other → other ≠ "" → Named other) := by
  constructor
  · intro value text encoded
    obtain ⟨encodable, rfl⟩ := encodeCardCorrelation_ok.mp encoded
    rw [decode_encoded lawful encodable, length_json]
    constructor
    · rintro ⟨short, same⟩
      rw [same] at short
      exact ⟨filled_eq_self.mp same, short⟩
    · rintro ⟨present, short⟩
      have same := filled_eq_self.mpr present
      rw [same]
      exact ⟨short, rfl⟩
  · intro text value decoded
    obtain ⟨-, -, members, found, carries⟩ := decodeCardCorrelation_ok.mp decoded
    have texts : ∀ name {field : Option String}, optionalText (.object members) name = field →
        ((∀ text ∈ field.filter (· ≠ ""), Named text) ↔
          ∀ other, (JsValue.object members).get name = .string other → other ≠ "" → Named other) := by
      rintro name _ rfl
      rw [optionalText, filled_optional, JsValue.text?]
      cases (JsValue.object members).get name <;> simp
    simp only [encodeCardCorrelation_ok, exists_and_left, exists_eq, and_true, found, Option.some.injEq, forall_eq',
      List.forall_mem_cons, List.not_mem_nil, false_imp_iff, implies_true, ← texts "e" carries.eventType,
      ← texts "a" carries.approvalId]
    constructor
    · intro encodable
      exact ⟨encodable.eventType, encodable.approvalId⟩
    · rintro ⟨event, approval⟩
      refine ⟨carries.workflowId.2, carries.effectId.2, event, approval, fun key listed => ?_⟩
      exact carries.payloadKey.2 key (Option.mem_filter_iff.mp listed).1

/-! ## A card that cannot be answered -/

def sampleCorrelation : CardCorrelation := ⟨"workflow-1", "effect-1", some "approval.decided", none, some "decision"⟩

theorem sampleCorrelation_answered : ∃ text, encodeCardCorrelation sampleCorrelation = .ok text ∧
    decodeCardCorrelation base64urlBytes (.string text) = .ok sampleCorrelation := by
  have encodable : sampleCorrelation.Encodable := by
    refine ⟨by decide +kernel, by decide +kernel, ?_, nofun, ?_⟩
    all_goals
      rintro _ ⟨⟩
      decide +kernel
  have encoded := encodeCardCorrelation_ok.mpr ⟨encodable, rfl⟩
  exact ⟨_, encoded, ((cardCorrelation_iff base64urlBytes_base64urlText).1 _ _ encoded).mpr
    ⟨by decide, by decide +kernel⟩⟩

/-- A card of three identifiers that take more than a thousand bytes each is refused when it is answered. -/
theorem long_unanswered (named : Named text) (long : 1022 < memberBytes text) :
    ∃ encoded, encodeCardCorrelation ⟨text, text, some text, none, none⟩ = .ok encoded ∧
      decodeCardCorrelation base64urlBytes (.string encoded) ≠ .ok ⟨text, text, some text, none, none⟩ := by
  have encodable : Encodable ⟨text, text, some text, none, none⟩ := by
    refine ⟨named, named, fun other listed => ?_, nofun, nofun⟩
    have listed : other ∈ (some text).filter (· ≠ "") := listed
    obtain rfl := Option.some.inj (Option.mem_filter_iff.mp listed).1
    exact named
  refine ⟨_, encodeCardCorrelation_ok.mpr ⟨encodable, rfl⟩, fun answered => ?_⟩
  obtain ⟨short, same⟩ := (decode_encoded base64urlBytes_base64urlText encodable).mp answered
  rw [same, length_json] at short
  dsimp only at short
  omega

/-- Five hundred characters of three bytes each. -/
def longChars : List Char := List.replicate 500 '事'

def longCorrelation : CardCorrelation :=
  ⟨String.ofList longChars, String.ofList longChars, some (String.ofList longChars), none, none⟩

def blankText : String := quarkPrefix ++ base64urlText (utf8Bytes "\x7b\"w\":\"a\",\"f\":\"b\",\"e\":\" \"\x7d")

/-- A card of long identifiers is refused when it is answered, and a blank event type is read that is not written. -/
theorem longCorrelation_unanswered :
    (∃ text, encodeCardCorrelation longCorrelation = .ok text ∧
      decodeCardCorrelation base64urlBytes (.string text) ≠ .ok longCorrelation) ∧
    decodeCardCorrelation base64urlBytes (.string blankText) = .ok ⟨"a", "b", some " ", none, none⟩ ∧
      encodeCardCorrelation ⟨"a", "b", some " ", none, none⟩ = .error "card eventType is invalid" := by
  have named : Named (String.ofList longChars) := by
    rw [Named, isBlank, utf16Length, String.toList_ofList]
    decide +kernel
  have long : 1022 < memberBytes (String.ofList longChars) := by
    rw [memberBytes, utf8Bytes, quote, String.toList_ofList, String.toList_ofList]
    decide +kernel
  exact ⟨long_unanswered named long, by decide +kernel, by decide +kernel⟩

end CardCorrelation

end QuarkSelfAI.Lark

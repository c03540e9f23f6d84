import QuarkSelfAI.Foundation.Record

/-!
# JavaScript values

The values that travel in payloads: JSON, and the two things a payload must not
hold but an expression can produce, `undefined` and numbers that are not finite.
The members of an object are listed in insertion order under distinct names.
-/

namespace QuarkSelfAI.Foundation

inductive JsValue where
  | undefined
  | null
  | bool (value : Bool)
  | number (value : Rat)
  | nonFinite
  | string (value : String)
  | array (items : List JsValue)
  | object (members : List (String × JsValue))
deriving Inhabited

namespace JsValue

mutual

def decEq : (left right : JsValue) → Decidable (left = right)
  | .undefined, .undefined => isTrue rfl
  | .null, .null => isTrue rfl
  | .nonFinite, .nonFinite => isTrue rfl
  | .bool left, .bool right =>
    if same : left = right then isTrue (congrArg _ same) else isFalse fun equal => same (by injection equal)
  | .number left, .number right =>
    if same : left = right then isTrue (congrArg _ same) else isFalse fun equal => same (by injection equal)
  | .string left, .string right =>
    if same : left = right then isTrue (congrArg _ same) else isFalse fun equal => same (by injection equal)
  | .array left, .array right =>
    match decEqItems left right with
    | isTrue same => isTrue (congrArg _ same)
    | isFalse different => isFalse fun equal => different (by injection equal)
  | .object left, .object right =>
    match decEqMembers left right with
    | isTrue same => isTrue (congrArg _ same)
    | isFalse different => isFalse fun equal => different (by injection equal)
  | .undefined, .null | .undefined, .bool _ | .undefined, .number _ | .undefined, .nonFinite
  | .undefined, .string _ | .undefined, .array _ | .undefined, .object _
  | .null, .undefined | .null, .bool _ | .null, .number _ | .null, .nonFinite
  | .null, .string _ | .null, .array _ | .null, .object _
  | .bool _, .undefined | .bool _, .null | .bool _, .number _ | .bool _, .nonFinite
  | .bool _, .string _ | .bool _, .array _ | .bool _, .object _
  | .number _, .undefined | .number _, .null | .number _, .bool _ | .number _, .nonFinite
  | .number _, .string _ | .number _, .array _ | .number _, .object _
  | .nonFinite, .undefined | .nonFinite, .null | .nonFinite, .bool _ | .nonFinite, .number _
  | .nonFinite, .string _ | .nonFinite, .array _ | .nonFinite, .object _
  | .string _, .undefined | .string _, .null | .string _, .bool _ | .string _, .number _
  | .string _, .nonFinite | .string _, .array _ | .string _, .object _
  | .array _, .undefined | .array _, .null | .array _, .bool _ | .array _, .number _
  | .array _, .nonFinite | .array _, .string _ | .array _, .object _
  | .object _, .undefined | .object _, .null | .object _, .bool _ | .object _, .number _
  | .object _, .nonFinite | .object _, .string _ | .object _, .array _ => isFalse fun equal => by injection equal

def decEqItems : (left right : List JsValue) → Decidable (left = right)
  | [], [] => isTrue rfl
  | [], _ :: _ => isFalse fun equal => by injection equal
  | _ :: _, [] => isFalse fun equal => by injection equal
  | left :: lefts, right :: rights =>
    match decEq left right, decEqItems lefts rights with
    | isTrue head, isTrue tail => isTrue (by rw [head, tail])
    | isFalse different, _ => isFalse fun equal => different (by injection equal)
    | _, isFalse different => isFalse fun equal => different (by injection equal)

def decEqMembers : (left right : List (String × JsValue)) → Decidable (left = right)
  | [], [] => isTrue rfl
  | [], _ :: _ => isFalse fun equal => by injection equal
  | _ :: _, [] => isFalse fun equal => by injection equal
  | (leftName, left) :: lefts, (rightName, right) :: rights =>
    if name : leftName = rightName then
      match decEq left right, decEqMembers lefts rights with
      | isTrue head, isTrue tail => isTrue (by rw [name, head, tail])
      | isFalse different, _ => isFalse fun equal => different (by
          injection equal with pair _
          injection pair)
      | _, isFalse different => isFalse fun equal => different (by injection equal)
    else isFalse fun equal => name (by
      injection equal with pair _
      injection pair)

end

instance : DecidableEq JsValue := decEq

instance : Coe String JsValue := ⟨.string⟩

/-- Read a member; what is no object has none. -/
def get (value : JsValue) (name : String) : JsValue :=
  match value with
  | .object members => (members.lookup name).getD .undefined
  | _ => .undefined

/-- The members a spread copies. -/
def members : JsValue → List (String × JsValue)
  | .object members => members
  | _ => []

/-- A member that is a string. -/
def text? (value : JsValue) (name : String) : Option String :=
  match value.get name with
  | .string text => some text
  | _ => none

/-- An optional member of an object literal. -/
def whenSome {α : Type} (name : String) (value : Option α) (encode : α → JsValue) : List (String × JsValue) :=
  match value with
  | none => []
  | some value => [(name, encode value)]

/-! ## assertJsonValue -/

mutual

def assertJsonValue : JsValue → String → Except String Unit
  | .undefined, path => .error s!"{path} contains a non-JSON value"
  | .nonFinite, path => .error s!"{path} contains a non-finite number"
  | .null, _ | .bool _, _ | .number _, _ | .string _, _ => .ok ()
  | .array items, path => assertItems items path 0
  | .object members, path => assertMembers members path

def assertItems : List JsValue → String → Nat → Except String Unit
  | [], _, _ => .ok ()
  | item :: rest, path, index => do
    assertJsonValue item s!"{path}[{index}]"
    assertItems rest path (index + 1)

def assertMembers : List (String × JsValue) → String → Except String Unit
  | [], _ => .ok ()
  | (name, value) :: rest, path => do
    assertJsonValue value s!"{path}.{name}"
    assertMembers rest path

end

mutual

/-- What `assertJsonValue` accepts. -/
def isJson : JsValue → Bool
  | .undefined | .nonFinite => false
  | .null | .bool _ | .number _ | .string _ => true
  | .array items => areJson items
  | .object members => haveJson members

def areJson : List JsValue → Bool
  | [] => true
  | item :: rest => isJson item && areJson rest

def haveJson : List (String × JsValue) → Bool
  | [] => true
  | (_, value) :: rest => isJson value && haveJson rest

end

mutual

theorem assertJsonValue_ok_iff : (value : JsValue) → (path : String) →
    (assertJsonValue value path = .ok () ↔ isJson value)
  | .undefined, _ | .nonFinite, _ | .null, _ | .bool _, _ | .number _, _ | .string _, _ => by
    simp [assertJsonValue, isJson]
  | .array items, path => by
    rw [assertJsonValue, isJson]
    exact assertItems_ok_iff items path 0
  | .object members, path => by
    rw [assertJsonValue, isJson]
    exact assertMembers_ok_iff members path

theorem assertItems_ok_iff : (items : List JsValue) → (path : String) → (index : Nat) →
    (assertItems items path index = .ok () ↔ areJson items)
  | [], _, _ => by simp [assertItems, areJson]
  | item :: rest, path, index => by
    have first := assertJsonValue_ok_iff item s!"{path}[{index}]"
    have others := assertItems_ok_iff rest path (index + 1)
    rw [assertItems, areJson, Bool.and_eq_true, ← first, ← others]
    cases assertJsonValue item s!"{path}[{index}]" with
    | error | ok => simp [bind, Except.bind]

theorem assertMembers_ok_iff : (members : List (String × JsValue)) → (path : String) →
    (assertMembers members path = .ok () ↔ haveJson members)
  | [], _ => by simp [assertMembers, haveJson]
  | (name, value) :: rest, path => by
    have first := assertJsonValue_ok_iff value s!"{path}.{name}"
    have others := assertMembers_ok_iff rest path
    rw [assertMembers, haveJson, Bool.and_eq_true, ← first, ← others]
    cases assertJsonValue value s!"{path}.{name}" with
    | error | ok => simp [bind, Except.bind]

end

/-! ## JSON.stringify -/

mutual

/-- The value `JSON.parse(JSON.stringify(value))` reads back, which determines the
text: members keep their order, and what JSON has no word for is left out of an
object and is `null` elsewhere. -/
def stringified : JsValue → JsValue
  | .undefined | .nonFinite | .null => .null
  | .bool value => .bool value
  | .number value => .number value
  | .string value => .string value
  | .array items => .array (stringifiedItems items)
  | .object members => .object (stringifiedMembers members)

def stringifiedItems : List JsValue → List JsValue
  | [] => []
  | item :: rest => stringified item :: stringifiedItems rest

def stringifiedMembers : List (String × JsValue) → List (String × JsValue)
  | [] => []
  | (_, .undefined) :: rest => stringifiedMembers rest
  | (name, value) :: rest => (name, stringified value) :: stringifiedMembers rest

end

mutual

/-- Deep equality: the members of an object have no order. -/
inductive Equal : JsValue → JsValue → Prop where
  | refl (value : JsValue) : Equal value value
  | array {left right : List JsValue} (items : EqualItems left right) :
      Equal (.array left) (.array right)
  | object {left between right : List (String × JsValue)} (members : EqualMembers left between)
      (order : between.Perm right) : Equal (.object left) (.object right)

inductive EqualItems : List JsValue → List JsValue → Prop where
  | nil : EqualItems [] []
  | cons {left right : JsValue} {lefts rights : List JsValue} (head : Equal left right)
      (tail : EqualItems lefts rights) : EqualItems (left :: lefts) (right :: rights)

inductive EqualMembers : List (String × JsValue) → List (String × JsValue) → Prop where
  | nil : EqualMembers [] []
  | cons {name : String} {left right : JsValue} {lefts rights : List (String × JsValue)}
      (head : Equal left right) (tail : EqualMembers lefts rights) :
      EqualMembers ((name, left) :: lefts) ((name, right) :: rights)

end

end JsValue

end QuarkSelfAI.Foundation

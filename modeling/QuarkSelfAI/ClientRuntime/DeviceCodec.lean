import QuarkSelfAI.CapabilityPlatform.Checks
import QuarkSelfAI.Foundation.Framing
import QuarkSelfAI.Foundation.JsonParse
import QuarkSelfAI.Foundation.Utf8

/-!
# The device codec

Messages of the device protocol as values, as frames of a length and a JSON text, and the decoder that is fed chunks of a
stream. The validator looks at the payload of each kind in the order of the source; a property read off `null` or
`undefined` throws as the language does.
-/

namespace QuarkSelfAI.ClientRuntime

open Foundation CapabilityPlatform

def maxDeviceFrameBytes : Nat := 256 * 1024

/-! ## Values as the language reads them -/

/-- Read a property. -/
def readProperty (value : JsValue) (name : String) : Except String JsValue :=
  match value with
  | .undefined => .error s!"Cannot read properties of undefined (reading '{name}')"
  | .null => .error s!"Cannot read properties of null (reading '{name}')"
  | value => .ok (value.get name)

/-- `===` of a value with one read elsewhere; no two objects are the same. -/
def strictEquals : JsValue → JsValue → Bool
  | .undefined, .undefined | .null, .null => true
  | .bool left, .bool right => left = right
  | .number left, .number right => left = right
  | .string left, .string right => left = right
  | _, _ => false

def isTruthy : JsValue → Bool
  | .undefined | .null | .nonFinite => false
  | .bool value => value
  | .number value => value ≠ 0
  | .string text => text ≠ ""
  | .array _ | .object _ => true

/-- `name in value`, of an object. -/
def hasMember (value : JsValue) (name : String) : Bool := value.members.any fun member => member.1 = name

/-! ## Patterns -/

def isDeviceIdChar (char : Char) : Bool := isIdStart char || char ∈ ['.', '_', ':', '-']

/-- `[a-z0-9][a-z0-9._:-]{0,127}`. -/
def deviceIdPattern (text : String) : Bool :=
  match text.toList with
  | [] => false
  | first :: rest => isIdStart first && rest.all isDeviceIdChar && rest.length ≤ 127

mutual

/-- Some string in the value names a local path or carries a secret. -/
def isSensitive : JsValue → Bool
  | .string text => isRevealing text
  | .array items => areSensitive items
  | .object members => haveSensitive members
  | .undefined | .null | .bool _ | .number _ | .nonFinite => false

def areSensitive : List JsValue → Bool
  | [] => false
  | item :: rest => isSensitive item || areSensitive rest

def haveSensitive : Members → Bool
  | [] => false
  | (_, value) :: rest => isSensitive value || haveSensitive rest

end

/-! ## Payloads -/

inductive PayloadKind where
  | clientHello
  | serverChallenge
  | clientProof
  | serverSession
  | clientPoll
  | serverLease
  | clientAckRequest
  | serverAck
  | clientResultSubmit
  | serverResult
  | clientHeartbeat
  | serverError
deriving DecidableEq

namespace PayloadKind

def text : PayloadKind → String
  | clientHello => "client.hello"
  | serverChallenge => "server.challenge"
  | clientProof => "client.proof"
  | serverSession => "server.session"
  | clientPoll => "client.poll"
  | serverLease => "server.lease"
  | clientAckRequest => "client.ack-request"
  | serverAck => "server.ack"
  | clientResultSubmit => "client.result-submit"
  | serverResult => "server.result"
  | clientHeartbeat => "client.heartbeat"
  | serverError => "server.error"

def all : List PayloadKind :=
  [clientHello, serverChallenge, clientProof, serverSession, clientPoll, serverLease, clientAckRequest, serverAck,
    clientResultSubmit, serverResult, clientHeartbeat, serverError]

/-- The kind a payload names. -/
def ofValue (value : JsValue) : Option PayloadKind := all.find? fun kind => value = .string kind.text

/-- The fields a payload may have. -/
def keys : PayloadKind → List String
  | clientHello => ["kind", "protocol", "transport", "executorReportDigests"]
  | serverChallenge => ["kind", "challenge"]
  | clientProof => ["kind", "proof"]
  | serverSession => ["kind", "session"]
  | clientPoll | clientHeartbeat => ["kind", "sessionId"]
  | serverLease => ["kind", "lease"]
  | clientAckRequest => ["kind", "sessionId", "leaseToken", "taskId"]
  | serverAck => ["kind", "acknowledgement"]
  | clientResultSubmit => ["kind", "sessionId", "result"]
  | serverResult => ["kind", "result"]
  | serverError => ["kind", "code"]

end PayloadKind

/-- A digest of an executor report. -/
def isReportDigest : JsValue → Bool
  | .string text => digestPattern text
  | _ => false

def isReportDigests : JsValue → Bool
  | .array items => items.all isReportDigest
  | _ => false

def checkHello (payload : Members) : Except String Unit := do
  exactKeys payload PayloadKind.clientHello.keys PayloadKind.clientHello.text
  throwIf (member payload "protocol" ≠ .string "quark-device-sync.v1" ∨
    member payload "transport" ∉ [.string "direct-tls", .string "ssh-subsystem"] ∨
    isReportDigests (member payload "executorReportDigests") = false) "device hello payload is invalid"

/-- The object of a payload that carries a scope; `undefined` when there is none to compare. -/
def bearerOf (kind : PayloadKind) (payload : Members) : Except String JsValue :=
  match kind with
  | .serverChallenge => .ok (member payload "challenge")
  | .serverSession => .ok (member payload "session")
  | .serverLease =>
    match member payload "lease" with
    | .undefined | .null => .ok .undefined
    | lease => readProperty (lease.get "plan") "envelope"
  | .serverResult => .ok (member payload "result")
  | _ => .ok .undefined

/-- The scope of an object is not that of the message; a user or device that it does not name is not compared. -/
def strays (bearer : JsValue) (message : Members) : Prop :=
  isTruthy bearer = true ∧ (strictEquals (bearer.get "tenantId") (member message "tenantId") = false ∨
      hasMember bearer "userId" = true ∧ strictEquals (bearer.get "userId") (member message "userId") = false ∨
      hasMember bearer "deviceId" = true ∧ strictEquals (bearer.get "deviceId") (member message "deviceId") = false)

instance (bearer : JsValue) (message : Members) : Decidable (strays bearer message) :=
  inferInstanceAs (Decidable (_ ∧ _))

/-- The device of an object must be that of the message. -/
def checkDevice (value : JsValue) (message : Members) (error : String) : Except String Unit := do
  let device ← readProperty value "deviceId"
  throwIf (strictEquals device (member message "deviceId") = false) error

def checkLease (lease : JsValue) (message : Members) : Except String Unit :=
  if isTruthy lease then
    if strictEquals (lease.get "deviceId") (member message "deviceId") then do
      let planId ← readProperty (lease.get "plan") "planId"
      throwIf (strictEquals (lease.get "planId") planId = false) "device lease scope differs from message scope"
    else .error "device lease scope differs from message scope"
  else .ok ()

def validatePayload (kind : PayloadKind) (payload message : Members) : Except String Unit :=
  if kind = .clientHello then checkHello payload
  else do
    let bearer ← bearerOf kind payload
    throwIf (strays bearer message) "device payload scope differs from message scope"
    if kind = .clientProof then
      checkDevice (member payload "proof") message "device proof scope differs from message scope"
    if kind = .serverAck then
      checkDevice (member payload "acknowledgement") message "device acknowledgement scope differs from message scope"
    if kind = .clientResultSubmit then
      checkDevice (member payload "result") message "device result scope differs from message scope"
    if kind = .serverLease then checkLease (member payload "lease") message
    exactKeys payload kind.keys kind.text
    if kind = .serverError then
      throwIf (member payload "code" ∉ [.string "request-rejected", .string "temporarily-unavailable"])
        "device error payload is invalid"

/-! ## Messages -/

def isDeviceId : JsValue → Bool
  | .string text => deviceIdPattern text
  | _ => false

def messageKeys : List String :=
  ["schemaVersion", "frameId", "causationId", "tenantId", "userId", "deviceId", "sentAt", "payload"]

/-- The members of the payload and its kind. -/
def payloadOf (value : JsValue) : Except String (PayloadKind × Members) :=
  match value with
  | .object payload =>
    match PayloadKind.ofValue (member payload "kind") with
    | some kind => .ok (kind, payload)
    | none => .error "device message payload kind is invalid"
  | _ => .error "device message payload kind is invalid"

section Host

/- `parse` stands for `Date.parse`. -/
variable (parse : String → Option Timestamp)

def isSentAt : JsValue → Bool
  | .string text => (parse text).isSome
  | _ => false

/-- A message as it is accepted: its clone is the same value. -/
def validateDeviceProtocolMessage (value : JsValue) : Except String JsValue := do
  let message ← match value with
    | .object message => .ok message
    | _ => .error "device protocol message must be an object"
  exactKeys message messageKeys "device message"
  throwIf (member message "schemaVersion" ≠ .number 1) "device protocol schema is unsupported"
  ["frameId", "tenantId", "userId", "deviceId"].forM fun key =>
    throwIf (isDeviceId (member message key) = false) s!"device message {key} is invalid"
  throwIf (member message "causationId" ≠ .null ∧ isDeviceId (member message "causationId") = false)
    "device message causationId is invalid"
  throwIf (isSentAt parse (member message "sentAt") = false) "device message sentAt is invalid"
  let (kind, payload) ← payloadOf (member message "payload")
  validatePayload kind payload message
  throwIf (isSensitive value = true) "device protocol message contains forbidden sensitive text"
  .ok value

/-! ## Frames -/

/-- `writeUInt32BE`. -/
def uint32Bytes (value : Nat) : List UInt8 :=
  [UInt8.ofNat (value / 16777216), UInt8.ofNat (value / 65536), UInt8.ofNat (value / 256), UInt8.ofNat value]

def encodeDeviceProtocolFrame (value : JsValue) : Except String (List UInt8) := do
  let message ← validateDeviceProtocolMessage parse value
  let body := utf8Bytes (message.stringify.getD "")
  throwIf (maxDeviceFrameBytes < body.length) "device protocol frame exceeds limit"
  .ok (uint32Bytes body.length ++ body)

def decodeBody (body : List UInt8) : Except String JsValue :=
  match JsValue.parse (utf8Text body) with
  | none => .error "device protocol frame is not valid JSON"
  | some value => validateDeviceProtocolMessage parse value

/-- What the front of the buffer is, once its bytes decide it, and how many bytes those are. -/
def nextFrame : List UInt8 → Option (Except String JsValue × Nat)
  | first :: second :: third :: fourth :: rest =>
    let length := ((first.toNat * 256 + second.toNat) * 256 + third.toNat) * 256 + fourth.toNat
    if length = 0 ∨ maxDeviceFrameBytes < length then some (.error "device protocol frame length is invalid", 4)
    else if rest.length < length then none
    else some (decodeBody parse (rest.take length), length + 4)
  | _ => none

theorem nextFrame_append {bytes : List UInt8} {front : Except String JsValue} {size : Nat} (more : List UInt8)
    (found : nextFrame parse bytes = some (front, size)) : nextFrame parse (bytes ++ more) = some (front, size) := by
  match bytes, found with
  | first :: second :: third :: fourth :: rest, found =>
    simp only [nextFrame, List.cons_append] at found ⊢
    split at found
    · rename_i wrong
      rw [if_pos wrong]
      exact found
    · rename_i right
      rw [if_neg right]
      split at found <;> [cases found; skip]
      rename_i long
      rw [if_neg (by rw [List.length_append]; omega), List.take_append_of_le_length (Nat.not_lt.mp long)]
      exact found

/-- The frames of a stream. -/
def deviceFraming : Framing UInt8 JsValue String where
  next := nextFrame parse
  positive := by
    intro bytes front size found
    match bytes, found with
    | first :: second :: third :: fourth :: rest, found =>
      simp only [nextFrame] at found
      split at found
      · cases found
        decide
      · split at found <;> cases found
        omega
  within := by
    intro bytes front size found
    match bytes, found with
    | first :: second :: third :: fourth :: rest, found =>
      simp only [nextFrame] at found
      split at found
      · cases found
        simp
      · split at found <;> cases found
        simp only [List.length_cons]
        omega
  append := nextFrame_append parse
  own := by
    intro bytes front size found
    match bytes, found with
    | first :: second :: third :: fourth :: rest, found =>
      simp only [nextFrame] at found
      split at found
      · rename_i wrong
        cases found
        simp only [List.take_succ_cons, List.take_zero, nextFrame]
        rw [if_pos wrong]
      · rename_i right
        split at found <;> cases found
        rename_i long
        simp only [List.take_succ_cons, nextFrame]
        rw [if_neg right, if_neg (by rw [List.length_take]; omega), List.take_take, Nat.min_self]

/-- `push`: the messages of a chunk and the bytes that stay buffered. -/
def push (buffer chunk : List UInt8) : Except String (List JsValue × List UInt8) :=
  if chunk = [] then .ok ([], buffer)
  else
    let scanned := (deviceFraming parse).scan (buffer ++ chunk)
    match scanned.fault with
    | some (message, _) => .error message
    | none =>
      if maxDeviceFrameBytes + 4 < scanned.rest.length then
        .error "device protocol buffered data exceeds limit"
      else .ok (scanned.frames.map Prod.fst, scanned.rest)

end Host

end QuarkSelfAI.ClientRuntime

import QuarkSelfAI.Storage.EventStore
import QuarkSelfAI.Workflow.Host

/-!
# Events of the channel

`normalizeLarkEvent`: what the event stream delivers becomes a neutral event, which is
journaled under the key of its message, or of itself.
-/

namespace QuarkSelfAI.Lark

open Foundation Storage Workflow

abbrev ChannelEvent := NormalizedChannelEvent JsValue

/-- `JSON.parse`, with no value where it throws, and `JSON.stringify`. -/
structure LarkHost extends Host where
  parseJson : String → Option JsValue
  stringify : JsValue → String

def messageReceivedEventKey : String := "im.message.receive_v1"

def cardActionEventKey : String := "card.action.trigger"

def isRecord : JsValue → Bool
  | .object _ => true
  | _ => false

/-- `text(value)`: a string with something in it. -/
def nonEmptyText : JsValue → Option String
  | .string text => if text = "" then none else some text
  | _ => none

/-- The last instant that a `Date` can hold. -/
def lastInstant : Nat := 8640000000000000

/-- `/^\d+$/.test(raw) ? new Date(Number(raw)) : new Date(raw)`. -/
def LarkHost.instantOf (host : LarkHost) (raw : String) : Option Timestamp :=
  if raw ≠ "" ∧ raw.toList.all Char.isDigit then
    let epoch := Nat.ofDigitChars 10 raw.toList 0
    if epoch ≤ lastInstant then some epoch else none
  else host.parseDate raw

def LarkHost.timestamp (host : LarkHost) (value : JsValue) : Option String :=
  (nonEmptyText value).bind fun raw => (host.instantOf raw).map toISOString

/-- The text of a message from its content envelope. -/
def LarkHost.normalizeLarkMessageText (host : LarkHost) (value : JsValue) : Option String :=
  match value with
  | .object _ => nonEmptyText (value.get "text")
  | value =>
    match nonEmptyText value with
    | none => none
    | some raw =>
      match host.parseJson raw with
      | none => some raw
      | some parsed => if isRecord parsed then nonEmptyText (parsed.get "text") else none

/-- `definedRecord`: absent fields are left out. -/
def definedRecord (members : List (String × JsValue)) : JsValue :=
  .object (members.filter fun member => member.2 ≠ .undefined)

/-- `value ?? fallback` where the value may be absent. -/
def textField (value : Option String) : JsValue := (value.map JsValue.string).getD .undefined

/-- `String(value.action_name ?? value.action_tag ?? '')`. -/
def LarkHost.actionText (host : LarkHost) (value : JsValue) : String :=
  match value.get "action_name", value.get "action_tag" with
  | .undefined, .undefined | .undefined, .null | .null, .undefined | .null, .null => ""
  | .undefined, tag | .null, tag => host.text tag
  | name, _ => host.text name

namespace LarkHost

variable (host : LarkHost) (eventKey : String) (value : JsValue)

def messageIdOf : Option String := (nonEmptyText (value.get "message_id")).or (nonEmptyText (value.get "id"))

/-- What the events of every kind have in common. -/
def common (kind deduplicationKey : String) (payload : JsValue) : ChannelEvent :=
  { kind, deduplicationKey, payload, eventKey, raw := value
    source := {
      channel := "feishu"
      containerId := nonEmptyText (value.get "chat_id")
      resourceId := messageIdOf value
      eventId := nonEmptyText (value.get "event_id")
      actorId := nonEmptyText (value.get "sender_id") }
    occurredAt := (host.timestamp (value.get "timestamp")).or (host.timestamp (value.get "create_time")) }

/-- The key of an event that is known by nothing else. -/
def wholeKey : String := s!"{eventKey}:{host.stringify value}"

def normalizeLarkEvent : Except String ChannelEvent :=
  if ¬ isRecord value then .error s!"event {eventKey} payload must be an object"
  else
    let eventId := nonEmptyText (value.get "event_id")
    let messageId := messageIdOf value
    if eventKey = messageReceivedEventKey then
      .ok (host.common eventKey value "message.received"
        ((messageId.or eventId).getD (host.wholeKey eventKey value))
        (definedRecord [("text", textField (host.normalizeLarkMessageText (value.get "content"))),
          ("content", value.get "content"), ("messageType", value.get "message_type"),
          ("chatType", value.get "chat_type"), ("mentions", value.get "mentions"),
          ("replyTo", value.get "reply_to"), ("rootId", value.get "root_id"),
          ("threadId", value.get "thread_id")]))
    else if eventKey = cardActionEventKey then
      let card := messageId.getD "card"
      .ok (host.common eventKey value "card.action" (eventId.getD s!"{card}:{host.actionText value}")
        (definedRecord [("operatorId", value.get "operator_id"), ("actionName", value.get "action_name"),
          ("actionTag", value.get "action_tag"), ("actionValue", value.get "action_value"),
          ("formValue", value.get "form_value"), ("inputValue", value.get "input_value"),
          ("token", value.get "token")]))
    else
      .ok (host.common eventKey value "channel.event" (eventId.getD (host.wholeKey eventKey value)) value)

end LarkHost

/-! ## The durable envelope -/

/-- `nonEmpty`. -/
def nonEmpty (label text : String) : Except String Unit :=
  if isBlank text then .error s!"{label} must be a non-empty string"
  else if 4096 < utf16Length text then .error s!"{label} exceeds 4096 characters"
  else .ok ()

/-- `assertJsonObject`. -/
def assertJsonObject (label : String) (value : JsValue) : Except String Unit :=
  if isRecord value then JsValue.assertJsonValue value label else .error s!"{label} must be an object"

/-- The fields of a source that are there, with their names. -/
def sourceFields (source : SourceRef) : List (String × String) :=
  ("channel", source.channel) ::
    [("containerId", source.containerId), ("resourceId", source.resourceId), ("eventId", source.eventId),
      ("actorId", source.actorId)].filterMap fun field => field.2.map (field.1, ·)

def LarkHost.validateNormalizedChannelEvent (host : LarkHost) (event : ChannelEvent) : Except String Unit := do
  nonEmpty "event kind" event.kind
  nonEmpty "event source channel" event.source.channel
  nonEmpty "event key" event.eventKey
  nonEmpty "event deduplication key" event.deduplicationKey
  (sourceFields event.source).forM fun field => nonEmpty s!"event source {field.1}" field.2
  if event.occurredAt.any fun text => (host.parseDate text).isNone then
    .error "event occurredAt must be a timestamp"
  assertJsonObject "event payload" event.payload
  assertJsonObject "event raw" event.raw

/-- The journal identity of an event. -/
def recordId (event : ChannelEvent) : String := s!"event:{event.source.channel}:{event.deduplicationKey}"

def LarkHost.eventRecordId (host : LarkHost) (event : ChannelEvent) : Except String String := do
  host.validateNormalizedChannelEvent event
  return recordId event

/-- `appendEvent` of the durable state service. -/
def LarkHost.appendEvent (host : LarkHost) (event : ChannelEvent) (clock : Timestamp)
    (store : EventStore JsValue Timestamp) : Except String StoredEvent × EventStore JsValue Timestamp :=
  match host.eventRecordId event with
  | .error message => (.error message, store)
  | .ok id => store.appendEvent id event clock

end QuarkSelfAI.Lark

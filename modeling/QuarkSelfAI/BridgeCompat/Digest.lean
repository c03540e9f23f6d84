import Mathlib.Algebra.Group.Int.Defs
import QuarkSelfAI.Foundation.IsoTime
import QuarkSelfAI.Foundation.Transition

/-!
# The notification digest

`queueDigestNotification` and `flushNotificationDigest` over `notificationDigestPending`. The
array holds references to items that are changed in place; a save replaces the array by a
slice of it, so that a flush may go on with an array that is no longer the one of the state.
The version of an item counts the calls that queue; the code does not see it.
-/

namespace QuarkSelfAI.BridgeCompat

open Foundation

/-- `value || other`, for a text. -/
def textOr (value : Option String) (other : String) : String :=
  match value with
  | none | some "" => other
  | some text => text

/-- The message and the task that a notification is about. -/
structure DigestInput where
  messageId : String
  chatName : Option String
  chatId : String
  senderName : Option String
  taskId : String
  title : String
  taskAction : String
  materialChangeSummary : Option String
  nextAction : Option String
  url : Option String
  policyIds : List String
  ownerMessage : Option String
  notificationTitle : Option String
  cardTone : Option String
  notificationDelayMinutes : Option Int

structure DigestItem where
  version : Nat
  messageId : String
  taskId : String
  title : String
  taskAction : String
  materialChange : String
  nextAction : String
  source : String
  sender : String
  url : Option String
  queuedAt : Timestamp
  policyIds : List String
  ownerMessage : String
  notificationTitle : String
  cardTone : String
  deliverAfter : Option Timestamp
deriving DecidableEq

structure DigestFailure where
  since : Timestamp
  attempts : Nat
  lastError : String
  nextAttemptAt : Timestamp

/-- The configuration, with the window of local hours in which a digest may be sent. -/
structure DigestOptions where
  withinWindow : Timestamp → Bool
  maxDelayMs : Int
  maxItems : Nat

/-- A flush that waits. -/
inductive Flushing where
  /-- It sends what it has rendered. The array it has captured is the one of the state, unless
  a save has replaced that. -/
  | sending (now : Timestamp) (captured : Option (List Nat)) (sent : List (Nat × DigestItem))
  /-- It saves that the digest is sent. -/
  | saving (now : Timestamp)
  /-- It saves its failure. -/
  | recording

structure Digest where
  /-- The items that were made, by reference. -/
  items : List DigestItem
  /-- `notificationDigestPending`. -/
  pending : List Nat
  versions : Nat
  lastSentAt : Option Timestamp
  failure : Option DigestFailure
  flushing : Option Flushing

structure DigestMessage where
  markdown : String
  suffix : String
  title : String

inductive DigestCall where
  | queue (input : DigestInput) (now : Timestamp)
  /-- An operation of the save queue begins. -/
  | save
  | flush (now : Timestamp)
  | sent (outcome : Except String Unit)
  | saved (outcome : Except String Unit)

/-- What a step shows: the item as it is queued, the message that is being sent, the items of
a digest that was sent, and those a save cuts off. -/
structure DigestReply where
  queued : Option DigestItem
  sending : Option DigestMessage
  sent : List DigestItem
  dropped : List DigestItem

def DigestReply.silent : DigestReply := ⟨none, none, [], []⟩

def DigestInput.item (input : DigestInput) (version : Nat) (now : Timestamp) : DigestItem where
  version := version
  messageId := input.messageId
  taskId := input.taskId
  title := input.title
  taskAction := input.taskAction
  materialChange := textOr input.materialChangeSummary ""
  nextAction := textOr input.nextAction ""
  source := textOr input.chatName input.chatId
  sender := textOr input.senderName "未知发送人"
  url := input.url.filter (· ≠ "")
  queuedAt := now
  policyIds := input.policyIds
  ownerMessage := textOr input.ownerMessage ""
  notificationTitle := textOr input.notificationTitle ""
  cardTone := textOr input.cardTone "blue"
  deliverAfter := input.notificationDelayMinutes.map fun minutes => now + minutes * 60000

/-- The item has waited long enough. -/
def DigestItem.due (options : DigestOptions) (now : Timestamp) (item : DigestItem) : Bool :=
  item.deliverAfter.any (· ≤ now) || options.maxDelayMs ≤ now - item.queuedAt

def DigestItem.line (item : DigestItem) : String :=
  let detail :=
    if item.ownerMessage ≠ "" then s!"：{item.ownerMessage}"
    else if item.materialChange ≠ "" then s!"：{item.materialChange}"
    else if item.nextAction ≠ "" then s!"：{item.nextAction}"
    else ""
  let link := match item.url with
    | some url => s!" · {url}"
    | none => ""
  s!"- **{item.title}**{detail}\n  {item.source} · {item.sender}{link}"

/-- The digest of the items, which are at least one. -/
def digestMessage (items : List DigestItem) : Option DigestMessage :=
  match items.head?, items.getLast? with
  | some first, some last =>
    let lines := "\n".intercalate (items.map DigestItem.line)
    let title := if items.length = 1 ∧ first.notificationTitle ≠ "" then first.notificationTitle else "我帮你归拢了几件事"
    some ⟨s!"我把刚才几条不需要立刻打断你的信息合在一起了，共 {items.length} 件。你有空时扫一眼就行：\n\n{lines}\n\n需要你马上决定的事情，我会单独告诉你。",
      s!"notification-digest:{toISOString first.queuedAt}:{last.messageId}", title⟩
  | _, _ => none

/-- `text.slice(-limit)`. -/
def utf16TakeLast (limit : Nat) (text : String) : String :=
  String.ofList (utf16Prefix limit text.toList.reverse).reverse

def DigestFailure.next (failure : Option DigestFailure) (error : String) (now : Timestamp) : DigestFailure :=
  let attempts := (failure.map DigestFailure.attempts).getD 0 + 1
  let delayMs : Int := min (6 * 60 * 60000) (10 * 60000 * 2 ^ min (attempts - 1) 5)
  ⟨(failure.map DigestFailure.since).getD now, attempts, utf16TakeLast 1000 error, now + delayMs⟩

namespace Digest

def empty : Digest := ⟨[], [], 0, none, none, none⟩

/-- The items of references, in order. -/
def contents (refs : List Nat) (digest : Digest) : List DigestItem := refs.filterMap fun ref => digest.items[ref]?

/-- The pending item of a task. -/
def existing (taskId : String) (digest : Digest) : Option Nat :=
  digest.pending.find? fun ref => (digest.items[ref]?.map DigestItem.taskId) = some taskId

def queueDigestNotification (input : DigestInput) (now : Timestamp) (digest : Digest) : DigestReply × Digest :=
  let item := input.item digest.versions now
  let reply : DigestReply := ⟨some item, none, [], []⟩
  match digest.existing input.taskId with
  | some ref => (reply, { digest with
      items := digest.items.modify ref fun _ => item, versions := digest.versions + 1 })
  | none => (reply, { digest with
      items := digest.items ++ [item], pending := digest.pending ++ [digest.items.length]
      versions := digest.versions + 1 })

/-- What `save` does to the array, which it replaces. -/
def save (digest : Digest) : DigestReply × Digest :=
  let cut := digest.pending.length - 500
  let flushing := match digest.flushing with
    | some (.sending now none sent) => some (.sending now (some digest.pending) sent)
    | other => other
  (⟨none, none, [], digest.contents (digest.pending.take cut)⟩,
    { digest with pending := digest.pending.drop cut, flushing })

/-- A flush up to the point at which it waits for its message. -/
def flushNotificationDigest (options : DigestOptions) (now : Timestamp) (digest : Digest) : DigestReply × Digest :=
  if digest.flushing.isSome = true ∨ digest.pending = [] ∨ options.withinWindow now = false
      ∨ digest.failure.any (fun failure => now < failure.nextAttemptAt) = true then (.silent, digest)
  else
    let due := digest.pending.filter fun ref => digest.items[ref]?.any (·.due options now)
    if due = [] then (.silent, digest)
    else
      let sent := (due.take options.maxItems).filterMap fun ref => digest.items[ref]?.map fun item => (ref, item)
      (⟨none, digestMessage (sent.map Prod.snd), [], []⟩, { digest with flushing := some (.sending now none sent) })

/-- The message ids of the sent items, as they are now. -/
def sentIds (sent : List (Nat × DigestItem)) (digest : Digest) : List String :=
  sent.filterMap fun entry => digest.items[entry.1]?.map DigestItem.messageId

/-- `!ids.has(item.messageId)`. -/
def remains (sent : List (Nat × DigestItem)) (digest : Digest) (ref : Nat) : Bool :=
  digest.items[ref]?.all fun item => item.messageId ∉ digest.sentIds sent

def fail (error : String) (now : Timestamp) (digest : Digest) : Digest :=
  { digest with failure := some (.next digest.failure error now), flushing := some .recording }

def onSent (now : Timestamp) (captured : Option (List Nat)) (sent : List (Nat × DigestItem))
    (outcome : Except String Unit) (digest : Digest) : DigestReply × Digest :=
  match outcome with
  | .ok () =>
    (⟨none, none, sent.map Prod.snd, []⟩, { digest with
      pending := (captured.getD digest.pending).filter (digest.remains sent)
      lastSentAt := some now, failure := none, flushing := some (.saving now) })
  | .error message => (.silent, digest.fail message now)

/-- Answer a call. What is not awaited does nothing. -/
def perform (options : DigestOptions) (call : DigestCall) (digest : Digest) : DigestReply × Digest :=
  match call with
  | .queue input now => digest.queueDigestNotification input now
  | .save => digest.save
  | .flush now => digest.flushNotificationDigest options now
  | .sent outcome =>
    match digest.flushing with
    | some (.sending now captured sent) => digest.onSent now captured sent outcome
    | _ => (.silent, digest)
  | .saved outcome =>
    match digest.flushing, outcome with
    | some (.saving _), .ok () => (.silent, { digest with flushing := none })
    | some (.saving now), .error message => (.silent, digest.fail message now)
    | some .recording, _ => (.silent, { digest with flushing := none })
    | _, _ => (.silent, digest)

def machine (options : DigestOptions) : Machine Digest DigestCall DigestReply where
  initial := empty
  perform := perform options

end Digest

end QuarkSelfAI.BridgeCompat

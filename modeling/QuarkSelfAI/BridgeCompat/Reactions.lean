import QuarkSelfAI.BridgeCompat.FocusMessages
import QuarkSelfAI.Foundation.Record
import QuarkSelfAI.Foundation.References
import Mathlib.Data.List.Sort

/-!
# Reaction events

`ingestReaction`, `processReactionQueue` and `enqueueReactionSignal`. The queue holds references
to events that are changed in place. The loop keeps an index into it while it waits for a
message, for the signal and for a save, and any save may replace the array by a slice of it.
-/

namespace QuarkSelfAI.BridgeCompat

open Foundation

inductive ReactionOperation where
  | created
  | deleted
deriving DecidableEq

/-- A time as the channel gives it. -/
inductive EventTime where
  | number (value : Int)
  | text (value : String)

/-- What is delivered about a reaction. -/
structure ReactionPayload where
  eventId : Option String
  createTime : Option EventTime
  messageId : Option String
  openId : Option String
  operatorType : Option String
  emojiType : Option String
  actionTime : Option EventTime

structure ReactionEvent where
  eventId : String
  operation : ReactionOperation
  messageId : String
  operatorId : String
  operatorType : String
  emojiType : String
  occurredAt : Timestamp

/-- An entry of `reactionPendingEvents`. -/
structure PendingReaction where
  event : ReactionEvent
  attempts : Nat
  nextAttemptAt : Option Timestamp
  lastError : Option String

structure ReactionState where
  messageId : String
  operatorId : String
  emojiType : String
  lastAt : Timestamp

/-- The message that a reaction is about, as it is looked up. -/
structure ReactionTarget where
  chatId : Option String
  chatName : Option String
  chatType : Option String
  senderId : Option String
  content : Option String
  rootId : Option String
  threadId : Option String
  appLink : Option String

/-- What other components know of conversations: the groups, and the names of those that the
owner takes part in. -/
structure KnownConversations where
  groups : List String
  engaged : List (String × String)

/-- The message that `enqueueSignal` gets. -/
structure ReactionSignal where
  messageId : String
  chatId : String
  chatName : String
  chatType : String
  createTime : Timestamp
  content : String
  senderId : String
  senderName : String
  replyTo : String
  rootId : Option String
  threadId : Option String
  intakeReasons : List String
  operation : ReactionOperation
  emojiType : String
  ownerOperated : Bool
  appLink : String
  settleDelayMs : Int

/-- What `recordOwnerSignal` gets. -/
structure OwnerReaction where
  operation : ReactionOperation
  emojiType : String
  messageId : String
  chatId : String
  occurredAt : Timestamp

/-- The configuration, with `Date.parse`. -/
structure ReactionOptions where
  parseDate : String → Option Timestamp
  allowedOpenId : String
  ownerName : Option String
  learns : Bool
  settleDelayMs : Int

/-- What the loop waits for, with its index and the event it has taken. -/
inductive Draining where
  | looking (index ref : Nat)
  | signalling (index ref : Nat)
  /-- The save after an event was removed. -/
  | saving (index ref : Nat)
  /-- The save of a failure. -/
  | recording (index : Nat)
deriving DecidableEq

structure Reactions where
  /-- The events that were accepted, by reference. -/
  items : List PendingReaction
  /-- `reactionPendingEvents`. -/
  pending : List Nat
  processedEventIds : List String
  states : List (String × ReactionState)
  draining : Option Draining

inductive ReactionCall where
  | ingest (payload : ReactionPayload) (operation : ReactionOperation) (now : Timestamp)
  /-- An operation of the save queue begins. -/
  | save
  | process (now : Timestamp)
  | lookedUp (outcome : Except String (Option ReactionTarget)) (known : KnownConversations) (now : Timestamp)
  | signalled (outcome : Except String Unit) (now : Timestamp)
  | saved (outcome : Except String Unit) (now : Timestamp)

/-- What a step shows: the event it accepts, the one that it finds to concern the owner or not
to, what it signals for it, the event whose processing has succeeded, and what a save cuts off. -/
structure ReactionReply where
  accepted : Option ReactionEvent
  concerning : Option ReactionEvent
  ignored : Option ReactionEvent
  ownerSignal : Option OwnerReaction
  signal : Option ReactionSignal
  succeeded : Option Nat
  cut : List Nat
  forgotten : List String

def ReactionReply.silent : ReactionReply := ⟨none, none, none, none, none, none, [], []⟩

/-- `/^\d{10,13}$/`. -/
def isEpochText (text : String) : Bool := text.toList.all Char.isDigit && 10 ≤ text.length && text.length ≤ 13

/-- `new Date(epoch).toISOString()`, which throws out of the range of a `Date`. -/
def dateOf (epoch : Int) : Option Timestamp := if epoch.natAbs ≤ 8640000000000000 then some epoch else none

/-- Seconds or milliseconds. -/
def epochDate (numeric : Int) : Option Timestamp := dateOf (if numeric < 10000000000 then numeric * 1000 else numeric)

def normalizeEventTime (parseDate : String → Option Timestamp) (value : Option EventTime) (now : Timestamp) :
    Option Timestamp :=
  match value with
  | none | some (.text "") => some now
  | some (.number numeric) => epochDate numeric
  | some (.text text) =>
    if isEpochText text then epochDate (Nat.ofDigitChars 10 text.toList 0 : Nat)
    else some ((parseDate text).getD now)

/-- `value || other`, for a time. -/
def timeOr (value other : Option EventTime) : Option EventTime :=
  match value with
  | none | some (.number 0) | some (.text "") => other
  | value => value

/-- A field with something in it. -/
def given (value : Option String) : Option String := value.filter (· ≠ "")

def ReactionPayload.event (options : ReactionOptions) (operation : ReactionOperation) (now : Timestamp)
    (payload : ReactionPayload) : Option ReactionEvent := do
  let eventId ← given payload.eventId
  let messageId ← given payload.messageId
  let operatorId ← given payload.openId
  let emojiType ← given payload.emojiType
  let occurredAt ← normalizeEventTime options.parseDate (timeOr payload.actionTime payload.createTime) now
  some ⟨eventId, operation, messageId, operatorId, textOr payload.operatorType "user", emojiType, occurredAt⟩

def reactionStateKey (messageId operatorId emojiType : String) : String := s!"{messageId}:{operatorId}:{emojiType}"

namespace ReactionEvent

def stateKey (event : ReactionEvent) : String := reactionStateKey event.messageId event.operatorId event.emojiType

def ownerOperated (options : ReactionOptions) (event : ReactionEvent) : Bool := event.operatorId = options.allowedOpenId

/-- The owner has reacted, or it is his message. -/
def relevant (options : ReactionOptions) (target : ReactionTarget) (event : ReactionEvent) : Bool :=
  event.ownerOperated options || target.senderId = some options.allowedOpenId

def ownerSignal (options : ReactionOptions) (chatId : String) (event : ReactionEvent) : Option OwnerReaction :=
  if event.ownerOperated options && options.learns then
    some ⟨event.operation, event.emojiType, event.messageId, chatId, event.occurredAt⟩
  else none

def signal (options : ReactionOptions) (target : ReactionTarget) (chatId chatName chatType : String)
    (event : ReactionEvent) : ReactionSignal :=
  let ownerOperated := event.ownerOperated options
  let owner := textOr options.ownerName "常东旭"
  let actor := if ownerOperated then owner else "他人"
  let object := if ownerOperated then "目标消息" else owner ++ "的消息"
  let operationText := if event.operation = .deleted then "撤销了" else "添加了"
  let relationText := if ownerOperated then "本人表情回应" else "他人回应本人消息"
  let targetText := utf16Take 1500 (textOr target.content "")
  let link := s!"https://applink.feishu.cn/client/chat/open?openChatId={encodeURIComponent chatId}&position={encodeURIComponent event.messageId}"
  { messageId := s!"reaction:{event.eventId}"
    chatId := chatId
    chatName := chatName
    chatType := chatType
    createTime := event.occurredAt
    content := s!"{actor}对{object}{operationText}表情「{event.emojiType}」。表情只是上下文信号，必须结合目标消息、会话习惯和附近上下文判断是确认、知晓、跟进、异议、撤回还是社交回应；不得使用固定 emoji 字典机械下结论。\n\n目标消息：{targetText}"
    senderId := event.operatorId
    senderName := if ownerOperated then owner else event.operatorId
    replyTo := event.messageId
    rootId := given target.rootId
    threadId := given target.threadId
    intakeReasons := [relationText, if event.operation = .deleted then "表情撤回" else "表情新增"]
    operation := event.operation
    emojiType := event.emojiType
    ownerOperated := ownerOperated
    appLink := textOr target.appLink link
    settleDelayMs := options.settleDelayMs }

end ReactionEvent

namespace PendingReaction

def fresh (event : ReactionEvent) : PendingReaction := ⟨event, 0, none, none⟩

def due (now : Timestamp) (item : PendingReaction) : Bool := item.nextAttemptAt.all (· ≤ now)

def failed (error : String) (now : Timestamp) (item : PendingReaction) : PendingReaction :=
  { item with
    attempts := item.attempts + 1
    lastError := some (utf16TakeLast 1000 error)
    nextAttemptAt := some (now + PendingPass.delayMinutes (item.attempts + 1) * 60000) }

end PendingReaction

/-- The entries with the latest first, as a save orders them. -/
def latestStates (states : List (String × ReactionState)) : List (String × ReactionState) :=
  states.insertionSort fun left right => right.2.lastAt ≤ left.2.lastAt

namespace Reactions

def empty : Reactions := ⟨[], [], [], [], none⟩

/-- The id of the event of a reference. -/
def eventId (ref : Nat) (world : Reactions) : Option String := world.items[ref]?.map (·.event.eventId)

def known (eventId : String) (world : Reactions) : Bool :=
  decide (eventId ∈ world.processedEventIds) || world.pending.any fun ref => world.eventId ref = some eventId

def ingestReaction (options : ReactionOptions) (payload : ReactionPayload) (operation : ReactionOperation)
    (now : Timestamp) (world : Reactions) : ReactionReply × Reactions :=
  match payload.event options operation now with
  | none => (.silent, world)
  | some event =>
    if world.known event.eventId then (.silent, world)
    else ({ ReactionReply.silent with accepted := some event }, { world with
      items := world.items ++ [.fresh event], pending := world.pending ++ [world.items.length] })

/-- What `save` does to the arrays and the states, which it replaces. -/
def save (world : Reactions) : ReactionReply × Reactions :=
  let cut := world.pending.length - 500
  ({ ReactionReply.silent with
      cut := world.pending.take cut, forgotten := ((latestStates world.states).drop 2000).map Prod.fst },
    { world with
      pending := world.pending.drop cut
      processedEventIds := world.processedEventIds.drop (world.processedEventIds.length - 2000)
      states := (latestStates world.states).take 2000 })

/-- The loop goes on from an index until it has to wait. -/
def goOn (index : Nat) (now : Timestamp) (world : Reactions) : Reactions :=
  { world with
    draining := (seek (PendingReaction.due now) world.items index (world.pending.drop index)).map fun found =>
      .looking found.1 found.2 }

def processReactionQueue (now : Timestamp) (world : Reactions) : Reactions :=
  if world.draining.isSome then world else world.goOn 0 now

/-- The `catch` of an event. -/
def fail (index ref : Nat) (error : String) (now : Timestamp) (world : Reactions) : Reactions :=
  { world with
    items := world.items.modify ref (PendingReaction.failed error now), draining := some (.recording index) }

/-- The event is processed: it is noted, and what stands at the index is removed. -/
def settle (index ref : Nat) (world : Reactions) : Reactions :=
  { world with
    processedEventIds := world.processedEventIds ++ (world.eventId ref).toList
    pending := world.pending.eraseIdx index
    draining := some (.saving index ref) }

/-- `enqueueReactionSignal` up to where it waits. -/
def setState (event : ReactionEvent) (world : Reactions) : Reactions :=
  match event.operation with
  | .deleted => { world with states := world.states.filter fun entry => entry.1 ≠ event.stateKey }
  | .created => { world with
      states := assign world.states event.stateKey
        ⟨event.messageId, event.operatorId, event.emojiType, event.occurredAt⟩ }

def onLookedUp (options : ReactionOptions) (index ref : Nat) (outcome : Except String (Option ReactionTarget))
    (known : KnownConversations) (now : Timestamp) (world : Reactions) : ReactionReply × Reactions :=
  match outcome, world.items[ref]? with
  | .error message, _ => (.silent, world.fail index ref message now)
  | .ok none, _ => (.silent, world.fail index ref "飞书表情目标消息不可见" now)
  | .ok (some target), item =>
    match given target.chatId, item with
    | some chatId, some item =>
      let event := item.event
      let chatType := textOr target.chatType (if chatId ∈ known.groups then "group" else "p2p")
      let chatName := textOr target.chatName (textOr (known.engaged.lookup chatId) chatId)
      if event.relevant options target then
        ({ ReactionReply.silent with
            concerning := some event
            ownerSignal := event.ownerSignal options chatId
            signal := some (event.signal options target chatId chatName chatType) },
          { world.setState event with draining := some (.signalling index ref) })
      else ({ ReactionReply.silent with ignored := some event, succeeded := some ref }, world.settle index ref)
    | _, _ => (.silent, world.fail index ref "飞书表情目标消息缺少会话标识" now)

def onSignalled (index ref : Nat) (outcome : Except String Unit) (now : Timestamp) (world : Reactions) :
    ReactionReply × Reactions :=
  match outcome with
  | .error message => (.silent, world.fail index ref message now)
  | .ok () => ({ ReactionReply.silent with succeeded := some ref }, world.settle index ref)

def onSaved (draining : Draining) (outcome : Except String Unit) (now : Timestamp) (world : Reactions) : Reactions :=
  match draining, outcome with
  | .saving index _, .ok () => world.goOn index now
  | .saving index ref, .error message => world.fail index ref message now
  | .recording index, .ok () => world.goOn (index + 1) now
  | .recording _, .error _ => { world with draining := none }
  | .looking .., _ | .signalling .., _ => world

def perform (options : ReactionOptions) (call : ReactionCall) (world : Reactions) : ReactionReply × Reactions :=
  match call with
  | .ingest payload operation now => world.ingestReaction options payload operation now
  | .save => world.save
  | .process now => (.silent, world.processReactionQueue now)
  | .lookedUp outcome known now =>
    match world.draining with
    | some (.looking index ref) => world.onLookedUp options index ref outcome known now
    | _ => (.silent, world)
  | .signalled outcome now =>
    match world.draining with
    | some (.signalling index ref) => world.onSignalled index ref outcome now
    | _ => (.silent, world)
  | .saved outcome now =>
    match world.draining with
    | some draining => (.silent, world.onSaved draining outcome now)
    | none => (.silent, world)

def machine (options : ReactionOptions) : Machine Reactions ReactionCall ReactionReply where
  initial := empty
  perform := perform options

end Reactions

end QuarkSelfAI.BridgeCompat

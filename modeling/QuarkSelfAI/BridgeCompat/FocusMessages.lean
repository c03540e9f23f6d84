import Mathlib.Data.List.Sort
import QuarkSelfAI.BridgeCompat.Digest

/-!
# Pending focus messages

One `processPending` pass over `mentionPending`: the batch that a due item is taken up with,
the message that the batch is combined to, and what the loop does with the batch. A turn of
the loop carries the time it reads and how its context and its task turn out; `Date.parse`
belongs to the host.
-/

namespace QuarkSelfAI.BridgeCompat

open Foundation

structure FocusMessage where
  messageId : String
  chatId : Option String
  createTime : Option String
  messagePosition : Option Int
  senderName : Option String
  content : String
  intakeReasons : List String
  batchedMessageIds : Option (List String)
deriving DecidableEq

structure PendingItem where
  /-- Where the item stood when the pass began; the code does not see it. -/
  place : Nat
  message : FocusMessage
  discoveredAt : Option String
  readyAt : Option String
  attempts : Nat
  nextAttemptAt : Option String
  lastError : Option String
deriving DecidableEq

/-- What a pass depends on. -/
structure PendingOptions where
  /-- `Date.parse`, without the texts it gives `NaN` for. -/
  dateParse : String → Option Timestamp
  /-- `mentionConversationBatchWindowMs`. -/
  windowMs : Nat

def FocusMessage.isExplicitOwnerMention (message : FocusMessage) : Bool :=
  message.intakeReasons.any fun reason => startsWith reason "@常东旭"

/-- `text.replace(" ", "T")`. -/
def replaceBlank (text : String) : String :=
  String.ofList (text.toList.replaceF fun char => if char = ' ' then some 'T' else none)

namespace PendingOptions

variable (options : PendingOptions)

/-- `!value || Date.parse(value) <= now`. -/
def reached (now : Timestamp) (value : Option String) : Bool :=
  match value with
  | none | some "" => true
  | some text => (options.dateParse text).any (· ≤ now)

def pendingIsDue (item : PendingItem) (now : Timestamp) : Bool :=
  options.reached now item.readyAt && options.reached now item.nextAttemptAt

/-- `value && Date.parse(value) > now`. -/
def awaited (now : Timestamp) (value : Option String) : Bool :=
  match value with
  | none | some "" => false
  | some text => (options.dateParse text).any (now < ·)

def messageTimestamp (message : FocusMessage) : Timestamp :=
  (options.dateParse (replaceBlank (message.createTime.getD "") ++ "+08:00")).getD 0

/-- The time of an item's message, or else of its discovery; `none` where that is `NaN`. -/
def itemTime (item : PendingItem) : Option Timestamp :=
  let sent := options.messageTimestamp item.message
  if sent ≠ 0 then some sent else options.dateParse (textOr item.discoveredAt "0")

/-- `!seedTime || !itemTime || Math.abs(itemTime - seedTime) <= windowMs`. -/
def near (seedTime itemTime : Option Timestamp) : Bool :=
  match seedTime, itemTime with
  | some seed, some item => decide (seed = 0 ∨ item = 0 ∨ (item - seed).natAbs ≤ options.windowMs)
  | _, _ => true

/-- An item joins the batch of a due one. -/
def joins (seed : PendingItem) (now : Timestamp) (item : PendingItem) : Bool :=
  textOr seed.message.chatId "" ≠ "" && item.message.chatId = seed.message.chatId &&
    !options.awaited now item.nextAttemptAt &&
    !((seed.message.isExplicitOwnerMention || item.message.isExplicitOwnerMention) &&
      !options.pendingIsDue item now) &&
    options.near (options.itemTime seed) (options.itemTime item)

def conversationPendingBatch (items : List PendingItem) (seedIndex : Nat) (now : Timestamp) : List PendingItem :=
  match items[seedIndex]? with
  | none => []
  | some seed => if options.pendingIsDue seed now then items.filter (options.joins seed now) else [seed]

/-- The order of a batch: by time, and then by position. -/
def earlier (left right : PendingItem) : Prop :=
  options.messageTimestamp left.message < options.messageTimestamp right.message ∨
    options.messageTimestamp left.message = options.messageTimestamp right.message ∧
      left.message.messagePosition.getD 0 ≤ right.message.messagePosition.getD 0

instance : DecidableRel options.earlier := fun _ _ => inferInstanceAs (Decidable (_ ∨ _))

def ordered (batch : List PendingItem) : List PendingItem := batch.insertionSort options.earlier

end PendingOptions

namespace PendingItem

/-- What stands before the text of an item in its line. -/
def header (item : PendingItem) : String :=
  let time := textOr item.message.createTime "未知时间"
  let name := textOr item.message.senderName "未知发送人"
  s!"[{time}] {name}: "

/-- The text of an item that a batch takes. -/
def boundedText (item : PendingItem) : String := utf16Take 800 item.message.content

def line (item : PendingItem) : String := item.header ++ item.boundedText

end PendingItem

/-- The message of a batch; an empty batch has none, where the source throws. -/
def PendingOptions.combineConversationBatch (options : PendingOptions) (batch : List PendingItem) :
    Option FocusMessage :=
  match batch with
  | [] => none
  | [item] => some item.message
  | batch =>
    let ordered := options.ordered batch
    let content := utf16TakeLast 6000 ("\n".intercalate (ordered.map PendingItem.line))
    ordered.getLast?.map fun latest => { latest.message with
      content := s!"同一会话在短时间内形成的一组连续消息，请作为一个事项整体判断，不得逐条建单：\n{content}"
      intakeReasons := distinct (ordered.flatMap fun item => item.message.intakeReasons)
      batchedMessageIds := some (ordered.map fun item => item.message.messageId) }

/-- How the turn that takes up a batch goes on. -/
inductive PendingOutcome where
  | contextFailed (error : String)
  | creationFailed (error : String)
  /-- It throws after the task is created and before the batch is finished. -/
  | failedBefore (error : String)
  | finished
  /-- It throws after the batch is finished. -/
  | failedAfter (error : String)
deriving DecidableEq

/-- A turn of the loop: the time it reads, how it goes on, the time at which a failure is
recorded, and whether that is saved. -/
structure PendingTurn where
  now : Timestamp
  outcome : PendingOutcome
  failedAt : Timestamp
  recorded : Bool

/-- What a turn shows: the item it finds not due, the batch it takes up, the message that is
given to the task creator, whether the batch is finished, and the items it takes away from
before the place of the loop. -/
structure PendingReply where
  waiting : Option PendingItem
  batch : List PendingItem
  presented : Option FocusMessage
  finished : Bool
  shifted : List PendingItem

def PendingReply.silent : PendingReply := ⟨none, [], none, false, []⟩

inductive PassPhase where
  | running
  | ended
  | threw
deriving DecidableEq

structure PendingPass where
  pending : List PendingItem
  processed : List String
  index : Nat
  phase : PassPhase

def messageIds (batch : List PendingItem) : List String := batch.map fun item => item.message.messageId

namespace PendingPass

/-- `!batchIds.has(item.message.message_id)`. -/
def outside (batch : List PendingItem) (item : PendingItem) : Bool := item.message.messageId ∉ messageIds batch

def finishBatch (batch : List PendingItem) (pass : PendingPass) : PendingPass :=
  { pass with
    pending := pass.pending.filter (outside batch)
    processed := pass.processed ++ (distinct (messageIds batch)).filter (· ∉ pass.processed) }

/-- The minutes until an item is tried again. -/
def delayMinutes (attempts : Nat) : Nat := min 60 (2 ^ min attempts 6)

def postponed (error : String) (now : Timestamp) (item : PendingItem) : PendingItem :=
  { item with
    attempts := item.attempts + 1
    lastError := some error
    nextAttemptAt := some (toISOString (now + delayMinutes (item.attempts + 1) * 60000)) }

/-- The `catch` of a turn: the items of the batch that are still pending wait, and the loop
goes on unless their failure cannot be saved. -/
def retry (batch : List PendingItem) (error : String) (turn : PendingTurn) (pass : PendingPass) : PendingPass :=
  let places := batch.map PendingItem.place
  { pass with
    pending := pass.pending.map fun item => if item.place ∈ places then postponed error turn.failedAt item else item
    index := if turn.recorded then pass.index + 1 else pass.index
    phase := if turn.recorded then .running else .threw }

/-- The items before the place of the loop that a finished batch takes away. -/
def shift (batch : List PendingItem) (pass : PendingPass) : List PendingItem :=
  (pass.pending.take pass.index).filter fun item => !outside batch item

/-- What becomes of a batch that is taken up as a message. -/
def settle (batch : List PendingItem) (message : FocusMessage) (turn : PendingTurn) (pass : PendingPass) :
    PendingReply × PendingPass :=
  match turn.outcome with
  | .contextFailed error => (⟨none, batch, none, false, []⟩, pass.retry batch error turn)
  | .creationFailed error | .failedBefore error => (⟨none, batch, some message, false, []⟩, pass.retry batch error turn)
  | .finished => (⟨none, batch, some message, true, pass.shift batch⟩, pass.finishBatch batch)
  | .failedAfter error =>
    (⟨none, batch, some message, true, pass.shift batch⟩, (pass.finishBatch batch).retry batch error turn)

/-- One turn of the loop. -/
def perform (options : PendingOptions) (turn : PendingTurn) (pass : PendingPass) : PendingReply × PendingPass :=
  match pass.phase with
  | .running =>
    match pass.pending[pass.index]? with
    | none => (.silent, { pass with phase := .ended })
    | some pending =>
      if options.pendingIsDue pending turn.now = false then
        (⟨some pending, [], none, false, []⟩, { pass with index := pass.index + 1 })
      else
        let batch := options.conversationPendingBatch pass.pending pass.index turn.now
        match options.combineConversationBatch batch with
        | none => (.silent, { pass with phase := .threw })
        | some message => pass.settle batch message turn
  | .ended | .threw => (.silent, pass)

/-- The pass over some items begins. -/
def start (items : List PendingItem) (processed : List String) : PendingPass :=
  ⟨items.mapIdx fun place item => { item with place }, processed, 0, .running⟩

def machine (options : PendingOptions) (items : List PendingItem) (processed : List String) :
    Machine PendingPass PendingTurn PendingReply where
  initial := start items processed
  perform := perform options

end PendingPass

end QuarkSelfAI.BridgeCompat

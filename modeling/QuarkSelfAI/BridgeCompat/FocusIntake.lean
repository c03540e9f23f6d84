import QuarkSelfAI.BridgeCompat.FocusMessages

/-!
# The intake of focus messages

`ingestRealtime`, `enqueueSignal`, `ingestDelegationSignal` and `poll` enter messages into `mentionPending`, and the
one pass of `processLocalQueues` that runs at a time takes them out again. Each part of a call that runs without
waiting is one call of the machine. A producer that has entered a message saves and starts the local queues, and
both may happen at any time, so that nothing more is kept of a producer that waits.
-/

namespace QuarkSelfAI.BridgeCompat

open Foundation

/-! ## Test messages -/

/-- The text that is left where a text starts with another one, whatever the case of its letters. -/
def afterStart (start text : List Char) : Option (List Char) :=
  if (start.map Char.toLower).isPrefixOf (text.map Char.toLower) then some (text.drop start.length) else none

/-- What follows the first closing tag on the same line: `.*?<\/at>`. -/
def afterClosingTag : List Char → Option (List Char)
  | [] => none
  | char :: rest =>
    match afterStart "</at>".toList (char :: rest) with
    | some left => some left
    | none => if char.toNat ∈ [0x0A, 0x0D, 0x2028, 0x2029] then none else afterClosingTag rest

/-- What follows a mention that a text starts with: `<at\b[^>]*>.*?<\/at>`. -/
def afterMention (text : List Char) : Option (List Char) :=
  match afterStart "<at".toList text with
  | none => none
  | some rest =>
    if rest.head?.any (fun char => char.isAlphanum || char = '_') then none
    else
      match rest.dropWhile (· ≠ '>') with
      | [] => none
      | _ :: inner => afterClosingTag inner

/-- A blank in the place of every mention; the fuel is the length of the text. -/
def withoutMentions : Nat → List Char → List Char
  | 0, text => text
  | _, [] => []
  | fuel + 1, char :: rest =>
    match afterMention (char :: rest) with
    | some left => ' ' :: withoutMentions fuel left
    | none => char :: withoutMentions fuel rest

/-- `replace(/^@\S+\s*/u, "")`. -/
def withoutAddressee : List Char → List Char
  | '@' :: char :: rest => if isSpace char then '@' :: char :: rest else (rest.dropWhile (!isSpace ·)).dropWhile isSpace
  | text => text

def withoutPunctuation (text : List Char) : List Char := (text.reverse.dropWhile (· ∈ "!！。.,，~～".toList)).reverse

def testTexts : List String :=
  ["测试", "测试任务", "测试消息", "联调测试", "自动化测试", "test", "test task", "test message", "smoke test"]

def isTestText (text : List Char) : Bool :=
  testTexts.any fun test =>
    test.toList.isPrefixOf text &&
      let rest := text.drop test.toList.length
      rest = [] || ["勿回", "请忽略", "ignore"].any fun hint => rest.dropWhile isSpace = hint.toList

/-! ## What is configured and what is delivered -/

structure IntakeOptions extends PendingOptions where
  /-- `normalize("NFKC")`. -/
  normalizeNFKC : String → String
  toLowerCase : String → String
  allowedOpenId : String
  xiaoweiOpenId : Option String
  /-- The open ids and the names of `specialAttentionUsers`. -/
  specialAttentionUsers : List (String × Option String)
  inviterName : Option String
  mentionRealtimeSettleDelayMs : Nat
  mentionSettleDelayMs : Nat
  groupMembershipSettleDelayMs : Nat

def IntakeOptions.isSyntheticTestMessage (options : IntakeOptions) (content : String) : Bool :=
  let text := (options.normalizeNFKC content).toList
  let spoken := withoutAddressee (withoutMentions text.length text)
  let folded := options.toLowerCase (trim (String.ofList spoken))
  isTestText (trim (String.ofList (withoutPunctuation folded.toList))).toList

structure DelegationSignal where
  eventId : String
  chatId : String
  chatName : String
  occurredAt : Option String
  evidence : String

/-- A realtime event about a message. -/
structure RealtimeEvent where
  messageId : String
  chatId : Option String
  chatType : String
  createTime : Option String
  timestamp : Option String
  content : String
  mentions : List String
  senderId : Option String
  senderType : String
  senderName : Option String

/-- A message that a search finds. -/
structure FoundMessage where
  message : FocusMessage
  chatType : String
  senderId : Option String
  deleted : Bool

/-- What the searches of a poll find; a message of an attention conversation comes with the reasons and the
settle delay of the profile of its chat. -/
structure PollFindings where
  mentions : List FoundMessage
  specialAttention : List FoundMessage
  directMessages : List FoundMessage
  attentionConversations : List (FoundMessage × List String × Nat)
  delegatedGroups : List FoundMessage

/-! ## Collecting -/

/-- An entry of `foundById`. -/
structure Finding where
  message : FocusMessage
  senderId : Option String
  settleDelayMs : Option Nat

/-- `foundById` and `lowSignalIds`. -/
structure Collected where
  found : List Finding
  lowSignal : List String

namespace IntakeOptions

variable (options : IntakeOptions)

/-- Another reason for a message that was found before. -/
def again (reason : String) (settleDelayMs : Option Nat) (finding : Finding) : Finding :=
  { finding with
    message := { finding.message with
      intakeReasons := if reason ∈ finding.message.intakeReasons then finding.message.intakeReasons
        else finding.message.intakeReasons ++ [reason] }
    settleDelayMs := settleDelayMs.or finding.settleDelayMs }

def addFound (reason : String) (settleDelayMs : Option Nat) (collected : Collected) (found : FoundMessage) : Collected :=
  let messageId := found.message.messageId
  if messageId = "" ∨ found.deleted = true ∨ found.senderId = some options.allowedOpenId then collected
  else if found.senderId = options.xiaoweiOpenId then collected
  else if options.isSyntheticTestMessage found.message.content then
    { collected with
      lowSignal := if messageId ∈ collected.lowSignal then collected.lowSignal else collected.lowSignal ++ [messageId] }
  else if collected.found.any fun finding => finding.message.messageId = messageId then
    { collected with
      found := collected.found.map fun finding =>
        if finding.message.messageId = messageId then again reason settleDelayMs finding else finding }
  else
    { collected with
      found := collected.found ++ [⟨{ found.message with intakeReasons := [reason] }, found.senderId, settleDelayMs⟩] }

def addSpecial (collected : Collected) (found : FoundMessage) : Collected :=
  match options.specialAttentionUsers.find? fun user => found.senderId = some user.1 with
  | some user =>
    if found.chatType = "group" then
      let name := textOr user.2 (textOr found.message.senderName "关注联系人")
      options.addFound s!"特别关注：{name}" none collected found
    else collected
  | none => collected

def collect (found : PollFindings) : Collected :=
  let mentioned := found.mentions.foldl (options.addFound "@常东旭" none) ⟨[], []⟩
  let special := found.specialAttention.foldl options.addSpecial mentioned
  let direct := found.directMessages.foldl
    (fun collected message => if message.chatType = "p2p" then options.addFound "他人私聊" none collected message else collected)
    special
  let attention := found.attentionConversations.foldl
    (fun collected entry => entry.2.1.foldl
      (fun collected reason => options.addFound reason (some entry.2.2) collected entry.1) collected)
    direct
  found.delegatedGroups.foldl (options.addFound "任永强交接群" none) attention

/-- `isSpecialAttention`. -/
def isSpecialAttention (message : FocusMessage) : Bool :=
  message.intakeReasons.any fun reason => startsWith reason "特别关注："

def settleDelayOf (finding : Finding) : Nat :=
  if finding.message.isExplicitOwnerMention then options.mentionRealtimeSettleDelayMs
  else if isSpecialAttention finding.message then options.mentionSettleDelayMs
  else finding.settleDelayMs.getD options.mentionSettleDelayMs

/-- A realtime event is about a message of somebody else that mentions the owner. -/
def concerns (event : RealtimeEvent) : Bool :=
  event.chatType = "group" ∧ event.senderType = "user" ∧ event.senderId ≠ some options.allowedOpenId ∧
    options.allowedOpenId ∈ event.mentions ∧ event.messageId ≠ ""

end IntakeOptions

/-! ## The state -/

/-- How far `processLocalQueues` is. -/
inductive QueuePhase where
  | idle
  /-- It saves what `discardLowSignalPending` has left. -/
  | discarding
  /-- The loop of `processPending` is at an index. -/
  | looking (index : Nat)
  /-- It waits for `getMentionContext`. -/
  | gathering (index : Nat) (batch : List PendingItem) (message : FocusMessage)
  /-- It waits for `createFromMention` and for what follows up to the end of the batch. -/
  | creating (index : Nat) (batch : List PendingItem)
  /-- It saves the end of a batch, and tells the owner. -/
  | concluding (index : Nat) (batch : List PendingItem)
  /-- It saves the failure of a batch. -/
  | failing (index : Nat)
  /-- It is behind `processPending`. -/
  | others
deriving DecidableEq

structure FocusIntake where
  pending : List PendingItem
  processed : List String
  delegatedGroupChatIds : List String
  groupMembershipKnownChatIds : List String
  queues : QueuePhase
  /-- How many items were entered; the next one is known by that number. -/
  entered : Nat

inductive IntakeCall where
  | ingestDelegationSignal (signal : DelegationSignal) (now : Timestamp)
  | ingestRealtime (event : RealtimeEvent) (now : Timestamp)
  | enqueueSignal (message : FocusMessage) (settleDelayMs : Nat) (now : Timestamp)
  /-- The part of `poll` that follows its searches. -/
  | poll (found : PollFindings) (now : Timestamp)
  | save
  | processLocalQueues
  /-- What the local queues save is saved, or cannot be. -/
  | saved (ok : Bool)
  | look (now : Timestamp)
  /-- What the batch waits for succeeds, or throws. -/
  | answered (outcome : Except String Unit) (now : Timestamp)
  /-- `processLocalQueues` ends. -/
  | ended

/-- The message ids that are presented to the task creator, and those whose batch is finished. -/
structure IntakeReply where
  presented : List String
  finished : List String

def IntakeReply.silent : IntakeReply := ⟨[], []⟩

namespace FocusIntake

/-- `mentionProcessedMessageIds` or `mentionPending` has the id. -/
def knows (messageId : String) (world : FocusIntake) : Bool :=
  messageId ∈ world.processed ∨ messageId ∈ messageIds world.pending

def enter (message : FocusMessage) (settleDelayMs : Nat) (now : Timestamp) (world : FocusIntake) : FocusIntake :=
  { world with
    pending := world.pending ++ [{
      place := world.entered
      message
      discoveredAt := some (toISOString now)
      readyAt := if 0 < settleDelayMs then some (toISOString (now + settleDelayMs)) else none
      attempts := 0
      nextAttemptAt := none
      lastError := none }]
    entered := world.entered + 1 }

/-- Enter a message that is not known. -/
def takeIn (message : FocusMessage) (settleDelayMs : Nat) (now : Timestamp) (world : FocusIntake) : FocusIntake :=
  if world.knows message.messageId then world else world.enter message settleDelayMs now

/-- Ids that are not processed yet are. -/
def mark (ids : List String) (world : FocusIntake) : FocusIntake :=
  { world with processed := world.processed ++ (distinct ids).filter (· ∉ world.processed) }

/-- `if (!list.includes(value)) list.push(value)`. -/
def including (value : String) (list : List String) : List String := if value ∈ list then list else list ++ [value]

def delegationMessageId (eventId : String) : String :=
  if startsWith eventId "om_" then eventId else "membership:" ++ eventId

def delegationMessage (options : IntakeOptions) (signal : DelegationSignal) (now : Timestamp) : FocusMessage :=
  let inviter := textOr options.inviterName "任永强"
  { messageId := delegationMessageId signal.eventId
    chatId := some signal.chatId
    createTime := some (textOr signal.occurredAt (toISOString now))
    messagePosition := none
    senderName := some inviter
    content := s!"{inviter}邀请常东旭加入群聊「{signal.chatName}」。这通常表示需要常东旭接手或分担相关工作；必须结合群内上下文确认具体责任、现状和下一步。核验依据：{signal.evidence}。"
    intakeReasons := ["任永强邀请入群：工作接手"]
    batchedMessageIds := none }

def ingestDelegationSignal (options : IntakeOptions) (signal : DelegationSignal) (now : Timestamp) (world : FocusIntake) :
    FocusIntake :=
  if signal.eventId = "" ∨ signal.chatId = "" then world
  else
    let joined := { world with
      delegatedGroupChatIds := including signal.chatId world.delegatedGroupChatIds
      groupMembershipKnownChatIds := including signal.chatId world.groupMembershipKnownChatIds }
    joined.takeIn (delegationMessage options signal now) options.groupMembershipSettleDelayMs now

def realtimeMessage (event : RealtimeEvent) (now : Timestamp) : FocusMessage where
  messageId := event.messageId
  chatId := event.chatId
  createTime := some (textOr event.createTime (textOr event.timestamp (toISOString now)))
  messagePosition := none
  senderName := event.senderName
  content := event.content
  intakeReasons := ["@常东旭"]
  batchedMessageIds := none

def ingestRealtime (options : IntakeOptions) (event : RealtimeEvent) (now : Timestamp) (world : FocusIntake) : FocusIntake :=
  if options.concerns event = false then world
  else if options.isSyntheticTestMessage event.content then world.mark [event.messageId]
  else world.takeIn (realtimeMessage event now) options.mentionRealtimeSettleDelayMs now

def enqueueSignal (message : FocusMessage) (settleDelayMs : Nat) (now : Timestamp) (world : FocusIntake) : FocusIntake :=
  if message.messageId = "" ∨ textOr message.chatId "" = "" then world else world.takeIn message settleDelayMs now

def admitFinding (options : IntakeOptions) (now : Timestamp) (world : FocusIntake) (finding : Finding) : FocusIntake :=
  if finding.message.messageId = "" ∨ finding.senderId = some options.allowedOpenId then world
  else world.takeIn finding.message (options.settleDelayOf finding) now

def poll (options : IntakeOptions) (found : PollFindings) (now : Timestamp) (world : FocusIntake) : FocusIntake :=
  let collected := options.collect found
  collected.found.foldl (admitFinding options now) (world.mark collected.lowSignal)

/-- `list.slice(-limit)`. -/
def newest {α : Type} (limit : Nat) (list : List α) : List α := list.drop (list.length - limit)

def save (world : FocusIntake) : FocusIntake :=
  { world with
    processed := newest 2000 world.processed
    delegatedGroupChatIds := newest 500 (distinct world.delegatedGroupChatIds)
    groupMembershipKnownChatIds := newest 2000 (distinct world.groupMembershipKnownChatIds) }

/-! ## The local queues -/

def isTestItem (options : IntakeOptions) (item : PendingItem) : Bool :=
  options.isSyntheticTestMessage item.message.content

def discardLowSignalPending (options : IntakeOptions) (world : FocusIntake) : FocusIntake :=
  let discarded := world.pending.filter (isTestItem options)
  let marked := world.mark ((messageIds discarded).filter (· ≠ ""))
  { marked with pending := world.pending.filter (!isTestItem options ·) }

def processLocalQueues (options : IntakeOptions) (world : FocusIntake) : FocusIntake :=
  if world.queues ≠ .idle then world
  else if world.pending.any (isTestItem options) then
    { world.discardLowSignalPending options with queues := .discarding }
  else { world with queues := .looking 0 }

/-- An iteration of the loop, up to the point at which it first waits. An empty batch throws. -/
def look (options : IntakeOptions) (now : Timestamp) (index : Nat) (world : FocusIntake) : FocusIntake :=
  match world.pending[index]? with
  | none => { world with queues := .others }
  | some pending =>
    if options.pendingIsDue pending now = false then { world with queues := .looking (index + 1) }
    else
      let batch := options.conversationPendingBatch world.pending index now
      match options.combineConversationBatch batch with
      | none => { world with queues := .idle }
      | some message => { world with queues := .gathering index batch message }

def finishBatch (batch : List PendingItem) (world : FocusIntake) : FocusIntake :=
  { world.mark (messageIds batch) with pending := world.pending.filter (PendingPass.outside batch) }

/-- The `catch` of an iteration: the items of the batch that are still pending wait. -/
def retry (index : Nat) (batch : List PendingItem) (error : String) (now : Timestamp) (world : FocusIntake) : FocusIntake :=
  let places := batch.map PendingItem.place
  { world with
    pending := world.pending.map fun item => if item.place ∈ places then PendingPass.postponed error now item else item
    queues := .failing index }

def answered (outcome : Except String Unit) (now : Timestamp) (world : FocusIntake) : IntakeReply × FocusIntake :=
  match world.queues, outcome with
  | .gathering index batch _, .ok () => (⟨messageIds batch, []⟩, { world with queues := .creating index batch })
  | .creating index batch, .ok () =>
    (⟨[], messageIds batch⟩, { world.finishBatch batch with queues := .concluding index batch })
  | .concluding index _, .ok () => (.silent, { world with queues := .looking index })
  | .gathering index batch _, .error error | .creating index batch, .error error
  | .concluding index batch, .error error => (.silent, world.retry index batch error now)
  | _, _ => (.silent, world)

/-- The loop goes on behind what was saved; a save that fails ends it. -/
def saved (ok : Bool) (world : FocusIntake) : FocusIntake :=
  match world.queues with
  | .discarding => { world with queues := if ok then .looking 0 else .idle }
  | .failing index => { world with queues := if ok then .looking (index + 1) else .idle }
  | _ => world

/-- What is not awaited does nothing. -/
def perform (options : IntakeOptions) (call : IntakeCall) (world : FocusIntake) : IntakeReply × FocusIntake :=
  match call with
  | .ingestDelegationSignal signal now => (.silent, world.ingestDelegationSignal options signal now)
  | .ingestRealtime event now => (.silent, world.ingestRealtime options event now)
  | .enqueueSignal message settleDelayMs now => (.silent, world.enqueueSignal message settleDelayMs now)
  | .poll found now => (.silent, world.poll options found now)
  | .save => (.silent, world.save)
  | .processLocalQueues => (.silent, world.processLocalQueues options)
  | .saved ok => (.silent, world.saved ok)
  | .look now =>
    match world.queues with
    | .looking index => (.silent, world.look options now index)
    | _ => (.silent, world)
  | .answered outcome now => world.answered outcome now
  | .ended => (.silent, if world.queues = .others then { world with queues := .idle } else world)

end FocusIntake

/-- The lists of a state that was loaded. -/
structure LoadedIntake where
  pending : List PendingItem
  processed : List String
  distinct : (messageIds pending).Nodup
  apart : ∀ id ∈ messageIds pending, id ∉ processed

def LoadedIntake.empty : LoadedIntake := ⟨[], [], List.nodup_nil, nofun⟩

def LoadedIntake.start (loaded : LoadedIntake) : FocusIntake where
  pending := loaded.pending.mapIdx fun place item => { item with place }
  processed := loaded.processed
  delegatedGroupChatIds := []
  groupMembershipKnownChatIds := []
  queues := .idle
  entered := loaded.pending.length

def FocusIntake.machine (options : IntakeOptions) (loaded : LoadedIntake) : Machine FocusIntake IntakeCall IntakeReply where
  initial := loaded.start
  perform := perform options

end QuarkSelfAI.BridgeCompat

import QuarkSelfAI.Foundation.IsoTime
import QuarkSelfAI.Foundation.Suspension

/-!
# Confirmed clarifications

`applyClarificationDecision` with `interactionPolicy`: a click of the owner finds a pending
confirmation, and an approved question goes to another person in the owner's name. Each part
of a call that runs without waiting is one call of the machine; a suspended call keeps the
confirmation it has found, which is named by its place.
-/

namespace QuarkSelfAI.BridgeCompat

open Foundation

inductive ConfirmationStatus where
  | pending
  | declined
  | sent
deriving DecidableEq

/-- The message that a question is about. -/
structure MentionMessage where
  messageId : String
  chatId : String
  chatType : String
  senderId : Option String
  senderName : Option String

/-- An entry of `mentionClarificationConfirmations`. -/
structure ClarificationConfirmation where
  sourceMessageId : String
  taskId : String
  approvalId : String
  clarificationQuestion : String
  message : MentionMessage
  status : ConfirmationStatus
  decidedAt : Option Timestamp

/-- An entry of `mentionClarifications`. -/
structure MentionClarification where
  sourceMessageId : String
  questionMessageId : Option String
  chatId : String
  senderId : Option String
  askedAt : Timestamp
  taskId : String

/-- The button that the owner has clicked. -/
structure ClarificationAction where
  sourceMessageId : Option String
  approvalId : Option String
  decision : Option String

/-- The arguments of `replyAsUser`. -/
structure OwnerReply where
  messageId : String
  markdown : String
  approvalId : String
  approvedAt : Timestamp
  suffix : String

structure DecisionAnswer where
  result : String
  tone : String

structure InteractionPolicy where
  allowed : Bool
  reason : String

/-- A call that is suspended, with the place of its confirmation. -/
inductive SuspendedDecision where
  /-- It saves a declined confirmation. -/
  | declining (index : Nat)
  /-- It waits for `interactionPolicy`. -/
  | checking (index : Nat)
  /-- It waits for `replyAsUser`. -/
  | replying (index : Nat) (approvedAt : Timestamp)
  /-- It saves a confirmation that is sent. -/
  | confirming (index : Nat)

/-- The state, the suspended calls, and the questions asked in the owner's name, each with
the place of its confirmation. -/
structure Clarifications where
  confirmations : List ClarificationConfirmation
  clarifications : List MentionClarification
  calls : Suspension SuspendedDecision
  asked : List (Nat × OwnerReply)

inductive ClarificationCall where
  /-- `requestClarificationApproval` enters a confirmation. -/
  | request (confirmation : ClarificationConfirmation)
  | apply (action : ClarificationAction) (now : Timestamp)
  /-- `getChatInfo` answers whether the chat is external, or throws; a private chat is not asked for. -/
  | checked (ticket : Nat) (chat : Except String (Option Bool)) (now : Timestamp)
  | replied (ticket : Nat) (outcome : Except String (Option String))
  | saved (ticket : Nat) (outcome : Except String Unit)

/-- What a step shows: the confirmation whose question is asked, the one for which a
clarification is entered, the one whose decline the owner is told, and how a call ends. -/
structure ClarificationReply where
  asked : Option Nat
  entered : Option Nat
  declined : Option Nat
  ended : Option (Except String DecisionAnswer)

def ClarificationReply.silent : ClarificationReply := ⟨none, none, none, none⟩

def interactionPolicy (message : MentionMessage) (chat : Except String (Option Bool)) : InteractionPolicy :=
  if message.chatType ≠ "group" then ⟨true, "私聊"⟩
  else match chat with
    | .ok (some true) => ⟨false, "群内含外部人员，按规则禁止自动追问和回复"⟩
    | .ok (some false) => ⟨true, "已确认内部群"⟩
    | .ok none => ⟨false, "无法确认群是否含外部人员，按保守规则禁止发送"⟩
    | .error message => ⟨false, s!"群属性检查失败，按保守规则禁止发送：{message}"⟩

namespace ClarificationConfirmation

/-- The entry that a click is about, as long as it is pending. -/
def meets (action : ClarificationAction) (entry : ClarificationConfirmation) : Bool :=
  action.sourceMessageId = some entry.sourceMessageId ∧ action.approvalId = some entry.approvalId ∧
    entry.status = .pending

/-- `item.message.sender?.name || "对方"`. -/
def counterpart (item : ClarificationConfirmation) : String :=
  match item.message.senderName with
  | none | some "" => "对方"
  | some name => name

def decide (status : ConfirmationStatus) (at_ : Timestamp) (item : ClarificationConfirmation) :
    ClarificationConfirmation :=
  { item with status, decidedAt := some at_ }

def reply (approvedAt : Timestamp) (item : ClarificationConfirmation) : OwnerReply where
  messageId := item.message.messageId
  markdown := s!"为了避免理解偏差，需要确认一个会影响后续处理的问题：\n\n{item.clarificationQuestion}"
  approvalId := item.approvalId
  approvedAt := approvedAt
  suffix := s!"clarify:{item.message.messageId}"

def clarification (question : Option String) (askedAt : Timestamp) (item : ClarificationConfirmation) :
    MentionClarification where
  sourceMessageId := item.message.messageId
  questionMessageId := question
  chatId := item.message.chatId
  senderId := item.message.senderId
  askedAt := askedAt
  taskId := item.taskId

end ClarificationConfirmation

namespace Clarifications

def empty : Clarifications := ⟨[], [], .empty, []⟩

def request (confirmation : ClarificationConfirmation) (world : Clarifications) : Clarifications :=
  { world with
    confirmations := world.confirmations ++ [{ confirmation with status := .pending, decidedAt := none }] }

/-- A click, up to the point at which the call first waits. -/
def applyClarificationDecision (action : ClarificationAction) (now : Timestamp) (world : Clarifications) :
    ClarificationReply × Clarifications :=
  match world.confirmations.findIdx? (·.meets action) with
  | none => (⟨none, none, none, some (.ok ⟨"这项询问确认已经处理过或已失效。", "grey"⟩)⟩, world)
  | some index =>
    if action.decision = some "approve" then
      (.silent, { world with calls := world.calls.suspend (.checking index) })
    else
      (.silent, { world with
        confirmations := world.confirmations.modify index (·.decide .declined now)
        calls := world.calls.suspend (.declining index) })

/-- An approved question is sent, if the chat permits it. -/
def onChecked (ticket index : Nat) (chat : Except String (Option Bool)) (now : Timestamp)
    (item : ClarificationConfirmation) (world : Clarifications) : ClarificationReply × Clarifications :=
  let interaction := interactionPolicy item.message chat
  if interaction.allowed = true then
    (⟨some index, none, none, none⟩, { world with
      calls := (world.calls.resume ticket).suspend (.replying index now)
      asked := world.asked ++ [(index, item.reply now)] })
  else
    (⟨none, none, none, some (.error s!"无法发送询问：{interaction.reason}")⟩,
      { world with calls := world.calls.resume ticket })

def onReplied (ticket index : Nat) (approvedAt : Timestamp) (outcome : Except String (Option String))
    (item : ClarificationConfirmation) (world : Clarifications) : ClarificationReply × Clarifications :=
  match outcome with
  | .error message => (⟨none, none, none, some (.error message)⟩, { world with calls := world.calls.resume ticket })
  | .ok question =>
    (⟨none, some index, none, none⟩, { world with
      clarifications := world.clarifications ++ [item.clarification question approvedAt]
      confirmations := world.confirmations.modify index (·.decide .sent approvedAt)
      calls := (world.calls.resume ticket).suspend (.confirming index) })

def onSaved (ticket : Nat) (declined : Option Nat) (answer : DecisionAnswer) (outcome : Except String Unit)
    (world : Clarifications) : ClarificationReply × Clarifications :=
  let resumed := { world with calls := world.calls.resume ticket }
  match outcome with
  | .ok () => (⟨none, none, declined, some (.ok answer)⟩, resumed)
  | .error message => (⟨none, none, none, some (.error message)⟩, resumed)

/-- Answer a call. What is not awaited does nothing. -/
def perform (call : ClarificationCall) (world : Clarifications) : ClarificationReply × Clarifications :=
  match call with
  | .request confirmation => (.silent, world.request confirmation)
  | .apply action now => world.applyClarificationDecision action now
  | .checked ticket chat now =>
    match world.calls.find? ticket with
    | some (.checking index) =>
      match world.confirmations[index]? with
      | some item => world.onChecked ticket index chat now item
      | none => (.silent, world)
    | _ => (.silent, world)
  | .replied ticket outcome =>
    match world.calls.find? ticket with
    | some (.replying index approvedAt) =>
      match world.confirmations[index]? with
      | some item => world.onReplied ticket index approvedAt outcome item
      | none => (.silent, world)
    | _ => (.silent, world)
  | .saved ticket outcome =>
    match world.calls.find? ticket with
    | some (.declining index) =>
      match world.confirmations[index]? with
      | some item => world.onSaved ticket (some index) ⟨s!"已记录暂不向 **{item.counterpart}** 询问。", "grey"⟩ outcome
      | none => (.silent, world)
    | some (.confirming index) =>
      match world.confirmations[index]? with
      | some item => world.onSaved ticket none ⟨s!"已按你的确认向 **{item.counterpart}** 发送 AI 分身询问卡片。", "green"⟩ outcome
      | none => (.silent, world)
    | _ => (.silent, world)

def machine : Machine Clarifications ClarificationCall ClarificationReply where
  initial := empty
  perform := perform

end Clarifications

end QuarkSelfAI.BridgeCompat

import QuarkSelfAI.BridgeCompat.Drain
import QuarkSelfAI.Foundation.Suspension

/-!
# Instructions of the owner

`Bridge.handle`, the form branch of `handleCardAction` with the notice of its listener, and `enqueue`.
Calls run beside each other and are suspended at every await; the text or the form that a call
is about is marked as processed before its job is queued. A save writes what the memory holds when
it begins, and a crash leaves what was written last.
-/

namespace QuarkSelfAI.BridgeCompat

open Foundation

/-- What an instruction comes from: a text message, or a submitted form. -/
inductive InstructionOrigin where
  | message (messageId : String)
  | form (eventId : String)
deriving DecidableEq

structure OwnerEvent where
  messageId : String
  senderId : String
  senderType : String
  chatType : String
  messageType : String
  chatId : Option String
  content : Option String
  replyTo : Option String

/-- A submitted form, with the `prompt` of its values. -/
structure FormEvent where
  eventId : String
  operatorId : String
  messageId : String
  prompt : Option String

/-- An entry of `mentionResearchConfirmations`. -/
structure ResearchConfirmation where
  taskId : String
  title : String
  questionMessageId : Option String
  researchChannel : Option String
  /-- `status`, while it is pending nothing. -/
  decided : Option Bool

structure QueuedInstruction where
  origin : InstructionOrigin
  id : String
  sessionId : String
  sessionTitle : String
  prompt : String

/-- The state file. -/
structure BridgeState where
  processedMessageIds : List String
  processedCardEventIds : List String
  ownerControlChatIds : List String
  queue : List QueuedInstruction
  confirmations : List ResearchConfirmation
  controllerSessionId : Option String
  currentSessionId : Option String

structure InstructionOptions where
  allowedOpenId : String
  /-- `collaborationLearning` is there. -/
  learns : Bool
  /-- `proactiveConversation` is there. -/
  proactive : Bool

/-- How a research confirmation is understood. -/
inductive ResearchReading where
  /-- It is one of several, or none of those that wait. -/
  | ambiguous (places : List Nat)
  /-- One is decided, approved for a channel or declined. -/
  | decided (place : Nat) (channel : Option String)
deriving DecidableEq

/-- Where a call waits. -/
inductive HandlingPhase where
  /-- The save of a new control chat. -/
  | noticing
  | learning
  | matching
  /-- The save of the mark of a research confirmation. -/
  | confirming (reading : ResearchReading)
  | asking
  /-- The save of the decision. -/
  | deciding (place : Nat) (channel : Option String)
  /-- A reply after which nothing follows. -/
  | concluding
  /-- The save of the mark. -/
  | marking (sessionId : String)
  | updatingCard
  | finding (sessionId : String)
  /-- The reply that the session is missing. -/
  | missing
  /-- The save of the job, and the jobs ahead of it. -/
  | queueing (sessionId : String) (ahead : Nat)
  | acknowledging
  /-- The failure reply. -/
  | reporting
deriving DecidableEq

/-- What a call waits for. -/
inductive Awaited where
  | save
  | record
  | session
  | reply
deriving DecidableEq

def HandlingPhase.awaits : HandlingPhase → Awaited
  | .noticing | .confirming _ | .deciding .. | .marking _ | .queueing .. => .save
  | .learning | .matching => .record
  | .finding _ => .session
  | .asking | .concluding | .updatingCard | .missing | .acknowledging | .reporting => .reply

structure Handling where
  origin : InstructionOrigin
  /-- The message that is replied to. -/
  messageId : String
  content : Option String
  replyTo : Option String
  phase : HandlingPhase

structure Instructions where
  memory : BridgeState
  /-- What was written last. -/
  disk : BridgeState
  calls : Suspension Handling
  /-- What was ever marked as processed since it was loaded, which the code does not keep. -/
  marked : List InstructionOrigin
  /-- What of it a save has written, which the code does not keep. -/
  saved : List InstructionOrigin
  /-- Whose job or decision a save has written, which the code does not keep. -/
  written : List InstructionOrigin

inductive InstructionCall where
  | handle (event : OwnerEvent)
  | handleCardAction (event : FormEvent)
  /-- Another component asks for a confirmation. -/
  | confirm (item : ResearchConfirmation)
  /-- Another component saves. -/
  | save (outcome : Except String Unit)
  /-- The drain removes a job. -/
  | finish (index : Nat)
  /-- The save that a call awaits is done; whether its session runs. -/
  | saved (ticket : Nat) (outcome : Except String Unit) (running : Bool)
  /-- `recordOwnerMessage` or `recordReplyIfMatched` settles. -/
  | recorded (ticket : Nat) (outcome : Except String Unit)
  /-- `sessions.get` settles, with the title of the session. -/
  | found (ticket : Nat) (outcome : Except String (Option String))
  /-- A reply, a card update or a notice settles. -/
  | replied (ticket : Nat) (outcome : Except String Unit)
  | crash

inductive InstructionEvent where
  | queued (origin : InstructionOrigin)
  /-- A queue that holds the job is written. -/
  | persisted (origin : InstructionOrigin)
  /-- The research decision that it was taken as is written. -/
  | consumed (origin : InstructionOrigin)
  /-- The owner was sent why nothing was queued. -/
  | replied (origin : InstructionOrigin)
deriving DecidableEq

structure InstructionReply where
  events : List InstructionEvent
  message : Option SessionMessage

def InstructionReply.silent : InstructionReply := ⟨[], none⟩

def InstructionReply.send (text key : String) : InstructionReply := ⟨[], some ⟨text, key⟩⟩

/-! ## Research confirmations -/

def declineWords : List String := ["先不", "暂不", "不用", "不要", "不需要", "取消", "跳过"]

def approveWords : List String := ["可以", "确认", "需要", "开始", "启动", "继续", "同意", "查一下", "调研", "调查"]

/-- `(?:了|吧|一下|处理|调研|调查|查|启动|，|。|！|!|\s)*$` -/
def isFiller : List Char → Bool
  | [] => true
  | '一' :: '下' :: rest | '处' :: '理' :: rest | '调' :: '研' :: rest | '调' :: '查' :: rest
  | '启' :: '动' :: rest => isFiller rest
  | char :: rest => (char ∈ ['了', '吧', '查', '，', '。', '！', '!'] || isSpace char) && isFiller rest

def isStandaloneDecision (text : String) : Bool :=
  (approveWords ++ "批准" :: declineWords).any fun word =>
    word.toList.isPrefixOf text.toList && isFiller (text.toList.drop word.toList.length)

namespace ResearchConfirmation

/-- A text is about a confirmation. -/
def namedBy (text : String) (replyTo : Option String) (item : ResearchConfirmation) : Bool :=
  item.questionMessageId.any (fun question => question ≠ "" && replyTo = some question) ||
    includes text item.taskId || includes text (utf16TakeLast 8 item.taskId) ||
    (4 ≤ utf16Length item.title && includes text item.title)

/-- `applyResearchDecision`. -/
def decide (channel : Option String) (item : ResearchConfirmation) : ResearchConfirmation :=
  match channel with
  | some channel => { item with decided := some true, researchChannel := some channel }
  | none => { item with decided := some false }

end ResearchConfirmation

namespace BridgeState

def fresh : BridgeState := ⟨[], [], [], [], [], none, none⟩

/-- What a save keeps of the lists. -/
def cut (state : BridgeState) : BridgeState :=
  { state with
    processedMessageIds := state.processedMessageIds.drop (state.processedMessageIds.length - 500)
    processedCardEventIds := state.processedCardEventIds.drop (state.processedCardEventIds.length - 500)
    ownerControlChatIds :=
      (distinct state.ownerControlChatIds).drop ((distinct state.ownerControlChatIds).length - 20) }

/-- The places of the pending confirmations. -/
def pending (state : BridgeState) : List Nat :=
  (List.range state.confirmations.length).filter fun place =>
    state.confirmations[place]?.any fun item => item.decided.isNone

/-- Whether a text decides on a research, and how. -/
def readConfirmation (content replyTo : Option String) (state : BridgeState) : Option ResearchReading :=
  let text := trim (content.getD "")
  let negative := declineWords.any (includes text)
  let positive := approveWords.any (includes text)
  if state.pending = [] ∨ (negative = false ∧ positive = false) then none
  else
    let named := state.pending.filter fun place =>
      state.confirmations[place]?.any (ResearchConfirmation.namedBy text replyTo)
    let aboutResearch := includes text "调研" || includes text "调查"
    let found := if named = [] ∧ state.pending.length = 1 ∧ (aboutResearch || isStandaloneDecision text) then state.pending
      else named
    match found with
    | [place] =>
      let channel := if includes text "小维" then "xiaowei"
        else textOr (state.confirmations[place]?.bind (·.researchChannel)) "codex"
      some (.decided place (if negative then none else some channel))
    | [] => if aboutResearch then some (.ambiguous state.pending) else none
    | _ => some (.ambiguous state.pending)

/-- `controllerSessionId || currentSessionId`. -/
def controller (state : BridgeState) : Option String :=
  (state.controllerSessionId.filter (· ≠ "")).or (state.currentSessionId.filter (· ≠ ""))

def isQueued (messageId : String) (state : BridgeState) : Bool := state.queue.any (·.id = messageId)

end BridgeState

namespace Instructions

def empty (controller : Option String) : Instructions :=
  let state := { BridgeState.fresh with controllerSessionId := controller }
  ⟨state, state, .empty, [], [], []⟩

def edit (change : BridgeState → BridgeState) (world : Instructions) : Instructions :=
  { world with memory := change world.memory }

/-- A call goes on to its next wait. -/
def await (call : Handling) (phase : HandlingPhase) (world : Instructions) : Instructions :=
  { world with calls := world.calls.suspend { call with phase := phase } }

/-- The calls whose decision is not yet known to be written. -/
def deciding (world : Instructions) : List InstructionOrigin :=
  world.calls.waiting.filterMap fun entry => match entry.2.phase with
    | .deciding .. => some entry.2.origin
    | _ => none

/-- An operation of the save queue. -/
def persist (outcome : Except String Unit) (world : Instructions) : Instructions :=
  let memory := world.memory.cut
  match outcome with
  | .ok () => { world with
      memory := memory
      disk := memory
      saved := world.marked
      written := world.written ++ (memory.queue.map (·.origin) ++ world.deciding) }
  | .error _ => { world with memory := memory }

/-- What a save brings to the disk. -/
def persistEvents (outcome : Except String Unit) (world : Instructions) : List InstructionEvent :=
  match outcome with
  | .ok () => world.memory.queue.map (fun job => .persisted job.origin) ++ world.deciding.map .consumed
  | .error _ => []

/-- Mark what a call is about as processed. -/
def mark (origin : InstructionOrigin) (world : Instructions) : Instructions :=
  let memory := match origin with
    | .message messageId => { world.memory with
        processedMessageIds := world.memory.processedMessageIds ++ [messageId] }
    | .form eventId => { world.memory with
        processedCardEventIds := world.memory.processedCardEventIds ++ [eventId] }
  { world with memory := memory, marked := world.marked ++ [origin] }

/-- It is recorded as processed. -/
def isProcessed (origin : InstructionOrigin) (state : BridgeState) : Bool :=
  match origin with
  | .message messageId => messageId ∈ state.processedMessageIds
  | .form eventId => eventId ∈ state.processedCardEventIds

/-- How the owner is told of a failure. -/
def reportText (origin : InstructionOrigin) (error : String) : InstructionReply :=
  match origin with
  | .message _ => .send s!"交给 Codex 总控失败：\n\n{error}" "controller-error"
  | .form eventId => .send s!"飞书卡片操作处理失败，请直接回复文字继续。\n\n{error}" s!"card-action-failed:{eventId}"

/-- The `catch` of `handle`, or that of the card listener. -/
def report (call : Handling) (error : String) (world : Instructions) : InstructionReply × Instructions :=
  (reportText call.origin error, world.await call .reporting)

/-- `handle` behind the research confirmation. -/
def handToController (call : Handling) (world : Instructions) : InstructionReply × Instructions :=
  match world.memory.controller with
  | none => (.send "Codex 总控任务尚未绑定，请先在本机完成初始化。消息没有被标记为已处理。" "controller-missing",
      world.await call .concluding)
  | some sessionId =>
    let world := (world.edit fun state => { state with controllerSessionId := some sessionId }).mark call.origin
    (.silent, world.await call (.marking sessionId))

/-- `handle` behind the records. -/
def handleConfirmation (call : Handling) (world : Instructions) : InstructionReply × Instructions :=
  match world.memory.readConfirmation call.content call.replyTo with
  | some reading => (.silent, (world.mark call.origin).await call (.confirming reading))
  | none => world.handToController call

def matchReply (options : InstructionOptions) (call : Handling) (world : Instructions) :
    InstructionReply × Instructions :=
  if options.proactive then (.silent, world.await call .matching) else world.handleConfirmation call

/-- `handle` behind the note of the chat. -/
def check (options : InstructionOptions) (call : Handling) (world : Instructions) : InstructionReply × Instructions :=
  if isProcessed call.origin world.memory || world.memory.isQueued call.messageId then (.silent, world)
  else if options.learns then (.silent, world.await call .learning)
  else world.matchReply options call

def handle (options : InstructionOptions) (event : OwnerEvent) (world : Instructions) : InstructionReply × Instructions :=
  let call : Handling := ⟨.message event.messageId, event.messageId, event.content, event.replyTo, .concluding⟩
  if event.senderId ≠ options.allowedOpenId ∨ event.chatType ≠ "p2p" ∨ event.senderType ≠ "user" then (.silent, world)
  else if event.messageType ≠ "text" ∧ event.messageType ≠ "post" then
    (.send "目前只接受文字指令。" "unsupported", world.await call .concluding)
  else
    match event.chatId.filter (· ≠ "") with
    | none => world.check options call
    | some chatId =>
      if chatId ∈ world.memory.ownerControlChatIds then world.check options call
      else
        let world := world.edit fun state => { state with ownerControlChatIds := state.ownerControlChatIds ++ [chatId] }
        (.silent, world.await call .noticing)

/-- The form branch of `handleCardAction`, which throws into the notice of the listener. -/
def handleCardAction (options : InstructionOptions) (event : FormEvent) (world : Instructions) :
    InstructionReply × Instructions :=
  let prompt := trim (event.prompt.getD "")
  let call : Handling := ⟨.form event.eventId, event.messageId, some prompt, none, .concluding⟩
  if event.operatorId ≠ options.allowedOpenId ∨ event.eventId = "" ∨ isProcessed call.origin world.memory = true then
    (.silent, world)
  else if prompt = "" then
    ((reportText call.origin "没有收到有效的补充内容，请重新填写。"), world.await call .concluding)
  else
    -- The session is looked up after the card was updated.
    (.silent, (world.mark call.origin).await call (.marking ""))

/-- `enqueue` behind `sessions.get`. -/
def enqueue (call : Handling) (sessionId title : String) (world : Instructions) : InstructionReply × Instructions :=
  let ahead := (world.memory.queue.filter (·.sessionId = sessionId)).length
  let job : QueuedInstruction := ⟨call.origin, call.messageId, sessionId, title, call.content.getD ""⟩
  let world := world.edit fun state => { state with queue := state.queue ++ [job] }
  (⟨[.queued call.origin], none⟩, world.await call (.queueing sessionId ahead))

def acknowledgement (ahead : Nat) (running : Bool) : SessionMessage :=
  if running || 0 < ahead then
    ⟨s!"已交给 Codex 总控并加入队列。\n\n前面还有 {ahead + 1} 个执行/等待中的要求。", "queued"⟩
  else ⟨"已交给 Codex 总控直接理解并执行，我会把结果发回这里。", "queued"⟩

/-- What the owner is asked when it is not clear which research he means. -/
def ambiguousText (places : List Nat) (state : BridgeState) : String :=
  let items := places.filterMap fun place =>
    state.confirmations[place]?.map fun item => s!"- {item.title}（{item.taskId}）"
  let lines := "\n".intercalate items
  s!"我识别到这是调研确认，但当前有 {items.length} 项等待决定。请带上事项名或确认编号：\n\n{lines}"

def decisionText (channel : Option String) (item : ResearchConfirmation) : InstructionReply :=
  match channel with
  | some channel =>
    let channelName := if channel = "xiaowei" then "智造湖小维" else "Codex"
    .send s!"已确认：**{item.title}**。将使用 {channelName} 调研，结果返回后发给你并写回滴答任务。" "research-approved"
  | none => .send s!"已记录：**{item.title}** 暂不启动调研，会保留滴答待办。" "research-declined"

/-- A save that a call has awaited has succeeded. -/
def onSaved (options : InstructionOptions) (call : Handling) (running : Bool) (world : Instructions) :
    InstructionReply × Instructions :=
  match call.phase, call.origin with
  | .noticing, _ => world.check options call
  | .confirming (.ambiguous places), _ =>
    (.send (ambiguousText places world.memory) "research-confirm-ambiguous", world.await call .asking)
  | .confirming (.decided place channel), _ =>
    let world := world.edit fun state => { state with
      confirmations := state.confirmations.modify place (ResearchConfirmation.decide channel) }
    (.silent, world.await call (.deciding place channel))
  | .deciding place channel, _ =>
    (((world.memory.confirmations[place]?).map (decisionText channel)).getD .silent, world.await call .concluding)
  | .marking sessionId, .message _ => (.silent, world.await call (.finding sessionId))
  | .marking _, .form _ =>
    let content := call.content.getD ""
    (.send s!"已收到：{content}" "card-update", world.await call .updatingCard)
  | .queueing _ ahead, _ => (⟨[], some (acknowledgement ahead running)⟩, world.await call .acknowledging)
  | _, _ => (.silent, world)

/-- A save that a call has awaited has failed. -/
def onUnsaved (call : Handling) (error : String) (world : Instructions) : InstructionReply × Instructions :=
  match call.phase, call.origin with
  | .queueing .., _ | .marking _, .form _ => world.report call error
  -- `handle` throws, and nobody catches it.
  | _, _ => (.silent, world)

def onSaveSettled (options : InstructionOptions) (call : Handling) (outcome : Except String Unit) (running : Bool)
    (world : Instructions) : InstructionReply × Instructions :=
  match outcome with
  | .ok () => world.onSaved options call running
  | .error error => world.onUnsaved call error

def onRecorded (options : InstructionOptions) (call : Handling) (outcome : Except String Unit) (world : Instructions) :
    InstructionReply × Instructions :=
  match call.phase, outcome with
  | .learning, .ok () => world.matchReply options call
  | .matching, .ok () => world.handleConfirmation call
  -- What fails is thrown out of `handle` before anything is marked.
  | _, _ => (.silent, world)

def onFound (call : Handling) (outcome : Except String (Option String)) (world : Instructions) :
    InstructionReply × Instructions :=
  match call.phase, outcome with
  | .finding sessionId, .ok (some title) => world.enqueue call sessionId title
  | .finding _, .ok none => (.send "目标会话已不存在或不可续接，请重新搜索。" "missing", world.await call .missing)
  | .finding _, .error error => world.report call error
  | _, _ => (.silent, world)

def onReplied (call : Handling) (outcome : Except String Unit) (world : Instructions) : InstructionReply × Instructions :=
  match call.phase, outcome with
  | .updatingCard, .ok () =>
    match world.memory.controller with
    | none => world.report call "Codex 总控任务尚未绑定。"
    | some sessionId => (.silent, world.await call (.finding sessionId))
  | .updatingCard, .error error | .missing, .error error => world.report call error
  -- The listener and `handle` catch what the acknowledgement throws.
  | .acknowledging, .error error => world.report call error
  | .missing, .ok () | .asking, .ok () | .reporting, .ok () => (⟨[.replied call.origin], none⟩, world)
  | _, _ => (.silent, world)

/-- The call of a ticket waits no more. -/
def resume (ticket : Nat) (world : Instructions) : Instructions :=
  { world with calls := world.calls.resume ticket }

/-- The call of a ticket, if it waits for what is there now. -/
def resumed (ticket : Nat) (awaited : Awaited) (world : Instructions) : Option Handling :=
  (world.calls.find? ticket).filter fun call => call.phase.awaits = awaited

def perform (options : InstructionOptions) (step : InstructionCall) (world : Instructions) :
    InstructionReply × Instructions :=
  match step with
  | .handle event => world.handle options event
  | .handleCardAction event => world.handleCardAction options event
  | .confirm item =>
    (.silent, world.edit fun state => { state with confirmations := state.confirmations ++ [{ item with decided := none }] })
  | .save outcome => (⟨world.persistEvents outcome, none⟩, world.persist outcome)
  | .finish index => (.silent, world.edit fun state => { state with queue := state.queue.eraseIdx index })
  | .crash => (.silent, { world with memory := world.disk, calls := world.calls.clear, marked := world.saved })
  | .saved ticket outcome running =>
    match world.resumed ticket .save with
    | some call =>
      let (reply, after) := ((world.persist outcome).resume ticket).onSaveSettled options call outcome running
      ({ reply with events := world.persistEvents outcome ++ reply.events }, after)
    | none => (.silent, world)
  | .recorded ticket outcome =>
    match world.resumed ticket .record with
    | some call => (world.resume ticket).onRecorded options call outcome
    | none => (.silent, world)
  | .found ticket outcome =>
    match world.resumed ticket .session with
    | some call => (world.resume ticket).onFound call outcome
    | none => (.silent, world)
  | .replied ticket outcome =>
    match world.resumed ticket .reply with
    | some call => (world.resume ticket).onReplied call outcome
    | none => (.silent, world)

def machine (options : InstructionOptions) (controller : Option String) :
    Machine Instructions InstructionCall InstructionReply where
  initial := empty controller
  perform := perform options

end Instructions

end QuarkSelfAI.BridgeCompat

import QuarkSelfAI.Intake.Discovery
import QuarkSelfAI.Lark.Normalize

/-!
# The discovery of focus messages

`FeishuFocusDiscoveryEffectAdapter`: what the searches find becomes candidates, one to a
message with the reasons that it was found for, and each candidate with a reason is journaled.
-/

namespace QuarkSelfAI.Lark

open Foundation Storage Workflow Intake

def focusDiscoveryEventKey : String := "quark.focus.discovered.v1"

/-- `value[name] ?? value[other]`. -/
def either (value : JsValue) (name other : String) : JsValue := orElse (value.get name) (value.get other)

def idOf (message : JsValue) : Option String := boundedItem 300 (either message "message_id" "messageId")

def chatOf (message : JsValue) : Option String := boundedItem 300 (either message "chat_id" "chatId")

def chatTypeOf (message : JsValue) : Option String := boundedItem 30 (either message "chat_type" "chatType")

def messageSenderId (message : JsValue) : Option String :=
  let sender := message.get "sender"
  if isRecord sender then
    boundedItem 300 (orElse (sender.get "id") (either sender "open_id" "openId"))
  else boundedItem 300 (either message "sender_id" "senderId")

/-- `optionalTimestamp`. -/
def LarkHost.optionalTimestamp (host : LarkHost) : JsValue → Option String
  | .string raw => (host.instantOf raw).map toISOString
  | .number value => (host.instantOf (host.numberText value)).map toISOString
  | .nonFinite => (host.parseDate "NaN").map toISOString
  | _ => none

def LarkHost.normalizeDiscoveredMessage (host : LarkHost) (message : JsValue) (reasons : List String) :
    Option ChannelEvent :=
  match idOf message, chatOf message with
  | some messageId, some chatId =>
    if reasons = [] then none
    else
      let listed := JsValue.array (reasons.map .string)
      some {
        kind := "message.received", eventKey := focusDiscoveryEventKey, deduplicationKey := messageId
        source := {
          channel := "feishu", containerId := some chatId, resourceId := some messageId, eventId := none
          actorId := messageSenderId message }
        occurredAt := host.optionalTimestamp (either message "create_time" "createTime")
        payload := definedRecord [
          ("text", textField (host.normalizeLarkMessageText (message.get "content"))),
          ("content", message.get "content"),
          ("messageType", orElse (message.get "msg_type") (either message "message_type" "messageType")),
          ("chatType", textField (chatTypeOf message)), ("mentions", message.get "mentions"),
          ("threadId", either message "thread_id" "threadId"),
          ("rootId", either message "root_id" "rootId"),
          ("chatName", either message "chat_name" "chatName"), ("discoveryReasons", listed)]
        raw := .object [("message", message), ("discovery", .object [("reasons", listed)])] }
  | _, _ => none

/-! ## Candidates -/

/-- A `Map` from a text to the set of reasons given for it. -/
abbrev Reasons := List (String × List String)

/-- `Set.add`. -/
def addTo (reasons : List String) (reason : String) : List String :=
  if reason ∈ reasons then reasons else reasons ++ [reason]

/-- `addReason`. -/
def addReason (target : Reasons) (id reason : String) : Reasons :=
  match target with
  | [] => [(id, [reason])]
  | (known, reasons) :: rest =>
    if known = id then (known, addTo reasons reason) :: rest else (known, reasons) :: addReason rest id reason

/-- `[...(reasons.get(id) ?? [])]`, and nothing where there is no id. -/
def reasonsFor (target : Reasons) (id : Option String) : List String :=
  (id.bind fun id => List.lookup id target).getD []

structure Candidate where
  id : String
  message : JsValue
  reasons : List String
deriving DecidableEq

/-- `mergeCandidate`: a message is taken as it was found first. -/
def mergeCandidate (target : List Candidate) (message : JsValue) (reasons : List String) : List Candidate :=
  match idOf message with
  | none => target
  | some id =>
    if target.any fun known => known.id = id then
      target.map fun known =>
        if known.id = id then { known with reasons := reasons.foldl addTo known.reasons } else known
    else target ++ [{ id, message, reasons := reasons.foldl addTo [] }]

/-- What the commands of one discovery answered; a command that fails or whose pages are
incomplete ends the discovery before anything is journaled. `groupItems` answers for the id of
a feed group, and `lowered` is `toLocaleLowerCase`. -/
structure Findings where
  flagItems : List JsValue
  flagMessages : List JsValue
  groups : List JsValue
  groupItems : String → List JsValue
  lowered : String → String
  senderMessages : List JsValue
  chatMessages : List JsValue
  directMessages : List JsValue
  mentionMessages : List JsValue

namespace Findings

variable (findings : Findings) (sources : FocusDiscoverySources)

/-- `records(value)`. -/
def records (values : List JsValue) : List JsValue := values.filter isRecord

/-- The message that a flag is about; of several with its id the last one. -/
def flagged (flag : JsValue) : Option JsValue :=
  if isRecord (flag.get "message") then some (flag.get "message")
  else (boundedItem 300 (either flag "item_id" "itemId")).bind fun itemId =>
    (records findings.flagMessages).reverse.find? fun message => idOf message = some itemId

/-- The messages of `flaggedCandidates`; their chats are the ones that are focused. -/
def flaggedMessages : List JsValue :=
  if sources.includeFlaggedConversations then (records findings.flagItems).filterMap findings.flagged else []

/-- The chats that a feed group lists. -/
def groupChats (groupId : String) : List String :=
  (records (findings.groupItems groupId)).filterMap fun item =>
    (boundedItem 300 (either item "feed_id" "feedId")).filter fun chatId =>
      startsWith chatId "oc_" ∧
        (boundedItem 30 (either item "feed_type" "feedType")).all fun type => type.toLower = "chat"

def feedGroupChats : Except String (List String) := do
  let expected := (sources.feedGroupNames.map fun name => findings.lowered (trim name)).filter (· ≠ "")
  let matched := (records findings.groups).filter fun group =>
    (boundedItem 100 (group.get "name")).any fun name => findings.lowered name ∈ expected
  let chats ← matched.mapM fun group =>
    match boundedItem 300 (either group "group_id" "groupId") with
    | none => .error "Feishu feed group id is required"
    | some groupId => .ok (findings.groupChats groupId)
  return chats.flatten

/-- `focusChats`, with the chats of the feed groups. -/
def focusChats (feedChats : List String) : Reasons :=
  let configured := sources.conversationIds.foldl (addReason · · "configured-conversation") []
  let flagged := ((findings.flaggedMessages sources).filterMap chatOf).foldl
    (addReason · · "flagged-conversation") configured
  feedChats.foldl (addReason · · "focus-feed-group") flagged

/-- `senderReasons`. -/
def senderReasons : Reasons :=
  let configured := sources.senderIds.foldl (addReason · · "configured-sender") []
  if sources.includeOwnerParticipation then addReason configured sources.ownerOpenId "owner-participation"
  else configured

/-- The messages that are found, with the reasons that each is found for. -/
def searched (feedChats : List String) : List (JsValue × List String) :=
  let focused := findings.focusChats sources feedChats
  let senders := if senderReasons sources = [] then [] else records findings.senderMessages
  let chats := if focused = [] then [] else records findings.chatMessages
  (findings.flaggedMessages sources).map (·, ["flagged-message"]) ++
    senders.map (fun message => (message, reasonsFor (senderReasons sources) (messageSenderId message))) ++
    chats.map (fun message => (message, reasonsFor focused (chatOf message))) ++
    (if sources.includeDirectMessages then (records findings.directMessages).map (·, ["direct-message"])
      else []) ++
    (if sources.includeMentionBackfill then (records findings.mentionMessages).map (·, ["mention-backfill"])
      else [])

def candidates : Except String (List Candidate) := do
  let feedChats ← findings.feedGroupChats sources
  return (findings.searched sources feedChats).foldl (fun target found => mergeCandidate target found.1 found.2) []

end Findings

/-! ## Journaling -/

structure DiscoveryCounts where
  inserted : Nat
  duplicate : Nat
  skipped : Nat
deriving DecidableEq

/-- `[...candidate.reasons].sort()`. -/
def Candidate.sorted (candidate : Candidate) : List String := candidate.reasons.insertionSort (· ≤ ·)

def LarkHost.eventOf (host : LarkHost) (candidate : Candidate) : Option ChannelEvent :=
  host.normalizeDiscoveredMessage candidate.message candidate.sorted

/-- The loop that journals the candidates; one that is refused ends it. -/
def LarkHost.journal (host : LarkHost) (clock : Timestamp) :
    List Candidate → DiscoveryCounts → EventStore JsValue Timestamp →
      Except String DiscoveryCounts × EventStore JsValue Timestamp
  | [], counts, store => (.ok counts, store)
  | candidate :: rest, counts, store =>
    match host.eventOf candidate with
    | none => host.journal clock rest { counts with skipped := counts.skipped + 1 } store
    | some event =>
      match host.appendEvent event clock store with
      | (.error message, store) => (.error message, store)
      | (.ok stored, store) =>
        host.journal clock rest
          (if stored.inserted then { counts with inserted := counts.inserted + 1 }
            else { counts with duplicate := counts.duplicate + 1 }) store

/-- `execute`, when its commands answered. -/
def LarkHost.discover (host : LarkHost) (findings : Findings) (sources : FocusDiscoverySources)
    (clock : Timestamp) (store : EventStore JsValue Timestamp) :
    Except String DiscoveryCounts × EventStore JsValue Timestamp :=
  match findings.candidates sources with
  | .error message => (.error message, store)
  | .ok candidates => host.journal clock candidates ⟨0, 0, 0⟩ store

end QuarkSelfAI.Lark

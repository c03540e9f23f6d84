import QuarkSelfAI.Workflow.Host

/-!
# Focus discovery

`focusDiscoveryWorkflow`: scans for focus signals at an interval, each window from a
little before the end of the last successful one to the instant of its timer.
-/

namespace QuarkSelfAI.Intake

open Foundation Storage Workflow

def minimumIntervalMs : Nat := 600000

def defaultOverlapMs : Nat := 120000

def discoverSignals : String := "feishu.discover-focus-signals.v1"

inductive DiscoveryStage where
  | scheduled
  | discovering
deriving DecidableEq

structure FocusDiscoverySources where
  ownerOpenId : String
  senderIds : List String
  conversationIds : List String
  includeOwnerParticipation : Bool
  includeFlaggedConversations : Bool
  includeDirectMessages : Bool
  includeMentionBackfill : Bool
  feedGroupNames : List String

structure DiscoveryState where
  stage : DiscoveryStage
  intervalMs : Nat
  overlapMs : Nat
  retryMs : Nat
  sequence : Nat
  sources : FocusDiscoverySources
  lastSuccessfulAt : Option Timestamp
  windowEnd : Option Timestamp
  consecutiveFailures : Nat

/-! ## Input -/

def discoveryInteger (label : String) (minimum : Nat) : JsValue → Except String Nat
  | .number value => integerSetting s!"{label} must be an integer >= {minimum}" (some value) 0 minimum
  | _ => .error s!"{label} must be an integer >= {minimum}"

/-- `value ?? fallback`. -/
def orElse (value fallback : JsValue) : JsValue :=
  match value with
  | .undefined | .null => fallback
  | value => value

def discoveryText (label : String) (max : Nat) (value : JsValue) : Except String String := do
  let text ← boundedText s!"{label} is required" label max value
  return trim text

def boundedItem (max : Nat) : JsValue → Option String
  | .string text => if isBlank text ∨ max < utf16Length text then none else some (trim text)
  | _ => none

def discoveryStrings (label : String) (max : Nat) : JsValue → Except String (List String)
  | .array items =>
    match items.mapM (boundedItem max) with
    | none => .error s!"{label} must be a string array"
    | some texts => .ok texts.eraseDups
  | _ => .error s!"{label} must be a string array"

def validateSources (value : JsValue) : Except String FocusDiscoverySources :=
  match value with
  | .object _ => do
    let ownerOpenId ← discoveryText "focus discovery ownerOpenId" 300 (value.get "ownerOpenId")
    let senderIds ← discoveryStrings "focus discovery senderIds" 300 (value.get "senderIds")
    let conversationIds ← discoveryStrings "focus discovery conversationIds" 300
      (value.get "conversationIds")
    let feedGroupNames ← discoveryStrings "focus discovery feedGroupNames" 100
      (orElse (value.get "feedGroupNames") (.array ["特别关注"]))
    return { ownerOpenId, senderIds, conversationIds
             includeOwnerParticipation := value.get "includeOwnerParticipation" ≠ .bool false
             includeFlaggedConversations := value.get "includeFlaggedConversations" ≠ .bool false
             includeDirectMessages := value.get "includeDirectMessages" ≠ .bool false
             includeMentionBackfill := value.get "includeMentionBackfill" ≠ .bool false
             feedGroupNames }
  | _ => .error "focus discovery sources are required"

def FocusDiscoverySources.payload (sources : FocusDiscoverySources) : JsValue :=
  .object [("ownerOpenId", .string sources.ownerOpenId), ("senderIds", .array (sources.senderIds.map .string)),
    ("conversationIds", .array (sources.conversationIds.map .string)),
    ("includeOwnerParticipation", .bool sources.includeOwnerParticipation),
    ("includeFlaggedConversations", .bool sources.includeFlaggedConversations),
    ("includeDirectMessages", .bool sources.includeDirectMessages),
    ("includeMentionBackfill", .bool sources.includeMentionBackfill),
    ("feedGroupNames", .array (sources.feedGroupNames.map .string))]

def initialiseDiscovery (input : JsValue) (now : Timestamp) : Except String (WorkflowDecision DiscoveryState) := do
  let intervalMs ← discoveryInteger "focus discovery intervalMs" minimumIntervalMs
    (input.get "intervalMs")
  let overlapMs ← discoveryInteger "focus discovery overlapMs" 0
    (orElse (input.get "overlapMs") (.number defaultOverlapMs))
  if intervalMs ≤ overlapMs then .error "focus discovery overlapMs must be less than intervalMs"
  let retryMs ← discoveryInteger "focus discovery retryMs" minimumIntervalMs
    (orElse (input.get "retryMs") (.number intervalMs))
  let sources ← validateSources (input.get "sources")
  return { status := .waiting, wakeAt := some (some now), effects := []
           state := { stage := .scheduled, intervalMs, overlapMs, retryMs, sequence := 0, sources
                      lastSuccessfulAt := none, windowEnd := none, consecutiveFailures := 0 } }

/-! ## reduce -/

namespace DiscoveryState

/-- Where the window of a scan begins. -/
def windowStart (state : DiscoveryState) (ending : Timestamp) : Timestamp :=
  state.lastSuccessfulAt.getD (later ending (-state.intervalMs)) - state.overlapMs

def startDiscovery (state : DiscoveryState) (event : Event) : WorkflowDecision DiscoveryState :=
  let sequence := state.sequence + 1
  { status := .waiting, wakeAt := some none
    state := { state with
      stage := .discovering, sequence, windowEnd := some event.occurredAt }
    effects := [{ id := s!"focus-discovery:{sequence}", kind := discoverSignals, availableAt := none
                  payload := .object [("from", .string (toISOString (state.windowStart event.occurredAt))),
                    ("until", .string (toISOString event.occurredAt)),
                    ("sources", state.sources.payload)] }] }

def scheduleNext (state : DiscoveryState) (event : Event) : Except String (WorkflowDecision DiscoveryState) :=
  if event.payload.get "effectKind" ≠ .string discoverSignals then .ok (.keep .waiting state)
  else
    match state.windowEnd with
    | none => .error "focus discovery window end must be a timestamp"
    | some windowEnd =>
      .ok { status := .waiting, effects := []
            wakeAt := some (some (later event.occurredAt state.intervalMs))
            state := { state with
              stage := .scheduled, lastSuccessfulAt := some windowEnd, consecutiveFailures := 0 } }

def retryLater (state : DiscoveryState) (event : Event) : WorkflowDecision DiscoveryState :=
  if event.payload.get "effectKind" ≠ .string discoverSignals then .keep .waiting state
  else { status := .waiting, effects := []
         wakeAt := some (some (later event.occurredAt state.retryMs))
         state := { state with
           stage := .scheduled, consecutiveFailures := state.consecutiveFailures + 1 } }

def reduce (state : DiscoveryState) (event : Event) : Except String (WorkflowDecision DiscoveryState) :=
  if state.stage = .scheduled ∧ event.type = "timer" then .ok (state.startDiscovery event)
  else if state.stage = .discovering ∧ event.type = "effect.delivered" then state.scheduleNext event
  else if state.stage = .discovering ∧ event.type = "effect.failed" then .ok (state.retryLater event)
  else .ok (.keep .waiting state)

end DiscoveryState

def focusDiscoveryWorkflow : WorkflowDefinition DiscoveryState where
  kind := "focus-discovery.v1"
  version := 1
  initialise := initialiseDiscovery
  reduce := DiscoveryState.reduce
  members _ := []

end QuarkSelfAI.Intake

import QuarkSelfAI.Workflow.Host

/-!
# Collaboration learning

`collaborationScheduleWorkflow` evaluates once per interval and may brief the owner;
`collaborationPolicyApprovalWorkflow` asks the owner about one revision of a policy.
-/

namespace QuarkSelfAI.Collaboration

open Foundation Storage Workflow

def dayMs : Nat := 86400000

def evaluate : String := "assistant.collaboration.evaluate.v1"

def applyDecision : String := "assistant.collaboration.apply-policy-decision.v1"

/-- A text that may be left out, without the blanks around it. -/
def text (label : String) (max : Nat) (value : JsValue) : Except String (Option String) := do
  let text ← match value with
    | .string text =>
      if text = "" then .ok none
      else if isBlank text ∨ max < utf16Length text then .error s!"{label} is invalid"
      else .ok (some (trim text))
    | .undefined | .null => .ok none
    | _ => .error s!"{label} is invalid"
  return text

/-! ## The schedule -/

inductive SchedulePhase where
  | scheduled
  | evaluating
  | reporting
deriving DecidableEq

structure ScheduleState where
  phase : SchedulePhase
  intervalMs : Nat
  sequence : Nat

def scheduleState (state : ScheduleState) : Except String ScheduleState :=
  if isSafeInteger state.intervalMs ∧ isSafeInteger state.sequence then .ok state
  else .error "collaboration schedule state is invalid"

namespace ScheduleState

/-- The end of an evaluation: the next one an interval later. -/
def scheduleNext (state : ScheduleState) (event : Event) : WorkflowDecision ScheduleState :=
  { status := .waiting, state := { state with phase := .scheduled, sequence := state.sequence + 1 }
    wakeAt := some (some (later event.occurredAt state.intervalMs)), effects := [] }

def onTimer (host : Host) (state : ScheduleState) (event : Event) : WorkflowDecision ScheduleState :=
  { status := .waiting, state := { state with phase := .evaluating }, wakeAt := some none
    effects := [{ id := host.stable "collaboration-evaluate" [toString state.sequence], kind := evaluate
                  availableAt := some event.occurredAt
                  payload := .object [("evaluatedAt", .string (toISOString event.occurredAt))] }] }

def onBriefed (host : Host) (state : ScheduleState) (event : Event) :
    Except String (WorkflowDecision ScheduleState) := do
  let title ← text "daily brief title" 100 (event.payload.get "briefTitle")
  let body ← text "daily brief body" 12000 (event.payload.get "briefBody")
  let reviewedAt ← text "reviewedAt" 100 (event.payload.get "reviewedAt")
  return { status := .waiting, state := { state with phase := .reporting }, wakeAt := some none
           effects := [{
             id := host.stable "collaboration-daily-brief" [toString state.sequence], kind := notifyOwner
             availableAt := some event.occurredAt
             payload := .object [("title", .string (title.getD "QuarkSelfAI 每日协作回顾")),
               ("body", .string (body.getD "今日回顾已完成，未发现需要调整的事项。")),
               ("idempotencyKey", .string ("collaboration-daily-review:" ++
                 reviewedAt.getD (toISOString event.occurredAt)))] }] }

def reduce (host : Host) (raw : ScheduleState) (event : Event) : Except String (WorkflowDecision ScheduleState) := do
  let state ← scheduleState raw
  if event.type = "timer" ∧ state.phase = .scheduled then return state.onTimer host event
  else if isOutcome event ∧ state.phase = .evaluating ∧ event.payload.get "effectKind" = .string evaluate then
    if event.type = "effect.delivered" ∧ event.payload.get "briefEnabled" = .bool true then
      state.onBriefed host event
    else return state.scheduleNext event
  else if isOutcome event ∧ state.phase = .reporting ∧ event.payload.get "effectKind" = .string notifyOwner then
    return state.scheduleNext event
  else return .keep .waiting state

end ScheduleState

def scheduleDefinition (host : Host) (interval : Nat) : WorkflowDefinition ScheduleState where
  kind := "assistant.collaboration-learning.schedule.v1"
  version := 1
  initialise _ now := .ok { status := .waiting, wakeAt := some (some now), effects := []
                            state := { phase := .scheduled, intervalMs := interval, sequence := 0 } }
  reduce := ScheduleState.reduce host
  members _ := []

def collaborationScheduleWorkflow (host : Host) (intervalMs : Option Rat) :
    Except String (WorkflowDefinition ScheduleState) := do
  let interval ← integerSetting "collaboration evaluation interval must be an integer of at least 60000"
    intervalMs dayMs 60000
  return scheduleDefinition host interval

/-! ## Policy approval -/

inductive ApprovalPhase where
  | awaitingApproval
  | applying
  | completed
  | failed
deriving DecidableEq

inductive PolicyDecision where
  | approve
  | decline
deriving DecidableEq

def PolicyDecision.text : PolicyDecision → String
  | .approve => "approve"
  | .decline => "decline"

structure ApprovalState where
  phase : ApprovalPhase
  policyId : String
  revision : Nat
  approvalId : String
  title : String
  prompt : String
  sequence : Nat
  decision : Option PolicyDecision
  response : Option String

/-- What the workflow reads of a proposal. -/
structure PolicyProposal where
  id : String
  revision : Nat
  name : String
  prompt : String

/-- A value's text in `join`. -/
def joinedText (host : Host) : JsValue → String
  | .undefined | .null => ""
  | value => host.text value

def proposalPrompt (host : Host) (proposal : JsValue) : String :=
  let samples := host.text (proposal.get "sampleCount")
  let reducible := host.text (proposal.get "reducibleCount")
  let confidence := ((host.toNumber (proposal.get "confidence")).map host.percentText).getD "NaN"
  let description := host.text ((proposal.get "document").get "description")
  "\n".intercalate [joinedText host (proposal.get "sourceText"), "",
    s!"依据：{samples} 条样本，其中 {reducible} 条可减少打扰，置信度 {confidence}%。",
    s!"策略范围：{description}",
    "批准后才会启用；紧急、待批准、明确追问或调研消息仍受保护。"]

/-- `value?.trim()` of a member, which has to be a text that is not blank. -/
def trimmedMember (label : String) : JsValue → Except String String
  | .undefined | .null => .error "collaboration policy proposal is invalid"
  | .string text => if isBlank text then .error "collaboration policy proposal is invalid" else .ok text
  | _ => .error s!"{label}?.trim is not a function"

def proposalInput (host : Host) (input : JsValue) : Except String PolicyProposal :=
  let proposal := input.get "proposal"
  match proposal with
  | .object _ => do
    let id ← trimmedMember "value.id" (proposal.get "id")
    let revision ← match proposal.get "revision" with
      | .number revision => integerSetting "collaboration policy proposal is invalid" (some revision) 0 1
      | _ => .error "collaboration policy proposal is invalid"
    let name ← trimmedMember "value.document?.name" ((proposal.get "document").get "name")
    return { id, revision, name, prompt := proposalPrompt host proposal }
  | _ => .error "collaboration policy proposal is required"

namespace ApprovalState

def approvalEffect (host : Host) (state : ApprovalState) (now : Timestamp) : EffectInput :=
  { id := host.stable "collaboration-policy-card" [state.policyId, toString state.revision]
    kind := requestInteraction, availableAt := some now
    payload := .object [("mode", "approval"), ("title", "确认新的协作策略"),
      ("approvalId", .string state.approvalId), ("prompt", .string state.prompt),
      ("confirmText", "批准启用"), ("declineText", "暂不启用"),
      ("idempotencyKey", .string s!"collaboration-policy:{state.policyId}:{state.revision}:approval")] }

def decisionEffect (host : Host) (state : ApprovalState) (now : Timestamp) : Except String EffectInput :=
  match state.decision with
  | none => .error "collaboration policy decision is missing"
  | some decision =>
    .ok { id := host.stable "collaboration-policy-decision"
            [state.policyId, toString state.revision, decision.text]
          kind := applyDecision, availableAt := some now
          payload := .object ([("policyId", .string state.policyId), ("revision", .number state.revision),
            ("decision", .string decision.text), ("decidedAt", .string (toISOString now))] ++
              JsValue.whenSome "response" state.response .string) }

def onResponse (state : ApprovalState) (event : Event) : Except String (WorkflowDecision ApprovalState) := do
  let approvalId := event.payload.get "approvalId"
  if approvalId ≠ .undefined ∧ approvalId ≠ .string state.approvalId then
    .error "collaboration policy approval correlation mismatch"
  let response ← text "approval response" 1000 (event.payload.get "response")
  return .keep .waiting { state with response := response.or state.response }

def onDecided (host : Host) (state : ApprovalState) (event : Event) :
    Except String (WorkflowDecision ApprovalState) := do
  if event.payload.get "approvalId" ≠ .string state.approvalId then
    .error "collaboration policy approval correlation mismatch"
  let next := { state with
    phase := .applying, sequence := state.sequence + 1
    decision := some (if event.type = "approval.approved" then .approve else .decline) }
  let effect ← next.decisionEffect host event.occurredAt
  return { status := .waiting, state := next, wakeAt := none, effects := [effect] }

def status (state : ApprovalState) : WorkflowStatus :=
  match state.phase with
  | .completed => .completed
  | .failed => .failed
  | _ => .waiting

def reduce (host : Host) (state : ApprovalState) (event : Event) : Except String (WorkflowDecision ApprovalState) :=
  if event.type = "approval.response" ∧ state.phase = .awaitingApproval then state.onResponse event
  else if (event.type = "approval.approved" ∨ event.type = "approval.declined") ∧
      state.phase = .awaitingApproval then state.onDecided host event
  else if event.type = "effect.delivered" ∧ state.phase = .applying ∧
      event.payload.get "effectKind" = .string applyDecision then
    .ok (.keep .completed { state with phase := .completed })
  else if event.type = "effect.failed" ∧ (state.phase = .awaitingApproval ∨ state.phase = .applying) then
    .ok (.keep .failed { state with phase := .failed })
  else .ok (.keep state.status state)

end ApprovalState

def initialiseApproval (host : Host) (input : JsValue) (now : Timestamp) :
    Except String (WorkflowDecision ApprovalState) := do
  let proposal ← proposalInput host input
  let state : ApprovalState :=
    { phase := .awaitingApproval, policyId := proposal.id, revision := proposal.revision
      approvalId := s!"policy:{proposal.id}:{proposal.revision}", title := proposal.name
      prompt := proposal.prompt, sequence := 0, decision := none, response := none }
  return { status := .waiting, state, wakeAt := none, effects := [state.approvalEffect host now] }

def collaborationPolicyApprovalWorkflow (host : Host) : WorkflowDefinition ApprovalState where
  kind := "assistant.collaboration-learning.policy-approval.v1"
  version := 1
  initialise := initialiseApproval host
  reduce := ApprovalState.reduce host
  members _ := []

end QuarkSelfAI.Collaboration

import Mathlib.Data.List.MinMax
import Mathlib.Data.Prod.Lex
import QuarkSelfAI.Foundation.Table
import QuarkSelfAI.Foundation.Transition

/-!
# The durable action ledger

The five operations of the action ledger over its tables, translated from
`SqliteAssistantStore`. Timestamps are kept in any linear order: SQLite compares
the stored texts, and no operation below looks at a timestamp otherwise. Columns
that nothing here reads back (`created_at` of other tables, `updated_at`,
`supersedes`) are left out. `clock` is the instant the database or the process
reads for itself during the call.
-/

namespace QuarkSelfAI.Storage

open Foundation

inductive ActionState where
  | observed
  | settling
  | planned
  | awaitingApproval
  | executing
  | waitingExternal
  | completed
  | superseded
  | failed
deriving DecidableEq

inductive ExecutionMode where
  | readOnly
  | workspaceWrite
  | externalWrite
deriving DecidableEq

def ExecutionMode.text : ExecutionMode → String
  | .readOnly => "read-only"
  | .workspaceWrite => "workspace-write"
  | .externalWrite => "external-write"

/-- `ExecutorRequest`; the `request` column holds its canonical JSON, which
determines it because every field is a string. -/
structure ExecutorRequest where
  actionId : String
  title : String
  prompt : String
  workspace : String
  mode : ExecutionMode
deriving DecidableEq

inductive ResultStatus where
  | completed
  | needsInput
  | failed
deriving DecidableEq

structure ExecutorResult where
  actionId : String
  executor : String
  status : ResultStatus
  summary : String
  sessionId : Option String
deriving DecidableEq

structure SourceRef where
  channel : String
  resourceId : Option String
  containerId : Option String
  eventId : Option String
  actorId : Option String
deriving DecidableEq

structure ApprovalPrompt where
  id : String
  prompt : String
deriving DecidableEq

/-- `Omit<ExecutorRequest, 'actionId'>`. -/
structure RequestInput where
  title : String
  prompt : String
  workspace : String
  mode : ExecutionMode
deriving DecidableEq

structure DurableActionInput where
  actionId : String
  matterId : String
  matterTitle : String
  matterSummary : String
  intent : String
  source : SourceRef
  request : RequestInput
  requestedExecutor : Option String
  approval : Option ApprovalPrompt
deriving DecidableEq

structure ClaimedAction where
  actionId : String
  request : ExecutorRequest
  requestedExecutor : Option String
  approvalGranted : Bool
  attempt : Nat
deriving DecidableEq

inductive Disposition where
  | retry
  | failed
deriving DecidableEq

def Disposition.text : Disposition → String
  | .retry => "retry"
  | .failed => "failed"

structure ActionClaimRelease (Time : Type) where
  actionId : String
  workerId : String
  disposition : Disposition
  error : String
  availableAt : Option Time
deriving DecidableEq

inductive ApprovalDecision where
  | approved
  | rejected
deriving DecidableEq

def ApprovalDecision.text : ApprovalDecision → String
  | .approved => "approved"
  | .rejected => "rejected"

/-! ## Rows -/

structure Matter where
  id : String
  status : String
  title : String
  latestSummary : String
deriving DecidableEq

structure ActionRecord where
  id : String
  matterId : String
  state : ActionState
  intent : String
  source : SourceRef
  executor : Option String
  approvalId : Option String
deriving DecidableEq

inductive ApprovalStatus where
  | pending
  | decided (decision : ApprovalDecision)
deriving DecidableEq

/-- The `status` column as text, as the error message prints it. -/
def ApprovalStatus.text : ApprovalStatus → String
  | .pending => "pending"
  | .decided decision => decision.text

/-- `metadata` is the JSON text of the decision's metadata. -/
structure ApprovalRequest (Time : Type) where
  id : String
  actionId : String
  status : ApprovalStatus
  prompt : String
  decision : Option String
  decidedAt : Option Time
deriving DecidableEq

inductive ExecutionStatus where
  | pending
  | executing
  | completed
  | needsInput
  | failed
deriving DecidableEq

structure ActionExecution (Time : Type) where
  actionId : String
  request : ExecutorRequest
  requestedExecutor : Option String
  status : ExecutionStatus
  leaseOwner : Option String
  leaseExpiresAt : Option Time
  attempt : Nat
  availableAt : Time
  result : Option ExecutorResult
  lastError : Option String
  createdAt : Time
deriving DecidableEq

/-- The JSON object an audit row carries. -/
inductive TransitionMetadata (Time : Type) where
  | none
  | decision (metadata : String)
  | claim (workerId : String) (attempt : Nat) (leaseExpiresAt : Time)
  | settle (workerId : String) (result : ExecutorResult)
  | release (workerId : String) (disposition : Disposition) (availableAt : Option Time)
deriving DecidableEq

structure ActionTransition (Time : Type) where
  actionId : String
  fromState : Option ActionState
  toState : ActionState
  reason : String
  metadata : TransitionMetadata Time
  idempotencyKey : String
deriving DecidableEq

/-- The tables of the ledger. Audit rows are listed in the order of their
automatic ids, under their unique idempotency key. -/
structure Ledger (Time : Type) where
  matters : Table Matter.id
  actions : Table ActionRecord.id
  approvals : Table (@ApprovalRequest.id Time)
  executions : Table (@ActionExecution.actionId Time)
  transitions : Table (@ActionTransition.idempotencyKey Time)
deriving DecidableEq

namespace Ledger

variable {Time : Type}

def empty : Ledger Time := ⟨.empty, .empty, .empty, .empty, .empty⟩

/-! ## enqueueAction -/

/-- `canonicalJson({ actionId, ...input.request })`, as the record it determines. -/
def requestOf (input : DurableActionInput) : ExecutorRequest :=
  { actionId := input.actionId, title := input.request.title, prompt := input.request.prompt
    workspace := input.request.workspace, mode := input.request.mode }

def enqueuedState (input : DurableActionInput) : ActionState :=
  if input.approval.isSome then .awaitingApproval else .planned

def actionRow (input : DurableActionInput) : ActionRecord :=
  { id := input.actionId, matterId := input.matterId, state := enqueuedState input
    intent := input.intent, source := input.source, executor := none
    approvalId := input.approval.map (·.id) }

def approvalRow (input : DurableActionInput) (approval : ApprovalPrompt) : ApprovalRequest Time :=
  { id := approval.id, actionId := input.actionId, status := .pending, prompt := approval.prompt
    decision := none, decidedAt := none }

def executionRow (input : DurableActionInput) (clock : Time) : ActionExecution Time :=
  { actionId := input.actionId, request := requestOf input
    requestedExecutor := input.requestedExecutor, status := .pending, leaseOwner := none
    leaseExpiresAt := none, attempt := 0, availableAt := clock, result := none
    lastError := none, createdAt := clock }

def enqueueRow (input : DurableActionInput) : ActionTransition Time :=
  { actionId := input.actionId, fromState := none, toState := enqueuedState input
    reason := "durable action enqueued", metadata := .none
    idempotencyKey := s!"{input.actionId}:enqueue" }

/-- The `approval_request` insert with its two unique constraints. -/
def insertApproval (input : DurableActionInput) (approvals : Table (@ApprovalRequest.id Time)) :
    Except String (Table (@ApprovalRequest.id Time)) :=
  match input.approval with
  | none => .ok approvals
  | some approval =>
    if approvals.rows.any fun row => row.actionId = input.actionId ∧ row.status = .pending then
      .error "UNIQUE constraint failed: approval_request.action_id"
    else approvals.insertOrThrow (approvalRow input approval) "approval_request.id"

/-- The matter insert, which an existing matter silently absorbs. -/
def withMatter (input : DurableActionInput) (ledger : Ledger Time) : Ledger Time :=
  { ledger with
    matters := ledger.matters.insertOrIgnore
      { id := input.matterId, status := "open", title := input.matterTitle
        latestSummary := input.matterSummary } }

def enqueueBody (input : DurableActionInput) (clock : Time) (ledger : Ledger Time) :
    Except String (Bool × Ledger Time) :=
  match ledger.actions.insert? (actionRow input) with
  | none =>
    -- ON CONFLICT DO NOTHING: a replay must carry the stored request, matter and intent.
    match ledger.executions.find? input.actionId, ledger.actions.find? input.actionId with
    | some execution, some action =>
      if execution.request = requestOf input ∧ action.matterId = input.matterId ∧ action.intent = input.intent then
        .ok (false, withMatter input ledger)
      else .error s!"action {input.actionId} already exists with different durable content"
    | _, _ => .error s!"action {input.actionId} already exists with different durable content"
  | some actions => do
    let approvals ← insertApproval input ledger.approvals
    let executions ← ledger.executions.insertOrThrow (executionRow input clock)
      "action_execution.action_id"
    let transitions ← ledger.transitions.insertOrThrow (enqueueRow input)
      "action_transition.idempotency_key"
    .ok (true, { withMatter input ledger with actions, approvals, executions, transitions })

def enqueueAction (input : DurableActionInput) (clock : Time) (ledger : Ledger Time) :
    Except String Bool × Ledger Time :=
  if input.request.mode ≠ .readOnly ∧ input.approval.isNone then
    (.error s!"{input.request.mode.text} action requires an approval request", ledger)
  else transaction (enqueueBody input clock) ledger

/-! ## decideApproval -/

def decidedState : ApprovalDecision → ActionState
  | .approved => .planned
  | .rejected => .failed

def rejectedExecution (execution : ActionExecution Time) : ActionExecution Time :=
  { execution with status := .failed, lastError := some "approval rejected" }

/-- A rejection also fails the execution; an approval leaves it pending. -/
def decidedExecutions (decision : ApprovalDecision) (actionId : String)
    (executions : Table (@ActionExecution.actionId Time)) : Table (@ActionExecution.actionId Time) :=
  match decision with
  | .approved => executions
  | .rejected => executions.update actionId rejectedExecution fun _ => rfl

def decisionRow (actionId approvalId : String) (decision : ApprovalDecision) (metadata : String) :
    ActionTransition Time :=
  { actionId, fromState := some .awaitingApproval, toState := decidedState decision
    reason := s!"approval {decision.text} action", metadata := .decision metadata
    idempotencyKey := s!"{actionId}:approval:{approvalId}:{decision.text}" }

def decideBody (approvalId : String) (decision : ApprovalDecision) (metadata : String)
    (decidedAt : Time) (ledger : Ledger Time) : Except String (Unit × Ledger Time) :=
  match ledger.approvals.find? approvalId with
  | none => .error s!"approval {approvalId} does not exist"
  | some approval =>
    match approval.status with
    | .decided earlier =>
      if earlier = decision then .ok ((), ledger)
      else .error s!"approval {approvalId} is already {approval.status.text}"
    | .pending => do
      let approvals := ledger.approvals.update approvalId
        (fun row => { row with
          status := .decided decision, decision := some metadata, decidedAt := some decidedAt })
        fun _ => rfl
      let actions := ledger.actions.update approval.actionId
        (fun row => { row with state := decidedState decision }) fun _ => rfl
      let executions := decidedExecutions decision approval.actionId ledger.executions
      let transitions ← ledger.transitions.insertOrThrow
        (decisionRow approval.actionId approvalId decision metadata)
        "action_transition.idempotency_key"
      .ok ((), { ledger with actions, approvals, executions, transitions })

def decideApproval (approvalId : String) (decision : ApprovalDecision) (metadata : String)
    (decidedAt : Time) (ledger : Ledger Time) : Except String Unit × Ledger Time :=
  transaction (decideBody approvalId decision metadata decidedAt) ledger

/-! ## claimNextAction -/

/-- `EXISTS (… p.id = a.approval_id AND p.action_id = a.id AND p.status = 'approved')`. -/
def approvalExists (ledger : Ledger Time) (action : ActionRecord) : Bool :=
  match action.approvalId with
  | none => false
  | some approvalId =>
    match ledger.approvals.find? approvalId with
    | none => false
    | some approval => approval.actionId = action.id ∧ approval.status = .decided .approved

section Claim

variable [LinearOrder Time]

/-- `status = 'pending' OR (status = 'executing' AND lease_expires_at <= now)`. -/
def leaseOpen (now : Time) (execution : ActionExecution Time) : Bool :=
  match execution.status with
  | .pending => true
  | .executing =>
    match execution.leaseExpiresAt with
    | none => false
    | some leaseExpiresAt => leaseExpiresAt ≤ now
  | _ => false

/-- The `WHERE` clause on an execution joined with its action. -/
def claimable (ledger : Ledger Time) (workspace : String) (now : Time)
    (execution : ActionExecution Time) (action : ActionRecord) : Bool :=
  execution.request.workspace = workspace ∧ execution.availableAt ≤ now ∧ leaseOpen now execution ∧
    (action.approvalId.isNone ∨ ledger.approvalExists action)

/-- The joined rows the claim query selects from. -/
def claimCandidates (ledger : Ledger Time) (workspace : String) (now : Time) :
    List (ActionExecution Time × ActionRecord) :=
  ledger.executions.rows.filterMap fun execution =>
    match ledger.actions.find? execution.actionId with
    | none => none
    | some action => if ledger.claimable workspace now execution action then some (execution, action) else none

/-- `ORDER BY available_at, created_at LIMIT 1`; rows that tie on both stay in
insertion order. -/
def claimCandidate (ledger : Ledger Time) (workspace : String) (now : Time) :
    Option (ActionExecution Time × ActionRecord) :=
  (ledger.claimCandidates workspace now).argmin fun pair => toLex (pair.1.availableAt, pair.1.createdAt)

omit [LinearOrder Time] in
def claimRow (execution : ActionExecution Time) (action : ActionRecord) (workerId : String)
    (leaseExpiresAt : Time) : ActionTransition Time :=
  { actionId := execution.actionId, fromState := some action.state, toState := .executing
    reason := "worker claimed durable action"
    metadata := .claim workerId (execution.attempt + 1) leaseExpiresAt
    idempotencyKey := s!"{execution.actionId}:claim:{execution.attempt + 1}" }

omit [LinearOrder Time] in
/-- The action as the claimant sees it; an empty executor name is dropped. -/
def claimedAction (ledger : Ledger Time) (execution : ActionExecution Time) (action : ActionRecord) : ClaimedAction :=
  { actionId := execution.actionId, request := execution.request
    requestedExecutor := execution.requestedExecutor.filter (· ≠ "")
    approvalGranted := ledger.approvalExists action, attempt := execution.attempt + 1 }

omit [LinearOrder Time] in
@[simp] theorem claimedAction_actionId (ledger : Ledger Time) (execution : ActionExecution Time)
    (action : ActionRecord) : (ledger.claimedAction execution action).actionId = execution.actionId := rfl

def claimBody (workerId workspace : String) (now leaseExpiresAt : Time) (ledger : Ledger Time) :
    Except String (Option ClaimedAction × Ledger Time) :=
  match ledger.claimCandidate workspace now with
  | none => .ok (none, ledger)
  | some (execution, action) =>
    if ¬ leaseOpen now execution then
      .error s!"action {execution.actionId} lost its claim race"
    else do
      let executions := ledger.executions.update execution.actionId
        (fun row => { row with
          status := .executing, leaseOwner := some workerId
          leaseExpiresAt := some leaseExpiresAt, attempt := execution.attempt + 1 })
        fun _ => rfl
      let actions := ledger.actions.update execution.actionId
        (fun row => { row with state := .executing }) fun _ => rfl
      let transitions ← ledger.transitions.insertOrThrow
        (claimRow execution action workerId leaseExpiresAt) "action_transition.idempotency_key"
      .ok (some (claimedAction ledger execution action), { ledger with actions, executions, transitions })

def claimNextAction (workerId workspace : String) (now leaseExpiresAt : Time)
    (ledger : Ledger Time) : Except String (Option ClaimedAction) × Ledger Time :=
  transaction (claimBody workerId workspace now leaseExpiresAt) ledger

end Claim

/-! ## settleAction and releaseActionClaim -/

/-- `SELECT … WHERE action_id = ? AND status = 'executing' AND lease_owner = ?`. -/
def ownedExecution (ledger : Ledger Time) (actionId workerId : String) : Option (ActionExecution Time) :=
  (ledger.executions.find? actionId).filter fun execution =>
    execution.status = .executing ∧ execution.leaseOwner = some workerId

def settledState : ResultStatus → ActionState
  | .completed => .completed
  | .needsInput => .waitingExternal
  | .failed => .failed

def settledStatus : ResultStatus → ExecutionStatus
  | .completed => .completed
  | .needsInput => .needsInput
  | .failed => .failed

def settleRow (actionId workerId : String) (result : ExecutorResult) (attempt : Nat) : ActionTransition Time :=
  { actionId, fromState := some .executing, toState := settledState result.status
    reason := "executor settled durable action", metadata := .settle workerId result
    idempotencyKey := s!"{actionId}:settle:{attempt}" }

def settleBody (actionId workerId : String) (result : ExecutorResult) (ledger : Ledger Time) :
    Except String (Unit × Ledger Time) :=
  match ledger.ownedExecution actionId workerId with
  | none => .error s!"worker {workerId} does not own action {actionId}"
  | some execution => do
    let executions := ledger.executions.update actionId
      (fun row => { row with
        status := settledStatus result.status, result := some result
        lastError := if result.status = .failed then some result.summary else none
        leaseOwner := none, leaseExpiresAt := none })
      fun _ => rfl
    let actions := ledger.actions.update actionId
      (fun row => { row with
        state := settledState result.status, executor := some result.executor })
      fun _ => rfl
    let transitions ← ledger.transitions.insertOrThrow
      (settleRow actionId workerId result execution.attempt) "action_transition.idempotency_key"
    .ok ((), { ledger with actions, executions, transitions })

def settleAction (actionId workerId : String) (result : ExecutorResult) (ledger : Ledger Time) :
    Except String Unit × Ledger Time :=
  transaction (settleBody actionId workerId result) ledger

def releasedState : Disposition → ActionState
  | .retry => .planned
  | .failed => .failed

def releasedStatus : Disposition → ExecutionStatus
  | .retry => .pending
  | .failed => .failed

def releaseRow (input : ActionClaimRelease Time) (attempt : Nat) : ActionTransition Time :=
  { actionId := input.actionId, fromState := some .executing
    toState := releasedState input.disposition, reason := input.error
    metadata := .release input.workerId input.disposition input.availableAt
    idempotencyKey := s!"{input.actionId}:release:{attempt}:{input.disposition.text}" }

def releaseBody (input : ActionClaimRelease Time) (clock : Time) (ledger : Ledger Time) :
    Except String (Unit × Ledger Time) :=
  match ledger.ownedExecution input.actionId input.workerId with
  | none => .error s!"worker {input.workerId} does not own action {input.actionId}"
  | some execution => do
    let executions := ledger.executions.update input.actionId
      (fun row => { row with
        status := releasedStatus input.disposition, leaseOwner := none, leaseExpiresAt := none
        availableAt := input.availableAt.getD clock, lastError := some input.error })
      fun _ => rfl
    let actions := ledger.actions.update input.actionId
      (fun row => { row with state := releasedState input.disposition }) fun _ => rfl
    let transitions ← ledger.transitions.insertOrThrow (releaseRow input execution.attempt)
      "action_transition.idempotency_key"
    .ok ((), { ledger with actions, executions, transitions })

def releaseActionClaim (input : ActionClaimRelease Time) (clock : Time) (ledger : Ledger Time) :
    Except String Unit × Ledger Time :=
  transaction (releaseBody input clock) ledger

/-! ## The ledger as a service -/

end Ledger

inductive LedgerCall (Time : Type) where
  | enqueueAction (input : DurableActionInput) (clock : Time)
  | decideApproval (approvalId : String) (decision : ApprovalDecision) (metadata : String)
      (decidedAt : Time)
  | claimNextAction (workerId workspace : String) (now leaseExpiresAt : Time)
  | settleAction (actionId workerId : String) (result : ExecutorResult)
  | releaseActionClaim (input : ActionClaimRelease Time) (clock : Time)
deriving DecidableEq

inductive LedgerReply where
  | enqueued (inserted : Bool)
  | decided
  | claimed (action : Option ClaimedAction)
  | settled
  | released
  | threw (message : String)
deriving DecidableEq

namespace Ledger

variable {Time : Type}

/-- Wrap the outcome of an operation as a reply. -/
def answer {α : Type} (reply : α → LedgerReply) (outcome : Except String α × Ledger Time) : LedgerReply × Ledger Time :=
  match outcome with
  | (.ok result, ledger) => (reply result, ledger)
  | (.error message, ledger) => (.threw message, ledger)

variable [LinearOrder Time]

def perform (call : LedgerCall Time) (ledger : Ledger Time) : LedgerReply × Ledger Time :=
  match call with
  | .enqueueAction input clock => answer .enqueued (ledger.enqueueAction input clock)
  | .decideApproval approvalId decision metadata decidedAt =>
    answer (fun _ => .decided) (ledger.decideApproval approvalId decision metadata decidedAt)
  | .claimNextAction workerId workspace now leaseExpiresAt =>
    answer .claimed (ledger.claimNextAction workerId workspace now leaseExpiresAt)
  | .settleAction actionId workerId result => answer (fun _ => .settled) (ledger.settleAction actionId workerId result)
  | .releaseActionClaim input clock => answer (fun _ => .released) (ledger.releaseActionClaim input clock)

def machine (Time : Type) [LinearOrder Time] : Machine (Ledger Time) (LedgerCall Time) LedgerReply where
  initial := empty
  perform := perform

/-- A run of the ledger from the empty store, as the calls it answered. -/
abbrev Run (history : List (LedgerCall Time × LedgerReply)) (ledger : Ledger Time) : Prop :=
  (machine Time).system.Run history ledger

end Ledger

end QuarkSelfAI.Storage

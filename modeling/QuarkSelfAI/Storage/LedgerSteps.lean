import QuarkSelfAI.Storage.ActionLedger

/-!
# What one ledger call can do

`Effect` lists every outcome of a call with the rows it read and the tables it
left, once for all; `perform_effect` reads it off the five operations. Invariants
of the ledger are proved by cases on `Effect` and never unfold an operation.
-/

namespace QuarkSelfAI.Storage.Ledger

open Foundation

variable {Time : Type} [LinearOrder Time] {ledger : Ledger Time} {execution : ActionExecution Time}

/-- The lease columns an execution gets when it is claimed. -/
def claimedRow (workerId : String) (leaseExpiresAt : Time) (execution row : ActionExecution Time) :
    ActionExecution Time :=
  { row with
    status := .executing, leaseOwner := some workerId
    leaseExpiresAt := some leaseExpiresAt, attempt := execution.attempt + 1 }

inductive Effect (before : Ledger Time) : LedgerCall Time → LedgerReply → Ledger Time → Prop where
  | threw {call} (message : String) : Effect before call (.threw message) before
  | replayed {input clock action} (found : before.actions.find? input.actionId = some action) :
      Effect before (.enqueueAction input clock) (.enqueued false) (withMatter input before)
  | enqueued {input clock after}
      (gated : input.request.mode = .readOnly ∨ input.approval.isSome)
      (actions : before.actions.insert? (actionRow input) = some after.actions)
      (approvals : match input.approval with
        | none => after.approvals = before.approvals
        | some approval => before.approvals.insert? (approvalRow input approval) = some after.approvals)
      (executions : before.executions.insert? (executionRow input clock) = some after.executions)
      (transitions : before.transitions.insert? (enqueueRow input) = some after.transitions) :
      Effect before (.enqueueAction input clock) (.enqueued true) after
  | redecided {approvalId decision metadata decidedAt approval}
      (found : before.approvals.find? approvalId = some approval)
      (same : approval.status = .decided decision) :
      Effect before (.decideApproval approvalId decision metadata decidedAt) .decided before
  | decided {approvalId decision metadata decidedAt approval after}
      (found : before.approvals.find? approvalId = some approval)
      (pending : approval.status = .pending)
      (approvals : after.approvals = before.approvals.update approvalId
        (fun row => { row with
          status := .decided decision, decision := some metadata, decidedAt := some decidedAt })
        fun _ => rfl)
      (actions : after.actions = before.actions.update approval.actionId
        (fun row => { row with state := decidedState decision }) fun _ => rfl)
      (executions : after.executions = decidedExecutions decision approval.actionId before.executions)
      (transitions : before.transitions.insert?
        (decisionRow approval.actionId approvalId decision metadata) = some after.transitions) :
      Effect before (.decideApproval approvalId decision metadata decidedAt) .decided after
  | idle {workerId workspace now leaseExpiresAt} :
      Effect before (.claimNextAction workerId workspace now leaseExpiresAt) (.claimed none) before
  | claimed {workerId workspace now leaseExpiresAt execution action after}
      (found : before.executions.find? execution.actionId = some execution)
      (record : before.actions.find? execution.actionId = some action)
      (opened : leaseOpen now execution)
      (gated : action.approvalId = none ∨ before.approvalExists action)
      (actions : after.actions = before.actions.update execution.actionId
        (fun row => { row with state := .executing }) fun _ => rfl)
      (approvals : after.approvals = before.approvals)
      (executions : after.executions = before.executions.update execution.actionId
        (claimedRow workerId leaseExpiresAt execution) fun _ => rfl)
      (transitions : before.transitions.insert?
        (claimRow execution action workerId leaseExpiresAt) = some after.transitions) :
      Effect before (.claimNextAction workerId workspace now leaseExpiresAt)
        (.claimed (some (before.claimedAction execution action))) after
  | settled {actionId workerId result execution after}
      (found : before.executions.find? actionId = some execution)
      (running : execution.status = .executing) (owned : execution.leaseOwner = some workerId)
      (actions : after.actions = before.actions.update actionId
        (fun row => { row with
          state := settledState result.status, executor := some result.executor })
        fun _ => rfl)
      (approvals : after.approvals = before.approvals)
      (executions : after.executions = before.executions.update actionId
        (fun row => { row with
          status := settledStatus result.status, result := some result
          lastError := if result.status = .failed then some result.summary else none
          leaseOwner := none, leaseExpiresAt := none })
        fun _ => rfl)
      (transitions : before.transitions.insert?
        (settleRow actionId workerId result execution.attempt) = some after.transitions) :
      Effect before (.settleAction actionId workerId result) .settled after
  | released {input clock execution after}
      (found : before.executions.find? input.actionId = some execution)
      (running : execution.status = .executing) (owned : execution.leaseOwner = some input.workerId)
      (actions : after.actions = before.actions.update input.actionId
        (fun row => { row with state := releasedState input.disposition }) fun _ => rfl)
      (approvals : after.approvals = before.approvals)
      (executions : after.executions = before.executions.update input.actionId
        (fun row => { row with
          status := releasedStatus input.disposition, leaseOwner := none, leaseExpiresAt := none
          availableAt := input.availableAt.getD clock, lastError := some input.error })
        fun _ => rfl)
      (transitions : before.transitions.insert?
        (releaseRow input execution.attempt) = some after.transitions) :
      Effect before (.releaseActionClaim input clock) .released after

omit [LinearOrder Time] in
theorem answer_cases {α : Type} {reply : α → LedgerReply} {outcome : Except String α × Ledger Time}
    {given : LedgerReply} {after : Ledger Time} (answered : answer reply outcome = (given, after)) :
    (∃ result, outcome = (.ok result, after) ∧ given = reply result) ∨
      ∃ message, outcome = (.error message, after) ∧ given = .threw message := by
  obtain ⟨result, ledger⟩ := outcome
  cases result with
  | ok result =>
    obtain ⟨rfl, rfl⟩ : reply result = given ∧ ledger = after := by simpa [answer] using answered
    exact .inl ⟨result, rfl, rfl⟩
  | error message =>
    obtain ⟨rfl, rfl⟩ : LedgerReply.threw message = given ∧ ledger = after := by
      simpa [answer] using answered
    exact .inr ⟨message, rfl, rfl⟩

omit [LinearOrder Time] in
theorem ownedExecution_eq_some {actionId workerId : String} : ledger.ownedExecution actionId workerId = some execution ↔
      ledger.executions.find? actionId = some execution ∧
        execution.status = .executing ∧ execution.leaseOwner = some workerId := by
  simp [ownedExecution, Option.filter_eq_some_iff]

theorem claimCandidate_spec {workspace : String} {now : Time} {action : ActionRecord}
    (selected : ledger.claimCandidate workspace now = some (execution, action)) :
    ledger.executions.find? execution.actionId = some execution ∧
      ledger.actions.find? execution.actionId = some action ∧
      ledger.claimable workspace now execution action := by
  have listed := List.argmin_mem selected
  obtain ⟨row, stored, joined⟩ := List.mem_filterMap.mp listed
  split at joined
  · cases joined
  · rename_i record found
    split at joined
    · rename_i eligible
      cases joined
      exact ⟨Table.find?_self stored, found, eligible⟩
    · cases joined

section Operations

variable {before after : Ledger Time}

theorem enqueueBody_effect {input : DurableActionInput} {clock : Time} {inserted : Bool}
    (gated : input.request.mode = .readOnly ∨ input.approval.isSome)
    (done : enqueueBody input clock before = .ok (inserted, after)) :
    Effect before (.enqueueAction input clock) (.enqueued inserted) after := by
  unfold enqueueBody at done
  split at done
  · -- The action id is taken: the stored rows decide.
    split at done
    · rename_i execution action _ found
      split at done
      · cases done
        exact .replayed found
      · cases done
    · cases done
  · rename_i actions inserted
    obtain ⟨approvals, approved, done⟩ := bind_ok.mp done
    obtain ⟨executions, executed, done⟩ := bind_ok.mp done
    obtain ⟨transitions, logged, done⟩ := bind_ok.mp done
    cases done
    refine .enqueued gated inserted ?_ (Table.insertOrThrow_ok.mp executed)
      (Table.insertOrThrow_ok.mp logged)
    unfold insertApproval at approved
    split at approved
    · rename_i none
      cases approved
      simp [none]
    · rename_i approval some
      simp only [some]
      split at approved
      · cases approved
      · exact Table.insertOrThrow_ok.mp approved

theorem decideBody_effect {approvalId : String} {decision : ApprovalDecision} {metadata : String}
    {decidedAt : Time} (done : decideBody approvalId decision metadata decidedAt before = .ok ((), after)) :
    Effect before (.decideApproval approvalId decision metadata decidedAt) .decided after := by
  unfold decideBody at done
  split at done
  · cases done
  · rename_i approval found
    split at done
    · rename_i earlier status
      split at done
      · rename_i same
        cases done
        exact .redecided found (same ▸ status)
      · cases done
    · rename_i pending
      obtain ⟨transitions, logged, done⟩ := bind_ok.mp done
      cases done
      exact .decided found pending rfl rfl rfl (Table.insertOrThrow_ok.mp logged)

theorem claimBody_effect {workerId workspace : String} {now leaseExpiresAt : Time} {action : Option ClaimedAction}
    (done : claimBody workerId workspace now leaseExpiresAt before = .ok (action, after)) :
    Effect before (.claimNextAction workerId workspace now leaseExpiresAt) (.claimed action) after := by
  unfold claimBody at done
  split at done
  · cases done
    exact .idle
  · rename_i execution record selected
    obtain ⟨found, joined, eligible⟩ := claimCandidate_spec selected
    simp only [claimable, decide_eq_true_eq] at eligible
    obtain ⟨_, _, opened, gated⟩ := eligible
    split at done
    · cases done
    · obtain ⟨transitions, logged, done⟩ := bind_ok.mp done
      cases done
      exact .claimed found joined opened (by simpa using gated) rfl rfl rfl
        (Table.insertOrThrow_ok.mp logged)

theorem settleBody_effect {actionId workerId : String} {result : ExecutorResult}
    (done : settleBody actionId workerId result before = .ok ((), after)) :
    Effect before (.settleAction actionId workerId result) .settled after := by
  unfold settleBody at done
  split at done
  · cases done
  · rename_i execution owned
    obtain ⟨found, running, owner⟩ := ownedExecution_eq_some.mp owned
    obtain ⟨transitions, logged, done⟩ := bind_ok.mp done
    cases done
    exact .settled found running owner rfl rfl rfl (Table.insertOrThrow_ok.mp logged)

theorem releaseBody_effect {input : ActionClaimRelease Time} {clock : Time}
    (done : releaseBody input clock before = .ok ((), after)) :
    Effect before (.releaseActionClaim input clock) .released after := by
  unfold releaseBody at done
  split at done
  · cases done
  · rename_i execution owned
    obtain ⟨found, running, owner⟩ := ownedExecution_eq_some.mp owned
    obtain ⟨transitions, logged, done⟩ := bind_ok.mp done
    cases done
    exact .released found running owner rfl rfl rfl (Table.insertOrThrow_ok.mp logged)

end Operations

/-- Every answered call has one of the listed effects. -/
theorem perform_effect {call : LedgerCall Time} {reply : LedgerReply} {before after : Ledger Time}
    (performed : perform call before = (reply, after)) : Effect before call reply after := by
  cases call with
  | enqueueAction input clock =>
    rcases answer_cases performed with ⟨inserted, done, rfl⟩ | ⟨message, failed, rfl⟩
    · unfold enqueueAction at done
      split at done
      · cases done
      · rename_i gated
        refine enqueueBody_effect ?_ (transaction_ok.mp done)
        simpa [or_iff_not_imp_left, Option.isSome_iff_ne_none] using gated
    · unfold enqueueAction at failed
      split at failed
      · cases failed
        exact .threw _
      · obtain ⟨_, rfl⟩ := transaction_error.mp failed
        exact .threw message
  | decideApproval approvalId decision metadata decidedAt =>
    rcases answer_cases performed with ⟨_, done, rfl⟩ | ⟨message, failed, rfl⟩
    · exact decideBody_effect (transaction_ok.mp done)
    · obtain ⟨_, rfl⟩ := transaction_error.mp failed
      exact .threw message
  | claimNextAction workerId workspace now leaseExpiresAt =>
    rcases answer_cases performed with ⟨_, done, rfl⟩ | ⟨message, failed, rfl⟩
    · exact claimBody_effect (transaction_ok.mp done)
    · obtain ⟨_, rfl⟩ := transaction_error.mp failed
      exact .threw message
  | settleAction actionId workerId result =>
    rcases answer_cases performed with ⟨_, done, rfl⟩ | ⟨message, failed, rfl⟩
    · exact settleBody_effect (transaction_ok.mp done)
    · obtain ⟨_, rfl⟩ := transaction_error.mp failed
      exact .threw message
  | releaseActionClaim input clock =>
    rcases answer_cases performed with ⟨_, done, rfl⟩ | ⟨message, failed, rfl⟩
    · exact releaseBody_effect (transaction_ok.mp done)
    · obtain ⟨_, rfl⟩ := transaction_error.mp failed
      exact .threw message

theorem step_effect {entry : LedgerCall Time × LedgerReply} {before after : Ledger Time}
    (transition : (machine Time).system.Step before entry after) : Effect before entry.1 entry.2 after :=
  perform_effect transition

/-- Induction over the runs of the ledger, one effect at a time. -/
theorem Run.induct {motive : List (LedgerCall Time × LedgerReply) → Ledger Time → Prop} (initial : motive [] empty)
    (step : ∀ {history call reply before after}, Run history before → motive history before →
      Effect before call reply after → motive (history ++ [(call, reply)]) after)
    {history : List (LedgerCall Time × LedgerReply)}
    (run : Run history ledger) : motive history ledger := by
  refine TransitionSystem.Run.history (fun valid => ?_) (fun prior here transition => ?_) run
  · cases valid
    exact initial
  · exact step prior here (step_effect transition)

end QuarkSelfAI.Storage.Ledger

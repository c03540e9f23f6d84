import Mathlib.Data.String.Basic
import QuarkSelfAI.Foundation.Path
import QuarkSelfAI.Storage.LedgerSteps

/-!
# The joint invariant of the ledger's tables

Every effect that changes the ledger writes the rows of one action: its record,
its execution, at most its own approval, and one audit row. `Writes` states that
shape, `Agrees` states what the rows of one action have in common, and
`Consistent.write` says the rest of the ledger does not notice: preserving the
invariant is showing that the rows an effect wrote agree.
-/

namespace QuarkSelfAI.Storage.Ledger

open Foundation

variable {Time : Type}

/-- The states of an action record and its execution that may stand together. -/
inductive JointState : ActionState → ExecutionStatus → Prop where
  | awaitingApproval : JointState .awaitingApproval .pending
  | planned : JointState .planned .pending
  | executing : JointState .executing .executing
  | completed : JointState .completed .completed
  | waitingExternal : JointState .waitingExternal .needsInput
  | failed : JointState .failed .failed

namespace JointState

variable {state : ActionState} {status : ExecutionStatus}

theorem pending_of_awaiting (joint : JointState state status) (awaits : state = .awaitingApproval) :
    status = .pending := by
  cases joint <;> simp_all

theorem executing_iff (joint : JointState state status) : state = .executing ↔ status = .executing := by
  cases joint <;> simp

end JointState

/-- The audit rows of an action in order, as the states they lead between. -/
def audit (ledger : Ledger Time) (actionId : String) : List (Option ActionState × Option ActionState) :=
  (ledger.transitions.rows.filter (·.actionId = actionId)).map
    fun row => (row.fromState, some row.toState)

/-- The approval an action waits for, by its own reference. -/
def AwaitedApproval (ledger : Ledger Time) (action : ActionRecord) (approval : ApprovalRequest Time) : Prop :=
  action.approvalId.bind ledger.approvals.find? = some approval ∧ approval.actionId = action.id

/-- What the rows of one action have in common. -/
structure Agrees (ledger : Ledger Time) (action : ActionRecord) (execution : ActionExecution Time) : Prop where
  joint : JointState action.state execution.status
  leased : execution.leaseOwner.isSome ↔ execution.status = .executing
  expiring : execution.leaseExpiresAt.isSome ↔ execution.status = .executing
  requested : ∀ {id approval}, ledger.approvals.find? id = some approval →
    approval.actionId = action.id → action.approvalId = some id
  answered : ∀ {id}, action.approvalId = some id → ∃ approval,
    ledger.approvals.find? id = some approval ∧ approval.actionId = action.id
  awaiting : action.state = .awaitingApproval ↔
    ∃ approval, ledger.AwaitedApproval action approval ∧ approval.status = .pending
  audited : IsPath none (ledger.audit action.id) (some action.state)

/-- Nothing is stored under the id of an action that does not exist. -/
structure Absent (ledger : Ledger Time) (actionId : String) : Prop where
  unexecuted : ledger.executions.find? actionId = none
  unrequested : ∀ {id approval}, ledger.approvals.find? id = some approval → approval.actionId ≠ actionId
  unaudited : ledger.audit actionId = []

theorem Agrees.congr {before after : Ledger Time} {action : ActionRecord} {execution : ActionExecution Time}
    (agrees : before.Agrees action execution) (approvals : after.approvals = before.approvals)
    (transitions : after.transitions = before.transitions) : after.Agrees action execution where
  joint := agrees.joint
  leased := agrees.leased
  expiring := agrees.expiring
  requested := approvals ▸ agrees.requested
  answered := approvals ▸ agrees.answered
  awaiting := by
    simp only [AwaitedApproval, approvals]
    exact agrees.awaiting
  audited := by
    simp only [audit, transitions]
    exact agrees.audited

/-- The joint invariant. -/
structure Consistent (ledger : Ledger Time) : Prop where
  present : ∀ {id action}, ledger.actions.find? id = some action →
    ∃ execution, ledger.executions.find? id = some execution ∧ ledger.Agrees action execution
  absent : ∀ {id}, ledger.actions.find? id = none → ledger.Absent id

theorem consistent_empty : (empty : Ledger Time).Consistent where
  present found := by cases found
  absent _ := ⟨rfl, fun found => (by cases found), rfl⟩

/-- A matter that is stored on the way changes nothing about any action. -/
theorem Consistent.withMatter {ledger : Ledger Time} {input : DurableActionInput}
    (consistent : ledger.Consistent) : (withMatter input ledger).Consistent where
  present record := by
    obtain ⟨execution, found, agrees⟩ := consistent.present record
    exact ⟨execution, found, agrees.congr rfl rfl⟩
  absent missing :=
    have gone := consistent.absent missing
    ⟨gone.unexecuted, gone.unrequested, gone.unaudited⟩

/-- `after` differs from `before` in the rows of one action: its record, its
execution, its own approval rows, and one more audit row. -/
structure Writes (before after : Ledger Time) (action : ActionRecord)
    (execution : ActionExecution Time) (row : ActionTransition Time) : Prop where
  records : ∀ id, after.actions.find? id =
    if id = action.id then some action else before.actions.find? id
  executions : ∀ id, after.executions.find? id =
    if id = action.id then some execution else before.executions.find? id
  approvals : ∀ {id approval}, approval.actionId ≠ action.id →
    (after.approvals.find? id = some approval ↔ before.approvals.find? id = some approval)
  audit : after.transitions.rows = before.transitions.rows ++ [row]
  logged : row.actionId = action.id

namespace Writes

variable {before after : Ledger Time} {action : ActionRecord} {execution : ActionExecution Time}
  {row : ActionTransition Time}

/-- The audit log of the written action gains the row. -/
theorem audit_self (writes : Writes before after action execution row) :
    after.audit action.id = before.audit action.id ++ [(row.fromState, some row.toState)] := by
  have logged : decide (row.actionId = action.id) = true := by simp [writes.logged]
  simp [Ledger.audit, writes.audit, logged]

theorem audit_other (writes : Writes before after action execution row) {id : String}
    (other : id ≠ action.id) : after.audit id = before.audit id := by
  have unlogged : row.actionId ≠ id := by
    rw [writes.logged]
    exact other.symm
  simp [Ledger.audit, writes.audit, unlogged]

/-- The rows of another action agree as they did. -/
theorem agrees_other (writes : Writes before after action execution row) {bystander : ActionRecord}
    {running : ActionExecution Time} (other : bystander.id ≠ action.id) (agrees : before.Agrees bystander running) :
    after.Agrees bystander running := by
  have own : ∀ {id approval}, approval.actionId = bystander.id →
      (after.approvals.find? id = some approval ↔ before.approvals.find? id = some approval) :=
    fun owned => writes.approvals (owned ▸ other)
  refine
    { joint := agrees.joint, leased := agrees.leased, expiring := agrees.expiring
      requested := ?_, answered := ?_, awaiting := ?_, audited := ?_ }
  · intro id approval found owned
    exact agrees.requested ((own owned).mp found) owned
  · intro id referenced
    obtain ⟨approval, found, owned⟩ := agrees.answered referenced
    exact ⟨approval, (own owned).mpr found, owned⟩
  · have awaited : ∀ approval, after.AwaitedApproval bystander approval ↔
        before.AwaitedApproval bystander approval := by
      intro approval
      simp only [AwaitedApproval, Option.bind_eq_some_iff]
      constructor
      · rintro ⟨⟨id, referenced, found⟩, owned⟩
        exact ⟨⟨id, referenced, (own owned).mp found⟩, owned⟩
      · rintro ⟨⟨id, referenced, found⟩, owned⟩
        exact ⟨⟨id, referenced, (own owned).mpr found⟩, owned⟩
    simpa only [awaited] using agrees.awaiting
  · rw [writes.audit_other other]
    exact agrees.audited

end Writes

/-- The invariant survives a write whose own rows agree. -/
theorem Consistent.write {before after : Ledger Time} {action : ActionRecord} {execution : ActionExecution Time}
    {row : ActionTransition Time} (consistent : before.Consistent) (writes : Writes before after action execution row)
    (agrees : after.Agrees action execution) : after.Consistent where
  present := by
    intro id found record
    rw [writes.records] at record
    rw [writes.executions]
    split at record
    · rename_i same
      cases record
      exact ⟨execution, if_pos same, agrees⟩
    · rename_i other
      obtain ⟨running, executed, before⟩ := consistent.present record
      have named : found.id = id := Table.find?_key record
      exact ⟨running, by rwa [if_neg other], writes.agrees_other (by rwa [named]) before⟩
  absent := by
    intro id missing
    rw [writes.records] at missing
    split at missing
    · cases missing
    · rename_i other
      have gone := consistent.absent missing
      refine ⟨?_, ?_, ?_⟩
      · rw [writes.executions, if_neg other]
        exact gone.unexecuted
      · intro approvalId approval found owned
        refine gone.unrequested ((writes.approvals ?_).mp found) owned
        rwa [owned]
      · rw [writes.audit_other other]
        exact gone.unaudited

/-! ## The rows each effect writes -/

section Effects

variable {before after : Ledger Time} {approval : ApprovalRequest Time}

/-- An action that moves with its execution and without its approval still
agrees, if it was not and is not waiting for approval. -/
theorem Agrees.move {action next : ActionRecord} {running finished : ActionExecution Time} {row : ActionTransition Time}
    (agrees : before.Agrees action running) (writes : Writes before after next finished row)
    (approvals : after.approvals = before.approvals) (same : next.id = action.id)
    (reference : next.approvalId = action.approvalId) (left : row.fromState = some action.state)
    (reached : row.toState = next.state) (started : action.state ≠ .awaitingApproval)
    (stopped : next.state ≠ .awaitingApproval) (joint : JointState next.state finished.status)
    (leased : finished.leaseOwner.isSome ↔ finished.status = .executing)
    (expiring : finished.leaseExpiresAt.isSome ↔ finished.status = .executing) :
    after.Agrees next finished where
  joint := joint
  leased := leased
  expiring := expiring
  requested := by
    rw [approvals, same, reference]
    exact agrees.requested
  answered := by
    rw [approvals, same, reference]
    exact agrees.answered
  awaiting := by
    have unawaited := agrees.awaiting.not.mp started
    refine ⟨fun awaits => (stopped awaits).elim, ?_⟩
    rintro ⟨approval, ⟨awaited, owned⟩, pending⟩
    rw [approvals, reference] at awaited
    exact (unawaited ⟨approval, ⟨awaited, owned.trans same⟩, pending⟩).elim
  audited := by
    rw [writes.audit_self, left, reached, same]
    exact agrees.audited.snoc

/-- A new action is stored with its pending execution and at most its own
pending approval. -/
theorem Consistent.enqueued {input : DurableActionInput} {clock : Time} (consistent : before.Consistent)
    (actions : before.actions.insert? (actionRow input) = some after.actions) (approvals : match input.approval with
      | none => after.approvals = before.approvals
      | some approval => before.approvals.insert? (approvalRow input approval) = some after.approvals)
    (executions : before.executions.insert? (executionRow input clock) = some after.executions)
    (transitions : before.transitions.insert? (enqueueRow input) = some after.transitions) :
    after.Consistent := by
  have gone : before.Absent input.actionId := consistent.absent (Table.find?_fresh actions)
  have writes : Writes before after (actionRow input) (executionRow input clock)
      (enqueueRow input) := by
    refine
      { records := Table.find?_inserted actions, executions := Table.find?_inserted executions
        approvals := ?_, audit := Table.rows_insert transitions, logged := rfl }
    intro id approval foreign
    split at approvals
    · rw [approvals]
    · rename_i prompt _
      rw [Table.find?_inserted approvals]
      split
      · rename_i same
        constructor
        · intro own
          cases own
          exact (foreign rfl).elim
        · intro stored
          rw [same, Table.find?_fresh approvals] at stored
          cases stored
      · exact Iff.rfl
  refine consistent.write writes ?_
  have audited : IsPath none (after.audit input.actionId) (some (enqueuedState input)) := by
    rw [show input.actionId = (actionRow input).id from rfl, writes.audit_self]
    rw [show (actionRow input).id = input.actionId from rfl, gone.unaudited]
    exact ⟨rfl, rfl⟩
  cases asked : input.approval with
  | none =>
    simp only [asked] at approvals
    have planned : enqueuedState input = .planned := by simp [enqueuedState, asked]
    refine
      { joint := by rw [show (actionRow input).state = _ from planned]; exact .planned
        leased := by simp [executionRow]
        expiring := by simp [executionRow], requested := ?_, answered := ?_, awaiting := ?_
        audited := audited }
    · intro id approval found owned
      rw [approvals] at found
      exact (gone.unrequested found owned).elim
    · intro id referenced
      simp [actionRow, asked] at referenced
    · simp [AwaitedApproval, actionRow, planned, asked]
  | some prompt =>
    simp only [asked] at approvals
    have awaits : enqueuedState input = .awaitingApproval := by simp [enqueuedState, asked]
    have stored : after.approvals.find? prompt.id = some (approvalRow input prompt) := by
      rw [Table.find?_inserted approvals]
      exact if_pos rfl
    refine
      { joint := by rw [show (actionRow input).state = _ from awaits]; exact .awaitingApproval
        leased := by simp [executionRow]
        expiring := by simp [executionRow], requested := ?_, answered := ?_, awaiting := ?_
        audited := audited }
    · intro id approval found owned
      rw [Table.find?_inserted approvals] at found
      split at found
      · rename_i same
        simp [actionRow, asked, same, approvalRow]
      · exact (gone.unrequested found owned).elim
    · intro id referenced
      obtain rfl : prompt.id = id := by simpa [actionRow, asked] using referenced
      exact ⟨_, stored, rfl⟩
    · refine ⟨fun _ => ⟨approvalRow input prompt, ⟨?_, rfl⟩, rfl⟩, fun _ => awaits⟩
      simpa [actionRow, asked] using stored

/-- A pending approval belongs to an action that awaits it and has not started. -/
theorem Consistent.awaiting {approvalId : String}
    (consistent : before.Consistent) (found : before.approvals.find? approvalId = some approval)
    (pending : approval.status = .pending) : ∃ action execution, before.actions.find? approval.actionId = some action ∧
      before.executions.find? approval.actionId = some execution ∧
      before.Agrees action execution ∧ action.approvalId = some approvalId ∧
      action.state = .awaitingApproval ∧ execution.status = .pending := by
  cases record : before.actions.find? approval.actionId with
  | none => exact ((consistent.absent record).unrequested found rfl).elim
  | some action =>
    obtain ⟨execution, executed, agrees⟩ := consistent.present record
    have named : action.id = approval.actionId := Table.find?_key record
    have referenced : action.approvalId = some approvalId := agrees.requested found named.symm
    have awaits : action.state = .awaitingApproval :=
      agrees.awaiting.mpr ⟨approval, ⟨by simp [referenced, found], named.symm⟩, pending⟩
    exact ⟨action, execution, rfl, executed, agrees, referenced, awaits, agrees.joint.pending_of_awaiting awaits⟩

/-- Deciding a pending approval moves exactly the action that waits for it. -/
theorem Consistent.decided {approvalId metadata : String} {decision : ApprovalDecision}
    {decidedAt : Time} (consistent : before.Consistent)
    (found : before.approvals.find? approvalId = some approval)
    (pending : approval.status = .pending)
    (approvals : after.approvals = before.approvals.update approvalId
      (fun row => { row with
        status := .decided decision, decision := some metadata, decidedAt := some decidedAt })
      fun _ => rfl)
    (actions : after.actions = before.actions.update approval.actionId
      (fun row => { row with state := decidedState decision }) fun _ => rfl)
    (executions : after.executions = decidedExecutions decision approval.actionId before.executions)
    (transitions : before.transitions.insert?
      (decisionRow approval.actionId approvalId decision metadata) = some after.transitions) :
    after.Consistent := by
  obtain ⟨action, execution, record, executed, agrees, referenced, awaits, idle⟩ := consistent.awaiting found pending
  have named : action.id = approval.actionId := Table.find?_key record
  -- An approval leaves the execution row as it is; a rejection fails it.
  let finished : ActionExecution Time :=
    match decision with
    | .approved => execution
    | .rejected => rejectedExecution execution
  have written : ∀ id, after.executions.find? id =
      if id = action.id then some finished else before.executions.find? id := by
    intro id
    rw [named]
    cases decision with
    | approved =>
      rw [executions]
      by_cases same : id = approval.actionId
      · simpa [decidedExecutions, finished, same] using executed
      · simp [decidedExecutions, same]
    | rejected =>
      simp only [decidedExecutions] at executions
      exact Table.find?_updated executions executed id
  have answered : after.approvals.find? approvalId = some { approval with
      status := .decided decision, decision := some metadata, decidedAt := some decidedAt } := by
    rw [approvals, Table.find?_update_self, found, Option.map_some]
  have elsewhere : ∀ {id}, id ≠ approvalId → after.approvals.find? id = before.approvals.find? id := by
    intro id other
    rw [approvals, Table.find?_update_of_ne other]
  have writes : Writes before after { action with state := decidedState decision } finished
      (decisionRow approval.actionId approvalId decision metadata) := by
    refine
      { records := ?_, executions := written, approvals := ?_
        audit := Table.rows_insert transitions, logged := named.symm }
    · intro id
      rw [Table.find?_updated actions record]
      simp [named]
    · intro id other foreign
      by_cases same : id = approvalId
      · subst same
        constructor
        · intro stored
          rw [answered] at stored
          cases stored
          exact (foreign named.symm).elim
        · intro stored
          rw [found] at stored
          cases stored
          exact (foreign named.symm).elim
      · rw [elsewhere same]
  refine consistent.write writes
    { joint := ?_, leased := ?_, expiring := ?_, requested := ?_, answered := ?_, awaiting := ?_
      audited := ?_ }
  · cases decision with
    | approved =>
      rw [show finished.status = .pending from idle]
      exact .planned
    | rejected => exact .failed
  · cases decision with
    | approved => exact agrees.leased
    | rejected => simpa [finished, rejectedExecution, idle] using agrees.leased
  · cases decision with
    | approved => exact agrees.expiring
    | rejected => simpa [finished, rejectedExecution, idle] using agrees.expiring
  · intro id other stored owned
    by_cases same : id = approvalId
    · rw [same]
      exact referenced
    · rw [elsewhere same] at stored
      exact agrees.requested stored owned
  · intro id same
    obtain rfl : approvalId = id := Option.some.inj (referenced.symm.trans same)
    exact ⟨_, answered, named.symm⟩
  · constructor
    · intro waiting
      cases decision with
      | approved | rejected => cases waiting
    · rintro ⟨other, ⟨awaited, _⟩, undecided⟩
      simp only [referenced, Option.bind_some, answered] at awaited
      cases awaited
      cases undecided
  · rw [writes.audit_self]
    have path := agrees.audited
    rw [awaits] at path
    exact path.snoc

/-- A claim moves an action that waits for no approval. -/
theorem Consistent.claimed [LinearOrder Time] {workerId : String} {leaseExpiresAt : Time}
    {execution : ActionExecution Time} {action : ActionRecord} (consistent : before.Consistent)
    (found : before.executions.find? execution.actionId = some execution)
    (record : before.actions.find? execution.actionId = some action)
    (gated : action.approvalId = none ∨ before.approvalExists action)
    (actions : after.actions = before.actions.update execution.actionId
      (fun row => { row with state := .executing }) fun _ => rfl)
    (approvals : after.approvals = before.approvals)
    (executions : after.executions = before.executions.update execution.actionId
      (claimedRow workerId leaseExpiresAt execution) fun _ => rfl)
    (transitions : before.transitions.insert?
      (claimRow execution action workerId leaseExpiresAt) = some after.transitions) :
    after.Consistent := by
  obtain ⟨running, executed, agrees⟩ := consistent.present record
  obtain rfl : execution = running := Option.some.inj (found.symm.trans executed)
  have named : action.id = execution.actionId := Table.find?_key record
  have started : action.state ≠ .awaitingApproval := by
    intro awaits
    obtain ⟨approval, ⟨awaited, owned⟩, pending⟩ := agrees.awaiting.mp awaits
    obtain ⟨id, referenced, stored⟩ := Option.bind_eq_some_iff.mp awaited
    rcases gated with unasked | granted
    · rw [unasked] at referenced
      cases referenced
    · simp [approvalExists, referenced, stored, pending] at granted
  have writes : Writes before after { action with state := .executing }
      (claimedRow workerId leaseExpiresAt execution execution)
      (claimRow execution action workerId leaseExpiresAt) := by
    refine
      { records := ?_, executions := ?_, approvals := by simp [approvals]
        audit := Table.rows_insert transitions, logged := named.symm }
    · intro id
      rw [Table.find?_updated actions record]
      simp [named]
    · intro id
      rw [Table.find?_updated executions found]
      simp [named]
  exact consistent.write writes (agrees.move writes approvals rfl rfl rfl rfl started
    (by simp) .executing (by simp [claimedRow]) (by simp [claimedRow]))

/-- The holder of a lease moves its action out of `executing`. -/
theorem Consistent.handedBack {actionId : String} {execution finished : ActionExecution Time}
    {change : ActionRecord → ActionRecord} {row : ActionTransition Time}
    {keeps : ∀ row, (change row).id = row.id} (consistent : before.Consistent)
    (found : before.executions.find? actionId = some execution)
    (running : execution.status = .executing)
    (actions : after.actions = before.actions.update actionId change keeps)
    (approvals : after.approvals = before.approvals)
    (executions : ∀ id, after.executions.find? id =
      if id = actionId then some finished else before.executions.find? id)
    (transitions : before.transitions.insert? row = some after.transitions)
    (reference : ∀ action, (change action).approvalId = action.approvalId)
    (logged : row.actionId = actionId) (left : row.fromState = some .executing)
    (reached : ∀ action, (change action).state = row.toState)
    (joint : JointState row.toState finished.status) (stopped : finished.status ≠ .executing)
    (unowned : finished.leaseOwner = none) (unleased : finished.leaseExpiresAt = none)
    (rested : row.toState ≠ .awaitingApproval) : after.Consistent := by
  cases record : before.actions.find? actionId with
  | none =>
    rw [(consistent.absent record).unexecuted] at found
    cases found
  | some action =>
    obtain ⟨executing, executed, agrees⟩ := consistent.present record
    obtain rfl : execution = executing := Option.some.inj (found.symm.trans executed)
    have named : (change action).id = actionId := (keeps action).trans (Table.find?_key record)
    have executes : action.state = .executing := agrees.joint.executing_iff.mpr running
    have writes : Writes before after (change action) finished row := by
      refine
        { records := ?_, executions := by rwa [named], approvals := by simp [approvals]
          audit := Table.rows_insert transitions, logged := logged.trans named.symm }
      rw [named]
      exact Table.find?_updated actions record
    exact consistent.write writes (agrees.move writes approvals (keeps action) (reference action)
      (left.trans (congrArg some executes.symm)) (reached action).symm (by simp [executes])
      (reached action ▸ rested) (reached action ▸ joint) (by simp [unowned, stopped])
      (by simp [unleased, stopped]))

theorem joint_settled (status : ResultStatus) : JointState (settledState status) (settledStatus status) := by
  cases status with
  | completed => exact .completed
  | needsInput => exact .waitingExternal
  | failed => exact .failed

theorem settledStatus_ne_executing (status : ResultStatus) : settledStatus status ≠ .executing := by
  cases status <;> simp [settledStatus]

theorem joint_released (disposition : Disposition) :
    JointState (releasedState disposition) (releasedStatus disposition) := by
  cases disposition with
  | retry => exact .planned
  | failed => exact .failed

theorem releasedStatus_ne_executing (disposition : Disposition) : releasedStatus disposition ≠ .executing := by
  cases disposition <;> simp [releasedStatus]

/-- No effect breaks the invariant. -/
theorem Consistent.effect [LinearOrder Time] {call : LedgerCall Time} {reply : LedgerReply}
    (consistent : before.Consistent) (effect : Effect before call reply after) : after.Consistent := by
  cases effect with
  | threw | redecided | idle => exact consistent
  | replayed => exact consistent.withMatter
  | enqueued _ actions approvals executions transitions =>
    exact consistent.enqueued actions approvals executions transitions
  | decided found pending approvals actions executions transitions =>
    exact consistent.decided found pending approvals actions executions transitions
  | claimed found record _ gated actions approvals executions transitions =>
    exact consistent.claimed found record gated actions approvals executions transitions
  | @settled actionId workerId result _ _ found running _ actions approvals executions transitions =>
    exact consistent.handedBack found running actions approvals
      (Table.find?_updated executions found) transitions (fun _ => rfl) rfl rfl (fun _ => rfl)
      (joint_settled result.status) (settledStatus_ne_executing result.status) rfl rfl
      (by cases status : result.status <;> simp [settleRow, settledState, status])
  | @released input _ _ _ found running _ actions approvals executions transitions =>
    exact consistent.handedBack found running actions approvals
      (Table.find?_updated executions found) transitions (fun _ => rfl) rfl rfl (fun _ => rfl)
      (joint_released input.disposition) (releasedStatus_ne_executing input.disposition) rfl rfl
      (by cases ending : input.disposition <;> simp [releaseRow, releasedState, ending])

end Effects

/-- The invariant holds in every run. -/
theorem Run.consistent [LinearOrder Time] {history : List (LedgerCall Time × LedgerReply)}
    {ledger : Ledger Time} (run : Run history ledger) : ledger.Consistent :=
  Run.induct (motive := fun _ ledger => ledger.Consistent) consistent_empty
    (fun _ consistent effect => consistent.effect effect) run

/-- The tables keep the rows of each action together. -/
structure RowsAgree (ledger : Ledger Time) : Prop where
  executed : ∀ execution ∈ ledger.executions, ∃ action ∈ ledger.actions, action.id = execution.actionId
  recorded : ∀ action ∈ ledger.actions, ∃ execution ∈ ledger.executions,
    execution.actionId = action.id ∧ JointState action.state execution.status ∧
      (execution.leaseOwner.isSome ↔ execution.status = .executing) ∧
      (execution.leaseExpiresAt.isSome ↔ execution.status = .executing)
  awaiting : ∀ action ∈ ledger.actions, action.state = .awaitingApproval ↔
    ∃ approval, ledger.AwaitedApproval action approval ∧ approval.status = .pending
  audited : ∀ action ∈ ledger.actions, IsPath none (ledger.audit action.id) (some action.state)

/-- In every reachable ledger a record and its execution stand in one of six joint
states, the lease columns are set exactly while the execution runs, an action
awaits approval exactly while its approval is pending, and its audit rows lead
from nothing to its state. -/
theorem run_rows_agree [LinearOrder Time] {history : List (LedgerCall Time × LedgerReply)}
    {ledger : Ledger Time} (run : Run history ledger) : ledger.RowsAgree := by
  have agreed : ∀ action ∈ ledger.actions, ∃ execution,
      ledger.executions.find? action.id = some execution ∧ ledger.Agrees action execution :=
    fun action stored => run.consistent.present (Table.find?_self stored)
  refine { executed := ?_, recorded := ?_, awaiting := ?_, audited := ?_ }
  · intro execution stored
    cases record : ledger.actions.find? execution.actionId with
    | none =>
      have gone := (run.consistent.absent record).unexecuted
      rw [Table.find?_self stored] at gone
      cases gone
    | some action => exact ⟨action, Table.find?_mem record, Table.find?_key record⟩
  · intro action stored
    obtain ⟨execution, found, agrees⟩ := agreed action stored
    exact ⟨execution, Table.find?_mem found, Table.find?_key found, agrees.joint, agrees.leased, agrees.expiring⟩
  · intro action stored
    obtain ⟨_, _, agrees⟩ := agreed action stored
    exact agrees.awaiting
  · intro action stored
    obtain ⟨_, _, agrees⟩ := agreed action stored
    exact agrees.audited

/-- A message draft that a person has to approve. -/
def draftReply : DurableActionInput :=
  { actionId := "action:1", matterId := "matter:1", matterTitle := "Review request"
    matterSummary := "A colleague asks for a review", intent := "reply"
    source := ⟨"dws", none, none, none, none⟩
    request := ⟨"Reply", "Draft a reply", "/work", .externalWrite⟩
    requestedExecutor := none, approval := some ⟨"approval:1", "Send the reply?"⟩ }

/-- The draft is approved, claimed, taken over from a lost worker and released. -/
def takeover : List (LedgerCall String) :=
  [.enqueueAction draftReply "2026-01-01", .decideApproval "approval:1" .approved "{}" "2026-01-02",
    .claimNextAction "worker:1" "/work" "2026-01-03" "2026-01-04",
    .claimNextAction "worker:2" "/work" "2026-01-05" "2026-01-06",
    .settleAction "action:1" "worker:1" ⟨"action:1", "codex", .completed, "late", none⟩,
    .releaseActionClaim ⟨"action:1", "worker:2", .retry, "timed out", some "2026-01-07"⟩
      "2026-01-05"]

theorem takeover_rows_agree : ((machine String).replay takeover empty).2.actions.rows.map (·.state) = [.planned] ∧
      ((machine String).replay takeover empty).2.RowsAgree :=
  ⟨by decide, run_rows_agree ((machine String).replay_run takeover)⟩

end QuarkSelfAI.Storage.Ledger

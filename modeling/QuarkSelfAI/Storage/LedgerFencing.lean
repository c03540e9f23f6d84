import QuarkSelfAI.Foundation.Lease
import QuarkSelfAI.Storage.LedgerInvariant

/-!
# Fencing of the action ledger

The execution row of one action is a lease: pending work is free, executing work
is held by its lease owner, anything else is closed. Every call to the ledger is
a move of that lease or leaves it alone, so what leases promise in general holds
for each action of the ledger.
-/

namespace QuarkSelfAI.Storage.Ledger

open Foundation

variable {Time : Type}

def leasePhase : ExecutionStatus → Option String → LeasePhase String
  | .pending, _ => .free
  | .executing, some workerId => .held workerId
  | _, _ => .closed

/-- The execution of an action as a lease; an action that does not exist is free. -/
def leaseOf (ledger : Ledger Time) (actionId : String) : Lease String :=
  match ledger.executions.find? actionId with
  | none => Lease.fresh
  | some execution => ⟨leasePhase execution.status execution.leaseOwner, execution.attempt⟩

/-- The lease move a call made on one action. -/
def leaseMove (actionId : String) : LedgerCall Time × LedgerReply → Option (LeaseMove String)
  | (.claimNextAction workerId _ _ _, .claimed (some action)) =>
    if action.actionId = actionId then some (.acquire workerId) else none
  | (.settleAction settledId workerId _, .settled) => if settledId = actionId then some (.finish workerId) else none
  | (.releaseActionClaim input _, .released) =>
    if input.actionId = actionId then
      match input.disposition with
      | .retry => some (.surrender input.workerId)
      | .failed => some (.finish input.workerId)
    else none
  | (.decideApproval _ .rejected _ _, .decided) => some .cancel
  | _ => none

/-- The calls that move the lease of an action; a rejection may concern another one. -/
inductive Moves (actionId : String) : LedgerCall Time → LedgerReply → LeaseMove String → Prop where
  | claimed {workerId workspace now leaseExpiresAt action} (named : action.actionId = actionId) :
      Moves actionId (.claimNextAction workerId workspace now leaseExpiresAt) (.claimed (some action))
        (.acquire workerId)
  | settled {workerId result} :
      Moves actionId (.settleAction actionId workerId result) .settled (.finish workerId)
  | failed {input clock} (named : input.actionId = actionId) (ending : input.disposition = .failed) :
      Moves actionId (.releaseActionClaim input clock) .released (.finish input.workerId)
  | retried {input clock} (named : input.actionId = actionId) (retry : input.disposition = .retry) :
      Moves actionId (.releaseActionClaim input clock) .released (.surrender input.workerId)
  | rejected {approvalId metadata decidedAt} :
      Moves actionId (.decideApproval approvalId .rejected metadata decidedAt) .decided .cancel

theorem moves_of_leaseMove {actionId : String} {call : LedgerCall Time} {reply : LedgerReply}
    {move : LeaseMove String} (made : leaseMove actionId (call, reply) = some move) :
    Moves actionId call reply move := by
  unfold leaseMove at made
  split at made
  · rename_i same
    cases same
    split at made
    · rename_i named
      cases made
      exact .claimed named
    · cases made
  · rename_i same
    cases same
    split at made
    · rename_i named
      cases named
      cases made
      exact .settled
    · cases made
  · rename_i input clock same
    cases same
    split at made
    · rename_i named
      cases ending : input.disposition with
      | retry =>
        rw [ending] at made
        cases made
        exact .retried named ending
      | failed =>
        rw [ending] at made
        cases made
        exact .failed named ending
    · cases made
  · rename_i same
    cases same
    cases made
    exact .rejected
  · cases made

/-- The action a call handed out, with the worker that got it. -/
def claimOf : LedgerCall Time × LedgerReply → Option (String × String)
  | (.claimNextAction workerId _ _ _, .claimed (some action)) => some (action.actionId, workerId)
  | _ => none

def claims (history : List (LedgerCall Time × LedgerReply)) : List (String × String) := history.filterMap claimOf

/-- The workers an action was handed to, in order. -/
def claimants (history : List (LedgerCall Time × LedgerReply)) (actionId : String) : List String :=
  ((claims history).filter fun claim => claim.1 = actionId).map (·.2)

theorem claimants_nodup {history : List (LedgerCall Time × LedgerReply)}
    (distinct : ((claims history).map (·.2)).Nodup) (actionId : String) : (claimants history actionId).Nodup :=
  distinct.sublist (List.filter_sublist.map _)

/-- The acquirers of an action's lease are its claimants. -/
theorem acquirers_leaseMove (history : List (LedgerCall Time × LedgerReply)) (actionId : String) :
    Lease.acquirers (history.filterMap (leaseMove actionId)) = claimants history actionId := by
  rw [Lease.acquirers, List.filterMap_filterMap, claimants, claims, List.filter_filterMap, List.map_filterMap]
  refine List.filterMap_congr fun entry _ => ?_
  unfold leaseMove
  split
  · rename_i action _
    by_cases same : action.actionId = actionId
    · simp [claimOf, same]
    · simp [claimOf, same]
  · split <;> rfl
  · split
    · split <;> rfl
    · rfl
  · rfl
  · rename_i unclaimed _ _ _
    unfold claimOf
    split
    · exact (unclaimed _ _ _ _ _ rfl).elim
    · rfl

variable [LinearOrder Time] {call : LedgerCall Time} {reply : LedgerReply}
  {before after ledger : Ledger Time} {history : List (LedgerCall Time × LedgerReply)}
  {entry : LedgerCall Time × LedgerReply}

omit [LinearOrder Time] in
theorem leaseMove_threw (actionId message : String) : leaseMove actionId (call, .threw message) = none := by
  unfold leaseMove
  split <;> simp_all

omit [LinearOrder Time] in
/-- Calls that keep the execution table keep every lease. -/
theorem leaseOf_same (executions : after.executions = before.executions) (actionId : String) :
    after.leaseOf actionId = before.leaseOf actionId := by
  rw [leaseOf, leaseOf, executions]

omit [LinearOrder Time] in
theorem leaseOf_found {actionId : String} {execution : ActionExecution Time}
    (found : ledger.executions.find? actionId = some execution) : ledger.leaseOf actionId =
      ⟨leasePhase execution.status execution.leaseOwner, execution.attempt⟩ := by
  rw [leaseOf, found]

omit [LinearOrder Time] in
/-- Updating one execution moves its lease and leaves every other alone. -/
theorem leaseOf_updated {id : String} {execution : ActionExecution Time}
    {change : ActionExecution Time → ActionExecution Time} {keeps : ∀ row, (change row).actionId = row.actionId}
    (executions : after.executions = before.executions.update id change keeps)
    (found : before.executions.find? id = some execution) (actionId : String) :
    after.leaseOf actionId = if actionId = id then
      ⟨leasePhase (change execution).status (change execution).leaseOwner, (change execution).attempt⟩
    else before.leaseOf actionId := by
  rw [leaseOf, Table.find?_updated executions found]
  by_cases same : actionId = id
  · simp [same]
  · simp [same, leaseOf]

/-- One call is one move of an action's lease, or leaves it alone. -/
theorem Effect.lease (consistent : before.Consistent) (effect : Effect before call reply after) (actionId : String) :
    match leaseMove actionId (call, reply) with
    | none => after.leaseOf actionId = before.leaseOf actionId
    | some move => Lease.Step (before.leaseOf actionId) move (after.leaseOf actionId) := by
  cases effect with
  | threw message => rw [leaseMove_threw]
  | replayed | idle => rfl
  | @enqueued input clock _ _ actions _ executions _ =>
    show after.leaseOf actionId = before.leaseOf actionId
    have gone : before.Absent input.actionId := consistent.absent (Table.find?_fresh actions)
    rw [leaseOf, leaseOf, Table.find?_inserted executions]
    by_cases same : actionId = input.actionId
    · simp [same, executionRow, gone.unexecuted, leasePhase, Lease.fresh]
    · simp [same, executionRow]
  | @redecided _ decision =>
    cases decision with
    | approved => rfl
    | rejected => exact .overlook
  | @decided _ decision _ _ approval _ found pending _ _ executions _ =>
    cases decision with
    | approved => exact leaseOf_same executions actionId
    | rejected =>
      obtain ⟨_, execution, _, executed, _, _, _, idle⟩ := consistent.awaiting found pending
      show Lease.Step (before.leaseOf actionId) .cancel (after.leaseOf actionId)
      simp only [decidedExecutions] at executions
      rw [leaseOf_updated executions executed]
      split
      · rename_i same
        subst same
        rw [leaseOf_found executed]
        exact .cancel (by simp [idle, leasePhase])
      · exact .overlook
  | @claimed workerId _ _ _ execution action _ found record opened _ _ _ executions _ =>
    by_cases same : execution.actionId = actionId
    · subst same
      simp only [leaseMove, claimedAction_actionId, if_true]
      rw [leaseOf_updated executions found, if_pos rfl, leaseOf_found found]
      refine .acquire workerId ?_
      obtain ⟨_, executed, agrees⟩ := consistent.present record
      obtain rfl := Option.some.inj (found.symm.trans executed)
      unfold leaseOpen at opened
      split at opened
      · rename_i status
        simp [status, leasePhase]
      · rename_i status
        obtain ⟨owner, held⟩ := Option.isSome_iff_exists.mp (agrees.leased.mpr status)
        simp [status, held, leasePhase]
      · cases opened
    · have other : (before.claimedAction execution action).actionId ≠ actionId := same
      simp only [leaseMove, if_neg other]
      rw [leaseOf_updated executions found, if_neg (Ne.symm same)]
  | @settled settledId workerId result _ _ found running owned _ _ executions _ =>
    by_cases same : settledId = actionId
    · subst same
      simp only [leaseMove, if_true]
      rw [leaseOf_updated executions found, if_pos rfl, leaseOf_found found]
      have closed : leasePhase (settledStatus result.status) none = .closed := by
        cases result.status <;> rfl
      rw [closed]
      exact .finish (by simp [running, owned, leasePhase])
    · simp only [leaseMove, if_neg same]
      rw [leaseOf_updated executions found, if_neg (Ne.symm same)]
  | @released input clock execution _ found running owned _ _ executions _ =>
    by_cases same : input.actionId = actionId
    · subst same
      simp only [leaseMove, if_true]
      rw [leaseOf_updated executions found, if_pos rfl, leaseOf_found found]
      have held : leasePhase execution.status execution.leaseOwner = .held input.workerId := by
        simp [running, owned, leasePhase]
      cases ending : input.disposition with
      | retry => exact .surrender held
      | failed => exact .finish held
    · simp only [leaseMove, if_neg same]
      rw [leaseOf_updated executions found, if_neg (Ne.symm same)]

/-- A claim answers with the attempt its lease has from then on. -/
theorem Effect.attempt {workerId workspace : String} {now leaseExpiresAt : Time}
    {action : ClaimedAction}
    (effect : Effect before (.claimNextAction workerId workspace now leaseExpiresAt)
      (.claimed (some action)) after) : action.attempt = (after.leaseOf action.actionId).attempt := by
  cases effect with
  | @claimed _ _ _ _ execution _ _ found _ _ _ _ _ executions _ =>
    have moved := leaseOf_updated executions found execution.actionId
    rw [if_pos rfl] at moved
    exact (congrArg (·.attempt) moved).symm

/-- The ledger seen as the lease of one action. -/
def leaseProjection (Time : Type) [LinearOrder Time] (actionId : String) :
    TransitionSystem.Projection (machine Time).system (Lease.system String) where
  view ledger := ledger.leaseOf actionId
  move := leaseMove actionId
  holds := Consistent
  initially := by
    rintro _ rfl
    exact ⟨consistent_empty, rfl⟩
  preserved consistent transition := consistent.effect (step_effect transition)
  stutter := by
    rintro before ⟨call, reply⟩ after consistent transition still
    have moved := (step_effect transition).lease consistent actionId
    rwa [still] at moved
  advance := by
    rintro before ⟨call, reply⟩ after move consistent transition made
    have moved := (step_effect transition).lease consistent actionId
    rwa [made] at moved

/-- A call handed the action to a worker. -/
def ClaimedBy (entry : LedgerCall Time × LedgerReply) (actionId workerId : String) (attempt : Nat) : Prop :=
  ∃ workspace now leaseExpiresAt action, action.actionId = actionId ∧ action.attempt = attempt ∧
    entry = (.claimNextAction workerId workspace now leaseExpiresAt, .claimed (some action))

/-- A worker's settle or release was accepted. -/
inductive HandedBackBy : LedgerCall Time × LedgerReply → String → String → Prop where
  | settled (actionId workerId : String) (result : ExecutorResult) :
      HandedBackBy (.settleAction actionId workerId result, .settled) actionId workerId
  | released (input : ActionClaimRelease Time) (clock : Time) :
      HandedBackBy (.releaseActionClaim input clock, .released) input.actionId input.workerId

/-- A settle or a terminal release was accepted. -/
inductive Ends : LedgerCall Time × LedgerReply → String → Prop where
  | settled (actionId workerId : String) (result : ExecutorResult) :
      Ends (.settleAction actionId workerId result, .settled) actionId
  | released (input : ActionClaimRelease Time) (clock : Time) (ending : input.disposition = .failed) :
      Ends (.releaseActionClaim input clock, .released) input.actionId

omit [LinearOrder Time] in
theorem HandedBackBy.move {actionId workerId : String} (handed : HandedBackBy entry actionId workerId) :
    ∃ move, leaseMove actionId entry = some move ∧ (move = .surrender workerId ∨ move = .finish workerId) := by
  cases handed with
  | settled => exact ⟨.finish workerId, by simp [leaseMove], .inr rfl⟩
  | released input clock =>
    cases ending : input.disposition with
    | retry => exact ⟨.surrender input.workerId, by simp [leaseMove, ending], .inl rfl⟩
    | failed => exact ⟨.finish input.workerId, by simp [leaseMove, ending], .inr rfl⟩

omit [LinearOrder Time] in
theorem Ends.move {actionId : String} (ends : Ends entry actionId) :
    ∃ workerId, leaseMove actionId entry = some (.finish workerId) := by
  cases ends with
  | settled _ workerId _ => exact ⟨workerId, by simp [leaseMove]⟩
  | released input _ ending => exact ⟨input.workerId, by simp [leaseMove, ending]⟩

/-- What the ledger promises about leases. -/
structure Fenced (history : List (LedgerCall Time × LedgerReply)) (ledger : Ledger Time) : Prop where
  /-- At most one worker owns an action, and it is the last one that claimed it. -/
  owner : ∀ {execution other workerId another}, execution ∈ ledger.executions →
    other ∈ ledger.executions → execution.actionId = other.actionId →
    execution.leaseOwner = some workerId → other.leaseOwner = some another →
      workerId = another ∧ (claimants history execution.actionId).getLast? = some workerId
  /-- The attempt column counts the claims. -/
  counted : ∀ {execution}, execution ∈ ledger.executions →
    execution.attempt = (claimants history execution.actionId).length
  /-- Each claim hands the action out as one more attempt than the last. -/
  numbered : ∀ {before entry after actionId workerId attempt},
    history = before ++ entry :: after → ClaimedBy entry actionId workerId attempt →
      attempt = (claimants before actionId).length + 1
  /-- Only the last claimant can settle or release an action. -/
  last : ∀ {before entry after actionId workerId}, history = before ++ entry :: after →
    HandedBackBy entry actionId workerId → (claimants before actionId).getLast? = some workerId
  /-- An earlier claimant is turned away, and nothing is written. -/
  stale : ∀ {actionId workerId}, workerId ∈ (claimants history actionId).dropLast →
    (∀ result, perform (.settleAction actionId workerId result) ledger =
      (.threw s!"worker {workerId} does not own action {actionId}", ledger)) ∧
    ∀ disposition error availableAt clock,
      perform (.releaseActionClaim ⟨actionId, workerId, disposition, error, availableAt⟩ clock)
        ledger = (.threw s!"worker {workerId} does not own action {actionId}", ledger)
  /-- A settled or terminally released action is never claimed, settled or released again. -/
  ended : ∀ {before entry after actionId}, history = before ++ entry :: after → Ends entry actionId → ∀ later ∈ after,
      (∀ workerId attempt, ¬ ClaimedBy later actionId workerId attempt) ∧
      ∀ workerId, ¬ HandedBackBy later actionId workerId

section Run

variable {execution : ActionExecution Time} {actionId workerId : String}

/-- The moves of an action's lease along a run. -/
theorem Run.lease (run : Run history ledger) (actionId : String) :
    (Lease.system String).Run (history.filterMap (leaseMove actionId)) (ledger.leaseOf actionId) :=
  (leaseProjection Time actionId).run run

theorem Run.attempt_eq (run : Run history ledger) (found : ledger.executions.find? actionId = some execution) :
    execution.attempt = (claimants history actionId).length := by
  have counted := Lease.attempt_eq (run.lease actionId)
  rwa [leaseOf_found found, acquirers_leaseMove] at counted

theorem Run.owner_last (run : Run history ledger) (found : ledger.executions.find? actionId = some execution)
    (owned : execution.leaseOwner = some workerId) : (claimants history actionId).getLast? = some workerId := by
  have running : execution.status = .executing := by
    cases record : ledger.actions.find? actionId with
    | none =>
      rw [(run.consistent.absent record).unexecuted] at found
      cases found
    | some action =>
      obtain ⟨_, executed, agrees⟩ := run.consistent.present record
      obtain rfl := Option.some.inj (found.symm.trans executed)
      exact agrees.leased.mp (by simp [owned])
  have held : (ledger.leaseOf actionId).phase = .held workerId := by
    rw [leaseOf_found found, running, owned]
    rfl
  have last := Lease.holder_last (run.lease actionId) held
  rwa [acquirers_leaseMove] at last

/-- A worker that is not the last claimant owns nothing. -/
theorem Run.unowned (run : Run history ledger) (stale : (claimants history actionId).getLast? ≠ some workerId) :
    ledger.ownedExecution actionId workerId = none := by
  cases owned : ledger.ownedExecution actionId workerId with
  | none => rfl
  | some execution =>
    obtain ⟨found, _, owner⟩ := ownedExecution_eq_some.mp owned
    exact (stale (run.owner_last found owner)).elim

omit [LinearOrder Time] in
theorem last_not_in_dropLast {names : List String} (distinct : names.Nodup)
    (listed : workerId ∈ names.dropLast) : names.getLast? ≠ some workerId := by
  intro last
  obtain ⟨before, rfl⟩ := List.getLast?_eq_some_iff.mp last
  rw [List.dropLast_concat] at listed
  exact (List.nodup_append.mp distinct).2.2 workerId listed workerId (List.mem_singleton_self _) rfl

end Run

/-- In every run whose claims use distinct worker ids, each action is fenced. -/
theorem run_fenced (run : Run history ledger) (distinct : ((claims history).map (·.2)).Nodup) :
    Fenced history ledger := by
  refine
    { owner := ?_, counted := fun stored => run.attempt_eq (Table.find?_self stored)
      numbered := ?_, last := ?_, stale := ?_, ended := ?_ }
  · intro execution other workerId another stored listed same owned owns
    obtain rfl := Table.eq_of_key stored listed same
    exact ⟨Option.some.inj (owned.symm.trans owns), run.owner_last (Table.find?_self stored) owned⟩
  · rintro before entry after actionId workerId attempt rfl
      ⟨workspace, now, leaseExpiresAt, action, rfl, rfl, rfl⟩
    obtain ⟨state, next, prior, transition, _⟩ := TransitionSystem.Run.cut run
    cases step_effect transition with
    | claimed found => exact congrArg (· + 1) (Run.attempt_eq prior found)
  · rintro before entry after actionId workerId rfl handed
    obtain ⟨move, made, moves⟩ := handed.move
    rw [← acquirers_leaseMove]
    exact Lease.projected_mover_last (leaseProjection Time actionId) run made moves
  · intro actionId workerId listed
    have unowned := run.unowned (last_not_in_dropLast (claimants_nodup distinct actionId) listed)
    constructor
    · intro result
      simp [perform, answer, settleAction, transaction, settleBody, unowned]
    · intro disposition error availableAt clock
      simp [perform, answer, releaseActionClaim, transaction, releaseBody, unowned]
  · rintro before entry after actionId rfl ends later listed
    obtain ⟨workerId, made⟩ := ends.move
    have final : ∀ move, leaseMove actionId later = some move → move = .cancel :=
      Lease.projected_finished_forever (leaseProjection Time actionId) run made later listed
    constructor
    · rintro another attempt ⟨workspace, now, leaseExpiresAt, action, same, _, rfl⟩
      have impossible := final (.acquire another) (by simp [leaseMove, same])
      cases impossible
    · intro another handed
      obtain ⟨move, made, rfl | rfl⟩ := handed.move
      · cases final _ made
      · cases final _ made

/-- The takeover leaves the action to the second worker, and the first is turned away. -/
theorem takeover_fenced : claims ((machine String).replay takeover empty).1 =
        [("action:1", "worker:1"), ("action:1", "worker:2")] ∧
      Fenced ((machine String).replay takeover empty).1
        ((machine String).replay takeover empty).2 :=
  ⟨by decide, run_fenced ((machine String).replay_run takeover) (by decide)⟩

end QuarkSelfAI.Storage.Ledger

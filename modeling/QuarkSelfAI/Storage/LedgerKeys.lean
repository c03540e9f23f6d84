import QuarkSelfAI.Foundation.Text
import QuarkSelfAI.Storage.LedgerApproval

/-!
# The idempotency keys of the audit rows

Every call that changes an action writes one audit row under a text built from
caller-chosen ids and fixed words. `AuditKey` names the five shapes of that text.
The last part of a text tells its shape and gives back its parts, except that a
decision runs its action id and its approval id together.
-/

namespace QuarkSelfAI.Storage

open Foundation

inductive AuditKey where
  | enqueue (actionId : String)
  | decision (actionId approvalId : String) (decision : ApprovalDecision)
  | claim (actionId : String) (attempt : Nat)
  | settle (actionId : String) (attempt : Nat)
  | release (actionId : String) (attempt : Nat) (disposition : Disposition)

namespace AuditKey

def text : AuditKey → String
  | .enqueue actionId => s!"{actionId}:enqueue"
  | .decision actionId approvalId made => s!"{actionId}:approval:{approvalId}:{made.text}"
  | .claim actionId attempt => s!"{actionId}:claim:{attempt}"
  | .settle actionId attempt => s!"{actionId}:settle:{attempt}"
  | .release actionId attempt disposition => s!"{actionId}:release:{attempt}:{disposition.text}"

/-- What stands before the last colon. -/
def stem : AuditKey → String
  | .enqueue actionId => actionId
  | .decision actionId approvalId _ => actionId ++ ":approval:" ++ approvalId
  | .claim actionId _ => actionId ++ (':'.toString ++ "claim")
  | .settle actionId _ => actionId ++ (':'.toString ++ "settle")
  | .release actionId attempt _ => actionId ++ (':'.toString ++ "release") ++ (':'.toString ++ attempt.repr)

/-- What stands behind the last colon. -/
def ending : AuditKey → String
  | .enqueue _ => "enqueue"
  | .decision _ _ made => made.text
  | .claim _ attempt => attempt.repr
  | .settle _ attempt => attempt.repr
  | .release _ _ disposition => disposition.text

theorem text_eq (key : AuditKey) : key.text = key.stem ++ (':'.toString ++ key.ending) := by
  cases key with
  | enqueue => simp [text, stem, ending, toString]
  | decision | claim | settle | release => simp [text, stem, ending, toString, ← String.toList_inj]

theorem not_mem_ending (key : AuditKey) : ':' ∉ key.ending.toList := by
  cases key with
  | enqueue => simp [ending]
  | decision _ _ made =>
    cases made with
    | approved | rejected => simp [ending, ApprovalDecision.text]
  | claim _ attempt | settle _ attempt => exact not_mem_decimal (by decide) attempt
  | release _ _ disposition =>
    cases disposition with
    | retry | failed => simp [ending, Disposition.text]

variable {left right : AuditKey}

theorem text_inj_iff : left.text = right.text ↔ left.stem = right.stem ∧ left.ending = right.ending := by
  rw [text_eq, text_eq]
  exact suffixed_inj left.not_mem_ending right.not_mem_ending

/-- A word that holds a letter is no decimal number. -/
theorem repr_ne_word {word : String} (lettered : word.toList.any (fun char => !char.isDigit) = true)
    (value : Nat) : value.repr ≠ word := by
  rintro rfl
  obtain ⟨char, listed, other⟩ := List.any_eq_true.mp lettered
  exact not_mem_decimal (by simpa using other) value listed

theorem repr_ne_decision (value : Nat) (made : ApprovalDecision) : value.repr ≠ made.text := by
  cases made with
  | approved | rejected => exact repr_ne_word (by decide) value

theorem repr_ne_disposition (value : Nat) (disposition : Disposition) : value.repr ≠ disposition.text := by
  cases disposition with
  | retry | failed => exact repr_ne_word (by decide) value

theorem decision_ne_disposition (made : ApprovalDecision) (disposition : Disposition) :
    made.text ≠ disposition.text := by
  cases made <;> cases disposition <;> decide

theorem decision_text_inj {left right : ApprovalDecision} : left.text = right.text ↔ left = right := by
  cases left <;> cases right <;> decide

theorem disposition_text_inj {left right : Disposition} : left.text = right.text ↔ left = right := by
  cases left <;> cases right <;> decide

/-- Equal texts come from one key, or from two decisions of one kind. -/
theorem eq_or_decisions (same : left.text = right.text) :
    left = right ∨ ∃ actionId approvalId otherAction otherApproval made, left = .decision actionId approvalId made ∧
        right = .decision otherAction otherApproval made := by
  obtain ⟨stem, ending⟩ := text_inj_iff.mp same
  have enqueueWord : ∀ value : Nat, value.repr ≠ "enqueue" := repr_ne_word (by decide)
  have enqueueDecision : ∀ made : ApprovalDecision, made.text ≠ "enqueue" := by
    intro made
    cases made <;> decide
  have enqueueDisposition : ∀ disposition : Disposition, disposition.text ≠ "enqueue" := by
    intro disposition
    cases disposition <;> decide
  have claimSettle : ∀ {actionId otherId : String},
      actionId ++ (':'.toString ++ "claim") ≠ otherId ++ (':'.toString ++ "settle") := by
    intro actionId otherId joined
    have words := ((suffixed_inj (by simp) (by simp)).mp joined).2
    revert words
    decide
  cases left with
  | enqueue actionId =>
    cases right with
    | enqueue otherId => exact .inl (congrArg _ stem)
    | decision => exact (enqueueDecision _ ending.symm).elim
    | claim | settle => exact (enqueueWord _ ending.symm).elim
    | release => exact (enqueueDisposition _ ending.symm).elim
  | decision actionId approvalId made =>
    cases right with
    | enqueue => exact (enqueueDecision _ ending).elim
    | decision otherAction otherApproval other =>
      obtain rfl := decision_text_inj.mp ending
      exact .inr ⟨_, _, _, _, _, rfl, rfl⟩
    | claim | settle => exact (repr_ne_decision _ _ ending.symm).elim
    | release => exact (decision_ne_disposition _ _ ending).elim
  | claim actionId attempt =>
    cases right with
    | enqueue => exact (enqueueWord _ ending).elim
    | decision => exact (repr_ne_decision _ _ ending).elim
    | claim otherId other =>
      obtain rfl := decimal_inj.mp ending
      obtain ⟨rfl, _⟩ := (suffixed_inj (by simp) (by simp)).mp stem
      exact .inl rfl
    | settle => exact (claimSettle stem).elim
    | release => exact (repr_ne_disposition _ _ ending).elim
  | settle actionId attempt =>
    cases right with
    | enqueue => exact (enqueueWord _ ending).elim
    | decision => exact (repr_ne_decision _ _ ending).elim
    | claim => exact (claimSettle stem.symm).elim
    | settle otherId other =>
      obtain rfl := decimal_inj.mp ending
      obtain ⟨rfl, _⟩ := (suffixed_inj (by simp) (by simp)).mp stem
      exact .inl rfl
    | release => exact (repr_ne_disposition _ _ ending).elim
  | release actionId attempt disposition =>
    cases right with
    | enqueue => exact (enqueueDisposition _ ending).elim
    | decision => exact (decision_ne_disposition _ _ ending.symm).elim
    | claim | settle => exact (repr_ne_disposition _ _ ending.symm).elim
    | release otherId other otherDisposition =>
      obtain rfl := disposition_text_inj.mp ending
      obtain ⟨ids, attempts⟩ := (suffixed_inj (not_mem_decimal (by decide) _)
        (not_mem_decimal (by decide) _)).mp stem
      obtain rfl := decimal_inj.mp attempts
      obtain ⟨rfl, _⟩ := (suffixed_inj (by simp) (by simp)).mp ids
      exact .inl rfl

/-- Only a decision shares its text with another key. -/
theorem eq_of_text (same : left.text = right.text)
    (plain : ∀ actionId approvalId made, right ≠ .decision actionId approvalId made) : left = right := by
  rcases eq_or_decisions same with equal | ⟨_, _, otherAction, otherApproval, made, _, decides⟩
  · exact equal
  · exact (plain otherAction otherApproval made decides).elim

end AuditKey

namespace Ledger

variable {Time : Type} {execution : ActionExecution Time}

/-! ## What a stored key tells -/

/-- The attempt is over: a later one began, or the execution no longer runs. -/
def Spent (attempt : Nat) (execution : ActionExecution Time) : Prop :=
  attempt < execution.attempt ∨ attempt = execution.attempt ∧ execution.status ≠ .executing

/-- What the other tables hold once an audit row is stored under a key. -/
def Recorded (ledger : Ledger Time) : AuditKey → Prop
  | .enqueue actionId => ∃ action, ledger.actions.find? actionId = some action
  | .decision actionId approvalId made => ∃ approval,
    ledger.approvals.find? approvalId = some approval ∧ approval.actionId = actionId ∧ approval.status = .decided made
  | .claim actionId attempt => ∃ execution,
    ledger.executions.find? actionId = some execution ∧ attempt ≤ execution.attempt
  | .settle actionId attempt => ∃ execution,
    ledger.executions.find? actionId = some execution ∧ Spent attempt execution
  | .release actionId attempt _ => ∃ execution,
    ledger.executions.find? actionId = some execution ∧ Spent attempt execution

/-- Every audit row stands under a key the other tables bear out, and every
decision has its audit row. -/
structure Keyed (ledger : Ledger Time) : Prop where
  recorded : ∀ row ∈ ledger.transitions, ∃ key : AuditKey, row.idempotencyKey = key.text ∧ ledger.Recorded key
  decided : ∀ {approvalId approval made}, ledger.approvals.find? approvalId = some approval →
    approval.status = .decided made → ∃ row ∈ ledger.transitions,
      row.idempotencyKey = (AuditKey.decision approval.actionId approvalId made).text

theorem keyed_empty : (empty : Ledger Time).Keyed where
  recorded row stored := (Table.not_mem_empty row stored).elim
  decided found := by cases found

section Effects

variable [LinearOrder Time] {call : LedgerCall Time} {reply : LedgerReply}
  {before after : Ledger Time}

/-- Actions are never deleted. -/
theorem Effect.keepsAction (effect : Effect before call reply after) {actionId : String}
    {action : ActionRecord} (found : before.actions.find? actionId = some action) :
    ∃ later, after.actions.find? actionId = some later := by
  have changed : ∀ {id change keeps}, after.actions = before.actions.update id change keeps →
      ∃ later, after.actions.find? actionId = some later := by
    intro id change keeps updated
    obtain ⟨later, stored, _⟩ := Table.find?_changed updated found
    exact ⟨later, stored⟩
  cases effect with
  | threw | replayed | redecided | idle => exact ⟨action, found⟩
  | enqueued _ actions => exact ⟨action, Table.find?_kept actions found⟩
  | decided _ _ _ actions | claimed _ _ _ _ actions | settled _ _ _ actions | released _ _ _ actions =>
    exact changed actions

/-- What may become of an execution: it runs an attempt again only if it ran. -/
def Advances (execution later : ActionExecution Time) : Prop :=
  execution.attempt ≤ later.attempt ∧ (later.attempt = execution.attempt → later.status = .executing →
      execution.status = .executing)

omit [LinearOrder Time] in
theorem Advances.refl (execution : ActionExecution Time) : Advances execution execution :=
  ⟨le_rfl, fun _ running => running⟩

omit [LinearOrder Time] in
theorem Spent.advances {attempt : Nat} {execution later : ActionExecution Time}
    (spent : Spent attempt execution) (advances : Advances execution later) : Spent attempt later := by
  obtain ⟨grown, same⟩ := advances
  rcases spent with earlier | ⟨rfl, stopped⟩
  · exact .inl (lt_of_lt_of_le earlier grown)
  · by_cases kept : execution.attempt = later.attempt
    · exact .inr ⟨kept, fun running => stopped (same kept.symm running)⟩
    · exact .inl (lt_of_le_of_ne grown kept)

/-- Executions are never deleted and only advance. -/
theorem Effect.keepsExecution (effect : Effect before call reply after) {actionId : String}
    (found : before.executions.find? actionId = some execution) :
    ∃ later, after.executions.find? actionId = some later ∧ Advances execution later := by
  have same : after.executions = before.executions →
      ∃ later, after.executions.find? actionId = some later ∧ Advances execution later :=
    fun kept => ⟨execution, kept ▸ found, .refl execution⟩
  have changed : ∀ {id change keeps}, after.executions = before.executions.update id change keeps →
      (id = actionId → Advances execution (change execution)) →
        ∃ later, after.executions.find? actionId = some later ∧ Advances execution later := by
    intro id change keeps updated advances
    obtain ⟨later, stored, rfl | ⟨selected, rfl⟩⟩ := Table.find?_changed updated found
    · exact ⟨_, stored, .refl _⟩
    · exact ⟨_, stored, advances selected.symm⟩
  cases effect with
  | threw | replayed | redecided | idle => exact same rfl
  | enqueued _ _ _ executions => exact ⟨execution, Table.find?_kept executions found, .refl execution⟩
  | @decided _ decision _ _ _ _ _ _ _ _ executions =>
    cases decision with
    | approved => exact same executions
    | rejected =>
      simp only [decidedExecutions] at executions
      exact changed executions fun _ => ⟨le_rfl, fun _ running => by cases running⟩
  | @claimed _ _ _ _ claimed _ _ stored _ _ _ _ _ executions =>
    refine changed executions ?_
    rintro rfl
    obtain rfl : claimed = execution := Option.some.inj (stored.symm.trans found)
    exact ⟨Nat.le_succ _, fun again => absurd again (Nat.succ_ne_self _)⟩
  | settled _ _ _ _ _ executions =>
    exact changed executions fun _ => ⟨le_rfl, fun _ running => (settledStatus_ne_executing _ running).elim⟩
  | released _ _ _ _ _ executions =>
    exact changed executions fun _ => ⟨le_rfl, fun _ running => (releasedStatus_ne_executing _ running).elim⟩

/-- No call takes back what a stored key tells. -/
theorem Recorded.effect {key : AuditKey} (recorded : before.Recorded key)
    (effect : Effect before call reply after) : after.Recorded key := by
  cases key with
  | enqueue actionId =>
    obtain ⟨action, found⟩ := recorded
    exact effect.keepsAction found
  | decision actionId approvalId made =>
    obtain ⟨approval, found, owned, decided⟩ := recorded
    exact ⟨approval, effect.keepsDecisions.kept found decided, owned, decided⟩
  | claim actionId attempt =>
    obtain ⟨execution, found, begun⟩ := recorded
    obtain ⟨later, stored, grown, _⟩ := effect.keepsExecution found
    exact ⟨later, stored, begun.trans grown⟩
  | settle | release =>
    obtain ⟨execution, found, spent⟩ := recorded
    obtain ⟨later, stored, advances⟩ := effect.keepsExecution found
    exact ⟨later, stored, spent.advances advances⟩

/-- A call that stores one audit row keeps the keys borne out. -/
theorem Keyed.write {row : ActionTransition Time} (keyed : before.Keyed) (effect : Effect before call reply after)
    (transitions : before.transitions.insert? row = some after.transitions) (key : AuditKey)
    (under : row.idempotencyKey = key.text) (recorded : after.Recorded key)
    (decides : ∀ {approvalId approval made}, Decides (call, reply) approvalId made →
      after.approvals.find? approvalId = some approval →
        key = .decision approval.actionId approvalId made) : after.Keyed where
  recorded := by
    intro other stored
    rcases (Table.mem_insert transitions).mp stored with old | rfl
    · obtain ⟨earlier, named, told⟩ := keyed.recorded other old
      exact ⟨earlier, named, told.effect effect⟩
    · exact ⟨key, under, recorded⟩
  decided := by
    intro approvalId approval made found decided
    rcases effect.keepsDecisions.made found decided with earlier | now
    · obtain ⟨other, old, named⟩ := keyed.decided earlier decided
      exact ⟨other, (Table.mem_insert transitions).mpr (.inl old), named⟩
    · exact ⟨row, (Table.mem_insert transitions).mpr (.inr rfl), decides now found ▸ under⟩

theorem Keyed.effect (keyed : before.Keyed) (effect : Effect before call reply after) : after.Keyed := by
  cases effect with
  | threw | redecided => exact keyed
  | replayed => exact ⟨keyed.recorded, keyed.decided⟩
  | @enqueued input clock _ gated actions approvals executions transitions =>
    exact keyed.write (.enqueued gated actions approvals executions transitions) transitions
      (.enqueue input.actionId) rfl ⟨actionRow input, Table.find?_new actions⟩ (by simp [Decides])
  | @decided approvalId decision metadata decidedAt approval _ found pending approvals actions
      executions transitions =>
    have answered := Table.find?_rewritten approvals found
    refine keyed.write (.decided found pending approvals actions executions transitions) transitions
      (.decision approval.actionId approvalId decision) rfl ⟨_, answered, rfl, rfl⟩ ?_
    rintro id other made ⟨_, _, entry⟩ stored
    cases entry
    rw [answered] at stored
    cases stored
    rfl
  | idle => exact keyed
  | @claimed workerId workspace now leaseExpiresAt execution action _ found record opened gated
      actions approvals executions transitions =>
    have claimed : Effect before (.claimNextAction workerId workspace now leaseExpiresAt)
        (.claimed (some (before.claimedAction execution action))) after :=
      .claimed found record opened gated actions approvals executions transitions
    exact keyed.write claimed transitions
      (.claim execution.actionId (execution.attempt + 1)) rfl
      ⟨_, Table.find?_rewritten executions found, le_rfl⟩ (by simp [Decides])
  | @settled actionId workerId result execution _ found running owned actions approvals executions
      transitions =>
    refine keyed.write (.settled found running owned actions approvals executions transitions)
      transitions (.settle actionId execution.attempt) rfl
      ⟨_, Table.find?_rewritten executions found,
        .inr ⟨rfl, settledStatus_ne_executing result.status⟩⟩ (by simp [Decides])
  | @released input clock execution _ found running owned actions approvals executions transitions =>
    refine keyed.write (.released found running owned actions approvals executions transitions)
      transitions (.release input.actionId execution.attempt input.disposition) rfl
      ⟨_, Table.find?_rewritten executions found,
        .inr ⟨rfl, releasedStatus_ne_executing input.disposition⟩⟩ (by simp [Decides])

end Effects

theorem Run.keyed [LinearOrder Time] {history : List (LedgerCall Time × LedgerReply)}
    {ledger : Ledger Time} (run : Run history ledger) : ledger.Keyed :=
  Run.induct (motive := fun _ ledger => ledger.Keyed) keyed_empty
    (fun _ keyed effect => keyed.effect effect) run

/-! ## What a call sets out to write -/

/-- The audit row a call inserts once its own checks have passed. -/
inductive Writing [LinearOrder Time] (ledger : Ledger Time) : LedgerCall Time → ActionTransition Time → Prop where
  | enqueue {input clock approvals} (gated : input.request.mode = .readOnly ∨ input.approval.isSome)
      (fresh : ledger.actions.find? input.actionId = none)
      (unexecuted : ledger.executions.find? input.actionId = none)
      (approved : insertApproval input ledger.approvals = .ok approvals) :
      Writing ledger (.enqueueAction input clock) (enqueueRow input)
  | decide {approvalId decision metadata decidedAt approval}
      (found : ledger.approvals.find? approvalId = some approval)
      (pending : approval.status = .pending) :
      Writing ledger (.decideApproval approvalId decision metadata decidedAt)
        (decisionRow approval.actionId approvalId decision metadata)
  | claim {workerId workspace now leaseExpiresAt execution action}
      (selected : ledger.claimCandidate workspace now = some (execution, action)) :
      Writing ledger (.claimNextAction workerId workspace now leaseExpiresAt)
        (claimRow execution action workerId leaseExpiresAt)
  | settle {actionId workerId result execution}
      (owned : ledger.ownedExecution actionId workerId = some execution) :
      Writing ledger (.settleAction actionId workerId result)
        (settleRow actionId workerId result execution.attempt)
  | release {input clock execution}
      (owned : ledger.ownedExecution input.actionId input.workerId = some execution) :
      Writing ledger (.releaseActionClaim input clock) (releaseRow input execution.attempt)

section Writes

variable [LinearOrder Time] {call : LedgerCall Time} {row : ActionTransition Time}
  {ledger : Ledger Time}

end Writes

/-! ## When the key is free -/

/-- A decision whose action id and approval id run together to the same text as
those of an approval already decided that way. -/
def Shadowed (ledger : Ledger Time) : LedgerCall Time → Prop
  | .decideApproval approvalId decision _ _ => ∃ approval,
    ledger.approvals.find? approvalId = some approval ∧ ∃ other ∈ ledger.approvals, other.status = .decided decision ∧
        s!"{other.actionId}:approval:{other.id}" = s!"{approval.actionId}:approval:{approvalId}"
  | _ => False

theorem decision_text_iff {actionId approvalId otherAction otherApproval : String} {made : ApprovalDecision} :
    (AuditKey.decision actionId approvalId made).text = (AuditKey.decision otherAction otherApproval made).text ↔
      s!"{actionId}:approval:{approvalId}" = s!"{otherAction}:approval:{otherApproval}" := by
  rw [AuditKey.text_inj_iff]
  exact and_iff_left rfl

variable [LinearOrder Time] {call : LedgerCall Time} {row : ActionTransition Time}
  {ledger : Ledger Time} {history : List (LedgerCall Time × LedgerReply)}

omit [LinearOrder Time] in
theorem Spent.not_running (running : execution.status = .executing) : ¬ Spent execution.attempt execution := by
  rintro (later | ⟨_, stopped⟩)
  · exact lt_irrefl _ later
  · exact stopped running

omit [LinearOrder Time] in
/-- The holder of an action has not written the audit row that ends its attempt. -/
theorem ownedExecution_unspent {actionId workerId : String} {execution spent : ActionExecution Time}
    (owned : ledger.ownedExecution actionId workerId = some execution)
    (found : ledger.executions.find? actionId = some spent) : ¬ Spent execution.attempt spent := by
  obtain ⟨stored, running, _⟩ := ownedExecution_eq_some.mp owned
  obtain rfl : execution = spent := Option.some.inj (stored.symm.trans found)
  exact Spent.not_running running

/-- Only the key of a decision can be taken when a call's checks have passed. -/
theorem Writing.shadowed (writing : Writing ledger call row) (keyed : ledger.Keyed)
    {stored : ActionTransition Time} (listed : stored ∈ ledger.transitions)
    (same : stored.idempotencyKey = row.idempotencyKey) : ledger.Shadowed call := by
  obtain ⟨key, named, recorded⟩ := keyed.recorded stored listed
  have shared : key.text = row.idempotencyKey := named.symm.trans same
  cases writing with
  | @enqueue input _ _ _ fresh =>
    have equal : key = .enqueue input.actionId := AuditKey.eq_of_text shared (by simp)
    subst equal
    obtain ⟨action, found⟩ := recorded
    rw [fresh] at found
    cases found
  | @decide approvalId decision _ _ approval found =>
    have joined : key.text = (AuditKey.decision approval.actionId approvalId decision).text := shared
    obtain ⟨actionId, otherId, made, rfl⟩ : ∃ actionId otherId made, key = .decision actionId otherId made := by
      rcases AuditKey.eq_or_decisions joined with rfl | ⟨_, _, _, _, _, rfl, _⟩
      · exact ⟨_, _, _, rfl⟩
      · exact ⟨_, _, _, rfl⟩
    obtain rfl : made = decision := AuditKey.decision_text_inj.mp (AuditKey.text_inj_iff.mp joined).2
    obtain ⟨other, earlier, rfl, decided⟩ := recorded
    obtain rfl : other.id = otherId := Table.find?_key earlier
    exact ⟨approval, found, other, Table.find?_mem earlier, decided, decision_text_iff.mp joined⟩
  | @claim _ _ _ _ execution _ selected =>
    have equal : key = .claim execution.actionId (execution.attempt + 1) := AuditKey.eq_of_text shared (by simp)
    subst equal
    obtain ⟨claimed, found, begun⟩ := recorded
    obtain rfl : execution = claimed := Option.some.inj ((claimCandidate_spec selected).1.symm.trans found)
    exact absurd begun (Nat.not_succ_le_self _)
  | @settle actionId _ _ execution owned =>
    have equal : key = .settle actionId execution.attempt := AuditKey.eq_of_text shared (by simp)
    subst equal
    obtain ⟨spent, found, past⟩ := recorded
    exact (ownedExecution_unspent owned found past).elim
  | @release input _ execution owned =>
    have equal : key = .release input.actionId execution.attempt input.disposition :=
      AuditKey.eq_of_text shared (by simp)
    subst equal
    obtain ⟨spent, found, past⟩ := recorded
    exact (ownedExecution_unspent owned found past).elim

/-- In every reachable ledger, the audit row of a call whose own checks pass gets a
new key exactly when no approval of another action was decided under the same text. -/
theorem run_key_free_iff (run : Run history ledger) (writing : Writing ledger call row) :
    (∀ stored ∈ ledger.transitions, stored.idempotencyKey ≠ row.idempotencyKey) ↔ ¬ ledger.Shadowed call := by
  constructor
  · intro free shadowed
    cases writing with
    | @decide approvalId decision _ _ approval found =>
      obtain ⟨_, again, other, stored, decided, joined⟩ := shadowed
      obtain rfl := Option.some.inj (found.symm.trans again)
      obtain ⟨earlier, listed, named⟩ := run.keyed.decided (Table.find?_self stored) decided
      exact free earlier listed (named.trans (decision_text_iff.mpr joined))
    | _ => exact shadowed
  · intro clear stored listed same
    exact clear (writing.shadowed run.keyed listed same)

/-- Two drafts whose ids hold colons. -/
def draftsWithColons : List (LedgerCall String) :=
  [.enqueueAction { draftReply with actionId := "x", approval := some ⟨"y:approval:z", "Send?"⟩ }
      "2026-01-01",
    .enqueueAction { draftReply with actionId := "x:approval:y", approval := some ⟨"z", "Send?"⟩ }
      "2026-01-01"]

/-- The approval of the first draft. -/
def firstDecision : LedgerCall String := .decideApproval "y:approval:z" .approved "{}" "2026-01-02"

/-- While nothing is decided, the key of the first decision is free. -/
theorem firstDecision_key_free : ¬ ∃ stored ∈ ((machine String).replay draftsWithColons empty).2.transitions,
      stored.idempotencyKey = "x:approval:y:approval:z:approved" := by
  have undecided : ∀ other ∈ ((machine String).replay draftsWithColons empty).2.approvals.rows,
      other.status = .pending := by decide
  obtain ⟨approval, found, pending, owned⟩ : ∃ approval,
      ((machine String).replay draftsWithColons empty).2.approvals.find? "y:approval:z" =
        some approval ∧ approval.status = .pending ∧ approval.actionId = "x" :=
    ⟨_, rfl, rfl, rfl⟩
  have writing : Writing ((machine String).replay draftsWithColons empty).2 firstDecision
      (decisionRow approval.actionId "y:approval:z" .approved "{}") := .decide found pending
  rw [owned] at writing
  have free := (run_key_free_iff ((machine String).replay_run draftsWithColons) writing).mpr (by
    rintro ⟨_, _, other, stored, decided, _⟩
    rw [undecided other stored] at decided
    cases decided)
  rintro ⟨stored, listed, taken⟩
  exact free stored listed taken

/-- Once the first draft is approved, the approval of the second throws for ever. -/
theorem secondDecision_key_taken : ∃ (history : List (LedgerCall String × LedgerReply)) (ledger : Ledger String)
      (call : LedgerCall String) (row : ActionTransition String),
      Run history ledger ∧ Writing ledger call row ∧
        (∃ stored ∈ ledger.transitions, stored.idempotencyKey = row.idempotencyKey) ∧
        ledger.perform call = (.threw "UNIQUE constraint failed: action_transition.idempotency_key", ledger) := by
  refine ⟨_, _, .decideApproval "z" .approved "{}" "2026-01-03", _,
    (machine String).replay_run (draftsWithColons ++ [firstDecision]), .decide rfl rfl, ?_, by decide⟩
  exact ⟨decisionRow "x" "y:approval:z" .approved "{}", Table.mem_rows.mp (by decide), by decide⟩

end Ledger

end QuarkSelfAI.Storage

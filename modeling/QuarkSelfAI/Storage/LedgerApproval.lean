import QuarkSelfAI.Storage.LedgerInvariant

/-!
# Approval safety of the action ledger

`terms` is what an action was stored with: its approval reference and its
request. Only the call that creates the action sets it, and a decided approval
row is never written again, so a trace and the ledger it reaches tell the same
story (`Traced`) and every claim can be traced back to the decision that allowed it.
-/

namespace QuarkSelfAI.Storage.Ledger

open Foundation

variable {Time : Type}

/-- What an action was created with: its approval reference and its request. -/
def terms (ledger : Ledger Time) (actionId : String) : Option (Option String) × Option ExecutorRequest :=
  ((ledger.actions.find? actionId).map (·.approvalId), (ledger.executions.find? actionId).map (·.request))

/-- The call that created an action. -/
def Creates (entry : LedgerCall Time × LedgerReply) (input : DurableActionInput) : Prop :=
  ∃ clock, entry = (.enqueueAction input clock, .enqueued true)

/-- The calls that decided an approval, or repeated its decision. -/
def Decides (entry : LedgerCall Time × LedgerReply) (approvalId : String) (decision : ApprovalDecision) : Prop :=
  ∃ metadata decidedAt, entry = (.decideApproval approvalId decision metadata decidedAt, .decided)

/-- The calls that handed an action to a worker. -/
def Claims (entry : LedgerCall Time × LedgerReply) (action : ClaimedAction) : Prop :=
  ∃ workerId workspace now leaseExpiresAt,
    entry = (.claimNextAction workerId workspace now leaseExpiresAt, .claimed (some action))

variable [LinearOrder Time] {call : LedgerCall Time} {reply : LedgerReply}
  {before after ledger : Ledger Time} {history : List (LedgerCall Time × LedgerReply)}
  {entry : LedgerCall Time × LedgerReply}

section Effects

omit [LinearOrder Time] in
/-- A decision keeps every request. -/
theorem decidedExecutions_request {decision : ApprovalDecision} {actionId : String}
    (executions : after.executions = decidedExecutions decision actionId before.executions) (id : String) :
    (after.executions.find? id).map (·.request) = (before.executions.find? id).map (·.request) := by
  cases decision with
  | approved => rw [executions, decidedExecutions]
  | rejected =>
    simp only [decidedExecutions] at executions
    exact Table.map_find?_updated executions (fun _ => rfl) id

/-- Only a creating call changes what an action was created with. -/
theorem Effect.terms (effect : Effect before call reply after) :
    ((∀ input, ¬ Creates (call, reply) input) ∧ ∀ id, after.terms id = before.terms id) ∨
      ∃ input, Creates (call, reply) input ∧ before.actions.find? input.actionId = none ∧
        (input.request.mode = .readOnly ∨ input.approval.isSome) ∧
        ∀ id, after.terms id = if id = input.actionId then
          (some (input.approval.map (·.id)), some (requestOf input)) else before.terms id := by
  cases effect with
  | threw | replayed | redecided | idle => exact .inl ⟨by simp [Creates], fun _ => rfl⟩
  | @enqueued input clock _ gated actions _ executions _ =>
    refine .inr ⟨input, ⟨clock, rfl⟩, Table.find?_fresh actions, gated, fun id => ?_⟩
    simp only [Ledger.terms, Table.find?_inserted actions, Table.find?_inserted executions]
    by_cases same : id = input.actionId
    all_goals simp [same, actionRow, executionRow]
  | decided _ _ _ actions executions _ =>
    exact .inl ⟨by simp [Creates], fun id => congrArg₂ Prod.mk
      (Table.map_find?_updated actions (fun _ => rfl) id)
      (decidedExecutions_request executions id)⟩
  | claimed _ _ _ _ actions _ executions _ | settled _ _ _ actions _ executions _
  | released _ _ _ actions _ executions _ =>
    exact .inl ⟨by simp [Creates], fun id => congrArg₂ Prod.mk
      (Table.map_find?_updated actions (fun _ => rfl) id)
      (Table.map_find?_updated executions (fun _ => rfl) id)⟩

/-- How an effect treats the approval rows: decided rows are kept as they are,
and a row is decided by a decision of its id only. -/
structure KeepsDecisions (before after : Ledger Time) (entry : LedgerCall Time × LedgerReply) : Prop where
  kept : ∀ {id approval decision}, before.approvals.find? id = some approval →
    approval.status = .decided decision → after.approvals.find? id = some approval
  made : ∀ {id approval decision}, after.approvals.find? id = some approval → approval.status = .decided decision →
      before.approvals.find? id = some approval ∨ Decides entry id decision
  done : ∀ {id decision}, Decides entry id decision →
    ∃ approval, after.approvals.find? id = some approval ∧ approval.status = .decided decision

omit [LinearOrder Time] in
/-- A call that is no decision and writes no approval row keeps them all. -/
theorem KeepsDecisions.same (approvals : after.approvals = before.approvals)
    (undecided : ∀ id decision, ¬ Decides entry id decision) : KeepsDecisions before after entry where
  kept found _ := by rwa [approvals]
  made found _ := .inl (by rwa [← approvals])
  done decides := (undecided _ _ decides).elim

theorem Effect.keepsDecisions (effect : Effect before call reply after) :
    KeepsDecisions before after (call, reply) := by
  cases effect with
  | threw | replayed | idle => exact .same rfl (by simp [Decides])
  | enqueued _ _ approvals _ _ =>
    split at approvals
    · exact .same approvals (by simp [Decides])
    · rename_i prompt _
      refine { kept := ?_, made := ?_, done := by simp [Decides] }
      · intro id approval decision found _
        rw [Table.find?_inserted approvals]
        split
        · rename_i same
          rw [same, Table.find?_fresh approvals] at found
          cases found
        · exact found
      · intro id approval decision found decided
        rw [Table.find?_inserted approvals] at found
        split at found
        · cases found
          cases decided
        · exact .inl found
  | redecided found same =>
    refine { kept := fun stored _ => stored, made := fun stored _ => .inl stored, done := ?_ }
    rintro id decision ⟨metadata, decidedAt, entry⟩
    cases entry
    exact ⟨_, found, same⟩
  | @decided approvalId decision metadata decidedAt approval _ found pending approvals _ _ _ =>
    have answered : after.approvals.find? approvalId = some { approval with
        status := .decided decision, decision := some metadata, decidedAt := some decidedAt } := by
      rw [approvals, Table.find?_update_self, found, Option.map_some]
    refine { kept := ?_, made := ?_, done := ?_ }
    · intro id other earlier stored decided
      rw [approvals, Table.find?_update]
      split
      · rename_i same
        subst same
        rw [found] at stored
        cases stored
        rw [pending] at decided
        cases decided
      · exact stored
    · intro id other later stored decided
      by_cases same : id = approvalId
      · subst same
        rw [answered] at stored
        cases stored
        cases decided
        exact .inr ⟨metadata, decidedAt, rfl⟩
      · rw [approvals, Table.find?_update_of_ne same] at stored
        exact .inl stored
    · rintro id later ⟨_, _, entry⟩
      cases entry
      exact ⟨_, answered, rfl⟩
  | claimed _ _ _ _ _ approvals _ _ | settled _ _ _ _ approvals _ _ | released _ _ _ _ approvals _ _ =>
    exact .same approvals (by simp [Decides])

/-- What a claim saw: the action's own terms, and its approval granted if it has one. -/
theorem Effect.claims {action : ClaimedAction} (effect : Effect before call reply after)
    (claims : Claims (call, reply) action) :
    ∃ reference, before.terms action.actionId = (some reference, some action.request) ∧
      ∀ approvalId, reference = some approvalId → action.approvalGranted = true ∧
        ∃ approval, before.approvals.find? approvalId = some approval ∧
          approval.actionId = action.actionId ∧ approval.status = .decided .approved := by
  obtain ⟨workerId, workspace, now, leaseExpiresAt, entry⟩ := claims
  cases entry
  cases effect with
  | @claimed _ _ _ _ execution record _ found recorded _ gated _ _ _ _ =>
    refine ⟨record.approvalId, by simp [Ledger.terms, claimedAction, found, recorded], ?_⟩
    intro approvalId referenced
    have granted : before.approvalExists record := by
      rcases gated with unasked | granted
      · rw [unasked] at referenced
        cases referenced
      · exact granted
    refine ⟨granted, ?_⟩
    have named : record.id = execution.actionId := Table.find?_key recorded
    unfold approvalExists at granted
    simp only [referenced] at granted
    split at granted
    · cases granted
    · rename_i approval stored
      obtain ⟨owned, approved⟩ : approval.actionId = record.id ∧ approval.status = .decided .approved := by
        simpa using granted
      exact ⟨approval, stored, owned.trans named, approved⟩

end Effects

/-- A trace and the ledger it reaches tell the same story. -/
structure Traced (history : List (LedgerCall Time × LedgerReply)) (ledger : Ledger Time) : Prop where
  created : ∀ {entry input}, entry ∈ history → Creates entry input →
    ledger.terms input.actionId = (some (input.approval.map (·.id)), some (requestOf input))
  origin : ∀ {id reference request}, ledger.terms id = (some reference, some request) →
    ∃ entry ∈ history, ∃ input, Creates entry input ∧ input.actionId = id ∧
      (input.request.mode = .readOnly ∨ input.approval.isSome) ∧
      reference = input.approval.map (·.id) ∧ request = requestOf input
  decided : ∀ {entry id decision}, entry ∈ history → Decides entry id decision →
    ∃ approval, ledger.approvals.find? id = some approval ∧ approval.status = .decided decision
  grounded : ∀ {id approval decision}, ledger.approvals.find? id = some approval →
    approval.status = .decided decision → ∃ entry ∈ history, Decides entry id decision

theorem Traced.effect (traced : Traced history before) (effect : Effect before call reply after) :
    Traced (history ++ [(call, reply)]) after := by
  have decisions := effect.keepsDecisions
  refine { created := ?_, origin := ?_, decided := ?_, grounded := ?_ }
  · intro entry input listed creates
    rcases List.mem_append.mp listed with earlier | last
    · have stored := traced.created earlier creates
      rcases effect.terms with ⟨_, same⟩ | ⟨other, _, fresh, _, written⟩
      · rw [same, stored]
      · -- A stored action is never created again.
        have different : input.actionId ≠ other.actionId := by
          intro same
          rw [← same] at fresh
          simp [terms, fresh] at stored
        rw [written, if_neg different, stored]
    · cases List.mem_singleton.mp last
      rcases effect.terms with ⟨uncreated, _⟩ | ⟨other, created, _, _, written⟩
      · exact (uncreated input creates).elim
      · obtain ⟨clock, entry⟩ := creates
        obtain ⟨_, again⟩ := created
        cases entry
        cases again
        rw [written, if_pos rfl]
  · intro id reference request stored
    have keep : ∀ {entry}, entry ∈ history → entry ∈ history ++ [(call, reply)] := List.mem_append_left _
    rcases effect.terms with ⟨_, same⟩ | ⟨input, creates, _, gated, written⟩
    · rw [same] at stored
      obtain ⟨entry, listed, origin⟩ := traced.origin stored
      exact ⟨entry, keep listed, origin⟩
    · rw [written] at stored
      split at stored
      · rename_i same
        cases stored
        exact ⟨_, List.mem_append_right _ (List.mem_singleton_self _), input, creates, same.symm, gated, rfl, rfl⟩
      · obtain ⟨entry, listed, origin⟩ := traced.origin stored
        exact ⟨entry, keep listed, origin⟩
  · intro entry id decision listed decides
    rcases List.mem_append.mp listed with earlier | last
    · obtain ⟨approval, found, decided⟩ := traced.decided earlier decides
      exact ⟨approval, decisions.kept found decided, decided⟩
    · cases List.mem_singleton.mp last
      exact decisions.done decides
  · intro id approval decision found decided
    rcases decisions.made found decided with stored | decides
    · obtain ⟨entry, listed, decides⟩ := traced.grounded stored decided
      exact ⟨entry, List.mem_append_left _ listed, decides⟩
    · exact ⟨_, List.mem_append_right _ (List.mem_singleton_self _), decides⟩

theorem Run.traced (run : Run history ledger) : Traced history ledger := by
  refine Run.induct (motive := Traced) ?_ (fun _ traced effect => traced.effect effect) run
  exact
    { created := fun listed => (List.not_mem_nil listed).elim
      origin := fun stored => by cases stored
      decided := fun listed => (List.not_mem_nil listed).elim
      grounded := fun found => by cases found }

/-- Two decisions of one approval agree. -/
theorem Run.decisions_agree (run : Run history ledger) {first second : LedgerCall Time × LedgerReply}
    {approvalId : String} {one other : ApprovalDecision} (earlier : first ∈ history) (later : second ∈ history)
    (decidedOne : Decides first approvalId one) (decidedOther : Decides second approvalId other) :
    one = other := by
  obtain ⟨approval, found, decided⟩ := run.traced.decided earlier decidedOne
  obtain ⟨again, refound, redecided⟩ := run.traced.decided later decidedOther
  rw [found] at refound
  cases refound
  rw [decided] at redecided
  cases redecided
  rfl

/-- The call that created a claimed action, and the decision that let it be claimed. -/
structure Authorized (before history : List (LedgerCall Time × LedgerReply))
    (action : ClaimedAction) (input : DurableActionInput) : Prop where
  created : ∃ entry ∈ before, Creates entry input
  named : input.actionId = action.actionId
  requested : action.request = requestOf input
  asked : action.request.mode ≠ .readOnly → input.approval.isSome
  granted : ∀ approval, input.approval = some approval → action.approvalGranted = true ∧
    (∃ entry ∈ before, Decides entry approval.id .approved) ∧
    ∀ entry ∈ history, ¬ Decides entry approval.id .rejected

/-- What the ledger promises about approvals. -/
structure ApprovalSafe (history : List (LedgerCall Time × LedgerReply)) (ledger : Ledger Time) : Prop where
  /-- A claimed action was created before, and if it was created with an approval,
  exactly that approval was granted before the claim and never refused. -/
  claimed : ∀ {before entry after action}, history = before ++ entry :: after →
    Claims entry action → ∃ input, Authorized before history action input
  /-- An action is created once. -/
  once : ∀ {before second after first one other}, history = before ++ second :: after →
    first ∈ before → Creates first one → Creates second other → one.actionId ≠ other.actionId
  /-- An action whose approval is refused is never handed out. -/
  refused : ∀ {created decided claimed input approval action}, created ∈ history →
    decided ∈ history → claimed ∈ history → Creates created input →
    input.approval = some approval → Decides decided approval.id .rejected →
    Claims claimed action → action.actionId ≠ input.actionId
  /-- A decision is final. -/
  final : ∀ {first second approvalId one other}, first ∈ history → second ∈ history →
    Decides first approvalId one → Decides second approvalId other → one = other
  /-- A decided approval keeps its decision in every later ledger. -/
  standing : ∀ {entry approvalId decision}, entry ∈ history → Decides entry approvalId decision →
    ∃ approval, ledger.approvals.find? approvalId = some approval ∧ approval.status = .decided decision

/-- The call and the decision behind a claimed action. -/
theorem Run.authorized {before after : List (LedgerCall Time × LedgerReply)} {action : ClaimedAction}
    (run : Run (before ++ entry :: after) ledger) (claims : Claims entry action) :
    ∃ input, Authorized before (before ++ entry :: after) action input := by
  obtain ⟨state, next, prior, transition, _⟩ := TransitionSystem.Run.cut run
  have traced := Run.traced prior
  obtain ⟨reference, stored, granted⟩ := (step_effect transition).claims claims
  obtain ⟨creating, listed, input, creates, named, gated, rfl, requested⟩ := traced.origin stored
  refine ⟨input, ⟨⟨creating, listed, creates⟩, named, requested, ?_, ?_⟩⟩
  · intro writes
    rcases gated with reads | asked
    · exact (writes (by rw [requested]; exact reads)).elim
    · exact asked
  · intro approval asked
    obtain ⟨flag, row, found, _, approved⟩ := granted approval.id (by simp [asked])
    obtain ⟨deciding, earlier, decides⟩ := traced.grounded found approved
    refine ⟨flag, ⟨deciding, earlier, decides⟩, fun other recorded refused => ?_⟩
    have agree := run.decisions_agree (List.mem_append_left _ earlier) recorded decides refused
    cases agree

/-- Every run of the ledger is safe: nothing that needs an approval is handed out
without that approval, granted for good. -/
theorem run_approval_safe (run : Run history ledger) : ApprovalSafe history ledger := by
  refine
    { claimed := ?_, once := ?_, refused := ?_, final := run.decisions_agree
      standing := run.traced.decided }
  · rintro before entry after action rfl claims
    exact run.authorized claims
  · rintro before second after first one other rfl listed created creates same
    obtain ⟨state, next, prior, transition, _⟩ := TransitionSystem.Run.cut run
    have stored := (Run.traced prior).created listed created
    rcases (step_effect transition).terms with ⟨uncreated, _⟩ | ⟨input, again, fresh, _⟩
    · exact uncreated other creates
    · obtain ⟨clock, entry⟩ := creates
      obtain ⟨_, entry'⟩ := again
      cases entry
      cases entry'
      simp [terms, same, fresh] at stored
  · intro created decided claimed input approval action inHistory recorded listed creates asked
      refuses claims same
    obtain ⟨before, after, rfl⟩ := List.append_of_mem listed
    obtain ⟨origin, ⟨creating, earlier, made⟩, named, _, _, granted⟩ := run.authorized claims
    -- The claimed action and the refused one were created by the same call.
    have stored := run.traced.created inHistory creates
    have again := run.traced.created (List.mem_append_left _ earlier) made
    rw [named, same, stored] at again
    obtain ⟨prompt, asked', named'⟩ : ∃ prompt, origin.approval = some prompt ∧ prompt.id = approval.id := by
      simpa [asked, eq_comm] using congrArg Prod.fst again
    exact (granted prompt asked').2.2 decided recorded (named' ▸ refuses)

/-- The worker that takes the approved draft over is allowed to. -/
theorem takeover_approval_safe : ((machine String).replay takeover empty).1.map (·.2) = [.enqueued true, .decided,
          .claimed (some ⟨"action:1", requestOf draftReply, none, true, 1⟩),
          .claimed (some ⟨"action:1", requestOf draftReply, none, true, 2⟩),
          .threw "worker worker:1 does not own action action:1", .released] ∧
      ApprovalSafe ((machine String).replay takeover empty).1
        ((machine String).replay takeover empty).2 :=
  ⟨by decide, run_approval_safe ((machine String).replay_run takeover)⟩

end QuarkSelfAI.Storage.Ledger

import QuarkSelfAI.Collaboration.Workflow
import QuarkSelfAI.Workflow.Reports

/-!
# The outcome of a policy approval

The owner decides once, and the decision is carried out by one effect. The failure of any
effect ends the approval, so that the outcome is the one of the decision only as long as
the failure that is reported after a decision is the decision's own.
-/

namespace QuarkSelfAI.Collaboration

open Foundation Storage Workflow

variable {host : Host} {state : ApprovalState} {event : Event} {progress : Progress ApprovalState}

/-! ## What an event does to an approval -/

/-- The decision that an event gives. -/
def decisionOf (event : Event) : PolicyDecision := if event.type = "approval.approved" then .approve else .decline

/-- The state in which a decision is carried out. -/
def decided (state : ApprovalState) (event : Event) : ApprovalState :=
  { state with phase := .applying, sequence := state.sequence + 1, decision := some (decisionOf event) }

/-- The effect that carries out a decision. -/
def decisionOn (host : Host) (state : ApprovalState) (event : Event) : EffectInput :=
  { id := host.stable "collaboration-policy-decision"
      [state.policyId, toString state.revision, (decisionOf event).text]
    kind := applyDecision, availableAt := some event.occurredAt
    payload := .object ([("policyId", .string state.policyId), ("revision", .number state.revision),
      ("decision", .string (decisionOf event).text), ("decidedAt", .string (toISOString event.occurredAt))] ++
        JsValue.whenSome "response" state.response .string) }

/-- The branches of `ApprovalState.reduce`. -/
inductive ApprovalStep (host : Host) (state : ApprovalState) (event : Event) :
    WorkflowDecision ApprovalState → Prop where
  | responded (response : Option String) (type : event.type = "approval.response")
      (phase : state.phase = .awaitingApproval) :
      ApprovalStep host state event (.keep .waiting { state with response := response.or state.response })
  | decided (type : event.type = "approval.approved" ∨ event.type = "approval.declined")
      (phase : state.phase = .awaitingApproval)
      (own : event.payload.get "approvalId" = .string state.approvalId) :
      ApprovalStep host state event
        { status := .waiting, state := decided state event, wakeAt := none
          effects := [decisionOn host state event] }
  | applied (type : event.type = "effect.delivered") (phase : state.phase = .applying)
      (kind : event.payload.get "effectKind" = .string applyDecision) :
      ApprovalStep host state event (.keep .completed { state with phase := .completed })
  | failed (type : event.type = "effect.failed")
      (phase : state.phase = .awaitingApproval ∨ state.phase = .applying) :
      ApprovalStep host state event (.keep .failed { state with phase := .failed })
  | kept (unapplied : event.type = "effect.delivered" → state.phase = .applying →
        event.payload.get "effectKind" ≠ .string applyDecision)
      (unfailed : event.type = "effect.failed" → state.phase = .completed ∨ state.phase = .failed) :
      ApprovalStep host state event (.keep state.status state)

theorem approval_step {decision : WorkflowDecision ApprovalState}
    (reduced : state.reduce host event = .ok decision) : ApprovalStep host state event decision := by
  unfold ApprovalState.reduce at reduced
  rcases ite_eq_iff.mp reduced with ⟨⟨type, phase⟩, reduced⟩ | ⟨-, reduced⟩
  · unfold ApprovalState.onResponse at reduced
    dsimp only [bind, Except.bind, pure, Except.pure] at reduced
    repeat' split at reduced
    all_goals first
      | cases reduced
        exact .responded _ type phase
      | cases reduced
  rcases ite_eq_iff.mp reduced with ⟨⟨type, phase⟩, reduced⟩ | ⟨-, reduced⟩
  · unfold ApprovalState.onDecided at reduced
    by_cases own : event.payload.get "approvalId" = .string state.approvalId
    · simp only [own, ne_eq, not_true_eq_false, if_false] at reduced
      cases reduced
      exact .decided type phase own
    · simp only [own, ne_eq, not_false_eq_true, if_true] at reduced
      cases reduced
  rcases ite_eq_iff.mp reduced with ⟨⟨type, phase, kind⟩, reduced⟩ | ⟨unapplied, reduced⟩
  · cases reduced
    exact .applied type phase kind
  rcases ite_eq_iff.mp reduced with ⟨⟨type, phase⟩, reduced⟩ | ⟨unfailed, reduced⟩
  · cases reduced
    exact .failed type phase
  · cases reduced
    refine .kept (fun type phase kind => unapplied ⟨type, phase, kind⟩) fun type => ?_
    cases phase : state.phase with
    | awaitingApproval => exact absurd ⟨type, .inl phase⟩ unfailed
    | applying => exact absurd ⟨type, .inr phase⟩ unfailed
    | completed => exact .inl rfl
    | failed => exact .inr rfl

/-! ## The outcome -/

/-- An approval whose outcome is the one of its decision. -/
structure Agreed (progress : Progress ApprovalState) : Prop where
  approved : ∀ effect ∈ progress.effects, effect.kind = applyDecision →
    effect.payload.get "decision" = .string "approve" → ∃ entry ∈ progress.applied, entry.2.type = "approval.approved" ∧
        entry.2.payload.get "approvalId" = .string progress.state.approvalId
  single : (progress.effects.filter (·.kind = applyDecision)).length ≤ 1
  failed : progress.status = .failed → ∀ effect ∈ progress.effects, effect.kind = applyDecision →
    progress.reported "effect.delivered" effect = false

/-- The condition on one event: outcomes are the first ones of effects that were asked for,
and a failure reported while a decision is carried out is the decision's. -/
structure OwnFailure (progress : Progress ApprovalState) (event : Event) : Prop where
  answers : Answers progress event
  own : progress.state.phase = .applying → event.type = "effect.failed" → effectKind event = some applyDecision

instance (progress : Progress ApprovalState) (event : Event) : Decidable (OwnFailure progress event) :=
  decidable_of_iff (Answers progress event ∧ (progress.state.phase = .applying →
    event.type = "effect.failed" → effectKind event = some applyDecision))
    ⟨fun ⟨answers, own⟩ => ⟨answers, own⟩, fun ⟨answers, own⟩ => ⟨answers, own⟩⟩

/-- What holds of an approval on its way. -/
structure Deciding (progress : Progress ApprovalState) : Prop where
  approved : ∀ effect ∈ progress.effects, effect.kind = applyDecision →
    effect.payload.get "decision" = .string "approve" → ∃ entry ∈ progress.applied, entry.2.type = "approval.approved" ∧
        entry.2.payload.get "approvalId" = .string progress.state.approvalId
  undecided : progress.state.phase = .awaitingApproval → progress.effects.filter (·.kind = applyDecision) = []
  single : (progress.effects.filter (·.kind = applyDecision)).length ≤ 1
  ended : progress.status = .failed → progress.state.phase = .failed
  unapplied : progress.state.phase = .failed → ∀ effect ∈ progress.effects, effect.kind = applyDecision →
    progress.reported "effect.failed" effect

namespace Deciding

variable {decision : WorkflowDecision ApprovalState}

/-- An event that asks for nothing. -/
theorem quiet (here : Deciding progress) (nothing : decision.effects = [])
    (same : decision.state.approvalId = progress.state.approvalId)
    (awaiting : decision.state.phase = .awaitingApproval → progress.state.phase = .awaitingApproval)
    (ended : decision.status = .failed → decision.state.phase = .failed)
    (unapplied : decision.state.phase = .failed → ∀ effect ∈ progress.effects, effect.kind = applyDecision →
      (progress.next event decision).reported "effect.failed" effect) : Deciding (progress.next event decision) := by
  have effects : (progress.next event decision).effects = progress.effects := by
    rw [Progress.next, nothing, List.append_nil]
  refine ⟨?_, ?_, ?_, ended, ?_⟩
  · rw [effects]
    intro effect asked kind approves
    obtain ⟨entry, given, type, own⟩ := here.approved effect asked kind approves
    exact ⟨entry, List.mem_append_left _ given, type, own.trans (congrArg JsValue.string same.symm)⟩
  · rw [effects]
    exact fun phase => here.undecided (awaiting phase)
  · rw [effects]
    exact here.single
  · rw [effects]
    exact unapplied

/-- The failure that ends an approval is the only decision's, if there is one. -/
theorem failedNext (here : Deciding progress) (orderly : OwnFailure progress event)
    (type : event.type = "effect.failed")
    (phase : progress.state.phase = .awaitingApproval ∨ progress.state.phase = .applying)
    {effect : EffectInput} (asked : effect ∈ progress.effects) (kind : effect.kind = applyDecision) :
    (progress.next event decision).reported "effect.failed" effect := by
  have listed : effect ∈ progress.effects.filter (·.kind = applyDecision) := by
    simp [asked, kind]
  rcases phase with awaiting | applying
  · rw [here.undecided awaiting] at listed
    cases listed
  · obtain ⟨failed, known, reports, -⟩ := orderly.answers (by simp [isOutcome, type])
    obtain ⟨-, id, failedKind⟩ := reportsOn_spec.mp reports
    have own : failed.kind = applyDecision :=
      (Option.some_inj.mp ((orderly.own applying type).symm.trans failedKind)).symm
    have other : failed ∈ progress.effects.filter (·.kind = applyDecision) := by
      simp [known, own]
    -- There is one decision at most, so the failure is about this one.
    have same : failed = effect := by
      have short := here.single
      rcases filtered : progress.effects.filter (·.kind = applyDecision) with _ | ⟨only, _ | _⟩
      · rw [filtered] at listed
        cases listed
      · rw [filtered] at listed other
        rw [List.mem_singleton.mp listed, List.mem_singleton.mp other]
      · rw [filtered] at short
        simp at short
    rw [Progress.reported_next, ← same, ← type, reports]
    simp

theorem step (here : Deciding progress) (orderly : OwnFailure progress event)
    (reduced : progress.state.reduce host event = .ok decision) : Deciding (progress.next event decision) := by
  cases approval_step reduced with
  | responded response type phase =>
    refine here.quiet rfl rfl (fun _ => phase) ?_ ?_
    · intro failed
      cases failed
    · intro failed
      exact absurd (phase.symm.trans failed) (by decide)
  | applied type phase kind =>
    refine here.quiet rfl rfl ?_ ?_ ?_
    · intro awaiting
      cases awaiting
    · intro failed
      cases failed
    · intro failed
      cases failed
  | failed type phase =>
    refine here.quiet rfl rfl ?_ (fun _ => rfl) fun _ effect asked kind => ?_
    · intro awaiting
      cases awaiting
    · exact here.failedNext orderly type phase asked kind
  | kept unapplied unfailed =>
    refine here.quiet rfl rfl id ?_ ?_
    · intro failed
      change progress.state.phase = .failed
      cases phase : progress.state.phase <;> simp_all [WorkflowDecision.keep, ApprovalState.status]
    · intro phase effect asked kind
      rw [Progress.reported_next, here.unapplied phase effect asked kind]
      rfl
  | decided type phase own =>
    have none := here.undecided phase
    have alone : (progress.effects ++ [decisionOn host progress.state event]).filter (·.kind = applyDecision) =
        [decisionOn host progress.state event] := by
      rw [List.filter_append, none]
      rfl
    refine ⟨?_, ?_, ?_, ?_, ?_⟩
    · intro effect asked kind approves
      have listed : effect ∈ (progress.effects ++ [decisionOn host progress.state event]).filter
          (·.kind = applyDecision) := by
        simp only [List.mem_filter, decide_eq_true_eq]
        exact ⟨asked, kind⟩
      rw [alone] at listed
      cases List.mem_singleton.mp listed
      refine ⟨(progress.state, event), List.mem_append_right _ (List.mem_singleton_self _), ?_, own⟩
      by_contra other
      simp [decisionOn, decisionOf, other, JsValue.get, PolicyDecision.text, List.lookup_cons] at approves
    · intro awaiting
      cases awaiting
    · change ((progress.effects ++ [decisionOn host progress.state event]).filter _).length ≤ 1
      rw [alone]
      simp
    · intro failed
      cases failed
    · intro failed
      cases failed

end Deciding

/-- In every run in which a failure reported during the decision is the decision's own, the
outcome of the approval agrees with what is applied. -/
theorem approval_run_agreed {events : List Event}
    (run : ((folding (collaborationPolicyApprovalWorkflow host)).restricted OwnFailure).Run events progress) :
    Agreed progress := by
  have deciding : Deciding progress := by
    refine run.history (motive := fun _ progress => Deciding progress) ?_ ?_
    · rintro progress ⟨input, now, decision, begun, rfl⟩
      obtain ⟨proposal, -, begun⟩ := bind_ok.mp begun
      cases begun
      have card : requestInteraction ≠ applyDecision := by decide
      refine ⟨?_, fun _ => rfl, Nat.zero_le 1, ?_, ?_⟩
      · intro effect asked kind
        cases List.mem_singleton.mp asked
        exact absurd kind card
      all_goals
        intro failed
        cases failed
    · rintro events event before after - here ⟨⟨-, -, decision, reduced, rfl⟩, orderly⟩
      exact here.step orderly reduced
  have once := (run_answers OwnFailure.answers run).2
  refine ⟨deciding.approved, deciding.single, ?_⟩
  intro ended effect asked kind
  by_contra delivered
  exact once effect (eq_true_of_ne_false delivered)
    (deciding.unapplied (deciding.ended ended) effect asked kind)

/-! ## One proposal -/

def policyHost : Host :=
  .tabulated "Asia/Shanghai" 28800000
    [("quiet-hours\x001", "5b1e0c7f2a9d4836b0c1d2e3f4a5968f"),
      ("quiet-hours\x001\x00approve", "9a7c6b5d4e3f2a1b0c9d8e7f6a5b4c3d")]
    []

def policyInput : JsValue :=
  .object [("proposal", .object [("id", "quiet-hours"), ("revision", .number 1),
    ("document", .object [("name", "夜间免打扰"), ("description", "普通通知推迟到早上")]),
    ("sourceText", "晚上不要打扰我"), ("sampleCount", .number 20), ("reducibleCount", .number 8),
    ("confidence", .number 1)])]

def policyStart : WorkflowDecision ApprovalState :=
  match initialiseApproval policyHost policyInput 1767553200000 with
  | .ok decision => decision
  | .error _ => .keep .failed ⟨.failed, "", 0, "", "", "", 0, none, none⟩

theorem policy_begun : (collaborationPolicyApprovalWorkflow policyHost).initialise policyInput 1767553200000 =
    .ok policyStart := by
  rfl

def ownerApproves : Event :=
  { id := "card:approved", type := "approval.approved", occurredAt := 1767553260000
    payload := .object [("approvalId", "policy:quiet-hours:1")] }

def cardReport (outcome : String) (occurredAt : Timestamp) : Given :=
  .other (effectReport "collaboration-policy-card:5b1e0c7f2a9d4836b0c1d2e3f4a5968f" requestInteraction outcome []
    occurredAt)

def decisionReport (outcome : String) (occurredAt : Timestamp) : Given :=
  .other (effectReport "collaboration-policy-decision:9a7c6b5d4e3f2a1b0c9d8e7f6a5b4c3d" applyDecision outcome []
    occurredAt)

/-- The card is reported to have failed after the owner approved on it: the approval has
failed, and the policy is applied all the same. -/
theorem lateCard_not_agreed : ∃ events progress,
    ((folding (collaborationPolicyApprovalWorkflow policyHost)).restricted Answers).Run events progress ∧
      ¬ Agreed progress := by
  obtain ⟨progress, replayed, status, applied⟩ : ∃ progress,
      replay (collaborationPolicyApprovalWorkflow policyHost) Answers
        [.other ownerApproves, cardReport "failed" 1767553270000, decisionReport "delivered" 1767553280000]
        (.began policyStart) = some progress ∧
      progress.status = .failed ∧ (∃ effect ∈ progress.effects, effect.kind = applyDecision ∧
        progress.reported "effect.delivered" effect = true) :=
    ⟨_, rfl, rfl, by decide⟩
  refine ⟨_, progress, replay_run policy_begun replayed, ?_⟩
  intro agreed
  obtain ⟨effect, asked, kind, delivered⟩ := applied
  rw [agreed.failed status effect asked kind] at delivered
  cases delivered

/-- The card arrives, the owner approves, and the decision is carried out. -/
theorem approved_agreed : ∃ progress, Agreed progress ∧ progress.status = .completed := by
  obtain ⟨progress, replayed, status⟩ : ∃ progress, replay (collaborationPolicyApprovalWorkflow policyHost) OwnFailure
        [cardReport "delivered" 1767553210000, .other ownerApproves, decisionReport "delivered" 1767553280000]
        (.began policyStart) = some progress ∧ progress.status = .completed :=
    ⟨_, rfl, rfl⟩
  exact ⟨progress, approval_run_agreed (replay_run policy_begun replayed), status⟩

end QuarkSelfAI.Collaboration

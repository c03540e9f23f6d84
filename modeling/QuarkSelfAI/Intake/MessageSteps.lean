import QuarkSelfAI.Intake.Message
import QuarkSelfAI.Workflow.Reports

/-!
# What an event does to an intake

`IntakeStep` lists the branches of the reduction, with the guards that later results use.
-/

namespace QuarkSelfAI.Intake

open Foundation Storage Workflow Domain

variable {host : Host} {state : IntakeState} {event : Event} {decision : WorkflowDecision IntakeState}

/-- The owner's decision about the approval, one way or the other. -/
def decides (event : Event) : Prop := event.type = "approval.approved" ∨ event.type = "approval.declined"

instance : Decidable (decides event) :=
  inferInstanceAs (Decidable (event.type = "approval.approved" ∨ event.type = "approval.declined"))

/-- The intake after its decision was accepted and asks for something. -/
def projecting (host : Host) (state : IntakeState) (accepted : IntakeDecision) (effects : List EffectInput) :
    IntakeState :=
  { state with
    stage := .projecting, pending := effects.map (·.id), decision := some accepted
    approvalId := (state.approvalFor host accepted).or state.approvalId }

/-- The intake after the owner decided. -/
def decided (state : IntakeState) (event : Event) : IntakeState :=
  { state with
    stage := .completed, approvalDecision := some (IntakeState.decisionOf event)
    approvalDecidedAt := some event.occurredAt }

/-- What an event meets that no branch of its own takes. -/
structure Ignored (host : Host) (state : IntakeState) (event : Event) : Prop where
  unfailed : event.type ≠ "effect.failed"
  undecided : decides event → state.stage ≠ .awaitingApproval
  unloaded : event.type = "effect.delivered" → effectKind event = some loadMessageContext →
    state.stage ≠ .loadingContext
  unevaluated : event.type = "effect.delivered" → effectKind event = some evaluateFocus → state.stage ≠ .evaluating
  unsettled : event.type = "effect.delivered" → state.stage ≠ .projecting ∧ state.stage ≠ .reporting

/-- The branches of `IntakeState.reduce`. -/
inductive IntakeStep (host : Host) (state : IntakeState) (event : Event) : WorkflowDecision IntakeState → Prop where
  | failed (type : event.type = "effect.failed") : IntakeStep host state event (state.onFailed event)
  | responded (response : String) (type : event.type = "approval.response")
      (stage : state.stage = .awaitingApproval) (own : state.isOwnApproval event) :
      IntakeStep host state event
        { status := .waiting, wakeAt := none, effects := []
          state := { state with
            approvalResponse := some response, approvalResponseAt := some event.occurredAt } }
  | decided (answer : decides event) (stage : state.stage = .awaitingApproval)
      (own : state.isOwnApproval event) : IntakeStep host state event
        { status := .completed, wakeAt := some none, effects := [], state := decided state event }
  | loaded (type : event.type = "effect.delivered") (stage : state.stage = .loadingContext) :
      IntakeStep host state event (state.afterContext host event)
  | evaluated (accepted : IntakeDecision) (type : event.type = "effect.delivered")
      (stage : state.stage = .evaluating) : IntakeStep host state event (state.settled accepted)
  | projected (accepted : IntakeDecision) (effects : List EffectInput)
      (type : event.type = "effect.delivered") (stage : state.stage = .evaluating)
      (asked : state.projections host event accepted = .ok effects) (some : effects ≠ []) :
      IntakeStep host state event
        { status := .waiting, wakeAt := none, effects, state := projecting host state accepted effects }
  | delegated (sessionId summary : String) (type : event.type = "effect.delivered")
      (stage : state.stage = .projecting) (route : state.route = .ownerCommand) :
      IntakeStep host state event ({ state with delegatedSessionId := some sessionId }.awaiting .reporting
        (state.ask host "delegation-result" notifyOwner
          [("title", "飞书要求已处理"), ("body", .string s!"{summary}\n\nDSH 会话：{sessionId}"),
            ("idempotencyKey", .string s!"conversation-result:{state.sourceEvent.deduplicationKey}")]))
  | settling (type : event.type = "effect.delivered")
      (stage : state.stage = .projecting ∨ state.stage = .reporting) :
      IntakeStep host state event (state.settleProjection host event)
  | other (ignored : Ignored host state event) : IntakeStep host state event state.onOther

/-! ## The inversion -/

theorem textOf_eq {value : JsValue} {name text : String} (known : value.text? name = some text) :
    IntakeState.textOf host (value.get name) = text := by
  unfold JsValue.text? at known
  split at known
  · rename_i own found
    cases known
    rw [found]
    rfl
  · cases known

theorem afterEvaluation_step (type : event.type = "effect.delivered") (stage : state.stage = .evaluating)
    (reduced : state.afterEvaluation host event = .ok decision) : IntakeStep host state event decision := by
  unfold IntakeState.afterEvaluation at reduced
  obtain ⟨accepted, -, reduced⟩ := bind_ok.mp reduced
  split at reduced
  · cases reduced
    exact .evaluated accepted type stage
  · obtain ⟨effects, asked, reduced⟩ := bind_ok.mp reduced
    split at reduced
    · cases reduced
      exact .evaluated accepted type stage
    · rename_i some
      cases reduced
      exact .projected accepted effects type stage asked some

theorem afterDelegation_step (type : event.type = "effect.delivered") (stage : state.stage = .projecting)
    (route : state.route = .ownerCommand) (reduced : state.afterDelegation host event = .ok decision) :
    IntakeStep host state event decision := by
  unfold IntakeState.afterDelegation at reduced
  obtain ⟨sessionId, -, reduced⟩ := bind_ok.mp reduced
  obtain ⟨summary, -, reduced⟩ := bind_ok.mp reduced
  cases reduced
  exact .delegated sessionId summary type stage route

theorem onDelivered_step (type : event.type = "effect.delivered")
    (reduced : state.onDelivered host event = .ok decision) : IntakeStep host state event decision := by
  unfold IntakeState.onDelivered at reduced
  dsimp only at reduced
  rcases ite_eq_iff.mp reduced with ⟨loaded, reduced⟩ | ⟨unloaded, reduced⟩
  · cases reduced
    exact .loaded type loaded.1
  rcases ite_eq_iff.mp reduced with ⟨evaluated, reduced⟩ | ⟨unevaluated, reduced⟩
  · exact afterEvaluation_step type evaluated.1 reduced
  rcases ite_eq_iff.mp reduced with ⟨delegated, reduced⟩ | ⟨-, reduced⟩
  · exact afterDelegation_step type delegated.1 delegated.2.1 reduced
  rcases ite_eq_iff.mp reduced with ⟨settling, reduced⟩ | ⟨unsettled, reduced⟩
  · cases reduced
    exact .settling type settling
  · cases reduced
    refine .other ⟨by simp [type], ?_, fun _ kind stage => unloaded ⟨stage, textOf_eq kind⟩,
      fun _ kind stage => unevaluated ⟨stage, textOf_eq kind⟩, fun _ => not_or.mp unsettled⟩
    rintro (approved | declined)
    · simp [type] at approved
    · simp [type] at declined

theorem intake_step (reduced : state.reduce host event = .ok decision) : IntakeStep host state event decision := by
  unfold IntakeState.reduce at reduced
  rcases ite_eq_iff.mp reduced with ⟨failed, reduced⟩ | ⟨unfailed, reduced⟩
  · cases reduced
    exact .failed failed
  rcases ite_eq_iff.mp reduced with ⟨responded, reduced⟩ | ⟨-, reduced⟩
  · unfold IntakeState.recordApprovalResponse at reduced
    split at reduced
    · cases reduced
    · rename_i own
      obtain ⟨response, -, reduced⟩ := bind_ok.mp reduced
      cases reduced
      exact .responded response responded.2 responded.1 (not_not.mp own)
  rcases ite_eq_iff.mp reduced with ⟨answer, reduced⟩ | ⟨undecided, reduced⟩
  · unfold IntakeState.finishApproval at reduced
    split at reduced
    · cases reduced
    · rename_i own
      cases reduced
      exact .decided answer.2 answer.1 (not_not.mp own)
  rcases ite_eq_iff.mp reduced with ⟨undelivered, reduced⟩ | ⟨delivered, reduced⟩
  · cases reduced
    exact .other ⟨unfailed, fun answer stage => undecided ⟨stage, answer⟩,
      fun delivered => absurd delivered undelivered, fun delivered => absurd delivered undelivered,
      fun delivered => absurd delivered undelivered⟩
  · exact onDelivered_step (not_not.mp delivered) reduced

/-! ## Beginnings -/

/-- An intake begins by waiting for its first effect. -/
theorem initialiseIntake_ok {input : JsValue} {now : Timestamp}
    (begun : initialiseIntake host input now = .ok decision) :
    ∃ state : IntakeState, decision = state.awaiting state.firstStage (state.firstEffect host now) ∧
      state.approvalId = none ∧ state.approvalDecision = none := by
  unfold initialiseIntake at begun
  obtain ⟨workspace, -, begun⟩ := bind_ok.mp begun
  obtain ⟨route, -, begun⟩ := bind_ok.mp begun
  obtain ⟨sourceEvent, -, begun⟩ := bind_ok.mp begun
  exact ⟨_, (Except.ok.inj begun).symm, rfl, rfl⟩

end QuarkSelfAI.Intake

import QuarkSelfAI.Intake.MessageSteps

/-!
# The owner's decision about an intake

The owner's decision is taken once every effect of the intake was delivered. One that
comes before, while the task is still being written, is ignored, and its event is spent.
-/

namespace QuarkSelfAI.Intake

open Foundation Storage Workflow Domain

variable {host : Host} {state : IntakeState} {event : Event} {decision : WorkflowDecision IntakeState}
  {progress : Progress IntakeState} {events : List Event} {accepted : IntakeDecision}

/-! ## The effects of a message -/

theorem effectId_inj {suffix other : String} :
    state.effectId host suffix = state.effectId host other ↔ suffix = other := by
  simp [IntakeState.effectId, SourceEvent.effect, toString]

/-- The suffixes of the effects that an accepted decision asks for. -/
def projectedSuffixes : List String := ["task", "approval-card", "notification"]

theorem tasks_ok {tasks : List EffectInput} (made : state.tasks host event accepted = .ok tasks) : tasks = [] ∨
      ∃ effect, tasks = [effect] ∧ effect.id = state.effectId host "task" ∧ effect.kind = upsertIntake := by
  unfold IntakeState.tasks at made
  split at made
  · obtain ⟨effect, written, made⟩ := bind_ok.mp made
    cases made
    unfold IntakeState.taskEffect at written
    split at written
    · cases written
    · obtain ⟨key, -, written⟩ := bind_ok.mp written
      cases written
      exact .inr ⟨_, rfl, rfl, rfl⟩
  · cases made
    exact .inl rfl

theorem cardEffect_id : ∃ suffix ∈ ["approval-card", "notification"],
    (state.cardEffect host accepted).id = state.effectId host suffix := by
  unfold IntakeState.cardEffect
  cases accepted.approvalRequired with
  | true => exact ⟨"approval-card", by simp, rfl⟩
  | false => exact ⟨"notification", by simp, rfl⟩

/-- An accepted decision asks for effects of its own names, each at most once. -/
theorem projections_ids {effects : List EffectInput} (asked : state.projections host event accepted = .ok effects) :
    (effects.map (·.id)).Nodup ∧
      ∀ effect ∈ effects, ∃ suffix ∈ projectedSuffixes, effect.id = state.effectId host suffix := by
  unfold IntakeState.projections at asked
  obtain ⟨tasks, made, asked⟩ := bind_ok.mp asked
  cases asked
  obtain ⟨suffix, own, id⟩ : ∃ suffix ∈ ["approval-card", "notification"],
      (state.cardEffect host accepted).id = state.effectId host suffix := cardEffect_id
  have projected : suffix ∈ projectedSuffixes := List.mem_cons_of_mem _ own
  have other : "task" ≠ suffix := by
    rintro rfl
    exact absurd own (by decide)
  have task : ∀ effect ∈ tasks, effect.id = state.effectId host "task" := by
    intro effect listed
    rcases tasks_ok made with rfl | ⟨single, rfl, named, -⟩
    · cases listed
    · rw [List.mem_singleton.mp listed, named]
  have alone : (tasks.map (·.id)).Nodup := by
    rcases tasks_ok made with rfl | ⟨single, rfl, -⟩ <;> simp
  have card : ∀ effect ∈ (if accepted.notifyOwner then [state.cardEffect host accepted] else []),
      effect.id = state.effectId host suffix := by
    intro effect listed
    split at listed
    · rw [List.mem_singleton.mp listed, id]
    · cases listed
  refine ⟨?_, ?_⟩
  · rw [List.map_append]
    refine alone.append ?_ ?_
    · split <;> simp
    · intro name inTasks inCard
      obtain ⟨effect, listed, rfl⟩ := List.mem_map.mp inTasks
      obtain ⟨shown, also, same⟩ := List.mem_map.mp inCard
      rw [task effect listed, card shown also, effectId_inj] at same
      exact other same.symm
  · intro effect listed
    rcases List.mem_append.mp listed with listed | listed
    · exact ⟨"task", by simp [projectedSuffixes], task effect listed⟩
    · exact ⟨suffix, projected, card effect listed⟩

/-- What a message waits for is what it asked for and was not delivered. -/
structure Tracking (host : Host) (progress : Progress IntakeState) : Prop where
  distinct : (progress.effects.map (·.id)).Nodup
  tracked : ∀ effect ∈ progress.effects,
    effect.id ∈ progress.state.pending ↔ progress.reported "effect.delivered" effect = false
  known : ∀ id ∈ progress.state.pending, ∃ effect ∈ progress.effects, effect.id = id
  loading : progress.state.stage = .loadingContext →
    progress.state.pending = [progress.state.effectId host "context"] ∧ ∀ effect ∈ progress.effects,
      effect.id = progress.state.effectId host "context" ∧ effect.kind = loadMessageContext
  evaluating : progress.state.stage = .evaluating →
    progress.state.pending = [progress.state.effectId host "evaluate"] ∧ ∀ effect ∈ progress.effects,
      effect.id = progress.state.effectId host "context" ∨
        effect.id = progress.state.effectId host "evaluate" ∧ effect.kind = evaluateFocus
  projecting : progress.state.stage = .projecting → progress.state.pending ≠ []
  idle : progress.state.stage = .awaitingApproval ∨ progress.state.stage = .completed → progress.state.pending = []
  unreporting : progress.state.stage ≠ .reporting

namespace Tracking

theorem settled_iff (here : Tracking host progress) : Settled progress ↔ progress.state.pending = [] := by
  constructor
  · intro settled
    refine List.eq_nil_iff_forall_not_mem.mpr fun id waits => ?_
    obtain ⟨effect, asked, rfl⟩ := here.known id waits
    have undelivered := (here.tracked effect asked).mp waits
    rw [settled effect asked] at undelivered
    cases undelivered
  · intro nothing effect asked
    by_contra undelivered
    have waits := (here.tracked effect asked).mpr (eq_false_of_ne_true undelivered)
    rw [nothing] at waits
    cases waits

/-- A delivered report is about an effect that is waited for. -/
theorem delivered (here : Tracking host progress) (answers : Answers progress event)
    (type : event.type = "effect.delivered") : ∃ effect ∈ progress.effects,
      effect.id ∈ progress.state.pending ∧ effectIdOf event = some effect.id ∧
        effectKind event = some effect.kind ∧ ∀ other ∈ progress.effects,
          reportsOn "effect.delivered" other event ↔ other.id = effect.id := by
  obtain ⟨effect, asked, reports, unanswered⟩ := answers (by simp [isOutcome, type])
  obtain ⟨-, id, kind⟩ := reportsOn_spec.mp reports
  have undelivered : progress.reported "effect.delivered" effect = false := by
    simp only [Progress.answered, Bool.or_eq_false_iff] at unanswered
    exact unanswered.1
  refine ⟨effect, asked, (here.tracked effect asked).mpr undelivered, id, kind, fun other listed => ?_⟩
  constructor
  · intro about
    exact Option.some_inj.mp ((reportsOn_spec.mp about).2.1.symm.trans id)
  · intro same
    have one := List.inj_on_of_nodup_map here.distinct listed asked same
    subst one
    exact reportsOn_spec.mpr ⟨type, id, kind⟩

/-- An event that reports nothing leaves what is waited for, and the stage, as they are. -/
theorem kept (here : Tracking host progress) (undelivered : event.type ≠ "effect.delivered")
    (effects : decision.effects = []) (pending : decision.state.pending = progress.state.pending)
    (source : decision.state.sourceEvent = progress.state.sourceEvent)
    (stage : decision.state.stage = progress.state.stage ∨
      progress.state.stage = .awaitingApproval ∧ decision.state.stage = .completed) :
    Tracking host (progress.next event decision) := by
  have same : (progress.next event decision).effects = progress.effects := by
    rw [Progress.next, effects, List.append_nil]
  have ids : ∀ suffix, decision.state.effectId host suffix = progress.state.effectId host suffix := by
    intro suffix
    rw [IntakeState.effectId, source, IntakeState.effectId]
  have before : ∀ {other : IntakeStage}, decision.state.stage = other → other ≠ .completed →
      progress.state.stage = other := by
    rintro other now unfinished
    rcases stage with stage | ⟨-, completed⟩
    · exact stage.symm.trans now
    · exact absurd (now.symm.trans completed) unfinished
  refine ⟨?_, ?_, ?_, ?_, ?_, ?_, ?_, ?_⟩
  · rw [same]
    exact here.distinct
  · intro effect asked
    rw [same] at asked
    rw [Progress.reported_next, reportsOn_other rfl undelivered, Bool.or_false]
    exact (congrArg (effect.id ∈ ·) pending).to_iff.trans (here.tracked effect asked)
  · intro id waits
    rw [same]
    exact here.known id (pending ▸ waits)
  · intro now
    rw [same]
    obtain ⟨waits, all⟩ := here.loading (before now (by decide))
    exact ⟨pending.trans (waits.trans (by rw [← ids]; rfl)), fun effect asked => by
      rw [show (progress.next event decision).state.effectId host "context" = _ from ids "context"]
      exact all effect asked⟩
  · intro now
    rw [same]
    obtain ⟨waits, all⟩ := here.evaluating (before now (by decide))
    exact ⟨pending.trans (waits.trans (by rw [← ids]; rfl)), fun effect asked => by
      rw [show (progress.next event decision).state.effectId host "context" = _ from ids "context",
        show (progress.next event decision).state.effectId host "evaluate" = _ from ids "evaluate"]
      exact all effect asked⟩
  · intro now
    rw [show (progress.next event decision).state.pending = _ from pending]
    exact here.projecting (before now (by decide))
  · intro now
    rw [show (progress.next event decision).state.pending = _ from pending]
    rcases stage with stage | ⟨awaiting, -⟩
    · exact here.idle (now.imp stage.symm.trans stage.symm.trans)
    · exact here.idle (.inl awaiting)
  · intro now
    exact here.unreporting (before now (by decide))

/-- After the one effect that was waited for, others are. -/
theorem asked (here : Tracking host progress) (decision : WorkflowDecision IntakeState) (heard : Heard progress)
    (answers : Answers progress event) (type : event.type = "effect.delivered") {awaited : String}
    (single : progress.state.pending = [awaited]) (distinct : (decision.effects.map (·.id)).Nodup)
    (fresh : ∀ effect ∈ decision.effects, ∀ old ∈ progress.effects, old.id ≠ effect.id)
    (pending : decision.state.pending = decision.effects.map (·.id)) :
    ((progress.next event decision).effects.map (·.id)).Nodup ∧
      (∀ effect ∈ (progress.next event decision).effects, effect.id ∈ decision.state.pending ↔
        (progress.next event decision).reported "effect.delivered" effect = false) ∧
      ∀ id ∈ decision.state.pending, ∃ effect ∈ (progress.next event decision).effects, effect.id = id := by
  obtain ⟨answered, listed, waits, id, -, about⟩ := here.delivered answers type
  refine ⟨?_, ?_, ?_⟩
  · rw [Progress.next, List.map_append]
    refine here.distinct.append distinct ?_
    intro name before now
    obtain ⟨old, asked, rfl⟩ := List.mem_map.mp before
    obtain ⟨effect, new, same⟩ := List.mem_map.mp now
    exact fresh effect new old asked same.symm
  · intro effect asked
    rw [pending, Progress.reported_next, Bool.or_eq_false_iff]
    rcases List.mem_append.mp asked with before | now
    · -- Only one effect was unanswered, and the event reports it.
      refine iff_of_false ?_ ?_
      · intro new
        obtain ⟨other, asked, same⟩ := List.mem_map.mp new
        exact fresh other asked effect before same.symm
      · rintro ⟨undelivered, unreported⟩
        have waiting := (here.tracked effect before).mpr undelivered
        rw [single, List.mem_singleton] at waits waiting
        have reports := (about effect before).mpr (waiting.trans waits.symm)
        rw [unreported] at reports
        cases reports
    · refine iff_of_true (List.mem_map_of_mem now) ⟨heard.unreported (.inl rfl) (fresh effect now), ?_⟩
      by_contra reports
      obtain ⟨-, own, -⟩ := reportsOn_spec.mp (eq_true_of_ne_false reports)
      exact fresh effect now answered listed (Option.some_inj.mp (id.symm.trans own))
  · intro name waiting
    rw [pending] at waiting
    obtain ⟨effect, asked, same⟩ := List.mem_map.mp waiting
    exact ⟨effect, List.mem_append_right _ asked, same⟩

theorem settling (here : Tracking host progress) (answers : Answers progress event)
    (type : event.type = "effect.delivered") :
    Tracking host (progress.next event (progress.state.settleProjection host event)) := by
  obtain ⟨answered, listed, waits, id, -, about⟩ := here.delivered answers type
  have own : IntakeState.textOf host (event.payload.get "effectId") = answered.id := textOf_eq id
  have pending : (progress.state.settleProjection host event).state.pending =
      progress.state.pending.filter (· ≠ answered.id) := by
    rw [IntakeState.settleProjection, own]
  have stage : (progress.state.settleProjection host event).state.stage =
      if progress.state.pending.filter (· ≠ answered.id) = [] then
        if progress.state.approvalId.isSome then .awaitingApproval else .completed
      else .projecting := by
    rw [IntakeState.settleProjection, own]
  have same : (progress.next event (progress.state.settleProjection host event)).effects = progress.effects :=
    List.append_nil _
  generalize progress.state.settleProjection host event = decision at pending stage same
  refine ⟨?_, ?_, ?_, ?_, ?_, ?_, ?_, ?_⟩
  · rw [same]
    exact here.distinct
  · intro effect asked
    rw [same] at asked
    rw [Progress.reported_next, Bool.or_eq_false_iff, ← here.tracked effect asked]
    rw [show (progress.next event decision).state.pending = _ from pending, List.mem_filter]
    refine and_congr_right fun _ => ?_
    rw [decide_eq_true_iff, ← Bool.not_eq_true, about effect asked]
  · intro name waiting
    rw [show (progress.next event decision).state.pending = _ from pending] at waiting
    rw [same]
    exact here.known name (List.mem_of_mem_filter waiting)
  all_goals rw [show (progress.next event decision).state.stage = _ from stage]
  · split_ifs <;> simp
  · split_ifs <;> simp
  · rw [show (progress.next event decision).state.pending = _ from pending]
    split_ifs with empty
    · simp
    · simp
    · exact fun _ => empty
  · rw [show (progress.next event decision).state.pending = _ from pending]
    split_ifs with empty
    · exact fun _ => empty
    · exact fun _ => empty
    · simp
  · split_ifs <;> simp

theorem loaded (here : Tracking host progress) (heard : Heard progress) (answers : Answers progress event)
    (type : event.type = "effect.delivered") (stage : progress.state.stage = .loadingContext)
    (route : progress.state.route = .focus) :
    Tracking host (progress.next event (progress.state.afterContext host event)) := by
  obtain ⟨single, all⟩ := here.loading stage
  have evaluates : progress.state.afterContext host event = progress.state.awaiting .evaluating
      (progress.state.ask host "evaluate" evaluateFocus
        [("event", progress.state.sourceEvent.value), ("context", event.payload.get "context")]) := by
    simp [IntakeState.afterContext, route]
  rw [evaluates]
  have fresh : ∀ effect ∈ progress.effects, effect.id ≠ progress.state.effectId host "evaluate" := by
    intro effect asked same
    rw [(all effect asked).1, effectId_inj] at same
    exact absurd same (by decide)
  obtain ⟨distinct, tracked, known⟩ := here.asked (progress.state.awaiting .evaluating
      (progress.state.ask host "evaluate" evaluateFocus
        [("event", progress.state.sourceEvent.value), ("context", event.payload.get "context")]))
    heard answers type single (by simp [IntakeState.awaiting]) (by
      intro effect new old asked
      rw [List.mem_singleton.mp new]
      exact fresh old asked) rfl
  refine ⟨distinct, tracked, known, by simp [Progress.next, IntakeState.awaiting], ?_,
    by simp [Progress.next, IntakeState.awaiting], by simp [Progress.next, IntakeState.awaiting],
    by simp [Progress.next, IntakeState.awaiting]⟩
  intro _
  refine ⟨rfl, fun effect asked => ?_⟩
  rcases List.mem_append.mp asked with before | now
  · exact .inl (all effect before).1
  · rw [List.mem_singleton.mp now]
    exact .inr ⟨rfl, rfl⟩

/-- After the evaluation only the effects of its decision are waited for. -/
theorem evaluated (here : Tracking host progress) (heard : Heard progress) (answers : Answers progress event)
    (type : event.type = "effect.delivered") (stage : progress.state.stage = .evaluating)
    (distinct : (decision.effects.map (·.id)).Nodup) (names : ∀ effect ∈ decision.effects, ∃ suffix ∈ projectedSuffixes,
      effect.id = progress.state.effectId host suffix) (pending : decision.state.pending = decision.effects.map (·.id))
    (next : decision.state.stage = .projecting ∧ decision.effects ≠ [] ∨
      decision.state.stage = .completed ∧ decision.effects = []) : Tracking host (progress.next event decision) := by
  obtain ⟨single, all⟩ := here.evaluating stage
  obtain ⟨distinct, tracked, known⟩ := here.asked decision heard answers type single distinct (by
    intro effect new old asked same
    obtain ⟨suffix, projected, id⟩ := names effect new
    rcases all old asked with context | ⟨evaluate, -⟩
    · rw [context, id, effectId_inj] at same
      exact absurd (same ▸ projected) (by decide)
    · rw [evaluate, id, effectId_inj] at same
      exact absurd (same ▸ projected) (by decide)) pending
  refine ⟨distinct, tracked, known, ?_, ?_, ?_, ?_, ?_⟩
  all_goals rw [show (progress.next event decision).state.stage = decision.state.stage from rfl]
  · rcases next with ⟨is, -⟩ | ⟨is, -⟩ <;> simp [is]
  · rcases next with ⟨is, -⟩ | ⟨is, -⟩ <;> simp [is]
  · rcases next with ⟨-, some⟩ | ⟨is, -⟩
    · rw [show (progress.next event decision).state.pending = _ from pending]
      simp [some]
    · simp [is]
  · rcases next with ⟨is, -⟩ | ⟨-, none⟩
    · simp [is]
    · rw [show (progress.next event decision).state.pending = _ from pending]
      simp [none]
  · rcases next with ⟨is, -⟩ | ⟨is, -⟩ <;> simp [is]

/-- No delivered report is ignored. -/
theorem unignored (here : Tracking host progress) (answers : Answers progress event)
    (ignored : Ignored host progress.state event) (unfailed : progress.state.stage ≠ .failed) :
    event.type ≠ "effect.delivered" := by
  intro type
  obtain ⟨answered, listed, waits, -, kind, -⟩ := here.delivered answers type
  have idle : progress.state.stage = .awaitingApproval ∨ progress.state.stage = .completed → False := by
    intro stage
    rw [here.idle stage] at waits
    cases waits
  cases stage : progress.state.stage with
  | loadingContext =>
    obtain ⟨-, all⟩ := here.loading stage
    rw [(all answered listed).2] at kind
    exact ignored.unloaded type kind stage
  | evaluating =>
    obtain ⟨single, all⟩ := here.evaluating stage
    rw [single, List.mem_singleton] at waits
    rcases all answered listed with context | ⟨-, evaluate⟩
    · rw [context, effectId_inj] at waits
      exact absurd waits (by decide)
    · rw [evaluate] at kind
      exact ignored.unevaluated type kind stage
  | projecting => exact (ignored.unsettled type).1 stage
  | awaitingApproval => exact idle (.inl stage)
  | reporting => exact (ignored.unsettled type).2 stage
  | completed => exact idle (.inr stage)
  | failed => exact unfailed stage

theorem step (here : Tracking host progress) (heard : Heard progress) (answers : Answers progress event)
    (route : progress.state.route = .focus) (step : IntakeStep host progress.state event decision)
    (unfailed : decision.state.stage ≠ .failed) : Tracking host (progress.next event decision) := by
  cases step with
  | failed type => exact absurd rfl unfailed
  | responded response type stage own => exact here.kept (by simp [type]) rfl rfl rfl (.inl rfl)
  | decided answer stage own =>
    refine here.kept ?_ rfl rfl rfl (.inr ⟨stage, rfl⟩)
    rcases answer with type | type <;> simp [type]
  | loaded type stage => exact here.loaded heard answers type stage route
  | evaluated accepted type stage =>
    exact here.evaluated heard answers type stage List.nodup_nil (by simp [IntakeState.settled]) rfl
      (.inr ⟨rfl, rfl⟩)
  | projected accepted effects type stage asked some =>
    obtain ⟨distinct, names⟩ := projections_ids asked
    exact here.evaluated heard answers type stage distinct names rfl (.inl ⟨rfl, some⟩)
  | delegated sessionId summary type stage owner => exact absurd (route.symm.trans owner) (by decide)
  | settling type stage => exact here.settling answers type
  | other ignored => refine here.kept (here.unignored answers ignored unfailed) rfl rfl rfl (.inl rfl)

end Tracking

/-! ## The approval -/

/-- A card with an approval comes of a decision that requires one, and names it. -/
theorem projections_card {effects : List EffectInput} (asked : state.projections host event accepted = .ok effects) :
    ∀ card ∈ effects, card.kind = requestInteraction → ∃ approvalId ∈ state.approvalFor host accepted,
      card.payload.get "approvalId" = .string approvalId := by
  unfold IntakeState.projections at asked
  obtain ⟨tasks, made, asked⟩ := bind_ok.mp asked
  cases asked
  intro card listed kind
  rcases List.mem_append.mp listed with listed | listed
  · rcases tasks_ok made with rfl | ⟨single, rfl, -, own⟩
    · cases listed
    · rw [List.mem_singleton.mp listed, own] at kind
      exact absurd kind (by decide)
  · split at listed
    · rw [List.mem_singleton.mp listed] at kind ⊢
      cases required : accepted.approvalRequired with
      | true =>
        refine ⟨state.effectId host "approval-decision", by simp [IntakeState.approvalFor, required], ?_⟩
        simp only [IntakeState.cardEffect, IntakeState.approvalFor, required, if_true]
        rfl
      | false =>
        simp only [IntakeState.cardEffect, IntakeState.ask, required, Bool.false_eq_true, if_false] at kind
        exact absurd kind (by decide)
    · cases listed

/-- Where an intake stands with its approval. -/
structure Deciding (progress : Progress IntakeState) : Prop where
  status : progress.status = .completed ↔ progress.state.stage = .completed
  loading : progress.state.stage = .loadingContext → progress.state.route ≠ .interaction
  early : progress.state.stage = .loadingContext ∨ progress.state.stage = .evaluating → progress.state.approvalId = none
  focus : progress.state.stage = .evaluating ∨ progress.state.approvalId.isSome → progress.state.route = .focus
  bound : progress.state.stage = .awaitingApproval → progress.state.approvalId.isSome
  concluded : progress.state.stage = .completed → progress.state.approvalId.isSome →
    progress.state.approvalDecision.isSome
  card : ∀ card ∈ progress.effects, card.kind = requestInteraction →
    ∃ approvalId ∈ progress.state.approvalId, card.payload.get "approvalId" = .string approvalId

namespace Deciding

/-- A step that asks for nothing keeps the approval as it is. -/
theorem quiet (here : Deciding progress) (effects : decision.effects = [])
    (approval : decision.state.approvalId = progress.state.approvalId)
    (route : decision.state.route = progress.state.route)
    (status : decision.status = .completed ↔ decision.state.stage = .completed)
    (stage : decision.state.stage = progress.state.stage ∨
      decision.state.stage ∈ [.projecting, .awaitingApproval, .completed, .failed])
    (bound : decision.state.stage = .awaitingApproval → progress.state.approvalId.isSome)
    (concluded : decision.state.stage = .completed → progress.state.approvalId.isSome →
      decision.state.approvalDecision.isSome) : Deciding (progress.next event decision) := by
  have before : ∀ {other : IntakeStage}, decision.state.stage = other →
      other ∉ [.projecting, .awaitingApproval, .completed, .failed] → progress.state.stage = other := by
    intro other now elsewhere
    rcases stage with stage | late
    · exact stage.symm.trans now
    · exact absurd (now ▸ late) elsewhere
  have same : (progress.next event decision).effects = progress.effects := by
    rw [Progress.next, effects, List.append_nil]
  refine ⟨status, ?_, ?_, ?_, ?_, ?_, ?_⟩
  · intro now
    rw [show (progress.next event decision).state.route = _ from route]
    exact here.loading (before now (by decide))
  · intro now
    rw [show (progress.next event decision).state.approvalId = _ from approval]
    exact here.early (now.imp (before · (by decide)) (before · (by decide)))
  · intro now
    rw [show (progress.next event decision).state.approvalId = _ from approval] at now
    rw [show (progress.next event decision).state.route = _ from route]
    exact here.focus (now.imp (before · (by decide)) id)
  · intro now
    rw [show (progress.next event decision).state.approvalId = _ from approval]
    exact bound now
  · intro now some
    rw [show (progress.next event decision).state.approvalId = _ from approval] at some
    exact concluded now some
  · rw [same, show (progress.next event decision).state.approvalId = _ from approval]
    exact here.card

theorem asking (here : Deciding progress) {stage : IntakeStage} {effect : EffectInput} {next : IntakeState}
    (approval : next.approvalId = progress.state.approvalId) (route : next.route = progress.state.route)
    (other : effect.kind ≠ requestInteraction) (later : stage ∈ [.evaluating, .projecting, .reporting])
    (evaluating : stage = .evaluating → progress.state.approvalId = none ∧ progress.state.route = .focus) :
    Deciding (progress.next event (next.awaiting stage effect)) := by
  have elsewhere : ∀ {early : IntakeStage}, early ∉ [.evaluating, .projecting, .reporting] → stage ≠ early := by
    rintro early unlisted rfl
    exact unlisted later
  refine ⟨iff_of_false (by simp [Progress.next, IntakeState.awaiting]) (elsewhere (by decide)), ?_, ?_, ?_,
    fun now => absurd now (elsewhere (by decide)), fun now => absurd now (elsewhere (by decide)), ?_⟩
  · exact fun now => absurd now (elsewhere (by decide))
  · rintro (now | now)
    · exact absurd now (elsewhere (by decide))
    · exact approval.trans (evaluating now).1
  · rintro (now | some)
    · exact route.trans (evaluating now).2
    · exact route.trans (here.focus (.inr (approval ▸ some)))
  · intro card listed kind
    rcases List.mem_append.mp listed with before | now
    · rw [show (progress.next event (next.awaiting stage effect)).state.approvalId = _ from approval]
      exact here.card card before kind
    · rw [List.mem_singleton.mp now] at kind
      exact absurd kind other

theorem step (here : Deciding progress) (step : IntakeStep host progress.state event decision) :
    Deciding (progress.next event decision) := by
  cases step with
  | failed type =>
    exact here.quiet rfl rfl rfl (by simp [IntakeState.onFailed]) (.inr (by simp [IntakeState.onFailed]))
      (by simp [IntakeState.onFailed]) (by simp [IntakeState.onFailed])
  | responded response type stage own =>
    exact here.quiet rfl rfl rfl (by simp [stage]) (.inl rfl) here.bound (by simp [stage])
  | decided answer stage own =>
    exact here.quiet rfl rfl rfl (by simp [decided]) (.inr (by simp [decided])) (by simp [decided])
      (by simp [decided])
  | loaded type stage =>
    unfold IntakeState.afterContext
    dsimp only
    split
    · exact here.asking rfl rfl (by simp [IntakeState.ask, dispatchConversation, requestInteraction]) (by decide)
        (by simp)
    · rename_i other
      refine here.asking rfl rfl (by simp [IntakeState.ask, evaluateFocus, requestInteraction]) (by decide) fun _ => ⟨here.early (.inl stage), ?_⟩
      have unasked := here.loading stage
      cases route : progress.state.route with
      | ownerCommand => exact absurd route other
      | focus => rfl
      | interaction => exact absurd route unasked
  | evaluated accepted type stage =>
    exact here.quiet rfl rfl rfl (by simp [IntakeState.settled]) (.inr (by simp [IntakeState.settled]))
      (by simp [IntakeState.settled]) fun _ some => by simp [here.early (.inr stage)] at some
  | projected accepted effects type stage asked some =>
    have unbound : progress.state.approvalId = none := here.early (.inr stage)
    have focus : progress.state.route = .focus := here.focus (.inl stage)
    refine ⟨by simp [Progress.next, projecting], by simp [Progress.next, projecting],
      by simp [Progress.next, projecting], fun _ => focus, by simp [Progress.next, projecting],
      by simp [Progress.next, projecting], ?_⟩
    intro card listed kind
    rcases List.mem_append.mp listed with before | now
    · obtain ⟨approvalId, known, -⟩ := here.card card before kind
      rw [unbound] at known
      cases known
    · obtain ⟨approvalId, known, named⟩ := projections_card asked card now kind
      refine ⟨approvalId, ?_, named⟩
      simp [Progress.next, projecting, Option.mem_def.mp known]
  | delegated sessionId summary type stage route =>
    exact here.asking rfl rfl (by simp [IntakeState.ask, notifyOwner, requestInteraction]) (by decide) (by simp)
  | settling type stage =>
    refine here.quiet rfl rfl rfl ?_ (.inr ?_) ?_ ?_ <;> unfold IntakeState.settleProjection <;> dsimp only <;>
      split_ifs <;> simp_all
  | other ignored =>
    refine here.quiet rfl rfl rfl ?_ (.inl rfl) here.bound here.concluded
    simp [IntakeState.onOther, WorkflowDecision.keep]

end Deciding

/-! ## Runs -/

/-- An intake that has ended fails or stays as it is. -/
theorem ended_step (step : IntakeStep host state event decision)
    (ended : state.stage = .completed ∨ state.stage = .failed) :
    decision = state.onFailed event ∨ decision = state.onOther := by
  have elsewhere : ∀ {stage : IntakeStage}, state.stage = stage → stage ≠ .completed ∧ stage ≠ .failed → False := by
    rintro stage is ⟨unfinished, unfailed⟩
    rcases ended with completed | failed
    · exact unfinished (is.symm.trans completed)
    · exact unfailed (is.symm.trans failed)
  cases step with
  | failed type => exact .inl rfl
  | other ignored => exact .inr rfl
  | responded response type stage own | decided answer stage own | loaded type stage
  | evaluated accepted type stage | projected accepted effects type stage asked some
  | delegated sessionId summary type stage route => exact (elsewhere stage (by decide)).elim
  | settling type stage => rcases stage with stage | stage <;> exact (elsewhere stage (by decide)).elim

theorem fails_step (step : IntakeStep host state event decision) (unfailed : state.stage ≠ .failed)
    (failed : decision.state.stage = .failed) : event.type = "effect.failed" := by
  cases step with
  | failed type => exact type
  | responded | other => exact absurd failed unfailed
  | loaded =>
    unfold IntakeState.afterContext at failed
    dsimp only at failed
    split at failed <;> cases failed
  | settling type stage =>
    unfold IntakeState.settleProjection at failed
    dsimp only at failed
    split_ifs at failed
  | decided | evaluated | projected | delegated => cases failed

theorem route_step (step : IntakeStep host state event decision) : decision.state.route = state.route := by
  cases step with
  | loaded =>
    unfold IntakeState.afterContext
    dsimp only
    split <;> rfl
  | _ => rfl

/-- The runs of an intake in which every outcome is an answer. -/
abbrev answering (host : Host) : TransitionSystem (Progress IntakeState) Event :=
  (folding (messageIntakeWorkflow host)).restricted Answers

/-- How the recorded decision of the owner came about. -/
def Recorded (host : Host) (events : List Event) (progress : Progress IntakeState) : Prop :=
  ∀ recorded ∈ progress.state.approvalDecision, ∃ answer asked,
    (answering host).Passes events progress asked answer ∧ decides answer ∧
      recorded = IntakeState.decisionOf answer ∧ asked.state.stage = .awaitingApproval ∧
      progress.state.isOwnApproval answer

/-- What holds of an intake in every run, unless it has failed. -/
structure Followed (host : Host) (events : List Event) (progress : Progress IntakeState) : Prop where
  failing : progress.state.stage = .failed → ∃ entry ∈ progress.applied, entry.2.type = "effect.failed"
  tracking : progress.state.stage ≠ .failed → progress.state.route = .focus → Tracking host progress
  deciding : Deciding progress
  recorded : Recorded host events progress
  ended : progress.state.approvalDecision.isSome → progress.state.stage = .completed ∨ progress.state.stage = .failed

theorem Followed.begun {input : JsValue} {now : Timestamp}
    (begun : initialiseIntake host input now = .ok decision) : Followed host [] (.began decision) := by
  obtain ⟨state, rfl, unbound, undecided⟩ := initialiseIntake_ok begun
  have late : state.firstStage = .projecting ∨ state.firstStage = .loadingContext := by
    unfold IntakeState.firstStage
    split <;> simp
  have other : ∀ {stage : IntakeStage}, stage ≠ .projecting → stage ≠ .loadingContext → state.firstStage ≠ stage := by
    rintro stage unprojected unloaded rfl
    rcases late with is | is
    · exact unprojected is
    · exact unloaded is
  refine ⟨fun failed => absurd failed (other (by decide) (by decide)), ?_, ?_, ?_, ?_⟩
  · intro _ route
    have focus : state.route = .focus := route
    have first : state.firstStage = .loadingContext := by simp [IntakeState.firstStage, focus]
    refine ⟨by simp [Progress.began, IntakeState.awaiting], ?_,
      by simp [Progress.began, IntakeState.awaiting], ?_, ?_, ?_, ?_, ?_⟩
    · intro asked listed
      exact iff_of_true (by simp [Progress.began, IntakeState.awaiting, List.mem_singleton.mp listed]) rfl
    · intro _
      have effect : state.firstEffect host now = state.ask host "context" loadMessageContext
          [("event", state.sourceEvent.value), ("route", .string state.route.text),
            ("requestedAt", .string (toISOString now))] := by simp [IntakeState.firstEffect, focus]
      refine ⟨?_, fun asked listed => ?_⟩
      · rw [Progress.began, IntakeState.awaiting, effect]
        rfl
      · rw [Progress.began, IntakeState.awaiting, effect] at listed
        rw [List.mem_singleton.mp listed]
        exact ⟨rfl, rfl⟩
    all_goals simp [Progress.began, IntakeState.awaiting, first]
  · refine ⟨iff_of_false (by simp [Progress.began, IntakeState.awaiting]) (other (by decide) (by decide)), ?_,
      fun _ => unbound, ?_, fun is => absurd is (other (by decide) (by decide)),
      fun is => absurd is (other (by decide) (by decide)), ?_⟩
    · intro loading interaction
      have first : state.firstStage = .projecting := by
        simp [IntakeState.firstStage, show state.route = .interaction from interaction]
      exact absurd (first.symm.trans loading) (by decide)
    · rintro (evaluating | bound)
      · exact absurd evaluating (other (by decide) (by decide))
      · rw [show (Progress.began (state.awaiting state.firstStage (state.firstEffect host now))).state.approvalId
          = none from unbound] at bound
        cases bound
    · intro card listed kind
      rw [List.mem_singleton.mp listed] at kind
      unfold IntakeState.firstEffect at kind
      split at kind
      · exact absurd kind (by simp [IntakeState.ask, applyInteraction, requestInteraction])
      · exact absurd kind (by simp [IntakeState.ask, loadMessageContext, requestInteraction])
  · intro recorded known
    rw [show (Progress.began (state.awaiting state.firstStage (state.firstEffect host now))).state.approvalDecision
      = none from undecided] at known
    cases known
  · intro known
    rw [show (Progress.began (state.awaiting state.firstStage (state.firstEffect host now))).state.approvalDecision
      = none from undecided] at known
    cases known

/-- A decision is recorded by the step that takes the owner's answer. -/
theorem records_step (step : IntakeStep host state event decision) :
    decision.state.approvalDecision = state.approvalDecision ∨
      decides event ∧ state.stage = .awaitingApproval ∧ state.isOwnApproval event ∧
        decision.state = decided state event := by
  cases step with
  | decided answer stage own => exact .inr ⟨answer, stage, own, rfl⟩
  | loaded =>
    left
    unfold IntakeState.afterContext
    dsimp only
    split <;> rfl
  | _ => exact .inl rfl

theorem Followed.next (here : Followed host events progress) (run : (answering host).Run events progress)
    (heard : Heard progress) (taken : (answering host).Step progress event (progress.next event decision))
    (step : IntakeStep host progress.state event decision) :
    Followed host (events ++ [event]) (progress.next event decision) := by
  have answers : Answers progress event := taken.2
  have kept : progress.state.stage = .completed ∨ progress.state.stage = .failed →
      decision.state.approvalId = progress.state.approvalId ∧
        (decision.state.stage = .completed ∨ decision.state.stage = .failed) := by
    intro ended
    rcases ended_step step ended with rfl | rfl
    · exact ⟨rfl, .inr rfl⟩
    · exact ⟨rfl, ended⟩
  refine ⟨?_, ?_, here.deciding.step step, ?_, ?_⟩
  · intro failed
    by_cases before : progress.state.stage = .failed
    · obtain ⟨entry, listed, type⟩ := here.failing before
      exact ⟨entry, List.mem_append_left _ listed, type⟩
    · exact ⟨_, List.mem_append_right _ (List.mem_singleton_self _), fails_step step before failed⟩
  · intro unfailed route
    have same := route_step step
    have before : progress.state.stage ≠ .failed := by
      intro failed
      refine unfailed ?_
      rcases ended_step step (.inr failed) with rfl | rfl
      · rfl
      · exact failed
    exact (here.tracking before (same.symm.trans route)).step heard answers (same.symm.trans route) step unfailed
  · intro recorded known
    rcases records_step step with same | ⟨answer, stage, own, state⟩
    · have before : recorded ∈ progress.state.approvalDecision := same ▸ known
      obtain ⟨given, asked, passes, answers, is, awaiting, own⟩ := here.recorded recorded before
      have approval := (kept (here.ended (Option.isSome_of_mem before))).1
      refine ⟨given, asked, passes.extend taken, answers, is, awaiting, ?_⟩
      rw [IntakeState.isOwnApproval] at own ⊢
      rw [show (progress.next event decision).state.approvalId = _ from approval]
      exact own
    · refine ⟨event, progress, .last run taken, answer, ?_, stage, ?_⟩
      · rw [show (progress.next event decision).state = _ from state] at known
        exact (Option.some_inj.mp known).symm
      · rw [show (progress.next event decision).state = _ from state]
        exact own
  · intro known
    rcases records_step step with same | ⟨answer, stage, own, state⟩
    · exact (kept (here.ended (same ▸ known))).2
    · rw [show (progress.next event decision).state = _ from state]
      exact .inl rfl

theorem intake_run_followed (run : (answering host).Run events progress) : Followed host events progress := by
  refine run.history (motive := Followed host) ?_ ?_
  · rintro progress ⟨input, now, decision, begun, rfl⟩
    exact .begun begun
  · rintro events event before after run here taken
    obtain ⟨⟨produced, fresh, decision, reduced, rfl⟩, answers⟩ := taken
    exact here.next run (run_answers id run).1 ⟨⟨produced, fresh, decision, reduced, rfl⟩, answers⟩
      (intake_step reduced)

/-- What a completed intake keeps as long as it does not fail. -/
theorem completed_stays {next : Progress IntakeState} {labels : List Event}
    (steps : (answering host).Steps progress labels next)
    (completed : progress.status = .completed ∧ progress.state.stage = .completed)
    (unfailed : next.state.stage ≠ .failed) : next.status = .completed ∧
      next.state.approvalDecision = progress.state.approvalDecision ∧
      next.state.approvalId = progress.state.approvalId := by
  have kept : next.state.stage = .failed ∨ (next.status = .completed ∧ next.state.stage = .completed ∧
      next.state.approvalDecision = progress.state.approvalDecision ∧
      next.state.approvalId = progress.state.approvalId) := by
    refine steps.preserves (fun later => later.state.stage = .failed ∨
      (later.status = .completed ∧ later.state.stage = .completed ∧
        later.state.approvalDecision = progress.state.approvalDecision ∧
        later.state.approvalId = progress.state.approvalId)) ?_ (.inr ⟨completed.1, completed.2, rfl, rfl⟩)
    rintro before event after here ⟨⟨-, -, decision, reduced, rfl⟩, -⟩
    have ended : before.state.stage = .completed ∨ before.state.stage = .failed := here.symm.imp (·.2.1) id
    rcases ended_step (intake_step reduced) ended with rfl | rfl
    · exact .inl rfl
    · rcases here with failed | ⟨-, stage, decision, approval⟩
      · exact .inl failed
      · exact .inr ⟨by simp [Progress.next, IntakeState.onOther, WorkflowDecision.keep, stage], stage, decision, approval⟩
  exact (kept.resolve_left unfailed).imp id (·.2)

/-- A decision that is taken while the approval is awaited completes the intake with it. -/
theorem decides_awaiting {next : Progress IntakeState}
    (taken : (answering host).Step progress event next) (answer : decides event)
    (awaiting : progress.state.stage = .awaitingApproval) : next.status = .completed ∧ next.state.stage = .completed ∧
      next.state.approvalDecision = some (IntakeState.decisionOf event) := by
  obtain ⟨⟨-, -, decision, reduced, rfl⟩, -⟩ := taken
  have elsewhere : ∀ {type : String}, event.type = type → type ≠ "approval.approved" →
      type ≠ "approval.declined" → False := by
    rintro type is unapproved undeclined
    rcases answer with approved | declined
    · exact unapproved (is.symm.trans approved)
    · exact undeclined (is.symm.trans declined)
  cases intake_step reduced with
  | decided => exact ⟨rfl, rfl, rfl⟩
  | other ignored => exact absurd awaiting (ignored.undecided answer)
  | failed type | responded response type | loaded type | evaluated accepted type
  | projected accepted effects type | delegated sessionId summary type | settling type =>
    exact (elsewhere type (by decide) (by decide)).elim

/-- Where every effect was delivered the intake awaits the approval or is completed. -/
theorem settled_stage (run : (answering host).Run events progress) (route : progress.state.route = .focus)
    (settled : Settled progress) : progress.state.stage = .awaitingApproval ∨ progress.state.stage = .completed := by
  have here := intake_run_followed run
  have unfailed : progress.state.stage ≠ .failed := by
    intro failed
    obtain ⟨entry, listed, type⟩ := here.failing failed
    obtain ⟨heard, once⟩ := run_answers id run
    exact settled.unfailed heard once entry listed type
  have tracking := here.tracking unfailed route
  have nothing := tracking.settled_iff.mp settled
  cases stage : progress.state.stage with
  | loadingContext =>
    have waits := (tracking.loading stage).1
    rw [nothing] at waits
    cases waits
  | evaluating =>
    have waits := (tracking.evaluating stage).1
    rw [nothing] at waits
    cases waits
  | projecting => exact absurd nothing (tracking.projecting stage)
  | awaitingApproval => exact .inl rfl
  | reporting => exact absurd stage tracking.unreporting
  | completed => exact .inr rfl
  | failed => exact absurd stage unfailed

/-- The owner's one decision about a card completes the intake, and is recorded, exactly
when it was given after every effect was delivered. -/
theorem intake_run_decided (run : (answering host).Run events progress) (settled : Settled progress)
    {card : EffectInput} (shown : card ∈ progress.effects) (kind : card.kind = requestInteraction)
    {click : Event} (answer : decides click)
    (own : click.payload.get "approvalId" = card.payload.get "approvalId")
    (once : ∀ other ∈ events, decides other →
      other.payload.get "approvalId" = card.payload.get "approvalId" → other = click) :
    (progress.status = .completed ∧ progress.state.approvalDecision = some (IntakeState.decisionOf click)) ↔
      ∃ asked, (answering host).Passes events progress asked click ∧ Settled asked := by
  have here := intake_run_followed run
  obtain ⟨approvalId, bound, named⟩ := here.deciding.card card shown kind
  have focus : progress.state.route = .focus := here.deciding.focus (.inr (Option.isSome_of_mem bound))
  -- Any decision about this approval is the click.
  have only : ∀ other ∈ events, decides other → progress.state.isOwnApproval other → other = click := by
    rintro other given decided ⟨approval, known, names⟩
    refine once other given decided ?_
    rw [names, named, Option.some_inj.mp ((Option.mem_def.mp known).symm.trans bound)]
  constructor
  · rintro ⟨-, recorded⟩
    obtain ⟨given, asked, passes, decided, -, awaiting, names⟩ := here.recorded _ (Option.mem_def.mpr recorded)
    obtain ⟨before, after, rfl, earlier, steps⟩ := passes
    obtain rfl := only given (by simp) decided names
    refine ⟨asked, ⟨before, after, rfl, earlier, steps⟩, ?_⟩
    have then' := intake_run_followed earlier
    have route : asked.state.route = .focus := then'.deciding.focus (.inr (then'.deciding.bound awaiting))
    have tracking := then'.tracking (by simp [awaiting]) route
    exact tracking.settled_iff.mpr (tracking.idle (.inl awaiting))
  · rintro ⟨asked, ⟨before, after, rfl, earlier, steps⟩, done⟩
    have then' := intake_run_followed earlier
    have route : asked.state.route = .focus := by
      refine Eq.trans ?_ focus
      refine (steps.preserves (fun later => later.state.route = asked.state.route) ?_ rfl).symm
      rintro before event after same ⟨⟨-, -, decision, reduced, rfl⟩, -⟩
      exact (route_step (intake_step reduced)).trans same
    have unfailed : progress.state.stage ≠ .failed := by
      rcases settled_stage run focus settled with stage | stage <;> simp [stage]
    rcases settled_stage earlier route done with awaiting | completed
    · cases steps with
      | next taken rest =>
        obtain ⟨status, stage, recorded⟩ := decides_awaiting taken answer awaiting
        obtain ⟨completed, same, -⟩ := completed_stays rest ⟨status, stage⟩ unfailed
        exact ⟨completed, same.trans recorded⟩
    · -- A completed intake with an approval has its decision: the click was given before.
      exfalso
      have status := then'.deciding.status.mpr completed
      obtain ⟨-, -, approval⟩ := completed_stays steps ⟨status, completed⟩ unfailed
      have some : asked.state.approvalId.isSome := approval ▸ Option.isSome_of_mem bound
      obtain ⟨recorded, known⟩ := Option.isSome_iff_exists.mp (then'.deciding.concluded completed some)
      obtain ⟨given, -, ⟨first, rest, rfl, -, -⟩, decided, -, -, names⟩ := then'.recorded recorded known
      have names : progress.state.isOwnApproval given := by
        rw [IntakeState.isOwnApproval] at names ⊢
        rw [approval]
        exact names
      obtain rfl := only given (by simp) decided names
      cases steps with
      | next taken rest => exact run_fresh earlier taken (by simp)

/-! ## A message that needs an approval -/

def messageHost : Host := .tabulated "Asia/Shanghai" 28800000 [("om_1", "8a2e5c3b1d9f4e6a7b8c9d0e")] []

def messageInput : JsValue :=
  .object [("route", "focus"), ("workspace", "/workspace"),
    ("event", .object [("deduplicationKey", "om_1"), ("source", .object [("resourceId", "om_1")])]),
    ("taskProjection", .object [("projectId", "automation")])]

def messageEvent : SourceEvent where
  value := .object [("deduplicationKey", "om_1"), ("source", .object [("resourceId", "om_1")])]
  deduplicationKey := "om_1"
  keyed := rfl

def messageState : IntakeState :=
  { stage := .loadingContext, route := .focus, sourceEvent := messageEvent, workspace := "/workspace"
    pending := [], decision := none, approvalId := none
    taskProjection := some (.object [("projectId", "automation")]), delegatedSessionId := none
    approvalResponse := none, approvalResponseAt := none, approvalDecision := none
    approvalDecidedAt := none, failure := none }

def messageStart : WorkflowDecision IntakeState :=
  messageState.awaiting .loadingContext (messageState.firstEffect messageHost 1767553200000)

theorem message_begun : initialiseIntake messageHost messageInput 1767553200000 = .ok messageStart := by
  rfl

def quotaDecision : JsValue :=
  .object [("outcome", "task"), ("summary", "需要批准配额"), ("materialChange", .bool true),
    ("notifyOwner", .bool true), ("approvalRequired", .bool true), ("title", "确认配额"),
    ("priority", .number 3), ("tags", .array ["待批准"])]

/-- The context is loaded and evaluated, and the card is shown. -/
def cardShown : List Given :=
  [.other (effectReport "intake:8a2e5c3b1d9f4e6a7b8c9d0e:context" loadMessageContext "delivered"
      [("context", .object [])] 1767553201000),
    .other (effectReport "intake:8a2e5c3b1d9f4e6a7b8c9d0e:evaluate" evaluateFocus "delivered"
      [("decision", quotaDecision)] 1767553202000),
    .other (effectReport "intake:8a2e5c3b1d9f4e6a7b8c9d0e:approval-card" requestInteraction "delivered" []
      1767553203000)]

def taskWritten : Given :=
  .other (effectReport "intake:8a2e5c3b1d9f4e6a7b8c9d0e:task" upsertIntake "delivered" [] 1767553204000)

def ownerApproves : Event :=
  { id := "card:approved", type := "approval.approved", occurredAt := 1767553205000
    payload := .object [("approvalId", "intake:8a2e5c3b1d9f4e6a7b8c9d0e:approval-decision")] }

/-- The owner approves while the task is being written: the intake awaits the approval for ever. -/
theorem earlyApproval_not_decided : ∃ events asked progress card,
    (answering messageHost).Run events progress ∧ Settled progress ∧
      (answering messageHost).Passes events progress asked ownerApproves ∧
      card ∈ asked.effects ∧ card.kind = requestInteraction ∧ asked.reported "effect.delivered" card ∧
      ownerApproves.payload.get "approvalId" = card.payload.get "approvalId" ∧
      ¬ (progress.status = .completed ∧
        progress.state.approvalDecision = some (IntakeState.decisionOf ownerApproves)) := by
  obtain ⟨asked, progress, card, shown, rest, settled, listed, kind, delivered, own, undecided⟩ : ∃ asked progress card,
        replay (messageIntakeWorkflow messageHost) Answers cardShown (.began messageStart) = some asked ∧
        replay (messageIntakeWorkflow messageHost) Answers [.other ownerApproves, taskWritten] asked = some progress ∧
        Settled progress ∧ asked.effects[3]? = some card ∧ card.kind = requestInteraction ∧
        asked.reported "effect.delivered" card ∧
        ownerApproves.payload.get "approvalId" = card.payload.get "approvalId" ∧
        progress.state.approvalDecision = none :=
    ⟨_, _, _, rfl, rfl, by decide, rfl, rfl, by decide, by decide, rfl⟩
  have earlier := replay_run message_begun shown
  have later := replay_steps rest
  refine ⟨_, asked, progress, card, earlier.extend later, settled, ⟨_, _, rfl, earlier, later⟩,
    List.mem_of_getElem? listed, kind, delivered, own, ?_⟩
  rintro ⟨-, recorded⟩
  rw [undecided] at recorded
  cases recorded

/-- The owner approves after the task was written. -/
theorem approval_decided : ∃ progress : Progress IntakeState,
    progress.status = .completed ∧ progress.state.approvalDecision = some .approved := by
  obtain ⟨asked, progress, card, shown, rest, settled, done, listed, kind, own⟩ : ∃ asked progress card,
        replay (messageIntakeWorkflow messageHost) Answers (cardShown ++ [taskWritten]) (.began messageStart) =
          some asked ∧
        replay (messageIntakeWorkflow messageHost) Answers [.other ownerApproves] asked = some progress ∧
        Settled asked ∧ Settled progress ∧ progress.effects[3]? = some card ∧
        card.kind = requestInteraction ∧
        ownerApproves.payload.get "approvalId" = card.payload.get "approvalId" :=
    ⟨_, _, _, rfl, rfl, by decide, by decide, rfl, rfl, by decide⟩
  have earlier := replay_run message_begun shown
  have later := replay_steps rest
  refine ⟨progress, (intake_run_decided (earlier.extend later) done (List.mem_of_getElem? listed) kind
    (.inl rfl) own ?_).mpr ⟨asked, ⟨_, _, rfl, earlier, later⟩, settled⟩⟩
  intro other given decided named
  simp only [cardShown, taskWritten, Given.event, List.map_append, List.map_cons, List.map_nil, List.mem_append,
    List.mem_cons, List.not_mem_nil, or_false] at given
  rcases given with ((rfl | rfl | rfl) | rfl) | rfl
  · exact absurd decided (by decide)
  · exact absurd decided (by decide)
  · exact absurd decided (by decide)
  · exact absurd decided (by decide)
  · rfl

end QuarkSelfAI.Intake

import QuarkSelfAI.Intake.Approval
import QuarkSelfAI.Intake.Ingress

/-!
# What a call does at the ingress

`Effect` lists what one call can do: journal an event that is new, find it known, handle a
stored event, carry an intake on, or leave the journal and the intakes as they are.
-/

namespace QuarkSelfAI.Intake

open Foundation Storage Storage.WorkflowStore Workflow
open Domain Lark

/-! ## Intakes -/

section Intakes

variable {host : Host} {state : IntakeState} {event : Event} {decision : WorkflowDecision IntakeState}

/-- An intake begins with the route and the event of its input. -/
theorem initialiseIntake_source {input : JsValue} {now : Timestamp}
    (begun : initialiseIntake host input now = .ok decision) :
    ∃ state : IntakeState, decision = state.awaiting state.firstStage (state.firstEffect host now) ∧
      IntakeRoute.read (input.get "route") = some state.route ∧
      state.sourceEvent.value = input.get "event" := by
  unfold initialiseIntake at begun
  obtain ⟨workspace, -, begun⟩ := bind_ok.mp begun
  obtain ⟨route, routed, begun⟩ := bind_ok.mp begun
  obtain ⟨sourceEvent, sourced, begun⟩ := bind_ok.mp begun
  refine ⟨_, (Except.ok.inj begun).symm, ?_, ?_⟩
  · unfold readRoute at routed
    split at routed
    · cases routed
    · split at routed
      · cases routed
      · rename_i read
        cases routed
        exact read
  · unfold readSourceEvent at sourced
    split at sourced
    · cases sourced
      rfl
    · cases sourced

/-- An intake keeps its route and its event. -/
theorem IntakeStep.kept (step : IntakeStep host state event decision) :
    decision.state.route = state.route ∧ decision.state.sourceEvent = state.sourceEvent := by
  cases step with
  | loaded =>
    unfold IntakeState.afterContext
    split
    · exact ⟨rfl, rfl⟩
    · exact ⟨rfl, rfl⟩
  | failed | responded | decided | evaluated | projected | delegated | settling | other => exact ⟨rfl, rfl⟩

theorem firstEffect_kind {now : Timestamp} : (state.firstEffect host now).kind ≠ dispatchConversation := by
  unfold IntakeState.firstEffect
  split
  · exact ne_of_beq_false rfl
  · exact ne_of_beq_false rfl

/-- No effect that a decision projects is a command. -/
theorem projections_kind {accepted : IntakeDecision} {effects : List EffectInput}
    (asked : state.projections host event accepted = .ok effects) {effect : EffectInput}
    (listed : effect ∈ effects) : effect.kind ≠ dispatchConversation := by
  unfold IntakeState.projections at asked
  obtain ⟨tasks, made, asked⟩ := bind_ok.mp asked
  cases asked
  rcases List.mem_append.mp listed with task | card
  · rcases tasks_ok made with rfl | ⟨single, rfl, -, kind⟩
    · cases task
    · rw [List.mem_singleton.mp task, kind]
      decide
  · split at card
    · rw [List.mem_singleton.mp card]
      unfold IntakeState.cardEffect IntakeState.ask
      dsimp only
      split
      · decide
      · decide
    · cases card

/-- A command is asked for by an intake of that route, with the event of the intake. -/
theorem IntakeStep.dispatches (step : IntakeStep host state event decision) {effect : EffectInput}
    (asked : effect ∈ decision.effects) (kind : effect.kind = dispatchConversation) :
    state.route = .ownerCommand ∧ effect.payload.get "event" = state.sourceEvent.value := by
  cases step with
  | loaded =>
    unfold IntakeState.afterContext at asked
    dsimp only at asked
    split at asked
    · rename_i command
      cases List.mem_singleton.mp asked
      exact ⟨command, rfl⟩
    · cases List.mem_singleton.mp asked
      exact absurd kind (by simp [IntakeState.ask, evaluateFocus, dispatchConversation])
  | projected accepted effects type stage projected => exact absurd kind (projections_kind projected asked)
  | delegated =>
    cases List.mem_singleton.mp asked
    exact absurd kind (by simp [IntakeState.ask, notifyOwner, dispatchConversation])
  | failed | responded | decided | evaluated | settling | other => cases asked

end Intakes

/-! ## Handled events -/

section Handling

variable {host : Host} {collate : String → String → Bool} {config : IntakePluginConfig}
  {event : ChannelEvent} {now clock : Timestamp} {before after : Store IntakeState}

/-- An intake that was begun for an event. -/
structure Begun (host : Host) (config : IntakePluginConfig) (event : ChannelEvent)
    (row : Instance IntakeState) : Prop where
  id : row.id = workflowId host event
  route : config.handled event = some row.state.route
  source : row.state.sourceEvent.value = eventValue event

/-- What handling an event does to the intakes. -/
inductive Handled (host : Host) (config : IntakePluginConfig) (event : ChannelEvent) (before : Store IntakeState) :
    Except String Unit → Store IntakeState → Prop where
  | unrouted (nowhere : config.handled event = none) : Handled host config event before (.ok ()) before
  | threw (message : String) : Handled host config event before (.error message) before
  | known {row} (stored : before.workflow (workflowId host event) = some row) :
      Handled host config event before (.ok ()) before
  | created {row instances effects} (begun : Begun host config event row)
      (instanced : before.instances.insert? row = some instances)
      (requested : ∀ effect ∈ effects, effect ∈ before.effects ∨ effect.kind ≠ dispatchConversation) :
      Handled host config event before (.ok ()) { before with instances, effects }

theorem read_text (route : IntakeRoute) : IntakeRoute.read (.string route.text) = some route := by
  cases route <;> rfl

theorem handle_spec {outcome : Except String Unit}
    (done : handle host collate config event now clock before = (outcome, after)) :
    Handled host config event before outcome after := by
  unfold handle at done
  split at done
  · rename_i nowhere
    cases done
    exact .unrouted nowhere
  · rename_i route routed
    cases ensured : (intakeRuntime host collate).ensure (workflowId host event) "message-intake.v1"
        (intakeInput config event route) now clock before with
    | mk reply store =>
      rw [ensured] at done
      cases ensure_spec ensured with
      | threw message =>
        cases done
        exact .threw message
      | found stored =>
        cases done
        exact .known stored
      | @created definition decision instances effects registered begun instanced requested =>
        cases done
        have own : definition = messageIntakeWorkflow host := by
          simpa [intakeRuntime] using registered.symm
        subst own
        obtain ⟨state, rfl, read, source⟩ := initialiseIntake_source begun
        refine .created ⟨rfl, ?_, source⟩ instanced fun effect stored => ?_
        · have same : route = state.route := by
            have given : (intakeInput config event route).get "route" = .string route.text := rfl
            rw [given, read_text] at read
            exact Option.some_inj.mp read
          rw [routed, same]
          rfl
        · rw [← Table.mem_rows, insertWorkflowEffects_rows requested] at stored
          rcases List.mem_append.mp stored with old | new
          · exact .inl old
          · obtain ⟨asked, listed, rfl⟩ := List.mem_map.mp new
            cases List.mem_singleton.mp listed
            exact .inr firstEffect_kind

end Handling

/-! ## Intakes that are carried on -/

/-- What an event dispatched to an intake does. -/
inductive Carried (host : Host) (event : Event) (before : Store IntakeState) : Store IntakeState → Prop where
  | kept : Carried host event before before
  | advanced {current next decision after} (found : before.workflow current.id = some current)
      (step : IntakeStep host current.state event decision) (id : next.id = current.id)
      (state : next.state = decision.state)
      (stored : ∀ other, after.workflow other =
        if other = current.id then some next else before.workflow other)
      (requested : ∀ effect ∈ after.effects, effect ∈ before.effects ∨
        ∃ asked ∈ decision.effects, effect.kind = asked.kind ∧ effect.payload = asked.payload) :
      Carried host event before after

/-- An advance adds the effects that it asks for. -/
theorem advanced_effects {input : AdvanceWorkflowInput IntakeState JsValue Timestamp} {clock : Timestamp}
    {before after : Store IntakeState} {row : Instance IntakeState}
    (applied : before.advanceWorkflow input clock = (.ok (true, row), after)) :
    ∀ effect ∈ after.effects, effect ∈ before.effects ∨
      ∃ asked ∈ input.effects, effect.kind = asked.kind ∧ effect.payload = asked.payload := by
  intro effect stored
  cases advanceBody_outcome (transaction_ok.mp applied) with
  | advanced found expected evented logged requested =>
    rw [← Table.mem_rows, insertWorkflowEffects_rows requested] at stored
    rcases List.mem_append.mp stored with old | new
    · exact .inl old
    · obtain ⟨asked, listed, rfl⟩ := List.mem_map.mp new
      exact .inr ⟨asked, listed, rfl, rfl⟩

theorem dispatch_carried {host : Host} {collate : String → String → Bool} {instanceId : String} {event : Event}
    {clock : Timestamp} {before after : Store IntakeState} {reply : Except String (Instance IntakeState)}
    (done : (intakeRuntime host collate).dispatch instanceId event clock before = (reply, after)) :
    Carried host event before after := by
  cases Runtime.dispatch_spec done with
  | threw | repeated => exact .kept
  | @advanced current input next found decided unrecorded applied =>
    obtain ⟨definition, decision, registered, -, reduced, -, rfl⟩ := Runtime.decide_ok_iff.mp decided
    have named : current.id = instanceId := Table.find?_key found
    have own : definition = messageIntakeWorkflow host := by
      unfold intakeRuntime at registered
      dsimp only at registered
      split at registered
      · exact (Option.some_inj.mp registered).symm
      · cases registered
    subst own
    refine @Carried.advanced _ _ _ current (advancedRow (Runtime.advanceInput current event decision) current)
      decision _ (named ▸ found) (intake_step reduced) rfl rfl (fun other => ?_) fun effect stored => ?_
    · rw [Runtime.workflow_advanced applied]
      rfl
    · exact advanced_effects applied effect stored

/-! ## Calls -/

/-- The event that a call brings to the journal. -/
def arrival (host : LarkHost) : IngressCall → Option ChannelEvent
  | .receive eventKey value _ => (host.normalizeLarkEvent eventKey value).toOption
  | .discover candidate _ => host.eventOf candidate
  | _ => none

def IngressReply.isAppended : IngressReply → Bool
  | .appended .. => true
  | _ => false

namespace Ingress

/-- The consumer has settled an event. -/
def Delivered (events : EventStore JsValue Timestamp) (eventId : String) : Prop :=
  ∃ delivery, events.delivery? messageIntake eventId = some delivery ∧ delivery.status = .delivered

/-- What one call does. -/
inductive Effect (host : LarkHost) (collate : String → String → Bool) (config : IntakePluginConfig)
    (before : Ingress) : IngressCall → IngressReply → Ingress → Prop where
  | journaled {call event clock events} (arrived : arrival host call = some event)
      (fresh : ∀ row ∈ before.events.events, row.event.deduplicationKey ≠ event.deduplicationKey)
      (inserted : before.events.events.insert? ⟨recordId event, event, clock⟩ = some events) :
      Effect host collate config before call (.appended event true)
        { before with events := { before.events with events } }
  | repeated {call event row} (arrived : arrival host call = some event)
      (stored : row ∈ before.events.events)
      (same : row.event.deduplicationKey = event.deduplicationKey) (inserted : Bool) :
      Effect host collate config before call (.appended event inserted) before
  | idle {call reply} (quiet : reply.isAppended = false) : Effect host collate config before call reply before
  | claimed {call reply events} (quiet : reply.isAppended = false) (journal : events.events = before.events.events)
      (delivered : ∀ id, Delivered events id → Delivered before.events id) :
      Effect host collate config before call reply { before with events }
  | handled {call reply row outcome events workflows} (quiet : reply.isAppended = false)
      (stored : row ∈ before.events.events) (done : Handled host.toHost config row.event before.workflows outcome workflows)
      (journal : events.events = before.events.events)
      (delivered : ∀ id, Delivered events id →
        Delivered before.events id ∨ id = row.id ∧ outcome = .ok ()) :
      Effect host collate config before call reply { events, workflows }
  | dispatched {call reply event workflows} (quiet : reply.isAppended = false)
      (carried : Carried host.toHost event before.workflows workflows) :
      Effect host collate config before call reply { before with workflows }
  | moved {call reply effects} (quiet : reply.isAppended = false)
      (kept : ∀ effect ∈ effects, ∃ old ∈ before.workflows.effects,
        effect.kind = old.kind ∧ effect.payload = old.payload ∧ effect.instanceId = old.instanceId) :
      Effect host collate config before call reply
        { before with workflows := { before.workflows with effects } }

variable {host : LarkHost} {collate : String → String → Bool} {config : IntakePluginConfig}
  {before after : Ingress} {call : IngressCall} {reply : IngressReply}

theorem append_effect {event : ChannelEvent} {clock : Timestamp} (arrived : arrival host call = some event)
    (done : before.append host event clock = (reply, after)) :
    Effect host collate config before call reply after := by
  unfold append LarkHost.appendEvent at done
  cases identified : host.eventRecordId event with
  | error message =>
    rw [identified] at done
    cases done
    exact .idle rfl
  | ok id =>
    obtain ⟨_, -, named⟩ := bind_ok.mp identified
    cases named
    rw [identified] at done
    dsimp only at done
    unfold EventStore.appendEvent at done
    cases found : before.events.events.rows.find? fun row =>
        decide (row.event.deduplicationKey = event.deduplicationKey) with
    | some row =>
      rw [found] at done
      cases done
      have same : row.event.deduplicationKey = event.deduplicationKey := by
        simpa using List.find?_some found
      exact .repeated arrived (Table.mem_rows.mp (List.mem_of_find?_eq_some found)) same false
    | none =>
      rw [found] at done
      have fresh : ∀ row ∈ before.events.events, row.event.deduplicationKey ≠ event.deduplicationKey := by
        intro row stored same
        exact absurd (decide_eq_true same) (List.find?_eq_none.mp found row stored)
      cases inserted : before.events.events.insertOrThrow ⟨recordId event, event, clock⟩ "assistant_event.id" with
      | error message =>
        rw [inserted] at done
        cases done
        exact .idle rfl
      | ok events =>
        rw [inserted] at done
        cases done
        exact .journaled arrived fresh (Table.insertOrThrow_ok.mp inserted)

/-- Claiming settles nothing. -/
theorem claim_effect {workerId : String} {now leaseExpiresAt : Timestamp} {events : EventStore JsValue Timestamp}
    {claimed : Except String (Option (ClaimedChannelEvent JsValue))}
    (done : before.events.claimNextEvent messageIntake intakeEventKeys workerId now leaseExpiresAt =
      (claimed, events)) :
    events.events = before.events.events ∧ ∀ id, Delivered events id → Delivered before.events id := by
  have answered : EventStore.answer EventReply.claimed
      (before.events.claimNextEvent messageIntake intakeEventKeys workerId now leaseExpiresAt) =
        EventStore.answer EventReply.claimed (claimed, events) := congrArg _ done
  have effect : before.events.Effect (.claimNextEvent messageIntake intakeEventKeys workerId now leaseExpiresAt)
      (EventStore.answer EventReply.claimed (claimed, events)).1
      (EventStore.answer EventReply.claimed (claimed, events)).2 := EventStore.claimNextEvent_effect answered
  have left : (EventStore.answer EventReply.claimed (claimed, events)).2 = events := by
    cases claimed <;> rfl
  rw [left] at effect
  generalize (EventStore.answer EventReply.claimed (claimed, events)).1 = reply at effect
  cases effect with
  | threw | idle => exact ⟨rfl, fun _ delivered => delivered⟩
  | @claimedFirst _ _ _ _ _ _ row fresh journal deliveries =>
    refine ⟨journal, ?_⟩
    rintro id ⟨delivery, found, status⟩
    rw [EventStore.delivery?, Table.find?_inserted deliveries] at found
    split at found
    · cases found
      cases status
    · exact ⟨delivery, found, status⟩
  | @claimedAgain _ _ _ _ _ old _ row found opened journal deliveries =>
    refine ⟨journal, ?_⟩
    rintro id ⟨delivery, found, status⟩
    rw [EventStore.delivery?, deliveries, Table.find?_update] at found
    split at found
    · obtain ⟨earlier, -, rfl⟩ := Option.map_eq_some_iff.mp found
      cases status
    · exact ⟨delivery, found, status⟩

/-- A turn of the consumer settles its own event alone, and that once it is handled. -/
theorem finish_delivered {workerId eventId : String} {clock availableAt : Timestamp} {terminal : Bool}
    {outcome : Except String Unit} {events : EventStore JsValue Timestamp} :
    (finish workerId eventId clock availableAt terminal outcome events).events = events.events ∧
      ∀ id, Delivered (finish workerId eventId clock availableAt terminal outcome events) id →
        Delivered events id ∨ id = eventId ∧ outcome = .ok () := by
  have released : ∀ input : EventClaimRelease Timestamp, input.consumerName = messageIntake →
      (events.releaseEvent input).2.events = events.events ∧
        ∀ id, Delivered (events.releaseEvent input).2 id → Delivered events id := by
    intro input consumer
    unfold EventStore.releaseEvent
    split
    · refine ⟨rfl, ?_⟩
      rintro id ⟨delivery, found, status⟩
      rw [EventStore.delivery?, Table.find?_update] at found
      split at found
      · obtain ⟨earlier, -, rfl⟩ := Option.map_eq_some_iff.mp found
        cases terminal : input.terminal <;> simp [EventStore.releasedDelivery, terminal] at status
      · exact ⟨delivery, found, status⟩
    · exact ⟨rfl, fun _ delivered => delivered⟩
  unfold finish
  cases outcome with
  | error message =>
    obtain ⟨journal, kept⟩ := released ⟨messageIntake, eventId, workerId, message, availableAt, terminal⟩ rfl
    exact ⟨journal, fun id delivered => .inl (kept id delivered)⟩
  | ok done =>
    dsimp only
    cases settled : events.settleEvent messageIntake eventId workerId clock with
    | mk answered next =>
      cases answered with
      | error message =>
        have unsettled : next = events := by
          unfold EventStore.settleEvent at settled
          split at settled
          · cases settled
          · exact (Prod.mk.inj settled).2.symm
        rw [unsettled]
        obtain ⟨journal, kept⟩ := released ⟨messageIntake, eventId, workerId, message, availableAt, terminal⟩ rfl
        exact ⟨journal, fun id delivered => .inl (kept id delivered)⟩
      | ok _ =>
        unfold EventStore.settleEvent at settled
        split at settled
        · cases settled
          refine ⟨rfl, ?_⟩
          rintro id ⟨delivery, found, status⟩
          rw [EventStore.delivery?, Table.find?_update] at found
          split at found
          · rename_i own
            exact .inr ⟨(Prod.mk.inj own).2, rfl⟩
          · exact .inl ⟨delivery, found, status⟩
        · cases settled

/-- Claiming, settling and releasing effects leaves what they are. -/
theorem moved_effects {moving : StoreCall IntakeState JsValue Timestamp} (moves : movesEffects moving)
    (store : Store IntakeState) : ∃ effects, (store.perform collate moving).2 = { store with effects } ∧
      ∀ effect ∈ effects, ∃ old ∈ store.effects,
        effect.kind = old.kind ∧ effect.payload = old.payload ∧ effect.instanceId = old.instanceId := by
  have same : ∀ effect ∈ store.effects, ∃ old ∈ store.effects,
      effect.kind = old.kind ∧ effect.payload = old.payload ∧ effect.instanceId = old.instanceId :=
    fun effect stored => ⟨effect, stored, rfl, rfl, rfl⟩
  have updated : ∀ (id : String) (change : WorkflowEffectRow JsValue Timestamp → WorkflowEffectRow JsValue Timestamp)
      (keeps : ∀ row, (change row).id = row.id),
      (∀ row, (change row).kind = row.kind ∧ (change row).payload = row.payload ∧
        (change row).instanceId = row.instanceId) →
      ∀ effect ∈ store.effects.update id change keeps, ∃ old ∈ store.effects,
        effect.kind = old.kind ∧ effect.payload = old.payload ∧ effect.instanceId = old.instanceId := by
    intro id change keeps keeping effect stored
    rcases Table.mem_update.mp stored with ⟨old, known, -, rfl⟩ | ⟨known, -⟩
    · exact ⟨old, known, keeping old⟩
    · exact same effect known
  cases performed : store.perform collate moving with
  | mk answered next =>
    cases WorkflowStore.perform_outcome performed with
    | threw | idle => exact ⟨store.effects, rfl, same⟩
    | claimed => exact ⟨_, rfl, updated _ _ _ fun _ => ⟨rfl, rfl, rfl⟩⟩
    | settled => exact ⟨_, rfl, updated _ _ _ fun _ => ⟨rfl, rfl, rfl⟩⟩
    | released => exact ⟨_, rfl, updated _ _ _ fun _ => ⟨rfl, rfl, rfl⟩⟩
    | recreated | created | repeated | advanced => cases moves

theorem perform_effect (done : perform host collate config call before = (reply, after)) :
    Effect host collate config before call reply after := by
  cases call with
  | receive eventKey value clock =>
    dsimp only [perform] at done
    split at done
    · cases done
      exact .idle rfl
    · rename_i event normalized
      exact append_effect (by rw [arrival, normalized]; rfl) done
  | discover candidate clock =>
    dsimp only [perform] at done
    split at done
    · cases done
      exact .idle rfl
    · rename_i event normalized
      exact append_effect normalized done
  | claim workerId now leaseExpiresAt =>
    dsimp only [perform] at done
    split at done
    · rename_i claimed events given
      cases done
      exact .claimed rfl (claim_effect given).1 (claim_effect given).2
    · rename_i message events given
      cases done
      exact .claimed rfl (claim_effect given).1 (claim_effect given).2
  | handle workerId eventId now clock availableAt terminal cut =>
    dsimp only [perform] at done
    split at done
    · cases done
      exact .idle rfl
    · rename_i row found
      obtain ⟨stored, rfl⟩ := Table.find?_eq_some_iff.mp found
      cases handling : Intake.handle host.toHost collate config row.event now clock before.workflows with
      | mk outcome workflows =>
        rw [handling] at done
        have spec := handle_spec handling
        cases cut with
        | true =>
          cases done
          exact .handled rfl stored spec rfl fun _ delivered => .inl delivered
        | false =>
          cases done
          exact .handled rfl stored spec finish_delivered.1 finish_delivered.2
  | dispatch instanceId event clock =>
    dsimp only [perform] at done
    split at done
    · rename_i answered workflows given
      cases done
      exact .dispatched rfl (dispatch_carried given)
    · rename_i message workflows given
      cases done
      exact .dispatched rfl (dispatch_carried given)
  | effects moving =>
    dsimp only [perform] at done
    split at done
    · rename_i moves
      cases done
      obtain ⟨effects, same, kept⟩ := moved_effects moves before.workflows
      rw [same]
      exact .moved rfl kept
    · cases done
      exact .idle rfl

end Ingress

end QuarkSelfAI.Intake

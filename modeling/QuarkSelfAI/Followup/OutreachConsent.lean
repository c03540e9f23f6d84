import QuarkSelfAI.Followup.OutreachSteps

/-!
# The owner's consent

A message goes out in the owner's name only after a card asked about its contact in the
words that are sent, and the owner approved it. A contact that was declined while the
approval was awaited ends the outreach.
-/

namespace QuarkSelfAI.Followup

open Foundation Storage Workflow Domain

variable {host : Host} {state : OutreachState} {event : Event} {contact : FollowupContact} {now : Timestamp}

/-- The approval that belongs to a contact. -/
def bound (state : OutreachState) (contact : FollowupContact) : String :=
  state.externalKey s!"approval:{contact.openId}"

/-- A card asks about a contact, in the words of a state. -/
structure Asks (state : OutreachState) (contact : FollowupContact) (card : EffectInput) : Prop where
  kind : card.kind = requestInteraction
  approval : card.payload.get "approvalId" = .string (bound state contact)
  words : card.payload.get "prompt" = .string (state.approvalPrompt contact)

/-- A message goes to a contact, in the words of a state. -/
structure Says (state : OutreachState) (contact : FollowupContact) (message : EffectInput) : Prop where
  openId : message.payload.get "openId" = .string contact.openId
  approval : message.payload.get "approvalId" = .string (bound state contact)
  words : message.payload.get "content" = .string state.message

/-- An approval is awaited for a contact, and a card asked for it. -/
structure Awaited (asked : Progress OutreachState) (selected : FollowupContact) : Prop where
  contact : asked.state.contact = some selected
  approval : asked.state.approvalId = some (bound asked.state selected)
  shown : ∃ card ∈ asked.effects, Asks asked.state selected card

/-! ## The words -/

/-- Two states speak about the same question of the same request. -/
structure SameSubject (state other : OutreachState) : Prop where
  requestId : state.requestId = other.requestId
  title : state.title = other.title
  question : state.question = other.question
  reason : state.reason = other.reason
  context : state.context = other.context

section

variable {other : OutreachState}

theorem SameSubject.trans {third : OutreachState} (first : SameSubject state other)
    (second : SameSubject other third) : SameSubject state third :=
  ⟨first.requestId.trans second.requestId, first.title.trans second.title,
    first.question.trans second.question, first.reason.trans second.reason,
    first.context.trans second.context⟩

theorem bound_eq (same : SameSubject state other) : bound state contact = bound other contact := by
  simp only [bound, OutreachState.externalKey, same.requestId]

theorem approvalPrompt_eq (same : SameSubject state other) :
    state.approvalPrompt contact = other.approvalPrompt contact := by
  unfold OutreachState.approvalPrompt
  rw [same.title, same.question, same.reason, same.context]

theorem message_eq (same : SameSubject state other) : state.message = other.message := by
  unfold OutreachState.message
  rw [same.title, same.question, same.context]

theorem Asks.transport {card : EffectInput} (asks : Asks state contact card)
    (same : SameSubject other state) : Asks other contact card :=
  ⟨asks.kind, by rw [bound_eq same, asks.approval], by rw [approvalPrompt_eq same, asks.words]⟩

end

theorem approvalEffect_asks : Asks state contact (state.approvalEffect host contact (bound state contact) now) :=
  ⟨rfl, rfl, rfl⟩

theorem sendEffect_says {message : EffectInput} (known : state.contact = some contact)
    (approval : state.approvalId = some (bound state contact))
    (asked : state.sendEffect host now = .ok message) : Says state contact message := by
  unfold OutreachState.sendEffect at asked
  rw [known, approval] at asked
  cases approved : state.approvedAt with
  | none =>
    rw [approved] at asked
    cases asked
  | some approvedAt =>
    rw [approved] at asked
    cases asked
    exact ⟨rfl, rfl, rfl⟩

/-! ## What a step does to the approval -/

section

variable {decision : WorkflowDecision OutreachState}

theorem step_subject (step : OutreachStep host state event decision) : SameSubject decision.state state := by
  cases step with
  | resolved found report phase =>
    unfold OutreachState.asking resolved
    split <;> exact ⟨rfl, rfl, rfl, rfl, rfl⟩
  | _ => exact ⟨rfl, rfl, rfl, rfl, rfl⟩

theorem selecting_asks : Asks (state.selecting contact) contact
    ((state.selecting contact).interactionEffect host now) := by
  unfold OutreachState.interactionEffect
  exact approvalEffect_asks

/-- A step that leaves an approval awaited keeps the one there was, or asks for one. -/
theorem awaits_step (step : OutreachStep host state event decision)
    (awaits : decision.state.phase = .awaitingApproval) :
    (state.phase = .awaitingApproval ∧ decision.state.contact = state.contact ∧
        decision.state.approvalId = state.approvalId) ∨
      ∃ contact, decision.state.contact = some contact ∧
        decision.state.approvalId = some (bound decision.state contact) ∧
        ∃ card ∈ decision.effects, Asks decision.state contact card := by
  cases step with
  | reasked timer phase => exact .inl ⟨awaits, rfl, rfl⟩
  | resolved found report phase =>
    right
    match found with
    | [selected] => exact ⟨selected, rfl, rfl, _, List.mem_singleton_self _, selecting_asks⟩
    | [] => cases awaits
    | first :: second :: rest => cases awaits
  | selected selected type phase candidate =>
    exact .inr ⟨selected, rfl, rfl, _, List.mem_singleton_self _, selecting_asks⟩
  | failed operation unnoticed report waits =>
    refine .inl ⟨?_, rfl, rfl⟩
    change operation.retried state.phase = .awaitingApproval at awaits
    unfold Operation.retried at awaits
    split at awaits
    · cases awaits
    · exact awaits
  | noticed | shown | other => exact .inl ⟨awaits, rfl, rfl⟩
  | resent effect timer phase => exact absurd (phase.symm.trans awaits) (by decide)
  | rerecorded effect timer phase => exact absurd (phase.symm.trans awaits) (by decide)
  | renotified effect timer phase => exact absurd (phase.symm.trans awaits) (by decide)
  | resolving | queried | declined | approved | sent | replied | recorded | notified => cases awaits

/-- A step that leaves an outreach sending approves a contact, or keeps the one it sends to. -/
theorem sending_step (step : OutreachStep host state event decision) (sending : decision.state.phase = .sending) :
    (Answered state event "approval.approved" ∧ decision.state = approved state event) ∨
      (state.phase = .sending ∧ decision.state.contact = state.contact ∧
        decision.state.approvalId = state.approvalId) := by
  cases step with
  | approved effect answer asked => exact .inl ⟨answer, rfl⟩
  | resent effect timer phase asked => exact .inr ⟨phase, rfl, rfl⟩
  | failed operation unnoticed report waits =>
    refine .inr ⟨?_, rfl, rfl⟩
    change operation.retried state.phase = .sending at sending
    unfold Operation.retried at sending
    split at sending
    · cases sending
    · exact sending
  | noticed | shown | other => exact .inr ⟨sending, rfl, rfl⟩
  | reasked timer phase =>
    have sends : state.phase = .sending := sending
    rcases phase with phase | phase <;> exact absurd (phase.symm.trans sends) (by decide)
  | rerecorded effect timer phase => exact absurd (phase.symm.trans sending) (by decide)
  | renotified effect timer phase => exact absurd (phase.symm.trans sending) (by decide)
  | resolved found report phase =>
    have either : (resolved state found).phase = .awaitingContact ∨
        (resolved state found).phase = .awaitingApproval := resolved_phase
    rcases either with next | next <;> exact absurd (next.symm.trans sending) (by decide)
  | resolving | selected | queried | declined | sent | replied | recorded | notified => cases sending

/-- A completed outreach stays so. -/
theorem completed_step (step : OutreachStep host state event decision)
    (completed : state.phase = .completed) : decision.state.phase = .completed := by
  have elsewhere : ∀ {phase : OutreachPhase}, state.phase = phase → phase ≠ .completed → False :=
    fun is other => other (is.symm.trans completed)
  cases step with
  | resolving timer phase | reasked timer phase =>
    rcases phase with phase | phase <;> exact (elsewhere phase (by decide)).elim
  | resent effect timer phase | rerecorded effect timer phase | renotified effect timer phase
  | resolved found report phase | selected selected type phase | queried query type phase
  | sent messageId chatId report phase | replied messageId content url effect type phase
  | recorded result effect report phase => exact (elsewhere phase (by decide)).elim
  | approved effect answer => exact (elsewhere answer.2.1 (by decide)).elim
  | declined | notified => rfl
  | noticed | shown | other => exact completed
  | failed operation unnoticed report waits =>
    change operation.retried state.phase = .completed
    unfold Operation.retried
    split
    · rename_i resolve
      subst resolve
      exact (elsewhere (waits .resolving rfl) (by decide)).elim
    · exact completed

/-- A refusal of the awaited approval completes the outreach. -/
theorem declined_step (step : OutreachStep host state event decision)
    (declined : Answered state event "approval.declined") : decision.state.phase = .completed := by
  obtain ⟨type, awaiting, -⟩ := declined
  have elsewhere : ∀ {other : String}, event.type = other → other ≠ "approval.declined" → False :=
    fun is other => other (is.symm.trans type)
  cases step with
  | declined => rfl
  | resolving timer | reasked timer | resent effect timer | rerecorded effect timer | renotified effect timer =>
    exact (elsewhere timer (by decide)).elim
  | resolved found report | sent messageId chatId report | recorded result effect report | notified report
  | failed operation unnoticed report => exact (elsewhere report.1 (by decide)).elim
  | selected selected is | queried query is | replied messageId content url effect is =>
    exact (elsewhere is (by decide)).elim
  | approved effect answer => exact (elsewhere answer.1 (by decide)).elim
  | noticed late | shown late | other late => exact (late.undecided (.inl type) awaiting).elim

/-- A message is sent from an outreach that is not completed and that then is sending. -/
theorem sends_from (step : OutreachStep host state event decision) {message : EffectInput}
    (asked : message ∈ decision.effects) (kind : message.kind = sendAsUser) :
    state.phase ≠ .completed ∧ decision.state.phase = .sending ∧
      decision.state.sendEffect host event.occurredAt = .ok message := by
  rcases sends_phase step asked kind with ⟨answer, rfl, sent⟩ | ⟨timer, sending, rfl, sent⟩
  · exact ⟨by simp [answer.2.1], rfl, sent⟩
  · exact ⟨by simp [sending], sending, sent⟩

end

/-! ## The invariant -/

variable {settings : OutreachSettings} {definition : WorkflowDefinition OutreachState}
  {progress : Progress OutreachState} {events : List Event} {decision : WorkflowDecision OutreachState}

/-- On the way of a run the owner approved a contact about whom a card had asked. -/
def Agreed (definition : WorkflowDefinition OutreachState) (events : List Event)
    (progress : Progress OutreachState) (contact : FollowupContact) (asked : Progress OutreachState) : Prop :=
  ∃ answer, (folding definition).Passes events progress asked answer ∧
    Awaited asked contact ∧ Answered asked.state answer "approval.approved"

structure Consent (definition : WorkflowDefinition OutreachState) (events : List Event)
    (progress : Progress OutreachState) : Prop where
  awaited : progress.state.phase = .awaitingApproval → ∃ contact, Awaited progress contact
  agreed : progress.state.phase = .sending → ∃ contact asked, Agreed definition events progress contact asked ∧
    progress.state.contact = some contact ∧ progress.state.approvalId = some (bound progress.state contact) ∧
    SameSubject progress.state asked.state
  declined : ∀ entry ∈ progress.applied, Answered entry.1 entry.2 "approval.declined" →
    progress.state.phase = .completed

namespace Consent

theorem awaitedNext (here : Consent definition events progress) (step : OutreachStep host progress.state event decision)
    (awaits : decision.state.phase = .awaitingApproval) :
    ∃ contact, Awaited (progress.next event decision) contact := by
  have same := step_subject step
  rcases awaits_step step awaits with ⟨before, contact, approval⟩ | ⟨contact, known, approval, card, asked, asks⟩
  · obtain ⟨selected, known, own, card, asked, asks⟩ := here.awaited before
    refine ⟨selected, contact.trans known, ?_, card, List.mem_append_left _ asked, asks.transport same⟩
    exact (approval.trans own).trans (congrArg some (bound_eq same).symm)
  · exact ⟨contact, known, approval, card, List.mem_append_right _ asked, asks⟩

theorem agreedNext (here : Consent definition events progress) (run : (folding definition).Run events progress)
    (taken : (folding definition).Step progress event (progress.next event decision))
    (step : OutreachStep host progress.state event decision) (sending : decision.state.phase = .sending) :
    ∃ contact asked, Agreed definition (events ++ [event]) (progress.next event decision) contact asked ∧
      decision.state.contact = some contact ∧ decision.state.approvalId = some (bound decision.state contact) ∧
      SameSubject decision.state asked.state := by
  have same := step_subject step
  rcases sending_step step sending with ⟨answer, state⟩ | ⟨before, contact, approval⟩
  · obtain ⟨selected, awaited⟩ := here.awaited answer.2.1
    refine ⟨selected, progress, ⟨event, .last run taken, awaited, answer⟩, ?_, ?_, same⟩
    · rw [state]
      exact awaited.contact
    · rw [bound_eq same, state]
      exact awaited.approval
  · obtain ⟨selected, asked, ⟨answer, passes, awaited, answered⟩, known, own, subject⟩ := here.agreed before
    refine ⟨selected, asked, ⟨answer, passes.extend taken, awaited, answered⟩, contact.trans known, ?_,
      same.trans subject⟩
    rw [bound_eq same, approval, own]

theorem declinedNext (here : Consent definition events progress)
    (step : OutreachStep host progress.state event decision) :
    ∀ entry ∈ (progress.next event decision).applied, Answered entry.1 entry.2 "approval.declined" →
      decision.state.phase = .completed := by
  intro entry listed declined
  rcases List.mem_append.mp listed with before | now
  · exact completed_step step (here.declined entry before declined)
  · cases List.mem_singleton.mp now
    exact declined_step step declined

end Consent

theorem outreach_run_consented (run : (folding (outreachDefinition host settings)).Run events progress) :
    Consent (outreachDefinition host settings) events progress := by
  refine run.history (motive := Consent (outreachDefinition host settings)) ?_ ?_
  · rintro progress ⟨input, now, decision, begun, rfl⟩
    obtain ⟨-, -, -, phase, -⟩ := initialiseOutreach_ok begun
    refine ⟨?_, ?_, ?_⟩ <;> simp [Progress.began, phase]
  · rintro events event before after run here taken
    obtain ⟨produced, fresh, decision, reduced, rfl⟩ := taken
    have step := outreach_step reduced
    exact ⟨here.awaitedNext step,
      here.agreedNext run ⟨produced, fresh, decision, reduced, rfl⟩ step, here.declinedNext step⟩

/-- A message asked for goes to the contact that the owner approved, in the words that the
card about it showed, and the owner declined nothing before. -/
theorem outreach_run_consent {config : FollowupOutreachConfig}
    (built : followupOutreachWorkflow host config = .ok definition) (run : (folding definition).Run events progress)
    (taken : (folding definition).Step progress event (progress.next event decision))
    (reduced : definition.reduce progress.state event = .ok decision) {message : EffectInput}
    (asked : message ∈ decision.effects) (kind : message.kind = sendAsUser) :
    (∃ contact consulted, Agreed definition (events ++ [event]) (progress.next event decision) contact consulted ∧
      Says consulted.state contact message) ∧
    ∀ entry ∈ progress.applied, ¬ Answered entry.1 entry.2 "approval.declined" := by
  obtain ⟨settings, rfl, -⟩ := followupOutreachWorkflow_ok built
  have here := outreach_run_consented run
  have step := outreach_step reduced
  obtain ⟨undone, sending, sent⟩ := sends_from step asked kind
  obtain ⟨contact, consulted, agreed, known, approval, same⟩ := here.agreedNext run taken step sending
  have said := sendEffect_says known approval sent
  refine ⟨⟨contact, consulted, agreed, said.openId, ?_, ?_⟩, ?_⟩
  · rw [said.approval, bound_eq same]
  · rw [said.words, message_eq same]
  · exact fun entry listed declined => undone (here.declined entry listed declined)

/-! ## A refusal that comes late -/

def ownerDeclined (occurredAt : Timestamp) : Event :=
  { id := "followup:approval:declined", type := "approval.declined", occurredAt
    payload := .object [("approvalId", "followup:b4e4377a13e622adae70728c1d65c204:approval:ou_wang")] }

/-- The owner approves and then declines, and the message is reported to have failed. -/
def declinedLate : List Given :=
  oneFound ++ [.other (ownerApproved 1767556802000), .other (ownerDeclined 1767556803000),
    .other (effectReport "followup-send:7690125071a8b5ee8eb8eb71e33a96f5" sendAsUser "failed" [] 1767556804000)]

/-- A message is asked for after a refusal that came while the first one was being sent. -/
theorem declinedLate_sends : ∃ definition events progress event decision message,
    followupOutreachWorkflow questionHost questionConfig = .ok definition ∧
      ((folding definition).restricted fun progress event => Answers progress event ∧ Due progress event).Run
        events progress ∧
      ownerDeclined 1767556803000 ∈ events ∧
      Due progress event ∧ definition.reduce progress.state event = .ok decision ∧
      message ∈ decision.effects ∧ message.kind = sendAsUser := by
  obtain ⟨progress, decision, message, replayed, due, reduced, asked, kind⟩ : ∃ progress decision message,
        replay (outreachDefinition questionHost questionSettings)
          (fun progress event => Answers progress event ∧ Due progress event)
          declinedLate (.began questionStart) = some progress ∧
        Due progress (Runtime.timerEvent 1767556924000 1767556924000) ∧
        progress.state.reduce questionHost (Runtime.timerEvent 1767556924000 1767556924000) = .ok decision ∧
        decision.effects = [message] ∧ message.kind = sendAsUser :=
    ⟨_, _, _, rfl, by decide +kernel, rfl, rfl, rfl⟩
  exact ⟨_, _, progress, _, decision, message, question_built, replay_run question_begun replayed,
    by simp [declinedLate, Given.event], due, reduced, by simp [asked], kind⟩

/-- The message to the approved contact, asked for by the approval itself. -/
theorem approved_consent : ∃ (events : List Event) (progress next : Progress OutreachState) (message : EffectInput),
    (∃ contact consulted, Agreed (outreachDefinition questionHost questionSettings) events next contact consulted ∧
      Says consulted.state contact message) ∧
    ∀ entry ∈ progress.applied, ¬ Answered entry.1 entry.2 "approval.declined" := by
  obtain ⟨progress, decision, message, replayed, fresh, reduced, asked, kind⟩ : ∃ progress decision message,
        replay (outreachDefinition questionHost questionSettings)
          (fun _ _ => True) oneFound (.began questionStart) = some progress ∧
        (ownerApproved 1767556802000).id ∉ progress.eventIds ∧
        progress.state.reduce questionHost (ownerApproved 1767556802000) = .ok decision ∧
        decision.effects = [message] ∧ message.kind = sendAsUser :=
    ⟨_, _, _, rfl, by decide +kernel, rfl, rfl, rfl⟩
  have given : (Given.other (ownerApproved 1767556802000)).produced := by decide
  have produced : Produced (ownerApproved 1767556802000) := Given.produced_spec given
  exact ⟨_, progress, _, message, outreach_run_consent question_built
    (replay_run question_begun replayed).unrestricted ⟨produced, fresh, decision, reduced, rfl⟩ reduced
    (by simp [asked]) kind⟩

end QuarkSelfAI.Followup

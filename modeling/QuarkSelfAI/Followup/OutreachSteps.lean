import QuarkSelfAI.Followup.Outreach
import QuarkSelfAI.Workflow.Reports

/-!
# What an event does to an outreach

`OutreachStep` lists the branches of the reduction, with the guards and the decisions
that later results use. Most branches ask for one effect in the name of the next state.
-/

namespace QuarkSelfAI.Followup

open Foundation Storage Workflow Domain

variable {host : Host} {state : OutreachState} {event : Event} {operation : Operation}

/-- The report of a failure notice. -/
def isNotice (event : Event) : Prop := isOutcome event ∧ OutreachState.aboutNotice event

/-- The owner's answer to the approval that a state awaits. -/
def Answered (state : OutreachState) (event : Event) (type : String) : Prop :=
  event.type = type ∧ state.phase = .awaitingApproval ∧
    event.payload.get "approvalId" = textOrUndefined state.approvalId

/-- The state with the next sequence number. -/
def counted (state : OutreachState) : OutreachState :=
  { state with sequence := state.sequence + 1 }

/-- The state after the contact was found, or several, or none. -/
def resolved (state : OutreachState) : List FollowupContact → OutreachState
  | [selected] => state.withoutFailure.selecting selected
  | found => { state.withoutFailure with phase := .awaitingContact, candidates := found }

theorem resolved_phase {found : List FollowupContact} :
    (resolved state found).phase = .awaitingContact ∨ (resolved state found).phase = .awaitingApproval := by
  unfold resolved
  split
  · exact .inr rfl
  · exact .inl rfl

def queried (state : OutreachState) (query : String) : OutreachState :=
  { counted state with phase := .resolving, query := some query, candidates := [] }

def approved (state : OutreachState) (event : Event) : OutreachState :=
  { counted state with phase := .sending, approvedAt := some event.occurredAt }

def replied (state : OutreachState) (event : Event) (messageId content : String) (url : Option String) :
    OutreachState :=
  { counted state with
    phase := .updatingTask, replyMessageId := some messageId, replyContent := some content
    replyReceivedAt := some event.occurredAt, replyUrl := url.or state.replyUrl }

def recorded (state : OutreachState) (result : TaskResult) : OutreachState :=
  { counted state.withoutFailure with phase := .notifying, taskResult := some result }

/-- The kind of effect that carries an operation out. -/
def Operation.kind : Operation → String
  | .resolveContact => Domain.resolveContact
  | .interaction => requestInteraction
  | .send => sendAsUser
  | .taskUpdate => recordFollowupReply
  | .notify => notifyOwner

/-- The phase that waits for an operation; an interaction is retried in any. -/
def Operation.phase : Operation → Option OutreachPhase
  | .resolveContact => some .resolving
  | .interaction => none
  | .send => some .sending
  | .taskUpdate => some .updatingTask
  | .notify => some .notifying

/-- The phase that an operation is retried from. -/
def Operation.retried (operation : Operation) (phase : OutreachPhase) : OutreachPhase :=
  if operation = .resolveContact then .ready else phase

theorem failedOperation_some {retried : OutreachState} (own : state.failedOperation event = some (retried, operation)) :
    retried = { state with phase := operation.retried state.phase } ∧
      effectKind event = some operation.kind ∧ ∀ phase ∈ operation.phase, state.phase = phase := by
  unfold OutreachState.failedOperation at own
  split_ifs at own with resolve send taskUpdate notify interaction
  · cases own
    exact ⟨rfl, resolve.2, fun phase waits => by cases waits; exact resolve.1⟩
  · cases own
    exact ⟨rfl, send.2, fun phase waits => by cases waits; exact send.1⟩
  · cases own
    exact ⟨rfl, taskUpdate.2, fun phase waits => by cases waits; exact taskUpdate.1⟩
  · cases own
    exact ⟨rfl, notify.2, fun phase waits => by cases waits; exact notify.1⟩
  · cases own
    exact ⟨rfl, interaction, fun phase waits => by cases waits⟩

theorem failedOperation_eq (kind : effectKind event = some operation.kind)
    (waits : ∀ phase ∈ operation.phase, state.phase = phase) : state.failedOperation event =
      some ({ state with phase := operation.retried state.phase }, operation) := by
  unfold OutreachState.failedOperation
  rw [kind]
  cases operation with
  | resolveContact => rw [if_pos ⟨waits .resolving rfl, rfl⟩]; rfl
  | send => rw [if_neg (by simp [waits .sending rfl]), if_pos ⟨waits .sending rfl, rfl⟩]; rfl
  | taskUpdate =>
    rw [if_neg (by simp [waits .updatingTask rfl]), if_neg (by simp [waits .updatingTask rfl]),
      if_pos ⟨waits .updatingTask rfl, rfl⟩]
    rfl
  | notify =>
    rw [if_neg (by simp [waits .notifying rfl]), if_neg (by simp [waits .notifying rfl]),
      if_neg (by simp [waits .notifying rfl]), if_pos ⟨waits .notifying rfl, rfl⟩]
    rfl
  | interaction =>
    rw [if_neg fun own => absurd own.2 (by decide), if_neg fun own => absurd own.2 (by decide),
      if_neg fun own => absurd own.2 (by decide), if_neg fun own => absurd own.2 (by decide)]
    rfl

/-- What an event meets that no branch asking for an effect takes. -/
structure Late (state : OutreachState) (event : Event) : Prop where
  untimed : event.type = "timer" → state.phase = .waitingReply ∨ state.phase = .completed
  undecided : event.type = "approval.declined" ∨ event.type = "approval.approved" → state.phase ≠ .awaitingApproval
  unsent : Reports "effect.delivered" sendAsUser event → state.phase ≠ .sending
  unanswered : event.type = "followup.reply" → state.phase ≠ .waitingReply

/-- The branches of `OutreachState.reduce`. -/
inductive OutreachStep (host : Host) (state : OutreachState) (event : Event) :
    WorkflowDecision OutreachState → Prop where
  | resolving (timer : event.type = "timer") (phase : state.phase = .ready ∨ state.phase = .resolving) :
      OutreachStep host state event (OutreachState.asking { counted state with phase := .resolving }
        ((counted state).resolveEffect host event.occurredAt))
  | reasked (timer : event.type = "timer")
      (phase : state.phase = .awaitingContact ∨ state.phase = .awaitingApproval) :
      OutreachStep host state event
        (OutreachState.asking (counted state) ((counted state).interactionEffect host event.occurredAt))
  | resent (effect : EffectInput) (timer : event.type = "timer") (phase : state.phase = .sending)
      (asked : (counted state).sendEffect host event.occurredAt = .ok effect) :
      OutreachStep host state event (OutreachState.asking (counted state) effect)
  | rerecorded (effect : EffectInput) (timer : event.type = "timer") (phase : state.phase = .updatingTask)
      (asked : (counted state).taskEffect host event.occurredAt = .ok effect) :
      OutreachStep host state event (OutreachState.asking (counted state) effect)
  | renotified (effect : EffectInput) (timer : event.type = "timer") (phase : state.phase = .notifying)
      (asked : (counted state).notifyEffect host event.occurredAt = .ok effect) :
      OutreachStep host state event (OutreachState.asking (counted state) effect)
  | resolved (found : List FollowupContact) (report : Reports "effect.delivered" resolveContact event)
      (phase : state.phase = .resolving) : OutreachStep host state event
        (OutreachState.asking (resolved state found) ((resolved state found).interactionEffect host event.occurredAt))
  | selected (selected : FollowupContact) (type : event.type = "followup.contact-selected")
      (phase : state.phase = .awaitingContact) (candidate : selected ∈ state.candidates) :
      OutreachStep host state event (OutreachState.asking (state.selecting selected)
        ((state.selecting selected).interactionEffect host event.occurredAt))
  | queried (query : String) (type : event.type = "followup.contact-query")
      (phase : state.phase = .awaitingContact) : OutreachStep host state event
        (OutreachState.asking (queried state query) ((queried state query).resolveEffect host event.occurredAt))
  | declined (answer : Answered state event "approval.declined") : OutreachStep host state event
      { status := .completed, wakeAt := some none, effects := []
        state := { state with
          phase := .completed, outcome := some .declined, completedAt := some event.occurredAt } }
  | approved (effect : EffectInput) (answer : Answered state event "approval.approved")
      (asked : (approved state event).sendEffect host event.occurredAt = .ok effect) :
      OutreachStep host state event (OutreachState.asking (approved state event) effect)
  | sent (messageId chatId : String) (report : Reports "effect.delivered" sendAsUser event)
      (phase : state.phase = .sending) : OutreachStep host state event
        { status := .waiting, wakeAt := some none, effects := []
          state := { state.withoutFailure with
            phase := .waitingReply, sentMessageId := some messageId, chatId := some chatId
            sentAt := some event.occurredAt } }
  | replied (messageId content : String) (url : Option String) (effect : EffectInput)
      (type : event.type = "followup.reply") (phase : state.phase = .waitingReply)
      (asked : (replied state event messageId content url).taskEffect host event.occurredAt = .ok effect) :
      OutreachStep host state event (OutreachState.asking (replied state event messageId content url) effect)
  | recorded (result : TaskResult) (effect : EffectInput)
      (report : Reports "effect.delivered" recordFollowupReply event) (phase : state.phase = .updatingTask)
      (asked : (recorded state result).notifyEffect host event.occurredAt = .ok effect) :
      OutreachStep host state event (OutreachState.asking (recorded state result) effect)
  | noticed (late : Late state event) (notice : isNotice event) :
      OutreachStep host state event (.keep .waiting state)
  | notified (report : Reports "effect.delivered" notifyOwner event) (phase : state.phase = .notifying) :
      OutreachStep host state event (state.onNotified event)
  | shown (late : Late state event) (report : Reports "effect.delivered" requestInteraction event) :
      OutreachStep host state event (.keep .waiting state)
  | failed (operation : Operation) (unnoticed : ¬ isNotice event)
      (report : Reports "effect.failed" operation.kind event)
      (waits : ∀ phase ∈ operation.phase, state.phase = phase) : OutreachStep host state event
        (OutreachState.retry host { state with phase := operation.retried state.phase } operation event)
  | other (late : Late state event) (unnoticed : ¬ isNotice event)
      (unshown : ¬ Reports "effect.delivered" requestInteraction event)
      (unfailed : event.type = "effect.failed" → state.failedOperation event = none) :
      OutreachStep host state event state.onOther

/-! ## The inversion -/

section

variable {decision : WorkflowDecision OutreachState}

theorem onTimer_step (timer : event.type = "timer") (reduced : state.onTimer host event = .ok decision) :
    OutreachStep host state event decision := by
  unfold OutreachState.onTimer at reduced
  dsimp only at reduced
  have elsewhere : ∀ {type : String}, type ≠ "timer" → event.type ≠ type := fun other is => other (is.symm.trans timer)
  have late : state.phase = .waitingReply ∨ state.phase = .completed → OutreachStep host state event state.onOther := by
    intro phase
    refine .other ⟨fun _ => phase, ?_, ?_, ?_⟩ ?_ ?_ fun failed => absurd failed (elsewhere (by decide))
    · rintro (is | is) <;> exact absurd is (elsewhere (by decide))
    · rintro ⟨is, -⟩
      exact absurd is (elsewhere (by decide))
    · exact fun is => absurd is (elsewhere (by decide))
    · rintro ⟨outcome, -⟩
      simp [isOutcome, timer] at outcome
    · rintro ⟨is, -⟩
      exact elsewhere (by decide) is
  split at reduced
  · rename_i phase
    cases reduced
    exact .resolving timer (.inl phase)
  · rename_i phase
    cases reduced
    exact .resolving timer (.inr phase)
  · rename_i phase
    cases reduced
    exact .reasked timer (.inl phase)
  · rename_i phase
    cases reduced
    exact .reasked timer (.inr phase)
  · rename_i phase
    obtain ⟨effect, asked, reduced⟩ := bind_ok.mp reduced
    cases reduced
    exact .resent effect timer phase asked
  · rename_i phase
    obtain ⟨effect, asked, reduced⟩ := bind_ok.mp reduced
    cases reduced
    exact .rerecorded effect timer phase asked
  · rename_i phase
    obtain ⟨effect, asked, reduced⟩ := bind_ok.mp reduced
    cases reduced
    exact .renotified effect timer phase asked
  · rename_i phase
    cases reduced
    exact late (.inl phase)
  · rename_i phase
    cases reduced
    exact late (.inr phase)

theorem onResolved_step (report : Reports "effect.delivered" resolveContact event)
    (phase : state.phase = .resolving) (reduced : state.onResolved host event = .ok decision) :
    OutreachStep host state event decision := by
  unfold OutreachState.onResolved at reduced
  obtain ⟨found, -, reduced⟩ := bind_ok.mp reduced
  -- The state follows the number of candidates: one, none, or several.
  match found with
  | [selected] =>
    cases reduced
    exact .resolved [selected] report phase
  | [] =>
    cases reduced
    exact .resolved [] report phase
  | first :: second :: rest =>
    cases reduced
    exact .resolved (first :: second :: rest) report phase

theorem onSelected_step (type : event.type = "followup.contact-selected")
    (phase : state.phase = .awaitingContact) (reduced : state.onSelected host event = .ok decision) :
    OutreachStep host state event decision := by
  unfold OutreachState.onSelected at reduced
  obtain ⟨openId, -, reduced⟩ := bind_ok.mp reduced
  split at reduced
  · cases reduced
  · rename_i selected found
    cases reduced
    exact .selected selected type phase (List.mem_of_find?_eq_some found)

theorem onQuery_step (type : event.type = "followup.contact-query")
    (phase : state.phase = .awaitingContact) (reduced : state.onQuery host event = .ok decision) :
    OutreachStep host state event decision := by
  unfold OutreachState.onQuery at reduced
  obtain ⟨query, -, reduced⟩ := bind_ok.mp reduced
  cases reduced
  exact .queried query type phase

theorem onDeclined_step (type : event.type = "approval.declined") (phase : state.phase = .awaitingApproval)
    (reduced : state.onDeclined event = .ok decision) : OutreachStep host state event decision := by
  unfold OutreachState.onDeclined at reduced
  split at reduced
  · cases reduced
  · rename_i same
    cases reduced
    exact .declined ⟨type, phase, not_not.mp same⟩

theorem onApproved_step (type : event.type = "approval.approved") (phase : state.phase = .awaitingApproval)
    (reduced : state.onApproved host event = .ok decision) : OutreachStep host state event decision := by
  unfold OutreachState.onApproved at reduced
  split at reduced
  · cases reduced
  · rename_i same
    obtain ⟨effect, asked, reduced⟩ := bind_ok.mp reduced
    cases reduced
    exact .approved effect ⟨type, phase, not_not.mp same⟩ asked

theorem onSent_step (report : Reports "effect.delivered" sendAsUser event) (phase : state.phase = .sending)
    (reduced : state.onSent event = .ok decision) : OutreachStep host state event decision := by
  unfold OutreachState.onSent at reduced
  obtain ⟨messageId, -, reduced⟩ := bind_ok.mp reduced
  obtain ⟨chatId, -, reduced⟩ := bind_ok.mp reduced
  cases reduced
  exact .sent messageId chatId report phase

theorem onReply_step (type : event.type = "followup.reply") (phase : state.phase = .waitingReply)
    (reduced : state.onReply host event = .ok decision) : OutreachStep host state event decision := by
  unfold OutreachState.onReply at reduced
  obtain ⟨url, -, reduced⟩ := bind_ok.mp reduced
  obtain ⟨messageId, -, reduced⟩ := bind_ok.mp reduced
  obtain ⟨content, -, reduced⟩ := bind_ok.mp reduced
  obtain ⟨effect, asked, reduced⟩ := bind_ok.mp reduced
  cases reduced
  exact .replied messageId content url effect type phase asked

theorem onRecorded_step (report : Reports "effect.delivered" recordFollowupReply event)
    (phase : state.phase = .updatingTask) (reduced : state.onRecorded host event = .ok decision) :
    OutreachStep host state event decision := by
  unfold OutreachState.onRecorded at reduced
  obtain ⟨result, -, reduced⟩ := bind_ok.mp reduced
  obtain ⟨effect, asked, reduced⟩ := bind_ok.mp reduced
  cases reduced
  exact .recorded result effect report phase asked

theorem outreach_step (reduced : state.reduce host event = .ok decision) : OutreachStep host state event decision := by
  unfold OutreachState.reduce at reduced
  rcases ite_eq_iff.mp reduced with ⟨timer, reduced⟩ | ⟨untimed, reduced⟩
  · exact onTimer_step timer reduced
  rcases ite_eq_iff.mp reduced with ⟨report, reduced⟩ | ⟨-, reduced⟩
  · exact onResolved_step ⟨report.1, report.2.2⟩ report.2.1 reduced
  rcases ite_eq_iff.mp reduced with ⟨selected, reduced⟩ | ⟨-, reduced⟩
  · exact onSelected_step selected.1 selected.2 reduced
  rcases ite_eq_iff.mp reduced with ⟨query, reduced⟩ | ⟨-, reduced⟩
  · exact onQuery_step query.1 query.2 reduced
  rcases ite_eq_iff.mp reduced with ⟨declined, reduced⟩ | ⟨undeclined, reduced⟩
  · exact onDeclined_step declined.1 declined.2 reduced
  rcases ite_eq_iff.mp reduced with ⟨approved, reduced⟩ | ⟨unapproved, reduced⟩
  · exact onApproved_step approved.1 approved.2 reduced
  rcases ite_eq_iff.mp reduced with ⟨report, reduced⟩ | ⟨unsent, reduced⟩
  · exact onSent_step ⟨report.1, report.2.2⟩ report.2.1 reduced
  rcases ite_eq_iff.mp reduced with ⟨reply, reduced⟩ | ⟨unreplied, reduced⟩
  · exact onReply_step reply.1 reply.2 reduced
  rcases ite_eq_iff.mp reduced with ⟨report, reduced⟩ | ⟨-, reduced⟩
  · exact onRecorded_step ⟨report.1, report.2.2⟩ report.2.1 reduced
  have late : Late state event := by
    refine ⟨fun timer => absurd timer untimed, ?_, ?_, fun type phase => unreplied ⟨type, phase⟩⟩
    · rintro (declined | approved) phase
      · exact undeclined ⟨declined, phase⟩
      · exact unapproved ⟨approved, phase⟩
    · exact fun report phase => unsent ⟨report.1, phase, report.2⟩
  rcases ite_eq_iff.mp reduced with ⟨notice, reduced⟩ | ⟨unnoticed, reduced⟩
  · cases reduced
    exact .noticed late notice
  rcases ite_eq_iff.mp reduced with ⟨report, reduced⟩ | ⟨-, reduced⟩
  · cases reduced
    exact .notified ⟨report.1, report.2.2⟩ report.2.1
  rcases ite_eq_iff.mp reduced with ⟨report, reduced⟩ | ⟨unshown, reduced⟩
  · cases reduced
    exact .shown late report
  rcases ite_eq_iff.mp reduced with ⟨report, reduced⟩ | ⟨unfailed, reduced⟩
  · cases reduced
    unfold OutreachState.onFailed
    split
    · rename_i retried operation own
      obtain ⟨rfl, kind, waits⟩ := failedOperation_some own
      exact .failed operation unnoticed ⟨report, kind⟩ waits
    · rename_i unowned
      exact .other late unnoticed unshown fun _ => unowned
  · cases reduced
    exact .other late unnoticed unshown fun failed => absurd failed unfailed

/-! ## What a step asks for -/

variable {now : Timestamp} {effect : EffectInput}

@[simp] theorem interactionEffect_kind : (state.interactionEffect host now).kind = requestInteraction := by
  unfold OutreachState.interactionEffect
  split
  · rfl
  · split <;> rfl

theorem sendEffect_kind (asked : state.sendEffect host now = .ok effect) : effect.kind = sendAsUser := by
  unfold OutreachState.sendEffect at asked
  split at asked
  · cases asked
    rfl
  · cases asked

theorem taskEffect_kind (asked : state.taskEffect host now = .ok effect) : effect.kind = recordFollowupReply := by
  unfold OutreachState.taskEffect at asked
  split at asked
  · cases asked
    rfl
  · cases asked

theorem notifyEffect_kind (asked : state.notifyEffect host now = .ok effect) : effect.kind = notifyOwner := by
  unfold OutreachState.notifyEffect at asked
  split at asked
  · cases asked
    rfl
  · cases asked

theorem retry_kind :
    ∀ effect ∈ (OutreachState.retry host state operation event).effects, effect.kind = notifyOwner := by
  unfold OutreachState.retry
  intro effect asked
  dsimp only at asked
  split at asked
  · cases List.mem_singleton.mp asked
    rfl
  · cases asked

/-- A message is asked for by the approval, or by the timer of the phase after it. -/
theorem sends_phase (step : OutreachStep host state event decision) (asked : effect ∈ decision.effects)
    (kind : effect.kind = sendAsUser) :
    (Answered state event "approval.approved" ∧ decision = (approved state event).asking effect ∧
        (approved state event).sendEffect host event.occurredAt = .ok effect) ∨
      (event.type = "timer" ∧ state.phase = .sending ∧ decision = (counted state).asking effect ∧
        (counted state).sendEffect host event.occurredAt = .ok effect) := by
  have other : ∀ {own : EffectInput} {next : OutreachState}, effect ∈ (next.asking own).effects →
      own.kind ≠ sendAsUser → False := by
    intro own next listed different
    rw [List.mem_singleton.mp listed] at kind
    exact different kind
  cases step with
  | resolving timer phase => exact (other asked (by simp [OutreachState.resolveEffect, resolveContact, sendAsUser])).elim
  | queried query type phase =>
    exact (other asked (by simp [OutreachState.resolveEffect, resolveContact, sendAsUser])).elim
  | reasked | resolved | selected => exact (other asked (by simp [requestInteraction, sendAsUser])).elim
  | resent own timer phase made =>
    cases List.mem_singleton.mp asked
    exact .inr ⟨timer, phase, rfl, made⟩
  | approved own answer made =>
    cases List.mem_singleton.mp asked
    exact .inl ⟨answer, rfl, made⟩
  | rerecorded own timer phase made =>
    exact (other asked (by simp [taskEffect_kind made, recordFollowupReply, sendAsUser])).elim
  | replied messageId content url own type phase made =>
    exact (other asked (by simp [taskEffect_kind made, recordFollowupReply, sendAsUser])).elim
  | renotified own timer phase made =>
    exact (other asked (by simp [notifyEffect_kind made, notifyOwner, sendAsUser])).elim
  | recorded result own report phase made =>
    exact (other asked (by simp [notifyEffect_kind made, notifyOwner, sendAsUser])).elim
  | failed operation unnoticed report waits =>
    rw [retry_kind effect asked] at kind
    exact absurd kind (by decide)
  | declined | sent | noticed | notified | shown | other => cases asked

end

/-! ## Beginnings -/

theorem followupOutreachWorkflow_ok {config : FollowupOutreachConfig} {definition : WorkflowDefinition OutreachState}
    (built : followupOutreachWorkflow host config = .ok definition) :
    ∃ settings, definition = outreachDefinition host settings ∧ 0 < settings.retryBaseMs ∧ 0 < settings.retryMaxMs := by
  unfold followupOutreachWorkflow at built
  obtain ⟨retryBaseMs, bases, built⟩ := bind_ok.mp built
  obtain ⟨retryMaxMs, tops, built⟩ := bind_ok.mp built
  obtain ⟨failureThreshold, -, built⟩ := bind_ok.mp built
  cases built
  have base : 0 < retryBaseMs := lt_of_lt_of_le (by decide) (integerSetting_le bases)
  exact ⟨_, rfl, base, lt_of_lt_of_le base (integerSetting_le tops)⟩

/-- An outreach begins ready, without a contact, an approval, a failure or an effect. -/
theorem initialiseOutreach_ok {settings : OutreachSettings} {input : JsValue} {now : Timestamp}
    {decision : WorkflowDecision OutreachState} (begun : initialiseOutreach host settings input now = .ok decision) :
    decision.status = .waiting ∧ decision.effects = [] ∧ decision.wakeAt = some (some now) ∧
      decision.state.phase = .ready ∧ decision.state.failure = none := by
  unfold initialiseOutreach at begun
  obtain ⟨personName, -, begun⟩ := bind_ok.mp begun
  obtain ⟨personOpenId, -, begun⟩ := bind_ok.mp begun
  split at begun
  · cases begun
  · obtain ⟨taskId, -, begun⟩ := bind_ok.mp begun
    obtain ⟨question, -, begun⟩ := bind_ok.mp begun
    obtain ⟨url, -, begun⟩ := bind_ok.mp begun
    obtain ⟨title, -, begun⟩ := bind_ok.mp begun
    obtain ⟨reason, -, begun⟩ := bind_ok.mp begun
    obtain ⟨context, -, begun⟩ := bind_ok.mp begun
    cases begun
    exact ⟨rfl, rfl, rfl, rfl, rfl⟩

/-! ## A question to one person -/

def questionHost : Host :=
  .tabulated "Asia/Shanghai" 28800000
    [("task-1\x00王芳\x00发布窗口定了吗？", "b4e4377a13e622adae70728c1d65c204"),
      ("b4e4377a13e622adae70728c1d65c204\x001", "401f1105b3092fe54aaa5a00d8d1f240"),
      ("b4e4377a13e622adae70728c1d65c204\x002", "7690125071a8b5ee8eb8eb71e33a96f5"),
      ("b4e4377a13e622adae70728c1d65c204\x003", "f5750f88312d3a97eb0eac12d67cb06a"),
      ("b4e4377a13e622adae70728c1d65c204\x00ou_wang\x001", "bc18c75d3bfce8d10989c1953b25edec"),
      ("b4e4377a13e622adae70728c1d65c204\x00interaction\x002026-01-04T20:00:03.000Z",
        "aa29e4dec166b6c90cb48fab3554e090"),
      ("b4e4377a13e622adae70728c1d65c204\x00interaction\x002026-01-04T20:01:03.000Z",
        "9241b64f11e42874834b75e09f9bcfe8"),
      ("b4e4377a13e622adae70728c1d65c204\x00send\x002026-01-04T20:00:04.000Z", "631e7512221964744531abe87b9ee84c")]
    []

theorem questionHost_lawful : questionHost.Lawful := Host.tabulated_lawful (by decide) (by decide)

def questionConfig : FollowupOutreachConfig :=
  { retryBaseMs := none, retryMaxMs := none, failureNotifyThreshold := none, taskProjection := none }

def questionSettings : OutreachSettings :=
  { retryBaseMs := 120000, retryMaxMs := 21600000, failureThreshold := 1, taskProjection := none }

theorem question_built : followupOutreachWorkflow questionHost questionConfig =
    .ok (outreachDefinition questionHost questionSettings) := by
  rfl

def questionInput : JsValue :=
  .object [("taskId", "task-1"), ("title", "发布计划"), ("personName", "王芳"),
    ("question", "发布窗口定了吗？"), ("reason", "明天截止"), ("context", "上周的排期")]

def questionState : OutreachState :=
  { requestId := "b4e4377a13e622adae70728c1d65c204", taskId := "task-1", title := "发布计划"
    personName := some "王芳", personOpenId := none, question := "发布窗口定了吗？", reason := "明天截止"
    context := "上周的排期", url := none, taskProjection := none, phase := .ready, sequence := 0
    retryBaseMs := 120000, retryMaxMs := 21600000, failureThreshold := 1, query := none, candidates := []
    contact := none, approvalId := none, approvedAt := none, sentMessageId := none, sentAt := none
    chatId := none, replyMessageId := none, replyContent := none, replyReceivedAt := none, replyUrl := none
    taskResult := none, completedAt := none, outcome := none, failure := none }

def questionStart : WorkflowDecision OutreachState :=
  { status := .waiting, state := questionState, wakeAt := some (some 1767556800000), effects := [] }

theorem question_begun : (outreachDefinition questionHost questionSettings).initialise questionInput
    1767556800000 = .ok questionStart := by
  rfl

/-- One person is found, and the owner is asked for approval. -/
def oneFound : List Given :=
  [.timer 1767556800000 1767556800000,
    .other (effectReport "followup-resolve:401f1105b3092fe54aaa5a00d8d1f240" resolveContact "delivered"
      [("candidates", .array [.object [("openId", "ou_wang"), ("name", "王芳"), ("external", .bool false)]])]
      1767556801000)]

def ownerApproved (occurredAt : Timestamp) : Event :=
  { id := "followup:approval:approved", type := "approval.approved", occurredAt
    payload := .object [("approvalId", "followup:b4e4377a13e622adae70728c1d65c204:approval:ou_wang")] }

end QuarkSelfAI.Followup

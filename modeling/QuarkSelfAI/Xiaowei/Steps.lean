import QuarkSelfAI.Workflow.Reports
import QuarkSelfAI.Xiaowei.Workflow

/-!
# What an event does to a research

`ResearchStep` lists the branches of the reduction, with the guards and the decisions
that later results use.
-/

namespace QuarkSelfAI.Xiaowei

open Foundation Storage Workflow Domain

variable {host : Host} {state : XiaoweiResearchState} {event : Event}

/-- The kind of effect that carries an operation out. -/
def Operation.kind : Operation → String
  | .send => sendAsUser
  | .notify => notifyOwner
  | .taskUpdate => recordResearchResult

/-- The phase that waits for an operation. -/
def Operation.phase : Operation → ResearchPhase
  | .send => .sending
  | .notify | .taskUpdate => .syncing

theorem failedOperation_iff {operation : Operation} : state.failedOperation event = some operation ↔
    state.phase = operation.phase ∧ effectKind event = some operation.kind := by
  constructor
  · intro own
    unfold XiaoweiResearchState.failedOperation at own
    split_ifs at own with send notify taskUpdate
    · cases own
      exact send
    · cases own
      exact notify
    · cases own
      exact taskUpdate
  · rintro ⟨phase, kind⟩
    unfold XiaoweiResearchState.failedOperation
    rw [phase, kind]
    cases operation <;> rfl

/-- The state after a final reply. -/
def replied (state : XiaoweiResearchState) (event : Event) (messageId content : String)
    (url : Option String) : XiaoweiResearchState :=
  { state.withoutFailure with
    phase := .syncing, sequence := state.sequence + 1, replyMessageId := some messageId
    replyContent := some content, replyReceivedAt := some event.occurredAt
    replyUrl := url.or state.replyUrl }

/-- A report about a failure notice, or one in `syncing` of an effect of no concern. -/
def Unconcerned (state : XiaoweiResearchState) (event : Event) : Prop :=
  (isOutcome event ∧ XiaoweiResearchState.aboutNotice event ∧
      (Reports "effect.delivered" sendAsUser event → state.phase ≠ .sending)) ∨
    (event.type = "effect.delivered" ∧ state.phase = .syncing)

/-- The branches of `XiaoweiResearchState.reduce`. -/
inductive ResearchStep (host : Host) (state : XiaoweiResearchState) (event : Event) :
    WorkflowDecision XiaoweiResearchState → Prop where
  | started (timer : event.type = "timer") (ready : state.phase = .ready) :
      ResearchStep host state event (state.onReadyTimer host event)
  | sent (messageId sentAt : String) (report : Reports "effect.delivered" sendAsUser event)
      (sending : state.phase = .sending) : ResearchStep host state event
        { status := .waiting, wakeAt := some none, effects := []
          state := { state.withoutFailure with
            phase := .waitingReply, sentMessageId := some messageId, sentAt := some sentAt } }
  | progressed (messageId : String) (reply : event.type = "xiaowei.reply")
      (stage : event.payload.get "stage" = .string "progress") (waiting : state.phase = .waitingReply) :
      ResearchStep host state event
        { status := .waiting, wakeAt := some none, effects := []
          state := { state.withoutFailure with
            lastProgressMessageId := some messageId, lastProgressAt := some event.occurredAt } }
  | replied (messageId content : String) (url : Option String) (effects : List EffectInput)
      (reply : event.type = "xiaowei.reply") (stage : event.payload.get "stage" = .string "final")
      (said : event.payload.get "content" = .string content) (waiting : state.phase = .waitingReply)
      (pending : (replied state event messageId content url).pendingSyncEffects host event.occurredAt =
        .ok effects) : ResearchStep host state event
        { status := .waiting, state := replied state event messageId content url
          wakeAt := some none, effects }
  | finished (next : XiaoweiResearchState) (report : event.type = "effect.delivered")
      (syncing : state.phase = .syncing) (synced : state.synced event = some next)
      (both : next.ownerNotified ∧ next.taskUpdated) : ResearchStep host state event
        (.keep .completed { next with phase := .completed, completedAt := some event.occurredAt })
  | synced (next : XiaoweiResearchState) (effects : List EffectInput)
      (report : event.type = "effect.delivered") (syncing : state.phase = .syncing)
      (synced : state.synced event = some next)
      (pending : next.pendingSyncEffects host event.occurredAt = .ok effects) :
      ResearchStep host state event { status := .waiting, state := next, wakeAt := some none, effects }
  | retimed (effects : List EffectInput) (timer : event.type = "timer") (syncing : state.phase = .syncing)
      (pending : XiaoweiResearchState.pendingSyncEffects host
        { state with sequence := state.sequence + 1 } event.occurredAt = .ok effects) :
      ResearchStep host state event
        { status := .waiting, state := { state with sequence := state.sequence + 1 }
          wakeAt := some none, effects }
  | failed (operation : Operation) (report : event.type = "effect.failed")
      (phase : state.phase = operation.phase) (kind : effectKind event = some operation.kind) :
      ResearchStep host state event (state.retry host operation event)
  | unconcerned (about : Unconcerned state event) : ResearchStep host state event (.keep .waiting state)
  | other (untimed : event.type = "timer" → state.phase ≠ .ready ∧ state.phase ≠ .syncing)
      (unanswered : event.type = "xiaowei.reply" → state.phase ≠ .waitingReply)
      (unnoticed : ¬ (isOutcome event ∧ XiaoweiResearchState.aboutNotice event))
      (unsent : Reports "effect.delivered" sendAsUser event → state.phase ≠ .sending) :
      ResearchStep host state event state.onOther

section

variable {decision : WorkflowDecision XiaoweiResearchState}

theorem text_ok {label : String} {max : Nat} {value : JsValue} {result : String}
    (read : text label max value = .ok result) : value = .string result := by
  unfold text boundedText at read
  split at read
  · split at read
    · cases read
    · split at read
      · cases read
      · cases read
        rfl
  · cases read

theorem onSent_step (report : Reports "effect.delivered" sendAsUser event)
    (sending : state.phase = .sending) (sent : state.onSent host event = .ok decision) :
    ResearchStep host state event decision := by
  unfold XiaoweiResearchState.onSent at sent
  obtain ⟨messageId, -, sent⟩ := bind_ok.mp sent
  dsimp only at sent
  split at sent
  · cases sent
    exact .sent messageId _ report sending
  · obtain ⟨sentAt, -, sent⟩ := bind_ok.mp sent
    cases sent
    exact .sent messageId sentAt report sending

theorem onReply_step (reply : event.type = "xiaowei.reply") (waiting : state.phase = .waitingReply)
    (received : state.onReply host event = .ok decision) : ResearchStep host state event decision := by
  unfold XiaoweiResearchState.onReply at received
  dsimp only at received
  split at received
  · cases received
  · split at received
    · rename_i stage
      obtain ⟨messageId, -, received⟩ := bind_ok.mp received
      cases received
      exact .progressed messageId reply stage waiting
    · split at received
      · cases received
      · rename_i stage
        obtain ⟨messageId, -, received⟩ := bind_ok.mp received
        obtain ⟨content, read, received⟩ := bind_ok.mp received
        obtain ⟨url, -, received⟩ := bind_ok.mp received
        obtain ⟨effects, pending, received⟩ := bind_ok.mp received
        cases received
        exact .replied messageId content url effects reply (not_not.mp stage) (text_ok read) waiting pending

theorem onSynced_step (report : event.type = "effect.delivered") (syncing : state.phase = .syncing)
    (synced : state.onSynced host event = .ok decision) : ResearchStep host state event decision := by
  unfold XiaoweiResearchState.onSynced at synced
  split at synced
  · cases synced
    exact .unconcerned (.inr ⟨report, syncing⟩)
  · split at synced
    · cases synced
      exact .unconcerned (.inr ⟨report, syncing⟩)
    · rename_i next own
      split at synced
      · rename_i both
        cases synced
        exact .finished next report syncing own both
      · obtain ⟨effects, pending, synced⟩ := bind_ok.mp synced
        cases synced
        exact .synced next effects report syncing own pending

theorem research_step (reduced : state.reduce host event = .ok decision) : ResearchStep host state event decision := by
  unfold XiaoweiResearchState.reduce at reduced
  split at reduced
  · rename_i timer
    cases reduced
    exact .started timer.1 timer.2
  rename_i unstarted
  split at reduced
  · rename_i report
    exact onSent_step ⟨report.1, report.2.2⟩ report.2.1 reduced
  rename_i unsent
  split at reduced
  · rename_i reply
    exact onReply_step reply.1 reply.2 reduced
  rename_i unreplied
  split at reduced
  · rename_i report
    exact onSynced_step report.1 report.2 reduced
  split at reduced
  · rename_i timer
    obtain ⟨effects, pending, reduced⟩ := bind_ok.mp reduced
    cases reduced
    exact .retimed effects timer.1 timer.2 pending
  rename_i unretimed
  have untimed : event.type = "timer" → state.phase ≠ .ready ∧ state.phase ≠ .syncing :=
    fun timer => ⟨fun phase => unstarted ⟨timer, phase⟩, fun phase => unretimed ⟨timer, phase⟩⟩
  have unanswered : event.type = "xiaowei.reply" → state.phase ≠ .waitingReply :=
    fun reply phase => unreplied ⟨reply, phase⟩
  have unsending : Reports "effect.delivered" sendAsUser event → state.phase ≠ .sending :=
    fun report phase => unsent ⟨report.1, phase, report.2⟩
  split at reduced
  · rename_i failed
    cases reduced
    unfold XiaoweiResearchState.onFailed
    split
    · rename_i about
      exact .unconcerned (.inl ⟨by simp [isOutcome, failed], about, unsending⟩)
    · rename_i unnoticed
      split
      · rename_i operation own
        obtain ⟨phase, kind⟩ := failedOperation_iff.mp own
        exact .failed operation failed phase kind
      · exact .other untimed unanswered (fun notice => unnoticed notice.2) unsending
  · rename_i unfailed
    split at reduced
    · rename_i notice
      cases reduced
      exact .unconcerned (.inl ⟨by simp [isOutcome, notice.1], notice.2, unsending⟩)
    · rename_i undelivered
      cases reduced
      refine .other untimed unanswered ?_ unsending
      rintro ⟨outcome, about⟩
      rcases of_decide_eq_true outcome with delivered | failed
      · exact undelivered ⟨delivered, about⟩
      · exact unfailed failed

end

/-! ## Beginnings -/

theorem xiaoweiResearchWorkflow_ok {config : XiaoweiResearchConfig}
    {definition : WorkflowDefinition XiaoweiResearchState}
    (built : xiaoweiResearchWorkflow host config = .ok definition) :
    ∃ settings, definition = researchDefinition host settings ∧ 0 < settings.retryBaseMs ∧ 0 < settings.retryMaxMs := by
  unfold xiaoweiResearchWorkflow at built
  obtain ⟨agentOpenId, -, built⟩ := bind_ok.mp built
  obtain ⟨agentChatId, -, built⟩ := bind_ok.mp built
  obtain ⟨retryBaseMs, bases, built⟩ := bind_ok.mp built
  obtain ⟨retryMaxMs, tops, built⟩ := bind_ok.mp built
  obtain ⟨failureThreshold, -, built⟩ := bind_ok.mp built
  cases built
  have base : 0 < retryBaseMs := lt_of_lt_of_le (by decide) (integerSetting_le bases)
  exact ⟨_, rfl, base, lt_of_lt_of_le base (integerSetting_le tops)⟩

/-- A research begins after its request when it is given the message, else before it. -/
theorem initialiseResearch_ok {settings : ResearchSettings} {input : JsValue} {now : Timestamp}
    {decision : WorkflowDecision XiaoweiResearchState}
    (begun : initialiseResearch host settings input now = .ok decision) :
    decision.status = .waiting ∧ decision.effects = [] ∧
      ((decision.state.phase = .waitingReply ∧ decision.state.sentMessageId.isSome) ∨
        (decision.state.phase = .ready ∧ decision.state.sentMessageId = none)) := by
  unfold initialiseResearch at begun
  dsimp only [bind, Except.bind, pure, Except.pure] at begun
  -- Every check either refuses the input or goes on to the one decision.
  repeat' split at begun
  all_goals first
    | cases begun
      simp_all
    | cases begun

end QuarkSelfAI.Xiaowei

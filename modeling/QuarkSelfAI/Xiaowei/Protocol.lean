import QuarkSelfAI.Xiaowei.Steps

/-!
# The protocol of a research

The phases tell whether the request was sent, and a research completes once the owner
was told and the task updated. A final reply is taken only while the research waits for
it: before the delivery of the request was reported, or after another reply, it is lost.
-/

namespace QuarkSelfAI.Xiaowei

open Foundation Storage Workflow Domain

variable {host : Host} {state : XiaoweiResearchState} {event : Event}
  {progress : Progress XiaoweiResearchState}

/-- The phases after the request was sent. -/
def isSent (phase : ResearchPhase) : Bool := phase ∈ [ResearchPhase.waitingReply, .syncing, .completed]

/-- The phases after the final reply. -/
def isReplied (phase : ResearchPhase) : Bool := phase ∈ [ResearchPhase.syncing, .completed]

def isFinalReply (event : Event) : Bool := event.type = "xiaowei.reply" ∧ event.payload.get "stage" = .string "final"

/-- The report that the request was sent. -/
def isSendDelivered (event : Event) : Bool := event.type = "effect.delivered" ∧ effectKind event = some sendAsUser

theorem isSendDelivered_iff : isSendDelivered event ↔ Reports "effect.delivered" sendAsUser event := by
  simp [isSendDelivered, Reports]

/-- An event that asks for no request to be sent. -/
def SendsNothing (host : Host) (entry : XiaoweiResearchState × Event) : Prop :=
  ∀ decision, entry.1.reduce host entry.2 = .ok decision → ∀ effect ∈ decision.effects, effect.kind ≠ sendAsUser

/-- What the protocol promises of a run. -/
structure Protocol (host : Host) (progress : Progress XiaoweiResearchState) : Prop where
  sent : progress.state.sentMessageId.isSome ↔ isSent progress.state.phase
  completed : progress.status = .completed → progress.state.ownerNotified ∧ progress.state.taskUpdated
  once : progress.applied.Pairwise fun earlier later => isSendDelivered earlier.2 → SendsNothing host later
  kept : ∀ entry ∈ progress.applied, isFinalReply entry.2 → ∃ content,
    entry.2.payload.get "content" = .string content ∧ progress.state.replyContent = some content

/-- The condition on one event: a final reply comes while the research waits for it, and
no delivery of a request is reported before the request is sent again. -/
structure ResearchOrderly (progress : Progress XiaoweiResearchState) (event : Event) : Prop where
  reply : isFinalReply event → progress.state.phase = .waitingReply
  delivery : isSendDelivered event → progress.state.phase ≠ .ready

instance (progress : Progress XiaoweiResearchState) (event : Event) : Decidable (ResearchOrderly progress event) :=
  decidable_of_iff ((isFinalReply event → progress.state.phase = .waitingReply) ∧
      (isSendDelivered event → progress.state.phase ≠ .ready))
    ⟨fun ⟨reply, delivery⟩ => ⟨reply, delivery⟩, fun orderly => ⟨orderly.reply, orderly.delivery⟩⟩

/-! ## One step -/

section

variable {decision : WorkflowDecision XiaoweiResearchState}

theorem pendingSyncEffects_kind {now : Timestamp} {effects : List EffectInput}
    (pending : state.pendingSyncEffects host now = .ok effects) : ∀ effect ∈ effects, effect.kind ≠ sendAsUser := by
  unfold XiaoweiResearchState.pendingSyncEffects at pending
  split at pending
  · cases pending
    simp [XiaoweiResearchState.notifyEffect, notifyOwner, sendAsUser]
  · split at pending
    · obtain ⟨effect, asked, pending⟩ := bind_ok.mp pending
      cases pending
      unfold XiaoweiResearchState.taskEffect at asked
      split at asked
      · cases asked
        simp [recordResearchResult, sendAsUser]
      · cases asked
    · cases pending
      simp

/-- Only the timer of a research that is ready asks for the request to be sent. -/
theorem sends_ready (step : ResearchStep host state event decision) {effect : EffectInput}
    (asked : effect ∈ decision.effects) (kind : effect.kind = sendAsUser) : state.phase = .ready := by
  cases step with
  | started timer ready => exact ready
  | sent | progressed | finished | unconcerned | other => cases asked
  | replied messageId content url effects reply stage said waiting pending =>
    exact absurd kind (pendingSyncEffects_kind pending effect asked)
  | synced next effects report syncing synced pending =>
    exact absurd kind (pendingSyncEffects_kind pending effect asked)
  | retimed effects timer syncing pending => exact absurd kind (pendingSyncEffects_kind pending effect asked)
  | failed operation report phase own =>
    unfold XiaoweiResearchState.retry at asked
    dsimp only at asked
    split at asked
    · cases List.mem_singleton.mp asked
      simp [XiaoweiResearchState.failureNotice, notifyOwner, sendAsUser] at kind
    · cases asked

/-- The state after one of the two results differs in its flags alone. -/
theorem synced_same {next : XiaoweiResearchState} (synced : state.synced event = some next) :
    next.phase = state.phase ∧ next.sentMessageId = state.sentMessageId ∧ next.replyContent = state.replyContent := by
  unfold XiaoweiResearchState.synced at synced
  split at synced
  · cases synced
    exact ⟨rfl, rfl, rfl⟩
  · split at synced
    · cases synced
      exact ⟨rfl, rfl, rfl⟩
    · cases synced

end

/-! ## Runs -/

/-- The invariant behind the protocol. -/
structure Followed (host : Host) (progress : Progress XiaoweiResearchState) : Prop where
  protocol : Protocol host progress
  status : progress.status = .completed → progress.state.phase = .completed
  done : progress.state.phase = .completed → progress.state.ownerNotified ∧ progress.state.taskUpdated
  delivered : ∀ entry ∈ progress.applied, isSendDelivered entry.2 → isSent progress.state.phase
  replied : ∀ entry ∈ progress.applied, isFinalReply entry.2 → isReplied progress.state.phase

namespace Followed

variable {decision : WorkflowDecision XiaoweiResearchState}

/-- What one step keeps, from the state and the status after it. -/
theorem next (here : Followed host progress) (sent : decision.state.sentMessageId.isSome ↔ isSent decision.state.phase)
    (status : decision.status = .completed → decision.state.phase = .completed)
    (done : decision.state.phase = .completed → decision.state.ownerNotified ∧ decision.state.taskUpdated)
    (later : isSent progress.state.phase → isSent decision.state.phase)
    (delivered : isSendDelivered event → isSent decision.state.phase)
    (replies : isReplied progress.state.phase → isReplied decision.state.phase ∧
      decision.state.replyContent = progress.state.replyContent)
    (reply : isFinalReply event → isReplied decision.state.phase ∧ ∃ content,
      event.payload.get "content" = .string content ∧ decision.state.replyContent = some content) :
    Followed host (progress.next event decision) := by
  have once : SendsNothing host (progress.state, event) ∨ ∀ entry ∈ progress.applied, ¬ isSendDelivered entry.2 := by
    by_cases ready : progress.state.phase = .ready
    · refine .inr fun entry listed report => ?_
      have phase := here.delivered entry listed report
      rw [ready] at phase
      cases phase
    · refine .inl fun decided reducing effect asked kind => ?_
      exact ready (sends_ready (research_step reducing) asked kind)
  refine ⟨⟨sent, fun finished => done (status finished), ?_, ?_⟩, status, done, ?_, ?_⟩
  · refine List.pairwise_append.mpr ⟨here.protocol.once, List.pairwise_singleton _ _, ?_⟩
    intro earlier listed entry now report
    cases List.mem_singleton.mp now
    exact once.resolve_right fun none => none earlier listed report
  · intro entry listed final
    rcases List.mem_append.mp listed with before | now
    · rw [(show (progress.next event decision).state.replyContent = progress.state.replyContent from
        (replies (here.replied entry before final)).2)]
      exact here.protocol.kept entry before final
    · cases List.mem_singleton.mp now
      exact (reply final).2
  · intro entry listed report
    rcases List.mem_append.mp listed with before | now
    · exact later (here.delivered entry before report)
    · cases List.mem_singleton.mp now
      exact delivered report
  · intro entry listed final
    rcases List.mem_append.mp listed with before | now
    · exact (replies (here.replied entry before final)).1
    · cases List.mem_singleton.mp now
      exact (reply final).1

theorem step (here : Followed host progress) (orderly : ResearchOrderly progress event)
    (reduced : progress.state.reduce host event = .ok decision) : Followed host (progress.next event decision) := by
  have sent := here.protocol.sent
  have outside : ∀ {type : String}, event.type = type → type ≠ "xiaowei.reply" → ¬ isFinalReply event := by
    intro type is other
    simp [isFinalReply, is, other]
  have elsewhere : ∀ {type : String}, event.type = type → type ≠ "effect.delivered" → ¬ isSendDelivered event := by
    intro type is other
    simp [isSendDelivered, is, other]
  have unsent : isSendDelivered event → progress.state.phase ≠ .sending → isSent progress.state.phase := by
    intro report sending
    have ready := orderly.delivery report
    cases phase : progress.state.phase with
    | ready => exact absurd phase ready
    | sending => exact absurd phase sending
    | waitingReply | syncing | completed => rfl
  cases research_step reduced with
  | started timer ready =>
    have early : ¬ isSent progress.state.phase := by simp [isSent, ready]
    refine here.next ?_ (fun finished => by cases finished) (fun phase => by cases phase)
      (fun before => absurd before early) (fun report => absurd report (elsewhere timer (by decide)))
      (fun before => ?_) (fun final => absurd final (outside timer (by decide)))
    · exact iff_of_false (fun set => early (sent.mp set)) (by simp [isSent, XiaoweiResearchState.onReadyTimer])
    · simp [isReplied, ready] at before
  | sent messageId sentAt report sending =>
    exact here.next (by simp [isSent]) (fun finished => by cases finished)
      (fun phase => by cases phase) (fun _ => rfl) (fun _ => rfl) (by simp [isReplied, sending])
      (fun final => absurd final (outside report.1 (by decide)))
  | progressed messageId reply stage waiting =>
    refine here.next sent (fun finished => by cases finished)
      (fun phase => absurd (waiting.symm.trans phase) (by decide)) id
      (fun report => absurd report (elsewhere reply (by decide))) (fun before => ⟨before, rfl⟩) (fun final => ?_)
    simp [isFinalReply, stage] at final
  | replied messageId content url effects reply stage said waiting pending =>
    refine here.next ?_ (fun finished => by cases finished) (fun phase => by cases phase)
      (fun _ => rfl) (fun _ => rfl) (by simp [isReplied, waiting]) (fun _ => ⟨rfl, content, said, rfl⟩)
    have set : progress.state.sentMessageId.isSome := sent.mpr (by simp [isSent, waiting])
    exact iff_of_true set rfl
  | finished next report syncing synced both =>
    obtain ⟨phase, message, content⟩ := synced_same synced
    refine here.next ?_ (fun _ => rfl) (fun _ => both) (fun _ => rfl) (fun _ => rfl)
      (fun _ => ⟨rfl, content⟩) (fun final => absurd final (outside report (by decide)))
    have set : progress.state.sentMessageId.isSome := sent.mpr (by simp [isSent, syncing])
    simpa [WorkflowDecision.keep, isSent, message] using set
  | synced next effects report syncing synced pending =>
    obtain ⟨phase, message, content⟩ := synced_same synced
    refine here.next ?_ (fun finished => by cases finished)
      (fun finished => absurd ((phase.trans syncing).symm.trans finished) (by decide))
      (fun _ => by simp [phase, syncing, isSent]) (fun _ => by simp [phase, syncing, isSent])
      (fun _ => ⟨by simp [phase, syncing, isReplied], content⟩)
      (fun final => absurd final (outside report (by decide)))
    rw [show next.sentMessageId = progress.state.sentMessageId from message, phase]
    exact sent
  | retimed effects timer syncing pending =>
    exact here.next sent (fun finished => by cases finished)
      (fun phase => absurd (syncing.symm.trans phase) (by decide)) id
      (fun report => absurd report (elsewhere timer (by decide))) (fun before => ⟨before, rfl⟩)
      (fun final => absurd final (outside timer (by decide)))
  | failed operation report phase kind =>
    have quiet := elsewhere report (by decide)
    refine here.next ?_ (fun finished => by cases finished) ?_ ?_ (fun report => absurd report quiet) ?_
      (fun final => absurd final (outside report (by decide)))
    · have same := sent
      rw [phase] at same
      cases operation <;> simpa [XiaoweiResearchState.retry, isSent, Operation.phase] using same
    · cases operation <;> simp [XiaoweiResearchState.retry]
    · rw [phase]
      cases operation <;> simp [XiaoweiResearchState.retry, isSent, Operation.phase]
    · rw [phase]
      cases operation <;> simp [XiaoweiResearchState.retry, isReplied, Operation.phase]
  | unconcerned about =>
    refine here.next sent (fun finished => by cases finished) here.done id (fun report => ?_)
      (fun before => ⟨before, rfl⟩) (fun final => ?_)
    · rcases about with ⟨-, -, unsending⟩ | ⟨-, syncing⟩
      · exact unsent report (unsending (isSendDelivered_iff.mp report))
      · simp [WorkflowDecision.keep, isSent, syncing]
    · have reply : event.type = "xiaowei.reply" := (of_decide_eq_true final).1
      rcases about with ⟨outcome, -⟩ | ⟨delivered, -⟩
      · simp [isOutcome, reply] at outcome
      · exact absurd (reply.symm.trans delivered) (by decide)
  | other untimed unanswered unnoticed unsending =>
    refine here.next sent ?_ here.done id (fun report => ?_) (fun before => ⟨before, rfl⟩) (fun final => ?_)
    · intro finished
      by_contra unfinished
      change progress.state.phase ≠ .completed at unfinished
      simp [XiaoweiResearchState.onOther, WorkflowDecision.keep, unfinished] at finished
    · exact unsent report (unsending (isSendDelivered_iff.mp report))
    · exact absurd (orderly.reply final) (unanswered (of_decide_eq_true final).1)

end Followed

/-- Every run of a research keeps to its protocol. -/
theorem research_run_protocol {config : XiaoweiResearchConfig} {definition : WorkflowDefinition XiaoweiResearchState}
    (built : xiaoweiResearchWorkflow host config = .ok definition) {events : List Event}
    (run : ((folding definition).restricted ResearchOrderly).Run events progress) : Protocol host progress := by
  obtain ⟨settings, rfl, -⟩ := xiaoweiResearchWorkflow_ok built
  have followed : Followed host progress := by
    refine run.invariant ?_ ?_
    · rintro progress ⟨input, now, decision, begun, rfl⟩
      obtain ⟨status, nothing, sent | unsent⟩ := initialiseResearch_ok begun
      · refine ⟨⟨iff_of_true sent.2 (by simp [Progress.began, sent.1, isSent]), ?_, ?_, ?_⟩, ?_, ?_, ?_, ?_⟩ <;>
          simp [Progress.began, status, sent.1]
      · refine ⟨⟨iff_of_false ?_ ?_, ?_, ?_, ?_⟩, ?_, ?_, ?_, ?_⟩ <;>
          simp [Progress.began, status, unsent.1, unsent.2, isSent]
    · rintro before event after here ⟨⟨-, -, decision, reduced, rfl⟩, orderly⟩
      exact here.step orderly reduced
  exact followed.protocol

/-! ## Two replies -/

def researchHost : Host :=
  .tabulated "Asia/Shanghai" 28800000
    [("DH-1\x001", "d033b942b03df487307783b01b97c470"),
      ("xiaowei-result:DH-1:om_reply\x002", "1129896ef55674f35b4a67d9607a3bfc")]
    [("2026-01-04T19:00:00.000Z", 1767553200000)]

def researchConfig : XiaoweiResearchConfig :=
  { agentName := none, agentOpenId := "ou_agent", agentChatId := "oc_agent", retryBaseMs := none
    retryMaxMs := none, failureNotifyThreshold := none, taskProjection := none }

def researchSettings : ResearchSettings :=
  { agentName := "智造湖小维", agentOpenId := "ou_agent", agentChatId := "oc_agent", retryBaseMs := 120000
    retryMaxMs := 3600000, failureThreshold := 3, taskProjection := none }

theorem research_built : xiaoweiResearchWorkflow researchHost researchConfig =
    .ok (researchDefinition researchHost researchSettings) := by
  rfl

def researchInput : JsValue :=
  .object [("requestId", "DH-1"), ("approvedAt", "2026-01-04T19:00:00.000Z"), ("title", "黑湖工单报错"), ("prompt", "核对生产日志")]

def researchState : XiaoweiResearchState :=
  { requestId := "DH-1", approvedAt := "2026-01-04T19:00:00.000Z", taskId := none, title := "黑湖工单报错"
    prompt := "核对生产日志", sourceChat := none, sourceSender := none, agentName := "智造湖小维"
    agentOpenId := "ou_agent", agentChatId := "oc_agent", retryBaseMs := 120000, retryMaxMs := 3600000
    failureThreshold := 3, taskProjection := none, phase := .ready, sequence := 0, sentMessageId := none
    sentAt := none, replyMessageId := none, replyContent := none, replyReceivedAt := none, replyUrl := none
    lastProgressMessageId := none, lastProgressAt := none, ownerNotified := false, taskUpdated := true
    completedAt := none, failure := none }

def researchStart : WorkflowDecision XiaoweiResearchState :=
  { status := .waiting, state := researchState, wakeAt := some (some 1767556800000), effects := [] }

theorem research_begun : (researchDefinition researchHost researchSettings).initialise researchInput
    1767556800000 = .ok researchStart := by
  rfl

/-- The request is reported to be sent. -/
def requestDelivered : Event :=
  { id := "effect:xiaowei-send:d033b942b03df487307783b01b97c470:delivered", type := "effect.delivered"
    occurredAt := 1767556802000
    payload := .object [("messageId", "om_request"), ("chatId", "oc_agent"),
      ("effectId", "xiaowei-send:d033b942b03df487307783b01b97c470"), ("effectKind", sendAsUser)] }

def finalReply : Event :=
  { id := "xiaowei-reply:om_reply", type := "xiaowei.reply", occurredAt := 1767556801000
    payload := .object [("messageId", "om_reply"), ("stage", "final"), ("content", "已定位到根因")] }

/-- The reply comes before the delivery of the request is reported, and is lost. -/
theorem early_not_protocol : ∃ definition events progress,
    xiaoweiResearchWorkflow researchHost researchConfig = .ok definition ∧
      ((folding definition).restricted fun progress event => Answers progress event ∧ Due progress event).Run
        events progress ∧
      (∃ reply ∈ events, isFinalReply reply) ∧
      (∀ effect ∈ progress.effects, progress.reported "effect.delivered" effect) ∧
      progress.state.replyContent = none ∧ ¬ Protocol researchHost progress := by
  obtain ⟨progress, entry, replayed, all, lost, listed, final⟩ : ∃ progress entry,
      replay (researchDefinition researchHost researchSettings)
        (fun progress event => Answers progress event ∧ Due progress event)
        [.timer 1767556800000 1767556800000, .other finalReply, .other requestDelivered]
        (.began researchStart) = some progress ∧
      (∀ effect ∈ progress.effects, progress.reported "effect.delivered" effect) ∧
      progress.state.replyContent = none ∧ progress.applied[1]? = some entry ∧ isFinalReply entry.2 :=
    ⟨_, _, rfl, by decide, rfl, rfl, by decide⟩
  refine ⟨_, _, progress, research_built, replay_run research_begun replayed,
    ⟨finalReply, by simp [Given.event], by decide⟩, all, lost, fun protocol => ?_⟩
  obtain ⟨content, -, held⟩ := protocol.kept entry (List.mem_of_getElem? listed) final
  rw [lost] at held
  cases held

/-- The reply comes after it, and completes the research once the owner was told. -/
theorem answered_protocol : ∃ progress, Protocol researchHost progress ∧
    progress.state.replyContent = some "已定位到根因" ∧ progress.status = .completed := by
  obtain ⟨progress, replayed, held, completed⟩ : ∃ progress,
      replay (researchDefinition researchHost researchSettings) ResearchOrderly
        [.timer 1767556800000 1767556800000, .other requestDelivered, .other finalReply, .other {
            id := "effect:xiaowei-notify:1129896ef55674f35b4a67d9607a3bfc:delivered", type := "effect.delivered"
            occurredAt := 1767556803000
            payload := .object [("effectId", "xiaowei-notify:1129896ef55674f35b4a67d9607a3bfc"),
              ("effectKind", notifyOwner)] }]
        (.began researchStart) = some progress ∧
      progress.state.replyContent = some "已定位到根因" ∧ progress.status = .completed :=
    ⟨_, rfl, rfl, rfl⟩
  exact ⟨progress, research_run_protocol research_built (replay_run research_begun replayed), held, completed⟩

end QuarkSelfAI.Xiaowei

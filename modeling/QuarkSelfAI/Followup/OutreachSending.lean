import QuarkSelfAI.Followup.OutreachSteps

/-!
# One message at a time

While a message is unanswered its outreach has no wake time, so no timer sends another
one. Only the report of a failed card gives it one: a card of the approval that fails
after the owner answered it.
-/

namespace QuarkSelfAI.Followup

open Foundation Storage Workflow Domain

variable {host : Host} {state : OutreachState} {event : Event} {progress : Progress OutreachState}

def isSend (effect : EffectInput) : Bool := effect.kind = sendAsUser

/-- Every message asked for has failed, and none was delivered. -/
def AllFailed (progress : Progress OutreachState) : Prop :=
  ∀ effect ∈ progress.effects, isSend effect →
    progress.reported "effect.failed" effect ∧ ¬ progress.reported "effect.delivered" effect

/-- A card fails while a message is unanswered. -/
def cardFailsLate (progress : Progress OutreachState) (event : Event) : Bool :=
  progress.state.phase = .sending ∧ event.type = "effect.failed" ∧ effectKind event = some requestInteraction ∧
    progress.effects.any fun effect => isSend effect && !progress.answered effect

/-- The condition on one event: a report answers an effect, a timer is given when it is
due, and no card fails while a message is unanswered. -/
structure SendingOrderly (progress : Progress OutreachState) (event : Event) : Prop where
  answers : Answers progress event
  due : Due progress event
  card : cardFailsLate progress event = false

instance (progress : Progress OutreachState) (event : Event) : Decidable (SendingOrderly progress event) :=
  decidable_of_iff (Answers progress event ∧ Due progress event ∧ cardFailsLate progress event = false)
    ⟨fun ⟨answers, due, card⟩ => ⟨answers, due, card⟩, fun orderly => ⟨orderly.answers, orderly.due, orderly.card⟩⟩

/-! ## The invariant -/

/-- The phases before the approval. -/
def isEarly (phase : OutreachPhase) : Bool :=
  phase ∈ [OutreachPhase.ready, .resolving, .awaitingContact, .awaitingApproval]

/-- Before the approval nothing is sent; while sending, nothing was delivered, one
message at most is unanswered, and none is once the outreach is to wake. -/
structure Sending (progress : Progress OutreachState) : Prop where
  unsent : isEarly progress.state.phase → ∀ effect ∈ progress.effects, ¬ isSend effect
  undelivered : progress.state.phase = .sending → ∀ effect ∈ progress.effects, isSend effect →
    ¬ progress.reported "effect.delivered" effect
  single : progress.state.phase = .sending → ∀ effect ∈ progress.effects, ∀ other ∈ progress.effects,
    isSend effect → isSend other → ¬ progress.reported "effect.failed" effect →
      ¬ progress.reported "effect.failed" other → effect.id = other.id
  settled : progress.state.phase = .sending → progress.wakeAt.isSome →
    ∀ effect ∈ progress.effects, isSend effect → progress.reported "effect.failed" effect
  heard : ∀ entry ∈ progress.applied, isOutcome entry.2 → effectKind entry.2 = some sendAsUser →
    ∃ effect ∈ progress.effects, isSend effect ∧ effectIdOf entry.2 = some effect.id

namespace Sending

variable {decision : WorkflowDecision OutreachState} {effect : EffectInput}

/-- A report about a message is about one that was asked for. -/
theorem heardNext (here : Sending progress) (answers : Answers progress event) :
    ∀ entry ∈ (progress.next event decision).applied, isOutcome entry.2 → effectKind entry.2 = some sendAsUser →
        ∃ effect ∈ (progress.next event decision).effects, isSend effect ∧ effectIdOf entry.2 = some effect.id := by
  intro entry listed outcome kind
  rcases List.mem_append.mp listed with before | now
  · obtain ⟨effect, asked, own⟩ := here.heard entry before outcome kind
    exact ⟨effect, List.mem_append_left _ asked, own⟩
  · cases List.mem_singleton.mp now
    obtain ⟨effect, asked, reports, -⟩ := answers outcome
    obtain ⟨-, id, same⟩ := reportsOn_spec.mp reports
    have send : effect.kind = sendAsUser := Option.some_inj.mp (same.symm.trans kind)
    exact ⟨effect, List.mem_append_left _ asked, by simp [isSend, send], id⟩

/-- Before the approval no report is about a message. -/
theorem unheard (here : Sending progress) (early : isEarly progress.state.phase) {type : String}
    (outcome : type = "effect.delivered" ∨ type = "effect.failed")
    (send : isSend effect) : progress.reported type effect = false := by
  rw [Progress.reported, List.any_eq_false]
  intro entry listed reports
  obtain ⟨is, -, kind⟩ := reportsOn_spec.mp reports
  rw [of_decide_eq_true send] at kind
  obtain ⟨asked, known, own, -⟩ := here.heard entry listed (by simp [isOutcome, is, outcome]) kind
  exact here.unsent early asked known own

/-- Before the approval and after the delivery nothing is to be shown of the messages. -/
theorem elsewhere (here : Sending progress) (answers : Answers progress event)
    (early : isEarly decision.state.phase → isEarly progress.state.phase ∧ ∀ effect ∈ decision.effects, ¬ isSend effect)
    (sending : decision.state.phase ≠ .sending) : Sending (progress.next event decision) := by
  refine ⟨?_, fun phase => absurd phase sending, fun phase => absurd phase sending,
    fun phase => absurd phase sending, here.heardNext answers⟩
  intro phase effect listed
  obtain ⟨before, nothing⟩ := early phase
  rcases List.mem_append.mp listed with asked | now
  · exact here.unsent before effect asked
  · exact nothing effect now

/-- While sending, an event that delivers nothing and sends nothing leaves at most fewer
messages unanswered. -/
theorem still (here : Sending progress) (answers : Answers progress event) (sending : progress.state.phase = .sending)
    (undelivered : ¬ Reports "effect.delivered" sendAsUser event)
    (nothing : ∀ effect ∈ decision.effects, ¬ isSend effect)
    (settled : (decision.wakeAt.getD progress.wakeAt).isSome → ∀ effect ∈ progress.effects, isSend effect →
      progress.reported "effect.failed" effect ∨ reportsOn "effect.failed" effect event) :
    decision.state.phase = .sending → Sending (progress.next event decision) := by
  intro phase
  have known : ∀ {effect : EffectInput}, effect ∈ (progress.next event decision).effects → isSend effect →
      effect ∈ progress.effects := by
    intro effect listed send
    rcases List.mem_append.mp listed with before | now
    · exact before
    · exact absurd send (nothing effect now)
  refine ⟨?_, ?_, ?_, ?_, here.heardNext answers⟩
  · intro early
    rw [show (progress.next event decision).state.phase = .sending from phase] at early
    cases early
  · intro _ effect listed send reported
    rw [Progress.reported_next, Bool.or_eq_true] at reported
    rcases reported with before | now
    · exact here.undelivered sending effect (known listed send) send before
    · obtain ⟨is, -, kind⟩ := reportsOn_spec.mp now
      rw [of_decide_eq_true send] at kind
      exact undelivered ⟨is, kind⟩
  · intro _ effect listed other also send same unanswered unfailed
    rw [Progress.reported_next, Bool.or_eq_true, not_or] at unanswered unfailed
    exact here.single sending effect (known listed send) other (known also same) send same unanswered.1 unfailed.1
  · intro _ wakes effect listed send
    rw [Progress.reported_next, Bool.or_eq_true]
    exact settled wakes effect (known listed send) send

/-- A message is sent when all before it have failed. -/
theorem sends (here : Sending progress) (answers : Answers progress event) {next : OutreachState}
    (failed : AllFailed progress) (quiet : isOutcome event = false)
    (phase : next.phase = .sending) (new : ¬ progress.reported "effect.delivered" effect) :
    Sending (progress.next event (next.asking effect)) := by
  have unreported : ∀ {type : String} {other : EffectInput},
      type = "effect.delivered" ∨ type = "effect.failed" → reportsOn type other event = false := by
    intro type other outcome
    refine reportsOn_other rfl fun is => ?_
    simp only [isOutcome, is, outcome, decide_true] at quiet
    cases quiet
  have split : ∀ {other : EffectInput}, other ∈ (progress.next event (next.asking effect)).effects →
      other ∈ progress.effects ∨ other = effect := by
    intro other listed
    rcases List.mem_append.mp listed with before | now
    · exact .inl before
    · exact .inr (List.mem_singleton.mp now)
  refine ⟨?_, ?_, ?_, ?_, here.heardNext answers⟩
  · intro early
    rw [show (progress.next event (next.asking effect)).state.phase = .sending from phase] at early
    cases early
  · intro _ other listed send
    rw [Progress.reported_next, unreported (.inl rfl), Bool.or_false]
    rcases split listed with before | rfl
    · exact (failed other before send).2
    · exact new
  · intro _ one listed other also send same unanswered unfailed
    rw [Progress.reported_next, unreported (.inr rfl), Bool.or_false] at unanswered unfailed
    rcases split listed with before | rfl
    · exact absurd (failed one before send).1 unanswered
    · rcases split also with earlier | rfl
      · exact absurd (failed other earlier same).1 unfailed
      · rfl
  · intro _ wakes
    cases wakes

/-- What changes neither the phase nor the wake time. -/
theorem kept (here : Sending progress) (answers : Answers progress event) (late : Late progress.state event)
    (phase : decision.state.phase = progress.state.phase) (wake : decision.wakeAt = none)
    (nothing : decision.effects = []) : Sending (progress.next event decision) := by
  have none : ∀ effect ∈ decision.effects, ¬ isSend effect := by simp [nothing]
  by_cases sending : progress.state.phase = .sending
  · refine here.still answers sending (fun report => late.unsent report sending) none ?_ (phase.trans sending)
    rw [wake]
    exact fun wakes effect listed send => .inl (here.settled sending wakes effect listed send)
  · refine here.elsewhere answers (fun early => ⟨?_, none⟩) fun next => sending (phase.symm.trans next)
    rw [phase] at early
    exact early

/-- A message fails: with it every message has. -/
theorem failedSend (here : Sending progress) (answers : Answers progress event)
    (report : Reports "effect.failed" sendAsUser event) (sending : progress.state.phase = .sending) :
    ∀ effect ∈ progress.effects, isSend effect →
      progress.reported "effect.failed" effect ∨ reportsOn "effect.failed" effect event := by
  intro effect listed send
  obtain ⟨answered, asked, reports, unanswered⟩ := answers (by simp [isOutcome, report.1])
  obtain ⟨is, id, kind⟩ := reportsOn_spec.mp reports
  by_cases failed : progress.reported "effect.failed" effect
  · exact .inl failed
  · have own : isSend answered := by
      simp [isSend, Option.some_inj.mp (kind.symm.trans report.2)]
    have unfailed : ¬ progress.reported "effect.failed" answered := by
      simp only [Progress.answered, Bool.or_eq_false_iff] at unanswered
      simp [unanswered.2]
    -- Only one message was unanswered, so the report is about this one.
    have same := here.single sending effect listed answered asked send own failed unfailed
    have ownKind : effect.kind = sendAsUser := of_decide_eq_true send
    exact .inr (reportsOn_spec.mpr ⟨report.1, by rw [id, same], by rw [ownKind, report.2]⟩)

theorem failed (here : Sending progress) (orderly : SendingOrderly progress event) {operation : Operation}
    (report : Reports "effect.failed" operation.kind event)
    (waits : ∀ phase ∈ operation.phase, progress.state.phase = phase) :
    Sending (progress.next event (OutreachState.retry host
      { progress.state with phase := operation.retried progress.state.phase } operation event)) := by
  have nothing : ∀ effect ∈ (OutreachState.retry host
      { progress.state with phase := operation.retried progress.state.phase } operation event).effects,
      ¬ isSend effect := by
    intro effect asked
    simp [isSend, retry_kind effect asked, notifyOwner, sendAsUser]
  have undelivered : ¬ Reports "effect.delivered" sendAsUser event := by
    rintro ⟨is, -⟩
    rw [report.1] at is
    exact absurd is (by decide)
  by_cases sending : progress.state.phase = .sending
  · refine here.still orderly.answers sending undelivered nothing (fun _ => ?_) ?_
    · by_cases message : operation = .send
      · subst message
        exact here.failedSend orderly.answers report sending
      · -- A card that fails now finds every message answered.
        have card : operation = .interaction := by
          cases operation with
          | interaction => rfl
          | send => exact absurd rfl message
          | resolveContact => exact absurd (sending.symm.trans (waits .resolving rfl)) (by decide)
          | taskUpdate => exact absurd (sending.symm.trans (waits .updatingTask rfl)) (by decide)
          | notify => exact absurd (sending.symm.trans (waits .notifying rfl)) (by decide)
        subst card
        intro effect listed send
        have late := orderly.card
        simp only [cardFailsLate, sending, report.1, show effectKind event = some requestInteraction from report.2,
          true_and, decide_eq_false_iff_not, List.any_eq_true, not_exists, not_and] at late
        have answered : progress.answered effect := by
          simpa [send] using late effect listed
        rw [Progress.answered, Bool.or_eq_true] at answered
        exact .inl (answered.resolve_left (here.undelivered sending effect listed send))
    · change operation.retried progress.state.phase = .sending
      rw [Operation.retried, if_neg, sending]
      rintro rfl
      exact absurd (sending.symm.trans (waits .resolving rfl)) (by decide)
  · refine here.elsewhere orderly.answers (fun early => ⟨?_, nothing⟩) ?_
    · change isEarly (operation.retried progress.state.phase) at early
      unfold Operation.retried at early
      split at early
      · rename_i resolve
        subst resolve
        rw [waits .resolving rfl]
        rfl
      · exact early
    · change operation.retried progress.state.phase ≠ .sending
      unfold Operation.retried
      split
      · decide
      · exact sending

/-- All messages have failed when another one is asked for. -/
theorem allFailed (here : Sending progress) (due : Due progress event)
    (reduced : progress.state.reduce host event = .ok decision)
    (asked : effect ∈ decision.effects) (send : isSend effect) : AllFailed progress := by
  rcases sends_phase (outreach_step reduced) asked (of_decide_eq_true send) with
    ⟨⟨-, awaiting, -⟩, -⟩ | ⟨timer, sending, -⟩
  · exact fun other listed own => absurd own (here.unsent (by simp [isEarly, awaiting]) other listed)
  · obtain ⟨scheduledAt, scheduled, -⟩ := due timer
    have wakes : progress.wakeAt.isSome := by simp [Option.mem_def.mp scheduled]
    exact fun other listed own =>
      ⟨here.settled sending wakes other listed own, here.undelivered sending other listed own⟩

theorem step (here : Sending progress) (orderly : SendingOrderly progress event)
    (reduced : progress.state.reduce host event = .ok decision) : Sending (progress.next event decision) := by
  have answers := orderly.answers
  cases outreach_step reduced with
  | resolving timer phase =>
    refine here.elsewhere answers (fun _ => ⟨?_, ?_⟩) (by simp [OutreachState.asking])
    · rcases phase with phase | phase <;> simp [isEarly, phase]
    · simp [OutreachState.asking, OutreachState.resolveEffect, isSend, resolveContact, sendAsUser]
  | reasked timer phase =>
    refine here.elsewhere answers (fun _ => ⟨?_, ?_⟩) ?_
    · rcases phase with phase | phase <;> simp [isEarly, phase]
    · simp [OutreachState.asking, isSend, requestInteraction, sendAsUser]
    · rcases phase with phase | phase <;> simp [OutreachState.asking, counted, phase]
  | resent effect timer phase asked =>
    have kind := sendEffect_kind asked
    have failed := here.allFailed orderly.due reduced (List.mem_singleton_self effect) (by simp [isSend, kind])
    refine here.sends answers failed (by simp [isOutcome, timer]) phase fun reported => ?_
    obtain ⟨entry, listed, reports⟩ := List.any_eq_true.mp reported
    obtain ⟨is, id, own⟩ := reportsOn_spec.mp reports
    rw [kind] at own
    obtain ⟨other, known, send, same⟩ := here.heard entry listed (by simp [isOutcome, is]) own
    refine (failed other known send).2 (List.any_eq_true.mpr ⟨entry, listed, ?_⟩)
    exact reportsOn_spec.mpr ⟨is, same, by rw [own, of_decide_eq_true send]⟩
  | rerecorded effect timer phase asked | renotified effect timer phase asked =>
    exact here.elsewhere answers (by simp [OutreachState.asking, counted, phase, isEarly])
      (by simp [OutreachState.asking, counted, phase])
  | resolved found report phase =>
    refine here.elsewhere answers (fun _ => ⟨by simp [isEarly, phase], ?_⟩) ?_
    · simp [OutreachState.asking, isSend, requestInteraction, sendAsUser]
    · unfold OutreachState.asking resolved
      split <;> simp [OutreachState.selecting]
  | selected selected type phase candidate =>
    refine here.elsewhere answers (fun _ => ⟨by simp [isEarly, phase], ?_⟩)
      (by simp [OutreachState.asking, OutreachState.selecting])
    simp [OutreachState.asking, isSend, requestInteraction, sendAsUser]
  | queried query type phase =>
    refine here.elsewhere answers (fun _ => ⟨by simp [isEarly, phase], ?_⟩)
      (by simp [OutreachState.asking, queried])
    simp [OutreachState.asking, OutreachState.resolveEffect, isSend, resolveContact, sendAsUser]
  | declined | sent => exact here.elsewhere answers (by simp [isEarly]) (by simp)
  | approved effect answer asked =>
    have early : isEarly progress.state.phase := by simp [isEarly, answer.2.1]
    have failed : AllFailed progress := fun other listed own => absurd own (here.unsent early other listed)
    have new : progress.reported "effect.delivered" effect = false :=
      here.unheard early (.inl rfl) (by simp [isSend, sendEffect_kind asked])
    exact here.sends answers failed (by simp [isOutcome, answer.1]) rfl (by simp [new])
  | replied messageId content url effect type phase asked =>
    exact here.elsewhere answers (by simp [OutreachState.asking, replied, isEarly])
      (by simp [OutreachState.asking, replied])
  | recorded result effect report phase asked =>
    exact here.elsewhere answers (by simp [OutreachState.asking, recorded, isEarly])
      (by simp [OutreachState.asking, recorded])
  | noticed late notice | shown late report | other late unnoticed unshown unfailed =>
    exact here.kept answers late rfl rfl rfl
  | notified report phase =>
    exact here.elsewhere answers (by simp [OutreachState.onNotified, isEarly]) (by simp [OutreachState.onNotified])
  | failed operation unnoticed report waits => exact here.failed orderly report waits

end Sending

/-- A message is asked for only when every message before it has failed. -/
theorem outreach_run_single {config : FollowupOutreachConfig} {definition : WorkflowDefinition OutreachState}
    (built : followupOutreachWorkflow host config = .ok definition) {events : List Event}
    (run : ((folding definition).restricted SendingOrderly).Run events progress)
    (orderly : SendingOrderly progress event) {decision : WorkflowDecision OutreachState}
    (reduced : definition.reduce progress.state event = .ok decision) {effect : EffectInput}
    (asked : effect ∈ decision.effects) (kind : effect.kind = sendAsUser) : AllFailed progress := by
  obtain ⟨settings, rfl, -⟩ := followupOutreachWorkflow_ok built
  have sending : Sending progress := by
    refine run.invariant ?_ ?_
    · rintro progress ⟨input, now, decision, begun, rfl⟩
      obtain ⟨-, nothing, -, phase, -⟩ := initialiseOutreach_ok begun
      refine ⟨?_, ?_, ?_, ?_, ?_⟩ <;> simp [Progress.began, nothing, phase]
    · rintro before event after here ⟨⟨-, -, decision, reduced, rfl⟩, orderly⟩
      exact here.step orderly reduced
  exact sending.allFailed orderly.due reduced asked (by simp [isSend, kind])

/-- The approval was shown before its card is reported to have failed. -/
def lateCard : List Given :=
  oneFound ++ [.other (ownerApproved 1767556802000),
    .other (effectReport "followup-approval:bc18c75d3bfce8d10989c1953b25edec" requestInteraction "failed" []
      1767556803000)]

/-- The report of the card wakes the outreach, and it asks for a second message. -/
theorem lateCard_not_single : ∃ definition events progress event decision effect,
    followupOutreachWorkflow questionHost questionConfig = .ok definition ∧
      ((folding definition).restricted fun progress event => Answers progress event ∧ Due progress event).Run
        events progress ∧
      Due progress event ∧ definition.reduce progress.state event = .ok decision ∧
      effect ∈ decision.effects ∧ effect.kind = sendAsUser ∧ ¬ AllFailed progress := by
  obtain ⟨progress, effect, decision, second, replayed, due, reduced, asked, kind, listed, send, unanswered⟩ :
      ∃ progress effect decision second, replay (outreachDefinition questionHost questionSettings)
          (fun progress event => Answers progress event ∧ Due progress event)
          lateCard (.began questionStart) = some progress ∧
        Due progress (Runtime.timerEvent 1767556923000 1767556923000) ∧
        progress.state.reduce questionHost (Runtime.timerEvent 1767556923000 1767556923000) = .ok decision ∧
        decision.effects = [second] ∧ second.kind = sendAsUser ∧
        progress.effects[2]? = some effect ∧ isSend effect ∧
        progress.reported "effect.failed" effect = false :=
    ⟨_, _, _, _, rfl, by decide +kernel, rfl, rfl, rfl, rfl, by decide +kernel, by decide +kernel⟩
  refine ⟨_, _, progress, _, decision, second, question_built, replay_run question_begun replayed, due, reduced,
    by simp [asked], kind, fun all => ?_⟩
  have failed := (all effect (List.mem_of_getElem? listed) send).1
  rw [unanswered] at failed
  cases failed

/-- A message that failed is sent again, after the card was shown in time. -/
theorem retried_single : ∃ progress : Progress OutreachState, AllFailed progress ∧
    progress.effects.map (·.kind) = [resolveContact, requestInteraction, sendAsUser, notifyOwner] := by
  obtain ⟨progress, decision, second, replayed, orderly, reduced, asked, kind, kinds⟩ : ∃ progress decision second,
        replay (outreachDefinition questionHost questionSettings) SendingOrderly
          (oneFound ++ [
            .other (effectReport "followup-approval:bc18c75d3bfce8d10989c1953b25edec" requestInteraction
              "delivered" [] 1767556802000),
            .other (ownerApproved 1767556803000),
            .other (effectReport "followup-send:7690125071a8b5ee8eb8eb71e33a96f5" sendAsUser "failed" []
              1767556804000)]) (.began questionStart) = some progress ∧
        SendingOrderly progress (Runtime.timerEvent 1767556924000 1767556924000) ∧
        progress.state.reduce questionHost (Runtime.timerEvent 1767556924000 1767556924000) = .ok decision ∧
        decision.effects = [second] ∧ second.kind = sendAsUser ∧
        progress.effects.map (·.kind) = [resolveContact, requestInteraction, sendAsUser, notifyOwner] :=
    ⟨_, _, _, rfl, by decide +kernel, rfl, rfl, rfl, rfl⟩
  exact ⟨progress, outreach_run_single question_built (replay_run question_begun replayed) orderly reduced
    (by simp [asked]) kind, kinds⟩

end QuarkSelfAI.Followup

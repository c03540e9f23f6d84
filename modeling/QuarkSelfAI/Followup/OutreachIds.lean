import QuarkSelfAI.Followup.OutreachSteps

/-!
# The effect ids of an outreach

Most ids carry the sequence number, which a phase either advances or uses once for its
own kind of effect. A failure notice is identified by its operation and the beginning of
its streak, so ids differ as long as no two told streaks of an operation began together.
-/

namespace QuarkSelfAI.Followup

open Foundation Storage Workflow Domain

variable {host : Host} {state : OutreachState} {event : Event} {progress : Progress OutreachState}
  {operation : Operation}

/-! ## Ids -/

/-- What an effect of an outreach is identified by. -/
inductive OutreachKey where
  | resolve (sequence : Nat)
  | approval (openId : String) (sequence : Nat)
  | choice (sequence : Nat)
  | input (sequence : Nat)
  | send (sequence : Nat)
  | task (messageId : String) (sequence : Nat)
  | result (messageId : String) (sequence : Nat)
  | failed (operation : Operation) (startedAt : Timestamp)

namespace OutreachKey

def tag : OutreachKey → String
  | .resolve _ => "followup-resolve"
  | .approval _ _ => "followup-approval"
  | .choice _ => "followup-contact-choice"
  | .input _ => "followup-contact-input"
  | .send _ => "followup-send"
  | .task _ _ => "followup-task-update"
  | .result _ _ => "followup-result-notify"
  | .failed _ _ => "followup-failure-notice"

def values (requestId : String) : OutreachKey → List String
  | .resolve sequence | .choice sequence | .input sequence | .send sequence => [requestId, toString sequence]
  | .approval text sequence | .task text sequence | .result text sequence => [requestId, text, toString sequence]
  | .failed operation startedAt => [requestId, operation.text, toISOString startedAt]

def id (host : Host) (requestId : String) (key : OutreachKey) : String := host.stable key.tag (key.values requestId)

/-- The sequence number that a key carries. -/
def sequence : OutreachKey → Option Nat
  | .resolve sequence | .choice sequence | .input sequence | .send sequence | .approval _ sequence
  | .task _ sequence | .result _ sequence => some sequence
  | .failed _ _ => none

theorem operation_text_inj {left right : Operation} : left.text = right.text ↔ left = right := by
  cases left <;> cases right <;> simp [Operation.text]

theorem id_injective (lawful : host.Lawful) (requestId : String) : Function.Injective (id host requestId) := by
  intro left right same
  have plain : ∀ key : OutreachKey, ':' ∉ key.tag.toList := by
    intro key
    cases key <;> simp [tag]
  obtain ⟨tags, joined⟩ := (Host.stable_inj lawful (plain left) (plain right)).mp same
  have counters : ∀ {one other : Nat},
      Host.joined [requestId, toString one] = Host.joined [requestId, toString other] → one = other := by
    intro one other equal
    exact decimal_inj.mp (by simpa [Host.joined_two] using equal)
  -- A text may hold the separator, the number after it cannot.
  have texts : ∀ {text replaced : String} {one other : Nat},
      Host.joined [requestId, text, toString one] = Host.joined [requestId, replaced, toString other] →
        text = replaced ∧ one = other := by
    intro text replaced one other equal
    rw [Host.joined_three, Host.joined_three, String.append_right_inj, String.append_right_inj] at equal
    have apart := (suffixed_inj (not_mem_decimal (by decide) one) (not_mem_decimal (by decide) other)).mp equal
    exact ⟨apart.1, decimal_inj.mp apart.2⟩
  have streaks : ∀ {operation other : Operation} {one later : Timestamp},
      Host.joined [requestId, operation.text, toISOString one] =
        Host.joined [requestId, other.text, toISOString later] → operation = other ∧ one = later := by
    intro operation other one later equal
    have unmarked : ∀ operation : Operation, '\x00' ∉ operation.text.toList := by
      intro operation
      cases operation <;> simp [Operation.text]
    rw [Host.joined_three, Host.joined_three, String.append_right_inj, String.append_right_inj,
      tagged_inj (unmarked operation) (unmarked other)] at equal
    exact ⟨operation_text_inj.mp equal.1, toISOString_injective equal.2⟩
  -- Different tags are different words; under one tag the values decide.
  cases left <;> cases right <;> simp only [tag, String.reduceEq] at tags
  · exact congrArg _ (counters joined)
  · obtain ⟨rfl, rfl⟩ := texts joined
    rfl
  · exact congrArg _ (counters joined)
  · exact congrArg _ (counters joined)
  · exact congrArg _ (counters joined)
  · obtain ⟨rfl, rfl⟩ := texts joined
    rfl
  · obtain ⟨rfl, rfl⟩ := texts joined
    rfl
  · obtain ⟨rfl, rfl⟩ := streaks joined
    rfl

end OutreachKey

/-- The key of the card that a state shows the owner. -/
def interactionKey (state : OutreachState) : OutreachKey :=
  match state.phase, state.contact, state.approvalId with
  | .awaitingApproval, some contact, some _ => .approval contact.openId state.sequence
  | _, _, _ => if state.candidates ≠ [] then .choice state.sequence else .input state.sequence

theorem interactionEffect_id {now : Timestamp} : (state.interactionEffect host now).id =
    (interactionKey state).id host state.requestId := by
  by_cases bound : ∃ contact approvalId, state.phase = .awaitingApproval ∧ state.contact = some contact ∧
      state.approvalId = some approvalId
  · obtain ⟨contact, approvalId, awaiting, known, bound⟩ := bound
    simp only [OutreachState.interactionEffect, interactionKey, awaiting, known, bound]
    rfl
  · have effect : state.interactionEffect host now =
        if state.candidates ≠ [] then state.choiceEffect host now else state.inputEffect host now := by
      unfold OutreachState.interactionEffect
      split
      · rename_i contact approvalId awaiting known given
        exact (bound ⟨contact, approvalId, awaiting, known, given⟩).elim
      · rfl
    have key : interactionKey state =
        if state.candidates ≠ [] then .choice state.sequence else .input state.sequence := by
      unfold interactionKey
      split
      · rename_i contact approvalId awaiting known given
        exact (bound ⟨contact, approvalId, awaiting, known, given⟩).elim
      · rfl
    rw [effect, key]
    split <;> rfl

theorem interactionKey_sequence : (interactionKey state).sequence = some state.sequence := by
  unfold interactionKey
  split
  · rfl
  · split <;> rfl

/-! ## The streaks told of -/

/-- The streak that an event tells the owner of, by its operation and beginning. -/
def tells (state : OutreachState) (event : Event) : Option (Operation × Timestamp) :=
  if event.type = "effect.failed" ∧ OutreachState.aboutNotice event = false then
    (state.failedOperation event).bind fun owned =>
      let failure := state.nextFailure owned.2 event
      if failure.count = state.failureThreshold then some (owned.2, failure.startedAt) else none
  else none

def toldStreaks (history : List (OutreachState × Event)) : List (Operation × Timestamp) :=
  history.filterMap fun entry => tells entry.1 entry.2

theorem toldStreaks_next {history : List (OutreachState × Event)} :
    toldStreaks (history ++ [(state, event)]) = toldStreaks history ++ (tells state event).toList := by
  rw [toldStreaks, List.filterMap_append, ← toldStreaks]
  cases told : tells state event <;> simp [told]

/-- The condition on one event: an operation tells of streaks that began at different instants. -/
def StreaksOrderly (progress : Progress OutreachState) (event : Event) : Prop :=
  ∀ told ∈ tells progress.state event, told ∉ toldStreaks progress.applied

instance (progress : Progress OutreachState) (event : Event) : Decidable (StreaksOrderly progress event) :=
  inferInstanceAs (Decidable (∀ told ∈ tells progress.state event, told ∉ toldStreaks progress.applied))

/-! ## The ids a run has used -/

/-- The effects that a phase has yet to ask for under its sequence number. -/
def ahead (phase : OutreachPhase) (key : OutreachKey) : Bool :=
  match phase, key with
  | .resolving, .approval _ _ | .resolving, .choice _ | .resolving, .input _ => true
  | .awaitingContact, .approval _ _ => true
  | _, _ => false

structure Accounted (keys : List OutreachKey) (state : OutreachState) (told : List (Operation × Timestamp)) : Prop where
  distinct : keys.Nodup
  numbered : ∀ key ∈ keys, ∀ sequence ∈ key.sequence, sequence ≤ state.sequence
  unasked : ∀ key, ahead state.phase key → key.sequence = some state.sequence → key ∉ keys
  failed : ∀ operation startedAt, .failed operation startedAt ∈ keys → (operation, startedAt) ∈ told

namespace Accounted

variable {keys : List OutreachKey} {told more : List (Operation × Timestamp)} {next : OutreachState}

/-- No effect is numbered beyond the counter. -/
theorem unnumbered (here : Accounted keys state told) {key : OutreachKey}
    (later : key.sequence = some (state.sequence + 1)) : key ∉ keys :=
  fun used => absurd (here.numbered key used _ later) (Nat.not_succ_le_self _)

/-- Nothing is asked for, and nothing more is ahead. -/
theorem moved (here : Accounted keys state told) (counted : next.sequence = state.sequence)
    (fewer : ∀ key, ahead next.phase key → ahead state.phase key) : Accounted keys next (told ++ more) where
  distinct := here.distinct
  numbered := fun key used => counted ▸ here.numbered key used
  unasked := fun key awaited number => here.unasked key (fewer key awaited) (counted ▸ number)
  failed := fun operation startedAt used => List.mem_append_left _ (here.failed operation startedAt used)

/-- One effect is asked for under a number that is not spent for it. -/
theorem asked (here : Accounted keys state told) (key : OutreachKey) (next : OutreachState)
    (fresh : key ∉ keys) (number : key.sequence = some next.sequence) (counted : state.sequence ≤ next.sequence)
    (others : ∀ other, ahead next.phase other → other.sequence = some next.sequence →
      other ≠ key ∧ other ∉ keys) : Accounted (keys ++ [key]) next (told ++ more) := by
  refine ⟨here.distinct.append (List.nodup_singleton _) (by simpa using fresh), ?_, ?_, ?_⟩
  · intro other used sequence carried
    rcases List.mem_append.mp used with before | added
    · exact (here.numbered other before sequence carried).trans counted
    · cases List.mem_singleton.mp added
      rw [number] at carried
      cases carried
      exact le_rfl
  · intro other awaited same used
    obtain ⟨different, unused⟩ := others other awaited same
    rcases List.mem_append.mp used with before | added
    · exact unused before
    · exact different (List.mem_singleton.mp added)
  · intro operation startedAt used
    rcases List.mem_append.mp used with before | added
    · exact List.mem_append_left _ (here.failed operation startedAt before)
    · cases List.mem_singleton.mp added
      cases number

/-- One effect is asked for under the next number. -/
theorem askedNext (here : Accounted keys state told) (key : OutreachKey) (next : OutreachState)
    (number : key.sequence = some (state.sequence + 1)) (counted : next.sequence = state.sequence + 1)
    (own : ahead next.phase key = false) : Accounted (keys ++ [key]) next (told ++ more) := by
  refine here.asked key next (here.unnumbered number) (by rw [number, counted]) (by omega) ?_
  intro other awaited same
  refine ⟨?_, here.unnumbered (by rw [same, counted])⟩
  rintro rfl
  rw [own] at awaited
  cases awaited

/-- A streak is told of. -/
theorem toldOf {startedAt : Timestamp} (here : Accounted keys state told) (fresh : (operation, startedAt) ∉ told)
    (counted : next.sequence = state.sequence) (fewer : ∀ key, ahead next.phase key → ahead state.phase key) :
    Accounted (keys ++ [.failed operation startedAt]) next (told ++ [(operation, startedAt)]) := by
  have unused : .failed operation startedAt ∉ keys := fun used => fresh (here.failed operation startedAt used)
  refine ⟨here.distinct.append (List.nodup_singleton _) (by simpa using unused), ?_, ?_, ?_⟩
  · intro key used sequence carried
    rcases List.mem_append.mp used with before | added
    · exact counted ▸ here.numbered key before sequence carried
    · cases List.mem_singleton.mp added
      cases carried
  · intro key awaited same used
    rcases List.mem_append.mp used with before | added
    · exact here.unasked key (fewer key awaited) (counted ▸ same) before
    · cases List.mem_singleton.mp added
      cases same
  · intro other instant used
    rcases List.mem_append.mp used with before | added
    · exact List.mem_append_left _ (here.failed other instant before)
    · cases List.mem_singleton.mp added
      exact List.mem_append_right _ (List.mem_singleton_self _)

end Accounted

/-! ## Runs -/

section

variable {decision : WorkflowDecision OutreachState} {keys : List OutreachKey} {requestId : String}
  {now : Timestamp} {effect : EffectInput}

theorem sendEffect_id (asked : state.sendEffect host now = .ok effect) :
    effect.id = (OutreachKey.send state.sequence).id host state.requestId := by
  unfold OutreachState.sendEffect at asked
  split at asked
  · cases asked
    rfl
  · cases asked

theorem taskEffect_id (asked : state.taskEffect host now = .ok effect) :
    effect.id = (OutreachKey.task (state.replyMessageId.getD "") state.sequence).id host state.requestId := by
  unfold OutreachState.taskEffect at asked
  split at asked
  · cases asked
    rfl
  · cases asked

theorem notifyEffect_id (asked : state.notifyEffect host now = .ok effect) :
    effect.id = (OutreachKey.result (state.replyMessageId.getD "") state.sequence).id host state.requestId := by
  unfold OutreachState.notifyEffect at asked
  split at asked
  · cases asked
    rfl
  · cases asked

/-- What a run has asked for, with the keys behind the ids. -/
def Kept (host : Host) (requestId : String) (progress : Progress OutreachState) : Prop :=
  progress.state.requestId = requestId ∧
    ∃ keys, progress.effects.map (·.id) = keys.map (OutreachKey.id host requestId) ∧
      Accounted keys progress.state (toldStreaks progress.applied)

theorem Kept.next (added : List OutreachKey)
    (ids : progress.effects.map (·.id) = keys.map (OutreachKey.id host progress.state.requestId))
    (same : decision.state.requestId = progress.state.requestId)
    (asked : decision.effects.map (·.id) = added.map (OutreachKey.id host progress.state.requestId))
    (accounted : Accounted (keys ++ added) decision.state
      (toldStreaks progress.applied ++ (tells progress.state event).toList)) :
    Kept host progress.state.requestId (progress.next event decision) := by
  refine ⟨same, keys ++ added, ?_, ?_⟩
  · rw [List.map_append, ← ids, ← asked]
    exact List.map_append
  · change Accounted _ _ (toldStreaks (progress.applied ++ [(progress.state, event)]))
    rw [toldStreaks_next]
    exact accounted

/-- A reduction that asks for nothing. -/
theorem Kept.quiet (kept : Kept host requestId progress) (same : decision.state.requestId = progress.state.requestId)
    (nothing : decision.effects = []) (counted : decision.state.sequence = progress.state.sequence)
    (fewer : ∀ key, ahead decision.state.phase key → ahead progress.state.phase key) :
    Kept host requestId (progress.next event decision) := by
  obtain ⟨rfl, keys, ids, accounted⟩ := kept
  refine Kept.next [] ids same (by rw [nothing]; rfl) ?_
  rw [List.append_nil]
  exact accounted.moved counted fewer

/-- A reduction that asks for one effect under the next number. -/
theorem Kept.askedNext (kept : Kept host requestId progress) (next : OutreachState) (key : OutreachKey)
    (same : next.requestId = progress.state.requestId) (id : effect.id = key.id host next.requestId)
    (number : key.sequence = some (progress.state.sequence + 1))
    (counted : next.sequence = progress.state.sequence + 1) (own : ahead next.phase key = false) :
    Kept host requestId (progress.next event (next.asking effect)) := by
  obtain ⟨rfl, keys, ids, accounted⟩ := kept
  refine Kept.next [key] ids same (by rw [OutreachState.asking, List.map_singleton, id, same]; rfl) ?_
  exact accounted.askedNext key next number counted own

/-- Outside the approval no card asks for it. -/
theorem interactionKey_unapproved (phase : state.phase ≠ .awaitingApproval) {openId : String} {sequence : Nat} :
    interactionKey state ≠ .approval openId sequence := by
  unfold interactionKey
  split
  · rename_i awaiting _ _
    exact absurd awaiting phase
  · split <;> simp

/-- A phase that shows cards has none of them ahead. -/
theorem ahead_interactionKey (shown : state.phase = .awaitingContact ∨ state.phase = .awaitingApproval) :
    ahead state.phase (interactionKey state) = false := by
  rcases shown with awaiting | awaiting
  · have unapproved : state.phase ≠ .awaitingApproval := by simp [awaiting]
    cases key : interactionKey state with
    | approval openId sequence => exact absurd key (interactionKey_unapproved unapproved)
    | _ => simp [ahead, awaiting]
  · simp [ahead, awaiting]

/-- While the contact is being resolved every card is ahead. -/
theorem ahead_resolving : ahead .resolving (interactionKey state) := by
  unfold interactionKey
  split
  · rfl
  · split <;> rfl

@[simp] theorem resolved_sequence {found : List FollowupContact} :
    (resolved state found).sequence = state.sequence := by
  unfold resolved
  split <;> rfl

@[simp] theorem resolved_requestId {found : List FollowupContact} :
    (resolved state found).requestId = state.requestId := by
  unfold resolved
  split <;> rfl

theorem Kept.resolved (kept : Kept host requestId progress) (phase : progress.state.phase = .resolving)
    (found : List FollowupContact) : Kept host requestId (progress.next event
      (OutreachState.asking (resolved progress.state found)
        ((resolved progress.state found).interactionEffect host event.occurredAt))) := by
  obtain ⟨rfl, keys, ids, accounted⟩ := kept
  have number : (interactionKey (resolved progress.state found)).sequence = some progress.state.sequence := by
    rw [interactionKey_sequence, resolved_sequence]
  have fresh : interactionKey (resolved progress.state found) ∉ keys := by
    refine accounted.unasked _ ?_ number
    rw [phase]
    exact ahead_resolving
  refine Kept.next [interactionKey (resolved progress.state found)] ids resolved_requestId ?_ ?_
  · rw [OutreachState.asking, List.map_singleton, interactionEffect_id, resolved_requestId]
    rfl
  · refine accounted.asked _ (resolved progress.state found) fresh (by rw [number, resolved_sequence])
      (by rw [resolved_sequence]) ?_
    intro other awaited same
    rw [resolved_sequence] at same
    have before : ahead progress.state.phase other := by
      rw [phase]
      revert awaited
      have either : (resolved progress.state found).phase = .awaitingContact ∨
          (resolved progress.state found).phase = .awaitingApproval := resolved_phase
      rcases either with next | next <;> rw [next] <;> cases other <;> simp [ahead]
    refine ⟨?_, accounted.unasked other before same⟩
    rintro rfl
    rw [ahead_interactionKey resolved_phase] at awaited
    cases awaited

theorem Kept.selected (kept : Kept host requestId progress) (phase : progress.state.phase = .awaitingContact)
    (selected : FollowupContact) : Kept host requestId (progress.next event
      (OutreachState.asking (progress.state.selecting selected)
        ((progress.state.selecting selected).interactionEffect host event.occurredAt))) := by
  obtain ⟨rfl, keys, ids, accounted⟩ := kept
  have fresh : OutreachKey.approval selected.openId progress.state.sequence ∉ keys :=
    accounted.unasked _ (by simp [ahead, phase]) rfl
  refine Kept.next [.approval selected.openId progress.state.sequence] ids rfl rfl ?_
  exact accounted.asked _ (progress.state.selecting selected) fresh rfl le_rfl (by simp [ahead, OutreachState.selecting])

@[simp] theorem nextFailure_operation : (state.nextFailure operation event).operation = operation := by
  unfold OutreachState.nextFailure
  cases found : state.failure.filter (·.operation = operation) with
  | none => rfl
  | some prior => simpa using (Option.filter_eq_some_iff.mp found).2

theorem retry_ids (notify : (state.nextFailure operation event).count = state.failureThreshold) :
    (OutreachState.retry host state operation event).effects.map (·.id) =
      [(OutreachKey.failed operation (state.nextFailure operation event).startedAt).id host state.requestId] := by
  simp [OutreachState.retry, notify, OutreachState.failureNotice, OutreachKey.id, OutreachKey.tag, OutreachKey.values]

theorem Kept.failed (kept : Kept host requestId progress) (orderly : StreaksOrderly progress event)
    (unnoticed : ¬ isNotice event) (report : Reports "effect.failed" operation.kind event)
    (waits : ∀ phase ∈ operation.phase, progress.state.phase = phase) : Kept host requestId (progress.next event
      (OutreachState.retry host { progress.state with phase := operation.retried progress.state.phase }
        operation event)) := by
  have fewer : ∀ key, ahead (operation.retried progress.state.phase) key → ahead progress.state.phase key := by
    intro key awaited
    unfold Operation.retried at awaited
    split at awaited
    · simp [ahead] at awaited
    · exact awaited
  have whole := kept
  obtain ⟨rfl, keys, ids, accounted⟩ := kept
  by_cases notify : (progress.state.nextFailure operation event).count = progress.state.failureThreshold
  · have own : OutreachState.aboutNotice event = false := by
      simpa [isNotice, isOutcome, report.1] using unnoticed
    have told : tells progress.state event =
        some (operation, (progress.state.nextFailure operation event).startedAt) := by
      rw [tells, if_pos ⟨report.1, own⟩, failedOperation_eq report.2 waits, Option.bind_some]
      exact if_pos notify
    refine Kept.next [.failed operation (progress.state.nextFailure operation event).startedAt] ids rfl
      (retry_ids notify) ?_
    · rw [told]
      exact accounted.toldOf (fun before => orderly _ told before) rfl fewer
  · refine whole.quiet rfl ?_ rfl fewer
    unfold OutreachState.retry
    exact if_neg notify

theorem Kept.step (kept : Kept host requestId progress) (orderly : StreaksOrderly progress event)
    (reduced : progress.state.reduce host event = .ok decision) :
    Kept host requestId (progress.next event decision) := by
  cases outreach_step reduced with
  | resolving timer phase =>
    exact kept.askedNext { counted progress.state with phase := .resolving }
      (.resolve (progress.state.sequence + 1)) rfl rfl rfl rfl rfl
  | reasked timer phase =>
    refine kept.askedNext (counted progress.state) (interactionKey (counted progress.state)) rfl
      interactionEffect_id interactionKey_sequence rfl ?_
    exact ahead_interactionKey phase
  | resent effect timer phase asked =>
    exact kept.askedNext (counted progress.state) (.send (counted progress.state).sequence) rfl
      (sendEffect_id asked) rfl rfl (by simp [counted, ahead, phase])
  | rerecorded effect timer phase asked =>
    exact kept.askedNext (counted progress.state)
      (.task ((counted progress.state).replyMessageId.getD "") (counted progress.state).sequence) rfl
      (taskEffect_id asked) rfl rfl (by simp [counted, ahead, phase])
  | renotified effect timer phase asked =>
    exact kept.askedNext (counted progress.state)
      (.result ((counted progress.state).replyMessageId.getD "") (counted progress.state).sequence) rfl
      (notifyEffect_id asked) rfl rfl (by simp [counted, ahead, phase])
  | resolved found report phase => exact kept.resolved phase found
  | selected selected type phase candidate => exact kept.selected phase selected
  | queried query type phase =>
    exact kept.askedNext (queried progress.state query) (.resolve (progress.state.sequence + 1))
      rfl rfl rfl rfl rfl
  | declined | sent => exact kept.quiet rfl rfl rfl (by simp [ahead])
  | approved effect answer asked =>
    exact kept.askedNext (approved progress.state event) (.send (approved progress.state event).sequence) rfl
      (sendEffect_id asked) rfl rfl rfl
  | replied messageId content url effect type phase asked =>
    let next := replied progress.state event messageId content url
    exact kept.askedNext next (.task (next.replyMessageId.getD "") next.sequence) rfl (taskEffect_id asked) rfl rfl rfl
  | recorded result effect report phase asked =>
    let next := recorded progress.state result
    exact kept.askedNext next (.result (next.replyMessageId.getD "") next.sequence) rfl
      (notifyEffect_id asked) rfl rfl rfl
  | noticed | shown | other => exact kept.quiet rfl rfl rfl fun _ => id
  | notified report phase => exact kept.quiet rfl rfl rfl (by simp [ahead, OutreachState.onNotified])
  | failed operation unnoticed report waits => exact kept.failed orderly unnoticed report waits

end

/-- The ids of all effects an outreach's run asks for are distinct. -/
theorem outreach_run_distinct (lawful : host.Lawful) {config : FollowupOutreachConfig}
    {definition : WorkflowDefinition OutreachState} (built : followupOutreachWorkflow host config = .ok definition)
    {events : List Event} (run : ((folding definition).restricted StreaksOrderly).Run events progress) :
    (progress.effects.map (·.id)).Nodup := by
  obtain ⟨settings, rfl, -⟩ := followupOutreachWorkflow_ok built
  have kept : ∃ requestId, Kept host requestId progress := by
    refine run.history (motive := fun _ progress => ∃ requestId, Kept host requestId progress) ?_ ?_
    · rintro progress ⟨input, now, decision, begun, rfl⟩
      obtain ⟨-, nothing, -, phase, -⟩ := initialiseOutreach_ok begun
      exact ⟨_, rfl, [], by simp [Progress.began, nothing], List.nodup_nil, by simp, by simp, by simp⟩
    · rintro events event before after - ⟨requestId, here⟩ ⟨⟨-, -, decision, reduced, rfl⟩, orderly⟩
      exact ⟨requestId, here.step orderly reduced⟩
  obtain ⟨requestId, -, keys, ids, accounted⟩ := kept
  rw [ids]
  exact accounted.distinct.map (OutreachKey.id_injective lawful _)

/-- The owner is asked twice for a better name: nobody is found under the first one. -/
def unknownName (asked : Timestamp) : List Given :=
  [.timer 1767556800000 1767556800000,
    .other (effectReport "followup-resolve:401f1105b3092fe54aaa5a00d8d1f240" resolveContact "delivered"
      [("candidates", .array [])] 1767556801000),
    .other (effectReport "followup-contact-input:401f1105b3092fe54aaa5a00d8d1f240" requestInteraction "failed"
      [] 1767556803000),
    .other { id := "followup:query:1", type := "followup.contact-query", occurredAt := asked
             payload := .object [("query", "王芳芳")] },
    .other (effectReport "followup-resolve:7690125071a8b5ee8eb8eb71e33a96f5" resolveContact "delivered"
      [("candidates", .array [])] asked),
    .other (effectReport "followup-contact-input:7690125071a8b5ee8eb8eb71e33a96f5" requestInteraction "failed"
      [] asked)]

/-- Both cards fail in one instant, between them the streak was cleared. -/
theorem together_not_distinct : ∃ definition events progress,
    followupOutreachWorkflow questionHost questionConfig = .ok definition ∧
      ((folding definition).restricted fun progress event => Answers progress event ∧ Due progress event).Run
        events progress ∧
      (events.map (·.occurredAt)).Pairwise (· ≤ ·) ∧ ¬ (progress.effects.map (·.id)).Nodup := by
  obtain ⟨progress, replayed, ids⟩ : ∃ progress, replay (outreachDefinition questionHost questionSettings)
        (fun progress event => Answers progress event ∧ Due progress event)
        (unknownName 1767556803000) (.began questionStart) = some progress ∧
      progress.effects.map (·.id) = ["followup-resolve:401f1105b3092fe54aaa5a00d8d1f240",
        "followup-contact-input:401f1105b3092fe54aaa5a00d8d1f240",
        "followup-failure-notice:aa29e4dec166b6c90cb48fab3554e090",
        "followup-resolve:7690125071a8b5ee8eb8eb71e33a96f5",
        "followup-contact-input:7690125071a8b5ee8eb8eb71e33a96f5",
        "followup-failure-notice:aa29e4dec166b6c90cb48fab3554e090"] :=
    ⟨_, rfl, rfl⟩
  refine ⟨_, _, progress, question_built, replay_run question_begun replayed, by decide, ?_⟩
  rw [ids]
  decide

/-- A minute later the second failure is told of under an id of its own. -/
theorem apart_distinct : ∃ progress : Progress OutreachState, (progress.effects.map (·.id)).Nodup ∧
    progress.effects.map (·.kind) = [resolveContact, requestInteraction, notifyOwner, resolveContact,
      requestInteraction, notifyOwner] := by
  obtain ⟨progress, replayed, kinds⟩ : ∃ progress,
      replay (outreachDefinition questionHost questionSettings) StreaksOrderly
        (unknownName 1767556863000) (.began questionStart) = some progress ∧
      progress.effects.map (·.kind) = [resolveContact, requestInteraction, notifyOwner, resolveContact,
        requestInteraction, notifyOwner] :=
    ⟨_, rfl, rfl⟩
  exact ⟨progress, outreach_run_distinct questionHost_lawful question_built (replay_run question_begun replayed), kinds⟩

end QuarkSelfAI.Followup

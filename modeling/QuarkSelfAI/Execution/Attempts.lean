import QuarkSelfAI.Foundation.WorkLoop
import QuarkSelfAI.Storage.EventFencing
import QuarkSelfAI.Storage.LedgerFencing
import QuarkSelfAI.Storage.WorkflowFencing

/-!
# Attempts of the three work loops

`DurableWorkflowRuntime.runOnce`, `DurableEventRuntime.runOnce` and
`DurableExecutorWorker.runOnce` as work loops over their stores: what they claim,
when a handler or an executor is started, and which calls they answer with. All
three compare the attempt with `maxAttempts` in the branch of a failure only, so a
process that stops in its last attempt leaves work that is started once more.
-/

namespace QuarkSelfAI.Execution

open Foundation Storage

/-! ## The workflow effect loop -/

section Effects

variable {State Payload Time : Type}

/-- The effect a claim returned. -/
def claimedEffectJob : StoreCall State Payload Time × StoreReply State Payload Time → Option (Job String String)
  | (.claimNextWorkflowEffect workerId _ _, .claimed (some effect)) => some ⟨effect.id, workerId, effect.attempt⟩
  | _ => none

theorem claimedEffectJob_eq {call : StoreCall State Payload Time} {reply : StoreReply State Payload Time}
    {job : Job String String} (handed : claimedEffectJob (call, reply) = some job) :
    ∃ now leaseExpiresAt effect, call = .claimNextWorkflowEffect job.owner now leaseExpiresAt ∧
      reply = .claimed (some effect) ∧ effect.id = job.item ∧ effect.attempt = job.attempt := by
  unfold claimedEffectJob at handed
  split at handed
  · rename_i now leaseExpiresAt effect same
    cases same
    cases handed
    exact ⟨now, leaseExpiresAt, effect, rfl, rfl, rfl, rfl⟩
  · cases handed

/-- Effects are settled or released by their passes alone. -/
def effectRequests : StoreCall State Payload Time → Bool
  | .createWorkflow _ _ | .advanceWorkflow _ _ | .claimNextWorkflowEffect _ _ _ => true
  | .settleWorkflowEffect _ _ _ | .releaseWorkflowEffect _ _ _ _ _ => false

/-- A pass settles what its handler has done; its `catch` block releases for good from the
last attempt on, and an effect without a handler is always released for another attempt. -/
def effectAnswers (maxAttempts : Nat) (started : Bool) (job : Job String String) : StoreCall State Payload Time → Bool
  | .settleWorkflowEffect effectId workerId _ => started ∧ effectId = job.item ∧ workerId = job.owner
  | .releaseWorkflowEffect effectId workerId _ _ terminal =>
    effectId = job.item ∧ workerId = job.owner ∧ terminal = decide (started = true ∧ maxAttempts ≤ job.attempt)
  | _ => false

open WorkflowStore in
def effectLoop (State Payload Time : Type) [DecidableEq State] [DecidableEq Payload]
    [LinearOrder Time] (collate : String → String → Bool) (maxAttempts : Nat) :
    WorkLoop (WorkflowStore State Payload Time) (StoreCall State Payload Time)
      (StoreReply State Payload Time) String String where
  toMachine := WorkflowStore.machine State Payload Time collate
  lease := leaseOf
  move := leaseMove
  holds := Leased
  initially := ⟨leased_empty, fun _ => rfl⟩
  preserved leased performed := leased.outcome (perform_outcome performed)
  stayed := by
    intro before call reply after item leased performed still
    have moved := (perform_outcome performed).lease leased item
    rwa [still] at moved
  stepped := by
    intro before call reply after item made leased performed moves
    have moved := (perform_outcome performed).lease leased item
    rwa [moves] at moved
  limit := maxAttempts
  requests := effectRequests
  handed := claimedEffectJob
  answers := effectAnswers maxAttempts
  handed_iff := by
    rintro ⟨call, reply⟩ item owner
    constructor
    · intro made
      cases moves_of_leaseMove made with
      | @claimed _ _ _ effect named => exact ⟨effect.attempt, by rw [claimedEffectJob, named]⟩
    · rintro ⟨attempt, handed⟩
      obtain ⟨now, leaseExpiresAt, effect, rfl, rfl, rfl, rfl⟩ := claimedEffectJob_eq handed
      simp [leaseMove]
  numbered := by
    intro before call reply after job _ performed handed
    obtain ⟨now, leaseExpiresAt, effect, rfl, rfl, named, numbered⟩ := claimedEffectJob_eq handed
    have answered : perform collate (.claimNextWorkflowEffect job.owner now leaseExpiresAt) before =
        (.claimed (some effect), after) := performed
    rw [← named, ← numbered]
    exact (perform_outcome answered).attempt
  requested := by
    intro call reply item made requests moves
    cases moves_of_leaseMove moves with
    | claimed => exact .inl ⟨_, rfl⟩
    | settled | failed | deferred => cases requests
  answered := by
    intro started job call reply item made answers moves
    cases moves_of_leaseMove moves with
    | claimed => cases answers
    | settled =>
      obtain ⟨_, rfl, rfl⟩ := of_decide_eq_true answers
      exact ⟨rfl, .inl rfl⟩
    | failed =>
      obtain ⟨rfl, rfl, _⟩ := of_decide_eq_true answers
      exact ⟨rfl, .inl rfl⟩
    | deferred =>
      obtain ⟨rfl, rfl, ending⟩ := of_decide_eq_true answers
      refine ⟨rfl, .inr ⟨rfl, fun begun => ?_⟩⟩
      simpa [begun] using ending

end Effects

/-! ## The event consumer loop -/

section Events

variable {Payload Time : Type}

/-- The delivery a claim returned. -/
def claimedEventJob : EventCall Payload Time × EventReply Payload → Option (Job (String × String) String)
  | (.claimNextEvent consumerName _ workerId _ _, .claimed (some event)) =>
    some ⟨(consumerName, event.id), workerId, event.attempt⟩
  | _ => none

theorem claimedEventJob_eq {call : EventCall Payload Time} {reply : EventReply Payload}
    {job : Job (String × String) String} (handed : claimedEventJob (call, reply) = some job) :
    ∃ eventKeys now leaseExpiresAt event, call = .claimNextEvent job.item.1 eventKeys job.owner now leaseExpiresAt ∧
        reply = .claimed (some event) ∧ event.id = job.item.2 ∧ event.attempt = job.attempt := by
  unfold claimedEventJob at handed
  split at handed
  · rename_i eventKeys _ now leaseExpiresAt event same
    cases same
    cases handed
    exact ⟨eventKeys, now, leaseExpiresAt, event, rfl, rfl, rfl, rfl⟩
  · cases handed

def eventRequests : EventCall Payload Time → Bool
  | .appendEvent _ _ _ | .claimNextEvent _ _ _ _ _ => true
  | .settleEvent _ _ _ _ | .releaseEvent _ => false

/-- The consumer is called right after the claim, and the delivery is answered for when it
returned or threw. -/
def eventAnswers (maxAttempts : Nat) (started : Bool) (job : Job (String × String) String) :
    EventCall Payload Time → Bool
  | .settleEvent consumerName eventId workerId _ => started ∧ (consumerName, eventId) = job.item ∧ workerId = job.owner
  | .releaseEvent input =>
    started ∧ (input.consumerName, input.eventId) = job.item ∧ input.workerId = job.owner ∧
      input.terminal = decide (maxAttempts ≤ job.attempt)
  | _ => false

open EventStore in
def eventLoop (Payload Time : Type) [LinearOrder Time] (maxAttempts : Nat) :
    WorkLoop (EventStore Payload Time) (EventCall Payload Time) (EventReply Payload)
      (String × String) String where
  toMachine := EventStore.machine Payload Time
  lease store item := store.leaseOf item.1 item.2
  move item := leaseMove item.1 item.2
  holds := Leased
  initially := ⟨fun delivery stored => (Table.not_mem_empty delivery stored).elim, fun _ => rfl⟩
  preserved leased performed := leased.effect (perform_effect performed)
  stayed := by
    intro before call reply after item leased performed still
    have moved := (perform_effect performed).lease leased item.1 item.2
    rwa [still] at moved
  stepped := by
    intro before call reply after item made leased performed moves
    have moved := (perform_effect performed).lease leased item.1 item.2
    rwa [moves] at moved
  limit := maxAttempts
  requests := eventRequests
  handed := claimedEventJob
  answers := eventAnswers maxAttempts
  handed_iff := by
    rintro ⟨call, reply⟩ ⟨consumerName, eventId⟩ owner
    constructor
    · intro made
      cases moves_of_leaseMove made with
      | @claimed _ _ _ _ event named => exact ⟨event.attempt, by rw [claimedEventJob, named]⟩
    · rintro ⟨attempt, handed⟩
      obtain ⟨eventKeys, now, leaseExpiresAt, event, rfl, rfl, rfl, rfl⟩ := claimedEventJob_eq handed
      simp [leaseMove]
  numbered := by
    intro before call reply after job leased performed handed
    obtain ⟨eventKeys, now, leaseExpiresAt, event, rfl, rfl, named, numbered⟩ := claimedEventJob_eq handed
    have answered : perform (.claimNextEvent job.item.1 eventKeys job.owner now leaseExpiresAt)
        before = (.claimed (some event), after) := performed
    have effect := perform_effect answered
    have moved := effect.lease leased job.item.1 job.item.2
    have attempt := effect.attempt
    simp only [leaseMove, named, if_true] at moved
    rw [named, numbered] at attempt
    rw [attempt]
    generalize after.leaseOf job.item.1 job.item.2 = left at moved
    cases moved
    rfl
  requested := by
    intro call reply item made requests moves
    cases moves_of_leaseMove moves with
    | claimed => exact .inl ⟨_, rfl⟩
    | settled | failed | deferred => cases requests
  answered := by
    intro started job call reply item made answers moves
    cases moves_of_leaseMove moves with
    | claimed => cases answers
    | settled =>
      obtain ⟨_, named, rfl⟩ := of_decide_eq_true answers
      exact ⟨named, .inl rfl⟩
    | failed named =>
      obtain ⟨_, same, held, _⟩ := of_decide_eq_true answers
      exact ⟨named.symm.trans same, .inl (by rw [held])⟩
    | deferred named retried =>
      obtain ⟨_, same, held, ending⟩ := of_decide_eq_true answers
      refine ⟨named.symm.trans same, .inr ⟨by rw [held], fun _ => ?_⟩⟩
      simpa [retried] using ending

end Events

/-! ## The action worker -/

section Actions

variable {Time : Type}

/-- The action a claim returned. -/
def claimedActionJob : LedgerCall Time × LedgerReply → Option (Job String String)
  | (.claimNextAction workerId _ _ _, .claimed (some action)) => some ⟨action.actionId, workerId, action.attempt⟩
  | _ => none

theorem claimedActionJob_eq {call : LedgerCall Time} {reply : LedgerReply}
    {job : Job String String} (handed : claimedActionJob (call, reply) = some job) :
    ∃ workspace now leaseExpiresAt action, call = .claimNextAction job.owner workspace now leaseExpiresAt ∧
        reply = .claimed (some action) ∧ action.actionId = job.item ∧
        action.attempt = job.attempt := by
  unfold claimedActionJob at handed
  split at handed
  · rename_i workspace now leaseExpiresAt action same
    cases same
    cases handed
    exact ⟨workspace, now, leaseExpiresAt, action, rfl, rfl, rfl, rfl⟩
  · cases handed

def actionRequests : LedgerCall Time → Bool
  | .enqueueAction _ _ | .decideApproval _ _ _ _ | .claimNextAction _ _ _ _ => true
  | .settleAction _ _ _ | .releaseActionClaim _ _ => false

/-- An action is settled when the router returned; a failure of the infrastructure, before
or behind the router's start, is retried below the last attempt. -/
def actionAnswers (maxAttempts : Nat) (started : Bool) (job : Job String String) : LedgerCall Time → Bool
  | .settleAction actionId workerId _ => started ∧ actionId = job.item ∧ workerId = job.owner
  | .releaseActionClaim input _ =>
    input.actionId = job.item ∧ input.workerId = job.owner ∧ (input.disposition = .retry → job.attempt < maxAttempts)
  | _ => false

open Ledger in
def actionLoop (Time : Type) [LinearOrder Time] (maxAttempts : Nat) :
    WorkLoop (Ledger Time) (LedgerCall Time) LedgerReply String String where
  toMachine := Ledger.machine Time
  lease := leaseOf
  move := leaseMove
  holds := Consistent
  initially := ⟨consistent_empty, fun _ => rfl⟩
  preserved consistent performed := consistent.effect (perform_effect performed)
  stayed := by
    intro before call reply after item consistent performed still
    have moved := (perform_effect performed).lease consistent item
    rwa [still] at moved
  stepped := by
    intro before call reply after item made consistent performed moves
    have moved := (perform_effect performed).lease consistent item
    rwa [moves] at moved
  limit := maxAttempts
  requests := actionRequests
  handed := claimedActionJob
  answers := actionAnswers maxAttempts
  handed_iff := by
    rintro ⟨call, reply⟩ item owner
    constructor
    · intro made
      cases moves_of_leaseMove made with
      | @claimed _ _ _ _ action named => exact ⟨action.attempt, by rw [claimedActionJob, named]⟩
    · rintro ⟨attempt, handed⟩
      obtain ⟨workspace, now, leaseExpiresAt, action, rfl, rfl, rfl, rfl⟩ := claimedActionJob_eq handed
      simp [leaseMove]
  numbered := by
    intro before call reply after job _ performed handed
    obtain ⟨workspace, now, leaseExpiresAt, action, rfl, rfl, named, numbered⟩ := claimedActionJob_eq handed
    have answered : perform (.claimNextAction job.owner workspace now leaseExpiresAt) before =
        (.claimed (some action), after) := performed
    rw [← named, ← numbered]
    exact (perform_effect answered).attempt
  requested := by
    intro call reply item made requests moves
    cases moves_of_leaseMove moves with
    | claimed => exact .inl ⟨_, rfl⟩
    | settled | failed | retried => cases requests
    | rejected => exact .inr rfl
  answered := by
    intro started job call reply item made answers moves
    cases moves_of_leaseMove moves with
    | claimed | rejected => cases answers
    | settled =>
      obtain ⟨_, rfl, rfl⟩ := of_decide_eq_true answers
      exact ⟨rfl, .inl rfl⟩
    | failed named =>
      obtain ⟨same, held, _⟩ := of_decide_eq_true answers
      exact ⟨named.symm.trans same, .inl (by rw [held])⟩
    | retried named retry =>
      obtain ⟨same, held, below⟩ := of_decide_eq_true answers
      exact ⟨named.symm.trans same, .inr ⟨by rw [held], fun _ => below retry⟩⟩

end Actions

/-! ## The bound -/

/-- In runs in which no expired lease is taken over on its last attempt, and no worker
hands back a later attempt than its own, nothing is started more than `maxAttempts`
times. -/
theorem attempts_bounded {State Payload Time : Type} [DecidableEq State] [DecidableEq Payload] [LinearOrder Time]
    {collate : String → String → Bool} {maxAttempts : Nat} (positive : 1 ≤ maxAttempts)
    {effectLabels : List (LoopLabel (StoreCall State Payload Time) String String)}
    {effects : LoopState (WorkflowStore State Payload Time) String String}
    (effectRun : (effectLoop State Payload Time collate maxAttempts).HeedfulRun effectLabels effects)
    {eventLabels : List (LoopLabel (EventCall Payload Time) (String × String) String)}
    {events : LoopState (EventStore Payload Time) (String × String) String}
    (eventRun : (eventLoop Payload Time maxAttempts).HeedfulRun eventLabels events)
    {actionLabels : List (LoopLabel (LedgerCall Time) String String)} {actions : LoopState (Ledger Time) String String}
    (actionRun : (actionLoop Time maxAttempts).HeedfulRun actionLabels actions) :
    (∀ effectId, effects.starts effectId ≤ maxAttempts) ∧
      (∀ consumerName eventId, events.starts (consumerName, eventId) ≤ maxAttempts) ∧
      ∀ actionId, actions.starts actionId ≤ maxAttempts := by
  refine ⟨fun effectId => ?_, fun consumerName eventId => ?_, fun actionId => ?_⟩
  · exact WorkLoop.run_starts_le positive effectRun effectId
  · exact WorkLoop.run_starts_le positive eventRun (consumerName, eventId)
  · exact WorkLoop.run_starts_le positive actionRun actionId

/-! ## One attempt at each -/

/-- An effect, an event and an action become due on the first day, are claimed on the
second with a lease to the third, and are started. -/
def effectStarted : List (LoopLabel (StoreCall String String Nat) String String) :=
  [.request (.createWorkflow
      ⟨"flow:1", "outreach", 1, .running, "{}", none, [⟨"effect:1", "message.send", "{}", none⟩]⟩ 1),
    .request (.claimNextWorkflowEffect "worker:1" 2 3), .start ⟨"effect:1", "worker:1", 1⟩]

def eventStarted : List (LoopLabel (EventCall String Nat) (String × String) String) :=
  [.request (.appendEvent "event:1"
      { kind := "message.received", source := ⟨"dws", none, none, none, none⟩, occurredAt := none
        eventKey := "im.message", deduplicationKey := "message:1", payload := "hello", raw := "" } 1),
    .request (.claimNextEvent "intake" ["im.message"] "worker:1" 2 3),
    .start ⟨("intake", "event:1"), "worker:1", 1⟩]

def actionStarted : List (LoopLabel (LedgerCall Nat) String String) :=
  [.request (.enqueueAction Ledger.draftReply 1), .request (.decideApproval "approval:1" .approved "{}" 1),
    .request (.claimNextAction "worker:1" "/work" 2 3), .start ⟨"action:1", "worker:1", 1⟩]

/-- Each is answered for, and its one attempt was all there was. -/
theorem answered_bounded : ∃ effects events actions, (effectLoop String String Nat (· ≤ ·) 1).HeedfulRun
        (effectStarted ++ [.answer ⟨"effect:1", "worker:1", 1⟩
          (.releaseWorkflowEffect "effect:1" "worker:1" "timed out" 4 true)]) effects ∧
      (eventLoop String Nat 1).HeedfulRun
        (eventStarted ++ [.answer ⟨("intake", "event:1"), "worker:1", 1⟩
          (.settleEvent "intake" "event:1" "worker:1" 2)]) events ∧
      (actionLoop Nat 1).HeedfulRun
        (actionStarted ++ [.answer ⟨"action:1", "worker:1", 1⟩
          (.settleAction "action:1" "worker:1" ⟨"action:1", "codex", .completed, "sent", none⟩)])
        actions ∧
      (∀ effectId, effects.starts effectId ≤ 1) ∧
      (∀ consumerName eventId, events.starts (consumerName, eventId) ≤ 1) ∧
      ∀ actionId, actions.starts actionId ≤ 1 := by
  obtain ⟨effects, effectRun⟩ : ∃ effects, (effectLoop String String Nat (· ≤ ·) 1).HeedfulRun
      (effectStarted ++ [.answer ⟨"effect:1", "worker:1", 1⟩
        (.releaseWorkflowEffect "effect:1" "worker:1" "timed out" 4 true)]) effects :=
    ⟨_, GuardedMachine.replay_restricted _ rfl⟩
  obtain ⟨events, eventRun⟩ : ∃ events, (eventLoop String Nat 1).HeedfulRun
      (eventStarted ++ [.answer ⟨("intake", "event:1"), "worker:1", 1⟩
        (.settleEvent "intake" "event:1" "worker:1" 2)]) events :=
    ⟨_, GuardedMachine.replay_restricted _ rfl⟩
  obtain ⟨actions, actionRun⟩ : ∃ actions, (actionLoop Nat 1).HeedfulRun
      (actionStarted ++ [.answer ⟨"action:1", "worker:1", 1⟩
        (.settleAction "action:1" "worker:1" ⟨"action:1", "codex", .completed, "sent", none⟩)])
      actions :=
    ⟨_, GuardedMachine.replay_restricted _ rfl⟩
  exact ⟨effects, events, actions, effectRun, eventRun, actionRun,
    attempts_bounded (by decide) effectRun eventRun actionRun⟩

/-! ## A process that stops in its only attempt -/

/-- The process dies and another one takes the work over, although one attempt is all there
should be. -/
theorem lostProcess_starts_again :
    (∃ labels state, (effectLoop String String Nat (· ≤ ·) 1).machine.system.Run labels state ∧
      state.starts "effect:1" = 2) ∧ (∃ labels state, (eventLoop String Nat 1).machine.system.Run labels state ∧
      state.starts ("intake", "event:1") = 2) ∧ ∃ labels state, (actionLoop Nat 1).machine.system.Run labels state ∧
      state.starts "action:1" = 2 := by
  refine ⟨?_, ?_, ?_⟩
  · exact ⟨effectStarted ++ [.request (.claimNextWorkflowEffect "worker:2" 4 5),
      .start ⟨"effect:1", "worker:2", 2⟩], _, GuardedMachine.replay_run _ rfl, by decide⟩
  · exact ⟨eventStarted ++ [.request (.claimNextEvent "intake" ["im.message"] "worker:2" 4 5),
      .start ⟨("intake", "event:1"), "worker:2", 2⟩], _, GuardedMachine.replay_run _ rfl, by decide⟩
  · exact ⟨actionStarted ++ [.request (.claimNextAction "worker:2" "/work" 4 5),
      .start ⟨"action:1", "worker:2", 2⟩], _, GuardedMachine.replay_run _ rfl, by decide⟩

end QuarkSelfAI.Execution

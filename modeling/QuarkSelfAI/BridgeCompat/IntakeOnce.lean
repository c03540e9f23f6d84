import QuarkSelfAI.BridgeCompat.FocusIntake
import QuarkSelfAI.BridgeCompat.PendingProcessed

/-!
# Each focus message is taken once

A producer enters a message in the same part in which it finds the message unknown, and the end of a batch marks and
removes its messages in one part. So what is pending is pending once, and is not processed, unless a test message is
marked as processed while another text of it is pending.
-/

namespace QuarkSelfAI.BridgeCompat

open Foundation

variable {options : IntakeOptions} {loaded : LoadedIntake} {world before after : FocusIntake} {message : FocusMessage}
  {settleDelayMs : Nat} {now : Timestamp} {batch : List PendingItem} {ids : List String} {id : String}

/-- The items of the batch that is about to be presented or is being worked on. -/
def QueuePhase.taken : QueuePhase → List PendingItem
  | .gathering _ batch _ | .creating _ batch => batch
  | .idle | .discarding | .looking _ | .concluding _ _ | .failing _ | .others => []

namespace FocusIntake

/-- What is pending is pending once and not processed, and a batch is still pending until it is finished. -/
structure TakenOnce (world : FocusIntake) : Prop where
  distinct : (messageIds world.pending).Nodup
  apart : ∀ id ∈ messageIds world.pending, id ∉ world.processed
  taken : ∀ id ∈ messageIds world.queues.taken, id ∈ messageIds world.pending

/-- The test messages that a call marks as processed. -/
def testIds (options : IntakeOptions) : IntakeCall → List String
  | .ingestRealtime event _ =>
    if options.concerns event = true ∧ options.isSyntheticTestMessage event.content = true then [event.messageId] else []
  | .poll found _ => (options.collect found).lowSignal
  | _ => []

/-- No test message is marked of which another text is pending. -/
def Unmixed (options : IntakeOptions) (world : FocusIntake) (label : IntakeCall × IntakeReply) : Prop :=
  ∀ id ∈ testIds options label.1, id ∉ messageIds world.pending

instance (label : IntakeCall × IntakeReply) : Decidable (Unmixed options world label) :=
  inferInstanceAs (Decidable (∀ id ∈ _, _))

/-! ## What the parts of the calls do to the two lists -/

theorem messageIds_enter : messageIds (world.enter message settleDelayMs now).pending =
    messageIds world.pending ++ [message.messageId] := by
  simp [messageIds, enter]

theorem mem_mark : id ∈ (world.mark ids).processed ↔ id ∈ world.processed ∨ id ∈ ids := by
  by_cases known : id ∈ world.processed <;> simp [mark, known]

@[simp] theorem pending_mark : (world.mark ids).pending = world.pending := rfl

@[simp] theorem queues_mark : (world.mark ids).queues = world.queues := rfl

theorem messageIds_retry (index : Nat) (error : String) :
    messageIds (world.retry index batch error now).pending = messageIds world.pending := by
  simp only [messageIds, retry, List.map_map]
  refine List.map_congr_left fun item _ => ?_
  rw [Function.comp_apply]
  split <;> rfl

theorem mem_of_mem_newest {limit : Nat} {list : List String} (listed : id ∈ newest limit list) : id ∈ list :=
  List.mem_of_mem_drop listed

/-! ## The invariant -/

namespace TakenOnce

theorem initial (loaded : LoadedIntake) : TakenOnce loaded.start := by
  have same : messageIds loaded.start.pending = messageIds loaded.pending := by
    refine List.ext_getElem ?_ fun index _ _ => ?_
    all_goals simp [messageIds, LoadedIntake.start]
  refine ⟨?_, ?_, nofun⟩
  · rw [same]
    exact loaded.distinct
  · rw [same]
    exact loaded.apart

theorem takeIn (once : TakenOnce world) : TakenOnce (world.takeIn message settleDelayMs now) := by
  unfold FocusIntake.takeIn
  split
  · exact once
  · rename_i unknown
    simp only [knows, decide_eq_true_eq, not_or] at unknown
    obtain ⟨fresh, new⟩ := unknown
    refine ⟨?_, ?_, ?_⟩
    · rw [messageIds_enter]
      exact List.nodup_append.mpr ⟨once.distinct, List.nodup_singleton _, by
        rintro id listed _ same rfl
        rw [List.mem_singleton] at same
        exact new (same ▸ listed)⟩
    · intro id listed
      rw [messageIds_enter, List.mem_append, List.mem_singleton] at listed
      rcases listed with before | rfl
      · exact once.apart id before
      · exact fresh
    · intro id listed
      rw [messageIds_enter]
      exact List.mem_append_left _ (once.taken id listed)

theorem mark (once : TakenOnce world) (unmixed : ∀ id ∈ ids, id ∉ messageIds world.pending) :
    TakenOnce (world.mark ids) where
  distinct := once.distinct
  apart id listed processed := by
    rcases mem_mark.mp processed with known | marked
    · exact once.apart id listed known
    · exact unmixed id marked listed
  taken := once.taken

/-- What keeps both lists and takes up no other batch keeps the invariant. -/
theorem same (once : TakenOnce before) (pending : messageIds after.pending = messageIds before.pending)
    (processed : after.processed = before.processed)
    (taken : ∀ id ∈ messageIds after.queues.taken, id ∈ messageIds before.pending) : TakenOnce after where
  distinct := pending ▸ once.distinct
  apart := by
    rw [pending, processed]
    exact once.apart
  taken := pending ▸ taken

theorem ingestDelegationSignal (once : TakenOnce world) (signal : DelegationSignal) :
    TakenOnce (world.ingestDelegationSignal options signal now) := by
  unfold FocusIntake.ingestDelegationSignal
  split
  · exact once
  · exact takeIn (once.same rfl rfl once.taken)

theorem enqueueSignal (once : TakenOnce world) : TakenOnce (world.enqueueSignal message settleDelayMs now) := by
  unfold FocusIntake.enqueueSignal
  split
  · exact once
  · exact once.takeIn

theorem ingestRealtime (once : TakenOnce world) {event : RealtimeEvent}
    (unmixed : ∀ id ∈ testIds options (.ingestRealtime event now), id ∉ messageIds world.pending) :
    TakenOnce (world.ingestRealtime options event now) := by
  unfold FocusIntake.ingestRealtime
  split
  · exact once
  · rename_i concerns
    split
    · rename_i test
      rw [testIds, if_pos ⟨by simpa using concerns, test⟩] at unmixed
      exact once.mark unmixed
    · exact once.takeIn

theorem poll (once : TakenOnce world) {found : PollFindings}
    (unmixed : ∀ id ∈ testIds options (.poll found now), id ∉ messageIds world.pending) :
    TakenOnce (world.poll options found now) := by
  unfold FocusIntake.poll
  dsimp only
  have marked : TakenOnce (world.mark (options.collect found).lowSignal) := once.mark unmixed
  generalize world.mark (options.collect found).lowSignal = world at marked
  generalize (options.collect found).found = findings
  induction findings generalizing world with
  | nil => exact marked
  | cons finding findings ih =>
    refine ih _ ?_
    unfold admitFinding
    split
    · exact marked
    · exact marked.takeIn

theorem save (once : TakenOnce world) : TakenOnce world.save := by
  have pending : world.save.pending = world.pending := by rw [FocusIntake.save]
  have queues : world.save.queues = world.queues := by rw [FocusIntake.save]
  refine ⟨?_, ?_, ?_⟩
  · rw [pending]
    exact once.distinct
  · intro id listed processed
    rw [pending] at listed
    simp only [FocusIntake.save] at processed
    exact once.apart id listed (mem_of_mem_newest processed)
  · rw [pending, queues]
    exact once.taken

/-- The items that are taken out of the pending ones may be marked. -/
theorem remove (once : TakenOnce world) (keeps : PendingItem → Bool) (queues : QueuePhase)
    (removed : ∀ item ∈ world.pending, item.message.messageId ∈ ids → keeps item = false) (taken : queues.taken = []) :
    TakenOnce { world.mark ids with pending := world.pending.filter keeps, queues } where
  distinct := once.distinct.sublist (List.filter_sublist.map _)
  apart id listed processed := by
    obtain ⟨item, here, rfl⟩ := List.mem_map.mp listed
    obtain ⟨there, kept⟩ := List.mem_filter.mp here
    rcases mem_mark.mp processed with known | marked
    · exact once.apart _ (List.mem_map_of_mem there) known
    · rw [removed item there marked] at kept
      cases kept
  taken := by
    rw [taken]
    exact nofun

theorem processLocalQueues (once : TakenOnce world) : TakenOnce (world.processLocalQueues options) := by
  unfold FocusIntake.processLocalQueues
  split
  · exact once
  · split
    · refine once.remove _ _ (fun item listed marked => ?_) rfl
      obtain ⟨other, test, same⟩ := List.mem_map.mp (List.mem_filter.mp marked).1
      obtain ⟨there, isTest⟩ := List.mem_filter.mp test
      rw [← List.inj_on_of_nodup_map once.distinct there listed same, isTest]
      rfl
    · exact once.same rfl rfl nofun

theorem finishBatch (once : TakenOnce world) (index : Nat) :
    TakenOnce { world.finishBatch batch with queues := .concluding index batch } := by
  refine once.remove _ _ (fun item _ marked => ?_) rfl
  simpa [PendingPass.outside] using marked

theorem look (once : TakenOnce world) (index : Nat) : TakenOnce (world.look options now index) := by
  unfold FocusIntake.look
  split
  · exact once.same rfl rfl nofun
  · rename_i seed found
    split
    · exact once.same rfl rfl nofun
    · rename_i due
      dsimp only
      split
      · exact once.same rfl rfl nofun
      · refine once.same rfl rfl fun id listed => ?_
        rw [QueuePhase.taken, PendingOptions.batch_eq found (by simpa using due)] at listed
        exact (List.filter_sublist.map _).subset listed

theorem answered (once : TakenOnce world) (outcome : Except String Unit) : TakenOnce (world.answered outcome now).2 := by
  unfold FocusIntake.answered
  split
  · rename_i index batch message phase
    refine once.same rfl rfl fun id listed => once.taken id ?_
    rw [phase]
    exact listed
  · exact once.finishBatch _
  · exact once.same rfl rfl nofun
  · exact once.same (messageIds_retry _ _) rfl nofun
  · exact once.same (messageIds_retry _ _) rfl nofun
  · exact once.same (messageIds_retry _ _) rfl nofun
  · exact once

theorem saved (once : TakenOnce world) (ok : Bool) : TakenOnce (world.saved ok) := by
  unfold FocusIntake.saved
  split
  · refine once.same rfl rfl ?_
    cases ok <;> exact nofun
  · refine once.same rfl rfl ?_
    cases ok <;> exact nofun
  · exact once

/-- A call that mixes no test message with a pending one keeps the invariant. -/
theorem perform (once : TakenOnce world) {call : IntakeCall} {reply : IntakeReply} (unmixed : Unmixed options world (call, reply)) :
    TakenOnce (world.perform options call).2 := by
  cases call with
  | ingestDelegationSignal signal now => exact once.ingestDelegationSignal signal
  | ingestRealtime event now => exact once.ingestRealtime unmixed
  | enqueueSignal message settleDelayMs now => exact once.enqueueSignal
  | poll found now => exact once.poll unmixed
  | save => exact once.save
  | processLocalQueues => exact once.processLocalQueues
  | saved ok => exact once.saved ok
  | look now =>
    simp only [FocusIntake.perform]
    split
    · exact once.look _
    · exact once
  | answered outcome now => exact once.answered outcome
  | ended =>
    simp only [FocusIntake.perform]
    split
    · exact once.same rfl rfl nofun
    · exact once

end TakenOnce

/-! ## Runs -/

variable {labels : List (IntakeCall × IntakeReply)}

theorem takenOnce_of_run (run : ((machine options loaded).system.restricted (Unmixed options)).Run labels world) :
    TakenOnce world := by
  refine run.invariant ?_ ?_
  · rintro _ rfl
    exact .initial loaded
  · rintro before ⟨call, reply⟩ after once ⟨performed, unmixed⟩
    have same : (before.perform options call).2 = after := congrArg Prod.snd performed
    rw [← same]
    exact once.perform unmixed

/-- What is presented is the batch that was taken up. -/
theorem presented_taken {call : IntakeCall} (presented : id ∈ (world.perform options call).1.presented) :
    id ∈ messageIds world.queues.taken := by
  cases call with
  | answered outcome now =>
    simp only [FocusIntake.perform, FocusIntake.answered] at presented
    split at presented
    · rename_i index batch message phase
      rw [phase]
      exact presented
    all_goals cases presented
  | look now =>
    simp only [FocusIntake.perform] at presented
    split at presented <;> cases presented
  | _ => cases presented

/-- As long as no test message is marked of which another text is pending, every pending message is pending once and is
not processed, and a message whose batch was finished is not presented again while it is one of the last 2000 that are
processed. -/
theorem focus_taken_once (run : ((machine options loaded).system.restricted (Unmixed options)).Run labels world) :
    (messageIds world.pending).Nodup ∧ (∀ id ∈ messageIds world.pending, id ∉ world.processed) ∧
      ∀ label ∈ labels, ∀ id ∈ label.2.finished, id ∈ newest 2000 world.processed →
        ∀ call, id ∉ (world.perform options call).1.presented := by
  have once := takenOnce_of_run run
  refine ⟨once.distinct, once.apart, fun label _ id _ recent call presented => ?_⟩
  exact once.apart id (once.taken id (presented_taken presented)) (mem_of_mem_newest recent)

/-! ## One message -/

/-- Readings of the texts below; they are in normal form, and in lower case. -/
def intakeReadings : IntakeOptions where
  toPendingOptions := PendingPass.readings
  normalizeNFKC := fun text => text
  toLowerCase := fun text => text
  allowedOpenId := "ou_me"
  xiaoweiOpenId := some "ou_xiaowei"
  specialAttentionUsers := []
  inviterName := none
  mentionRealtimeSettleDelayMs := 60000
  mentionSettleDelayMs := 300000
  groupMembershipSettleDelayMs := 600000

def realtimeMention : RealtimeEvent :=
  ⟨"om_1", some "oc_1", "group", some "2026-08-26 11:30", none, "帮忙看一下", ["ou_me"], some "ou_li", "user", some "Li"⟩

/-- A search finds the message with a text. -/
def foundMention (content : String) : PollFindings :=
  ⟨[⟨PendingPass.focusMessage "om_1" (some "oc_1") content [], "group", some "ou_li", false⟩], [], [], [], []⟩

/-- The message arrives, a poll finds it again, and it is due a minute later. -/
def takenCalls : List IntakeCall :=
  [.ingestRealtime realtimeMention 1787715000000, .save, .poll (foundMention "帮忙看一下") 1787715030000, .save,
    .processLocalQueues, .look 1787715060000, .answered (.ok ()) 1787715061000, .answered (.ok ()) 1787715090000,
    .save, .poll (foundMention "帮忙看一下") 1787715090000]

def takenRun : List (IntakeCall × IntakeReply) × FocusIntake :=
  (machine intakeReadings .empty).replay takenCalls (machine intakeReadings .empty).initial

theorem taken_presented_once : (takenRun.1.flatMap fun label => label.2.presented) = ["om_1"] ∧
    takenRun.2.processed = ["om_1"] ∧ (messageIds takenRun.2.pending).Nodup ∧
    ∀ call, "om_1" ∉ (takenRun.2.perform intakeReadings call).1.presented := by
  have run : ((machine intakeReadings .empty).system.restricted (Unmixed intakeReadings)).Run takenRun.1 takenRun.2 :=
    (machine intakeReadings .empty).replay_restricted (by decide)
  obtain ⟨distinct, -, again⟩ := focus_taken_once run
  exact ⟨by decide, by decide, distinct,
    again (.answered (.ok ()) 1787715090000, ⟨[], ["om_1"]⟩) (List.mem_of_getElem? (i := 7) rfl) "om_1" (by decide) (by decide)⟩

/-- A message is pending when it is edited to a test message, which a poll marks as processed: it is both, and no batch
is being worked on. -/
theorem edited_pending_and_processed : ∃ labels world, (machine intakeReadings .empty).system.Run labels world ∧
    world.queues = .idle ∧ "om_1" ∈ messageIds world.pending ∧ "om_1" ∈ world.processed := by
  refine ⟨_, _, (machine intakeReadings .empty).replay_run
    [.ingestRealtime realtimeMention 1787715000000, .save, .processLocalQueues, .look 1787715000000, .look 1787715000000,
      .ended, .poll (foundMention "测试") 1787715030000], ?_⟩
  decide

end FocusIntake

end QuarkSelfAI.BridgeCompat

import QuarkSelfAI.BridgeCompat.Instructions

/-!
# Instructions are neither lost nor doubled

What is known of everything that is marked as processed: at most one job was queued for it, and its
job or its decision is written, or the owner was sent a reply, or its call still goes on. A step lets
one call go on, which is taken in hand and either waits again or ends. The invariant needs that
a mark is still there when the same instruction is delivered again and when its call comes to mark it,
that the saves of marks and decisions and the last replies succeed, and that no crash comes between a
mark that is written and its job.
-/

namespace QuarkSelfAI.BridgeCompat

open Foundation

abbrev InstructionTrace := List (InstructionCall × InstructionReply)

def instructionEvents (labels : InstructionTrace) : List InstructionEvent := labels.flatMap fun label => label.2.events

theorem instructionEvents_snoc (labels : InstructionTrace) (label : InstructionCall × InstructionReply) :
    instructionEvents (labels ++ [label]) = instructionEvents labels ++ label.2.events := by
  simp [instructionEvents]

namespace HandlingPhase

/-- What its call is about was marked. -/
def isPast : HandlingPhase → Bool
  | .noticing | .learning | .matching | .concluding => false
  | _ => true

/-- What its call is about is marked, and nothing came of it yet. -/
def isMarked : HandlingPhase → Bool
  | .confirming _ | .asking | .deciding .. | .marking _ | .updatingCard | .finding _ | .missing | .queueing ..
  | .reporting => true
  | .noticing | .learning | .matching | .concluding | .acknowledging => false

/-- Its call may still queue a job. -/
def mayQueue : HandlingPhase → Bool
  | .marking _ | .updatingCard | .finding _ => true
  | _ => false

/-- The mark was saved, and no job is queued yet. -/
def isOpen : HandlingPhase → Bool
  | .updatingCard | .finding _ => true
  | _ => false

def isQueueing : HandlingPhase → Bool
  | .queueing .. => true
  | _ => false

/-- Its save writes what becomes of the call. -/
def isWriting : HandlingPhase → Bool
  | .queueing .. | .deciding .. => true
  | _ => false

variable {phase : HandlingPhase}

theorem isPast_of_isMarked (marked : phase.isMarked = true) : phase.isPast = true := by
  cases phase <;> first | rfl | cases marked

theorem isMarked_of_idle (idle : phase.isPast = false) : phase.isMarked = false := by
  cases phase <;> first | rfl | cases idle

theorem mayQueue_of_idle (idle : phase.isPast = false) : phase.mayQueue = false := by
  cases phase <;> first | rfl | cases idle

theorem isOpen_of_idle (idle : phase.isPast = false) : phase.isOpen = false := by
  cases phase <;> first | rfl | cases idle

theorem isQueueing_of_idle (idle : phase.isPast = false) : phase.isQueueing = false := by
  cases phase <;> first | rfl | cases idle

end HandlingPhase

namespace Instructions

/-- The job or the decision is written, or the owner was sent a reply. -/
def Answered (events : List InstructionEvent) (origin : InstructionOrigin) : Prop :=
  .persisted origin ∈ events ∨ .consumed origin ∈ events ∨ .replied origin ∈ events

/-- A call that waits or is in hand. -/
def Stands (hand : List Handling) (world : Instructions) (call : Handling) : Prop :=
  call ∈ hand ∨ ∃ ticket, world.calls.find? ticket = some call

/-- How many calls may still queue a job of an origin. -/
def mayQueue (hand : List Handling) (world : Instructions) (origin : InstructionOrigin) : Nat :=
  world.calls.count (fun call => decide (call.origin = origin) && call.phase.mayQueue) +
    hand.countP fun call => decide (call.origin = origin) && call.phase.mayQueue

structure Kept (events : List InstructionEvent) (hand : List Handling) (world : Instructions) : Prop where
  recorded : ∀ origin, isProcessed origin world.memory = true → origin ∈ world.marked
  onDisk : ∀ origin, isProcessed origin world.disk = true → origin ∈ world.saved
  saved : world.saved ⊆ world.marked
  once : ∀ origin, events.count (.queued origin) + world.mayQueue hand origin ≤ if origin ∈ world.marked then 1 else 0
  durable : ∀ origin, .queued origin ∈ events → origin ∈ world.saved
  known : ∀ call, world.Stands hand call → call.phase.isPast = true → call.origin ∈ world.marked
  opened : ∀ call, world.Stands hand call → call.phase.isOpen = true → call.origin ∈ world.saved
  answered : ∀ origin ∈ world.marked, Answered events origin ∨
    ∃ call, world.Stands hand call ∧ call.origin = origin ∧ call.phase.isMarked = true
  written : ∀ origin ∈ world.written, Answered events origin
  queued : ∀ call, world.Stands hand call → call.phase.isQueueing = true →
    call.origin ∈ world.written ∨ ∃ job ∈ world.memory.queue, job.origin = call.origin

variable {options : InstructionOptions} {controller : Option String} {world before after : Instructions}
  {events new : List InstructionEvent} {hand : List Handling} {call : Handling} {phase : HandlingPhase}
  {ticket : Nat} {origin : InstructionOrigin} {outcome : Except String Unit} {labels : InstructionTrace}

theorem Answered.earlier (answered : Answered events origin) (new : List InstructionEvent) :
    Answered (events ++ new) origin := by
  rcases answered with persisted | consumed | replied
  · exact .inl (List.mem_append_left _ persisted)
  · exact .inr (.inl (List.mem_append_left _ consumed))
  · exact .inr (.inr (List.mem_append_left _ replied))

theorem Answered.later (answered : Answered new origin) (events : List InstructionEvent) :
    Answered (events ++ new) origin := by
  rcases answered with persisted | consumed | replied
  · exact .inl (List.mem_append_right _ persisted)
  · exact .inr (.inl (List.mem_append_right _ consumed))
  · exact .inr (.inr (List.mem_append_right _ replied))

/-! ## Calls in hand -/

/-- The calls that stand are kept elsewhere. -/
theorem Kept.restand {others : List Handling} {calls : Suspension Handling} (kept : Kept events hand world)
    (stands : ∀ other, Stands others { world with calls } other ↔ world.Stands hand other)
    (fewer : ∀ origin, mayQueue others { world with calls } origin ≤ world.mayQueue hand origin) :
    Kept events others { world with calls } where
  recorded := kept.recorded
  onDisk := kept.onDisk
  saved := kept.saved
  once origin := Nat.le_trans (Nat.add_le_add_left (fewer origin) _) (kept.once origin)
  durable := kept.durable
  known other standing := kept.known other ((stands other).mp standing)
  opened other standing := kept.opened other ((stands other).mp standing)
  answered origin marked := by simpa only [stands] using kept.answered origin marked
  written := kept.written
  queued other standing := kept.queued other ((stands other).mp standing)

/-- A call that goes on is in hand. -/
theorem Kept.take (kept : Kept events [] world) (found : world.calls.find? ticket = some call) :
    Kept events [call] (world.resume ticket) := by
  have back : ∀ other, (world.resume ticket).Stands [call] other → world.Stands [] other := by
    rintro other (held | ⟨sought, waits⟩)
    · rw [List.mem_singleton] at held
      exact .inr ⟨ticket, held ▸ found⟩
    · rw [resume, Suspension.find?_resume] at waits
      split at waits
      · cases waits
      · exact .inr ⟨sought, waits⟩
  have forth : ∀ other, world.Stands [] other → (world.resume ticket).Stands [call] other := by
    rintro other (none | ⟨sought, waits⟩)
    · cases none
    · by_cases same : sought = ticket
      · subst same
        exact .inl (by simp [Option.some.inj (waits.symm.trans found)])
      · exact .inr ⟨sought, by rw [resume, Suspension.find?_resume, if_neg same, waits]⟩
  refine kept.restand (fun other => ⟨back other, forth other⟩) fun origin => ?_
  unfold mayQueue
  by_cases counted : (decide (call.origin = origin) && call.phase.mayQueue) = true
  · have fewer := @Suspension.count_resume_lt _ _ _ _
      (fun call : Handling => decide (call.origin = origin) && call.phase.mayQueue) found counted
    rw [List.countP_singleton, if_pos counted]
    simp only [List.countP_nil]
    omega
  · rw [List.countP_singleton, if_neg counted]
    exact Nat.add_le_add_right (Suspension.count_resume_le _ _ _) _

/-- A call in hand waits. -/
theorem Kept.wait (kept : Kept events [call] world) :
    Kept events [] { world with calls := world.calls.suspend call } := by
  have back : ∀ other, Stands [] { world with calls := world.calls.suspend call } other → world.Stands [call] other := by
    rintro other (none | ⟨sought, waits⟩)
    · cases none
    · rw [Suspension.find?_suspend] at waits
      split at waits
      · exact .inl (by simp [Option.some.inj waits])
      · exact .inr ⟨sought, waits⟩
  have forth : ∀ other, world.Stands [call] other →
      Stands [] { world with calls := world.calls.suspend call } other := by
    rintro other (held | ⟨sought, waits⟩)
    · rw [List.mem_singleton] at held
      exact .inr ⟨world.calls.next, by rw [Suspension.find?_suspend, if_pos rfl, held]⟩
    · refine .inr ⟨sought, ?_⟩
      rw [Suspension.find?_suspend, if_neg (Nat.ne_of_lt (Suspension.find?_lt waits)), waits]
  refine kept.restand (fun other => ⟨back other, forth other⟩) fun origin => ?_
  unfold mayQueue
  rw [Suspension.count_suspend, List.countP_singleton]
  exact Nat.le_refl _

/-- What stands after the call in hand is exchanged. -/
theorem Stands.exchange {next other : Handling} (stands : world.Stands [next] other) :
    other = next ∨ world.Stands [call] other := by
  rcases stands with held | waits
  · exact .inl (List.mem_singleton.mp held)
  · exact .inr (.inr waits)

/-- A call in hand goes on to a phase that queues nothing. -/
theorem Kept.turn (kept : Kept events [call] world) (queues : phase.mayQueue = true → call.phase.mayQueue = true)
    (opened : phase.isOpen = true → call.origin ∈ world.saved)
    (marked : phase.isPast = true → call.origin ∈ world.marked)
    (answered : call.phase.isMarked = true → phase.isMarked = true ∨ Answered events call.origin)
    (queueing : phase.isQueueing = false) : Kept events [{ call with phase := phase }] world where
  recorded := kept.recorded
  onDisk := kept.onDisk
  saved := kept.saved
  once origin := by
    refine Nat.le_trans (Nat.add_le_add_left (Nat.add_le_add_left ?_ _) _) (kept.once origin)
    rw [List.countP_singleton, List.countP_singleton]
    by_cases counted : (decide (call.origin = origin) && phase.mayQueue) = true
    · rw [Bool.and_eq_true] at counted
      rw [if_pos (by simp [counted]), if_pos (by simp [counted, queues counted.2])]
    · rw [if_neg counted]
      exact Nat.zero_le _
  durable := kept.durable
  known other stands isMarked := by
    rcases (stands.exchange : _ ∨ world.Stands [call] other) with rfl | stands
    · exact marked isMarked
    · exact kept.known other stands isMarked
  opened other stands isOpen := by
    rcases (stands.exchange : _ ∨ world.Stands [call] other) with rfl | stands
    · exact opened isOpen
    · exact kept.opened other stands isOpen
  answered origin recorded := by
    rcases kept.answered origin recorded with done | ⟨other, held | waits, same, isMarked⟩
    · exact .inl done
    · rw [List.mem_singleton.mp held] at same isMarked
      rcases answered isMarked with isMarked | done
      · exact .inr ⟨_, .inl (List.mem_singleton.mpr rfl), same, isMarked⟩
      · exact .inl (same ▸ done)
    · exact .inr ⟨other, .inr waits, same, isMarked⟩
  written := kept.written
  queued other stands isQueueing := by
    rcases (stands.exchange : _ ∨ world.Stands [call] other) with rfl | stands
    · exact absurd isQueueing (by simp [queueing])
    · exact kept.queued other stands isQueueing

theorem Kept.await (kept : Kept events [call] world) (queues : phase.mayQueue = true → call.phase.mayQueue = true)
    (opened : phase.isOpen = true → call.origin ∈ world.saved)
    (marked : phase.isPast = true → call.origin ∈ world.marked)
    (answered : call.phase.isMarked = true → phase.isMarked = true ∨ Answered events call.origin)
    (queueing : phase.isQueueing = false) : Kept events [] (world.await call phase) :=
  (kept.turn queues opened marked answered queueing).wait

/-- A call in hand ends. -/
theorem Kept.drop (kept : Kept events [call] world)
    (answered : call.phase.isMarked = true → Answered events call.origin) : Kept events [] world where
  recorded := kept.recorded
  onDisk := kept.onDisk
  saved := kept.saved
  once origin := Nat.le_trans (Nat.add_le_add_left (Nat.add_le_add_left (Nat.zero_le _) _) _) (kept.once origin)
  durable := kept.durable
  known other stands := kept.known other (stands.imp_left nofun)
  opened other stands := kept.opened other (stands.imp_left nofun)
  answered origin recorded := by
    rcases kept.answered origin recorded with done | ⟨other, held | waits, same, isMarked⟩
    · exact .inl done
    · rw [List.mem_singleton.mp held] at same isMarked
      exact .inl (same ▸ answered isMarked)
    · exact .inr ⟨other, .inr waits, same, isMarked⟩
  written := kept.written
  queued other stands := kept.queued other (stands.imp_left nofun)

/-- A call that begins is in hand. -/
theorem Kept.begin (kept : Kept events [] world) (idle : call.phase.isPast = false) : Kept events [call] world where
  recorded := kept.recorded
  onDisk := kept.onDisk
  saved := kept.saved
  once origin := by
    refine Nat.le_trans (Nat.add_le_add_left (Nat.add_le_add_left ?_ _) _) (kept.once origin)
    rw [List.countP_singleton, if_neg (by simp [HandlingPhase.mayQueue_of_idle idle])]
    exact Nat.zero_le _
  durable := kept.durable
  known other stands isPast := by
    rcases stands with held | waits
    · rw [List.mem_singleton.mp held, idle] at isPast
      cases isPast
    · exact kept.known other (.inr waits) isPast
  opened other stands isOpen := by
    rcases stands with held | waits
    · rw [List.mem_singleton.mp held, HandlingPhase.isOpen_of_idle idle] at isOpen
      cases isOpen
    · exact kept.opened other (.inr waits) isOpen
  answered origin recorded := by
    refine (kept.answered origin recorded).imp_right ?_
    rintro ⟨other, stands, same, isMarked⟩
    exact ⟨other, stands.imp_left nofun, same, isMarked⟩
  written := kept.written
  queued other stands isQueueing := by
    rcases stands with held | waits
    · rw [List.mem_singleton.mp held, HandlingPhase.isQueueing_of_idle idle] at isQueueing
      cases isQueueing
    · exact kept.queued other (.inr waits) isQueueing

/-- A call in hand waits for something after which nothing is marked that was not. -/
theorem Kept.rest (kept : Kept events [call] world) (idle : phase.isPast = false)
    (answered : call.phase.isMarked = true → Answered events call.origin) : Kept events [] (world.await call phase) := by
  refine kept.await ?_ ?_ ?_ ?_ (HandlingPhase.isQueueing_of_idle idle)
  · simp [HandlingPhase.mayQueue_of_idle idle]
  · simp [HandlingPhase.isOpen_of_idle idle]
  · simp [idle]
  · exact fun marked => .inr (answered marked)

/-- Events that queue nothing keep the invariant. -/
theorem Kept.tell (kept : Kept events hand world) (quiet : ∀ origin, .queued origin ∉ new) :
    Kept (events ++ new) hand world where
  recorded := kept.recorded
  onDisk := kept.onDisk
  saved := kept.saved
  once origin := by
    rw [List.count_append, List.count_eq_zero.mpr (quiet origin), Nat.add_zero]
    exact kept.once origin
  durable origin queued := kept.durable origin ((List.mem_append.mp queued).resolve_right (quiet origin))
  known := kept.known
  opened := kept.opened
  answered origin recorded := (kept.answered origin recorded).imp_left fun done => done.earlier new
  written origin listed := (kept.written origin listed).earlier new
  queued := kept.queued

/-- A change that leaves the marks and the queue alone. -/
theorem Kept.edit {change : BridgeState → BridgeState} (kept : Kept events hand world)
    (ids : (change world.memory).processedMessageIds = world.memory.processedMessageIds)
    (cards : (change world.memory).processedCardEventIds = world.memory.processedCardEventIds)
    (queue : ∀ job ∈ world.memory.queue, job ∈ (change world.memory).queue) : Kept events hand (world.edit change) where
  recorded origin processed := by
    refine kept.recorded origin ?_
    cases origin with
    | message messageId => simpa [isProcessed, Instructions.edit, ids] using processed
    | form eventId => simpa [isProcessed, Instructions.edit, cards] using processed
  onDisk := kept.onDisk
  saved := kept.saved
  once := kept.once
  durable := kept.durable
  known := kept.known
  opened := kept.opened
  answered := kept.answered
  written := kept.written
  queued other stands isQueueing :=
    (kept.queued other stands isQueueing).imp_right fun ⟨job, listed, same⟩ => ⟨job, queue job listed, same⟩

/-! ## Marks and jobs -/

theorem isProcessed_mark (processed : isProcessed origin (world.mark call.origin).memory = true) :
    origin = call.origin ∨ isProcessed origin world.memory = true := by
  cases marked : call.origin with
  | message messageId =>
    cases origin with
    | message other =>
      simp only [isProcessed, mark, marked, List.mem_append, List.mem_singleton, decide_eq_true_eq] at processed ⊢
      exact processed.symm.imp_left fun same => by rw [same]
    | form _ => exact .inr (by simpa [isProcessed, mark, marked] using processed)
  | form eventId =>
    cases origin with
    | message _ => exact .inr (by simpa [isProcessed, mark, marked] using processed)
    | form other =>
      simp only [isProcessed, mark, marked, List.mem_append, List.mem_singleton, decide_eq_true_eq] at processed ⊢
      exact processed.symm.imp_left fun same => by rw [same]

theorem mark_queue (origin : InstructionOrigin) (world : Instructions) :
    (world.mark origin).memory.queue = world.memory.queue := by
  cases origin <;> rfl

/-- A call in hand marks what nobody has marked, and goes on to the save of the mark. -/
theorem Kept.mark (kept : Kept events [call] world) (new : call.origin ∉ world.marked)
    (idle : call.phase.isMarked = false) (marked : phase.isMarked = true) (opened : phase.isOpen = false)
    (queueing : phase.isQueueing = false) : Kept events [{ call with phase := phase }] (world.mark call.origin) where
  recorded origin processed := by
    rcases isProcessed_mark processed with rfl | before
    · exact List.mem_append_right _ (List.mem_singleton.mpr rfl)
    · exact List.mem_append_left _ (kept.recorded origin before)
  onDisk := kept.onDisk
  saved origin listed := List.mem_append_left _ (kept.saved listed)
  once origin := by
    have bound := kept.once origin
    have counted : events.count (.queued origin) + (world.mark call.origin).mayQueue [{ call with phase := phase }] origin ≤
        events.count (.queued origin) + world.mayQueue [call] origin + if call.origin = origin then 1 else 0 := by
      rw [Nat.add_assoc]
      refine Nat.add_le_add_left ?_ _
      unfold mayQueue
      rw [List.countP_singleton, Nat.add_assoc]
      refine Nat.add_le_add_left (Nat.le_trans ?_ (Nat.le_add_left _ _)) _
      by_cases same : call.origin = origin
      · rw [if_pos same]
        split <;> omega
      · simp [same]
    refine Nat.le_trans counted ?_
    by_cases same : call.origin = origin
    · subst same
      have listed : call.origin ∈ (world.mark call.origin).marked :=
        List.mem_append_right _ (List.mem_singleton.mpr rfl)
      rw [if_neg new] at bound
      rw [if_pos rfl, if_pos listed]
      omega
    · rw [if_neg same, Nat.add_zero]
      refine Nat.le_trans bound ?_
      by_cases listed : origin ∈ world.marked
      · have still : origin ∈ (world.mark call.origin).marked := List.mem_append_left _ listed
        rw [if_pos listed, if_pos still]
      · rw [if_neg listed]
        exact Nat.zero_le _
  durable := kept.durable
  known other stands isMarked := by
    rcases (stands.exchange : _ ∨ world.Stands [call] other) with rfl | stands
    · exact List.mem_append_right _ (List.mem_singleton.mpr rfl)
    · exact List.mem_append_left _ (kept.known other stands isMarked)
  opened other stands isOpen := by
    rcases (stands.exchange : _ ∨ world.Stands [call] other) with rfl | stands
    · exact absurd isOpen (by simp [opened])
    · exact kept.opened other stands isOpen
  answered origin recorded := by
    rcases List.mem_append.mp recorded with before | now
    · rcases kept.answered origin before with done | ⟨other, held | waits, same, isMarked⟩
      · exact .inl done
      · rw [List.mem_singleton.mp held, idle] at isMarked
        cases isMarked
      · exact .inr ⟨other, .inr waits, same, isMarked⟩
    · exact .inr ⟨_, .inl (List.mem_singleton.mpr rfl), (List.mem_singleton.mp now).symm, marked⟩
  written := kept.written
  queued other stands isQueueing := by
    rcases (stands.exchange : _ ∨ world.Stands [call] other) with rfl | stands
    · exact absurd isQueueing (by simp [queueing])
    · rw [mark_queue]
      exact kept.queued other stands isQueueing

/-- A call in hand marks what it is about, and waits for the save of the mark. -/
theorem Kept.markAndWait (kept : Kept events [call] world) (idle : call.phase.isPast = false)
    (new : call.origin ∉ world.marked) (marked : phase.isMarked = true) (opened : phase.isOpen = false)
    (queueing : phase.isQueueing = false) : Kept events [] ((world.mark call.origin).await call phase) :=
  (kept.mark new (HandlingPhase.isMarked_of_idle idle) marked opened queueing).wait

/-- A call in hand queues its job. -/
theorem Kept.enqueue {sessionId title : String} (kept : Kept events [call] world) (finding : call.phase.isOpen = true)
    (queues : call.phase.mayQueue = true) (marked : call.phase.isMarked = true) :
    Kept (events ++ (world.enqueue call sessionId title).1.events) [] (world.enqueue call sessionId title).2 := by
  refine Kept.wait ?_
  have stands : world.Stands [call] call := .inl (List.mem_singleton.mpr rfl)
  constructor
  · exact kept.recorded
  · exact kept.onDisk
  · exact kept.saved
  · intro origin
    refine Nat.le_trans ?_ (kept.once origin)
    rw [List.count_append, Nat.add_assoc]
    refine Nat.add_le_add_left ?_ _
    unfold mayQueue
    rw [List.countP_singleton, List.countP_singleton, if_neg (by simp [HandlingPhase.mayQueue]), Nat.add_zero, Nat.add_comm]
    refine Nat.add_le_add_left ?_ _
    by_cases same : call.origin = origin
    · subst same
      rw [if_pos (by simp [queues])]
      exact List.count_le_length
    · have absent : .queued origin ∉ [InstructionEvent.queued call.origin] := by
        intro queued
        cases List.mem_singleton.mp queued
        exact same rfl
      rw [Instructions.enqueue, List.count_eq_zero.mpr absent]
      exact Nat.zero_le _
  · intro origin queued
    rcases List.mem_append.mp queued with before | now
    · exact kept.durable origin before
    · cases List.mem_singleton.mp now
      exact kept.opened call stands finding
  · intro other stood isMarked
    rcases (stood.exchange : _ ∨ world.Stands [call] other) with rfl | before
    · exact kept.known call stands (HandlingPhase.isPast_of_isMarked marked)
    · exact kept.known other before isMarked
  · intro other stood isOpen
    rcases (stood.exchange : _ ∨ world.Stands [call] other) with rfl | before
    · cases isOpen
    · exact kept.opened other before isOpen
  · intro origin recorded
    rcases kept.answered origin recorded with done | ⟨other, held | waits, same, isMarked⟩
    · exact .inl (done.earlier _)
    · rw [List.mem_singleton.mp held] at same
      exact .inr ⟨_, .inl (List.mem_singleton.mpr rfl), same, rfl⟩
    · exact .inr ⟨other, .inr waits, same, isMarked⟩
  · exact fun origin listed => (kept.written origin listed).earlier _
  · intro other stood isQueueing
    rcases (stood.exchange : _ ∨ world.Stands [call] other) with rfl | before
    · exact .inr ⟨_, List.mem_append_right _ (List.mem_singleton.mpr rfl), rfl⟩
    · refine (kept.queued other before isQueueing).imp_right ?_
      rintro ⟨job, listed, same⟩
      exact ⟨job, List.mem_append_left _ listed, same⟩

/-! ## Saves and crashes -/

theorem cut_messages (state : BridgeState) : state.cut.processedMessageIds ⊆ state.processedMessageIds := by
  simp only [BridgeState.cut]
  apply List.drop_subset

theorem cut_cards (state : BridgeState) : state.cut.processedCardEventIds ⊆ state.processedCardEventIds := by
  simp only [BridgeState.cut]
  apply List.drop_subset

theorem cut_queue (state : BridgeState) : state.cut.queue = state.queue := by
  rw [BridgeState.cut]

theorem isProcessed_cut {state : BridgeState} (processed : isProcessed origin state.cut = true) :
    isProcessed origin state = true := by
  cases origin with
  | message messageId =>
    simp only [isProcessed, decide_eq_true_eq] at processed ⊢
    exact cut_messages state processed
  | form eventId =>
    simp only [isProcessed, decide_eq_true_eq] at processed ⊢
    exact cut_cards state processed

theorem persistEvents_quiet (outcome : Except String Unit) (world : Instructions) (origin : InstructionOrigin) :
    .queued origin ∉ world.persistEvents outcome := by
  cases outcome with
  | error _ => nofun
  | ok _ => simp [persistEvents]

/-- A save that succeeds answers for every job in the queue, and for every decision. -/
theorem answered_persist (listed : origin ∈ world.memory.queue.map (·.origin) ++ world.deciding) :
    Answered (world.persistEvents (.ok ())) origin := by
  rcases List.mem_append.mp listed with queued | decided
  · obtain ⟨job, held, rfl⟩ := List.mem_map.mp queued
    exact .inl (List.mem_append_left _ (List.mem_map.mpr ⟨job, held, rfl⟩))
  · exact .inr (.inl (List.mem_append_right _ (List.mem_map.mpr ⟨origin, decided, rfl⟩)))

theorem persist_calls (outcome : Except String Unit) (world : Instructions) :
    (world.persist outcome).calls = world.calls := by
  cases outcome <;> simp only [Instructions.persist]

theorem persist_memory (outcome : Except String Unit) (world : Instructions) :
    (world.persist outcome).memory = world.memory.cut := by
  cases outcome <;> simp only [Instructions.persist]

theorem resume_memory (ticket : Nat) (world : Instructions) : (world.resume ticket).memory = world.memory := rfl

theorem resume_marked (ticket : Nat) (world : Instructions) : (world.resume ticket).marked = world.marked := rfl

theorem persist_marked (outcome : Except String Unit) (world : Instructions) :
    (world.persist outcome).marked = world.marked := by
  cases outcome <;> simp only [Instructions.persist]

/-- The memory is cut. -/
theorem Kept.recall {memory : BridgeState} (kept : Kept events hand world)
    (recorded : ∀ origin, isProcessed origin memory = true → isProcessed origin world.memory = true)
    (queue : memory.queue = world.memory.queue) : Kept events hand { world with memory := memory } where
  recorded origin processed := kept.recorded origin (recorded origin processed)
  onDisk := kept.onDisk
  saved := kept.saved
  once := kept.once
  durable := kept.durable
  known := kept.known
  opened := kept.opened
  answered := kept.answered
  written := kept.written
  queued other stands isQueueing := by
    rw [queue]
    exact kept.queued other stands isQueueing

/-- The memory is written. -/
theorem Kept.write {written : List InstructionOrigin} (kept : Kept events hand world)
    (answered : ∀ origin ∈ written, Answered events origin) : Kept events hand { world with
      disk := world.memory
      saved := world.marked
      written := world.written ++ written } where
  recorded := kept.recorded
  onDisk := kept.recorded
  saved := List.Subset.refl _
  once := kept.once
  durable origin queued := kept.saved (kept.durable origin queued)
  known := kept.known
  opened other stands isOpen := kept.saved (kept.opened other stands isOpen)
  answered := kept.answered
  written origin listed := (List.mem_append.mp listed).elim (kept.written origin) (answered origin)
  queued other stands isQueueing := (kept.queued other stands isQueueing).imp_left (List.mem_append_left _)

theorem Kept.persist (kept : Kept events hand world) (outcome : Except String Unit) :
    Kept (events ++ world.persistEvents outcome) hand (world.persist outcome) := by
  have told := kept.tell (persistEvents_quiet outcome world)
  have cut := told.recall (fun _ processed => isProcessed_cut processed) (cut_queue world.memory)
  cases outcome with
  | error error => exact cut
  | ok _ =>
    refine cut.write fun origin listed => ?_
    rw [cut_queue] at listed
    exact (answered_persist listed).later events

/-- What a save writes for a call that awaits it. -/
theorem Kept.writes (kept : Kept events [] world) (found : world.calls.find? ticket = some call)
    (writing : call.phase.isWriting = true) : Answered (events ++ world.persistEvents (.ok ())) call.origin := by
  cases phase : call.phase with
  | queueing sessionId ahead =>
    rcases kept.queued call (.inr ⟨ticket, found⟩) (by rw [phase]; rfl) with listed | ⟨job, held, same⟩
    · exact (kept.written _ listed).earlier _
    · exact (answered_persist (List.mem_append_left _ (List.mem_map.mpr ⟨job, held, same⟩))).later events
  | deciding place channel =>
    refine (answered_persist (List.mem_append_right _ ?_)).later events
    exact List.mem_filterMap.mpr ⟨_, Suspension.find?_mem found, by simp [phase]⟩
  | _ => simp [phase, HandlingPhase.isWriting] at writing

theorem Kept.crash (kept : Kept events [] world)
    (safe : ∀ entry ∈ world.calls.waiting, entry.2.phase.isMarked = true → entry.2.origin ∈ world.saved →
      entry.2.origin ∈ world.written) :
    Kept events [] { world with memory := world.disk, calls := world.calls.clear, marked := world.saved } where
  recorded := kept.onDisk
  onDisk := kept.onDisk
  saved := List.Subset.refl _
  once origin := by
    have bound := kept.once origin
    by_cases saved : origin ∈ world.saved
    · rw [if_pos (kept.saved saved)] at bound
      rw [if_pos saved]
      exact Nat.le_trans (Nat.add_le_add_left (Nat.zero_le _) _) bound
    · rw [List.count_eq_zero.mpr fun queued => saved (kept.durable origin queued)]
      exact Nat.zero_le _
  durable := kept.durable
  known other := by
    rintro (none | ⟨sought, waits⟩)
    · cases none
    · simp at waits
  opened other := by
    rintro (none | ⟨sought, waits⟩)
    · cases none
    · simp at waits
  answered origin saved := by
    rcases kept.answered origin (kept.saved saved) with done | ⟨call, none | ⟨ticket, waits⟩, same, isMarked⟩
    · exact .inl done
    · cases none
    · have written := safe _ (Suspension.find?_mem waits) isMarked (same ▸ saved)
      exact .inl (same ▸ kept.written _ written)
  written := kept.written
  queued other := by
    rintro (none | ⟨sought, waits⟩)
    · cases none
    · simp at waits

/-- The drain removes a job that is written. -/
theorem Kept.finish {index : Nat} (kept : Kept events [] world)
    (safe : ∀ job, world.memory.queue[index]? = some job → job.origin ∈ world.written) :
    Kept events [] (world.edit fun state => { state with queue := state.queue.eraseIdx index }) where
  recorded := kept.recorded
  onDisk := kept.onDisk
  saved := kept.saved
  once := kept.once
  durable := kept.durable
  known := kept.known
  opened := kept.opened
  answered := kept.answered
  written := kept.written
  queued other stands isQueueing := by
    rcases kept.queued other stands isQueueing with written | ⟨job, held, same⟩
    · exact .inl written
    · obtain ⟨place, there⟩ := List.mem_iff_getElem?.mp held
      by_cases removed : place = index
      · subst removed
        exact .inl (same ▸ safe job there)
      · exact .inr ⟨job, List.mem_eraseIdx_iff_getElem?.mpr ⟨place, removed, there⟩, same⟩

theorem Kept.initial (controller : Option String) : Kept [] [] (empty controller) where
  recorded origin processed := by cases origin <;> simp [isProcessed, empty, BridgeState.fresh] at processed
  onDisk origin processed := by cases origin <;> simp [isProcessed, empty, BridgeState.fresh] at processed
  saved := List.Subset.refl _
  once origin := Nat.zero_le _
  durable := nofun
  known other := by
    rintro (none | ⟨sought, waits⟩)
    · cases none
    · simp [empty] at waits
  opened other := by
    rintro (none | ⟨sought, waits⟩)
    · cases none
    · simp [empty] at waits
  answered := nofun
  written := nofun
  queued other := by
    rintro (none | ⟨sought, waits⟩)
    · cases none
    · simp [empty] at waits

/-! ## What a call does -/

/-- What a step leaves, with what it answers. -/
def Keeps (events : List InstructionEvent) (result : InstructionReply × Instructions) : Prop :=
  Kept (events ++ result.1.events) [] result.2

theorem Kept.quiet {reply : InstructionReply} (kept : Kept events [] after) (quiet : reply.events = []) :
    Keeps events (reply, after) := by
  unfold Keeps
  rwa [quiet, List.append_nil]

theorem report_keeps (kept : Kept events [call] world) (marked : call.origin ∈ world.marked) (error : String) :
    Keeps events (world.report call error) := by
  refine Kept.quiet (kept.await nofun nofun (fun _ => marked) (fun _ => .inl rfl) rfl) ?_
  unfold reportText
  split <;> rfl

theorem handToController_keeps (kept : Kept events [call] world) (idle : call.phase.isPast = false)
    (new : call.origin ∉ world.marked) : Keeps events (world.handToController call) := by
  have unmarked := HandlingPhase.isMarked_of_idle idle
  unfold handToController
  split
  · exact Kept.quiet (kept.rest rfl (by simp [unmarked])) rfl
  · exact Kept.quiet ((kept.edit rfl rfl fun _ listed => listed).markAndWait idle new rfl rfl rfl) rfl

theorem handleConfirmation_keeps (kept : Kept events [call] world) (idle : call.phase.isPast = false)
    (new : call.origin ∉ world.marked) : Keeps events (world.handleConfirmation call) := by
  unfold handleConfirmation
  split
  · exact Kept.quiet (kept.markAndWait idle new rfl rfl rfl) rfl
  · exact handToController_keeps kept idle new

theorem matchReply_keeps (kept : Kept events [call] world) (idle : call.phase.isPast = false)
    (new : options.proactive = false → call.origin ∉ world.marked) : Keeps events (world.matchReply options call) := by
  unfold matchReply
  split
  · exact Kept.quiet (kept.rest rfl (by simp [HandlingPhase.isMarked_of_idle idle])) rfl
  · rename_i alone
    exact handleConfirmation_keeps kept idle (new (by simpa using alone))

/-- What was marked is still recognised as processed. -/
def Recognised (origin : InstructionOrigin) (marked : List InstructionOrigin) (state : BridgeState) : Prop :=
  origin ∈ marked → isProcessed origin state = true

instance (origin : InstructionOrigin) (marked : List InstructionOrigin) (state : BridgeState) :
    Decidable (Recognised origin marked state) :=
  inferInstanceAs (Decidable (_ → _))

theorem check_keeps (kept : Kept events [call] world) (idle : call.phase.isPast = false)
    (recognised : Recognised call.origin world.marked world.memory) : Keeps events (world.check options call) := by
  have unmarked := HandlingPhase.isMarked_of_idle idle
  unfold check
  split
  · exact Kept.quiet (kept.drop (by simp [unmarked])) rfl
  · rename_i unprocessed
    split
    · exact Kept.quiet (kept.rest rfl (by simp [unmarked])) rfl
    · refine matchReply_keeps kept idle fun _ marked => unprocessed ?_
      rw [recognised marked, Bool.true_or]

theorem handle_keeps {event : OwnerEvent} (kept : Kept events [] world)
    (recognised : Recognised (.message event.messageId) world.marked world.memory) :
    Keeps events (world.handle options event) := by
  unfold handle
  dsimp only
  split
  · exact Kept.quiet kept rfl
  · split
    · exact Kept.quiet ((kept.begin rfl).rest rfl nofun) rfl
    · split
      · exact check_keeps (kept.begin rfl) rfl recognised
      · split
        · exact check_keeps (kept.begin rfl) rfl recognised
        · exact Kept.quiet (((kept.edit rfl rfl fun _ listed => listed).begin rfl).rest rfl nofun) rfl

theorem handleCardAction_keeps {event : FormEvent} (kept : Kept events [] world)
    (recognised : Recognised (.form event.eventId) world.marked world.memory) :
    Keeps events (world.handleCardAction options event) := by
  unfold handleCardAction
  dsimp only
  split
  · exact Kept.quiet kept rfl
  · rename_i accepted
    split
    · exact Kept.quiet ((kept.begin rfl).rest rfl nofun) rfl
    · have begun : Kept events [⟨.form event.eventId, event.messageId, some (trim (event.prompt.getD "")), none,
          .concluding⟩] world := kept.begin rfl
      exact Kept.quiet (begun.markAndWait rfl (fun marked => accepted (.inr (.inr (recognised marked)))) rfl rfl rfl) rfl

theorem onSaved_keeps {running : Bool} (kept : Kept events [call] world) (awaits : call.phase.awaits = .save)
    (recognised : call.phase = .noticing → Recognised call.origin world.marked world.memory)
    (saved : call.phase.isPast = true → call.origin ∈ world.saved)
    (written : call.phase.isWriting = true → Answered events call.origin) :
    Keeps events (world.onSaved options call running) := by
  have known := kept.known call (.inl (List.mem_singleton.mpr rfl))
  unfold onSaved
  cases phase : call.phase with
  | noticing => exact check_keeps kept (by rw [phase]; rfl) (recognised phase)
  | confirming reading =>
    rw [phase] at known
    cases reading with
    | ambiguous places => exact Kept.quiet (kept.await nofun nofun (fun _ => known rfl) (fun _ => .inl rfl) rfl) rfl
    | decided place channel =>
      have edited : Kept events [call] (world.edit fun state => { state with
          confirmations := state.confirmations.modify place (ResearchConfirmation.decide channel) }) :=
        kept.edit rfl rfl fun _ listed => listed
      exact Kept.quiet (edited.await nofun nofun (fun _ => known rfl) (fun _ => .inl rfl) rfl) rfl
  | deciding place channel =>
    refine Kept.quiet (kept.rest rfl fun _ => written (by rw [phase]; rfl)) ?_
    cases world.memory.confirmations[place]? with
    | none => rfl
    | some item => cases channel <;> rfl
  | marking sessionId =>
    have queues : call.phase.mayQueue = true := by rw [phase]; rfl
    rw [phase] at known saved
    have goesOn : ∀ next : HandlingPhase, next.isMarked = true → next.isQueueing = false →
        Kept events [] (world.await call next) := fun next marked queueing =>
      kept.await (fun _ => queues) (fun _ => saved rfl) (fun _ => known rfl) (fun _ => .inl marked) queueing
    cases origin : call.origin with
    | message messageId => exact Kept.quiet (goesOn (.finding sessionId) rfl rfl) rfl
    | form eventId => exact Kept.quiet (goesOn .updatingCard rfl rfl) rfl
  | queueing sessionId ahead =>
    rw [phase] at known
    exact Kept.quiet (kept.await nofun nofun (fun _ => known rfl) (fun _ => .inr (written (by rw [phase]; rfl))) rfl) rfl
  | _ =>
    rw [phase] at awaits
    cases awaits

/-- A save that fails ends the call with nothing, though what it is about is marked. -/
def isUnheard (call : Handling) : Bool :=
  match call.phase, call.origin with
  | .confirming _, _ | .deciding .., _ | .marking _, .message _ => true
  | _, _ => false

theorem onUnsaved_keeps {error : String} (kept : Kept events [call] world) (awaits : call.phase.awaits = .save)
    (heard : isUnheard call = false) : Keeps events (world.onUnsaved call error) := by
  have known := kept.known call (.inl (List.mem_singleton.mpr rfl))
  unfold onUnsaved
  unfold isUnheard at heard
  cases phase : call.phase with
  | noticing => exact Kept.quiet (kept.drop (by simp [phase, HandlingPhase.isMarked])) rfl
  | queueing sessionId ahead => exact report_keeps kept (known (by rw [phase]; rfl)) error
  | marking sessionId =>
    cases origin : call.origin with
    | message messageId => simp [phase, origin] at heard
    | form eventId => exact report_keeps kept (known (by rw [phase]; rfl)) error
  | confirming _ | deciding _ _ => simp [phase] at heard
  | _ =>
    rw [phase] at awaits
    cases awaits

/-- A record that settles now is the last thing before the mark. -/
def marksNow (options : InstructionOptions) : HandlingPhase → Bool
  | .learning => !options.proactive
  | .matching => true
  | _ => false

theorem onRecorded_keeps (kept : Kept events [call] world) (awaits : call.phase.awaits = .record)
    (new : marksNow options call.phase = true → call.origin ∉ world.marked) :
    Keeps events (world.onRecorded options call outcome) := by
  unfold onRecorded
  cases phase : call.phase with
  | learning =>
    rw [phase] at new
    have idle : call.phase.isPast = false := by rw [phase]; rfl
    cases outcome with
    | ok _ => exact matchReply_keeps kept idle fun alone => new (by simp [marksNow, alone])
    | error _ => exact Kept.quiet (kept.drop (by simp [HandlingPhase.isMarked_of_idle idle])) rfl
  | matching =>
    have idle : call.phase.isPast = false := by rw [phase]; rfl
    cases outcome with
    | ok _ => exact handleConfirmation_keeps kept idle (new (by rw [phase]; rfl))
    | error _ => exact Kept.quiet (kept.drop (by simp [HandlingPhase.isMarked_of_idle idle])) rfl
  | _ =>
    rw [phase] at awaits
    cases awaits

theorem onFound_keeps {outcome : Except String (Option String)} (kept : Kept events [call] world)
    (awaits : call.phase.awaits = .session) : Keeps events (world.onFound call outcome) := by
  have known := kept.known call (.inl (List.mem_singleton.mpr rfl))
  unfold onFound
  cases phase : call.phase with
  | finding sessionId =>
    have marked : call.origin ∈ world.marked := known (by rw [phase]; rfl)
    rcases outcome with error | _ | title
    · exact report_keeps kept marked error
    · exact Kept.quiet (kept.await nofun nofun (fun _ => marked) (fun _ => .inl rfl) rfl) rfl
    · exact kept.enqueue (by rw [phase]; rfl) (by rw [phase]; rfl) (by rw [phase]; rfl)
  | _ =>
    rw [phase] at awaits
    cases awaits

/-- A call ends with a reply. -/
theorem Kept.reply (kept : Kept events [call] world) : Keeps events (⟨[.replied call.origin], none⟩, world) := by
  have told := kept.tell (by simp : ∀ origin, .queued origin ∉ [InstructionEvent.replied call.origin])
  exact told.drop fun _ => .inr (.inr (List.mem_append_right _ (List.mem_singleton.mpr rfl)))

theorem onReplied_keeps (kept : Kept events [call] world) (awaits : call.phase.awaits = .reply)
    (sent : ∀ error, outcome = .error error → call.phase ≠ .asking ∧ call.phase ≠ .reporting) :
    Keeps events (world.onReplied call outcome) := by
  have stands : world.Stands [call] call := .inl (List.mem_singleton.mpr rfl)
  have known := kept.known call stands
  unfold onReplied
  cases phase : call.phase with
  | asking =>
    cases outcome with
    | ok _ => exact kept.reply
    | error error => exact absurd phase (sent error rfl).1
  | reporting =>
    cases outcome with
    | ok _ => exact kept.reply
    | error error => exact absurd phase (sent error rfl).2
  | concluding =>
    cases outcome with
    | ok | error => exact Kept.quiet (kept.drop (by simp [phase, HandlingPhase.isMarked])) rfl
  | missing =>
    cases outcome with
    | ok _ => exact kept.reply
    | error error => exact report_keeps kept (known (by rw [phase]; rfl)) error
  | acknowledging =>
    cases outcome with
    | ok _ => exact Kept.quiet (kept.drop (by simp [phase, HandlingPhase.isMarked])) rfl
    | error error => exact report_keeps kept (known (by rw [phase]; rfl)) error
  | updatingCard =>
    have marked : call.origin ∈ world.marked := known (by rw [phase]; rfl)
    cases outcome with
    | error error => exact report_keeps kept marked error
    | ok _ =>
      cases world.memory.controller with
      | none => exact report_keeps kept marked _
      | some sessionId =>
        have saved : call.origin ∈ world.saved := kept.opened call stands (by rw [phase]; rfl)
        refine Kept.quiet (kept.await ?_ (fun _ => saved) (fun _ => marked) (fun _ => .inl rfl) rfl) rfl
        exact fun _ => by rw [phase]; rfl
  | _ =>
    rw [phase] at awaits
    cases awaits

/-! ## Runs -/

/-- A mark is recognised where its instruction is delivered, and is not there where a call comes to set
it. The saves of marks and decisions and the last replies succeed. The drain removes jobs that are
written, and a crash meets no call between the mark that is written and what is written of it. -/
def Undisturbed (options : InstructionOptions) (world : Instructions) (label : InstructionCall × InstructionReply) : Prop :=
  match label.1 with
  | .handle event => Recognised (.message event.messageId) world.marked world.memory
  | .handleCardAction event => Recognised (.form event.eventId) world.marked world.memory
  | .saved ticket (.ok ()) _ => ∀ call ∈ world.calls.find? ticket, call.phase = .noticing →
    Recognised call.origin world.marked world.memory.cut
  | .saved ticket (.error _) _ => ∀ call ∈ world.calls.find? ticket, isUnheard call = false
  | .recorded ticket _ => ∀ call ∈ world.calls.find? ticket, marksNow options call.phase = true → call.origin ∉ world.marked
  | .replied ticket (.error _) => ∀ call ∈ world.calls.find? ticket, call.phase ≠ .asking ∧ call.phase ≠ .reporting
  | .finish index => ∀ job ∈ world.memory.queue[index]?, job.origin ∈ world.written
  | .crash => ∀ entry ∈ world.calls.waiting, entry.2.phase.isMarked = true → entry.2.origin ∈ world.saved →
    entry.2.origin ∈ world.written
  | _ => True

instance (options : InstructionOptions) (world : Instructions) (label : InstructionCall × InstructionReply) :
    Decidable (Undisturbed options world label) := by
  unfold Undisturbed
  split <;> infer_instance

theorem resumed_some {awaited : Awaited} (found : world.resumed ticket awaited = some call) :
    world.calls.find? ticket = some call ∧ call.phase.awaits = awaited := by
  obtain ⟨waits, fits⟩ := Option.filter_eq_some_iff.mp found
  exact ⟨waits, of_decide_eq_true fits⟩

theorem Kept.step {label : InstructionCall × InstructionReply} (kept : Kept events [] before)
    (undisturbed : Undisturbed options before label) : Keeps events (perform options label.1 before) := by
  obtain ⟨step, reply⟩ := label
  unfold perform
  cases step with
  | handle event => exact handle_keeps kept undisturbed
  | handleCardAction event => exact handleCardAction_keeps kept undisturbed
  | confirm item => exact Kept.quiet (kept.edit rfl rfl fun _ listed => listed) rfl
  | save outcome => exact kept.persist outcome
  | finish index => exact Kept.quiet (kept.finish undisturbed) rfl
  | crash => exact Kept.quiet (kept.crash undisturbed) rfl
  | saved ticket outcome running =>
    dsimp only
    split
    · rename_i call found
      obtain ⟨waits, awaits⟩ := resumed_some found
      have taken := (kept.persist outcome).take ((congrArg (·.find? ticket) (persist_calls outcome before)).trans waits)
      have known : call.phase.isPast = true → call.origin ∈ before.marked := kept.known call (.inr ⟨ticket, waits⟩)
      have goesOn : Keeps (events ++ before.persistEvents outcome)
          (((before.persist outcome).resume ticket).onSaveSettled options call outcome running) := by
        cases outcome with
        | ok _ =>
          have recognised : call.phase = .noticing → Recognised call.origin
              ((before.persist (.ok ())).resume ticket).marked ((before.persist (.ok ())).resume ticket).memory := by
            rw [resume_marked, resume_memory, persist_marked, persist_memory]
            exact undisturbed call waits
          exact onSaved_keeps taken awaits recognised known (kept.writes waits)
        | error error => exact onUnsaved_keeps taken awaits (undisturbed call waits)
      unfold Keeps at goesOn ⊢
      rwa [List.append_assoc] at goesOn
    · exact Kept.quiet kept rfl
  | recorded ticket outcome =>
    dsimp only
    split
    · rename_i call found
      obtain ⟨waits, awaits⟩ := resumed_some found
      exact onRecorded_keeps (kept.take waits) awaits (undisturbed call waits)
    · exact Kept.quiet kept rfl
  | found ticket outcome =>
    dsimp only
    split
    · rename_i call found
      obtain ⟨waits, awaits⟩ := resumed_some found
      exact onFound_keeps (kept.take waits) awaits
    · exact Kept.quiet kept rfl
  | replied ticket outcome =>
    dsimp only
    split
    · rename_i call found
      obtain ⟨waits, awaits⟩ := resumed_some found
      refine onReplied_keeps (kept.take waits) awaits fun error failed => ?_
      subst failed
      exact undisturbed call waits
    · exact Kept.quiet kept rfl

abbrev UndisturbedRun (options : InstructionOptions) (controller : Option String) :
    InstructionTrace → Instructions → Prop :=
  ((machine options controller).system.restricted (Undisturbed options)).Run

theorem run_kept (run : UndisturbedRun options controller labels world) : Kept (instructionEvents labels) [] world := by
  refine run.history (motive := fun labels state => Kept (instructionEvents labels) [] state) ?_ ?_
  · intro state initially
    cases initially
    exact .initial controller
  · rintro labels label before after _ kept ⟨performed, undisturbed⟩
    have keeps := kept.step undisturbed
    have same : perform options label.1 before = (label.2, after) := performed
    rw [same] at keeps
    rw [instructionEvents_snoc]
    exact keeps

def learningOwner : InstructionOptions := ⟨"ou_me", true, false⟩

def request : OwnerEvent := ⟨"om_1", "ou_me", "user", "p2p", "text", none, some "整理一下今天的日程", none⟩

/-- The request is recorded, and its mark is saved. -/
def requestMarked : List InstructionCall := [.handle request, .recorded 0 (.ok ()), .saved 1 (.ok ()) false]

end Instructions

end QuarkSelfAI.BridgeCompat

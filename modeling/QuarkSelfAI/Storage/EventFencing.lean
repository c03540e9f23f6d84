import QuarkSelfAI.Foundation.Lease
import QuarkSelfAI.Storage.EventStore

/-!
# Fencing of event deliveries

The delivery of one event to one consumer is a lease: an event without a delivery
row is free, a processing row is held by its worker, a delivered or failed row is
closed. One upsert covers the first claim, the retry and the takeover, and all
three are the same move of that lease.
-/

namespace QuarkSelfAI.Storage.EventStore

open Foundation

variable {Payload Time : Type}

def deliveryPhase : DeliveryStatus → Option String → LeasePhase String
  | .pending, _ => .free
  | .processing, some workerId => .held workerId
  | _, _ => .closed

/-- The delivery of an event to a consumer as a lease. -/
def leaseOf (store : EventStore Payload Time) (consumerName eventId : String) : Lease String :=
  match store.delivery? consumerName eventId with
  | none => Lease.fresh
  | some delivery => ⟨deliveryPhase delivery.status delivery.workerId, delivery.attempt⟩

/-- A worker holds the delivery of an event to a consumer. -/
def Holds (store : EventStore Payload Time) (consumerName eventId workerId : String) : Prop :=
  ∃ delivery, store.delivery? consumerName eventId = some delivery ∧
    delivery.status = .processing ∧ delivery.workerId = some workerId

/-- A worker is set exactly on the rows that are being processed. -/
def Leased (store : EventStore Payload Time) : Prop :=
  ∀ delivery ∈ store.deliveries, delivery.workerId.isSome ↔ delivery.status = .processing

/-- The lease move a call made on one delivery. -/
def leaseMove (consumerName eventId : String) : EventCall Payload Time × EventReply Payload → Option (LeaseMove String)
  | (.claimNextEvent claiming _ workerId _ _, .claimed (some event)) =>
    if (claiming, event.id) = (consumerName, eventId) then some (.acquire workerId) else none
  | (.settleEvent settling settledId workerId _, .settled) =>
    if (settling, settledId) = (consumerName, eventId) then some (.finish workerId) else none
  | (.releaseEvent input, .released) =>
    if (input.consumerName, input.eventId) = (consumerName, eventId) then
      if input.terminal then some (.finish input.workerId) else some (.surrender input.workerId)
    else none
  | _ => none

/-- The calls that move the lease of a delivery. -/
inductive Moves (consumerName eventId : String) :
    EventCall Payload Time → EventReply Payload → LeaseMove String → Prop where
  | claimed {eventKeys workerId now leaseExpiresAt event} (named : event.id = eventId) :
      Moves consumerName eventId
        (.claimNextEvent consumerName eventKeys workerId now leaseExpiresAt) (.claimed (some event))
        (.acquire workerId)
  | settled {workerId deliveredAt} :
      Moves consumerName eventId (.settleEvent consumerName eventId workerId deliveredAt) .settled
        (.finish workerId)
  | failed {input} (named : (input.consumerName, input.eventId) = (consumerName, eventId))
      (ending : input.terminal = true) :
      Moves consumerName eventId (.releaseEvent input) .released (.finish input.workerId)
  | deferred {input} (named : (input.consumerName, input.eventId) = (consumerName, eventId))
      (retried : input.terminal = false) :
      Moves consumerName eventId (.releaseEvent input) .released (.surrender input.workerId)

theorem moves_of_leaseMove {consumerName eventId : String} {call : EventCall Payload Time} {reply : EventReply Payload}
    {move : LeaseMove String} (made : leaseMove consumerName eventId (call, reply) = some move) :
    Moves consumerName eventId call reply move := by
  unfold leaseMove at made
  split at made
  · rename_i same
    cases same
    split at made
    · rename_i claimed
      obtain ⟨rfl, named⟩ := Prod.mk.inj claimed
      cases made
      exact .claimed named
    · cases made
  · rename_i same
    cases same
    split at made
    · rename_i named
      obtain ⟨rfl, rfl⟩ := Prod.mk.inj named
      cases made
      exact .settled
    · cases made
  · rename_i input same
    cases same
    split at made
    · rename_i named
      cases ending : input.terminal with
      | true =>
        rw [ending] at made
        cases made
        exact .failed named ending
      | false =>
        rw [ending] at made
        cases made
        exact .deferred named ending
    · cases made
  · cases made

/-- The delivery a call handed out, with the worker that got it. -/
def claimOf : EventCall Payload Time × EventReply Payload → Option ((String × String) × String)
  | (.claimNextEvent consumerName _ workerId _ _, .claimed (some event)) => some ((consumerName, event.id), workerId)
  | _ => none

def claims (history : List (EventCall Payload Time × EventReply Payload)) : List ((String × String) × String) :=
  history.filterMap claimOf

/-- The workers a delivery was handed to, in order. -/
def claimants (history : List (EventCall Payload Time × EventReply Payload))
    (consumerName eventId : String) : List String :=
  ((claims history).filter fun claim => claim.1 = (consumerName, eventId)).map (·.2)

theorem claimants_nodup {history : List (EventCall Payload Time × EventReply Payload)}
    (distinct : ((claims history).map (·.2)).Nodup) (consumerName eventId : String) :
    (claimants history consumerName eventId).Nodup :=
  distinct.sublist (List.filter_sublist.map _)

/-- The acquirers of a delivery's lease are its claimants. -/
theorem acquirers_leaseMove (history : List (EventCall Payload Time × EventReply Payload))
    (consumerName eventId : String) : Lease.acquirers (history.filterMap (leaseMove consumerName eventId)) =
      claimants history consumerName eventId := by
  rw [Lease.acquirers, List.filterMap_filterMap, claimants, claims, List.filter_filterMap, List.map_filterMap]
  refine List.filterMap_congr fun entry _ => ?_
  unfold leaseMove
  split
  · rename_i claiming _ _ _ _ event _
    by_cases same : (claiming, event.id) = (consumerName, eventId)
    · simp [claimOf, same]
    · simp [claimOf, same]
  · split <;> rfl
  · split
    · split <;> rfl
    · rfl
  · rename_i unclaimed _ _
    unfold claimOf
    split
    · exact (unclaimed _ _ _ _ _ _ rfl).elim
    · rfl

variable [LinearOrder Time] {call : EventCall Payload Time} {reply : EventReply Payload}
  {before after store : EventStore Payload Time}
  {history : List (EventCall Payload Time × EventReply Payload)}
  {consumerName eventId workerId : String} {delivery : EventDelivery Time}
  {entry : EventCall Payload Time × EventReply Payload} {change : EventDelivery Time → EventDelivery Time}

omit [LinearOrder Time] in
/-- A delivery row that is changed to one with the right columns keeps them right. -/
theorem Leased.update {key : String × String}
    {keeps : ∀ delivery, (change delivery).key = delivery.key} (leased : before.Leased)
    (deliveries : after.deliveries = before.deliveries.update key change keeps)
    (changed : ∀ delivery, (change delivery).workerId.isSome ↔
      (change delivery).status = .processing) : after.Leased := by
  intro delivery stored
  rw [deliveries] at stored
  rcases Table.mem_update.mp stored with ⟨old, _, _, rfl⟩ | ⟨kept, _⟩
  · exact changed old
  · exact leased delivery kept

theorem Leased.effect (leased : before.Leased) (effect : Effect before call reply after) : after.Leased := by
  cases effect with
  | threw | idle => exact leased
  | appended deliveries =>
    intro delivery stored
    rw [deliveries] at stored
    exact leased delivery stored
  | claimedFirst _ _ deliveries =>
    intro delivery stored
    rcases (Table.mem_insert deliveries).mp stored with old | rfl
    · exact leased delivery old
    · simp [firstDelivery]
  | claimedAgain _ _ _ deliveries => exact leased.update deliveries fun _ => by simp [claimedDelivery]
  | settled _ _ _ _ deliveries => exact leased.update deliveries fun _ => by simp [settledDelivery]
  | @released input _ _ _ _ _ _ deliveries =>
    refine leased.update deliveries fun _ => ?_
    cases ending : input.terminal with
    | true | false => simp [releasedDelivery, ending]

omit [LinearOrder Time] in
theorem leaseOf_found (found : store.delivery? consumerName eventId = some delivery) :
    store.leaseOf consumerName eventId = ⟨deliveryPhase delivery.status delivery.workerId, delivery.attempt⟩ := by
  rw [leaseOf, found]

omit [LinearOrder Time] in
/-- Updating one delivery moves its lease and leaves every other alone. -/
theorem leaseOf_updated {claiming claimedId : String} {keeps : ∀ delivery, (change delivery).key = delivery.key}
    (deliveries : after.deliveries = before.deliveries.update (claiming, claimedId) change keeps)
    (found : before.delivery? claiming claimedId = some delivery) (consumerName eventId : String) :
    after.leaseOf consumerName eventId = if (claiming, claimedId) = (consumerName, eventId) then
      ⟨deliveryPhase (change delivery).status (change delivery).workerId, (change delivery).attempt⟩
    else before.leaseOf consumerName eventId := by
  rw [leaseOf, delivery?, Table.find?_updated deliveries found]
  by_cases same : (claiming, claimedId) = (consumerName, eventId)
  · rw [if_pos same.symm, if_pos same]
  · rw [if_neg (Ne.symm same), if_neg same]
    rfl

omit [LinearOrder Time] in
theorem holds_phase (running : delivery.status = .processing) (held : delivery.workerId = some workerId) :
    deliveryPhase delivery.status delivery.workerId = .held workerId := by
  rw [running, held]
  rfl

/-- One call is one move of a delivery's lease, or leaves it alone. -/
theorem Effect.lease (leased : before.Leased) (effect : Effect before call reply after)
    (consumerName eventId : String) :
    match leaseMove consumerName eventId (call, reply) with
    | none => after.leaseOf consumerName eventId = before.leaseOf consumerName eventId
    | some move =>
      Lease.Step (before.leaseOf consumerName eventId) move (after.leaseOf consumerName eventId) := by
  cases effect with
  | threw message =>
    have still : leaseMove consumerName eventId (call, EventReply.threw message) = none := by
      unfold leaseMove
      split <;> simp_all
    rw [still]
  | appended deliveries =>
    show after.leaseOf consumerName eventId = before.leaseOf consumerName eventId
    rw [leaseOf, leaseOf, delivery?, delivery?, deliveries]
  | idle => rfl
  | @claimedFirst claiming _ worker _ _ _ row fresh _ deliveries =>
    by_cases same : (claiming, row.id) = (consumerName, eventId)
    · obtain ⟨rfl, rfl⟩ := Prod.mk.inj same
      have stored : after.delivery? claiming row.id = some _ := Table.find?_new deliveries
      simp only [leaseMove, claimedEvent, if_true]
      rw [leaseOf_found stored, leaseOf, fresh]
      exact .acquire worker (by simp [Lease.fresh])
    · have elsewhere : (claiming, (claimedEvent row 1).id) ≠ (consumerName, eventId) := same
      simp only [leaseMove, if_neg elsewhere]
      show after.leaseOf consumerName eventId = before.leaseOf consumerName eventId
      rw [leaseOf, leaseOf, delivery?, delivery?, Table.find?_insert deliveries,
        if_neg (show (firstDelivery claiming row.id worker _ _).key ≠ _ from same)]
  | @claimedAgain claiming _ worker _ _ delivery _ row found opened _ deliveries =>
    by_cases same : (claiming, row.id) = (consumerName, eventId)
    · obtain ⟨rfl, rfl⟩ := Prod.mk.inj same
      simp only [leaseMove, claimedEvent, if_true]
      rw [leaseOf_updated deliveries found, if_pos rfl, leaseOf_found found]
      refine .acquire worker ?_
      -- A row that may be claimed waits, or is held by the worker the lease of which ran out.
      unfold deliveryOpen at opened
      split at opened
      · rename_i status
        simp [status, deliveryPhase]
      · rename_i status
        obtain ⟨owner, held⟩ := Option.isSome_iff_exists.mp ((leased delivery (Table.find?_mem found)).mpr status)
        simp [status, held, deliveryPhase]
      · cases opened
    · have elsewhere : (claiming, (claimedEvent row (delivery.attempt + 1)).id) ≠ (consumerName, eventId) := same
      simp only [leaseMove, if_neg elsewhere]
      exact (leaseOf_updated deliveries found consumerName eventId).trans (if_neg same)
  | @settled settling settledId worker _ delivery _ found running held _ deliveries =>
    by_cases same : (settling, settledId) = (consumerName, eventId)
    · obtain ⟨rfl, rfl⟩ := Prod.mk.inj same
      simp only [leaseMove, if_true]
      rw [leaseOf_updated deliveries found, if_pos rfl, leaseOf_found found]
      exact .finish (holds_phase running held)
    · simp only [leaseMove, if_neg same]
      rw [leaseOf_updated deliveries found, if_neg same]
  | @released input delivery _ found running held _ deliveries =>
    by_cases same : (input.consumerName, input.eventId) = (consumerName, eventId)
    · obtain ⟨rfl, rfl⟩ := Prod.mk.inj same
      simp only [leaseMove, if_true]
      rw [leaseOf_updated deliveries found, if_pos rfl, leaseOf_found found]
      cases ending : input.terminal with
      | true =>
        simp only [if_true, releasedDelivery, ending]
        exact .finish (holds_phase running held)
      | false =>
        simp only [Bool.false_eq_true, if_false, releasedDelivery, ending]
        exact .surrender (holds_phase running held)
    · simp only [leaseMove, if_neg same]
      rw [leaseOf_updated deliveries found, if_neg same]

/-- The event store seen as the lease of one delivery. -/
def leaseProjection (Payload Time : Type) [LinearOrder Time] (consumerName eventId : String) :
    TransitionSystem.Projection (machine Payload Time).system (Lease.system String) where
  view store := store.leaseOf consumerName eventId
  move := leaseMove consumerName eventId
  holds := Leased
  initially := by
    rintro _ rfl
    exact ⟨fun delivery stored => (Table.not_mem_empty delivery stored).elim, rfl⟩
  preserved leased transition := leased.effect (step_effect transition)
  stutter := by
    rintro before ⟨call, reply⟩ after leased transition still
    have moved := (step_effect transition).lease leased consumerName eventId
    rwa [still] at moved
  advance := by
    rintro before ⟨call, reply⟩ after move leased transition made
    have moved := (step_effect transition).lease leased consumerName eventId
    rwa [made] at moved

/-! ## What the store promises -/

/-- A call handed an event to a worker of a consumer. -/
def ClaimedBy (entry : EventCall Payload Time × EventReply Payload)
    (consumerName eventId workerId : String) (attempt : Nat) : Prop :=
  ∃ eventKeys now leaseExpiresAt event, event.id = eventId ∧ event.attempt = attempt ∧
    entry = (.claimNextEvent consumerName eventKeys workerId now leaseExpiresAt, .claimed (some event))

/-- A worker's settle or release was accepted. -/
inductive HandedBackBy : EventCall Payload Time × EventReply Payload → String → String → String → Prop where
  | settled (consumerName eventId workerId : String) (deliveredAt : Time) :
      HandedBackBy (.settleEvent consumerName eventId workerId deliveredAt, .settled)
        consumerName eventId workerId
  | released (input : EventClaimRelease Time) :
      HandedBackBy (.releaseEvent input, .released) input.consumerName input.eventId input.workerId

/-- The event was delivered to the consumer, or given up as failed. -/
inductive Ends : EventCall Payload Time × EventReply Payload → String → String → Prop where
  | delivered (consumerName eventId workerId : String) (deliveredAt : Time) :
      Ends (.settleEvent consumerName eventId workerId deliveredAt, .settled) consumerName eventId
  | failed (input : EventClaimRelease Time) (terminal : input.terminal = true) :
      Ends (.releaseEvent input, .released) input.consumerName input.eventId

omit [LinearOrder Time] in
theorem HandedBackBy.move (handed : HandedBackBy entry consumerName eventId workerId) :
    ∃ move, leaseMove consumerName eventId entry = some move ∧
      (move = .surrender workerId ∨ move = .finish workerId) := by
  cases handed with
  | settled => exact ⟨.finish workerId, by simp [leaseMove], .inr rfl⟩
  | released input =>
    cases ending : input.terminal with
    | true => exact ⟨.finish input.workerId, by simp [leaseMove, ending], .inr rfl⟩
    | false => exact ⟨.surrender input.workerId, by simp [leaseMove, ending], .inl rfl⟩

omit [LinearOrder Time] in
theorem Ends.move (ends : Ends entry consumerName eventId) :
    ∃ workerId, leaseMove consumerName eventId entry = some (.finish workerId) := by
  cases ends with
  | delivered _ _ workerId _ => exact ⟨workerId, by simp [leaseMove]⟩
  | failed input terminal => exact ⟨input.workerId, by simp [leaseMove, terminal]⟩

omit [LinearOrder Time] in
theorem owned_eq_false (unheld : ¬ store.Holds consumerName eventId workerId) :
    store.owned consumerName eventId workerId = false := by
  rw [← Bool.not_eq_true, owned_iff]
  exact unheld

/-- The moves of a delivery's lease along a run. -/
theorem Run.lease (run : Run history store) (consumerName eventId : String) :
    (Lease.system String).Run (history.filterMap (leaseMove consumerName eventId))
      (store.leaseOf consumerName eventId) :=
  (leaseProjection Payload Time consumerName eventId).run run

theorem Run.attempt_eq (run : Run history store) (consumerName eventId : String) :
    (store.leaseOf consumerName eventId).attempt = (claimants history consumerName eventId).length := by
  have counted := Lease.attempt_eq (run.lease consumerName eventId)
  rwa [acquirers_leaseMove] at counted

theorem Run.holder_last (run : Run history store) (holds : store.Holds consumerName eventId workerId) :
    (claimants history consumerName eventId).getLast? = some workerId := by
  obtain ⟨delivery, found, running, held⟩ := holds
  rw [← acquirers_leaseMove]
  refine Lease.holder_last (run.lease consumerName eventId) ?_
  rw [leaseOf_found found]
  exact holds_phase running held

/-- A claim answers with one attempt more than the lease had. -/
theorem Effect.attempt {event : ClaimedChannelEvent Payload} {eventKeys : List String}
    {now leaseExpiresAt : Time}
    (effect : Effect before (.claimNextEvent consumerName eventKeys workerId now leaseExpiresAt)
      (.claimed (some event)) after) :
    event.attempt = (before.leaseOf consumerName event.id).attempt + 1 := by
  cases effect with
  | @claimedFirst _ _ _ _ _ _ row fresh =>
    have free : before.leaseOf consumerName row.id = Lease.fresh := by rw [leaseOf, fresh]
    exact (congrArg (·.attempt + 1) free).symm
  | @claimedAgain _ _ _ _ _ _ _ row found => exact (congrArg (·.attempt + 1) (leaseOf_found found)).symm

/-- A claim of one consumer leaves the deliveries to every other alone. -/
theorem Effect.others {eventKeys : List String} {now leaseExpiresAt : Time} {other : String}
    (effect : Effect before (.claimNextEvent consumerName eventKeys workerId now leaseExpiresAt)
      reply after) (different : other ≠ consumerName) (eventId : String) :
    after.delivery? other eventId = before.delivery? other eventId := by
  cases effect with
  | threw | idle => rfl
  | claimedFirst _ _ deliveries =>
    rw [delivery?, delivery?, Table.find?_insert deliveries, if_neg]
    intro same
    exact different (Prod.mk.inj same).1.symm
  | claimedAgain _ _ _ deliveries =>
    rw [delivery?, delivery?, deliveries, Table.find?_update_of_ne]
    intro same
    exact different (Prod.mk.inj same).1

/-- What the event store promises about deliveries. -/
structure Fenced (history : List (EventCall Payload Time × EventReply Payload))
    (store : EventStore Payload Time) : Prop where
  /-- At most one worker holds a delivery, and it is the last one that claimed it. -/
  holder : ∀ {consumerName eventId workerId another}, store.Holds consumerName eventId workerId →
    store.Holds consumerName eventId another →
      workerId = another ∧ (claimants history consumerName eventId).getLast? = some workerId
  /-- Each claim hands the event out as one more attempt than the last. -/
  numbered : ∀ {before entry after consumerName eventId workerId attempt},
    history = before ++ entry :: after → ClaimedBy entry consumerName eventId workerId attempt →
      attempt = (claimants before consumerName eventId).length + 1
  /-- Only the last claimant can settle or release a delivery. -/
  last : ∀ {before entry after consumerName eventId workerId}, history = before ++ entry :: after →
    HandedBackBy entry consumerName eventId workerId → (claimants before consumerName eventId).getLast? = some workerId
  /-- A worker that does not hold the delivery is turned away, and nothing is written. -/
  refused : ∀ {consumerName eventId workerId}, ¬ store.Holds consumerName eventId workerId →
    (∀ deliveredAt, perform (.settleEvent consumerName eventId workerId deliveredAt) store =
      (.threw s!"event {eventId} is not claimed by {workerId}", store)) ∧
    ∀ error availableAt terminal,
      perform (.releaseEvent ⟨consumerName, eventId, workerId, error, availableAt, terminal⟩) store =
        (.threw s!"event {eventId} is not claimed by {workerId}", store)
  /-- An earlier claimant does not hold the delivery. -/
  stale : ∀ {consumerName eventId workerId}, workerId ∈ (claimants history consumerName eventId).dropLast →
      ¬ store.Holds consumerName eventId workerId
  /-- A delivered or failed event is never claimed, settled or released again. -/
  ended : ∀ {before entry after consumerName eventId}, history = before ++ entry :: after →
    Ends entry consumerName eventId → ∀ later ∈ after,
      (∀ workerId attempt, ¬ ClaimedBy later consumerName eventId workerId attempt) ∧
      ∀ workerId, ¬ HandedBackBy later consumerName eventId workerId
  /-- A claim of one consumer changes no delivery to another. -/
  separate : ∀ {consumerName other} eventKeys workerId now leaseExpiresAt eventId, other ≠ consumerName →
      (perform (.claimNextEvent consumerName eventKeys workerId now leaseExpiresAt) store).2.delivery?
        other eventId = store.delivery? other eventId

/-- In every run whose claims use distinct worker ids, each delivery is fenced. -/
theorem events_run_fenced (run : Run history store) (distinct : ((claims history).map (·.2)).Nodup) :
    Fenced history store := by
  refine
    { holder := ?_, numbered := ?_, last := ?_, refused := ?_, stale := ?_, ended := ?_
      separate := ?_ }
  · intro consumerName eventId workerId another holds also
    have last := run.holder_last holds
    exact ⟨Option.some.inj (last.symm.trans (run.holder_last also)), last⟩
  · rintro before entry after consumerName eventId workerId attempt rfl
      ⟨eventKeys, now, leaseExpiresAt, event, rfl, rfl, rfl⟩
    obtain ⟨state, next, prior, transition, _⟩ := TransitionSystem.Run.cut run
    rw [(step_effect transition).attempt, Run.attempt_eq prior]
  · rintro before entry after consumerName eventId workerId rfl handed
    obtain ⟨move, made, moves⟩ := handed.move
    rw [← acquirers_leaseMove]
    exact Lease.projected_mover_last (leaseProjection Payload Time consumerName eventId) run made
      moves
  · intro consumerName eventId workerId unheld
    have refused := owned_eq_false unheld
    constructor
    · intro deliveredAt
      simp [perform, answer, settleEvent, refused]
    · intro error availableAt terminal
      simp [perform, answer, releaseEvent, refused]
  · intro consumerName eventId workerId listed holds
    have last := run.holder_last holds
    obtain ⟨earlier, split⟩ := List.getLast?_eq_some_iff.mp last
    have once := claimants_nodup distinct consumerName eventId
    rw [split, List.dropLast_concat] at listed
    rw [split] at once
    exact (List.nodup_append.mp once).2.2 workerId listed workerId (List.mem_singleton_self _) rfl
  · rintro before entry after consumerName eventId rfl ends later listed
    obtain ⟨workerId, made⟩ := ends.move
    have final : ∀ move, leaseMove consumerName eventId later = some move → move = .cancel :=
      Lease.projected_finished_forever (leaseProjection Payload Time consumerName eventId) run made
        later listed
    constructor
    · rintro another attempt ⟨eventKeys, now, leaseExpiresAt, event, rfl, _, rfl⟩
      have impossible := final (.acquire another) (by simp [leaseMove])
      cases impossible
    · intro another handed
      obtain ⟨move, made, rfl | rfl⟩ := handed.move
      · cases final _ made
      · cases final _ made
  · intro consumerName other eventKeys workerId now leaseExpiresAt eventId different
    exact (perform_effect rfl).others different eventId

/-- A message is claimed by two consumers, taken over from a lost worker and delivered. -/
def messageTakeover : List (EventCall String String) :=
  [.appendEvent "event:1"
      { kind := "message.received", source := ⟨"dws", none, none, none, none⟩, occurredAt := none
        eventKey := "im.message", deduplicationKey := "message:1", payload := "hello", raw := "" }
      "2026-01-01",
    .claimNextEvent "intake" ["im.message"] "worker:1" "2026-01-02" "2026-01-03",
    .claimNextEvent "audit" ["im.message"] "worker:2" "2026-01-02" "2026-01-03",
    .claimNextEvent "intake" ["im.message"] "worker:3" "2026-01-04" "2026-01-05",
    .settleEvent "intake" "event:1" "worker:1" "2026-01-04",
    .settleEvent "intake" "event:1" "worker:3" "2026-01-04"]

/-- The takeover leaves the message to the third worker, and the first is turned away. -/
theorem messageTakeover_fenced : claims ((machine String String).replay messageTakeover empty).1 =
        [(("intake", "event:1"), "worker:1"), (("audit", "event:1"), "worker:2"), (("intake", "event:1"), "worker:3")] ∧
      Fenced ((machine String String).replay messageTakeover empty).1
        ((machine String String).replay messageTakeover empty).2 :=
  ⟨by decide, events_run_fenced ((machine String String).replay_run messageTakeover) (by decide)⟩

end QuarkSelfAI.Storage.EventStore

import Mathlib.Data.List.MinMax
import Mathlib.Data.Prod.Lex
import QuarkSelfAI.Foundation.Text
import QuarkSelfAI.Storage.ActionLedger

/-!
# The event journal and its deliveries

Channel events are appended once per deduplication key, and each consumer holds
one delivery row for an event it has claimed, with the operations of
`SqliteAssistantStore`. The JSON columns are values of a type parameter and
timestamps are kept in any linear order, as in the other stores. `clock` is the
instant the database reads for itself during the call.
-/

namespace QuarkSelfAI.Storage

open Foundation

structure NormalizedChannelEvent (Payload : Type) where
  kind : String
  source : SourceRef
  occurredAt : Option String
  eventKey : String
  deduplicationKey : String
  payload : Payload
  raw : Payload
deriving DecidableEq

structure StoredEvent where
  id : String
  inserted : Bool

structure ClaimedChannelEvent (Payload : Type) where
  id : String
  event : NormalizedChannelEvent Payload
  attempt : Nat

structure EventClaimRelease (Time : Type) where
  consumerName : String
  eventId : String
  workerId : String
  error : String
  availableAt : Time
  terminal : Bool

/-! ## Rows -/

structure AssistantEvent (Payload Time : Type) where
  id : String
  event : NormalizedChannelEvent Payload
  receivedAt : Time
deriving DecidableEq

inductive DeliveryStatus where
  | pending
  | processing
  | delivered
  | failed
deriving DecidableEq

structure EventDelivery (Time : Type) where
  consumerName : String
  eventId : String
  status : DeliveryStatus
  attempt : Nat
  availableAt : Time
  workerId : Option String
  leaseExpiresAt : Option Time
  lastError : Option String
  deliveredAt : Option Time
deriving DecidableEq

/-- The primary key of `event_delivery`. -/
def EventDelivery.key {Time : Type} (delivery : EventDelivery Time) : String × String :=
  (delivery.consumerName, delivery.eventId)

structure EventStore (Payload Time : Type) where
  events : Table (@AssistantEvent.id Payload Time)
  deliveries : Table (@EventDelivery.key Time)

namespace EventStore

variable {Payload Time : Type}

instance [DecidableEq Payload] [DecidableEq Time] : DecidableEq (EventStore Payload Time) :=
  fun left right =>
    decidable_of_iff (left.events = right.events ∧ left.deliveries = right.deliveries) (by
      cases left
      cases right
      simp)

def empty : EventStore Payload Time := ⟨.empty, .empty⟩

/-- The delivery of an event to a consumer. -/
def delivery? (store : EventStore Payload Time) (consumerName eventId : String) : Option (EventDelivery Time) :=
  store.deliveries.find? (consumerName, eventId)

/-! ## appendEvent -/

/-- `ON CONFLICT (deduplication_key) DO NOTHING`; a taken id is an error. -/
def appendEvent (id : String) (event : NormalizedChannelEvent Payload) (clock : Time)
    (store : EventStore Payload Time) : Except String StoredEvent × EventStore Payload Time :=
  match store.events.rows.find? fun row => row.event.deduplicationKey = event.deduplicationKey with
  | some existing => (.ok { id := existing.id, inserted := false }, store)
  | none =>
    match store.events.insertOrThrow { id, event, receivedAt := clock } "assistant_event.id" with
    | .ok events => (.ok { id, inserted := true }, { store with events })
    | .error message => (.error message, store)

/-! ## claimNextEvent -/

section Claim

variable [LinearOrder Time]

/-- A delivery row that may be claimed: it waits, or its lease has run out. -/
def deliveryOpen (now : Time) (delivery : EventDelivery Time) : Bool :=
  match delivery.status with
  | .pending => delivery.availableAt ≤ now
  | .processing =>
    match delivery.leaseExpiresAt with
    | none => false
    | some leaseExpiresAt => leaseExpiresAt ≤ now
  | _ => false

/-- The `WHERE` clause on an event with its outer-joined delivery. -/
def claimable (store : EventStore Payload Time) (consumerName : String) (eventKeys : List String)
    (now : Time) (row : AssistantEvent Payload Time) : Bool :=
  eventKeys.contains row.event.eventKey &&
    match store.delivery? consumerName row.id with
    | none => true
    | some delivery => deliveryOpen now delivery

/-- `ORDER BY received_at, id LIMIT 1`. -/
def claimCandidate (store : EventStore Payload Time) (consumerName : String)
    (eventKeys : List String) (now : Time) : Option (AssistantEvent Payload Time) :=
  (store.events.rows.filter (store.claimable consumerName eventKeys now)).argmin fun row =>
    toLex (row.receivedAt, row.id)

omit [LinearOrder Time] in
/-- The delivery row of a first claim. -/
def firstDelivery (consumerName eventId workerId : String) (now leaseExpiresAt : Time) : EventDelivery Time :=
  { consumerName, eventId, status := .processing, attempt := 1, availableAt := now
    workerId := some workerId, leaseExpiresAt := some leaseExpiresAt, lastError := none
    deliveredAt := none }

omit [LinearOrder Time] in
/-- What `DO UPDATE` writes over a delivery row. -/
def claimedDelivery (workerId : String) (leaseExpiresAt : Time) (delivery : EventDelivery Time) : EventDelivery Time :=
  { delivery with
    status := .processing, attempt := delivery.attempt + 1, workerId := some workerId
    leaseExpiresAt := some leaseExpiresAt }

omit [LinearOrder Time] in
@[simp] theorem claimedDelivery_key (workerId : String) (leaseExpiresAt : Time) (delivery : EventDelivery Time) :
    (claimedDelivery workerId leaseExpiresAt delivery).key = delivery.key := rfl

/-- The upsert of a claim; nothing when its own `WHERE` leaves the row alone. -/
def claimDelivery (consumerName eventId workerId : String) (now leaseExpiresAt : Time)
    (deliveries : Table (@EventDelivery.key Time)) : Option (Table (@EventDelivery.key Time)) :=
  match deliveries.find? (consumerName, eventId) with
  | none => deliveries.insert? (firstDelivery consumerName eventId workerId now leaseExpiresAt)
  | some delivery =>
    if deliveryOpen now delivery then
      some (deliveries.update (consumerName, eventId) (claimedDelivery workerId leaseExpiresAt)
        (claimedDelivery_key workerId leaseExpiresAt))
    else none

omit [LinearOrder Time] in
/-- An empty `occurred_at` is left out. -/
def claimedEvent (row : AssistantEvent Payload Time) (attempt : Nat) : ClaimedChannelEvent Payload :=
  { id := row.id, attempt
    event := { row.event with occurredAt := row.event.occurredAt.filter (· ≠ "") } }

def claimBody (consumerName : String) (eventKeys : List String) (workerId : String)
    (now leaseExpiresAt : Time) (store : EventStore Payload Time) :
    Except String (Option (ClaimedChannelEvent Payload) × EventStore Payload Time) :=
  match store.claimCandidate consumerName eventKeys now with
  | none => .ok (none, store)
  | some row =>
    match claimDelivery consumerName row.id workerId now leaseExpiresAt store.deliveries with
    | none => .ok (none, store)
    | some deliveries =>
      match deliveries.find? (consumerName, row.id) with
      | none => .error "Cannot read properties of undefined (reading 'attempt')"
      | some delivery => .ok (some (claimedEvent row delivery.attempt), { store with deliveries })

def claimNextEvent (consumerName : String) (eventKeys : List String) (workerId : String)
    (now leaseExpiresAt : Time) (store : EventStore Payload Time) :
    Except String (Option (ClaimedChannelEvent Payload)) × EventStore Payload Time :=
  if isBlank consumerName || isBlank workerId || eventKeys.isEmpty then
    (.error "event claim requires consumer, worker, and event keys", store)
  else transaction (claimBody consumerName eventKeys workerId now leaseExpiresAt) store

end Claim

/-! ## settleEvent and releaseEvent -/

/-- `status = 'processing' AND worker_id = ?` on the row of a consumer and an event. -/
def owned (store : EventStore Payload Time) (consumerName eventId workerId : String) : Bool :=
  match store.delivery? consumerName eventId with
  | none => false
  | some delivery => delivery.status = .processing ∧ delivery.workerId = some workerId

def settledDelivery (deliveredAt : Time) (delivery : EventDelivery Time) : EventDelivery Time :=
  { delivery with
    status := .delivered, deliveredAt := some deliveredAt, workerId := none
    leaseExpiresAt := none }

@[simp] theorem settledDelivery_key (deliveredAt : Time) (delivery : EventDelivery Time) :
    (settledDelivery deliveredAt delivery).key = delivery.key := rfl

def settleEvent (consumerName eventId workerId : String) (deliveredAt : Time)
    (store : EventStore Payload Time) : Except String Unit × EventStore Payload Time :=
  if store.owned consumerName eventId workerId then
    (.ok (), { store with
      deliveries := store.deliveries.update (consumerName, eventId) (settledDelivery deliveredAt)
        (settledDelivery_key deliveredAt) })
  else (.error s!"event {eventId} is not claimed by {workerId}", store)

def releasedDelivery (input : EventClaimRelease Time) (delivery : EventDelivery Time) : EventDelivery Time :=
  { delivery with
    status := if input.terminal then .failed else .pending, availableAt := input.availableAt
    lastError := some (utf16Take 4096 input.error), workerId := none, leaseExpiresAt := none }

@[simp] theorem releasedDelivery_key (input : EventClaimRelease Time)
    (delivery : EventDelivery Time) : (releasedDelivery input delivery).key = delivery.key := rfl

def releaseEvent (input : EventClaimRelease Time) (store : EventStore Payload Time) :
    Except String Unit × EventStore Payload Time :=
  if store.owned input.consumerName input.eventId input.workerId then
    (.ok (), { store with
      deliveries := store.deliveries.update (input.consumerName, input.eventId)
        (releasedDelivery input) (releasedDelivery_key input) })
  else (.error s!"event {input.eventId} is not claimed by {input.workerId}", store)

/-! ## The event store as a service -/

end EventStore

inductive EventCall (Payload Time : Type) where
  | appendEvent (id : String) (event : NormalizedChannelEvent Payload) (clock : Time)
  | claimNextEvent (consumerName : String) (eventKeys : List String) (workerId : String)
      (now leaseExpiresAt : Time)
  | settleEvent (consumerName eventId workerId : String) (deliveredAt : Time)
  | releaseEvent (input : EventClaimRelease Time)

inductive EventReply (Payload : Type) where
  | appended (stored : StoredEvent)
  | claimed (event : Option (ClaimedChannelEvent Payload))
  | settled
  | released
  | threw (message : String)

namespace EventStore

variable {Payload Time : Type}

/-- Wrap the outcome of an operation as a reply. -/
def answer {α : Type} (reply : α → EventReply Payload) (outcome : Except String α × EventStore Payload Time) :
    EventReply Payload × EventStore Payload Time :=
  match outcome with
  | (.ok result, store) => (reply result, store)
  | (.error message, store) => (.threw message, store)

variable [LinearOrder Time]

def perform (call : EventCall Payload Time) (store : EventStore Payload Time) :
    EventReply Payload × EventStore Payload Time :=
  match call with
  | .appendEvent id event clock => answer .appended (store.appendEvent id event clock)
  | .claimNextEvent consumerName eventKeys workerId now leaseExpiresAt =>
    answer .claimed (store.claimNextEvent consumerName eventKeys workerId now leaseExpiresAt)
  | .settleEvent consumerName eventId workerId deliveredAt =>
    answer (fun _ => .settled) (store.settleEvent consumerName eventId workerId deliveredAt)
  | .releaseEvent input => answer (fun _ => .released) (store.releaseEvent input)

def machine (Payload Time : Type) [LinearOrder Time] :
    Machine (EventStore Payload Time) (EventCall Payload Time) (EventReply Payload) where
  initial := empty
  perform := perform

/-- A run of the event store from the empty journal, as the calls it answered. -/
abbrev Run (history : List (EventCall Payload Time × EventReply Payload)) (store : EventStore Payload Time) : Prop :=
  (machine Payload Time).system.Run history store

/-! ## What one call can do -/

inductive Effect (before : EventStore Payload Time) :
    EventCall Payload Time → EventReply Payload → EventStore Payload Time → Prop where
  | threw {call} (message : String) : Effect before call (.threw message) before
  | appended {id event clock stored after} (deliveries : after.deliveries = before.deliveries) :
      Effect before (.appendEvent id event clock) (.appended stored) after
  | idle {consumerName eventKeys workerId now leaseExpiresAt} :
      Effect before (.claimNextEvent consumerName eventKeys workerId now leaseExpiresAt)
        (.claimed none) before
  | claimedFirst {consumerName eventKeys workerId now leaseExpiresAt after}
      {row : AssistantEvent Payload Time}
      (fresh : before.delivery? consumerName row.id = none)
      (events : after.events = before.events)
      (deliveries : before.deliveries.insert?
        (firstDelivery consumerName row.id workerId now leaseExpiresAt) = some after.deliveries) :
      Effect before (.claimNextEvent consumerName eventKeys workerId now leaseExpiresAt)
        (.claimed (some (claimedEvent row 1))) after
  | claimedAgain {consumerName eventKeys workerId now leaseExpiresAt delivery after}
      {row : AssistantEvent Payload Time}
      (found : before.delivery? consumerName row.id = some delivery)
      (opened : deliveryOpen now delivery) (events : after.events = before.events)
      (deliveries : after.deliveries = before.deliveries.update (consumerName, row.id)
        (claimedDelivery workerId leaseExpiresAt) (claimedDelivery_key workerId leaseExpiresAt)) :
      Effect before (.claimNextEvent consumerName eventKeys workerId now leaseExpiresAt)
        (.claimed (some (claimedEvent row (delivery.attempt + 1)))) after
  | settled {consumerName eventId workerId deliveredAt delivery after}
      (found : before.delivery? consumerName eventId = some delivery)
      (running : delivery.status = .processing) (held : delivery.workerId = some workerId)
      (events : after.events = before.events)
      (deliveries : after.deliveries = before.deliveries.update (consumerName, eventId)
        (settledDelivery deliveredAt) (settledDelivery_key deliveredAt)) :
      Effect before (.settleEvent consumerName eventId workerId deliveredAt) .settled after
  | released {input delivery after}
      (found : before.delivery? input.consumerName input.eventId = some delivery)
      (running : delivery.status = .processing) (held : delivery.workerId = some input.workerId)
      (events : after.events = before.events)
      (deliveries : after.deliveries = before.deliveries.update (input.consumerName, input.eventId)
        (releasedDelivery input) (releasedDelivery_key input)) :
      Effect before (.releaseEvent input) .released after

omit [LinearOrder Time] in
theorem owned_iff {store : EventStore Payload Time} {consumerName eventId workerId : String} :
    store.owned consumerName eventId workerId ↔ ∃ delivery, store.delivery? consumerName eventId = some delivery ∧
        delivery.status = .processing ∧ delivery.workerId = some workerId := by
  unfold owned
  split
  · rename_i missing
    simp [missing]
  · rename_i delivery found
    simp [found]

variable {before after : EventStore Payload Time} {reply : EventReply Payload} {consumerName workerId : String}

theorem appendEvent_effect {id : String} {event : NormalizedChannelEvent Payload} {clock : Time}
    (performed : answer .appended (before.appendEvent id event clock) = (reply, after)) :
    Effect before (.appendEvent id event clock) reply after := by
  unfold appendEvent at performed
  split at performed
  · cases performed
    exact .appended rfl
  · split at performed
    · cases performed
      exact .appended rfl
    · cases performed
      exact .threw _

theorem claimBody_effect {eventKeys : List String}
    {now leaseExpiresAt : Time} {event : Option (ClaimedChannelEvent Payload)}
    (done : claimBody consumerName eventKeys workerId now leaseExpiresAt before = .ok (event, after)) :
    Effect before (.claimNextEvent consumerName eventKeys workerId now leaseExpiresAt)
      (.claimed event) after := by
  unfold claimBody at done
  split at done
  · cases done
    exact .idle
  · rename_i row _
    split at done
    · cases done
      exact .idle
    · rename_i deliveries written
      unfold claimDelivery at written
      split at written
      · rename_i fresh
        have stored : deliveries.find? (consumerName, row.id) =
            some (firstDelivery consumerName row.id workerId now leaseExpiresAt) :=
          Table.find?_new written
        rw [stored] at done
        cases done
        exact .claimedFirst fresh rfl written
      · rename_i delivery found
        split at written
        · rename_i opened
          cases written
          rw [Table.find?_update_self, found, Option.map_some] at done
          cases done
          exact .claimedAgain found opened rfl rfl
        · cases written

theorem claimNextEvent_effect {eventKeys : List String}
    {now leaseExpiresAt : Time}
    (performed : answer .claimed
      (before.claimNextEvent consumerName eventKeys workerId now leaseExpiresAt) = (reply, after)) :
    Effect before (.claimNextEvent consumerName eventKeys workerId now leaseExpiresAt) reply after := by
  unfold claimNextEvent at performed
  split at performed
  · cases performed
    exact .threw _
  · unfold transaction at performed
    split at performed
    · rename_i event next done
      cases performed
      exact claimBody_effect done
    · cases performed
      exact .threw _

/-- Every answered call has one of the listed effects. -/
theorem perform_effect {call : EventCall Payload Time}
    (performed : perform call before = (reply, after)) : Effect before call reply after := by
  cases call with
  | appendEvent id event clock => exact appendEvent_effect performed
  | claimNextEvent consumerName eventKeys workerId now leaseExpiresAt => exact claimNextEvent_effect performed
  | settleEvent consumerName eventId workerId deliveredAt =>
    simp only [perform, settleEvent] at performed
    split at performed
    · rename_i holds
      obtain ⟨delivery, found, running, held⟩ := owned_iff.mp holds
      cases performed
      exact .settled found running held rfl rfl
    · cases performed
      exact .threw _
  | releaseEvent input =>
    simp only [perform, releaseEvent] at performed
    split at performed
    · rename_i holds
      obtain ⟨delivery, found, running, held⟩ := owned_iff.mp holds
      cases performed
      exact .released found running held rfl rfl
    · cases performed
      exact .threw _

theorem step_effect {entry : EventCall Payload Time × EventReply Payload}
    (transition : (machine Payload Time).system.Step before entry after) : Effect before entry.1 entry.2 after :=
  perform_effect transition

end EventStore

end QuarkSelfAI.Storage

import Mathlib.Data.List.MinMax
import Mathlib.Data.List.Sort
import Mathlib.Data.Prod.Lex
import QuarkSelfAI.Foundation.Table
import QuarkSelfAI.Foundation.Transition

/-!
# The durable workflow store

Workflow instances, their event and transition logs, and the effects they
requested, with the store operations of `SqliteAssistantStore`. The JSON columns
are values of a type parameter: `canonicalJson` is compared for equality and
parsed back, never inspected. `clock` is the instant the database reads for
itself during the call; `collate` is the host's `localeCompare` order.
-/

namespace QuarkSelfAI.Storage

open Foundation

inductive WorkflowStatus where
  | running
  | waiting
  | completed
  | failed
deriving DecidableEq

structure WorkflowEffectInput (Payload Time : Type) where
  id : String
  kind : String
  payload : Payload
  availableAt : Option Time
deriving DecidableEq

structure CreateWorkflowInput (State Payload Time : Type) where
  id : String
  kind : String
  definitionVersion : Nat
  status : WorkflowStatus
  state : State
  wakeAt : Option Time
  effects : List (WorkflowEffectInput Payload Time)
deriving DecidableEq

structure WorkflowEvent (Payload Time : Type) where
  id : String
  type : String
  occurredAt : Time
  payload : Payload
deriving DecidableEq

/-- An absent `wakeAt` keeps the stored wake time, `some none` clears it. -/
structure AdvanceWorkflowInput (State Payload Time : Type) where
  instanceId : String
  expectedRevision : Nat
  event : WorkflowEvent Payload Time
  status : WorkflowStatus
  state : State
  wakeAt : Option (Option Time)
  effects : List (WorkflowEffectInput Payload Time)
deriving DecidableEq

structure ClaimedWorkflowEffect (Payload : Type) where
  id : String
  instanceId : String
  kind : String
  payload : Payload
  attempt : Nat
deriving DecidableEq

/-! ## Rows -/

structure WorkflowInstance (State Time : Type) where
  id : String
  kind : String
  definitionVersion : Nat
  status : WorkflowStatus
  state : State
  revision : Nat
  wakeAt : Option Time
deriving DecidableEq

structure WorkflowEventRow (Payload Time : Type) where
  instanceId : String
  event : WorkflowEvent Payload Time
  processedRevision : Nat

structure WorkflowTransition (State : Type) where
  instanceId : String
  revision : Nat
  eventId : String
  fromStatus : WorkflowStatus
  toStatus : WorkflowStatus
  state : State

inductive EffectStatus where
  | pending
  | dispatching
  | delivered
  | failed
deriving DecidableEq

structure WorkflowEffectRow (Payload Time : Type) where
  id : String
  instanceId : String
  kind : String
  payload : Payload
  status : EffectStatus
  attempt : Nat
  availableAt : Time
  leaseOwner : Option String
  leaseExpiresAt : Option Time
  lastError : Option String
  deliveredAt : Option Time
  createdAt : Time
deriving DecidableEq

/-- The primary key of `workflow_event`. -/
def WorkflowEventRow.key {Payload Time : Type} (row : WorkflowEventRow Payload Time) : String × String :=
  (row.instanceId, row.event.id)

/-- The primary key of `workflow_transition`. -/
def WorkflowTransition.key {State : Type} (row : WorkflowTransition State) : String × Nat :=
  (row.instanceId, row.revision)

structure WorkflowStore (State Payload Time : Type) where
  instances : Table (@WorkflowInstance.id State Time)
  events : Table (@WorkflowEventRow.key Payload Time)
  transitions : Table (@WorkflowTransition.key State)
  effects : Table (@WorkflowEffectRow.id Payload Time)

namespace WorkflowStore

variable {State Payload Time : Type}

def empty : WorkflowStore State Payload Time := ⟨.empty, .empty, .empty, .empty⟩

def workflow (store : WorkflowStore State Payload Time) (id : String) : Option (WorkflowInstance State Time) :=
  store.instances.find? id

/-! ## createWorkflow -/

def createdRow (input : CreateWorkflowInput State Payload Time) : WorkflowInstance State Time :=
  { id := input.id, kind := input.kind, definitionVersion := input.definitionVersion
    status := input.status, state := input.state, revision := 0, wakeAt := input.wakeAt }

def effectRow (instanceId : String) (clock : Time) (effect : WorkflowEffectInput Payload Time) :
    WorkflowEffectRow Payload Time :=
  { id := effect.id, instanceId, kind := effect.kind, payload := effect.payload, status := .pending
    attempt := 0, availableAt := effect.availableAt.getD clock, leaseOwner := none
    leaseExpiresAt := none, lastError := none, deliveredAt := none, createdAt := clock }

@[simp] theorem createdRow_id (input : CreateWorkflowInput State Payload Time) : (createdRow input).id = input.id := rfl

@[simp] theorem effectRow_id (instanceId : String) (clock : Time) (effect : WorkflowEffectInput Payload Time) :
    (effectRow instanceId clock effect).id = effect.id := rfl

def insertWorkflowEffects (instanceId : String) (clock : Time) :
    List (WorkflowEffectInput Payload Time) → Table (@WorkflowEffectRow.id Payload Time) →
      Except String (Table (@WorkflowEffectRow.id Payload Time))
  | [], table => .ok table
  | effect :: rest, table => do
    let next ← table.insertOrThrow (effectRow instanceId clock effect) "workflow_effect.id"
    insertWorkflowEffects instanceId clock rest next

section Create

variable [DecidableEq State] [DecidableEq Payload] [DecidableEq Time]

/-- The stored effects of an instance, `ORDER BY id`. -/
def storedEffects (store : WorkflowStore State Payload Time) (instanceId : String) :
    List (WorkflowEffectRow Payload Time) :=
  (store.effects.rows.filter (·.instanceId = instanceId)).insertionSort
    fun left right => left.id ≤ right.id

def effectMatches (stored : WorkflowEffectRow Payload Time) (wanted : WorkflowEffectInput Payload Time) : Bool :=
  stored.id = wanted.id ∧ stored.kind = wanted.kind ∧ stored.payload = wanted.payload ∧
    (wanted.availableAt = none ∨ wanted.availableAt = some stored.availableAt)

/-- The effects of a repeated creation have to be the stored ones. -/
def effectsMatch (collate : String → String → Bool) (store : WorkflowStore State Payload Time)
    (input : CreateWorkflowInput State Payload Time) : Bool :=
  let effects := store.storedEffects input.id
  let expected := input.effects.insertionSort fun left right => collate left.id right.id
  effects.length = expected.length ∧ (effects.zip expected).all fun pair => effectMatches pair.1 pair.2

def createBody (collate : String → String → Bool) (input : CreateWorkflowInput State Payload Time)
    (clock : Time) (store : WorkflowStore State Payload Time) :
    Except String ((Bool × WorkflowInstance State Time) × WorkflowStore State Payload Time) :=
  match store.instances.insert? (createdRow input) with
  | none =>
    match store.instances.find? input.id with
    | none => .error s!"workflow {input.id} was not persisted"
    | some row =>
      if row.kind ≠ input.kind ∨ row.definitionVersion ≠ input.definitionVersion ∨
          row.status ≠ input.status ∨ row.state ≠ input.state ∨ row.wakeAt ≠ input.wakeAt then
        .error s!"workflow {input.id} already exists with different durable content"
      else if ¬ store.effectsMatch collate input then
        .error s!"workflow {input.id} already exists with different durable effects"
      else .ok ((false, row), store)
  | some instances => do
    let effects ← insertWorkflowEffects input.id clock input.effects store.effects
    .ok ((true, createdRow input), { store with instances, effects })

def createWorkflow (collate : String → String → Bool) (input : CreateWorkflowInput State Payload Time) (clock : Time)
    (store : WorkflowStore State Payload Time) :
    Except String (Bool × WorkflowInstance State Time) × WorkflowStore State Payload Time :=
  transaction (createBody collate input clock) store

end Create

/-! ## advanceWorkflow -/

def advancedRow (input : AdvanceWorkflowInput State Payload Time)
    (current : WorkflowInstance State Time) : WorkflowInstance State Time :=
  { current with
    status := input.status, state := input.state, revision := input.expectedRevision + 1
    wakeAt := input.wakeAt.getD current.wakeAt }

def eventRow (input : AdvanceWorkflowInput State Payload Time) : WorkflowEventRow Payload Time :=
  { instanceId := input.instanceId, event := input.event
    processedRevision := input.expectedRevision + 1 }

def transitionRow (input : AdvanceWorkflowInput State Payload Time)
    (current : WorkflowInstance State Time) : WorkflowTransition State :=
  { instanceId := input.instanceId, revision := input.expectedRevision + 1
    eventId := input.event.id, fromStatus := current.status, toStatus := input.status
    state := input.state }

@[simp] theorem advancedRow_id (input : AdvanceWorkflowInput State Payload Time)
    (current : WorkflowInstance State Time) : (advancedRow input current).id = current.id := rfl

@[simp] theorem eventRow_key (input : AdvanceWorkflowInput State Payload Time) :
    (eventRow input).key = (input.instanceId, input.event.id) := rfl

def advanceBody (input : AdvanceWorkflowInput State Payload Time) (clock : Time)
    (store : WorkflowStore State Payload Time) :
    Except String ((Bool × WorkflowInstance State Time) × WorkflowStore State Payload Time) :=
  match store.instances.find? input.instanceId with
  | none => .error s!"workflow {input.instanceId} does not exist"
  | some current =>
    match store.events.find? (input.instanceId, input.event.id) with
    | some _ => .ok ((false, current), store)
    | none =>
      if current.revision ≠ input.expectedRevision then
        .error s!"workflow {input.instanceId} revision conflict"
      else do
        let events ← store.events.insertOrThrow (eventRow input)
          "workflow_event.instance_id, workflow_event.event_id"
        let instances := store.instances.update input.instanceId (advancedRow input) fun _ => rfl
        let transitions ← store.transitions.insertOrThrow (transitionRow input current)
          "workflow_transition.instance_id, workflow_transition.revision"
        let effects ← insertWorkflowEffects input.instanceId clock input.effects store.effects
        .ok ((true, advancedRow input current), { instances, events, transitions, effects })

def advanceWorkflow (input : AdvanceWorkflowInput State Payload Time) (clock : Time)
    (store : WorkflowStore State Payload Time) :
    Except String (Bool × WorkflowInstance State Time) × WorkflowStore State Payload Time :=
  transaction (advanceBody input clock) store

/-! ## Due instances -/

section Due

variable [LinearOrder Time]

/-- `wake_at IS NOT NULL AND wake_at <= now`. -/
def wakeReached (now : Time) : Option Time → Bool
  | none => false
  | some wakeAt => wakeAt ≤ now

/-- `status IN ('running', 'waiting') AND wake_at IS NOT NULL AND wake_at <= now`. -/
def due (now : Time) (current : WorkflowInstance State Time) : Bool :=
  (current.status = .running ∨ current.status = .waiting) ∧ wakeReached now current.wakeAt

/-- `ORDER BY wake_at, id`. -/
def wakesBefore (left right : WorkflowInstance State Time) : Bool :=
  match left.wakeAt, right.wakeAt with
  | some one, some other => one < other ∨ (one = other ∧ left.id ≤ right.id)
  | _, _ => true

def dueWorkflows (store : WorkflowStore State Payload Time) (now : Time) (limit : Nat) :
    List (WorkflowInstance State Time) :=
  ((store.instances.rows.filter (due now)).insertionSort
    fun left right => wakesBefore left right).take limit

end Due

/-! ## Effects -/

section Effects

/-- `UPDATE … WHERE id = ? AND status = 'dispatching' AND lease_owner = ?`. -/
def ownedEffect (store : WorkflowStore State Payload Time) (effectId workerId : String) :
    Option (WorkflowEffectRow Payload Time) :=
  (store.effects.find? effectId).filter fun effect => effect.status = .dispatching ∧ effect.leaseOwner = some workerId

def settledEffect (deliveredAt : Time) (effect : WorkflowEffectRow Payload Time) : WorkflowEffectRow Payload Time :=
  { effect with
    status := .delivered, deliveredAt := some deliveredAt, leaseOwner := none
    leaseExpiresAt := none }

def settleWorkflowEffect (effectId workerId : String) (deliveredAt : Time) (store : WorkflowStore State Payload Time) :
    Except String Unit × WorkflowStore State Payload Time :=
  match store.ownedEffect effectId workerId with
  | none => (.error s!"worker {workerId} does not own workflow effect {effectId}", store)
  | some _ =>
    (.ok (), { store with
      effects := store.effects.update effectId (settledEffect deliveredAt) fun _ => rfl })

def releasedEffect (error : String) (availableAt : Time) (terminal : Bool)
    (effect : WorkflowEffectRow Payload Time) : WorkflowEffectRow Payload Time :=
  { effect with
    status := if terminal then .failed else .pending, availableAt, lastError := some error
    leaseOwner := none, leaseExpiresAt := none }

def releaseWorkflowEffect (effectId workerId error : String) (availableAt : Time) (terminal : Bool)
    (store : WorkflowStore State Payload Time) : Except String Unit × WorkflowStore State Payload Time :=
  match store.ownedEffect effectId workerId with
  | none => (.error s!"worker {workerId} does not own workflow effect {effectId}", store)
  | some _ =>
    (.ok (), { store with
      effects := store.effects.update effectId (releasedEffect error availableAt terminal)
        fun _ => rfl })

variable [LinearOrder Time]

/-- `status = 'pending' OR (status = 'dispatching' AND lease_expires_at <= now)`. -/
def effectOpen (now : Time) (effect : WorkflowEffectRow Payload Time) : Bool :=
  match effect.status with
  | .pending => true
  | .dispatching =>
    match effect.leaseExpiresAt with
    | none => false
    | some leaseExpiresAt => leaseExpiresAt ≤ now
  | _ => false

def effectClaimable (now : Time) (effect : WorkflowEffectRow Payload Time) : Bool :=
  effect.availableAt ≤ now ∧ effectOpen now effect

/-- `ORDER BY available_at, created_at LIMIT 1`, ties in insertion order. -/
def nextEffect (store : WorkflowStore State Payload Time) (now : Time) : Option (WorkflowEffectRow Payload Time) :=
  (store.effects.rows.filter (effectClaimable now)).argmin fun effect => toLex (effect.availableAt, effect.createdAt)

omit [LinearOrder Time] in
def dispatchingEffect (workerId : String) (leaseExpiresAt : Time)
    (effect : WorkflowEffectRow Payload Time) : WorkflowEffectRow Payload Time :=
  { effect with
    status := .dispatching, attempt := effect.attempt + 1, leaseOwner := some workerId
    leaseExpiresAt := some leaseExpiresAt }

omit [LinearOrder Time] in
def claimedEffect (effect : WorkflowEffectRow Payload Time) : ClaimedWorkflowEffect Payload :=
  { id := effect.id, instanceId := effect.instanceId, kind := effect.kind
    payload := effect.payload, attempt := effect.attempt + 1 }

def claimNextWorkflowEffect (workerId : String) (now leaseExpiresAt : Time) (store : WorkflowStore State Payload Time) :
    Except String (Option (ClaimedWorkflowEffect Payload)) × WorkflowStore State Payload Time :=
  match store.nextEffect now with
  | none => (.ok none, store)
  | some effect =>
    (.ok (some (claimedEffect effect)), { store with
      effects := store.effects.update effect.id (dispatchingEffect workerId leaseExpiresAt)
        fun _ => rfl })

end Effects

end WorkflowStore

/-! ## The workflow store as a service -/

inductive StoreCall (State Payload Time : Type) where
  | createWorkflow (input : CreateWorkflowInput State Payload Time) (clock : Time)
  | advanceWorkflow (input : AdvanceWorkflowInput State Payload Time) (clock : Time)
  | claimNextWorkflowEffect (workerId : String) (now leaseExpiresAt : Time)
  | settleWorkflowEffect (effectId workerId : String) (deliveredAt : Time)
  | releaseWorkflowEffect (effectId workerId error : String) (availableAt : Time) (terminal : Bool)
deriving DecidableEq

inductive StoreReply (State Payload Time : Type) where
  | created (inserted : Bool) (current : WorkflowInstance State Time)
  | advanced (advanced : Bool) (current : WorkflowInstance State Time)
  | claimed (effect : Option (ClaimedWorkflowEffect Payload))
  | settled
  | released
  | threw (message : String)
deriving DecidableEq

namespace WorkflowStore

variable {State Payload Time : Type}

def answer {α : Type} (reply : α → StoreReply State Payload Time)
    (outcome : Except String α × WorkflowStore State Payload Time) :
    StoreReply State Payload Time × WorkflowStore State Payload Time :=
  match outcome with
  | (.ok result, store) => (reply result, store)
  | (.error message, store) => (.threw message, store)

variable [DecidableEq State] [DecidableEq Payload] [LinearOrder Time]

def perform (collate : String → String → Bool) (call : StoreCall State Payload Time)
    (store : WorkflowStore State Payload Time) : StoreReply State Payload Time × WorkflowStore State Payload Time :=
  match call with
  | .createWorkflow input clock =>
    answer (fun result => .created result.1 result.2) (store.createWorkflow collate input clock)
  | .advanceWorkflow input clock =>
    answer (fun result => .advanced result.1 result.2) (store.advanceWorkflow input clock)
  | .claimNextWorkflowEffect workerId now leaseExpiresAt =>
    answer .claimed (store.claimNextWorkflowEffect workerId now leaseExpiresAt)
  | .settleWorkflowEffect effectId workerId deliveredAt =>
    answer (fun _ => .settled) (store.settleWorkflowEffect effectId workerId deliveredAt)
  | .releaseWorkflowEffect effectId workerId error availableAt terminal =>
    answer (fun _ => .released)
      (store.releaseWorkflowEffect effectId workerId error availableAt terminal)

def machine (State Payload Time : Type) [DecidableEq State] [DecidableEq Payload]
    [LinearOrder Time] (collate : String → String → Bool) :
    Machine (WorkflowStore State Payload Time) (StoreCall State Payload Time)
      (StoreReply State Payload Time) where
  initial := empty
  perform := perform collate

/-- A run of the store from empty tables, as the calls it answered. -/
abbrev Run (collate : String → String → Bool)
    (history : List (StoreCall State Payload Time × StoreReply State Payload Time))
    (store : WorkflowStore State Payload Time) : Prop :=
  (machine State Payload Time collate).system.Run history store

end WorkflowStore

end QuarkSelfAI.Storage

import QuarkSelfAI.Workflow.Contracts

/-!
# The durable workflow runtime

`DurableWorkflowRuntime` over the workflow store: `start`, `ensure`, `dispatch`
and one pass of `runOnce`, each as a function of the store it finds. `now` is the
instant a pass is run for and `clock` the instant the process and the database
read during it. A handler may write to the store before it returns or throws.
-/

namespace QuarkSelfAI.Workflow

open Foundation Storage

variable {State : Type}

abbrev Instance (State : Type) := WorkflowInstance State Timestamp

abbrev Store (State : Type) := WorkflowStore State JsValue Timestamp

abbrev ClaimedEffect := ClaimedWorkflowEffect JsValue

/-- A `WorkflowEffectHandler`; a handler that returns nothing returns `undefined`. -/
abbrev EffectHandler (State : Type) := ClaimedEffect → Store State → Except String JsValue × Store State

structure WorkflowRuntimeConfig where
  workerId : String
  leaseMs : Option Nat
  retryDelayMs : Option Nat
  maxAttempts : Option Nat
  batchSize : Option Nat

/-- `definitions` and `effectHandlers` are the registered ones; `collate` is the
host's `localeCompare` order. -/
structure Runtime (State : Type) where
  config : WorkflowRuntimeConfig
  definitions : String → Option (WorkflowDefinition State)
  effectHandlers : String → Option (EffectHandler State)
  collate : String → String → Bool

namespace Runtime

def definition (runtime : Runtime State) (kind : String) : Except String (WorkflowDefinition State) :=
  match runtime.definitions kind with
  | none => .error s!"workflow definition {kind} is not registered"
  | some definition => .ok definition

/-! ## start and ensure -/

def createInput (id : String) (definition : WorkflowDefinition State)
    (decision : WorkflowDecision State) : CreateWorkflowInput State JsValue Timestamp :=
  { id, kind := definition.kind, definitionVersion := definition.version
    status := decision.status, state := decision.state, wakeAt := decision.wakeAt.join
    effects := decision.effects }

def start [DecidableEq State] (runtime : Runtime State) (id kind : String) (input : JsValue)
    (now clock : Timestamp) (store : Store State) : Except String (Instance State) × Store State :=
  let decided := do
    let definition ← runtime.definition kind
    let decision ← definition.initialise input now
    let decision ← decision.validateDecision definition.members
    return createInput id definition decision
  match decided with
  | .error message => (.error message, store)
  | .ok input =>
    match store.createWorkflow runtime.collate input clock with
    | (.ok (_, current), store) => (.ok current, store)
    | (.error message, store) => (.error message, store)

def ensure [DecidableEq State] (runtime : Runtime State) (id kind : String) (input : JsValue)
    (now clock : Timestamp) (store : Store State) : Except String (Instance State) × Store State :=
  match store.workflow id with
  | none => runtime.start id kind input now clock store
  | some existing =>
    match runtime.definition kind with
    | .error message => (.error message, store)
    | .ok definition =>
      if existing.kind ≠ kind ∨ existing.definitionVersion ≠ definition.version then
        (.error s!"workflow {id} already belongs to {existing.kind}@{existing.definitionVersion}", store)
      else (.ok existing, store)

/-! ## dispatch -/

def advanceInput (current : Instance State) (event : Event) (decision : WorkflowDecision State) :
    AdvanceWorkflowInput State JsValue Timestamp :=
  { instanceId := current.id, expectedRevision := current.revision, event
    status := decision.status, state := decision.state, wakeAt := decision.wakeAt
    effects := decision.effects }

/-- The advance an event calls for, as computed from one read of the instance. -/
def decide (runtime : Runtime State) (current : Instance State) (event : Event) :
    Except String (AdvanceWorkflowInput State JsValue Timestamp) := do
  let definition ← runtime.definition current.kind
  if definition.version ≠ current.definitionVersion then
    .error s!"workflow {current.id} requires definition {current.kind}@{current.definitionVersion}"
  let decision ← definition.reduce current.state event
  let decision ← decision.validateDecision definition.members
  return advanceInput current event decision

def dispatchLoop (runtime : Runtime State) (instanceId : String) (event : Event)
    (clock : Timestamp) : Nat → Store State → Except String (Instance State) × Store State
  | 0, store => (.error s!"workflow {instanceId} could not advance", store)
  | attempts + 1, store =>
    match store.workflow instanceId with
    | none => (.error s!"workflow {instanceId} does not exist", store)
    | some current =>
      match runtime.decide current event with
      | .error message => (.error message, store)
      | .ok input =>
        match store.advanceWorkflow input clock with
        | (.ok (_, current), store) => (.ok current, store)
        | (.error message, store) =>
          if ¬ includes message "revision conflict" ∨ attempts = 0 then (.error message, store)
          else dispatchLoop runtime instanceId event clock attempts store

def dispatch (runtime : Runtime State) (instanceId : String) (event : Event) (clock : Timestamp)
    (store : Store State) : Except String (Instance State) × Store State :=
  runtime.dispatchLoop instanceId event clock 3 store

/-! ## runOnce -/

def timerEvent (scheduledAt now : Timestamp) : Event :=
  { id := "timer:" ++ toISOString scheduledAt, type := "timer", occurredAt := now
    payload := .object [("scheduledAt", .string (toISOString scheduledAt))] }

def deliveredEvent (effect : ClaimedEffect) (output : JsValue) (deliveredAt : Timestamp) : Event :=
  { id := "effect:" ++ effect.id ++ ":delivered", type := "effect.delivered"
    occurredAt := deliveredAt
    payload := .object (assign (assign output.members "effectId" (.string effect.id))
      "effectKind" (.string effect.kind)) }

def failedEvent (effect : ClaimedEffect) (message : String) (failedAt : Timestamp) : Event :=
  { id := "effect:" ++ effect.id ++ ":failed", type := "effect.failed", occurredAt := failedAt
    payload := .object [("effectId", .string effect.id), ("effectKind", .string effect.kind),
      ("error", .string message)] }

inductive EffectOutcome where
  | idle
  | delivered
  | deferred
  | failed

structure PassSummary where
  due : Nat
  effect : EffectOutcome

/-- What a pass returned or threw, the store it left, and the effect it claimed. -/
structure Pass (State : Type) where
  outcome : Except String PassSummary
  store : Store State
  claimed : Option ClaimedEffect

/-- The timer loop: the first dispatch that throws ends it. -/
def runTimers (runtime : Runtime State) (now clock : Timestamp) :
    List (Instance State) → Store State → Except String Unit × Store State
  | [], store => (.ok (), store)
  | current :: rest, store =>
    match current.wakeAt with
    | none => runTimers runtime now clock rest store
    | some scheduledAt =>
      match runtime.dispatch current.id (timerEvent scheduledAt now) clock store with
      | (.ok _, store) => runTimers runtime now clock rest store
      | (.error message, store) => (.error message, store)

/-- A handler may return nothing or an object. -/
def checkOutput (kind : String) : JsValue → Except String JsValue
  | .undefined => .ok .undefined
  | .object members => .ok (.object members)
  | _ => .error s!"workflow effect handler {kind} returned a non-object result"

/-- The `try` block: execute, report the delivery, settle. -/
def deliver (runtime : Runtime State) (handler : EffectHandler State) (effect : ClaimedEffect)
    (clock : Timestamp) (store : Store State) : Except String Unit × Store State :=
  match handler effect store with
  | (.error message, store) => (.error message, store)
  | (.ok output, store) =>
    match checkOutput effect.kind output with
    | .error message => (.error message, store)
    | .ok output =>
      match runtime.dispatch effect.instanceId (deliveredEvent effect output clock) clock store with
      | (.error message, store) => (.error message, store)
      | (.ok _, store) => store.settleWorkflowEffect effect.id runtime.config.workerId clock

def terminal (runtime : Runtime State) (effect : ClaimedEffect) : Bool :=
  runtime.config.maxAttempts.getD 5 ≤ effect.attempt

def retryAt (runtime : Runtime State) (now : Timestamp) : Timestamp :=
  now + (runtime.config.retryDelayMs.getD 120000 : Nat)

/-- The report of a failure, made on the last attempt only. -/
def reportFailure (runtime : Runtime State) (effect : ClaimedEffect) (message : String)
    (clock : Timestamp) (store : Store State) : Option String × Store State :=
  if runtime.terminal effect then
    match runtime.dispatch effect.instanceId (failedEvent effect message clock) clock store with
    | (.ok _, store) => (none, store)
    | (.error message, store) => (some message, store)
  else (none, store)

/-- The `catch` block: report the failure, release the claim. -/
def recover (runtime : Runtime State) (effect : ClaimedEffect) (thrown : String)
    (now clock : Timestamp) (store : Store State) : Except String EffectOutcome × Store State :=
  let message := utf16Take 4096 thrown
  let (transitionError, store) := runtime.reportFailure effect message clock store
  match store.releaseWorkflowEffect effect.id runtime.config.workerId message (runtime.retryAt now)
      (runtime.terminal effect) with
  | (.error message, store) => (.error message, store)
  | (.ok (), store) =>
    match transitionError with
    | some message => (.error message, store)
    | none => (.ok (if runtime.terminal effect then .failed else .deferred), store)

def runEffect (runtime : Runtime State) (now clock : Timestamp) (effect : ClaimedEffect)
    (store : Store State) : Except String EffectOutcome × Store State :=
  match runtime.effectHandlers effect.kind with
  | none =>
    match store.releaseWorkflowEffect effect.id runtime.config.workerId
        s!"no handler registered for {effect.kind}" (runtime.retryAt now) false with
    | (.error message, store) => (.error message, store)
    | (.ok (), store) => (.ok .deferred, store)
  | some handler =>
    match runtime.deliver handler effect clock store with
    | (.ok (), store) => (.ok .delivered, store)
    | (.error thrown, store) => runtime.recover effect thrown now clock store

/-- One pass; `running` says that another pass of this process is under way. -/
def runOnce (runtime : Runtime State) (running : Bool) (now clock : Timestamp) (store : Store State) : Pass State :=
  if running then { outcome := .ok ⟨0, .idle⟩, store, claimed := none }
  else
    let due := store.dueWorkflows now (runtime.config.batchSize.getD 20)
    match runtime.runTimers now clock due store with
    | (.error message, store) => { outcome := .error message, store, claimed := none }
    | (.ok (), store) =>
      match store.claimNextWorkflowEffect runtime.config.workerId now
          (now + (runtime.config.leaseMs.getD 120000 : Nat)) with
      | (.error message, store) => { outcome := .error message, store, claimed := none }
      | (.ok none, store) => { outcome := .ok ⟨due.length, .idle⟩, store, claimed := none }
      | (.ok (some effect), store) =>
        match runtime.runEffect now clock effect store with
        | (.error message, store) => { outcome := .error message, store, claimed := some effect }
        | (.ok outcome, store) =>
          { outcome := .ok ⟨due.length, outcome⟩, store, claimed := some effect }

end Runtime

end QuarkSelfAI.Workflow

import QuarkSelfAI.Foundation.IsoTime
import QuarkSelfAI.Foundation.Table
import QuarkSelfAI.Foundation.Transition

/-!
# The lifecycle supervisor

`LifecycleSupervisor` starts its components in order and stops them in reverse. A call of
`start` or `stop` waits for one component at a time; whatever happens meanwhile is a call of
its own. What is left of an asynchronous function when nothing is awaited any more runs at
once.
-/

namespace QuarkSelfAI.Platform

open Foundation

/-- `ComponentState`, which is also the state of the supervisor. -/
inductive ComponentState where
  | idle
  | starting
  | ready
  | stopping
  | stopped
  | failed
deriving DecidableEq

structure ManagedComponent where
  id : String
  kind : String
  critical : Option Bool
  /-- Whether the component has `waitForFailure`. -/
  watched : Bool

structure ComponentStatus where
  id : String
  kind : String
  state : ComponentState
  startedAt : Option Timestamp
  stoppedAt : Option Timestamp
  lastError : Option String

structure ComponentFailure where
  componentId : String
  error : String

/-- The components that the constructor accepts. -/
structure ManagedComponents where
  components : List ManagedComponent
  identified : ∀ component ∈ components, isBlank component.id = false ∧ isBlank component.kind = false
  distinct : (components.map ManagedComponent.id).Nodup

/-- How a promise of a component settles. -/
abbrev Outcome := Except String Unit

def returned : Outcome → Bool
  | .ok () => true
  | .error _ => false

/-- A call of `stopStarted` that waits for a component to stop. -/
structure Stopping where
  component : ManagedComponent
  /-- `current.startedAt`, read before the status changed. -/
  startedAt : Option Timestamp
  rest : List ManagedComponent
  errors : List String

/-- The errors of `stopStarted` once the stop it waits for has settled. -/
def Stopping.errorsAfter (stopping : Stopping) : Outcome → List String
  | .ok () => stopping.errors
  | .error message => stopping.errors ++ [message]

/-- A call of `start` that waits, for a component to start or in its rollback. -/
inductive Starting where
  | launching (component : ManagedComponent) (rest : List ManagedComponent)
  | rollingBack (starting : ManagedComponent) (startError : String) (rollback : Stopping)

structure Supervisor where
  statuses : Table ComponentStatus.id
  started : List ManagedComponent
  state : ComponentState
  /-- What the failure promise was resolved with. -/
  failure : Option ComponentFailure
  start : Option Starting
  stops : List Stopping
  /-- The components whose failure is awaited. -/
  watching : List ManagedComponent

inductive LifecycleCall where
  | start
  /-- The start that is awaited settles. -/
  | started (outcome : Outcome) (now : Timestamp)
  /-- The stop that a rollback awaits settles. -/
  | rolledBack (outcome : Outcome) (now : Timestamp)
  | stop
  /-- The stop that a call of `stop` awaits settles. -/
  | stopped (index : Nat) (outcome : Outcome) (now : Timestamp)
  /-- A component that is watched fails. -/
  | failed (index : Nat) (error : String)

/-- A call of a component. -/
inductive ComponentCall where
  | start (id : String)
  | stop (id : String)
deriving DecidableEq

/-- How a call of the supervisor ends. -/
inductive Settlement where
  | startResolved
  /-- The start is rejected, after a rollback with these errors. -/
  | startRejected (rollback : List String)
  | startRefused (message : String)
  | stopResolved
  | stopRejected

/-- What a step shows: a call of a component, a component whose stop has ended and whether
it returned, and a call of the supervisor that has ended. -/
structure LifecycleReply where
  called : Option ComponentCall
  ended : Option (String × Bool)
  settled : Option Settlement

/-- The name of a state, as an error tells it. -/
def ComponentState.text : ComponentState → String
  | .idle => "idle"
  | .starting => "starting"
  | .ready => "ready"
  | .stopping => "stopping"
  | .stopped => "stopped"
  | .failed => "failed"

namespace Supervisor

/-- `setStatus`, with the fields of the change that are set. -/
def setStatus (component : ManagedComponent) (state : ComponentState) (startedAt stoppedAt : Option Timestamp)
    (lastError : Option String) (supervisor : Supervisor) : Supervisor :=
  { supervisor with
    statuses := supervisor.statuses.put ⟨component.id, component.kind, state, startedAt, stoppedAt, lastError⟩ }

def initial (managed : ManagedComponents) : Supervisor where
  statuses := managed.components.foldl
    (fun statuses component => statuses.put ⟨component.id, component.kind, .idle, none, none, none⟩) Table.empty
  started := []
  state := .idle
  failure := none
  start := none
  stops := []
  watching := []

/-! ## stopStarted -/

/-- The loop of `stopStarted`: it calls the next component, or it has ended. -/
def stopNext (components : List ManagedComponent) (errors : List String) (supervisor : Supervisor) :
    Option Stopping × Supervisor :=
  match components with
  | [] => (none, supervisor)
  | component :: rest =>
    let startedAt := (supervisor.statuses.find? component.id).bind ComponentStatus.startedAt
    (some ⟨component, startedAt, rest, errors⟩, setStatus component .stopping none none none supervisor)

def stopStarted (supervisor : Supervisor) : Option Stopping × Supervisor :=
  stopNext supervisor.started.reverse [] { supervisor with started := [] }

/-- Record how the awaited stop settled. -/
def stopEnded (stopping : Stopping) (outcome : Outcome) (now : Timestamp) (supervisor : Supervisor) : Supervisor :=
  match outcome with
  | .ok () => setStatus stopping.component .stopped stopping.startedAt (some now) none supervisor
  | .error message => setStatus stopping.component .failed none none (some message) supervisor

/-! ## start -/

/-- The loop of `start`: it starts the next component, or everything is ready. -/
def launch (components : List ManagedComponent) (supervisor : Supervisor) : LifecycleReply × Supervisor :=
  match components with
  | [] => (⟨none, none, some .startResolved⟩, { supervisor with state := .ready, start := none })
  | component :: rest =>
    (⟨some (.start component.id), none, none⟩, { setStatus component .starting none none none supervisor with
        started := supervisor.started ++ [component], start := some (.launching component rest) })

def begin (managed : ManagedComponents) (supervisor : Supervisor) : LifecycleReply × Supervisor :=
  if supervisor.state = .idle then launch managed.components { supervisor with state := .starting }
  else (⟨none, none, some (.startRefused s!"lifecycle cannot start from {supervisor.state.text}")⟩, supervisor)

/-- The `catch` block of `start` after its rollback. -/
def startFailed (starting : ManagedComponent) (startError : String) (rollback : List String)
    (ended : Option (String × Bool)) (supervisor : Supervisor) : LifecycleReply × Supervisor :=
  (⟨none, ended, some (.startRejected rollback)⟩,
    { setStatus starting .failed none none (some startError) supervisor with start := none })

/-- The rollback of a start goes on, or is done. -/
def rollBack (starting : ManagedComponent) (startError : String) (errors : List String)
    (ended : Option (String × Bool)) (next : Option Stopping × Supervisor) : LifecycleReply × Supervisor :=
  match next with
  | (some stopping, supervisor) =>
    (⟨some (.stop stopping.component.id), ended, none⟩,
      { supervisor with start := some (.rollingBack starting startError stopping) })
  | (none, supervisor) => startFailed starting startError errors ended supervisor

/-- Await the failure of a component that is critical. -/
def watch (component : ManagedComponent) (supervisor : Supervisor) : Supervisor :=
  if component.critical ≠ some false ∧ component.watched = true then
    { supervisor with watching := supervisor.watching ++ [component] }
  else supervisor

def onStarted (component : ManagedComponent) (rest : List ManagedComponent) (outcome : Outcome)
    (now : Timestamp) (supervisor : Supervisor) : LifecycleReply × Supervisor :=
  match outcome with
  | .ok () => launch rest (watch component (setStatus component .ready (some now) none none supervisor))
  | .error message => rollBack component message [] none (stopStarted { supervisor with state := .failed })

def onRolledBack (starting : ManagedComponent) (startError : String) (stopping : Stopping) (outcome : Outcome)
    (now : Timestamp) (supervisor : Supervisor) : LifecycleReply × Supervisor :=
  let errors := stopping.errorsAfter outcome
  rollBack starting startError errors (some (stopping.component.id, returned outcome))
    (stopNext stopping.rest errors (stopEnded stopping outcome now supervisor))

/-! ## stop -/

/-- A call of `stop` goes on with the components it has to stop, or ends. -/
def stopOn (errors : List String) (ended : Option (String × Bool)) (next : Option Stopping × Supervisor) :
    LifecycleReply × Supervisor :=
  match next with
  | (some stopping, supervisor) =>
    (⟨some (.stop stopping.component.id), ended, none⟩, { supervisor with stops := supervisor.stops ++ [stopping] })
  | (none, supervisor) =>
    if errors = [] then (⟨none, ended, some .stopResolved⟩, { supervisor with state := .stopped })
    else (⟨none, ended, some .stopRejected⟩, supervisor)

def stop (supervisor : Supervisor) : LifecycleReply × Supervisor :=
  match supervisor.state with
  | .stopped | .idle => (⟨none, none, some .stopResolved⟩, { supervisor with state := .stopped })
  | .stopping => (⟨none, none, some .stopResolved⟩, supervisor)
  | _ => stopOn [] none (stopStarted { supervisor with state := .stopping })

def onStopped (index : Nat) (stopping : Stopping) (outcome : Outcome) (now : Timestamp)
    (supervisor : Supervisor) : LifecycleReply × Supervisor :=
  let errors := stopping.errorsAfter outcome
  stopOn errors (some (stopping.component.id, returned outcome))
    (stopNext stopping.rest errors
      (stopEnded stopping outcome now { supervisor with stops := supervisor.stops.eraseIdx index }))

def reportFailure (component : ManagedComponent) (error : String) (supervisor : Supervisor) : Supervisor :=
  if supervisor.state = .stopping ∨ supervisor.state = .stopped ∨ supervisor.failure.isSome = true then supervisor
  else
    { setStatus component .failed none none (some error) supervisor with
      state := .failed, failure := some ⟨component.id, error⟩ }

/-- Answer a call. What cannot happen does nothing. -/
def perform (managed : ManagedComponents) (call : LifecycleCall) (supervisor : Supervisor) :
    LifecycleReply × Supervisor :=
  match call with
  | .start => begin managed supervisor
  | .started outcome now =>
    match supervisor.start with
    | some (.launching component rest) => onStarted component rest outcome now supervisor
    | _ => (⟨none, none, none⟩, supervisor)
  | .rolledBack outcome now =>
    match supervisor.start with
    | some (.rollingBack starting startError stopping) =>
      onRolledBack starting startError stopping outcome now supervisor
    | _ => (⟨none, none, none⟩, supervisor)
  | .stop => stop supervisor
  | .stopped index outcome now =>
    match supervisor.stops[index]? with
    | some stopping => onStopped index stopping outcome now supervisor
    | none => (⟨none, none, none⟩, supervisor)
  | .failed index error =>
    match supervisor.watching[index]? with
    | some component =>
      (⟨none, none, none⟩,
        reportFailure component error { supervisor with watching := supervisor.watching.eraseIdx index })
    | none => (⟨none, none, none⟩, supervisor)

def machine (managed : ManagedComponents) : Machine Supervisor LifecycleCall LifecycleReply where
  initial := initial managed
  perform := perform managed

end Supervisor

end QuarkSelfAI.Platform

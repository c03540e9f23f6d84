import QuarkSelfAI.Foundation.Checking
import QuarkSelfAI.Foundation.Transition

/-!
# Service activation

Activation, reconciliation and deactivation of the installed user service, of the server and of the
client. An operation is a sequence of single steps on the service directory and on the service manager;
between two of them the process may be cut off, and each may fail. What else the recovery of the
prepared service checks is unchanged and left out.
-/

namespace QuarkSelfAI.ControlPlane

open Foundation

inductive ServiceVariant where
  | server
  | client
deriving DecidableEq

inductive ServiceOperation where
  | activate
  | reconcile
  | deactivate
deriving DecidableEq

/-- The next step of the operation that is under way. -/
inductive ServicePhase where
  | idle
  | creatingIntent
  | fillingIntent
  | creatingDefinition
  | fillingDefinition
  | registering
  | starting
  /-- The manager and the health of the service agree. -/
  | confirming
  | creatingReceipt (operation : ServiceOperation) (pid : Nat)
  | fillingReceipt (operation : ServiceOperation) (pid : Nat)
  | renamingReceipt (operation : ServiceOperation)
  | unlinkingIntent (operation : ServiceOperation)
  /-- The `catch` of `replacePrivate`. -/
  | clearing (operation : ServiceOperation)
  | retiring
  | stopping (operation : ServiceOperation)
  | removingHealth (operation : ServiceOperation)
  /-- `clean` is whether the rollback is complete so far. -/
  | removingDefinition (operation : ServiceOperation) (clean : Bool)
  | forgetting (operation : ServiceOperation)
deriving DecidableEq

/-- The service directory, the service manager and the health of the service. A file that is only
partly written is there without its content; a receipt names the process that was confirmed. -/
structure UserService where
  intent : Option Bool
  receipt : Option Nat
  temporary : Option (Option Nat)
  deactivation : Option Nat
  definition : Option Bool
  registered : Bool
  process : Option Nat
  health : Option Nat
  phase : ServicePhase

inductive ServiceCall where
  | activate
  | reconcile
  | deactivate
  /-- The next step succeeds; the process that a start begins. -/
  | advance (pid : Nat)
  /-- The next step fails; a manager may have done it all the same. -/
  | fail (effect : Bool)
  | crash
  /-- The manager starts the registered service. -/
  | spawn (pid : Nat)
  | exit
  | publish (health : Option Nat)
deriving DecidableEq

inductive ServiceReply where
  | going
  | returned (receipt : Option Nat)
  | threw (message : String)
  /-- An activation that has written its intent reports failure. -/
  | failed (message : String)
  | silent
deriving DecidableEq

namespace UserService

/-- A service that was prepared, and of which nothing else is there. -/
def prepared : UserService := ⟨none, none, none, none, none, false, none, none, .idle⟩

/-- The files beside the definition and the preparation receipt. -/
def extras (service : UserService) : List String :=
  (service.intent.map fun _ => "activation-intent.json").toList ++
    (service.receipt.map fun _ => "activation-receipt.json").toList ++
    (service.temporary.map fun _ => "activation-receipt.json.tmp").toList ++
    (service.deactivation.map fun _ => "deactivation-intent.json").toList

def allowedExtras : List String := ["activation-intent.json", "activation-receipt.json", "deactivation-intent.json"]

/-- The layout check of `recoverPrepared…`. -/
def recoverPrepared (service : UserService) : Except String Unit :=
  throwIf (1 < service.extras.length ∨ service.extras.any (fun name => name ∉ allowedExtras) = true)
    "service preparation layout is invalid"

def missing : String := "service activation receipt is missing"

def loadReceipt (file : Option Nat) (service : UserService) : Except String Nat := do
  service.recoverPrepared
  match file with
  | some pid => .ok pid
  | none => .error missing

/-- The process that the manager reports as running. -/
def running (service : UserService) : Option Nat := if service.registered then service.process else none

/-- The health of the server answers for itself, that of the client names its process. -/
def isHealthy (variant : ServiceVariant) (pid : Nat) (service : UserService) : Bool :=
  match variant with
  | .server => service.health.isSome
  | .client => service.health = some pid

/-- The process that the manager and the health confirm. -/
def confirmed (variant : ServiceVariant) (service : UserService) : Option Nat :=
  service.running.filter fun pid => service.isHealthy variant pid

/-- `recoverInstalled…UserServiceActivationV1`. -/
def recoverActivation (variant : ServiceVariant) (service : UserService) : Except String Nat := do
  let pid ← service.loadReceipt service.receipt
  throwIf (service.running = none ∨ (variant = .client ∧ service.running ≠ some pid)) "service activation is not running"
  throwIf (variant = .client ∧ service.health ≠ some pid) "service activation health lineage drifted"
  .ok pid

/-- An operation goes on to its next step. -/
def goOn (phase : ServicePhase) (service : UserService) : ServiceReply × UserService := (.going, { service with phase })

/-- An operation ends. -/
def finish (reply : ServiceReply) (service : UserService) : ServiceReply × UserService :=
  (reply, { service with phase := .idle })

/-- A rollback cannot go on. -/
def giveUp (operation : ServiceOperation) (message : String) (service : UserService) : ServiceReply × UserService :=
  service.finish (if operation = .activate then .failed message else .threw message)

def activate (service : UserService) : ServiceReply × UserService :=
  match (do
    service.recoverPrepared
    throwIf (service.intent ≠ none) "service activation is already in progress"
    throwIf (service.receipt ≠ none) "service is already active") with
  | .error message => service.finish (.threw message)
  | .ok () => service.goOn .creatingIntent

def reconcile (variant : ServiceVariant) (service : UserService) : ServiceReply × UserService :=
  match service.recoverActivation variant with
  | .ok pid => service.finish (.returned (some pid))
  | .error message =>
    if message ≠ missing then service.finish (.threw message)
    else
      match service.intent, service.recoverPrepared with
      | none, _ => service.finish (.threw "ENOENT: activation-intent.json")
      | some false, _ => service.finish (.threw "service activation intent is invalid")
      | some true, .error message => service.finish (.threw message)
      | some true, .ok () =>
        match service.confirmed variant with
        | some pid => service.goOn (.creatingReceipt .reconcile pid)
        | none => service.goOn (.stopping .reconcile)

def deactivate (service : UserService) : ServiceReply × UserService :=
  match service.loadReceipt service.deactivation with
  | .ok _ => service.goOn (.stopping .deactivate)
  | .error message =>
    if message ≠ missing then service.finish (.threw message)
    else
      match service.loadReceipt service.receipt with
      | .error message => service.finish (.threw message)
      | .ok _ =>
        if service.deactivation ≠ none then service.finish (.threw "service deactivation is already in progress")
        else service.goOn .retiring

/-- The next step succeeds. -/
def advance (variant : ServiceVariant) (pid : Nat) (service : UserService) : ServiceReply × UserService :=
  match service.phase with
  | .idle => (.silent, service)
  | .creatingIntent => { service with intent := some false }.goOn .fillingIntent
  | .fillingIntent => { service with intent := some true }.goOn .creatingDefinition
  | .creatingDefinition =>
    match service.definition with
    | none => { service with definition := some false }.goOn .fillingDefinition
    | some true => service.goOn .registering
    | some false => service.goOn (.stopping .activate)
  | .fillingDefinition => { service with definition := some true }.goOn .registering
  | .registering => { service with registered := true }.goOn .starting
  | .starting => { service with process := service.process.or (some pid) }.goOn .confirming
  | .confirming =>
    match service.confirmed variant with
    | some pid => service.goOn (.creatingReceipt .activate pid)
    | none => service.goOn (.stopping .activate)
  | .creatingReceipt operation pid =>
    if service.receipt ≠ none ∨ service.temporary ≠ none then service.goOn (.stopping operation)
    else { service with temporary := some none }.goOn (.fillingReceipt operation pid)
  | .fillingReceipt operation pid => { service with temporary := some (some pid) }.goOn (.renamingReceipt operation)
  | .renamingReceipt operation =>
    { service with receipt := service.temporary.join, temporary := none }.goOn (.unlinkingIntent operation)
  | .unlinkingIntent _ => { service with intent := none }.finish (.returned service.receipt)
  | .clearing operation => { service with temporary := none }.goOn (.stopping operation)
  | .retiring => { service with receipt := none, deactivation := service.receipt }.goOn (.stopping .deactivate)
  | .stopping operation =>
    let stopped := { service with registered := false, process := none }
    match variant with
    | .server => stopped.goOn (.removingDefinition operation true)
    | .client => stopped.goOn (.removingHealth operation)
  | .removingHealth operation => { service with health := none }.goOn (.removingDefinition operation true)
  | .removingDefinition operation clean =>
    -- A definition that is not the expected one is not removed.
    if service.definition = some false then service.giveUp operation "service target definition drifted"
    else
      let service := { service with definition := none }
      if clean then service.goOn (.forgetting operation)
      else service.giveUp operation "service activation failed and rollback is incomplete"
  | .forgetting .activate => { service with intent := none }.finish (.failed "service activation failed")
  | .forgetting .reconcile => { service with intent := none }.finish (.returned none)
  | .forgetting .deactivate => { service with deactivation := none }.finish (.returned service.deactivation)

/-- The next step fails. -/
def fail (effect : Bool) (service : UserService) : ServiceReply × UserService :=
  match service.phase with
  | .idle => (.silent, service)
  | .creatingIntent | .fillingIntent | .retiring => service.finish (.threw "EIO")
  | .creatingDefinition | .fillingDefinition | .starting | .confirming => service.goOn (.stopping .activate)
  | .registering => { service with registered := service.registered || effect }.goOn (.stopping .activate)
  | .creatingReceipt operation _ | .fillingReceipt operation _ => service.goOn (.stopping operation)
  | .renamingReceipt operation | .unlinkingIntent operation => service.goOn (.clearing operation)
  -- What the `catch` itself throws is swallowed.
  | .clearing operation => service.goOn (.stopping operation)
  | .stopping operation =>
    let service := if effect then { service with registered := false, process := none } else service
    service.giveUp operation "service unregister failed"
  | .removingHealth .activate => service.goOn (.removingDefinition .activate false)
  | .removingHealth operation => service.giveUp operation "EIO"
  | .removingDefinition operation _ => service.giveUp operation "EIO"
  | .forgetting operation => service.giveUp operation "EIO"

def perform (variant : ServiceVariant) (call : ServiceCall) (service : UserService) : ServiceReply × UserService :=
  match call with
  | .activate => if service.phase = .idle then service.activate else (.silent, service)
  | .reconcile => if service.phase = .idle then service.reconcile variant else (.silent, service)
  | .deactivate => if service.phase = .idle then service.deactivate else (.silent, service)
  | .advance pid => service.advance variant pid
  | .fail effect => service.fail effect
  | .crash => (.silent, { service with phase := .idle })
  | .spawn pid =>
    (.silent, if service.registered = true ∧ service.process = none then { service with process := some pid } else service)
  | .exit => (.silent, { service with process := none })
  | .publish health => (.silent, { service with health })

def machine (variant : ServiceVariant) : Machine UserService ServiceCall ServiceReply where
  initial := prepared
  perform := perform variant

/-! ## What is to hold -/

/-- Steps succeed until the operation ends. -/
def follow (variant : ServiceVariant) : Nat → ServiceReply × UserService → ServiceReply × UserService
  | 0, reached => reached
  | steps + 1, reached => if reached.1 = .going then follow variant steps (reached.2.advance variant 0) else reached

/-- The uninterrupted recovery: a deactivation that had begun goes on, all else is reconciled. -/
def recovery (variant : ServiceVariant) (service : UserService) : ServiceReply × UserService :=
  let service := { service with phase := .idle }
  follow variant 6 (if service.deactivation ≠ none then service.deactivate else service.reconcile variant)

/-- A receipt and a running service, or nothing of either. -/
def Settled (service : UserService) : Prop :=
  service.intent = none ∧ service.temporary = none ∧ service.deactivation = none ∧
    (service.receipt ≠ none ∧ service.registered = true ∧ service.process ≠ none ∨
      service.receipt = none ∧ service.definition = none ∧ service.registered = false)

/-- The recovery returns, and leaves one of the two. -/
def Recovers (variant : ServiceVariant) (service : UserService) : Prop :=
  (∃ receipt, (recovery variant service).1 = .returned receipt) ∧ Settled (recovery variant service).2

end UserService

end QuarkSelfAI.ControlPlane

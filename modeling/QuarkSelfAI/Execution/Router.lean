import QuarkSelfAI.Foundation.Checking
import QuarkSelfAI.Foundation.Record
import QuarkSelfAI.Foundation.Suspension

/-!
# The executor router

`SequentialExecutorRouter.execute` with the capabilities of `claim-authorization`. An
execution waits for the workspace policy, for a provider to start, for its run, and for
the run to be disposed; between these answers other calls are served.
-/

namespace QuarkSelfAI.Execution

open Foundation

abbrev ExecutorId := String

/-! ## Requests and results -/

inductive ExecutorMode where
  | readOnly
  | workspaceWrite
  | externalWrite
deriving DecidableEq

def ExecutorMode.text : ExecutorMode → String
  | .readOnly => "read-only"
  | .workspaceWrite => "workspace-write"
  | .externalWrite => "external-write"

/-- `ExecutorRequest`, which is also what an authorization is bound to. -/
structure ExecutorRequest where
  actionId : String
  title : String
  prompt : String
  workspace : String
  mode : ExecutorMode
deriving DecidableEq

/-- `RoutedExecutorRequest`: the working directory of the parent's session, the executor
that is asked for, and the capability. -/
structure RoutedExecutorRequest extends ExecutorRequest where
  parent : Option String
  requestedExecutor : Option ExecutorId
  authorization : Option Nat
deriving DecidableEq

inductive ContentBlock where
  | text (text : String)
  | other (kind : String)
deriving DecidableEq

inductive AttemptStatus where
  | completed
  | failed
deriving DecidableEq

inductive FailureStage where
  | start
  | run
deriving DecidableEq

/-- An attempt. An element past the end of a route is undefined, and so may be the name of
a provider. -/
structure ExecutorAttempt where
  executor : Option ExecutorId
  provider : Option String
  status : AttemptStatus
  failureStage : Option FailureStage
  failureReason : Option String
deriving DecidableEq

inductive ExecutionStatus where
  | completed
  | needsInput
  | failed
deriving DecidableEq

structure RoutedExecutorResult where
  actionId : String
  executor : Option ExecutorId
  status : ExecutionStatus
  summary : String
  sessionId : Option String
  attempts : List ExecutorAttempt
  output : List ContentBlock
deriving DecidableEq

structure SubagentResult where
  stopReason : String
  diagnostic : Option String
  output : List ContentBlock
deriving DecidableEq

def summary (blocks : List ContentBlock) (fallback : String) : String :=
  let text := trim ("\n".intercalate (blocks.filterMap fun
    | .text text => some text
    | .other _ => none))
  if text = "" then fallback else text

/-! ## Infrastructure failures -/

/-- `diagnostic`, on the text of the error. -/
def diagnostic (error : String) : String := utf16Take 4096 error

/-- The words of `INFRASTRUCTURE_FAILURE`. -/
def infrastructureWords : List String :=
  ["timeout", "timed out", "transport", "network", "connection", "socket", "websocket", "dns", "quota",
    "process-exit", "spawn", "enoent", "unauthorized", "authentication", "abort", "cancelled", "429", "502",
    "503", "504"]

/-- What `.` matches. -/
def isLineCharacter (char : Char) : Bool := utf16Units char = 1 && !(char.toNat ∈ [0x0A, 0x0D, 0x2028, 0x2029])

/-- `rate.?limit` from the start of a text. -/
def startsRateLimit (text : List Char) : Bool :=
  "rate".toList.isPrefixOf text &&
    match text.drop 4 with
    | [] => false
    | char :: rest =>
      "limit".toList.isPrefixOf (char :: rest) || (isLineCharacter char && "limit".toList.isPrefixOf rest)

def isInfrastructureFailure (error : String) : Bool :=
  let text := (diagnostic error).map Char.toLower
  infrastructureWords.any (includes text) || text.toList.tails.any startsRateLimit

/-! ## Routing -/

structure ExecutorProviderNames where
  readOnly : String
  write : String

/-- What a lookup of a provider answers: an object that has no names is one that every
object inherits. -/
structure ProviderEntry where
  readOnly : Option String
  write : Option String

abbrev Providers := List (String × ExecutorProviderNames)

abbrev Routes := List (String × List ExecutorId)

/-- `providers[id]`. -/
def Providers.get (providers : Providers) (id : String) : Option ProviderEntry :=
  match providers.lookup id with
  | some names => some ⟨some names.readOnly, some names.write⟩
  | none => if id ∈ inheritedNames then some ⟨none, none⟩ else none

/-- The length of what every object inherits under a name, read as a route. -/
def inheritedLength (id : String) : Nat :=
  if id ∈ ["toString", "valueOf", "toLocaleString", "__proto__"] then 0
  else if id ∈ ["__defineGetter__", "__defineSetter__"] then 2
  else 1

/-- `routes[id] ?? [id]`. -/
def Routes.get (routes : Routes) (id : String) : List (Option ExecutorId) :=
  match routes.lookup id with
  | some route => route.map some
  | none => if id ∈ inheritedNames then List.replicate (inheritedLength id) none else [some id]

/-- The name an element of a route is looked up under. -/
def keyOf (executor : Option ExecutorId) : String := executor.getD "undefined"

def validateProvider (entry : String × ExecutorProviderNames) : Except String Unit :=
  throwIf (isBlank entry.1 = true ∨ isBlank entry.2.readOnly = true ∨ isBlank entry.2.write = true)
    ("executor " ++ (if entry.1 = "" then "<empty>" else entry.1) ++ " requires readOnly and write providers")

def validateRoute (providers : Providers) (entry : String × List ExecutorId) : Except String Unit := do
  throwIf (providers.get entry.1 = none) ("executor route " ++ entry.1 ++ " has no registered provider")
  throwIf (entry.2 = [] ∨ entry.2.head? ≠ some entry.1 ∨ ¬ entry.2.Nodup)
    ("executor route " ++ entry.1 ++ " must start with itself and contain unique entries")
  entry.2.forM fun target =>
    throwIf (providers.get target = none)
      ("executor route " ++ entry.1 ++ " references unregistered executor " ++ target)

def validateRouting (providers : Providers) (routes : Routes) (defaultExecutor : ExecutorId) : Except String Unit := do
  throwIf (isBlank defaultExecutor = true ∨ providers.get defaultExecutor = none)
    "executor default must name a registered provider"
  providers.forM validateProvider
  routes.forM (validateRoute providers)

/-- What the constructor of the router accepts. -/
structure Routing where
  providers : Providers
  routes : Routes
  defaultExecutor : ExecutorId
  valid : validateRouting providers routes defaultExecutor = .ok ()

/-! ## Executions -/

structure SubagentRun where
  id : String
deriving DecidableEq

/-- What is asked of the dispatcher. -/
structure StartRequest where
  provider : Option String
  prompt : List ContentBlock
  label : String
deriving DecidableEq

/-- Where the loop over the route stands. -/
structure Position where
  requested : ExecutorId
  route : List (Option ExecutorId)
  index : Nat
  attempts : List ExecutorAttempt

/-- What follows the `finally` block of the loop. -/
inductive Ending where
  | advance
  | result (result : RoutedExecutorResult)

/-- What an execution waits for. -/
inductive Phase where
  | workspace
  | parent (workspace : String)
  | starting (position : Position) (executor : Option ExecutorId) (provider : Option String)
  | running (position : Position) (executor : Option ExecutorId) (provider : Option String) (run : SubagentRun)
  | disposing (position : Position) (run : Option SubagentRun) (ending : Ending)

structure RoutedExecution where
  request : RoutedExecutorRequest
  phase : Phase

/-- Calls of the router and answers to its calls. An answer that fails brings the text of
its error. -/
inductive RouterCall where
  | issue (request : ExecutorRequest) (approvalGranted : Bool)
  | execute (request : RoutedExecutorRequest)
  | authorized (execution : Nat) (answer : Except String String)
  | started (execution : Nat) (answer : Except String SubagentRun)
  | finished (execution : Nat) (answer : Except String SubagentResult)
  | disposed (execution : Nat)
deriving DecidableEq

inductive RouterReply where
  | issued (authorization : Option Nat)
  | refused (message : String)
  | authorizing (execution : Nat) (target : String)
  | starting (execution : Nat) (start : StartRequest)
  | waiting (execution : Nat) (run : SubagentRun)
  | disposing (execution : Nat) (run : Option SubagentRun)
  | returned (execution : Nat) (result : RoutedExecutorResult)
  | rejected (execution : Nat) (message : String)
  | ignored
deriving DecidableEq

/-- What an answer makes of an execution: what it goes on to wait for, or how it ends. -/
inductive Progress where
  | awaits (reply : RouterReply) (phase : Phase)
  | ends (reply : RouterReply)

def failed (request : RoutedExecutorRequest) (executor : Option ExecutorId) (attempts : List ExecutorAttempt)
    (result : Option SubagentResult) : RoutedExecutorResult :=
  let output := (result.map SubagentResult.output).getD []
  { actionId := request.actionId
    executor := executor
    status := if (result.map SubagentResult.stopReason) = some "refusal" then .needsInput else .failed
    summary := summary output ((attempts.getLast?.bind ExecutorAttempt.failureReason).getD "executor failed")
    sessionId := none
    attempts := attempts
    output := output }

/-- The loop over the route, from its test on. -/
def loop (routing : Routing) (execution : Nat) (request : RoutedExecutorRequest) (position : Position) : Progress :=
  match position.route[position.index]? with
  | none =>
    let executor := (position.attempts.getLast?.map ExecutorAttempt.executor).getD (some position.requested)
    .ends (.returned execution (failed request executor position.attempts none))
  | some executor =>
    match routing.providers.get (keyOf executor) with
    | none =>
      .ends (.rejected execution
        ("executor route " ++ position.requested ++ " references unregistered executor " ++ keyOf executor))
    | some names =>
      let provider := if request.mode = .readOnly then names.readOnly else names.write
      .awaits (.starting execution ⟨provider, [.text request.prompt], request.title⟩)
        (.starting position executor provider)

/-- What follows the answer on the parent's workspace. -/
def enter (routing : Routing) (execution : Nat) (request : RoutedExecutorRequest) : Progress :=
  let requested := request.requestedExecutor.getD routing.defaultExecutor
  if routing.providers.get requested = none then
    .ends (.rejected execution ("executor " ++ requested ++ " is not registered"))
  else loop routing execution request ⟨requested, routing.routes.get requested, 0, []⟩

/-- A failed attempt is the last one, or the next one follows. -/
def afterFailure (request : RoutedExecutorRequest) (position : Position) (executor : Option ExecutorId)
    (attempt : ExecutorAttempt) (reason : String) (result : Option SubagentResult) : Position × Ending :=
  let next := { position with attempts := position.attempts ++ [attempt] }
  if position.index + 1 = position.route.length ∨ isInfrastructureFailure reason = false then
    (next, .result (failed request executor next.attempts result))
  else (next, .advance)

def mismatch : String := "executor request workspace must match the parent DSH session workspace"

/-- An answer to an execution, in the phase that waits for it. -/
def RoutedExecution.answer (routing : Routing) (call : RouterCall) (execution : Nat) (waits : RoutedExecution) :
    Option Progress :=
  match call, waits.phase with
  | .authorized _ answer, .workspace =>
    match answer with
    | .error message => some (.ends (.rejected execution message))
    | .ok workspace =>
      match waits.request.parent with
      | none => some (.ends (.rejected execution mismatch))
      | some parent =>
        if parent = "" then some (.ends (.rejected execution mismatch))
        else some (.awaits (.authorizing execution parent) (.parent workspace))
  | .authorized _ answer, .parent workspace =>
    match answer with
    | .error message => some (.ends (.rejected execution message))
    | .ok parent =>
      if parent ≠ workspace then some (.ends (.rejected execution mismatch))
      else some (enter routing execution waits.request)
  | .started _ answer, .starting position executor provider =>
    match answer with
    | .ok run => some (.awaits (.waiting execution run) (.running position executor provider run))
    | .error error =>
      let reason := diagnostic error
      let (next, ending) := afterFailure waits.request position executor
        ⟨executor, provider, .failed, some .start, some reason⟩ reason none
      some (.awaits (.disposing execution none) (.disposing next none ending))
  | .finished _ answer, .running position executor provider run =>
    match answer with
    | .error error =>
      let reason := diagnostic error
      let (next, ending) := afterFailure waits.request position executor
        ⟨executor, provider, .failed, some .run, some reason⟩ reason none
      some (.awaits (.disposing execution (some run)) (.disposing next (some run) ending))
    | .ok result =>
      if result.stopReason = "completed" then
        let next := { position with attempts := position.attempts ++ [⟨executor, provider, .completed, none, none⟩] }
        let completed : RoutedExecutorResult :=
          { actionId := waits.request.actionId
            executor := executor
            status := .completed
            summary := summary result.output "executor completed without a text summary"
            sessionId := some run.id
            attempts := next.attempts
            output := result.output }
        some (.awaits (.disposing execution (some run)) (.disposing next (some run) (.result completed)))
      else
        let reason := result.diagnostic.getD result.stopReason
        let (next, ending) := afterFailure waits.request position executor
          ⟨executor, provider, .failed, some .run, some reason⟩ reason (some result)
        some (.awaits (.disposing execution (some run)) (.disposing next (some run) ending))
  | .disposed _, .disposing position _ ending =>
    match ending with
    | .result result => some (.ends (.returned execution result))
    | .advance => some (loop routing execution waits.request { position with index := position.index + 1 })
  | _, _ => none

/-! ## The router -/

/-- A router, with the capabilities that are issued and not consumed. -/
structure Router where
  active : List String
  issued : Suspension ExecutorRequest
  next : Nat
  executions : Nat → Option RoutedExecution

namespace Router

def initial : Router where
  active := []
  issued := .empty
  next := 0
  executions := fun _ => none

def issueDurableExecutorAuthorization (request : ExecutorRequest) (approvalGranted : Bool) (router : Router) :
    RouterReply × Router :=
  if request.mode = .readOnly then (.issued none, router)
  else if approvalGranted = false then
    (.refused (request.mode.text ++ " execution requires an approved durable action claim"), router)
  else (.issued (some router.issued.next), { router with issued := router.issued.suspend request })

def consumeDurableExecutorAuthorization (authorization : Option Nat) (request : ExecutorRequest) (router : Router) :
    Except String Unit × Router :=
  if request.mode = .readOnly then (.ok (), router)
  else match authorization with
    | none => (.error (request.mode.text ++ " execution requires an approved durable action claim"), router)
    | some capability =>
      let expected := router.issued.find? capability
      let consumed := { router with issued := router.issued.resume capability }
      if expected = some request then (.ok (), consumed)
      else
        (.error (request.mode.text ++ " execution has invalid durable action claim authorization"), consumed)

def execute (request : RoutedExecutorRequest) (router : Router) : RouterReply × Router :=
  if request.actionId ∈ router.active then
    (.refused ("action " ++ request.actionId ++ " already has an active executor"), router)
  else match consumeDurableExecutorAuthorization request.authorization request.toExecutorRequest router with
    | (.error message, consumed) => (.refused message, consumed)
    | (.ok (), consumed) =>
      (.authorizing router.next request.workspace, { consumed with
          active := request.actionId :: consumed.active
          next := router.next + 1
          executions := Function.update consumed.executions router.next (some ⟨request, .workspace⟩) })

/-- Keep an execution that goes on, or take out one that ends. -/
def settle (execution : Nat) (waits : RoutedExecution) (progress : Progress) (router : Router) : RouterReply × Router :=
  match progress with
  | .awaits reply phase =>
    (reply, { router with
      executions := Function.update router.executions execution (some { waits with phase := phase }) })
  | .ends reply =>
    (reply, { router with
      active := router.active.filter (· ≠ waits.request.actionId)
      executions := Function.update router.executions execution none })

def resume (routing : Routing) (call : RouterCall) (execution : Nat) (router : Router) : RouterReply × Router :=
  match router.executions execution with
  | none => (.ignored, router)
  | some waits =>
    match waits.answer routing call execution with
    | none => (.ignored, router)
    | some progress => settle execution waits progress router

def perform (routing : Routing) (call : RouterCall) (router : Router) : RouterReply × Router :=
  match call with
  | .issue request approvalGranted => issueDurableExecutorAuthorization request approvalGranted router
  | .execute request => execute request router
  | .authorized execution _ => resume routing call execution router
  | .started execution _ => resume routing call execution router
  | .finished execution _ => resume routing call execution router
  | .disposed execution => resume routing call execution router

def machine (routing : Routing) : Machine Router RouterCall RouterReply where
  initial := initial
  perform := perform routing

end Router

end QuarkSelfAI.Execution

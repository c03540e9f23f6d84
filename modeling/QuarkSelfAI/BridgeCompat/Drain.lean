import QuarkSelfAI.BridgeCompat.Digest
import QuarkSelfAI.Foundation.References

/-!
# The queue of session jobs

`Bridge.drain` with `retainForRetry` and `recordExecution`. One drain runs at a time. It keeps the
index of its job while it waits for the runner, the channel and the state file, and enqueued jobs
are pushed behind it. Jobs are changed in place, so they are held by reference.
-/

namespace QuarkSelfAI.BridgeCompat

open Foundation

structure SessionJob where
  id : String
  sessionId : String
  sessionTitle : String
  prompt : String
  executor : Option String
  requestedExecutor : Option String
  actualExecutor : Option String
  fallbackUsed : Bool
  finalResult : Option String
  failureReason : Option String
  failureStage : Option String
  attempts : Nat
  nextAttemptAt : Option Timestamp
  lastError : Option String

/-- An error as the handlers look at it. -/
structure SessionError where
  message : String
  /-- `error instanceof SessionBusyError`. -/
  busy : Bool
  retryable : Bool
  timedOut : Bool
  executor : Option String

inductive ExecutionOutcome where
  | completed
  | failed
deriving DecidableEq

/-- An entry of `executionHistory`. -/
structure ExecutionRecord where
  id : String
  sessionId : String
  requestedExecutor : String
  actualExecutor : String
  fallbackUsed : Bool
  failureReason : Option String
  failureStage : Option String
  status : ExecutionOutcome
  completedAt : Timestamp

structure SessionOptions where
  retryBaseMs : Option Nat
  retryMaxMs : Option Nat

/-- What the drain waits for, with the reference of its job, and its index where that is used
again. -/
inductive DrainPhase where
  /-- The final result is being sent. -/
  | delivering (index ref : Nat)
  /-- It was sent, and the save of the removal is awaited. -/
  | delivered (ref : Nat)
  | executing (index ref : Nat)
  /-- The runner has returned, and the save of its result is awaited. -/
  | storing (index ref : Nat)
  | busySaving (ref : Nat)
  | busySending
  | retainSaving (ref : Nat) (stage : String)
  | retainSending
  | failedSaving (ref : Nat) (error : String)
  | failedSending

structure SessionQueue where
  /-- The jobs that were queued, by reference. -/
  items : List SessionJob
  queue : List Nat
  history : List ExecutionRecord
  draining : Option DrainPhase

/-- The sessions that run, and the time, when the loop looks for a job. -/
structure DrainMoment where
  running : List String
  now : Timestamp

inductive DrainCall where
  /-- `enqueue` pushes a job. -/
  | enqueue (job : SessionJob)
  /-- `drain`, also from `enqueue` and `retryQueued`. -/
  | drain (moment : DrainMoment)
  /-- `runner.execute` settles, and leaves the executor that it has used last. -/
  | executed (outcome : Except SessionError (Option String)) (executor : Option String) (moment : DrainMoment)
  | sent (outcome : Except SessionError Unit) (moment : DrainMoment)
  | saved (outcome : Except SessionError Unit) (moment : DrainMoment)

/-- What happens to jobs, by reference. -/
inductive JobEvent where
  /-- `runner.execute` is called. -/
  | executed (ref : Nat)
  /-- It has returned normally. -/
  | returned (ref : Nat)
  /-- The final result was sent. -/
  | sent (ref : Nat)
  | recorded (ref : Nat) (status : ExecutionOutcome)
  | removed (ref : Nat)
deriving DecidableEq

/-- A text to the owner, under its key. -/
structure SessionMessage where
  text : String
  key : String

structure DrainReply where
  events : List JobEvent
  message : Option SessionMessage

def DrainReply.silent : DrainReply := ⟨[], none⟩

def shortId (id : String) : String := if id = "" then "unknown" else utf16Take 8 id

def executorLabel (executor : String) : String :=
  if executor = "claude" then "Claude Code"
  else if executor = "dsh-native" then "DSH native"
  else "Codex"

/-- A character that `.` of a regular expression stands for. -/
def isRegexDot (char : Char) : Bool := char.toNat < 0x10000 && char.toNat ∉ [0x0A, 0x0D, 0x2028, 0x2029]

/-- `/rate.?limit/` matches at the start. -/
def isRateLimit (text : List Char) : Bool :=
  "ratelimit".toList.isPrefixOf text ||
    ("rate".toList.isPrefixOf text && (text[4]?).any isRegexDot && "limit".toList.isPrefixOf (text.drop 5))

/-- `/exit\s+143/` matches at the start. -/
def isExit143 (text : List Char) : Bool :=
  "exit".toList.isPrefixOf text && (text[4]?).any isSpace &&
    "143".toList.isPrefixOf ((text.drop 4).dropWhile isSpace)

namespace SessionError

/-- `error?.message || error`. -/
def text (error : SessionError) : String := if error.message = "" then "Error" else error.message

def isRetryableSessionError (error : SessionError) : Bool :=
  error.retryable || error.timedOut ||
    let text := error.text.toLower
    (["time out", "timed out", "timeout", "超时", "temporar", "暂时", "重试", "reconnect", "connection",
      "network", "transport", "websocket", "dns", "no such host", "econn", "socket", "429", "502", "503",
      "504", "sigterm", "terminated"].any (includes text)) ||
      text.toList.tails.any isRateLimit || text.toList.tails.any isExit143

end SessionError

namespace SessionJob

/-- `job.finalResult`, if that is truthy. -/
def hasResult (job : SessionJob) : Bool := job.finalResult.any (· ≠ "")

def runnable (moment : DrainMoment) (job : SessionJob) : Bool :=
  decide (job.sessionId ∉ moment.running) && job.nextAttemptAt.all (· ≤ moment.now)

/-- The executors of a job that is taken up. -/
def taken (job : SessionJob) : SessionJob :=
  let requested := textOr job.requestedExecutor (textOr job.executor "codex")
  { job with requestedExecutor := some requested, executor := some (textOr job.executor requested) }

def executionChannel (job : SessionJob) : String :=
  let requested := textOr job.requestedExecutor (textOr job.executor "codex")
  let actual := textOr job.actualExecutor (textOr job.executor requested)
  if requested = actual then executorLabel actual
  else s!"{executorLabel requested} -> {executorLabel actual} 兜底"

def heading (job : SessionJob) : String := s!"**{job.sessionTitle}**（{shortId job.sessionId}）"

def finalMessage (job : SessionJob) : SessionMessage :=
  let stage := textOr job.failureStage "未知阶段"
  let failureRecord := match job.failureReason with
    | none | some "" => ""
    | some reason => s!"\n\n失败记录：{reason}（{stage}）"
  let result := job.finalResult.getD ""
  ⟨s!"{job.heading}处理完成**\n\n执行通道：{job.executionChannel}{failureRecord}\n\n{result}",
    s!"{job.id}:final"⟩

def busyMessage (job : SessionJob) : SessionMessage := ⟨s!"{job.heading}当前正在执行其他任务，要求已保留在队列，稍后自动重试。", s!"{job.id}:busy"⟩

def failedMessage (error : String) (job : SessionJob) : SessionMessage :=
  ⟨s!"{job.heading}执行失败**\n\n{error}", s!"{job.id}:failed"⟩

/-- The runner has returned. -/
def returned (final : Option String) (executor : Option String) (job : SessionJob) : SessionJob :=
  let requested := job.requestedExecutor.getD ""
  let actual := textOr executor requested
  let job := { job with
    executor := executor, finalResult := final, actualExecutor := some actual, nextAttemptAt := none, lastError := none }
  if actual = requested then job
  else { job with
    fallbackUsed := true
    failureReason := some (textOr job.failureReason "executor_fallback")
    failureStage := some (textOr job.failureStage "会话执行") }

def applyExecutionFailure (error : SessionError) (job : SessionJob) : SessionJob :=
  let actual := textOr error.executor (textOr job.executor (job.requestedExecutor.getD ""))
  { job with
    actualExecutor := some actual
    fallbackUsed := job.fallbackUsed || decide (some actual ≠ job.requestedExecutor) }

def busy (error : SessionError) (now : Timestamp) (job : SessionJob) : SessionJob :=
  { job with
    nextAttemptAt := some (now + 15000), lastError := some error.message
    failureReason := some "session_busy", failureStage := some "会话执行" }

def retryDelayMs (options : SessionOptions) (attempts : Nat) : Nat :=
  let baseMs := (options.retryBaseMs.filter (· ≠ 0)).getD 30000
  let maxMs := (options.retryMaxMs.filter (· ≠ 0)).getD 300000
  min maxMs (baseMs * 2 ^ min (attempts - 1) 6)

def retained (options : SessionOptions) (stage : String) (error : SessionError) (now : Timestamp)
    (job : SessionJob) : SessionJob :=
  { job with
    attempts := job.attempts + 1
    lastError := some (utf16TakeLast 4000 error.text)
    failureReason := some (if stage = "结果回传" then "result_delivery" else "retryable_transient")
    failureStage := some stage
    nextAttemptAt := some (now + retryDelayMs options (job.attempts + 1))
    executor := if stage = "会话执行" then some (textOr job.requestedExecutor (job.executor.getD "")) else job.executor }

def retainMessage (options : SessionOptions) (stage : String) (job : SessionJob) : SessionMessage :=
  ⟨s!"{job.heading}{stage}暂时失败，要求仍保留在队列。\n\n将在约 {(retryDelayMs options job.attempts + 999) / 1000} 秒后自动重试。",
    s!"{job.id}:retry:{job.attempts}"⟩

def failed (job : SessionJob) : SessionJob :=
  { job with
    actualExecutor := some (textOr job.executor (job.requestedExecutor.getD ""))
    failureReason := some "executor_error", failureStage := some "会话执行" }

def record (status : ExecutionOutcome) (now : Timestamp) (job : SessionJob) : ExecutionRecord where
  id := job.id
  sessionId := job.sessionId
  requestedExecutor := textOr job.requestedExecutor (textOr job.executor "codex")
  actualExecutor := textOr job.actualExecutor (textOr job.executor (textOr job.requestedExecutor "codex"))
  fallbackUsed := job.fallbackUsed
  failureReason := job.failureReason.filter (· ≠ "")
  failureStage := job.failureStage.filter (· ≠ "")
  status := status
  completedAt := now

end SessionJob

namespace SessionQueue

/-- A queue as it was loaded. -/
def start (jobs : List SessionJob) (history : List ExecutionRecord) : SessionQueue :=
  ⟨jobs, List.range jobs.length, history, none⟩

def edit (ref : Nat) (change : SessionJob → SessionJob) (world : SessionQueue) : SessionQueue :=
  { world with items := world.items.modify ref change }

def await (phase : DrainPhase) (world : SessionQueue) : SessionQueue :=
  { world with draining := some phase }

/-- The drain ends. -/
def stop (world : SessionQueue) : SessionQueue :=
  { world with draining := none }

/-- A turn of the loop, until it waits or ends. -/
def goOn (moment : DrainMoment) (world : SessionQueue) : DrainReply × SessionQueue :=
  match seek (SessionJob.runnable moment) world.items 0 world.queue with
  | none => (.silent, world.stop)
  | some (index, ref) =>
    let taken := world.edit ref SessionJob.taken
    match taken.items[ref]? with
    | none => (.silent, world.stop)
    | some job =>
      if job.hasResult then (⟨[], some job.finalMessage⟩, taken.await (.delivering index ref))
      else (⟨[.executed ref], none⟩, taken.await (.executing index ref))

def drain (moment : DrainMoment) (world : SessionQueue) : DrainReply × SessionQueue :=
  if world.draining.isSome then (.silent, world) else world.goOn moment

def recordExecution (ref : Nat) (status : ExecutionOutcome) (now : Timestamp) (world : SessionQueue) : SessionQueue :=
  let history := world.history ++ (world.items[ref]?.map (SessionJob.record status now)).toList
  { world with history := history.drop (history.length - 200) }

/-- `recordExecution` and the removal of what stands at the index. -/
def conclude (index ref : Nat) (status : ExecutionOutcome) (now : Timestamp) (world : SessionQueue) :
    List JobEvent × SessionQueue :=
  let events := .recorded ref status :: (world.queue[index]?.map JobEvent.removed).toList
  (events, { world.recordExecution ref status now with queue := world.queue.eraseIdx index })

/-- `retainForRetry` up to its save. -/
def retainForRetry (options : SessionOptions) (ref : Nat) (stage : String) (error : SessionError)
    (now : Timestamp) (world : SessionQueue) : DrainReply × SessionQueue :=
  (.silent, (world.edit ref (SessionJob.retained options stage error now)).await (.retainSaving ref stage))

/-- The `catch` around the execution and the save of its result. -/
def onFailure (options : SessionOptions) (index ref : Nat) (error : SessionError) (now : Timestamp)
    (world : SessionQueue) : DrainReply × SessionQueue :=
  let world := world.edit ref (SessionJob.applyExecutionFailure error)
  if error.busy then (.silent, (world.edit ref (SessionJob.busy error now)).await (.busySaving ref))
  else if error.isRetryableSessionError then world.retainForRetry options ref "会话执行" error now
  else
    let (events, world) := (world.edit ref SessionJob.failed).conclude index ref .failed now
    (⟨events, none⟩, world.await (.failedSaving ref error.message))

def onExecuted (options : SessionOptions) (index ref : Nat) (outcome : Except SessionError (Option String))
    (executor : Option String) (now : Timestamp) (world : SessionQueue) : DrainReply × SessionQueue :=
  match outcome with
  | .ok final =>
    (⟨[.returned ref], none⟩, (world.edit ref (SessionJob.returned final executor)).await (.storing index ref))
  | .error error => (world.edit ref fun job => { job with executor := executor }).onFailure options index ref error now

def onSent (options : SessionOptions) (phase : DrainPhase) (outcome : Except SessionError Unit)
    (moment : DrainMoment) (world : SessionQueue) : DrainReply × SessionQueue :=
  match phase, outcome with
  | .delivering index ref, .ok () =>
    let (events, world) := world.conclude index ref .completed moment.now
    (⟨.sent ref :: events, none⟩, world.await (.delivered ref))
  | .delivering _ ref, .error error => world.retainForRetry options ref "结果回传" error moment.now
  | .busySending, _ | .retainSending, _ => (.silent, world.stop)
  | .failedSending, _ => world.goOn moment
  | _, _ => (.silent, world)

def onSaved (options : SessionOptions) (phase : DrainPhase) (outcome : Except SessionError Unit)
    (moment : DrainMoment) (world : SessionQueue) : DrainReply × SessionQueue :=
  match phase, outcome with
  | .delivered _, .ok () | .storing _ _, .ok () => world.goOn moment
  | .delivered ref, .error error => world.retainForRetry options ref "结果回传" error moment.now
  | .storing index ref, .error error => world.onFailure options index ref error moment.now
  | .busySaving ref, .ok () => (⟨[], world.items[ref]?.map SessionJob.busyMessage⟩, world.await .busySending)
  | .retainSaving ref stage, .ok () =>
    match world.items[ref]? with
    | some job =>
      if job.attempts = 1 ∨ job.attempts % 5 = 0 then
        (⟨[], some (job.retainMessage options stage)⟩, world.await .retainSending)
      else (.silent, world.stop)
    | none => (.silent, world.stop)
  | .failedSaving ref error, .ok () =>
    (⟨[], world.items[ref]?.map (SessionJob.failedMessage error)⟩, world.await .failedSending)
  -- A save that fails outside of a `try` ends the drain.
  | .busySaving _, .error _ | .retainSaving .., .error _ | .failedSaving .., .error _ => (.silent, world.stop)
  | _, _ => (.silent, world)

def perform (options : SessionOptions) (call : DrainCall) (world : SessionQueue) : DrainReply × SessionQueue :=
  match call with
  | .enqueue job =>
    (.silent, { world with items := world.items ++ [job], queue := world.queue ++ [world.items.length] })
  | .drain moment => world.drain moment
  | .executed outcome executor moment =>
    match world.draining with
    | some (.executing index ref) => world.onExecuted options index ref outcome executor moment.now
    | _ => (.silent, world)
  | .sent outcome moment =>
    match world.draining with
    | some phase => world.onSent options phase outcome moment
    | none => (.silent, world)
  | .saved outcome moment =>
    match world.draining with
    | some phase => world.onSaved options phase outcome moment
    | none => (.silent, world)

def machine (options : SessionOptions) (jobs : List SessionJob) (history : List ExecutionRecord) :
    Machine SessionQueue DrainCall DrainReply where
  initial := start jobs history
  perform := perform options

end SessionQueue

end QuarkSelfAI.BridgeCompat

import QuarkSelfAI.Foundation.IsoTime
import QuarkSelfAI.Foundation.Transition

/-!
# The wake scheduler

`DurableWakeScheduler`: immediate wake-ups share one drain, one future deadline has a
timer, and a recovery timer wakes now and then. Every callback brings the time it runs at.
-/

namespace QuarkSelfAI.Runtime

open Foundation

/-- `MAX_TIMER_DELAY_MS`. -/
def maxTimerDelay : Int := 2147000000

/-- The options that the constructor accepts. -/
structure WakeOptions where
  enabled : Bool
  recoveryIntervalMs : Option Nat
  maxPasses : Option Nat
  recovers : ∀ interval ∈ recoveryIntervalMs, 1000 ≤ interval
  passes : ∀ maximum ∈ maxPasses, 1 ≤ maximum

def WakeOptions.maximum (options : WakeOptions) : Nat := options.maxPasses.getD 100

theorem WakeOptions.maximum_pos (options : WakeOptions) : 0 < options.maximum := by
  unfold WakeOptions.maximum
  cases limited : options.maxPasses with
  | none => decide
  | some maximum => exact options.passes maximum (by rw [limited]; rfl)

/-- A timeout: the deadline it is for, and when it fires. -/
structure WakeTimer where
  deadline : Timestamp
  firesAt : Timestamp

structure Scheduler where
  wakePending : Bool
  draining : Bool
  scheduledTimer : Option WakeTimer
  scheduledAt : Option Timestamp
  recoveryTimer : Bool
  drainImmediate : Bool
  disposed : Bool
  /-- The drains that wait for a run pass, with the passes they have made before. -/
  drains : List Nat

/-- The argument of `wake`, read as a time. -/
inductive WakeAt where
  | absent
  | unreadable
  | instant (time : Timestamp)
deriving DecidableEq

/-- The time that is awaited, unless it has come. -/
def WakeAt.future? (now : Timestamp) : WakeAt → Option Timestamp
  | .instant time => if time ≤ now then none else some time
  | _ => none

/-- How a run pass ends, and whether `continueAfter` asks for another. -/
inductive PassEnd where
  | returned (again : Bool)
  | threw
deriving DecidableEq

/-- Calls of the scheduler and of its callbacks. -/
inductive WakeCall where
  | wake (requested : WakeAt) (now : Timestamp)
  | recover (now : Timestamp)
  | immediate (now : Timestamp)
  | timer (now : Timestamp)
  | settle (index : Nat) (ending : PassEnd) (now : Timestamp)
  | dispose (now : Timestamp)
deriving DecidableEq

def WakeCall.time : WakeCall → Timestamp
  | .wake _ now => now
  | .recover now => now
  | .immediate now => now
  | .timer now => now
  | .settle _ _ now => now
  | .dispose now => now

namespace Scheduler

def initial (options : WakeOptions) : Scheduler where
  wakePending := false
  draining := false
  scheduledTimer := none
  scheduledAt := none
  recoveryTimer := options.enabled
  drainImmediate := false
  disposed := false
  drains := []

def scheduleFuture (timestamp now : Timestamp) (scheduler : Scheduler) : Scheduler :=
  { scheduler with
    scheduledTimer := some ⟨timestamp, now + min (max 0 (timestamp - now)) maxTimerDelay⟩ }

def wake (options : WakeOptions) (requested : WakeAt) (now : Timestamp) (scheduler : Scheduler) : Scheduler :=
  if options.enabled = false ∨ scheduler.disposed = true then scheduler
  else match requested.future? now with
    | none =>
      if scheduler.draining = true then { scheduler with wakePending := true }
      else { scheduler with wakePending := true, draining := true, drainImmediate := true }
    | some timestamp =>
      if scheduler.scheduledAt.any (fun scheduled => scheduled ≤ timestamp) = true then scheduler
      else scheduleFuture timestamp now { scheduler with scheduledAt := some timestamp }

/-- The `finally` block of `drain`. -/
def finishDrain (options : WakeOptions) (now : Timestamp) (scheduler : Scheduler) : Scheduler :=
  if scheduler.disposed = false ∧ scheduler.wakePending = true then
    wake options .absent now { scheduler with draining := false }
  else { scheduler with draining := false }

/-- The loop of `drain` from its test on: it starts a run pass, or it ends. -/
def drain (options : WakeOptions) (passes : Nat) (now : Timestamp) (scheduler : Scheduler) : Bool × Scheduler :=
  if scheduler.disposed = false ∧ scheduler.wakePending = true ∧ passes < options.maximum then
    (true, { scheduler with wakePending := false, drains := passes :: scheduler.drains })
  else (false, finishDrain options now scheduler)

def dispose (scheduler : Scheduler) : Scheduler :=
  { scheduler with
    disposed := true, wakePending := false, recoveryTimer := false, scheduledTimer := none
    drainImmediate := false, scheduledAt := none }

/-- Answer a call, and tell whether it starts a run pass. A callback that is not
scheduled does nothing. -/
def perform (options : WakeOptions) (call : WakeCall) (scheduler : Scheduler) : Bool × Scheduler :=
  match call with
  | .wake requested now => (false, wake options requested now scheduler)
  | .recover now =>
    if scheduler.recoveryTimer = true then (false, wake options .absent now scheduler)
    else (false, scheduler)
  | .immediate now =>
    if scheduler.drainImmediate = true then
      drain options 0 now { scheduler with drainImmediate := false }
    else (false, scheduler)
  | .timer now =>
    match scheduler.scheduledTimer with
    | none => (false, scheduler)
    | some timer =>
      if scheduler.disposed = true then (false, { scheduler with scheduledTimer := none })
      else if now < timer.deadline then (false, scheduleFuture timer.deadline now scheduler)
      else (false, wake options (.instant timer.deadline) now
        { scheduler with scheduledTimer := none, scheduledAt := none })
  | .settle index ending now =>
    match scheduler.drains[index]? with
    | none => (false, scheduler)
    | some passes =>
      let rest := { scheduler with drains := scheduler.drains.eraseIdx index }
      match ending with
      | .returned again => drain options (passes + 1) now { rest with wakePending := rest.wakePending || again }
      | .threw => (false, finishDrain options now rest)
  | .dispose _ => (false, scheduler.dispose)

def machine (options : WakeOptions) : Machine Scheduler WakeCall Bool where
  initial := initial options
  perform := perform options

end Scheduler

end QuarkSelfAI.Runtime

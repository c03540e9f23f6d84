import Mathlib.Algebra.Group.Int.Defs
import QuarkSelfAI.Foundation.IsoTime
import QuarkSelfAI.Foundation.Suspension

/-!
# Approved executions

`applyExecutionDecision` and `processApprovedExecution` over the state that `StateStore`
keeps: `save` queues an operation that writes the state as it is when the operation begins,
and `load` reads what was written last. A restart drops whatever waits. An entry has a serial
number that the code does not see; it tells entries of the same content apart and stays with
an entry that is read back. The error text that is kept for display is left out.
-/

namespace QuarkSelfAI.BridgeCompat

open Foundation

inductive ExecutionStatus where
  | pending
  | approved
  | declined
  | executing
  | completed
deriving DecidableEq

/-- An entry of `mentionExecutionConfirmations`. -/
structure ExecutionConfirmation where
  serial : Nat
  sourceMessageId : String
  title : String
  sessionId : String
  approvalId : String
  planDigest : String
  plan : String
  status : ExecutionStatus
  attempts : Nat
  decidedAt : Option Timestamp
  nextAttemptAt : Option Timestamp
  completedAt : Option Timestamp

/-- What a button of the approval card holds. -/
structure ExecutionAction where
  sourceMessageId : Option String
  approvalId : Option String
  planDigest : Option String
  decision : Option String

/-- A call that waits, with the place of its entry. -/
inductive SuspendedExecution where
  /-- A click saves its decision. -/
  | deciding (index : Nat) (approved : Bool)
  /-- A pass saves that it executes. -/
  | starting (index : Nat)
  /-- A pass waits for the runner. -/
  | executing (index : Nat)
  /-- A pass saves that the entry is completed. -/
  | completing (index : Nat) (final : String)
  /-- A pass sends its report. -/
  | reporting (index : Nat)
  /-- A pass saves that it tries again. -/
  | retrying (index : Nat)

/-- An operation of the save queue: the ticket of the call that awaits it, if any does. -/
abbrev SaveOperation := Option Nat

structure Executions where
  memory : List ExecutionConfirmation
  /-- The entries in the state file. -/
  disk : List ExecutionConfirmation
  saves : List SaveOperation
  /-- The entries that the first operation of the queue writes, once it has begun. -/
  writing : Option (List ExecutionConfirmation)
  calls : Suspension SuspendedExecution
  nextSerial : Nat

structure ExecutionAnswer where
  result : String
  tone : String

inductive ExecutionCall where
  /-- `requestExecutionApproval` enters a plan. -/
  | request (confirmation : ExecutionConfirmation)
  | apply (action : ExecutionAction) (now : Timestamp)
  /-- `processApprovedExecution` is called. -/
  | pass (now : Timestamp)
  /-- Another component saves the state. -/
  | save
  | beginSave
  | endSave (outcome : Except String Unit) (now : Timestamp)
  /-- The runner returns its report, or throws. -/
  | executed (ticket : Nat) (outcome : Except String String) (now : Timestamp)
  | reported (ticket : Nat) (now : Timestamp)
  /-- The process ends and `load` runs in a new one. -/
  | restart

/-- What a step shows: the serial of an entry that a click approves, the entry whose plan the
runner is called for, the serial of one for which it has returned, and how a call ends. -/
structure ExecutionReply where
  approved : Option Nat
  executes : Option ExecutionConfirmation
  returned : Option Nat
  answer : Option (Except String ExecutionAnswer)

def ExecutionReply.silent : ExecutionReply := ⟨none, none, none, none⟩

namespace ExecutionConfirmation

/-- The entry that a click is about, as long as it is pending. -/
def meets (action : ExecutionAction) (entry : ExecutionConfirmation) : Bool :=
  action.sourceMessageId = some entry.sourceMessageId ∧ action.approvalId = some entry.approvalId ∧
    action.planDigest = some entry.planDigest ∧ entry.status = .pending

/-- The entry is approved, and its next attempt is due. -/
def due (now : Timestamp) (entry : ExecutionConfirmation) : Bool :=
  entry.status = .approved && entry.nextAttemptAt.all fun next => next ≤ now

def decide (approved : Bool) (now : Timestamp) (entry : ExecutionConfirmation) : ExecutionConfirmation :=
  { entry with
    status := if approved = true then .approved else .declined, decidedAt := some now, nextAttemptAt := none }

def execute (entry : ExecutionConfirmation) : ExecutionConfirmation :=
  { entry with status := .executing }

def complete (now : Timestamp) (entry : ExecutionConfirmation) : ExecutionConfirmation :=
  { entry with status := .completed, completedAt := some now }

/-- The `catch` block of a pass. -/
def retry (now : Timestamp) (entry : ExecutionConfirmation) : ExecutionConfirmation :=
  { entry with
    status := .approved, attempts := entry.attempts + 1
    nextAttemptAt := some (now + min 60 (2 ^ min (entry.attempts + 1) 6) * 60000) }

/-- What `load` does with an entry that was executing. -/
def reload (entry : ExecutionConfirmation) : ExecutionConfirmation :=
  if entry.status = .executing then { entry with status := .approved, nextAttemptAt := none } else entry

def answer (approved : Bool) (entry : ExecutionConfirmation) : ExecutionAnswer :=
  if approved = true then
    ⟨s!"已批准执行：**{entry.title}**\n\n将在原 Codex 会话中严格按已批准方案继续。", "green"⟩
  else ⟨s!"已记录暂不执行：**{entry.title}**\n\n方案和会话保留。", "grey"⟩

end ExecutionConfirmation

namespace Executions

def empty : Executions where
  memory := []
  disk := []
  saves := []
  writing := none
  calls := .empty
  nextSerial := 0

/-- `await this.state.save()`: the call waits for its operation. -/
def awaitSave (call : SuspendedExecution) (world : Executions) : Executions :=
  { world with calls := world.calls.suspend call, saves := world.saves ++ [some world.calls.next] }

def edit (index : Nat) (change : ExecutionConfirmation → ExecutionConfirmation) (world : Executions) : Executions :=
  { world with memory := world.memory.modify index change }

def resume (ticket : Nat) (world : Executions) : Executions :=
  { world with calls := world.calls.resume ticket }

def request (confirmation : ExecutionConfirmation) (world : Executions) : Executions :=
  { world with
    memory := world.memory ++ [{ confirmation with
      serial := world.nextSerial, status := .pending, attempts := 0, decidedAt := none, nextAttemptAt := none
      completedAt := none }]
    saves := world.saves ++ [none]
    nextSerial := world.nextSerial + 1 }

def applyExecutionDecision (action : ExecutionAction) (now : Timestamp) (world : Executions) :
    ExecutionReply × Executions :=
  match world.memory.findIdx? (·.meets action) with
  | none => (⟨none, none, none, some (.ok ⟨"这份方案已处理、已失效或批准信息不匹配。", "grey"⟩)⟩, world)
  | some index =>
    let approved := decide (action.decision = some "approve")
    let serial := if approved = true then world.memory[index]?.map ExecutionConfirmation.serial else none
    (⟨serial, none, none, none⟩, (world.edit index (·.decide approved now)).awaitSave (.deciding index approved))

/-- The loop of a pass from a place on: it takes up the next entry that is due, or it ends. -/
def advance (index : Nat) (now : Timestamp) (world : Executions) : Executions :=
  match (world.memory.drop index).findIdx? (·.due now) with
  | none => world
  | some steps => (world.edit (index + steps) (·.execute)).awaitSave (.starting (index + steps))

/-- A call goes on after its save. -/
def onSaved (ticket : Nat) (outcome : Except String Unit) (now : Timestamp) (world : Executions) :
    ExecutionReply × Executions :=
  match world.calls.find? ticket, outcome with
  | some (.deciding index approved), .ok () =>
    (⟨none, none, none, (world.memory[index]?.map fun entry => .ok (entry.answer approved))⟩, world.resume ticket)
  | some (.deciding _ _), .error message => (⟨none, none, none, some (.error message)⟩, world.resume ticket)
  | some (.starting index), .ok () =>
    (⟨none, world.memory[index]?, none, none⟩,
      { world with calls := (world.calls.resume ticket).suspend (.executing index) })
  | some (.starting _), .error _ => (.silent, world.resume ticket)
  | some (.completing index _), .ok () =>
    (.silent, { world with calls := (world.calls.resume ticket).suspend (.reporting index) })
  | some (.completing index _), .error _ =>
    (.silent, ((world.resume ticket).edit index (·.retry now)).awaitSave (.retrying index))
  | some (.retrying index), .ok () => (.silent, (world.resume ticket).advance (index + 1) now)
  | some (.retrying _), .error _ => (.silent, world.resume ticket)
  | _, _ => (.silent, world)

/-- The runner has answered: the entry is completed, or tried again. -/
def onExecuted (ticket index : Nat) (outcome : Except String String) (now : Timestamp) (world : Executions) :
    ExecutionReply × Executions :=
  match outcome with
  | .ok final =>
    (⟨none, none, world.memory[index]?.map ExecutionConfirmation.serial, none⟩,
      ((world.resume ticket).edit index (·.complete now)).awaitSave (.completing index final))
  | .error _ => (.silent, ((world.resume ticket).edit index (·.retry now)).awaitSave (.retrying index))

/-- `load`, after everything that waited is gone. -/
def restart (world : Executions) : Executions :=
  { world with
    memory := world.disk.map ExecutionConfirmation.reload
    saves := if world.disk.any fun entry => entry.status = .executing then [none] else []
    writing := none
    calls := world.calls.clear }

/-- Answer a call. What is not awaited does nothing. -/
def perform (call : ExecutionCall) (world : Executions) : ExecutionReply × Executions :=
  match call with
  | .request confirmation => (.silent, world.request confirmation)
  | .apply action now => world.applyExecutionDecision action now
  | .pass now => (.silent, world.advance 0 now)
  | .save => (.silent, { world with saves := world.saves ++ [none] })
  | .beginSave =>
    if world.saves ≠ [] ∧ world.writing = none then (.silent, { world with writing := some world.memory })
    else (.silent, world)
  | .endSave outcome now =>
    match world.writing, world.saves with
    | some entries, operation :: others =>
      let disk := if outcome.isOk = true then entries else world.disk
      let ended := { world with disk, saves := others, writing := none }
      match operation with
      | some ticket => ended.onSaved ticket outcome now
      | none => (.silent, ended)
    | _, _ => (.silent, world)
  | .executed ticket outcome now =>
    match world.calls.find? ticket with
    | some (.executing index) => world.onExecuted ticket index outcome now
    | _ => (.silent, world)
  | .reported ticket now =>
    match world.calls.find? ticket with
    | some (.reporting index) => (.silent, (world.resume ticket).advance (index + 1) now)
    | _ => (.silent, world)
  | .restart => (.silent, world.restart)

def machine : Machine Executions ExecutionCall ExecutionReply where
  initial := empty
  perform := perform

end Executions

end QuarkSelfAI.BridgeCompat

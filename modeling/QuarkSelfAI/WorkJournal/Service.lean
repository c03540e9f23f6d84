import QuarkSelfAI.Foundation.IsoOrder
import QuarkSelfAI.Foundation.Recent
import QuarkSelfAI.Foundation.Transition

/-!
# The daily close of the work journal

A poll closes at most one day: it marks its attempt in the checkpoint, lets the day's record be compiled,
appends the record as the signal of the day and writes the checkpoint again. The polls come one after the
other at times that do not decrease. A statement of the store that throws has not been made, and a crash may
come between any two of them. Days are counted in China-local time, and `dayText` is the text of a day.
-/

namespace QuarkSelfAI.WorkJournal

open Foundation

/-! ## Days -/

def dayMs : Int := 86400000

/-- The offset of Asia/Shanghai. -/
def chinaOffset : Int := 8 * 3600000

/-- The number of a local day since 1970-01-01. -/
def localDay (now : Timestamp) : Int := (now + chinaOffset) / dayMs

def localHour (now : Timestamp) : Int := (now + chinaOffset) % dayMs / 3600000

/-- A day as the source has it, `YYYY-MM-DD`. -/
def dayText (day : Int) : String := String.ofList ((toISOString (day * dayMs)).toList.take 10)

def shiftDay (day amount : Int) : Int := day + amount

theorem localDay_le {earlier later : Timestamp} (ordered : (earlier : Int) ≤ later) :
    localDay earlier ≤ localDay later :=
  Int.ediv_le_ediv (by decide) (Int.add_le_add_right ordered chinaOffset)

/-! ## The store -/

/-- `failure` of the checkpoint: what delays the next attempt. -/
structure CloseFailure where
  since : Timestamp
  lastAt : Timestamp
  attempts : Nat
  error : String
  nextAttemptAt : Timestamp
deriving DecidableEq

/-- `WorkJournalCheckpoint`. -/
structure Checkpoint where
  lastClosedDay : Option Int := none
  lastAttemptAt : Option Timestamp := none
  failure : Option CloseFailure := none
deriving DecidableEq

/-- A record that `dailyWorkJournalRecord` accepted. -/
structure DailyRecord (Content : Type) where
  day : Int
  content : Content
deriving DecidableEq

/-- `workJournalSignal`: the record of a day is the data of the signal, and the day gives its id, its scope
and the time at which it occurred. -/
structure JournalSignal (Content : Type) where
  data : DailyRecord Content
deriving DecidableEq

namespace JournalSignal

variable {Content : Type}

def day (signal : JournalSignal Content) : Int := signal.data.day

def id (signal : JournalSignal Content) : String := s!"work-journal:daily:{dayText signal.day}"

/-- `${day}T23:59:59.999+08:00`. -/
def occurredAt (signal : JournalSignal Content) : Timestamp := (signal.day + 1) * dayMs - chinaOffset - 1

end JournalSignal

section

variable {Content : Type} [DecidableEq Content]

/-- `appendSignal`: the signal of another day has another id. -/
def appendSignal (signal : JournalSignal Content) (signals : List (JournalSignal Content)) :
    Except String (List (JournalSignal Content)) :=
  match signals.find? (·.day = signal.day) with
  | none => .ok (signals ++ [signal])
  | some existing =>
    if existing = signal then .ok signals
    else .error s!"signal {signal.id} already exists with different durable content"

end

def recentSignals {Content : Type} (limit : Nat) (signals : List (JournalSignal Content)) :
    List (JournalSignal Content) :=
  (signals.insertionSort fun left right => right.occurredAt ≤ left.occurredAt).take limit

structure JournalStore (Content : Type) where
  signals : List (JournalSignal Content) := []
  checkpoint : Option Checkpoint := none
deriving DecidableEq

namespace JournalStore

variable {Content : Type}

/-- `readFeatureCheckpoint(..) ?? {}`. -/
def readCheckpoint (store : JournalStore Content) : Checkpoint := store.checkpoint.getD {}

def writeCheckpoint (value : Checkpoint) (store : JournalStore Content) : JournalStore Content :=
  { store with checkpoint := some value }

/-- The days with a stored signal, in the order in which they were stored. -/
def days (store : JournalStore Content) : List Int := store.signals.map (·.day)

def lastClosedDay (store : JournalStore Content) : Option Int := store.readCheckpoint.lastClosedDay

end JournalStore

/-! ## One poll -/

structure WorkJournalConfig where
  closeHour : Int

def targetWorkJournalDay (checkpoint : Checkpoint) (now : Timestamp) (closeHour : Int) : Option Int :=
  if localHour now < closeHour then none
  else
    let latestClosed := shiftDay (localDay now) (-1)
    match checkpoint.lastClosedDay with
    | none => some latestClosed
    | some lastClosedDay =>
      let next := shiftDay lastClosedDay 1
      if next ≤ latestClosed then some next else none

/-- The last failure still delays an attempt. -/
def delayed (checkpoint : Checkpoint) (now : Timestamp) : Bool :=
  checkpoint.failure.any fun failure => now < failure.nextAttemptAt

/-- What is kept of a poll that attempts to close a day. -/
structure Attempt where
  day : Int
  /-- The checkpoint with the time of this attempt. -/
  attempted : Checkpoint
  now : Timestamp
  /-- `controller.signal.aborted`. -/
  aborted : Bool := false
deriving DecidableEq

def closedCheckpoint (day : Int) (now : Timestamp) : Checkpoint := ⟨some day, some now, none⟩

/-- The checkpoint that retains a failure. -/
def failedCheckpoint (attempt : Attempt) (error : String) : Checkpoint :=
  let attempts := ((attempt.attempted.failure.map (·.attempts)).getD 0) + 1
  { attempt.attempted with
    failure := some
      { since := (attempt.attempted.failure.map (·.since)).getD attempt.now
        lastAt := attempt.now
        attempts
        error := utf16Take 2000 error
        nextAttemptAt := attempt.now + min (6 * 3600000) (attempts * (30 * 60000)) } }

/-- Where a poll stands: what it waits for, or the write that it makes next. -/
inductive Phase (Content : Type) where
  | idle
  /-- The signal of the day is stored already. -/
  | repairing (day : Int) (now : Timestamp)
  | attempting (attempt : Attempt)
  /-- Evidence and compiler are at work. -/
  | compiling (attempt : Attempt)
  | appending (attempt : Attempt) (record : DailyRecord Content)
  | closing (attempt : Attempt)
  | retaining (attempt : Attempt) (error : String)
deriving DecidableEq

structure JournalService (Content : Type) where
  store : JournalStore Content := {}
  phase : Phase Content := .idle
  /-- The time of the last poll. -/
  polledAt : Option Timestamp := none
deriving DecidableEq

inductive JournalLabel (Content : Type) where
  | poll (now : Timestamp)
  /-- A poll that cannot read the store. -/
  | unread (now : Timestamp)
  /-- The next write is made. -/
  | written
  /-- The next write throws. -/
  | thrown (error : String)
  /-- What evidence, compiler and `dailyWorkJournalRecord` give together. -/
  | compiled (outcome : Except String (DailyRecord Content))
  | stop
  | crash

namespace Phase

variable {Content : Type}

/-- The `catch` of a poll. -/
def caught (attempt : Attempt) (error : String) : Phase Content :=
  if attempt.aborted then .idle else .retaining attempt error

/-- What follows the next write. -/
def afterwards : Phase Content → Phase Content
  | .idle => .idle
  | .repairing _ _ => .idle
  | .attempting attempt => .compiling attempt
  | .compiling attempt => .compiling attempt
  | .appending attempt _ => .closing attempt
  | .closing _ => .idle
  | .retaining _ _ => .idle

/-- What follows if the next write throws. -/
def failing (error : String) : Phase Content → Phase Content
  | .appending attempt _ => caught attempt error
  | .closing attempt => caught attempt error
  | _ => .idle

/-- `controller?.abort()`. -/
def abort : Phase Content → Phase Content
  | .compiling attempt => .compiling { attempt with aborted := true }
  | .appending attempt record => .appending { attempt with aborted := true } record
  | .closing attempt => .closing { attempt with aborted := true }
  | phase => phase

variable [DecidableEq Content]

/-- The write that a poll makes next, if it does not wait. -/
def write (store : JournalStore Content) : Phase Content → Option (Except String (JournalStore Content))
  | .idle => none
  | .repairing day now => some (.ok (store.writeCheckpoint (closedCheckpoint day now)))
  | .attempting attempt => some (.ok (store.writeCheckpoint attempt.attempted))
  | .compiling _ => none
  | .appending _ record => some ((appendSignal ⟨record⟩ store.signals).map fun signals => { store with signals })
  | .closing attempt => some (.ok (store.writeCheckpoint (closedCheckpoint attempt.day attempt.now)))
  | .retaining attempt error => some (.ok (store.writeCheckpoint (failedCheckpoint attempt error)))

end Phase

namespace JournalService

variable {Content : Type} [DecidableEq Content] (config : WorkJournalConfig)

/-- The first part of `poll`, up to its first write. -/
def begun (store : JournalStore Content) (now : Timestamp) : Phase Content :=
  let checkpoint := store.readCheckpoint
  if delayed checkpoint now then .idle
  else
    match targetWorkJournalDay checkpoint now config.closeHour with
    | none => .idle
    | some day =>
      if (recentSignals 3660 store.signals).any (·.day = day) then .repairing day now
      else .attempting { day, attempted := { checkpoint with lastAttemptAt := some now }, now }

/-- A poll can start: none is at work, and the time has not gone back. -/
def ready (service : JournalService Content) (now : Timestamp) : Prop :=
  service.phase = .idle ∧ ∀ polledAt ∈ service.polledAt, (polledAt : Int) ≤ now

instance (service : JournalService Content) (now : Timestamp) : Decidable (service.ready now) :=
  inferInstanceAs (Decidable (_ ∧ _))

def perform : JournalLabel Content → JournalService Content → Option (JournalService Content)
  | .poll now, service =>
    if service.ready now then
      some { service with phase := begun config service.store now, polledAt := some now }
    else none
  | .unread now, service => if service.ready now then some { service with polledAt := some now } else none
  | .written, service =>
    match service.phase.write service.store with
    | none => none
    | some (.ok store) => some { service with store, phase := service.phase.afterwards }
    | some (.error error) => some { service with phase := service.phase.failing error }
  | .thrown error, service =>
    match service.phase.write service.store with
    | none => none
    | some _ => some { service with phase := service.phase.failing error }
  | .compiled outcome, service =>
    match service.phase, outcome with
    | .compiling attempt, .error error => some { service with phase := .caught attempt error }
    | .compiling attempt, .ok record =>
      if record.day = attempt.day then some { service with phase := .appending attempt record }
      else
        let error := s!"compiled work journal day {dayText record.day} does not match {dayText attempt.day}"
        some { service with phase := .caught attempt error }
    | _, _ => none
  | .stop, service => some { service with phase := service.phase.abort }
  | .crash, service => some { service with phase := .idle }

def machine : GuardedMachine (JournalService Content) (JournalLabel Content) where
  initial := {}
  perform := perform config

end JournalService

end QuarkSelfAI.WorkJournal

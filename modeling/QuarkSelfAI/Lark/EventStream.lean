import QuarkSelfAI.Foundation.JsValue
import QuarkSelfAI.Foundation.Transition

/-!
# One lark-cli event stream

`LarkEventStream` from the point at which `start` waits for readiness. Its callbacks
arrive in any order; each is one call, and a handler that is awaited ends with a call of
its own. A drain is suspended in a handler only, and pausing the child's output changes
nothing but when lines arrive.
-/

namespace QuarkSelfAI.Lark

open Foundation

inductive StreamState where
  | idle
  | starting
  | ready
  | stopping
  | failed
deriving DecidableEq

/-- The promise `ready`, on which `start` waits; its timer is cleared when it settles. -/
inductive Startup where
  | pending
  | resolved
  | rejected
deriving DecidableEq

/-- `maxBufferedLines`. -/
def maxBufferedLines : Nat := 128

/-- `JSON.parse` and `normalizeLarkEvent`, with no value where they throw. -/
structure StreamHost (Event : Type) where
  parse : String → Option JsValue
  normalizeLarkEvent : String → JsValue → Option Event

/-- The event of a line: `normalizeLarkEvent(options.eventKey, JSON.parse(line))`. -/
def StreamHost.payload {Event : Type} (host : StreamHost Event) (eventKey line : String) : Option Event :=
  (host.parse line).bind (host.normalizeLarkEvent eventKey)

structure LarkEventStream (Event : Type) where
  /-- Whether `this.child` is set. -/
  child : Bool
  state : StreamState
  closed : Bool
  startup : Startup
  /-- Whether the abort listener is registered. -/
  listening : Bool
  lines : List String
  draining : Bool
  /-- The handlers that are awaited. -/
  awaiting : List Event
  lastErrorCategory : String
  /-- The calls of `stop` that wait. -/
  stops : Nat

inductive StreamCall where
  | stdout (line : String)
  | stderr (line : String)
  | error
  /-- The child closes, with its code or signal. -/
  | close (code : Option String)
  | abort
  | timeout
  /-- An awaited handler ends. -/
  | handled (index : Nat) (accepted : Bool)
  | stop
  /-- A call of `stop` sees the child closed and the dispatch done, or runs out of time. -/
  | stopSettled (confirmed : Bool)

/-- The event that a callback passes to `onEvent`, and the failure it reports. -/
structure StreamReply (Event : Type) where
  dispatched : Option Event
  failure : Option String

/-! ## Standard error -/

def isWordChar (char : Char) : Bool := char.isAlphanum || char = '_'

/-- The word characters of a pattern that ignores case: `ſ` and the Kelvin sign count too. -/
def isFoldedWordChar (char : Char) : Bool := isWordChar char || char.toNat = 0x17F || char.toNat = 0x212A

def foldCase (char : Char) : Char :=
  if char.toNat = 0x17F then 's' else if char.toNat = 0x212A then 'k' else char.toLower

/-- The text after a word that starts at a word boundary, at each place it is found. -/
def afterWord (isWord : Char → Bool) (fold : Char → Char) (word : List Char) :
    Option Char → List Char → List (List Char)
  | _, [] => []
  | before, char :: rest =>
    let others := afterWord isWord fold word (some char) rest
    if before.any isWord = false ∧ word.isPrefixOf ((char :: rest).map fold) then
      (char :: rest).drop word.length :: others
    else others

/-- `/\bWARN\b/u` and `/\b(drop|skip)/iu`. -/
def warnsOfDrop (line : String) : Bool :=
  ((afterWord isWordChar id "WARN".toList none line.toList).any fun rest => rest.head?.any isWordChar = false) &&
  ["drop", "skip"].any fun word => !(afterWord isFoldedWordChar foldCase word.toList none line.toList).isEmpty

example : warnsOfDrop "[WARN] event Dropped" = true := by decide

example : warnsOfDrop "WARNING: backdrop" = false := by decide

/-- `/^[a-zA-Z_][a-zA-Z_0-9-]{0,63}$/u`. -/
def isSafeCategory (value : String) : Bool :=
  match value.toList with
  | [] => false
  | first :: rest =>
    (first.isAlpha || first = '_') && rest.length ≤ 63 && rest.all fun char => isWordChar char || char = '-'

def safeCategory (value : String) : String := if isSafeCategory value then value else "unknown"

/-- The category of an error object on standard error. -/
def errorCategory (parsed : Option JsValue) : String :=
  match parsed with
  | none | some .null | some .undefined => "cli-error"
  | some value =>
    let type := ((value.get "error").text? "type").getD "cli-error"
    let subtype := ((value.get "error").text? "subtype").getD "unknown"
    s!"{safeCategory type}.{safeCategory subtype}"

def readyLine (eventKey : String) : String := s!"[event] ready event_key={eventKey}"

namespace LarkEventStream

variable {Event : Type}

/-- The stream when `start` waits for readiness; a signal may be given. -/
def starting (signal : Bool) : LarkEventStream Event where
  child := true
  state := .starting
  closed := false
  startup := .pending
  listening := signal
  lines := []
  draining := false
  awaiting := []
  lastErrorCategory := "unknown"
  stops := 0

/-- Fail, unless the stream is over, and report the failure. -/
def fail (eventKey category : String) (stream : LarkEventStream Event) : StreamReply Event × LarkEventStream Event :=
  match stream.state with
  | .failed | .stopping | .idle => (⟨none, none⟩, stream)
  | .starting | .ready =>
    (⟨none, some s!"lark-cli event stream {eventKey} failed: {category}"⟩, { stream with
        state := .failed, lines := []
        startup := if stream.startup = .pending then .rejected else stream.startup })

/-- The loop of `drain` from its test on: it ends, or it waits for a handler. -/
def dispatch (host : StreamHost Event) (eventKey : String) (stream : LarkEventStream Event) :
    StreamReply Event × LarkEventStream Event :=
  match stream.state, stream.lines with
  | .ready, line :: rest =>
    match host.payload eventKey line with
    | some event => (⟨some event, none⟩, { stream with lines := rest, awaiting := stream.awaiting ++ [event] })
    | none =>
      let (reply, failed) := fail eventKey "event-handler-or-payload" { stream with lines := rest }
      (reply, { failed with draining := false })
  | _, _ => (⟨none, none⟩, { stream with draining := false })

def drain (host : StreamHost Event) (eventKey : String) (stream : LarkEventStream Event) :
    StreamReply Event × LarkEventStream Event :=
  if stream.draining = true ∨ stream.state ≠ .ready then (⟨none, none⟩, stream)
  else dispatch host eventKey { stream with draining := true }

def onStdout (host : StreamHost Event) (eventKey line : String) (stream : LarkEventStream Event) :
    StreamReply Event × LarkEventStream Event :=
  if stream.state ≠ .starting ∧ stream.state ≠ .ready then (⟨none, none⟩, stream)
  else if isBlank line = true then (⟨none, none⟩, stream)
  else if maxBufferedLines ≤ stream.lines.length then fail eventKey "local-buffer-limit" stream
  else if stream.draining = true then (⟨none, none⟩, { stream with lines := stream.lines ++ [line] })
  else drain host eventKey { stream with lines := stream.lines ++ [line] }

def onStderr (host : StreamHost Event) (eventKey line : String) (stream : LarkEventStream Event) :
    StreamReply Event × LarkEventStream Event :=
  if trim line = readyLine eventKey ∧ stream.state = .starting then
    let ready := { stream with state := .ready, startup := .resolved }
    if ready.lines ≠ [] ∧ ready.draining = false then drain host eventKey ready else (⟨none, none⟩, ready)
  else
    let told :=
      if startsWith (trim line) "\x7b" = true then
        { stream with lastErrorCategory := errorCategory (host.parse line) }
      else stream
    if warnsOfDrop line = true then fail eventKey "cli-event-drop-warning" told else (⟨none, none⟩, told)

def onClose (eventKey : String) (code : Option String) (stream : LarkEventStream Event) :
    StreamReply Event × LarkEventStream Event :=
  let closed := { stream with closed := true, listening := false }
  if stream.state ≠ .stopping ∧ stream.state ≠ .failed then
    let code := code.getD "unknown"
    fail eventKey s!"unexpected-close.{code}.{stream.lastErrorCategory}" closed
  else (⟨none, none⟩, closed)

/-- The drain goes on after a handler, or fails with it. -/
def onHandled (host : StreamHost Event) (eventKey : String) (index : Nat) (accepted : Bool)
    (stream : LarkEventStream Event) : StreamReply Event × LarkEventStream Event :=
  let rest := { stream with awaiting := stream.awaiting.eraseIdx index }
  if accepted = true then dispatch host eventKey rest
  else
    let (reply, failed) := fail eventKey "event-handler-or-payload" rest
    (reply, { failed with draining := false })

def stop (stream : LarkEventStream Event) : LarkEventStream Event :=
  if stream.child = true then { stream with state := .stopping, stops := stream.stops + 1 } else stream

def onStopSettled (confirmed : Bool) (stream : LarkEventStream Event) : LarkEventStream Event :=
  let rest := { stream with stops := stream.stops - 1 }
  if confirmed = true then { rest with child := false, state := .idle } else { rest with state := .failed }

/-- Answer a call. A callback that cannot come does nothing. -/
def perform (host : StreamHost Event) (eventKey : String) (call : StreamCall)
    (stream : LarkEventStream Event) : StreamReply Event × LarkEventStream Event :=
  match call with
  | .stdout line => onStdout host eventKey line stream
  | .stderr line => onStderr host eventKey line stream
  | .error => fail eventKey "child-process-error" stream
  | .close code => if stream.closed = true then (⟨none, none⟩, stream) else onClose eventKey code stream
  | .abort =>
    if stream.listening = true then fail eventKey "aborted" { stream with listening := false }
    else (⟨none, none⟩, stream)
  | .timeout => if stream.startup = .pending then fail eventKey "ready-timeout" stream else (⟨none, none⟩, stream)
  | .handled index accepted =>
    if index < stream.awaiting.length then onHandled host eventKey index accepted stream
    else (⟨none, none⟩, stream)
  | .stop => (⟨none, none⟩, stop stream)
  | .stopSettled confirmed =>
    if 0 < stream.stops ∧ (confirmed = true → stream.closed = true ∧ stream.awaiting = []) then
      (⟨none, none⟩, onStopSettled confirmed stream)
    else (⟨none, none⟩, stream)

def machine (host : StreamHost Event) (eventKey : String) (signal : Bool) :
    Machine (LarkEventStream Event) StreamCall (StreamReply Event) where
  initial := starting signal
  perform := perform host eventKey

end LarkEventStream

end QuarkSelfAI.Lark

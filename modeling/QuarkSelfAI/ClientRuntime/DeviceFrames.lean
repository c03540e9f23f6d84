import QuarkSelfAI.ClientRuntime.DeviceMessages

/-!
# Chunks of a device stream

A run of the decoder over the chunks of a stream. What is buffered is always less than a frame, so the check on its size
never fires; a run reads the frames of the concatenation as the framing decides them. Without a malformed frame the
chunks do not matter. With one, the frames of the same `push` are lost with it.
-/

namespace QuarkSelfAI.ClientRuntime

open Foundation

section Host

/- `parse` stands for `Date.parse`. -/
variable (parse : String → Option Timestamp)

/-- Push the chunks until one throws: the messages that were returned, and the error or the bytes that stay buffered. -/
def receive (buffer : List UInt8) : List (List UInt8) → List JsValue × Except String (List UInt8)
  | [] => ([], .ok buffer)
  | chunk :: chunks =>
    match push parse buffer chunk with
    | .error message => ([], .error message)
    | .ok (messages, buffer) =>
      let later := receive buffer chunks
      (messages ++ later.1, later.2)

variable {parse} {buffer : List UInt8}

theorem deviceFraming_next (bytes : List UInt8) : (deviceFraming parse).next bytes = nextFrame parse bytes := rfl

/-- A buffer on which nothing is decided is within the limit. -/
theorem nextFrame_none (waits : nextFrame parse buffer = none) : buffer.length ≤ maxDeviceFrameBytes + 4 := by
  match buffer, waits with
  | [], _ | [_], _ | [_, _], _ | [_, _, _], _ =>
    simp only [List.length_cons, List.length_nil]
    decide
  | first :: second :: third :: fourth :: rest, waits =>
    simp only [nextFrame] at waits
    split at waits
    · cases waits
    · rename_i right
      split at waits
      · rename_i short
        simp only [List.length_cons]
        omega
      · cases waits

/-- A run of the decoder is a run of the framing. -/
theorem receive_eq_feed (waits : nextFrame parse buffer = none) (chunks : List (List UInt8)) :
    receive parse buffer chunks = (deviceFraming parse).feed buffer chunks := by
  induction chunks generalizing buffer with
  | nil => rfl
  | cons chunk chunks ih =>
    rw [receive, Framing.feed, push]
    by_cases empty : chunk = []
    · rw [if_pos empty, empty, List.append_nil, Framing.scan_wait waits]
      dsimp only
      rw [ih waits]
      rfl
    · rw [if_neg empty]
      dsimp only
      cases found : ((deviceFraming parse).scan (buffer ++ chunk)).fault with
      | some fault => rfl
      | none =>
        have calm := Framing.next_rest _ found
        dsimp only
        rw [if_neg (Nat.not_lt.mpr (nextFrame_none calm))]
        dsimp only
        rw [ih calm]

/-! ## Frames that were encoded -/

theorem uint32_read {value : Nat} (small : value ≤ maxDeviceFrameBytes) :
    (((UInt8.ofNat (value / 16777216)).toNat * 256 + (UInt8.ofNat (value / 65536)).toNat) * 256 +
      (UInt8.ofNat (value / 256)).toNat) * 256 + (UInt8.ofNat value).toNat = value := by
  have limit : maxDeviceFrameBytes = 262144 := rfl
  simp only [UInt8.toNat_ofNat']
  omega

/-- What is encoded is one frame, of the message without its undefined members. -/
theorem nextFrame_encode {message : JsValue} {frame : List UInt8} (loose : message.Loose)
    (encoded : encodeDeviceProtocolFrame parse message = .ok frame) (more : List UInt8) :
    nextFrame parse (frame ++ more) = some (.ok message.stringified, frame.length) := by
  simp only [encodeDeviceProtocolFrame, bind_ok, throwIf_ok, Except.ok.injEq] at encoded
  obtain ⟨accepted, valid, ⟨⟩, fits, rfl⟩ := encoded
  obtain rfl : accepted = message := (validateDeviceProtocolMessage_ok.mp valid).1
  obtain ⟨text, written, read⟩ := Option.bind_eq_some_iff.mp loose.parse_stringify
  rw [written, Option.getD_some] at fits ⊢
  have decoded : decodeBody parse (utf8Bytes text) = .ok accepted.stringified := by
    rw [decodeBody, utf8Text_utf8Bytes, read]
    exact validate_stringified loose valid
  have filled : (utf8Bytes text).length ≠ 0 := by
    intro empty
    obtain ⟨first, rest, split, -⟩ := JsValue.stringify_head written
    have nothing := utf8Text_utf8Bytes text
    rw [List.length_eq_zero_iff.mp empty] at nothing
    rw [← nothing] at split
    cases split
  have length := uint32_read (Nat.not_lt.mp fits)
  rw [uint32Bytes, List.append_assoc]
  simp only [List.cons_append, List.nil_append, nextFrame]
  rw [length, if_neg (by omega), if_neg (by rw [List.length_append]; omega), List.take_left, decoded]
  simp only [List.length_cons]

/-- Frames that were encoded are read back one by one, and nothing is left. -/
theorem scan_encoded {messages : List JsValue} {frames : List (List UInt8)} (loose : ∀ message ∈ messages, message.Loose)
    (encoded : List.Forall₂ (fun message frame => encodeDeviceProtocolFrame parse message = .ok frame) messages frames) :
    ((deviceFraming parse).scan frames.flatten).frames.map Prod.fst = messages.map JsValue.stringified ∧
      ((deviceFraming parse).scan frames.flatten).fault = none ∧
        ((deviceFraming parse).scan frames.flatten).rest = [] := by
  induction encoded with
  | nil => exact ⟨rfl, rfl, rfl⟩
  | @cons message frame messages frames first others ih =>
    obtain ⟨own, later⟩ := List.forall_mem_cons.mp loose
    obtain ⟨items, calm, rest⟩ := ih later
    have front : (deviceFraming parse).next (frame ++ frames.flatten) = some (.ok message.stringified, frame.length) :=
      nextFrame_encode own first _
    rw [List.flatten_cons, Framing.scan_frame front, List.drop_left]
    exact ⟨by rw [List.map_cons, items, List.map_cons], calm, rest⟩

/-- Frames that were encoded are decoded as the messages they carry, in whatever chunks they arrive, and nothing stays
buffered. -/
theorem receive_encoded {messages : List JsValue} {frames chunks : List (List UInt8)}
    (loose : ∀ message ∈ messages, message.Loose)
    (encoded : List.Forall₂ (fun message frame => encodeDeviceProtocolFrame parse message = .ok frame) messages frames)
    (cut : chunks.flatten = frames.flatten) : receive parse [] chunks = (messages.map JsValue.stringified, .ok []) := by
  obtain ⟨items, calm, rest⟩ := scan_encoded loose encoded
  have waits : nextFrame parse [] = none := rfl
  rw [receive_eq_feed waits, Framing.feed_calm waits chunks (by rw [List.nil_append, cut]; exact calm), List.nil_append,
    cut, items, rest]

/-- A heartbeat; its cause is `null`. -/
def heartbeat : JsValue :=
  .object [("schemaVersion", .number 1), ("frameId", .string "f"), ("causationId", .null), ("tenantId", .string "t"),
    ("userId", .string "u"), ("deviceId", .string "d"), ("sentAt", .string "2026-01-01"),
    ("payload", .object [("kind", .string "client.heartbeat"), ("sessionId", .string "s")])]

def heartbeatBody : List UInt8 := utf8Bytes (heartbeat.stringify.getD "")

def heartbeatFrame : List UInt8 := uint32Bytes heartbeatBody.length ++ heartbeatBody

set_option maxRecDepth 3000 in
theorem heartbeat_encoded : encodeDeviceProtocolFrame parseNewYear heartbeat = .ok heartbeatFrame := by
  have valid : validateDeviceProtocolMessage parseNewYear heartbeat = .ok heartbeat := by decide
  have fits : ¬ maxDeviceFrameBytes < heartbeatBody.length := by decide
  simp only [encodeDeviceProtocolFrame, valid, bind_ok, throwIf_ok, Except.ok.injEq]
  exact ⟨heartbeat, rfl, (), fits, rfl⟩

theorem heartbeat_loose : heartbeat.Loose := by
  have decimal : IsDecimal 1 := by decide
  refine .object (by rw [JsValue.Distinct]; decide) fun member listed given => ?_
  simp only [List.mem_cons, List.not_mem_nil, or_false] at listed
  rcases listed with rfl | rfl | rfl | rfl | rfl | rfl | rfl | rfl
  · exact .number decimal
  · exact .string _
  · exact .null
  · exact .string _
  · exact .string _
  · exact .string _
  · exact .string _
  · refine .object (by rw [JsValue.Distinct]; decide) fun member listed given => ?_
    simp only [List.mem_cons, List.not_mem_nil, or_false] at listed
    rcases listed with rfl | rfl <;> exact .string _

/-- Two heartbeats, cut within the first length, after the first frame and nowhere else. -/
theorem receive_encoded_heartbeats :
    receive parseNewYear [] [heartbeatFrame.take 2, [], heartbeatFrame.drop 2, heartbeatFrame] =
      ([heartbeat.stringified, heartbeat.stringified], .ok []) :=
  receive_encoded (by simpa using heartbeat_loose) (.cons heartbeat_encoded (.cons heartbeat_encoded .nil))
    (by simp [← List.append_assoc])

/-! ## Independence of the chunks -/

variable (parse)

/-- The place in a stream by which a malformed frame is there, if there is one. -/
def malformedAt (bytes : List UInt8) : Option Nat :=
  let scanned := (deviceFraming parse).scan bytes
  scanned.fault.map fun fault => Framing.total scanned.frames + fault.2

/-- The places at which the frames before it end. -/
def frameEnds (bytes : List UInt8) : List Nat := Framing.ends ((deviceFraming parse).scan bytes).frames

/-- Where the chunk begins with which the chunks reach a place. -/
def chunkStart (place : Nat) (chunks : List (List UInt8)) : Nat := Framing.opened place 0 chunks

/-- The run throws. -/
def Throws (run : List JsValue × Except String (List UInt8)) : Prop := ∃ message, run.2 = .error message

/-- Two ways to cut one stream deliver the same messages before the first error, and both throw or neither does, exactly
when the chunks that reveal a malformed frame begin with no end of a frame between them. -/
theorem receive_same_iff {chunks others : List (List UInt8)} (same : chunks.flatten = others.flatten) :
    ((receive parse [] chunks).1 = (receive parse [] others).1 ∧
      (Throws (receive parse [] chunks) ↔ Throws (receive parse [] others))) ↔
    ∀ place ∈ malformedAt parse chunks.flatten, ∀ last ∈ frameEnds parse chunks.flatten,
      last ≤ chunkStart place chunks ↔ last ≤ chunkStart place others := by
  have waits : nextFrame parse [] = none := rfl
  rw [receive_eq_feed waits, receive_eq_feed waits]
  cases found : ((deviceFraming parse).scan chunks.flatten).fault with
  | none =>
    have calm := Framing.feed_calm waits chunks (by rwa [List.nil_append])
    have also := Framing.feed_calm waits others (by rwa [List.nil_append, ← same])
    rw [List.nil_append] at calm also
    have none : malformedAt parse chunks.flatten = none := by rw [malformedAt, found, Option.map_none]
    rw [← same] at also
    rw [calm, also, none]
    exact iff_of_true ⟨rfl, Iff.rfl⟩ fun _ listed => by cases listed
  | some fault =>
    obtain ⟨message, size⟩ := fault
    have one := Framing.feed_fault waits chunks (by rwa [List.nil_append])
    have other := Framing.feed_fault waits others (by rwa [List.nil_append, ← same])
    rw [List.nil_append] at one other
    rw [← same] at other
    have place : malformedAt parse chunks.flatten =
        some (Framing.total ((deviceFraming parse).scan chunks.flatten).frames + size) := by
      rw [malformedAt, found, Option.map_some]
    have both : Throws ((deviceFraming parse).feed [] chunks) ↔ Throws ((deviceFraming parse).feed [] others) := by
      rw [one, other]
      exact iff_of_true ⟨message, rfl⟩ ⟨message, rfl⟩
    rw [and_iff_left both, one, other, place, Framing.heard_eq_iff]
    simp only [Option.mem_some_iff, forall_eq', frameEnds, chunkStart, List.length_nil]

/-- A malformed length may follow a frame in the same chunk or not. -/
theorem receive_same_heartbeat : [heartbeatFrame, [0, 0], [0, 0]].flatten = [heartbeatFrame, [0, 0, 0, 0]].flatten ∧
    (((receive parseNewYear [] [heartbeatFrame, [0, 0], [0, 0]]).1 =
          (receive parseNewYear [] [heartbeatFrame, [0, 0, 0, 0]]).1 ∧
        (Throws (receive parseNewYear [] [heartbeatFrame, [0, 0], [0, 0]]) ↔
          Throws (receive parseNewYear [] [heartbeatFrame, [0, 0, 0, 0]]))) ↔
      ∀ place ∈ malformedAt parseNewYear [heartbeatFrame, [0, 0], [0, 0]].flatten,
        ∀ last ∈ frameEnds parseNewYear [heartbeatFrame, [0, 0], [0, 0]].flatten,
          last ≤ chunkStart place [heartbeatFrame, [0, 0], [0, 0]] ↔
            last ≤ chunkStart place [heartbeatFrame, [0, 0, 0, 0]]) := by
  have same : [heartbeatFrame, [0, 0], [0, 0]].flatten = [heartbeatFrame, [0, 0, 0, 0]].flatten := by simp
  exact ⟨same, receive_same_iff parseNewYear same⟩

/-- A message is delivered when a length of zero follows in a chunk of its own, and lost when it follows in the same. -/
theorem receive_malformed {parse : String → Option Timestamp} {message : JsValue} {frame : List UInt8} (loose : message.Loose)
    (encoded : encodeDeviceProtocolFrame parse message = .ok frame) : receive parse [] [frame, [0, 0, 0, 0]] =
        ([message.stringified], .error "device protocol frame length is invalid") ∧
      receive parse [] [frame ++ [0, 0, 0, 0]] = ([], .error "device protocol frame length is invalid") := by
  have waits : nextFrame parse [] = none := rfl
  have zero : (deviceFraming parse).next [0, 0, 0, 0] = some (.error "device protocol frame length is invalid", 4) := by
    rw [deviceFraming_next]
    simp [nextFrame]
  have broken : (deviceFraming parse).scan [0, 0, 0, 0] =
      ⟨[], some ("device protocol frame length is invalid", 4), [0, 0, 0, 0]⟩ := Framing.scan_fault zero
  have front : ∀ more, (deviceFraming parse).next (frame ++ more) = some (.ok message.stringified, frame.length) :=
    nextFrame_encode loose encoded
  have alone : (deviceFraming parse).scan frame = ⟨[(message.stringified, frame.length)], none, []⟩ := by
    have found := front []
    rw [List.append_nil] at found
    rw [Framing.scan_frame found, List.drop_length]
    rfl
  have together : (deviceFraming parse).scan (frame ++ [0, 0, 0, 0]) =
      ⟨[(message.stringified, frame.length)], some ("device protocol frame length is invalid", 4), [0, 0, 0, 0]⟩ := by
    rw [Framing.scan_frame (front _), List.drop_left, broken]
  rw [receive_eq_feed waits, receive_eq_feed waits]
  constructor
  · simp only [Framing.feed, List.nil_append, alone, broken, List.map_cons, List.map_nil, List.append_nil]
  · simp only [Framing.feed, List.nil_append, together]

theorem chunks_lose_heartbeat : ¬ ((receive parseNewYear [] [heartbeatFrame, [0, 0, 0, 0]]).1 =
          (receive parseNewYear [] [heartbeatFrame ++ [0, 0, 0, 0]]).1 ∧
        (Throws (receive parseNewYear [] [heartbeatFrame, [0, 0, 0, 0]]) ↔
          Throws (receive parseNewYear [] [heartbeatFrame ++ [0, 0, 0, 0]]))) := by
  obtain ⟨apart, together⟩ := receive_malformed heartbeat_loose heartbeat_encoded
  rw [apart, together]
  rintro ⟨same, -⟩
  cases same

end Host

end QuarkSelfAI.ClientRuntime

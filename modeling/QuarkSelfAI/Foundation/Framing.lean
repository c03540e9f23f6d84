import Mathlib.Algebra.GroupWithZero.Nat
import Mathlib.Data.List.Basic

/-!
# Frames in a stream

A decoder that buffers what it is fed and takes complete frames off the front. `Framing` says when the front of a buffer
is decided: by its first bytes alone, and not before they are all there. A run over chunks then reads the frames of the
concatenation, except that a fault loses the frames read in the same chunk; so what is delivered before a fault depends
on where the chunk that reveals it begins, and on nothing else.
-/

namespace QuarkSelfAI.Foundation

universe u v w

/-- How the front of a buffer is decided: as an item or a fault, and by how many bytes. -/
structure Framing (Byte : Type u) (Item : Type v) (Fault : Type w) where
  next : List Byte → Option (Except Fault Item × Nat)
  positive : ∀ {bytes front size}, next bytes = some (front, size) → 0 < size
  within : ∀ {bytes front size}, next bytes = some (front, size) → size ≤ bytes.length
  append : ∀ {bytes front size} (more : List Byte), next bytes = some (front, size) →
    next (bytes ++ more) = some (front, size)
  own : ∀ {bytes front size}, next bytes = some (front, size) → next (bytes.take size) = some (front, size)

/-- What a buffer holds: the items of its complete frames with their sizes, the fault that follows with the bytes that
reveal it, and the bytes that are left. -/
structure Scanned (Byte : Type u) (Item : Type v) (Fault : Type w) where
  frames : List (Item × Nat)
  fault : Option (Fault × Nat)
  rest : List Byte

namespace Framing

variable {Byte : Type u} {Item : Type v} {Fault : Type w} (framing : Framing Byte Item Fault)
  {bytes more buffer : List Byte}

/-- Take frames off the front, at most as many as the bound. -/
def scanFor : Nat → List Byte → Scanned Byte Item Fault
  | 0, bytes => ⟨[], none, bytes⟩
  | bound + 1, bytes =>
    match framing.next bytes with
    | none => ⟨[], none, bytes⟩
    | some (.error fault, size) => ⟨[], some (fault, size), bytes⟩
    | some (.ok item, size) =>
      let later := scanFor bound (bytes.drop size)
      { later with frames := (item, size) :: later.frames }

/-- A frame takes a byte at least, so there are no more frames than bytes. -/
def scan (bytes : List Byte) : Scanned Byte Item Fault := framing.scanFor bytes.length bytes

/-- The items of a run over chunks, and the fault that ends it or the bytes that stay buffered. -/
def feed (buffer : List Byte) : List (List Byte) → List Item × Except Fault (List Byte)
  | [] => ([], .ok buffer)
  | chunk :: chunks =>
    let scanned := framing.scan (buffer ++ chunk)
    match scanned.fault with
    | some (fault, _) => ([], .error fault)
    | none =>
      let later := feed scanned.rest chunks
      (scanned.frames.map Prod.fst ++ later.1, later.2)

variable {framing} {size : Nat} {fault : Fault}

/-! ## Scanning -/

/-- Every bound that suffices gives the same. -/
theorem scanFor_bound {one other : Nat} (enough : bytes.length ≤ one) (also : bytes.length ≤ other) :
    framing.scanFor one bytes = framing.scanFor other bytes := by
  induction one generalizing bytes other with
  | zero =>
    obtain rfl : bytes = [] := List.length_eq_zero_iff.mp (Nat.le_zero.mp enough)
    cases other with
    | zero => rfl
    | succ other =>
      rw [scanFor, scanFor]
      cases found : framing.next [] with
      | none => rfl
      | some front => exact absurd (framing.within found) (Nat.not_le.mpr (framing.positive found))
  | succ one ih =>
    cases other with
    | zero =>
      obtain rfl : bytes = [] := List.length_eq_zero_iff.mp (Nat.le_zero.mp also)
      rw [scanFor, scanFor]
      cases found : framing.next [] with
      | none => rfl
      | some front => exact absurd (framing.within found) (Nat.not_le.mpr (framing.positive found))
    | succ other =>
      rw [scanFor, scanFor]
      cases found : framing.next bytes with
      | none => rfl
      | some front =>
        obtain ⟨front, size⟩ := front
        have positive := framing.positive found
        cases front with
        | error fault => rfl
        | ok item =>
          dsimp only
          have shorter : (bytes.drop size).length + 1 ≤ one + 1 ∧ (bytes.drop size).length + 1 ≤ other + 1 := by
            have within := framing.within found
            rw [List.length_drop]
            omega
          rw [ih (Nat.le_of_succ_le_succ shorter.1) (Nat.le_of_succ_le_succ shorter.2)]

theorem scan_wait (waits : framing.next bytes = none) : framing.scan bytes = ⟨[], none, bytes⟩ := by
  rw [scan, scanFor_bound (Nat.le_refl _) (Nat.le_succ _), scanFor, waits]

theorem scan_fault (found : framing.next bytes = some (.error fault, size)) :
    framing.scan bytes = ⟨[], some (fault, size), bytes⟩ := by
  rw [scan, scanFor_bound (Nat.le_refl _) (Nat.le_succ _), scanFor, found]

theorem scan_frame {item : Item} (found : framing.next bytes = some (.ok item, size)) : framing.scan bytes =
      { framing.scan (bytes.drop size) with frames := (item, size) :: (framing.scan (bytes.drop size)).frames } := by
  have shorter : (bytes.drop size).length ≤ bytes.length := by
    rw [List.length_drop]
    exact Nat.sub_le _ _
  rw [scan, scanFor_bound (Nat.le_refl _) (Nat.le_succ _), scanFor, found]
  dsimp only
  rw [scanFor_bound shorter (Nat.le_refl _)]
  rfl

/-- What is scanned, one frame at a time. -/
theorem scan_induction {motive : List Byte → Prop} (wait : ∀ bytes, framing.next bytes = none → motive bytes)
    (fault : ∀ bytes fault size, framing.next bytes = some (.error fault, size) → motive bytes)
    (frame : ∀ bytes item size, framing.next bytes = some (.ok item, size) → motive (bytes.drop size) → motive bytes)
    (bytes : List Byte) : motive bytes := by
  induction counted : bytes.length using Nat.strongRecOn generalizing bytes with
  | ind length ih =>
    cases found : framing.next bytes with
    | none => exact wait bytes found
    | some front =>
      obtain ⟨front, size⟩ := front
      cases front with
      | error reason => exact fault bytes reason size found
      | ok item =>
        refine frame bytes item size found (ih _ ?_ (bytes.drop size) rfl)
        have positive := framing.positive found
        have within := framing.within found
        rw [List.length_drop]
        omega

/-- The bytes a list of frames takes. -/
def total (frames : List (Item × Nat)) : Nat := (frames.map Prod.snd).sum

/-- Nothing is decided in what is left without a fault. -/
theorem next_rest (bytes : List Byte) (calm : (framing.scan bytes).fault = none) :
    framing.next (framing.scan bytes).rest = none := by
  induction bytes using framing.scan_induction with
  | wait bytes waits =>
    rw [scan_wait waits]
    exact waits
  | fault bytes fault size found =>
    rw [scan_fault found] at calm
    cases calm
  | frame bytes item size found ih =>
    rw [scan_frame found] at calm ⊢
    exact ih calm

/-- The frames and what is left make up the bytes. -/
theorem length_scan (bytes : List Byte) :
    total (framing.scan bytes).frames + (framing.scan bytes).rest.length = bytes.length := by
  induction bytes using framing.scan_induction with
  | wait bytes waits =>
    rw [scan_wait waits]
    simp [total]
  | fault bytes fault size found =>
    rw [scan_fault found]
    simp [total]
  | frame bytes item size found ih =>
    have within := framing.within found
    rw [scan_frame found]
    simp only [total, List.map_cons, List.sum_cons] at ih ⊢
    rw [List.length_drop] at ih
    omega

/-- More bytes go on from what is left. -/
theorem scan_append (bytes more : List Byte) (calm : (framing.scan bytes).fault = none) : framing.scan (bytes ++ more) =
      { framing.scan ((framing.scan bytes).rest ++ more) with
        frames := (framing.scan bytes).frames ++ (framing.scan ((framing.scan bytes).rest ++ more)).frames } := by
  induction bytes using framing.scan_induction with
  | wait bytes waits =>
    rw [scan_wait waits]
    rfl
  | fault bytes fault size found =>
    rw [scan_fault found] at calm
    cases calm
  | frame bytes item size found ih =>
    rw [scan_frame found] at calm ⊢
    rw [scan_frame (framing.append more found), List.drop_append_of_le_length (framing.within found), ih calm]
    rfl

/-- A fault stays where it is, whatever follows. -/
theorem scan_fault_append (bytes more : List Byte) {fault : Fault × Nat} (found : (framing.scan bytes).fault = some fault) :
    (framing.scan (bytes ++ more)).fault = some fault ∧
      (framing.scan (bytes ++ more)).frames = (framing.scan bytes).frames := by
  induction bytes using framing.scan_induction with
  | wait bytes waits =>
    rw [scan_wait waits] at found
    cases found
  | fault bytes reason size decided =>
    rw [scan_fault decided] at found ⊢
    rw [scan_fault (framing.append more decided)]
    exact ⟨found, rfl⟩
  | frame bytes item size decided ih =>
    rw [scan_frame decided] at found ⊢
    rw [scan_frame (framing.append more decided), List.drop_append_of_le_length (framing.within decided)]
    obtain ⟨same, frames⟩ := ih found
    exact ⟨same, by rw [frames]⟩

/-- The bytes that reveal a fault are there. -/
theorem fault_within (bytes : List Byte) (found : (framing.scan bytes).fault = some (fault, size)) :
    total (framing.scan bytes).frames + size ≤ bytes.length := by
  induction bytes using framing.scan_induction with
  | wait bytes waits =>
    rw [scan_wait waits] at found
    cases found
  | fault bytes reason size' decided =>
    rw [scan_fault decided] at found ⊢
    cases found
    simpa [total] using framing.within decided
  | frame bytes item size' decided ih =>
    have within := framing.within decided
    rw [scan_frame decided] at found ⊢
    have later := ih found
    simp only [total, List.map_cons, List.sum_cons] at later ⊢
    rw [List.length_drop] at later
    omega

/-- Where a buffer on which nothing is decided goes on, its bytes do not decide the front. -/
theorem buffer_lt {front : Except Fault Item} (waits : framing.next buffer = none)
    (found : framing.next (buffer ++ more) = some (front, size)) : buffer.length < size := by
  by_contra short
  have own := framing.own found
  rw [List.take_append_of_le_length (Nat.not_lt.mp short)] at own
  have decided := framing.append (buffer.drop size) own
  rw [List.take_append_drop, waits] at decided
  cases decided

/-! ## Runs over chunks -/

/-- Where the chunk with which the bytes reach a place begins. -/
def opened (place : Nat) : Nat → List (List Byte) → Nat
  | seen, [] => seen
  | seen, chunk :: chunks => if place ≤ seen + chunk.length then seen else opened place (seen + chunk.length) chunks

/-- The items of the frames that end by a place. -/
def heard : Nat → List (Item × Nat) → List Item
  | _, [] => []
  | place, (item, size) :: frames => if size ≤ place then item :: heard (place - size) frames else []

/-- Where the frames end. -/
def ends : List (Item × Nat) → List Nat
  | [] => []
  | (_, size) :: frames => size :: (ends frames).map (size + ·)

theorem opened_add (shift place seen : Nat) (chunks : List (List Byte)) :
    opened (shift + place) (shift + seen) chunks = shift + opened place seen chunks := by
  induction chunks generalizing seen with
  | nil => rfl
  | cons chunk chunks ih =>
    rw [opened, opened]
    by_cases reached : place ≤ seen + chunk.length
    · rw [if_pos reached, if_pos (by omega)]
    · rw [if_neg reached, if_neg (by omega), Nat.add_assoc, ih]

theorem heard_append (frames more : List (Item × Nat)) (place : Nat) :
    heard (total frames + place) (frames ++ more) = frames.map Prod.fst ++ heard place more := by
  induction frames with
  | nil => simp [total]
  | cons frame frames ih =>
    obtain ⟨item, size⟩ := frame
    have sum : total ((item, size) :: frames) = size + total frames := by simp [total]
    have left : size + total frames + place - size = total frames + place := by omega
    rw [sum, List.cons_append, heard, if_pos (by omega), left, ih]
    rfl

/-- Nothing is heard of frames that do not end within the buffer. -/
theorem heard_buffer (waits : framing.next buffer = none) :
    heard buffer.length (framing.scan (buffer ++ more)).frames = [] := by
  cases found : framing.next (buffer ++ more) with
  | none =>
    rw [scan_wait found]
    rfl
  | some front =>
    obtain ⟨front, size⟩ := front
    cases front with
    | error fault =>
      rw [scan_fault found]
      rfl
    | ok item => rw [scan_frame found, heard, if_neg (Nat.not_le.mpr (buffer_lt waits found))]

/-- A fault shows only after the buffer on which nothing is decided. -/
theorem buffer_lt_fault (waits : framing.next buffer = none)
    (found : (framing.scan (buffer ++ more)).fault = some (fault, size)) :
    buffer.length < total (framing.scan (buffer ++ more)).frames + size := by
  cases decided : framing.next (buffer ++ more) with
  | none =>
    rw [scan_wait decided] at found
    cases found
  | some front =>
    obtain ⟨front, length⟩ := front
    have longer := buffer_lt waits decided
    cases front with
    | error reason =>
      rw [scan_fault decided] at found ⊢
      cases found
      simpa [total] using longer
    | ok item =>
      rw [scan_frame decided]
      simp only [total, List.map_cons, List.sum_cons]
      omega

/-- Without a fault a run delivers every complete frame and keeps the rest. -/
theorem feed_calm (waits : framing.next buffer = none) (chunks : List (List Byte))
    (calm : (framing.scan (buffer ++ chunks.flatten)).fault = none) : framing.feed buffer chunks =
      ((framing.scan (buffer ++ chunks.flatten)).frames.map Prod.fst,
        .ok (framing.scan (buffer ++ chunks.flatten)).rest) := by
  induction chunks generalizing buffer with
  | nil =>
    rw [List.flatten_nil, List.append_nil, scan_wait waits]
    rfl
  | cons chunk chunks ih =>
    rw [List.flatten_cons, ← List.append_assoc] at calm ⊢
    rw [feed]
    cases found : (framing.scan (buffer ++ chunk)).fault with
    | some fault =>
      rw [(scan_fault_append _ chunks.flatten found).1] at calm
      cases calm
    | none =>
      rw [scan_append _ _ found] at calm ⊢
      dsimp only
      rw [ih (next_rest _ found) calm, List.map_append]

/-- With a fault a run delivers the frames that end before the chunk that reveals it. -/
theorem feed_fault (waits : framing.next buffer = none) (chunks : List (List Byte))
    (revealed : (framing.scan (buffer ++ chunks.flatten)).fault = some (fault, size)) : framing.feed buffer chunks =
      (heard (opened (total (framing.scan (buffer ++ chunks.flatten)).frames + size) buffer.length chunks)
        (framing.scan (buffer ++ chunks.flatten)).frames, .error fault) := by
  induction chunks generalizing buffer with
  | nil =>
    rw [List.flatten_nil, List.append_nil, scan_wait waits] at revealed
    cases revealed
  | cons chunk chunks ih =>
    have longer := buffer_lt_fault waits revealed
    rw [List.flatten_cons, ← List.append_assoc] at revealed longer ⊢
    rw [feed, opened]
    cases found : (framing.scan (buffer ++ chunk)).fault with
    | some shown =>
      obtain ⟨same, frames⟩ := scan_fault_append _ chunks.flatten found
      rw [same] at revealed
      cases revealed
      have within := fault_within _ found
      rw [List.length_append] at within
      rw [frames, if_pos within, heard_buffer waits]
    | none =>
      have length : total (framing.scan (buffer ++ chunk)).frames + (framing.scan (buffer ++ chunk)).rest.length =
          (buffer ++ chunk).length := length_scan _
      rw [scan_append _ _ found] at revealed ⊢
      have after := buffer_lt_fault (next_rest _ found) revealed
      dsimp only at revealed ⊢
      have sum : ∀ frames more : List (Item × Nat), total (frames ++ more) = total frames + total more := by
        simp [total]
      rw [List.length_append] at length
      rw [ih (next_rest _ found) revealed, sum, if_neg (by omega), ← length, Nat.add_assoc, opened_add, heard_append]

/-- What is heard by two places is the same exactly when no frame ends between them. -/
theorem heard_eq_iff {frames : List (Item × Nat)} {one other : Nat} :
    heard one frames = heard other frames ↔ ∀ place ∈ ends frames, place ≤ one ↔ place ≤ other := by
  induction frames generalizing one other with
  | nil => simp [heard, ends]
  | cons frame frames ih =>
    obtain ⟨item, size⟩ := frame
    rw [heard, heard, ends, List.forall_mem_cons, List.forall_mem_map]
    by_cases first : size ≤ one
    · by_cases second : size ≤ other
      · rw [if_pos first, if_pos second, List.cons.injEq, ih, iff_true_intro rfl, true_and,
          iff_true_intro (iff_of_true first second), true_and]
        refine forall₂_congr fun place _ => ?_
        omega
      · rw [if_pos first, if_neg second]
        exact iff_of_false (List.cons_ne_nil _ _) fun same => second (same.1.mp first)
    · by_cases second : size ≤ other
      · rw [if_neg first, if_pos second]
        exact iff_of_false (List.cons_ne_nil _ _).symm fun same => first (same.1.mpr second)
      · rw [if_neg first, if_neg second]
        refine iff_of_true rfl ⟨iff_of_false first second, fun place _ => ?_⟩
        omega

end Framing

end QuarkSelfAI.Foundation

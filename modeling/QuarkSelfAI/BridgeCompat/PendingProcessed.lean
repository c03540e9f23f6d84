import Mathlib.Algebra.Order.BigOperators.Group.List
import QuarkSelfAI.BridgeCompat.FocusMessages

/-!
# Pending messages are not lost

In a pass no turn of which is hindered, every item is presented to the task creator or stays
pending, the loop reaches every item that a finished batch does not slide past, and a batch
that is finished was presented with the whole bounded text of each of its items. An item
without a chat, a batch that is cut, another item with a message id of the batch, and a
failure behind the end of a batch hinder a turn.
-/

namespace QuarkSelfAI.BridgeCompat

open Foundation

variable {options : PendingOptions} {items batch : List PendingItem} {seed item : PendingItem}
  {now : Timestamp} {processed : List String} {before after pass : PendingPass}
  {label : PendingTurn × PendingReply} {labels : List (PendingTurn × PendingReply)} {message : FocusMessage}
  {turn : PendingTurn}

/-! ## The batch of a due item -/

namespace PendingOptions

theorem reached_iff {value : Option String} (reached : options.reached now value = true) :
    options.awaited now value = false := by
  unfold PendingOptions.reached at reached
  unfold PendingOptions.awaited
  split at reached
  · rfl
  · rfl
  · rename_i text filled
    cases parsed : options.dateParse text with
    | none => simp
    | some time =>
      rw [parsed] at reached
      simpa using reached

/-- A due item in a chat joins its own batch. -/
theorem joins_self (due : options.pendingIsDue seed now = true) (chat : textOr seed.message.chatId "" ≠ "") :
    options.joins seed now seed = true := by
  have awaited : options.awaited now seed.nextAttemptAt = false := reached_iff (Bool.and_eq_true_iff.mp due).2
  have near : options.near (options.itemTime seed) (options.itemTime seed) = true := by
    cases time : options.itemTime seed <;> simp [PendingOptions.near]
  simp [PendingOptions.joins, chat, awaited, due, near]

theorem batch_eq {index : Nat} (found : items[index]? = some seed) (due : options.pendingIsDue seed now = true) :
    options.conversationPendingBatch items index now = items.filter (options.joins seed now) := by
  simp [conversationPendingBatch, found, due]

theorem seed_batched {index : Nat} (found : items[index]? = some seed)
    (due : options.pendingIsDue seed now = true) (chat : textOr seed.message.chatId "" ≠ "") :
    seed ∈ options.conversationPendingBatch items index now := by
  rw [batch_eq found due]
  exact List.mem_filter.mpr ⟨List.mem_of_getElem? found, joins_self due chat⟩

/-! ## The message of a batch -/

/-- The end of the joined lines of a batch, from the text of its first item on. -/
def retained (options : PendingOptions) (batch : List PendingItem) : String :=
  match options.ordered batch with
  | [] => ""
  | first :: rest => "\n".intercalate (first.boundedText :: rest.map PendingItem.line)

theorem combine_some (options : PendingOptions) (listed : item ∈ batch) :
    ∃ message, options.combineConversationBatch batch = some message := by
  match batch with
  | [] => exact absurd listed List.not_mem_nil
  | [only] => exact ⟨_, rfl⟩
  | first :: second :: rest =>
    have filled : options.ordered (first :: second :: rest) ≠ [] := by
      intro empty
      have sorted := List.length_insertionSort options.earlier (first :: second :: rest)
      rw [ordered] at empty
      rw [empty] at sorted
      cases sorted
    simp only [combineConversationBatch, List.getLast?_eq_some_getLast filled]
    exact ⟨_, rfl⟩

end PendingOptions

/-- The last characters of a text are the end of it that fits. -/
theorem utf16TakeLast_suffix {limit : Nat} {front back : String} (fits : utf16Length back ≤ limit) :
    back.toList <:+ (utf16TakeLast limit (front ++ back)).toList := by
  have reversed : (back.toList.reverse.map utf16Units).sum ≤ limit := by
    rwa [List.map_reverse, List.sum_reverse]
  rw [utf16TakeLast, String.toList_ofList, String.toList_append, List.reverse_append,
    utf16Prefix_append reversed, List.reverse_append, List.reverse_reverse]
  exact List.suffix_append _ _

/-- Each of several joined texts is a part of the whole. -/
theorem infix_intercalate {separator text : String} {texts : List String} (listed : text ∈ texts) :
    text.toList <:+: (separator.intercalate texts).toList := by
  rw [String.toList_intercalate]
  induction texts with
  | nil => exact absurd listed List.not_mem_nil
  | cons first rest ih =>
    cases rest with
    | nil =>
      rw [List.mem_singleton.mp listed]
      simp
    | cons second rest =>
      rw [List.map_cons, List.map_cons, List.intercalate_cons_cons]
      rcases List.mem_cons.mp listed with rfl | later
      · rw [List.append_assoc]
        exact (List.prefix_append _ _).isInfix
      · exact (ih later).trans (List.suffix_append _ _).isInfix

namespace PendingOptions

/-- A batch whose end fits is presented with the text of each item. -/
theorem combine_told (combined : options.combineConversationBatch batch = some message)
    (listed : item ∈ batch) (fits : 1 < batch.length → utf16Length (options.retained batch) ≤ 6000) :
    includes message.content item.boundedText = true := by
  rw [includes_iff]
  match batch with
  | [] => exact absurd listed List.not_mem_nil
  | [only] =>
    cases combined
    rw [List.mem_singleton.mp listed, PendingItem.boundedText, utf16Take, String.toList_ofList]
    exact (utf16Prefix_isPrefix _ _).isInfix
  | one :: two :: others =>
    simp only [combineConversationBatch, Option.map_eq_some_iff] at combined
    obtain ⟨latest, _, rfl⟩ := combined
    have sorted : item ∈ options.ordered (one :: two :: others) := (List.mem_insertionSort _).mpr listed
    have short := fits (by simp)
    rw [retained] at short
    -- The cut leaves the lines from the text of the first item on.
    have whole : item.boundedText.toList <:+: (utf16TakeLast 6000
        ("\n".intercalate ((options.ordered (one :: two :: others)).map PendingItem.line))).toList := by
      cases order : options.ordered (one :: two :: others) with
      | nil =>
        rw [order] at sorted
        exact absurd sorted List.not_mem_nil
      | cons first rest =>
        rw [order] at sorted short
        rw [List.map_cons, PendingItem.line, String.intercalate_cons_append]
        refine List.IsInfix.trans ?_ (utf16TakeLast_suffix short).isInfix
        rcases List.mem_cons.mp sorted with rfl | later
        · exact infix_intercalate List.mem_cons_self
        · have line : item.line ∈ first.boundedText :: rest.map PendingItem.line :=
            List.mem_cons_of_mem _ (List.mem_map_of_mem later)
          refine List.IsInfix.trans ?_ (infix_intercalate line)
          rw [PendingItem.line, String.toList_append]
          exact (List.suffix_append _ _).isInfix
    refine whole.trans (List.IsSuffix.isInfix ?_)
    simp only [toString, String.toList_append]
    exact List.suffix_append _ _

end PendingOptions

/-! ## Turns -/

def PendingOutcome.isLate : PendingOutcome → Bool
  | .failedAfter _ => true
  | .contextFailed _ | .creationFailed _ | .failedBefore _ | .finished => false

namespace PendingPass

/-- A batch may be finished: no other item has one of its message ids, its end fits in the
message, and no item before the place of the loop that has failed belongs to it. -/
def Finishable (options : PendingOptions) (batch : List PendingItem) (pass : PendingPass) : Prop :=
  (∀ item ∈ pass.pending, item.message.messageId ∈ messageIds batch → item ∈ batch) ∧
    (1 < batch.length → utf16Length (options.retained batch) ≤ 6000) ∧
    ∀ item ∈ pass.pending.take pass.index, item ∈ batch → item.attempts = 0

instance : Decidable (pass.Finishable options batch) := inferInstanceAs (Decidable (_ ∧ _))

/-- Nothing hinders a turn: the due item that it takes up has a chat, the batch may be finished
if it is, and what follows the end of a batch or its failure does not throw. -/
def Unhindered (options : PendingOptions) (pass : PendingPass) (label : PendingTurn × PendingReply) : Prop :=
  pass.phase = .running → ∀ seed ∈ pass.pending[pass.index]?, options.pendingIsDue seed label.1.now = true →
    textOr seed.message.chatId "" ≠ "" ∧ label.1.recorded = true ∧ label.1.outcome.isLate = false ∧
      (label.1.outcome = .finished → pass.Finishable options
        (options.conversationPendingBatch pass.pending pass.index label.1.now))

instance : Decidable (pass.Unhindered options label) := inferInstanceAs (Decidable (_ → _))

/-- What a turn that nothing hinders does. -/
inductive Turned (options : PendingOptions) (before : PendingPass) : PendingReply → PendingPass → Prop where
  | ceased (stopped : before.phase ≠ .running) : Turned options before .silent before
  | ends (running : before.phase = .running) (last : before.pending.length ≤ before.index) :
    Turned options before .silent { before with phase := .ended }
  | waits {seed : PendingItem} (running : before.phase = .running)
    (found : before.pending[before.index]? = some seed) :
    Turned options before ⟨some seed, [], none, false, []⟩
      { before with index := before.index + 1, phase := .running }
  | fails {seed : PendingItem} {batch : List PendingItem} {presented : Option FocusMessage} {error : String}
    {turn : PendingTurn} (running : before.phase = .running)
    (found : before.pending[before.index]? = some seed) (batched : seed ∈ batch) (recorded : turn.recorded = true) :
    Turned options before ⟨none, batch, presented, false, []⟩ (before.retry batch error turn)
  | finishes {seed : PendingItem} {batch : List PendingItem} {message : FocusMessage} (running : before.phase = .running)
    (found : before.pending[before.index]? = some seed) (batched : seed ∈ batch)
    (combined : options.combineConversationBatch batch = some message)
    (finishable : before.Finishable options batch) :
    Turned options before ⟨none, batch, some message, true, before.shift batch⟩ (before.finishBatch batch)

theorem turned (step : (machine options items processed).system.Step before label after)
    (unhindered : before.Unhindered options label) : Turned options before label.2 after := by
  obtain ⟨turn, reply⟩ := label
  have performed : perform options turn before = (reply, after) := step
  unfold perform at performed
  cases phase : before.phase with
  | ended | threw =>
    rw [phase] at performed
    cases performed
    exact .ceased (by rw [phase]; nofun)
  | running =>
    simp only [phase] at performed
    cases found : before.pending[before.index]? with
    | none =>
      simp only [found] at performed
      cases performed
      exact .ends phase (List.getElem?_eq_none_iff.mp found)
    | some seed =>
      simp only [found] at performed
      by_cases due : options.pendingIsDue seed turn.now = true
      · rw [if_neg (by simp [due])] at performed
        obtain ⟨chat, recorded, prompt, finishable⟩ := unhindered phase seed found due
        have batched := PendingOptions.seed_batched found due chat
        revert finishable performed
        generalize options.conversationPendingBatch before.pending before.index turn.now = batch at batched
        intro performed finishable
        obtain ⟨message, combined⟩ := PendingOptions.combine_some options batched
        simp only [combined] at performed
        unfold settle at performed
        split at performed
        · cases performed
          exact .fails phase found batched recorded
        · cases performed
          exact .fails phase found batched recorded
        · cases performed
          exact .fails phase found batched recorded
        · rename_i finished
          cases performed
          exact .finishes phase found batched combined (finishable finished)
        · rename_i late
          rw [late] at prompt
          cases prompt
      · rw [if_pos (by simpa using due)] at performed
        cases performed
        exact .waits phase found

/-! ## What a run has shown -/

/-- A turn finds an item not due or takes it up in its batch. -/
def looksAt (label : PendingTurn × PendingReply) (item : PendingItem) : Bool :=
  item.place ∈ (label.2.waiting.toList ++ label.2.batch).map PendingItem.place

/-- No turn has looked at an item. -/
def overlooked (labels : List (PendingTurn × PendingReply)) (item : PendingItem) : Bool :=
  !labels.any fun label => looksAt label item

/-- The items that finished batches took away from before the place of the loop. -/
def shiftedIn (labels : List (PendingTurn × PendingReply)) : List PendingItem :=
  labels.flatMap fun label => label.2.shifted

/-- An item is pending, whatever became of its attempts. -/
def Waits (item : PendingItem) (pass : PendingPass) : Prop :=
  ∃ left ∈ pass.pending, left.place = item.place ∧ left.message = item.message

/-- An item was in a batch that was presented to the task creator. -/
def Presented (labels : List (PendingTurn × PendingReply)) (item : PendingItem) : Prop :=
  ∃ label ∈ labels, label.2.presented.isSome = true ∧
    ∃ taken ∈ label.2.batch, taken.place = item.place ∧ taken.message = item.message

/-- The message that is presented has the bounded text of an item. -/
def Told (label : PendingTurn × PendingReply) (item : PendingItem) : Prop :=
  ∃ message ∈ label.2.presented, includes message.content item.boundedText = true

theorem overlooked_append : overlooked (labels ++ [label]) item = true ↔
    overlooked labels item = true ∧ looksAt label item = false := by
  simp [overlooked, List.any_append]

theorem looksAt_waiting (waits : label.2.waiting = some item) : looksAt label item = true := by
  simp [looksAt, waits]

theorem looksAt_batched (batched : item ∈ label.2.batch) : looksAt label item = true := by
  refine decide_eq_true (List.mem_map_of_mem (List.mem_append_right _ batched))

theorem overlooked_place {other : PendingItem} (same : other.place = item.place) :
    overlooked labels other = overlooked labels item := by
  simp only [overlooked, looksAt, same]

/-- Items that were looked at before are not counted any more. -/
theorem countP_overlooked_le (labels : List (PendingTurn × PendingReply)) (label : PendingTurn × PendingReply)
    (list : List PendingItem) : list.countP (overlooked (labels ++ [label])) ≤ list.countP (overlooked labels) :=
  List.countP_mono_left fun _ _ later => (overlooked_append.mp later).1

theorem shiftedIn_append : shiftedIn (labels ++ [label]) = shiftedIn labels ++ label.2.shifted := by
  simp [shiftedIn]

theorem Presented.extend (presented : Presented labels item) : Presented (labels ++ [label]) item := by
  obtain ⟨earlier, listed, found⟩ := presented
  exact ⟨earlier, List.mem_append_left _ listed, found⟩

/-- One more item of a list adds at most one to a count. -/
theorem countP_take_succ {α : Type*} (counted : α → Bool) (list : List α) (count : Nat) :
    (list.take (count + 1)).countP counted ≤ (list.take count).countP counted + 1 := by
  rw [List.take_add_one, List.countP_append]
  have single : list[count]?.toList.length ≤ 1 := by
    cases list[count]? <;> simp
  have bound := List.countP_le_length (p := counted) (l := list[count]?.toList)
  omega

/-- What a filter moves before a place, as a count, is at most what it takes away there. -/
theorem countP_take_filter {α : Type*} (counted keep : α → Bool) (list : List α) (count : Nat) :
    ((list.filter keep).take count).countP counted ≤
      (list.take count).countP counted + ((list.take count).filter fun item => !keep item).length := by
  induction list generalizing count with
  | nil => simp
  | cons first rest ih =>
    cases count with
    | zero => simp
    | succ count =>
      have shorter := ih count
      cases kept : keep first with
      | true =>
        simp only [List.filter_cons, kept, List.take_succ_cons, List.countP_cons, if_true]
        simp only [Bool.not_true, Bool.false_eq_true, if_false]
        omega
      | false =>
        have more := countP_take_succ counted (rest.filter keep) count
        simp only [List.filter_cons, kept, List.take_succ_cons, List.countP_cons]
        simp only [Bool.not_false, Bool.false_eq_true, if_true, if_false, List.length_cons]
        omega

/-! ## What a turn preserves -/

theorem retry_waits {error : String} (waits : before.Waits item) : (before.retry batch error turn).Waits item := by
  obtain ⟨left, listed, same⟩ := waits
  refine ⟨_, List.mem_map_of_mem listed, ?_⟩
  split
  · exact same
  · exact same

/-- The loop steps over an item that it has looked at. -/
theorem countP_step (seen : looksAt label seed = true) (found : items[pass.index]? = some seed) :
    (items.take (pass.index + 1)).countP (overlooked (labels ++ [label])) ≤
      (items.take pass.index).countP (overlooked labels) := by
  have looked : overlooked (labels ++ [label]) seed = false := by
    cases later : overlooked (labels ++ [label]) seed with
    | false => rfl
    | true =>
      rw [(overlooked_append.mp later).2] at seen
      cases seen
  rw [List.take_add_one, found, List.countP_append]
  simpa [looked] using countP_overlooked_le labels label (items.take pass.index)

/-- What a run guarantees of its pass. -/
structure Sound (options : PendingOptions) (items : List PendingItem) (processed : List String)
    (labels : List (PendingTurn × PendingReply)) (pass : PendingPass) : Prop where
  safe : pass.phase ≠ .threw
  kept : ∀ item ∈ (start items processed).pending, pass.Waits item ∨ Presented labels item
  passed : (pass.pending.take pass.index).countP (overlooked labels) ≤ (shiftedIn labels).length
  unfailed : ∀ item ∈ shiftedIn labels, item.attempts = 0
  last : pass.phase = .ended → pass.pending.length ≤ pass.index
  told : ∀ label ∈ labels, label.2.finished = true → ∀ item ∈ label.2.batch, Told label item
  marked : ∀ id ∈ pass.processed,
    id ∈ processed ∨ ∃ label ∈ labels, label.2.finished = true ∧ id ∈ messageIds label.2.batch
  progress : pass.phase = .running → labels.length + (pass.pending.length - pass.index) ≤ items.length

theorem Sound.initially : Sound options items processed [] (start items processed) := by
  refine ⟨?_, fun item listed => .inl ⟨item, listed, rfl, rfl⟩, by simp [start], ?_, ?_, ?_, ?_, ?_⟩
  · intro threw
    cases threw
  · intro item listed
    cases listed
  · intro ended
    cases ended
  · intro label listed
    cases listed
  · intro id listed
    exact .inl listed
  · intro _
    simp [start]

/-- A turn that finishes no batch keeps what holds, as long as it loses and steps over no item. -/
theorem Sound.unfinished (sound : Sound options items processed labels before)
    (unfinished : label.2.finished = false) (unshifted : label.2.shifted = [])
    (same : after.processed = before.processed) (safe : after.phase ≠ .threw)
    (waits : ∀ item, before.Waits item → after.Waits item)
    (passed : (after.pending.take after.index).countP (overlooked (labels ++ [label])) ≤
      (before.pending.take before.index).countP (overlooked labels))
    (last : after.phase = .ended → after.pending.length ≤ after.index) (progress : after.phase = .running →
      labels.length + 1 + (after.pending.length - after.index) ≤ items.length) :
    Sound options items processed (labels ++ [label]) after := by
  have shifted : shiftedIn (labels ++ [label]) = shiftedIn labels := by
    rw [shiftedIn_append, unshifted, List.append_nil]
  refine ⟨safe, ?_, ?_, ?_, last, ?_, ?_, ?_⟩
  · intro item listed
    exact (sound.kept item listed).imp (waits item) Presented.extend
  · rw [shifted]
    exact passed.trans sound.passed
  · rw [shifted]
    exact sound.unfailed
  · intro other listed finished
    rcases List.mem_append.mp listed with earlier | now
    · exact sound.told other earlier finished
    · rw [List.mem_singleton.mp now, unfinished] at finished
      cases finished
  · intro id listed
    rw [same] at listed
    refine (sound.marked id listed).imp_right ?_
    rintro ⟨other, earlier, found⟩
    exact ⟨other, List.mem_append_left _ earlier, found⟩
  · rw [List.length_append, List.length_singleton]
    exact progress

theorem retry_countP {error : String} (count : Nat) :
    ((before.retry batch error turn).pending.take count).countP (overlooked labels) =
      (before.pending.take count).countP (overlooked labels) := by
  rw [retry, ← List.map_take, List.countP_map]
  refine List.countP_congr fun item _ => ?_
  rw [Function.comp_apply, overlooked_place]
  split
  · rfl
  · rfl

/-- A finished batch takes away what it has presented. -/
theorem finishBatch_waits (finishable : before.Finishable options batch) (waits : before.Waits item) :
    (before.finishBatch batch).Waits item ∨
      ∃ taken ∈ batch, taken.place = item.place ∧ taken.message = item.message := by
  obtain ⟨left, listed, same⟩ := waits
  by_cases inside : left.message.messageId ∈ messageIds batch
  · exact .inr ⟨left, finishable.1 left listed inside, same⟩
  · exact .inl ⟨left, List.mem_filter.mpr ⟨listed, decide_eq_true inside⟩, same⟩

/-- A finished batch takes away the item of its turn. -/
theorem finishBatch_length (found : before.pending[before.index]? = some seed) (batched : seed ∈ batch) :
    (before.finishBatch batch).pending.length < before.pending.length := by
  refine List.length_filter_lt_length_iff_exists.mpr ⟨seed, List.mem_of_getElem? found, ?_⟩
  have inside : seed.message.messageId ∈ messageIds batch := List.mem_map_of_mem batched
  simp [outside, inside]

theorem mem_finishBatch {id : String} (listed : id ∈ (before.finishBatch batch).processed) :
    id ∈ before.processed ∨ id ∈ messageIds batch := by
  rcases List.mem_append.mp listed with earlier | now
  · exact .inl earlier
  · exact .inr (mem_distinct.mp (List.mem_filter.mp now).1)

theorem Sound.finished (sound : Sound options items processed labels before) (running : before.phase = .running)
    (found : before.pending[before.index]? = some seed) (batched : seed ∈ batch)
    (combined : options.combineConversationBatch batch = some message) (finishable : before.Finishable options batch) :
    Sound options items processed
      (labels ++ [(turn, ⟨none, batch, some message, true, before.shift batch⟩)]) (before.finishBatch batch) := by
  obtain ⟨closed, fits, unfailed⟩ := finishable
  have phase : (before.finishBatch batch).phase = .running := running
  refine ⟨by rw [phase]; nofun, ?_, ?_, ?_, by rw [phase]; nofun, ?_, ?_, fun _ => ?_⟩
  · intro item listed
    rcases sound.kept item listed with waits | presented
    · refine (finishBatch_waits ⟨closed, fits, unfailed⟩ waits).imp_right fun taken => ?_
      exact ⟨_, List.mem_append_right _ List.mem_cons_self, rfl, taken⟩
    · exact .inr presented.extend
  · rw [shiftedIn_append, List.length_append]
    have kept := countP_take_filter (overlooked labels) (outside batch) before.pending before.index
    have monotone := countP_overlooked_le labels (turn, ⟨none, batch, some message, true, before.shift batch⟩)
      ((before.finishBatch batch).pending.take before.index)
    have before_it := sound.passed
    exact monotone.trans (kept.trans (Nat.add_le_add_right before_it _))
  · intro item listed
    rw [shiftedIn_append] at listed
    rcases List.mem_append.mp listed with earlier | now
    · exact sound.unfailed item earlier
    · obtain ⟨here, inside⟩ := List.mem_filter.mp now
      have ids : item.message.messageId ∈ messageIds batch := by simpa [outside] using inside
      exact unfailed item here (closed item (List.mem_of_mem_take here) ids)
  · intro other listed finished
    rcases List.mem_append.mp listed with earlier | now
    · exact sound.told other earlier finished
    · rw [List.mem_singleton.mp now]
      intro item inside
      exact ⟨message, rfl, PendingOptions.combine_told combined inside fits⟩
  · intro id listed
    rcases mem_finishBatch listed with earlier | now
    · refine (sound.marked id earlier).imp_right ?_
      rintro ⟨other, here, found⟩
      exact ⟨other, List.mem_append_left _ here, found⟩
    · exact .inr ⟨_, List.mem_append_right _ List.mem_cons_self, rfl, now⟩
  · have shorter := finishBatch_length found batched
    have progress := sound.progress running
    obtain ⟨bound, _⟩ := List.getElem?_eq_some_iff.mp found
    have index : (before.finishBatch batch).index = before.index := rfl
    rw [List.length_append, List.length_singleton, index]
    omega

theorem Sound.step (sound : Sound options items processed labels before)
    (step : (machine options items processed).system.Step before label after)
    (unhindered : before.Unhindered options label) : Sound options items processed (labels ++ [label]) after := by
  have turned : Turned options before label.2 after := turned step unhindered
  obtain ⟨turn, reply⟩ := label
  cases turned with
  | ceased stopped =>
    refine sound.unfinished rfl rfl rfl sound.safe (fun _ waits => waits) ?_ sound.last ?_
    · exact countP_overlooked_le labels _ _
    · intro running
      exact absurd running stopped
  | ends running last =>
    refine sound.unfinished rfl rfl rfl nofun (fun _ waits => waits) ?_ (fun _ => last) nofun
    exact countP_overlooked_le labels _ _
  | waits running found =>
    obtain ⟨bound, _⟩ := List.getElem?_eq_some_iff.mp found
    refine sound.unfinished rfl rfl rfl nofun (fun _ waits => waits) ?_ nofun fun _ => ?_
    · exact countP_step (looksAt_waiting rfl) found
    · have progress := sound.progress running
      dsimp only
      omega
  | fails running found batched recorded =>
    obtain ⟨bound, _⟩ := List.getElem?_eq_some_iff.mp found
    refine sound.unfinished rfl rfl rfl ?_ (fun _ => retry_waits) ?_ ?_ fun _ => ?_
    · rw [retry, recorded]
      nofun
    · rw [retry_countP]
      simp only [retry, recorded, if_true]
      exact countP_step (looksAt_batched batched) found
    · rw [retry, recorded]
      nofun
    · have progress := sound.progress running
      simp only [retry, recorded, if_true, List.length_map]
      omega
  | finishes running found batched combined finishable => exact sound.finished running found batched combined finishable

/-- A run that nothing hinders. -/
abbrev UnhinderedRun (options : PendingOptions) (items : List PendingItem) (processed : List String)
    (labels : List (PendingTurn × PendingReply)) (pass : PendingPass) : Prop :=
  ((machine options items processed).system.restricted (Unhindered options)).Run labels pass

theorem UnhinderedRun.sound (run : UnhinderedRun options items processed labels pass) :
    Sound options items processed labels pass := by
  refine run.history (motive := Sound options items processed) ?_ ?_
  · rintro _ rfl
    exact .initially
  · rintro labels label before after _ sound ⟨step, unhindered⟩
    exact sound.step step unhindered

/-- Every item is presented to the task creator or stays pending, the pass ends, the items that
it does not look at are no more than those that finished batches take away from before its
place, none of which has failed, and a batch that is finished was presented with the bounded
text of each item. -/
theorem pending_processed (run : UnhinderedRun options items processed labels pass) :
    (∀ item ∈ (start items processed).pending, pass.Waits item ∨ Presented labels item) ∧
      pass.phase ≠ .threw ∧ (items.length < labels.length → pass.phase = .ended) ∧
      (pass.phase = .ended → pass.pending.countP (overlooked labels) ≤ (shiftedIn labels).length) ∧
      (∀ item ∈ shiftedIn labels, item.attempts = 0) ∧
      (∀ label ∈ labels, label.2.finished = true → ∀ item ∈ label.2.batch, Told label item) ∧
      ∀ id ∈ pass.processed,
        id ∈ processed ∨ ∃ label ∈ labels, label.2.finished = true ∧ id ∈ messageIds label.2.batch := by
  have sound := run.sound
  refine ⟨sound.kept, sound.safe, fun many => ?_, fun ended => ?_, sound.unfailed, sound.told, sound.marked⟩
  · cases phase : pass.phase with
    | running =>
      have progress := sound.progress phase
      omega
    | ended => rfl
    | threw => exact absurd phase sound.safe
  · have passed := sound.passed
    rwa [List.take_of_length_le (sound.last ended)] at passed

/-- The readings of the texts below. -/
def readings : PendingOptions where
  dateParse text := [("2026-08-26T11:30+08:00", 1787715000000), ("2026-08-26T03:31:00.000Z", 1787715060000),
    ("2026-08-26T03:32:00.000Z", 1787715120000)].lookup text
  windowMs := 900000

/-- A message of half past eleven, in a chat or in none. -/
def focusMessage (messageId : String) (chatId : Option String) (content : String) (intakeReasons : List String) :
    FocusMessage :=
  ⟨messageId, chatId, some "2026-08-26 11:30", none, some "Li", content, intakeReasons, none⟩

def pendingItem (message : FocusMessage) (readyAt : Option String) : PendingItem :=
  ⟨0, message, none, readyAt, 0, none, none⟩

def turnAt (now : Timestamp) (outcome : PendingOutcome) : PendingTurn := ⟨now, outcome, now, true⟩

/-- A message of one chat fails, and two messages of another one are finished. -/
def twoChats : List PendingItem :=
  [pendingItem (focusMessage "om_1" (some "oc_1") "Repair" []) none,
    pendingItem (focusMessage "om_2" (some "oc_2") "Check" []) none,
    pendingItem (focusMessage "om_3" (some "oc_2") "Confirm" []) none]

def twoChatTurns : List PendingTurn :=
  [turnAt 1787715000000 (.contextFailed "timeout"), turnAt 1787715000000 .finished, turnAt 1787715000000 .finished,
    turnAt 1787715000000 .finished]

/-- What the turns over the two chats show, and the pass that they end in. -/
def twoChatRun : List (PendingTurn × PendingReply) × PendingPass :=
  (machine readings twoChats []).replay twoChatTurns (start twoChats [])

theorem twoChats_processed : twoChatRun.2.phase = .ended ∧
      (∀ item ∈ (start twoChats []).pending, twoChatRun.2.Waits item ∨ Presented twoChatRun.1 item) ∧
      ∀ label ∈ twoChatRun.1, label.2.finished = true → ∀ item ∈ label.2.batch, Told label item := by
  have run : UnhinderedRun readings twoChats [] twoChatRun.1 twoChatRun.2 :=
    (machine readings twoChats []).replay_restricted (by decide)
  obtain ⟨kept, _, ends, _, _, told, _⟩ := pending_processed run
  exact ⟨ends (by decide), kept, told⟩

/-! ## Batches that are cut -/

theorem utf16Prefix_length (limit : Nat) (text : List Char) : (utf16Prefix limit text).length ≤ limit := by
  fun_induction utf16Prefix limit text with
  | case1 | case3 => exact Nat.zero_le _
  | case2 limit char rest fits ih =>
    have unit : 1 ≤ utf16Units char := by
      unfold utf16Units
      split <;> decide
    rw [List.length_cons]
    omega

/-- Different characters share the length of a text. -/
theorem sum_count_le {letters : List Char} (distinct : letters.Nodup) (text : List Char) :
    (letters.map fun letter => text.count letter).sum ≤ text.length := by
  induction letters generalizing text with
  | nil => exact Nat.zero_le _
  | cons letter letters ih =>
    obtain ⟨fresh, distinct⟩ := List.nodup_cons.mp distinct
    have others : ∀ other ∈ letters, text.count other = (text.filter (· ≠ letter)).count other := by
      intro other listed
      have different : other ≠ letter := fun same => fresh (same ▸ listed)
      exact (List.count_filter (by simpa using different)).symm
    rw [List.map_cons, List.sum_cons, List.map_congr_left others]
    have rest := ih distinct (text.filter (· ≠ letter))
    have parts : text.length = text.count letter + (text.filter (· ≠ letter)).length := by
      rw [List.length_eq_countP_add_countP (· == letter), List.count, ← List.countP_eq_length_filter]
      refine congrArg (_ + ·) (List.countP_congr fun char _ => ?_)
      simp
    omega

/-- The text of a message, of the most characters that a batch takes of one. -/
def longText (letter : Char) : String := String.ofList (List.replicate 800 letter)

/-- Eight long messages of one chat. -/
def longMessages : List PendingItem :=
  "abcdefgh".toList.map fun letter => pendingItem (focusMessage letter.toString (some "oc_1") (longText letter) []) none

theorem utf16Prefix_replicate {letter : Char} (narrow : utf16Units letter = 1) (limit : Nat) :
    utf16Prefix limit (List.replicate limit letter) = List.replicate limit letter := by
  have units : ((List.replicate limit letter).map utf16Units).sum ≤ limit := by
    rw [List.map_replicate, narrow, List.sum_replicate_nat, Nat.mul_one]
  have cut : utf16Prefix limit (List.replicate limit letter ++ []) = _ := utf16Prefix_append units
  rw [List.append_nil] at cut
  rw [cut]
  simp [utf16Prefix]

theorem count_longText {letter : Char} {content : String} (narrow : utf16Units letter = 1)
    (long : item.message.content = longText letter) (told : includes content item.boundedText = true) :
    800 ≤ content.toList.count letter := by
  have part := includes_iff.mp told
  rw [PendingItem.boundedText, long, utf16Take, longText, String.toList_ofList, String.toList_ofList,
    utf16Prefix_replicate narrow] at part
  have counted := part.sublist.count_le letter
  rwa [List.count_replicate_self] at counted

/-- The message of several items has at most 6000 characters of them. -/
theorem combine_bounded (several : 1 < batch.length)
    (combined : options.combineConversationBatch batch = some message) : ∃ text : String, text.toList.length ≤ 6000 ∧
      message.content = "同一会话在短时间内形成的一组连续消息，请作为一个事项整体判断，不得逐条建单：\n" ++ text := by
  match batch with
  | [] => exact absurd several (Nat.not_lt_zero _)
  | [only] => exact absurd several (Nat.lt_irrefl _)
  | one :: two :: others =>
    simp only [PendingOptions.combineConversationBatch, Option.map_eq_some_iff] at combined
    obtain ⟨latest, _, rfl⟩ := combined
    refine ⟨utf16TakeLast 6000 _, ?_, rfl⟩
    rw [utf16TakeLast, String.toList_ofList, List.length_reverse]
    exact utf16Prefix_length _ _

/-- A message that takes 6000 characters of the eight texts misses one of them. -/
theorem longMessages_cut (several : 1 < batch.length)
    (listed : ∀ item ∈ longMessages, ∃ other ∈ batch, other.message = item.message)
    (combined : options.combineConversationBatch batch = some message) :
    ∃ item ∈ batch, includes message.content item.boundedText = false := by
  by_contra all
  obtain ⟨text, short, content⟩ := combine_bounded several combined
  have counted : ∀ letter ∈ "abcdefgh".toList, 800 ≤ text.toList.count letter := by
    intro letter known
    obtain ⟨item, batched, same⟩ := listed _ (List.mem_map_of_mem known)
    have told : includes message.content item.boundedText = true := by
      by_contra missing
      exact all ⟨item, batched, by simpa using missing⟩
    have narrow : ∀ letter ∈ "abcdefgh".toList, (utf16Units letter == 1) = true := List.all_eq_true.mp (by decide)
    have absent : ∀ letter ∈ "abcdefgh".toList,
        ("同一会话在短时间内形成的一组连续消息，请作为一个事项整体判断，不得逐条建单：\n".toList.count letter == 0) = true :=
      List.all_eq_true.mp (by decide +kernel)
    have one := beq_iff_eq.mp (narrow letter known)
    have none := beq_iff_eq.mp (absent letter known)
    have whole := count_longText one (congrArg FocusMessage.content same) told
    rwa [content, String.toList_append, List.count_append, none, Nat.zero_add] at whole
  have least := List.sum_le_sum counted
  have most := sum_count_le (show "abcdefgh".toList.Nodup by decide) text.toList
  have total : ("abcdefgh".toList.map fun _ => 800).sum = 6400 := by decide
  omega

/-- The turn that finishes the batch of a due item. -/
theorem perform_finished (running : before.phase = .running)
    (found : before.pending[before.index]? = some seed) (due : options.pendingIsDue seed turn.now = true)
    (combined : options.combineConversationBatch
      (options.conversationPendingBatch before.pending before.index turn.now) = some message)
    (finished : turn.outcome = .finished) : (perform options turn before).1.finished = true ∧
      (perform options turn before).1.batch = options.conversationPendingBatch before.pending before.index turn.now ∧
      (perform options turn before).1.presented = some message := by
  simp [perform, running, found, due, combined, settle, finished]

/-- A batch of all items is finished although its message misses the text of one of them. -/
theorem cut_finished (turn : PendingTurn) (finished : turn.outcome = .finished)
    (found : (start items []).pending[0]? = some seed) (due : options.pendingIsDue seed turn.now = true)
    (all : ∀ item ∈ (start items []).pending, options.joins seed turn.now item = true)
    (cut : ∀ message, options.combineConversationBatch (start items []).pending = some message →
      ∃ item ∈ (start items []).pending, includes message.content item.boundedText = false) :
    ∃ labels pass, (machine options items []).system.Run labels pass ∧
      ∃ label ∈ labels, label.2.finished = true ∧ ∃ item ∈ label.2.batch, ¬ Told label item := by
  have batch : options.conversationPendingBatch (start items []).pending 0 turn.now = (start items []).pending := by
    rw [PendingOptions.batch_eq found due]
    exact List.filter_eq_self.mpr all
  obtain ⟨message, combined⟩ := PendingOptions.combine_some options (List.mem_of_getElem? found)
  obtain ⟨item, batched, missing⟩ := cut message combined
  rw [← batch] at combined batched
  obtain ⟨settled, taken, presented⟩ := perform_finished rfl found due combined finished
  refine ⟨_, _, (machine options items []).replay_run [turn], _, List.mem_cons_self, settled, item, ?_, ?_⟩
  · change item ∈ (perform options turn (start items [])).1.batch
    rw [taken]
    exact batched
  · rintro ⟨other, same, told⟩
    have agrees : some message = some other := presented.symm.trans same
    cases agrees
    rw [missing] at told
    cases told

theorem longMessages_finished : ∃ labels pass, (machine readings longMessages []).system.Run labels pass ∧
      ∃ label ∈ labels, label.2.finished = true ∧ ∃ item ∈ label.2.batch, ¬ Told label item := by
  refine cut_finished (turnAt 1787715000000 .finished) rfl rfl (by decide) (by decide) ?_
  intro message combined
  refine longMessages_cut (by decide) ?_ combined
  intro item listed
  obtain ⟨place, bound, rfl⟩ := List.mem_iff_getElem.mp listed
  exact ⟨_, List.mem_mapIdx.mpr ⟨place, bound, rfl⟩, rfl⟩

/-- A message that fails, one of its chat that mentions the owner later, and one of another chat. -/
def failedBefore : List PendingItem :=
  [pendingItem (focusMessage "om_1" (some "oc_1") "Repair" []) none,
    pendingItem (focusMessage "om_2" (some "oc_1") "Check" ["@常东旭"]) (some "2026-08-26T03:31:00.000Z"),
    pendingItem (focusMessage "om_3" (some "oc_2") "Confirm" []) none]

/-- A due item without a chat stops the pass before the others, a batch of long messages is
finished without the text of one of them, and a batch that takes up an item that has failed
makes the loop step over the next one. -/
theorem hindered_turns : (∃ labels pass, (machine readings
        [pendingItem (focusMessage "om_1" none "Repair" []) none,
          pendingItem (focusMessage "om_2" (some "oc_2") "Check" []) none] []).system.Run labels pass ∧
        pass.phase = .threw ∧ ∃ item ∈ pass.pending, overlooked labels item = true ∧
          ∀ label ∈ labels, readings.pendingIsDue item label.1.now = true) ∧
      (∃ labels pass, (machine readings longMessages []).system.Run labels pass ∧
        ∃ label ∈ labels, label.2.finished = true ∧ ∃ item ∈ label.2.batch, ¬ Told label item) ∧
      ∃ labels pass, (machine readings failedBefore []).system.Run labels pass ∧ pass.phase = .ended ∧
        (∃ item ∈ pass.pending, overlooked labels item = true ∧
          ∀ label ∈ labels, readings.pendingIsDue item label.1.now = true) ∧
        ∃ item ∈ shiftedIn labels, item.attempts = 1 := by
  refine ⟨?_, longMessages_finished, ?_⟩
  · refine ⟨_, _, (machine readings _ []).replay_run [turnAt 1787715000000 .finished], ?_⟩
    decide
  · refine ⟨_, _, (machine readings _ []).replay_run
      [turnAt 1787715000000 (.contextFailed "timeout"), turnAt 1787715180000 .finished,
        turnAt 1787715180000 .finished], ?_⟩
    decide

end PendingPass

end QuarkSelfAI.BridgeCompat

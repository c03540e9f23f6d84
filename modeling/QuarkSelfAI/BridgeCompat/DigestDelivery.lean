import QuarkSelfAI.BridgeCompat.Digest

/-!
# The digest loses nothing

What was queued last for a task stays pending until a digest with exactly that content was
sent, or a save cuts it off. Only the end of a successful send can break this: it puts back
the array it has captured without the items that have a message id of a sent one by then.
-/

namespace QuarkSelfAI.BridgeCompat

open Foundation

/-- The items that were queued, in order. -/
def queuedIn (labels : List (DigestCall × DigestReply)) : List DigestItem :=
  labels.filterMap fun label => label.2.queued

/-- What was queued last for a task. -/
def lastQueued (labels : List (DigestCall × DigestReply)) (taskId : String) : Option DigestItem :=
  (queuedIn labels).reverse.find? fun item => item.taskId = taskId

/-- The items of the digests that were sent. -/
def sentIn (labels : List (DigestCall × DigestReply)) : List DigestItem := labels.flatMap fun label => label.2.sent

/-- The items that saves have cut off. -/
def droppedIn (labels : List (DigestCall × DigestReply)) : List DigestItem :=
  labels.flatMap fun label => label.2.dropped

theorem queuedIn_append (labels : List (DigestCall × DigestReply)) (label : DigestCall × DigestReply) :
    queuedIn (labels ++ [label]) = queuedIn labels ++ label.2.queued.toList := by
  rw [queuedIn, queuedIn, filterMap_snoc]

theorem lastQueued_other {labels : List (DigestCall × DigestReply)} {label : DigestCall × DigestReply}
    {taskId : String} (other : ∀ item ∈ label.2.queued, item.taskId ≠ taskId) :
    lastQueued (labels ++ [label]) taskId = lastQueued labels taskId := by
  rw [lastQueued, lastQueued, queuedIn_append, List.reverse_append, List.find?_append]
  cases queued : label.2.queued with
  | none => simp
  | some item => simp [other item (by rw [queued]; rfl)]

theorem lastQueued_own {labels : List (DigestCall × DigestReply)} {label : DigestCall × DigestReply}
    (item : DigestItem) (queued : label.2.queued = some item) :
    lastQueued (labels ++ [label]) item.taskId = some item := by
  rw [lastQueued, queuedIn_append, List.reverse_append, List.find?_append]
  simp [queued]

variable {item : DigestItem}

theorem lastQueued_task {labels : List (DigestCall × DigestReply)} {taskId : String}
    (last : lastQueued labels taskId = some item) : item.taskId = taskId := by
  simpa using List.find?_some last

namespace Digest

/-- An item with exactly this content is pending. -/
def Pending (digest : Digest) (item : DigestItem) : Prop := ∃ ref ∈ digest.pending, digest.items[ref]? = some item

theorem Pending.mem_contents {digest : Digest} {ref : Nat} {refs : List Nat}
    (listed : ref ∈ refs) (found : digest.items[ref]? = some item) : item ∈ digest.contents refs :=
  List.mem_filterMap.mpr ⟨ref, listed, found⟩

/-- Where a send ends well, the items that were sent are as they were rendered, the array of
the state holds nothing that the captured one does not, and no item that was not sent has the
message id of one that was. -/
def Unraced (digest : Digest) (label : DigestCall × DigestReply) : Prop :=
  match label.1, digest.flushing with
  | .sent (.ok ()), some (.sending _ captured sent) =>
    (∀ entry ∈ sent, digest.items[entry.1]? = some entry.2) ∧
      (∀ ref ∈ digest.pending, ref ∈ captured.getD digest.pending) ∧
      ∀ ref ∈ captured.getD digest.pending, ref ∉ sent.map Prod.fst → digest.remains sent ref = true
  | _, _ => True

instance (digest : Digest) (label : DigestCall × DigestReply) : Decidable (Unraced digest label) := by
  unfold Unraced
  split <;> infer_instance

/-- What was queued last for a task is pending, sent or cut off. -/
def Accounted (labels : List (DigestCall × DigestReply)) (digest : Digest) : Prop :=
  ∀ taskId item, lastQueued labels taskId = some item →
    digest.Pending item ∨ item ∈ sentIn labels ∨ item ∈ droppedIn labels

variable {options : DigestOptions} {labels : List (DigestCall × DigestReply)} {before after : Digest}
  {label : DigestCall × DigestReply}

theorem sentIn_append : sentIn (labels ++ [label]) = sentIn labels ++ label.2.sent := by
  simp [sentIn]

theorem droppedIn_append : droppedIn (labels ++ [label]) = droppedIn labels ++ label.2.dropped := by
  simp [droppedIn]

/-- A step that queues nothing keeps the account if what was pending is pending, sent or cut off. -/
theorem Accounted.unqueued (accounted : Accounted labels before) (quiet : label.2.queued = none)
    (kept : ∀ item, before.Pending item → after.Pending item ∨ item ∈ label.2.sent ∨ item ∈ label.2.dropped) :
    Accounted (labels ++ [label]) after := by
  intro taskId item last
  rw [lastQueued_other (by rw [quiet]; exact nofun)] at last
  rw [sentIn_append, droppedIn_append, List.mem_append, List.mem_append]
  rcases accounted taskId item last with pending | sent | dropped
  · rcases kept item pending with still | sent | dropped
    · exact .inl still
    · exact .inr (.inl (.inr sent))
    · exact .inr (.inr (.inr dropped))
  · exact .inr (.inl (.inl sent))
  · exact .inr (.inr (.inl dropped))

/-- A call that queues replaces what is pending for its task only. -/
theorem Accounted.queue (accounted : Accounted labels before) (input : DigestInput) (now : Timestamp)
    (reply : DigestReply) (performed : before.queueDigestNotification input now = (reply, after)) :
    Accounted (labels ++ [(.queue input now, reply)]) after := by
  have parts : reply.queued = some (input.item before.versions now) ∧ after.Pending (input.item before.versions now) ∧
      ∀ item, item.taskId ≠ input.taskId → before.Pending item → after.Pending item := by
    unfold queueDigestNotification at performed
    dsimp only at performed
    split at performed
    · rename_i ref existing
      obtain ⟨rfl, rfl⟩ := Prod.mk.inj performed
      have listed := List.mem_of_find?_eq_some existing
      have task : before.items[ref]?.map DigestItem.taskId = some input.taskId := by
        simpa using List.find?_some existing
      obtain ⟨old, found, same⟩ := Option.map_eq_some_iff.mp task
      refine ⟨rfl, ⟨ref, listed, ?_⟩, ?_⟩
      · rw [List.getElem?_modify_eq, found]
        rfl
      · rintro item other ⟨place, waits, here⟩
        refine ⟨place, waits, ?_⟩
        have elsewhere : ref ≠ place := by
          rintro rfl
          rw [found] at here
          cases here
          exact other same
        rw [List.getElem?_modify_ne _ _ elsewhere, here]
    · obtain ⟨rfl, rfl⟩ := Prod.mk.inj performed
      refine ⟨rfl, ⟨before.items.length, List.mem_append_right _ (List.mem_singleton_self _), ?_⟩, ?_⟩
      · rw [List.getElem?_append_right (Nat.le_refl _), Nat.sub_self]
        rfl
      · rintro item _ ⟨place, waits, here⟩
        obtain ⟨bound, _⟩ := List.getElem?_eq_some_iff.mp here
        refine ⟨place, List.mem_append_left _ waits, ?_⟩
        rw [List.getElem?_append_left bound, here]
  obtain ⟨queued, pending, others⟩ := parts
  intro taskId item last
  by_cases own : input.taskId = taskId
  · subst own
    have latest : lastQueued (labels ++ [(.queue input now, reply)]) input.taskId = _ :=
      lastQueued_own (input.item before.versions now) queued
    rw [latest] at last
    obtain rfl := Option.some.inj last
    exact .inl pending
  · rw [lastQueued_other (by rw [queued]; rintro _ ⟨⟩; exact own)] at last
    rw [sentIn_append, droppedIn_append, List.mem_append, List.mem_append]
    rcases accounted taskId item last with waits | sent | dropped
    · refine .inl (others item ?_ waits)
      rw [lastQueued_task last]
      exact fun same => own same.symm
    · exact .inr (.inl (.inl sent))
    · exact .inr (.inr (.inl dropped))

/-- A save keeps the last items and cuts off the others. -/
theorem save_keeps (pending : before.Pending item) : before.save.2.Pending item ∨ item ∈ before.save.1.dropped := by
  unfold save
  dsimp only
  generalize before.pending.length - 500 = cut
  obtain ⟨ref, listed, found⟩ := pending
  rw [← List.take_append_drop cut before.pending, List.mem_append] at listed
  rcases listed with dropped | kept
  · exact .inr (Pending.mem_contents dropped found)
  · exact .inl ⟨ref, kept, found⟩

/-- A digest that is sent takes away what it has told, unless the end of the send is raced. -/
theorem onSent_keeps {now : Timestamp} {captured : Option (List Nat)} {sent : List (Nat × DigestItem)}
    (outcome : Except String Unit) (rendered : ∀ entry ∈ sent, before.items[entry.1]? = some entry.2)
    (attached : ∀ ref ∈ before.pending, ref ∈ captured.getD before.pending)
    (apart : ∀ ref ∈ captured.getD before.pending, ref ∉ sent.map Prod.fst → before.remains sent ref = true)
    (pending : before.Pending item) : (before.onSent now captured sent outcome).2.Pending item ∨
      item ∈ (before.onSent now captured sent outcome).1.sent := by
  obtain ⟨ref, listed, found⟩ := pending
  cases outcome with
  | error message => exact .inl ⟨ref, listed, found⟩
  | ok =>
    by_cases told : ref ∈ sent.map Prod.fst
    · obtain ⟨entry, rendered_as, rfl⟩ := List.mem_map.mp told
      have same := rendered entry rendered_as
      rw [found] at same
      cases same
      exact .inr (List.mem_map_of_mem rendered_as)
    · have held := attached ref listed
      exact .inl ⟨ref, List.mem_filter.mpr ⟨held, apart ref held told⟩, found⟩

theorem Accounted.step (accounted : Accounted labels before)
    (step : (machine options).system.Step before label after) (unraced : before.Unraced label) :
    Accounted (labels ++ [label]) after := by
  obtain ⟨call, reply⟩ := label
  have performed : perform options call before = (reply, after) := step
  cases call with
  | queue input now => exact accounted.queue input now reply performed
  | save =>
    obtain ⟨rfl, rfl⟩ := Prod.mk.inj performed
    exact accounted.unqueued rfl fun item pending => (save_keeps pending).imp_right .inr
  | flush now =>
    simp only [perform, flushNotificationDigest] at performed
    split at performed
    · cases performed
      exact accounted.unqueued rfl fun _ pending => .inl pending
    · split at performed
      all_goals
        cases performed
        exact accounted.unqueued rfl fun _ pending => .inl pending
  | sent outcome =>
    simp only [perform] at performed
    split at performed
    · rename_i now captured sent flushing
      cases outcome with
      | error message =>
        cases performed
        exact accounted.unqueued rfl fun _ pending => .inl pending
      | ok =>
        obtain ⟨rendered, attached, apart⟩ : _ ∧ _ ∧ _ := by simpa only [Unraced, flushing] using unraced
        obtain ⟨rfl, rfl⟩ := Prod.mk.inj performed
        exact accounted.unqueued rfl fun item pending =>
          (onSent_keeps (.ok ()) rendered attached apart pending).imp_right .inl
    · cases performed
      exact accounted.unqueued rfl fun _ pending => .inl pending
  | saved outcome =>
    simp only [perform] at performed
    split at performed
    all_goals
      cases performed
      exact accounted.unqueued rfl fun _ pending => .inl pending

/-- A run in which no successful send is raced. -/
abbrev UnracedRun (options : DigestOptions) (labels : List (DigestCall × DigestReply)) (digest : Digest) : Prop :=
  ((machine options).system.restricted Unraced).Run labels digest

/-- What was queued last for a task is pending with exactly that content, unless a digest with
it was sent or a save has cut it off. -/
theorem digest_accounted {digest : Digest} (run : UnracedRun options labels digest) {taskId : String}
    {item : DigestItem} (last : lastQueued labels taskId = some item) :
    digest.Pending item ∨ item ∈ sentIn labels ∨ item ∈ droppedIn labels := by
  have accounted : Accounted labels digest := by
    refine run.history (motive := fun labels digest => Accounted labels digest) ?_ ?_
    · rintro _ rfl
      intro taskId item last
      cases last
    · rintro labels label before after _ accounted ⟨step, unraced⟩
      exact accounted.step step unraced
  exact accounted taskId item last

/-- Digests at any hour, after a second. -/
def promptly : DigestOptions := ⟨fun _ => true, 1000, 20⟩

/-- A message that updates a task. -/
def taskUpdate (messageId taskId : String) : DigestInput :=
  ⟨messageId, some "Factory", "oc_1", some "Li", taskId, "Repair", "updated", none, none, none, [], none, none,
    none, none⟩

/-- An update is queued, saved, and sent. -/
def queuedAndSent : List DigestCall :=
  [.queue (taskUpdate "om_1" "task-1") 0, .save, .flush 2000, .save, .sent (.ok ()), .save, .saved (.ok ())]

theorem queuedAndSent_accounted :
    ((machine promptly).replay queuedAndSent empty).2.Pending ((taskUpdate "om_1" "task-1").item 0 0) ∨
      (taskUpdate "om_1" "task-1").item 0 0 ∈ sentIn ((machine promptly).replay queuedAndSent empty).1 ∨
      (taskUpdate "om_1" "task-1").item 0 0 ∈ droppedIn ((machine promptly).replay queuedAndSent empty).1 := by
  have run : UnracedRun promptly ((machine promptly).replay queuedAndSent empty).1
      ((machine promptly).replay queuedAndSent empty).2 :=
    (machine promptly).replay_restricted (by decide)
  have last : lastQueued ((machine promptly).replay queuedAndSent empty).1 "task-1" =
      some ((taskUpdate "om_1" "task-1").item 0 0) := by
    decide
  exact digest_accounted run last

/-- What is queued while a digest is being sent is lost: a new content of a task that it
tells, and a task that is queued after a save. -/
theorem queued_while_sending : (∃ labels digest item, (machine promptly).system.Run labels digest ∧
      lastQueued labels "task-1" = some item ∧ digest.pending = [] ∧ item ∉ sentIn labels ∧
      item ∉ droppedIn labels) ∧
      ∃ labels digest item, (machine promptly).system.Run labels digest ∧
        lastQueued labels "task-2" = some item ∧ digest.pending = [] ∧ item ∉ sentIn labels ∧
        item ∉ droppedIn labels := by
  constructor
  · refine ⟨_, _, (taskUpdate "om_2" "task-1").item 1 2001, (machine promptly).replay_run
      [.queue (taskUpdate "om_1" "task-1") 0, .flush 2000, .queue (taskUpdate "om_2" "task-1") 2001,
        .sent (.ok ())], ?_⟩
    decide
  · refine ⟨_, _, (taskUpdate "om_2" "task-2").item 1 2001, (machine promptly).replay_run
      [.queue (taskUpdate "om_1" "task-1") 0, .flush 2000, .save, .queue (taskUpdate "om_2" "task-2") 2001,
        .sent (.ok ())], ?_⟩
    decide

end Digest

end QuarkSelfAI.BridgeCompat

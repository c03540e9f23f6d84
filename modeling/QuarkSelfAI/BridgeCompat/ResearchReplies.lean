import QuarkSelfAI.BridgeCompat.ResearchChannel

/-!
# Replies reach the right request

What is known of a request: where its message comes from, that the owner was sent the reply that it
has, or is being sent it, and that it is completed with an update of its task. A step of the poll may
change one request and attribute one message; a call of `request` changes one beside it. The
invariant needs that no notification fails, that no save cuts the arrays off, and that the message
a request was sent with is not claimed by another request when its send returns.
-/

namespace QuarkSelfAI.BridgeCompat

open Foundation

abbrev ResearchTrace := List (ResearchCall × ResearchReply)

def researchEvents (labels : ResearchTrace) : List ResearchEvent := labels.flatMap fun label => label.2.events

theorem researchEvents_snoc (labels : ResearchTrace) (label : ResearchCall × ResearchReply) :
    researchEvents (labels ++ [label]) = researchEvents labels ++ label.2.events := by
  simp [researchEvents]

namespace ResearchChannel

/-- Another request was sent with a message, or adopted from it. -/
def claimed (messageId : String) (ref : Nat) (world : ResearchChannel) : Bool :=
  (List.range world.items.length).any fun other => decide (other ≠ ref) &&
    world.items[other]?.any fun item =>
      decide (messageId ∈ item.sentIds) || decide (item.manualMessageId = some messageId)

/-- A save cuts nothing off, the message of a send that returns is not claimed by another request,
and no notification fails. -/
def Undisturbed (world : ResearchChannel) (label : ResearchCall × ResearchReply) : Prop :=
  match label.1 with
  | .save => world.requests.length ≤ 300 ∧ world.processedIds.length ≤ 2000
  | .requestSent ticket (.ok (some messageId)) _ =>
    match world.calls.find? ticket with
    | some (.sending ref) => world.claimed messageId ref = false
    | _ => True
  | .pollSent (.ok (some messageId)) _ =>
    match world.poll with
    | some (.sending _ ref _) => world.claimed messageId ref = false
    | _ => True
  | .pollNotified (.error _) =>
    match world.poll with
    | some (.notifying ..) => False
    | _ => True
  | _ => True

instance (world : ResearchChannel) (label : ResearchCall × ResearchReply) : Decidable (Undisturbed world label) := by
  unfold Undisturbed
  split
  · infer_instance
  · split <;> infer_instance
  · split <;> infer_instance
  · split <;> infer_instance
  · infer_instance

/-- The owner is being sent the reply of a request. -/
def Telling (poll : Option PollPhase) (ref : Nat) (messageId : String) : Prop :=
  ∃ message rest processed now, poll = some (.notifying ref message rest processed now) ∧ message.messageId = messageId

/-- What is known of a request. -/
structure ItemOk (events : List ResearchEvent) (poll : Option PollPhase) (ref : Nat) (item : ResearchRequest) :
    Prop where
  linked : ∀ id, item.sentMessageId = some id → id ∈ item.sentIds ∧ id ≠ "" ∨ item.manualMessageId = some id
  told : ∀ messageId, item.replyMessageId = some messageId → ∃ content, item.replyContent = some content ∧
    .attributed messageId ref ∈ events ∧
    (item.hasTask = true → .notified ref messageId content ∈ events ∨ Telling poll ref messageId)
  answered : item.status = .replyReceived ∨ item.status = .taskUpdateFailed ∨ item.status = .completed →
    item.replyMessageId.isSome = true
  updated : item.hasTask = true → item.status = .completed →
    ∃ content, item.replyContent = some content ∧ .updated ref (some content) ∈ events

/-- What the poll has in hand. -/
def PhaseOk (items : List ResearchRequest) (processedIds : List String) : PollPhase → Prop
  | .replied _ processed _ => processedIds ⊆ processed
  | .notifying ref message _ processed _ => processedIds ⊆ processed ∧ ∃ item, items[ref]? = some item ∧
    item.replyMessageId = some message.messageId ∧ item.replyContent = some message.text ∧ item.status ≠ .completed
  | .updating _ ref _ => ∃ item, items[ref]? = some item ∧ item.replyMessageId.isSome = true
  | _ => True

structure Sound (events : List ResearchEvent) (world : ResearchChannel) : Prop where
  uncut : world.requests = List.range world.items.length
  items : ∀ ref item, world.items[ref]? = some item → ItemOk events world.poll ref item
  apart : ∀ (ref other : Nat) (item others : ResearchRequest) (id : String), world.items[ref]? = some item →
    world.items[other]? = some others → item.sentMessageId = some id → others.sentMessageId = some id → ref = other
  phase : ∀ phase, world.poll = some phase → PhaseOk world.items world.processedIds phase
  attributed : ∀ messageId ref, .attributed messageId ref ∈ events →
    messageId ∈ world.processedIds ∨ Telling world.poll ref messageId
  once : ∀ messageId ref other, .attributed messageId ref ∈ events → .attributed messageId other ∈ events → ref = other
  told : ∀ ref messageId, .unnotified ref messageId ∉ events

variable {options : ResearchOptions} {world before after : ResearchChannel} {events new : List ResearchEvent}
  {item : ResearchRequest} {ref : Nat} {poll : Option PollPhase} {labels : ResearchTrace} {now : Timestamp}
  {change : ResearchRequest → ResearchRequest} {outcome : Except String Unit} {phase : PollPhase}
  {processed : List String} {message : ChatMessage} {loop : ArrayLoop} {wanted : ResearchRequest → Bool}

/-- Nobody is being told of a reply. -/
def Calm (poll : Option PollPhase) : Prop := ∀ ref messageId, ¬ Telling poll ref messageId

theorem ItemOk.extend (ok : ItemOk events before.poll ref item) (calm : Calm before.poll) (new : List ResearchEvent)
    (poll : Option PollPhase) : ItemOk (events ++ new) poll ref item where
  linked := ok.linked
  told messageId replied := by
    obtain ⟨content, same, attributed, told⟩ := ok.told messageId replied
    refine ⟨content, same, List.mem_append_left _ attributed, fun task => .inl ?_⟩
    exact List.mem_append_left _ ((told task).resolve_right (calm ref messageId))
  answered := ok.answered
  updated task completed := by
    obtain ⟨content, same, updated⟩ := ok.updated task completed
    exact ⟨content, same, List.mem_append_left _ updated⟩

/-- A change of a request that leaves its reply alone, and does not answer it. -/
structure Keeps (item after : ResearchRequest) : Prop where
  task : after.taskId = item.taskId
  reply : after.replyMessageId = item.replyMessageId ∧ after.replyContent = item.replyContent
  status : after.status = item.status ∨ after.status = .waitingReply ∨ after.status = .progressReceived

theorem Keeps.completed {changed : ResearchRequest} (keeps : Keeps item changed) (completed : changed.status = .completed) :
    item.status = .completed := by
  rcases keeps.status with same | waits | waits
  · rw [← same, completed]
  · simp [waits] at completed
  · simp [waits] at completed

theorem ItemOk.keeps {changed : ResearchRequest} (ok : ItemOk events poll ref item) (keeps : Keeps item changed)
    (linked : ∀ id, changed.sentMessageId = some id → id ∈ changed.sentIds ∧ id ≠ "" ∨ changed.manualMessageId = some id) :
    ItemOk events poll ref changed := by
  have task : changed.hasTask = item.hasTask := by rw [ResearchRequest.hasTask, keeps.task, ResearchRequest.hasTask]
  constructor
  · exact linked
  · intro messageId replied
    rw [keeps.reply.1] at replied
    rw [keeps.reply.2, task]
    exact ok.told messageId replied
  · intro answered
    rw [keeps.reply.1]
    rcases keeps.status with same | waits | waits
    · rw [same] at answered
      exact ok.answered answered
    · simp [waits] at answered
    · simp [waits] at answered
  · intro own completed
    rw [keeps.reply.2]
    exact ok.updated (task ▸ own) (keeps.completed completed)

theorem PhaseOk.items {items others : List ResearchRequest} {processedIds : List String}
    (ok : PhaseOk items processedIds phase)
    (kept : ∀ (ref : Nat) item, items[ref]? = some item → ∃ other, others[ref]? = some other ∧
      (other.replyMessageId = item.replyMessageId ∧ other.replyContent = item.replyContent) ∧
      (other.status = .completed → item.status = .completed)) : PhaseOk others processedIds phase := by
  cases phase with
  | notifying ref message rest processed now =>
    obtain ⟨known, item, found, replied, content, open_⟩ := ok
    obtain ⟨other, there, ⟨reply, text⟩, status⟩ := kept ref item found
    exact ⟨known, other, there, by rw [reply, replied], by rw [text, content], fun done => open_ (status done)⟩
  | updating loop ref now =>
    obtain ⟨item, found, replied⟩ := ok
    obtain ⟨other, there, ⟨reply, _⟩, _⟩ := kept ref item found
    exact ⟨other, there, by rw [reply, replied]⟩
  | replied rest processed now => exact ok
  | sending | sendSaving | sendFailed | reading | adopted | updated | closing | failing => trivial

theorem getElem?_modify_cases {items : List ResearchRequest}
    {place : Nat} (found : (items.modify ref change)[place]? = some item) :
    (place = ref ∧ ∃ old, items[ref]? = some old ∧ item = change old) ∨ (place ≠ ref ∧ items[place]? = some item) := by
  by_cases here : place = ref
  · subst here
    rw [List.getElem?_modify_eq, Option.map_eq_map, Option.map_eq_some_iff] at found
    obtain ⟨old, there, same⟩ := found
    exact .inl ⟨rfl, old, there, same.symm⟩
  · rw [List.getElem?_modify_ne _ _ (Ne.symm here)] at found
    exact .inr ⟨here, found⟩

/-- A change of one request, with which its sent message stays apart from those of the others. -/
theorem apart_modify {items : List ResearchRequest}
    (apart : ∀ (ref other : Nat) (item others : ResearchRequest) (id : String), items[ref]? = some item →
      items[other]? = some others → item.sentMessageId = some id → others.sentMessageId = some id → ref = other)
    (changed : ∀ item id, items[ref]? = some item → (change item).sentMessageId = some id →
      item.sentMessageId = some id ∨ ∀ (other : Nat) (others : ResearchRequest), other ≠ ref → items[other]? = some others →
        others.sentMessageId ≠ some id) (left right : Nat) (item others : ResearchRequest) (id : String)
    (here : (items.modify ref change)[left]? = some item) (there : (items.modify ref change)[right]? = some others)
    (sent : item.sentMessageId = some id) (other : others.sentMessageId = some id) : left = right := by
  rcases getElem?_modify_cases here with ⟨rfl, old, found, rfl⟩ | ⟨elsewhere, found⟩
  · rcases getElem?_modify_cases there with ⟨same, _⟩ | ⟨apart_from, second⟩
    · exact same.symm
    · rcases changed old id found sent with unchanged | unclaimed
      · exact apart left right old others id found second unchanged other
      · exact absurd other (unclaimed right others apart_from second)
  · rcases getElem?_modify_cases there with ⟨rfl, old, second, rfl⟩ | ⟨_, second⟩
    · rcases changed old id second other with unchanged | unclaimed
      · exact apart left right item old id found second sent unchanged
      · exact absurd sent (unclaimed left item elsewhere found)
    · exact apart left right item others id found second sent other

/-- A request changes beside the poll. -/
theorem Sound.edit (sound : Sound events before)
    (keeps : ∀ item, before.items[ref]? = some item → Keeps item (change item))
    (linked : ∀ item id, before.items[ref]? = some item → (change item).sentMessageId = some id →
      id ∈ (change item).sentIds ∧ id ≠ "" ∨ (change item).manualMessageId = some id)
    (changed : ∀ item id, before.items[ref]? = some item → (change item).sentMessageId = some id →
      item.sentMessageId = some id ∨ ∀ (other : Nat) (others : ResearchRequest), other ≠ ref →
        before.items[other]? = some others → others.sentMessageId ≠ some id) :
    Sound events (before.edit ref change) := by
  refine ⟨?_, ?_, apart_modify sound.apart changed, ?_, sound.attributed, sound.once, sound.told⟩
  · rw [ResearchChannel.edit, List.length_modify]
    exact sound.uncut
  · intro place item found
    rcases getElem?_modify_cases found with ⟨rfl, old, there, rfl⟩ | ⟨_, there⟩
    · exact (sound.items place old there).keeps (keeps old there) fun id sent => linked old id there sent
    · exact sound.items place item there
  · intro phase waits
    refine (sound.phase phase waits).items fun place item found => ?_
    by_cases here : ref = place
    · subst here
      refine ⟨change item, ?_, (keeps item found).reply, (keeps item found).completed⟩
      simp only [ResearchChannel.edit]
      rw [List.getElem?_modify_eq, found]
      rfl
    · refine ⟨item, ?_, ⟨rfl, rfl⟩, fun done => done⟩
      simp only [ResearchChannel.edit]
      rw [List.getElem?_modify_ne _ _ here, found]

/-- A request is added whose sent message, if it has one, no other request has. -/
theorem Sound.push (sound : Sound events before) (item : ResearchRequest)
    (ok : ItemOk events before.poll before.items.length item)
    (unclaimed : ∀ id, item.sentMessageId = some id → ∀ (other : Nat) (others : ResearchRequest),
      before.items[other]? = some others → others.sentMessageId ≠ some id) : Sound events (before.push item) := by
  have cases_of : ∀ {place : Nat} {found : ResearchRequest}, (before.items ++ [item])[place]? = some found →
      before.items[place]? = some found ∨ place = before.items.length ∧ found = item := by
    intro place found here
    rcases Nat.lt_trichotomy place before.items.length with bound | rfl | beyond
    · rw [List.getElem?_append_left bound] at here
      exact .inl here
    · rw [List.getElem?_append_right (Nat.le_refl _), Nat.sub_self] at here
      exact .inr ⟨rfl, (Option.some.inj here).symm⟩
    · rw [List.getElem?_eq_none (by rw [List.length_append, List.length_singleton]; omega)] at here
      cases here
  refine ⟨?_, ?_, ?_, ?_, sound.attributed, sound.once, sound.told⟩
  · rw [ResearchChannel.push, List.length_append, List.length_singleton, List.range_succ, ← sound.uncut]
  · intro place found here
    rcases cases_of here with old | ⟨rfl, rfl⟩
    · exact sound.items place found old
    · exact ok
  · intro left right first second id here there sent other
    rcases cases_of here with old | ⟨rfl, rfl⟩
    · rcases cases_of there with older | ⟨rfl, rfl⟩
      · exact sound.apart left right first second id old older sent other
      · exact absurd sent (unclaimed id other left first old)
    · rcases cases_of there with older | ⟨rfl, _⟩
      · exact absurd other (unclaimed id sent right second older)
      · rfl
  · intro phase waits
    refine (sound.phase phase waits).items fun place item found => ⟨item, ?_, ⟨rfl, rfl⟩, fun done => done⟩
    obtain ⟨bound, _⟩ := List.getElem?_eq_some_iff.mp found
    simp only [ResearchChannel.push]
    rw [List.getElem?_append_left bound, found]

/-- A step of the poll changes one request. -/
theorem Sound.advance (sound : Sound events before) (calm : Calm before.poll) (ref : Nat)
    (change : ResearchRequest → ResearchRequest) (new : List ResearchEvent) (poll : Option PollPhase)
    (processedIds : List String) (lastPollAt : Option Timestamp)
    (changed : ∀ item, before.items[ref]? = some item → ItemOk (events ++ new) poll ref (change item) ∧
      (change item).sentMessageId = item.sentMessageId) (known : before.processedIds ⊆ processedIds)
    (phase : ∀ phase, poll = some phase → PhaseOk (before.items.modify ref change) processedIds phase)
    (fresh : ∀ messageId ref, .attributed messageId ref ∈ new → messageId ∉ before.processedIds ∧
      (messageId ∈ processedIds ∨ Telling poll ref messageId))
    (single : ∀ messageId ref other, .attributed messageId ref ∈ new → .attributed messageId other ∈ new → ref = other)
    (told : ∀ ref messageId, .unnotified ref messageId ∉ new) : Sound (events ++ new) { before with
      items := before.items.modify ref change, processedIds := processedIds, lastPollAt := lastPollAt, poll := poll } := by
  have processed : ∀ messageId ref, .attributed messageId ref ∈ events → messageId ∈ before.processedIds :=
    fun messageId ref earlier => (sound.attributed messageId ref earlier).resolve_right (calm ref messageId)
  refine ⟨?_, ?_, ?_, phase, ?_, ?_, ?_⟩
  · rw [List.length_modify]
    exact sound.uncut
  · intro place item found
    rcases getElem?_modify_cases found with ⟨rfl, old, there, rfl⟩ | ⟨_, there⟩
    · exact (changed old there).1
    · exact (sound.items place item there).extend calm new poll
  · refine apart_modify sound.apart fun item id found sent => .inl ?_
    rw [← (changed item found).2, sent]
  · intro messageId place attributed
    rcases List.mem_append.mp attributed with earlier | now
    · exact .inl (known (processed messageId place earlier))
    · exact (fresh messageId place now).2
  · intro messageId left right first second
    rcases List.mem_append.mp first with earlier | now
    · rcases List.mem_append.mp second with older | later
      · exact sound.once messageId left right earlier older
      · exact absurd (processed messageId left earlier) (fresh messageId right later).1
    · rcases List.mem_append.mp second with older | later
      · exact absurd (processed messageId right older) (fresh messageId left now).1
      · exact single messageId left right now later
  · intro place messageId failed
    rcases List.mem_append.mp failed with earlier | now
    · exact sound.told place messageId earlier
    · exact told place messageId now

/-- The poll goes on without changing a request. -/
theorem Sound.goes (sound : Sound events before) (calm : Calm before.poll) {lastPollAt : Option Timestamp}
    (phase : ∀ phase, poll = some phase → PhaseOk before.items before.processedIds phase) :
    Sound events { before with lastPollAt := lastPollAt, poll := poll } := by
  have same : before.items.modify 0 id = before.items := List.modify_id _ _
  have next := sound.advance calm 0 id [] poll before.processedIds lastPollAt
    (fun item found => ⟨(sound.items 0 item found).extend calm [] poll, rfl⟩) (List.Subset.refl _)
    (by rwa [same]) nofun nofun nofun
  rwa [same, List.append_nil] at next

theorem Sound.suspends (sound : Sound events before) (calls : Suspension SuspendedRequest) :
    Sound events { before with calls := calls } :=
  ⟨sound.uncut, sound.items, sound.apart, sound.phase, sound.attributed, sound.once, sound.told⟩

/-! ## Sends -/

theorem Sound.unclaimed (sound : Sound events before) {id : String} (free : before.claimed id ref = false)
    (other : Nat) (others : ResearchRequest) (apart : other ≠ ref) (found : before.items[other]? = some others) :
    others.sentMessageId ≠ some id := by
  intro sent
  obtain ⟨bound, _⟩ := List.getElem?_eq_some_iff.mp found
  rw [claimed, List.any_eq_false] at free
  refine free other (List.mem_range.mpr bound) ?_
  rcases (sound.items other others found).linked id sent with ⟨among, _⟩ | manual
  · simp [apart, found, among]
  · simp [apart, found, manual]

theorem Sound.onSent (sound : Sound events before) {outcome : Except String (Option String)}
    (free : ∀ id, outcome = .ok (some id) → before.claimed id ref = false) :
    Sound events (before.onSent ref outcome now) := by
  cases outcome with
  | error message =>
    refine sound.edit (fun item _ => ⟨rfl, ⟨rfl, rfl⟩, .inl rfl⟩) ?_ fun item id _ sent => .inl sent
    exact fun item id found sent => (sound.items ref item found).linked id sent
  | ok messageId =>
    refine sound.edit (fun item _ => ⟨rfl, ⟨rfl, rfl⟩, .inr (.inl rfl)⟩) ?_ ?_
    · intro item id _ sent
      have kept : messageId.filter (· ≠ "") = some id := sent
      have filled := (Option.filter_eq_some_iff.mp kept).2
      refine .inl ⟨?_, by simpa using filled⟩
      simp only [ResearchRequest.sent, kept]
      exact List.mem_append_right _ (List.mem_singleton_self _)
    · intro item id _ sent
      have kept : messageId.filter (· ≠ "") = some id := sent
      have given := (Option.filter_eq_some_iff.mp kept).1
      exact .inr fun other others apart found => sound.unclaimed (free id (by rw [given])) other others apart found

theorem Sound.unsent (sound : Sound events before) (now : Timestamp) :
    Sound events (before.edit ref (ResearchRequest.unsent now)) := by
  have sent : Sound events (before.onSent ref (.error "") now) := sound.onSent nofun
  exact sent

/-! ## New requests -/

/-- A request that has no message yet. -/
theorem ItemOk.fresh (unsent : item.sentMessageId = none) (unanswered : item.replyMessageId = none)
    (new : item.status = .new) : ItemOk events poll ref item where
  linked id sent := by
    rw [unsent] at sent
    cases sent
  told messageId replied := by
    rw [unanswered] at replied
    cases replied
  answered done := by simp [new] at done
  updated _ completed := by simp [new] at completed

theorem Sound.request (sound : Sound events before) {task : ResearchTask} {approval : Option ResearchApproval}
    : (before.request options task approval now).1.events = [] ∧
      Sound events (before.request options task approval now).2 := by
  unfold ResearchChannel.request
  split
  · exact ⟨rfl, sound⟩
  · split
    · exact ⟨rfl, sound⟩
    · refine ⟨rfl, (sound.push _ (.fresh rfl rfl rfl) ?_).suspends _⟩
      intro id sent
      cases sent

theorem find_none (uncut : world.requests = List.range world.items.length)
    (missing : ¬ (world.find wanted).isSome = true) {place : Nat} (found : world.items[place]? = some item) :
    wanted item = false := by
  rw [Option.not_isSome_iff_eq_none, ResearchChannel.find, uncut, List.find?_eq_none] at missing
  obtain ⟨bound, _⟩ := List.getElem?_eq_some_iff.mp found
  have unwanted := missing place (List.mem_range.mpr bound)
  rw [found, Option.any_some] at unwanted
  exact Bool.eq_false_iff.mpr unwanted

theorem mem_linked {id : String} (uncut : world.requests = List.range world.items.length) (filled : id ≠ "") :
    id ∈ world.linked ↔ ∃ (ref : Nat) (item : ResearchRequest), world.items[ref]? = some item ∧
      item.sentMessageId = some id := by
  rw [linked, uncut, List.mem_filterMap]
  constructor
  · rintro ⟨ref, _, sent⟩
    obtain ⟨item, found, sent⟩ := Option.bind_eq_some_iff.mp (Option.filter_eq_some_iff.mp sent).1
    exact ⟨ref, item, found, sent⟩
  · rintro ⟨ref, item, found, sent⟩
    obtain ⟨bound, _⟩ := List.getElem?_eq_some_iff.mp found
    refine ⟨ref, List.mem_range.mpr bound, ?_⟩
    rw [found, Option.bind_some, sent, Option.filter_some, if_pos (by simpa using filled)]

/-- What the owner has asked himself is adopted under messages that no request has. -/
theorem Sound.adopts (sound : Sound events before) {linked : List String} {messages : List ChatMessage}
    (all : ∀ (ref : Nat) (item : ResearchRequest) (id : String), before.items[ref]? = some item →
      item.sentMessageId = some id → id ≠ "" → id ∈ linked) :
    Sound events (adoptManualRequests options now linked messages before) ∧
      (adoptManualRequests options now linked messages before).poll = before.poll ∧
      (adoptManualRequests options now linked messages before).processedIds = before.processedIds := by
  induction messages generalizing linked before with
  | nil => exact ⟨sound, rfl, rfl⟩
  | cons message rest ih =>
    rw [adoptManualRequests]
    split
    · exact ih sound all
    · rename_i adopted
      simp only [Bool.or_eq_true, decide_eq_true_eq, not_or] at adopted
      obtain ⟨⟨_, unlinked⟩, unadopted⟩ := adopted
      have unclaimed : ∀ id, (options.manualRequest message now).sentMessageId = some id →
          ∀ (other : Nat) (others : ResearchRequest), before.items[other]? = some others →
            others.sentMessageId ≠ some id := by
        rintro _ ⟨⟩ other others found sent
        by_cases blank : message.messageId = ""
        · have other_manual := find_none sound.uncut unadopted found
          rcases (sound.items other others found).linked _ sent with ⟨_, filled⟩ | manual
          · exact filled blank
          · simp [manual] at other_manual
        · exact unlinked (all other others _ found sent blank)
      have ok : ItemOk events before.poll before.items.length (options.manualRequest message now) := by
        refine ⟨?_, nofun, ?_, ?_⟩
        · rintro _ ⟨⟩
          exact .inr rfl
        · intro done
          simp [ResearchOptions.manualRequest] at done
        · intro task
          simp [ResearchOptions.manualRequest, ResearchRequest.hasTask] at task
      have next := sound.push _ ok unclaimed
      have all_next : ∀ (ref : Nat) (item : ResearchRequest) (id : String),
          (before.push (options.manualRequest message now)).items[ref]? = some item → item.sentMessageId = some id →
            id ≠ "" → id ∈ message.messageId :: linked := by
        intro ref item id found sent filled
        simp only [ResearchChannel.push] at found
        rcases Nat.lt_or_ge ref before.items.length with bound | beyond
        · rw [List.getElem?_append_left bound] at found
          exact List.mem_cons_of_mem _ (all ref item id found sent filled)
        · rw [List.getElem?_append_right beyond] at found
          obtain ⟨_, rfl⟩ := List.getElem?_eq_some_iff.mp found
          simp only [List.getElem_singleton] at sent
          cases sent
          exact List.mem_cons_self
      obtain ⟨sound, poll, processed⟩ := ih next all_next
      exact ⟨sound, poll, processed⟩

/-! ## The poll -/

theorem calm_some (other : ∀ ref message rest processed now, phase ≠ .notifying ref message rest processed now) :
    Calm (some phase) := by
  rintro ref messageId ⟨message, rest, processed, now, same, _⟩
  exact other ref message rest processed now (Option.some.inj same)

theorem ArrayLoop.next_wanted {items : List ResearchRequest} {requests : List Nat}
    {loop later : ArrayLoop} (found : loop.next wanted items requests = some (later, ref)) :
    ∃ item, items[ref]? = some item ∧ wanted item = true := by
  obtain ⟨⟨index, place⟩, sought, same⟩ := Option.map_eq_some_iff.mp found
  cases same
  exact seek_wanted sought

theorem Sound.awaits (sound : Sound events before) (calm : Calm before.poll)
    (ok : PhaseOk before.items before.processedIds phase) : Sound events (before.await phase) := by
  refine sound.goes calm fun other same => ?_
  cases same
  exact ok

theorem Sound.sendNew (sound : Sound events before) (calm : Calm before.poll) :
    (before.sendNew options loop now).1.events = [] ∧ Sound events (before.sendNew options loop now).2 := by
  unfold ResearchChannel.sendNew
  split
  all_goals exact ⟨rfl, sound.awaits calm trivial⟩

theorem Sound.finish (sound : Sound events before) (calm : Calm before.poll) (now : Timestamp) :
    Sound events (before.finish now) := by
  refine sound.goes calm fun other same => ?_
  cases same
  trivial

theorem Sound.syncTaskResults (sound : Sound events before) (calm : Calm before.poll)
    : (before.syncTaskResults options loop now).1.events = [] ∧
      Sound events (before.syncTaskResults options loop now).2 := by
  unfold ResearchChannel.syncTaskResults
  split
  · split
    · rename_i later ref found
      obtain ⟨item, there, unsynced⟩ := ArrayLoop.next_wanted found
      refine ⟨rfl, sound.awaits calm ⟨item, there, (sound.items ref item there).answered ?_⟩⟩
      simp only [ResearchRequest.isUnsynced, Bool.and_eq_true, Bool.or_eq_true, decide_eq_true_eq] at unsynced
      rcases unsynced.1 with received | failed
      · exact .inl received
      · exact .inr (.inl failed)
    · exact ⟨rfl, sound.finish calm now⟩
  · exact ⟨rfl, sound.finish calm now⟩

/-- A request has the reply that is attributed to it. -/
theorem ItemOk.answer (ok : ItemOk events poll ref item) {next : Option PollPhase}
    (told : item.hasTask = true → Telling next ref message.messageId) :
    ItemOk (events ++ [.attributed message.messageId ref]) next ref (item.answer message) := by
  have task : (item.answer message).hasTask = item.hasTask := rfl
  refine ⟨ok.linked, ?_, fun _ => rfl, ?_⟩
  · rintro _ ⟨⟩
    refine ⟨message.text, rfl, List.mem_append_right _ (List.mem_singleton_self _), fun own => .inr (told ?_)⟩
    rwa [← task]
  · intro own completed
    rw [task] at own
    simp [ResearchRequest.answer, own] at completed

theorem Sound.processReply (sound : Sound events before) (calm : Calm before.poll) {rest : List ChatMessage}
    (known : before.processedIds ⊆ processed) (new : message.messageId ∉ processed) :
    Sound (events ++ (before.processReply options message rest processed now).1.events)
      (before.processReply options message rest processed now).2 := by
  have unprocessed : message.messageId ∉ before.processedIds := fun earlier => new (known earlier)
  have replied_ok : ∀ items, PhaseOk items (before.processedIds ++ [message.messageId])
      (.replied rest (message.messageId :: processed) now) := by
    intro items id among
    rcases List.mem_append.mp among with earlier | here
    · exact List.mem_cons_of_mem _ (known earlier)
    · rw [List.mem_singleton.mp here]
      exact List.mem_cons_self
  have marked : message.messageId ∈ before.processedIds ++ [message.messageId] :=
    List.mem_append_right _ (List.mem_singleton_self _)
  have kept : before.processedIds ⊆ before.processedIds ++ [message.messageId] := List.subset_append_left _ _
  unfold ResearchChannel.processReply
  dsimp only
  split
  · have same : before.items.modify 0 id = before.items := List.modify_id _ _
    have next := sound.advance calm 0 id [.ignored message.messageId]
      (some (.replied rest (message.messageId :: processed) now)) (before.processedIds ++ [message.messageId])
      before.lastPollAt (fun item found => ⟨(sound.items 0 item found).extend calm _ _, rfl⟩) kept
      (by rintro _ ⟨⟩; exact replied_ok _) (by simp) (by simp) (by simp)
    rwa [same] at next
  · rename_i ref _
    have single : ∀ messageId left right, .attributed messageId left ∈ [ResearchEvent.attributed message.messageId ref] →
        .attributed messageId right ∈ [ResearchEvent.attributed message.messageId ref] → left = right := by
      intro messageId left right first second
      cases List.mem_singleton.mp first
      cases List.mem_singleton.mp second
      rfl
    split
    · split
      · rename_i own
        obtain ⟨answered, there, task⟩ := (Option.any_eq_true _ _).mp own
        refine sound.advance calm ref _ _ _ before.processedIds before.lastPollAt ?_ (List.Subset.refl _) ?_ ?_ single
          (by simp)
        · intro item found
          exact ⟨(sound.items ref item found).answer fun _ => ⟨message, rest, processed, now, rfl, rfl⟩, rfl⟩
        · rintro _ ⟨⟩
          refine ⟨known, answered, there, ?_⟩
          simp only [ResearchChannel.edit] at there
          rw [List.getElem?_modify_eq, Option.map_eq_map, Option.map_eq_some_iff] at there
          obtain ⟨old, _, rfl⟩ := there
          refine ⟨rfl, rfl, ?_⟩
          have own_old : old.hasTask = true := task
          simp [ResearchRequest.answer, own_old]
        · intro messageId other attributed
          cases List.mem_singleton.mp attributed
          exact ⟨unprocessed, .inr ⟨message, rest, processed, now, rfl, rfl⟩⟩
      · rename_i manual
        refine sound.advance calm ref _ _ _ _ before.lastPollAt ?_ kept (by rintro _ ⟨⟩; exact replied_ok _) ?_ single
          (by simp)
        · intro item found
          refine ⟨(sound.items ref item found).answer fun own => absurd ?_ manual, rfl⟩
          simp only [ResearchChannel.edit]
          rw [List.getElem?_modify_eq, found]
          exact own
        · intro messageId other attributed
          cases List.mem_singleton.mp attributed
          exact ⟨unprocessed, .inl marked⟩
    · refine sound.advance calm ref _ _ _ _ before.lastPollAt ?_ kept (by rintro _ ⟨⟩; exact replied_ok _) ?_ single
        (by simp)
      · intro item found
        have ok := (sound.items ref item found).extend calm [.attributed message.messageId ref]
          (some (.replied rest (message.messageId :: processed) now))
        exact ⟨ok.keeps ⟨rfl, ⟨rfl, rfl⟩, .inr (.inr rfl)⟩ ok.linked, rfl⟩
      · intro messageId other attributed
        cases List.mem_singleton.mp attributed
        exact ⟨unprocessed, .inl marked⟩

theorem Sound.processReplies (sound : Sound events before) (calm : Calm before.poll) {messages : List ChatMessage}
    (known : before.processedIds ⊆ processed) :
    Sound (events ++ (processReplies options processed now messages before).1.events)
      (processReplies options processed now messages before).2 := by
  induction messages with
  | nil =>
    obtain ⟨silent, next⟩ := sound.syncTaskResults calm
    rw [ResearchChannel.processReplies, silent, List.append_nil]
    exact next
  | cons message rest ih =>
    rw [ResearchChannel.processReplies]
    split
    · exact ih
    · rename_i agent
      simp only [Bool.or_eq_true, decide_eq_true_eq, not_or] at agent
      exact sound.processReply calm known agent.2

/-- The owner was sent the reply, and the message is processed. -/
theorem Sound.notified (sound : Sound events before) {rest : List ChatMessage}
    (telling : before.poll = some (.notifying ref message rest processed now)) :
    Sound (events ++ [.notified ref message.messageId message.text])
      ((before.markProcessed message.messageId).await (.replied rest (message.messageId :: processed) now)) := by
  obtain ⟨known, answered, there, _, content, _⟩ := sound.phase _ telling
  have only : ∀ {place messageId}, Telling before.poll place messageId → place = ref ∧ messageId = message.messageId := by
    rintro place messageId ⟨other, _, _, _, same, rfl⟩
    rw [telling] at same
    cases same
    exact ⟨rfl, rfl⟩
  constructor
  · exact sound.uncut
  · intro place item found
    have ok := sound.items place item found
    refine ⟨ok.linked, ?_, ok.answered, ?_⟩
    · intro messageId replied
      obtain ⟨text, same, attributed, told⟩ := ok.told messageId replied
      refine ⟨text, same, List.mem_append_left _ attributed, fun task => .inl ?_⟩
      rcases told task with earlier | now_told
      · exact List.mem_append_left _ earlier
      · obtain ⟨rfl, rfl⟩ := only now_told
        have item_eq : item = answered := Option.some.inj (found.symm.trans there)
        rw [item_eq, content] at same
        rw [← Option.some.inj same]
        exact List.mem_append_right _ (List.mem_singleton_self _)
    · intro task completed
      obtain ⟨text, same, updated⟩ := ok.updated task completed
      exact ⟨text, same, List.mem_append_left _ updated⟩
  · exact sound.apart
  · rintro _ ⟨⟩ id among
    rcases List.mem_append.mp among with earlier | here
    · exact List.mem_cons_of_mem _ (known earlier)
    · rw [List.mem_singleton.mp here]
      exact List.mem_cons_self
  · intro messageId place attributed
    have earlier : .attributed messageId place ∈ events := by simpa using attributed
    rcases sound.attributed messageId place earlier with before_processed | now_told
    · exact .inl (List.mem_append_left _ before_processed)
    · rw [(only now_told).2]
      exact .inl (List.mem_append_right _ (List.mem_singleton_self _))
  · intro messageId left right first second
    exact sound.once messageId left right (by simpa using first) (by simpa using second)
  · intro place messageId failed
    exact sound.told place messageId (by simpa using failed)

theorem Sound.updated (sound : Sound events before) (updating : before.poll = some (.updating loop ref now)) :
    Sound (events ++ (before.onUpdated loop ref now outcome).1.events) (before.onUpdated loop ref now outcome).2 := by
  have calm : Calm before.poll := by
    rw [updating]
    exact calm_some nofun
  obtain ⟨item, there, replied⟩ := sound.phase _ updating
  obtain ⟨messageId, reply⟩ := Option.isSome_iff_exists.mp replied
  cases outcome with
  | error message =>
    have next := sound.advance calm ref (ResearchRequest.unsynced now) [] (some (.updated loop now)) before.processedIds
      before.lastPollAt ?_ (List.Subset.refl _) (by rintro _ ⟨⟩; trivial) nofun nofun nofun
    · exact next
    · intro other found
      have same : other = item := Option.some.inj (found.symm.trans there)
      subst same
      have ok := (sound.items ref other found).extend calm [] (some (.updated loop now))
      refine ⟨⟨ok.linked, ok.told, fun _ => replied, fun _ completed => ?_⟩, rfl⟩
      simp [ResearchRequest.unsynced] at completed
  | ok =>
    refine sound.advance calm ref ResearchRequest.synced
      [.updated ref (before.items[ref]?.bind (·.replyContent))] (some (.updated loop now)) before.processedIds
      before.lastPollAt ?_ (List.Subset.refl _) (by rintro _ ⟨⟩; trivial) (by simp) (by simp) (by simp)
    intro other found
    have same : other = item := Option.some.inj (found.symm.trans there)
    subst same
    have ok := (sound.items ref other found).extend calm
      [.updated ref (before.items[ref]?.bind (·.replyContent))] (some (.updated loop now))
    refine ⟨⟨ok.linked, ok.told, fun _ => replied, fun _ _ => ?_⟩, rfl⟩
    obtain ⟨content, text, _⟩ := ok.told messageId reply
    refine ⟨content, text, List.mem_append_right _ ?_⟩
    rw [found, Option.bind_some, text]
    exact List.mem_singleton_self _

theorem Sound.pollSaved (sound : Sound events before) {ended : Timestamp} (waits : before.poll = some phase) :
    Sound (events ++ (before.onPollSaved options phase outcome ended).1.events)
      (before.onPollSaved options phase outcome ended).2 := by
  have calm_of : (∀ ref message rest processed now, phase ≠ .notifying ref message rest processed now) →
      Calm before.poll := by
    intro other
    rw [waits]
    exact calm_some other
  have fails : Calm before.poll → Sound (events ++ []) (before.await .failing) := by
    intro calm
    rw [List.append_nil]
    exact sound.awaits calm trivial
  unfold ResearchChannel.onPollSaved
  split
  · obtain ⟨silent, next⟩ := sound.sendNew (calm_of nofun)
    rw [silent, List.append_nil]
    exact next
  · rw [ResearchReply.silent, List.append_nil]
    exact (sound.unsent ended).awaits (calm_of nofun) trivial
  · exact sound.processReplies (calm_of nofun) (List.Subset.refl _)
  · exact sound.processReplies (calm_of nofun) (sound.phase _ waits)
  · obtain ⟨silent, next⟩ := sound.syncTaskResults (calm_of nofun)
    rw [silent, List.append_nil]
    exact next
  · exact fails (calm_of nofun)
  · exact fails (calm_of nofun)
  · exact fails (calm_of nofun)
  · exact fails (calm_of nofun)
  · rw [ResearchReply.silent, List.append_nil]
    exact sound

theorem save_eq (few : world.requests.length ≤ 300 ∧ world.processedIds.length ≤ 2000) :
    world.save = { world with poll := world.poll.map (PollPhase.detach world.requests) } := by
  rw [ResearchChannel.save, Nat.sub_eq_zero_of_le few.1, Nat.sub_eq_zero_of_le few.2, List.drop_zero, List.drop_zero]

theorem Sound.save (sound : Sound events before) (few : before.requests.length ≤ 300 ∧ before.processedIds.length ≤ 2000) :
    Sound events before.save := by
  have telling : ∀ {place messageId}, Telling before.poll place messageId →
      Telling (before.poll.map (PollPhase.detach before.requests)) place messageId := by
    rintro place messageId ⟨message, rest, processed, now, waits, same⟩
    exact ⟨message, rest, processed, now, by simp [waits, PollPhase.detach], same⟩
  rw [save_eq few]
  refine ⟨sound.uncut, ?_, sound.apart, ?_, ?_, sound.once, sound.told⟩
  · intro place item found
    have ok := sound.items place item found
    refine ⟨ok.linked, ?_, ok.answered, ok.updated⟩
    intro messageId replied
    obtain ⟨content, same, attributed, told⟩ := ok.told messageId replied
    exact ⟨content, same, attributed, fun task => (told task).imp_right telling⟩
  · intro phase waits
    obtain ⟨held, was, rfl⟩ := Option.map_eq_some_iff.mp waits
    have ok := sound.phase held was
    cases held <;> exact ok
  · intro messageId place attributed
    exact (sound.attributed messageId place attributed).imp_right telling

theorem Sound.requestSaved (sound : Sound events before) {ticket : Nat} :
    (before.onRequestSaved ticket outcome now).1.events = [] ∧
      Sound events (before.onRequestSaved ticket outcome now).2 := by
  unfold ResearchChannel.onRequestSaved
  split
  · exact ⟨rfl, sound.suspends _⟩
  · exact ⟨rfl, (sound.unsent now).suspends _⟩
  · exact ⟨rfl, sound.suspends _⟩
  · exact ⟨rfl, sound.suspends _⟩
  · exact ⟨rfl, sound.suspends _⟩
  · exact ⟨rfl, sound⟩

theorem Sound.step (sound : Sound events before) {call : ResearchCall} {reply : ResearchReply}
    (performed : perform options call before = (reply, after)) (undisturbed : before.Undisturbed (call, reply)) :
    Sound (events ++ reply.events) after := by
  have still : Sound (events ++ []) before := by rwa [List.append_nil]
  unfold perform at performed
  split at performed
  · rename_i task approval now
    have next : (before.request options task approval now).1.events = [] ∧
        Sound events (before.request options task approval now).2 := sound.request
    rw [performed] at next
    rw [next.1, List.append_nil]
    exact next.2
  · rename_i ticket outcome now
    have next : (before.onRequestSaved ticket outcome now).1.events = [] ∧
        Sound events (before.onRequestSaved ticket outcome now).2 := sound.requestSaved
    rw [performed] at next
    rw [next.1, List.append_nil]
    exact next.2
  · rename_i ticket outcome now
    unfold onRequestSent at performed
    split at performed
    · rename_i ref sending
      cases performed
      rw [ResearchReply.silent, List.append_nil]
      refine (sound.onSent fun id returned => ?_).suspends _
      subst returned
      simpa [Undisturbed, sending] using undisturbed
    · cases performed
      exact still
  · cases performed
    rw [ResearchReply.silent, List.append_nil]
    exact sound.save undisturbed
  · rename_i now idle
    have calm : Calm before.poll := by
      rw [idle]
      rintro ref messageId ⟨_, _, _, _, ⟨⟩, _⟩
    split at performed
    · cases performed
      exact still
    · have next : (before.sendNew options .start now).1.events = [] ∧
          Sound events (before.sendNew options .start now).2 := sound.sendNew calm
      rw [performed] at next
      rw [next.1, List.append_nil]
      exact next.2
  · rename_i outcome ended loop ref now sending
    cases performed
    have calm : Calm before.poll := by
      rw [sending]
      exact calm_some fun _ _ _ _ _ same => by cases same
    rw [ResearchReply.silent, List.append_nil]
    have sent : Sound events (before.onSent ref outcome ended) := by
      refine sound.onSent fun id returned => ?_
      subst returned
      simpa [Undisturbed, sending] using undisturbed
    cases outcome with
    | ok | error => exact sent.awaits calm trivial
  · rename_i outcome ended phase waits
    have next : Sound (events ++ (before.onPollSaved options phase outcome ended).1.events)
        (before.onPollSaved options phase outcome ended).2 := sound.pollSaved waits
    rwa [performed] at next
  · rename_i messages now reading
    cases performed
    have calm : Calm before.poll := by
      rw [reading]
      exact calm_some fun _ _ _ _ _ same => by cases same
    rw [ResearchReply.silent, List.append_nil]
    have all : ∀ (ref : Nat) (item : ResearchRequest) (id : String), before.items[ref]? = some item →
        item.sentMessageId = some id → id ≠ "" → id ∈ before.linked :=
      fun ref item id found sent filled => (mem_linked sound.uncut filled).mpr ⟨ref, item, found, sent⟩
    have adopted : Sound events (adoptManualRequests options now before.linked messages before) ∧ _ := sound.adopts all
    refine adopted.1.awaits ?_ trivial
    rw [adopted.2.1]
    exact calm
  · rename_i error now reading
    cases performed
    rw [ResearchReply.silent, List.append_nil]
    refine sound.awaits ?_ trivial
    rw [reading]
    exact calm_some fun _ _ _ _ _ same => by cases same
  · rename_i outcome ref message rest processed now telling
    cases outcome with
    | error message => exact absurd undisturbed (by simp [Undisturbed, telling])
    | ok =>
      cases performed
      exact sound.notified telling
  · rename_i outcome loop ref now updating
    have next : Sound (events ++ (before.onUpdated loop ref now outcome).1.events)
        (before.onUpdated loop ref now outcome).2 := sound.updated updating
    rwa [performed] at next
  · rename_i closing
    cases performed
    rw [ResearchReply.silent, List.append_nil]
    refine sound.goes ?_ fun _ same => by cases same
    rw [closing]
    exact calm_some fun _ _ _ _ _ same => by cases same
  · rename_i failing
    cases performed
    rw [ResearchReply.silent, List.append_nil]
    refine sound.goes ?_ fun _ same => by cases same
    rw [failing]
    exact calm_some fun _ _ _ _ _ same => by cases same
  · cases performed
    exact still

/-- A run in which nothing is cut off, no send returns a message that another request claims, and
no notification fails. -/
abbrev UndisturbedRun (options : ResearchOptions) (labels : ResearchTrace) (world : ResearchChannel) : Prop :=
  ((machine options).system.restricted Undisturbed).Run labels world

theorem run_sound (run : UndisturbedRun options labels world) : Sound (researchEvents labels) world := by
  refine run.history (motive := fun labels world => Sound (researchEvents labels) world) ?_ ?_
  · rintro _ rfl
    refine ⟨rfl, ?_, ?_, ?_, ?_, ?_, ?_⟩
    all_goals simp [researchEvents, machine, empty]
  · rintro labels ⟨call, reply⟩ before after _ sound ⟨step, undisturbed⟩
    rw [researchEvents_snoc]
    exact sound.step step undisturbed

/-- Requests have different sent messages, a reply is attributed to one request, and a request with
a task is completed once the owner was sent the content of the reply that is attributed to it, and
the task was updated with it. What the owner could not be sent stays with its request. -/
theorem replies_reach (run : UndisturbedRun options labels world) :
    (∀ (ref other : Nat) (item others : ResearchRequest) (id : String), world.items[ref]? = some item →
      world.items[other]? = some others → item.sentMessageId = some id → others.sentMessageId = some id → ref = other) ∧
    (∀ messageId ref other, .attributed messageId ref ∈ researchEvents labels →
      .attributed messageId other ∈ researchEvents labels → ref = other) ∧
    (∀ (ref : Nat) (item : ResearchRequest), world.items[ref]? = some item → item.hasTask = true → item.status = .completed →
      ∃ messageId content, item.replyMessageId = some messageId ∧ item.replyContent = some content ∧
        .attributed messageId ref ∈ researchEvents labels ∧
        .notified ref messageId content ∈ researchEvents labels ∧ .updated ref (some content) ∈ researchEvents labels) ∧
    (researchEvents labels).Pairwise fun first second => ∀ ref messageId, first = .unnotified ref messageId →
      second ≠ .ignored messageId ∧ ∀ other, second = .attributed messageId other → other = ref := by
  have sound := run_sound run
  refine ⟨sound.apart, sound.once, ?_, ?_⟩
  · intro ref item found task completed
    have ok := sound.items ref item found
    obtain ⟨messageId, replied⟩ := Option.isSome_iff_exists.mp (ok.answered (.inr (.inr completed)))
    obtain ⟨content, same, attributed, told⟩ := ok.told messageId replied
    obtain ⟨other, text, updated⟩ := ok.updated task completed
    have identical : other = content := Option.some.inj (text.symm.trans same)
    subst identical
    refine ⟨messageId, other, replied, same, attributed, ?_, updated⟩
    refine (told task).resolve_right ?_
    rintro ⟨message, rest, processed, now, telling, _⟩
    obtain ⟨_, answered, there, _, _, open_⟩ := sound.phase _ telling
    have item_eq : answered = item := Option.some.inj (there.symm.trans found)
    exact open_ (item_eq ▸ completed)
  · refine List.pairwise_of_forall_mem_list fun first listed second _ ref messageId failed => ?_
    rw [failed] at listed
    exact absurd listed (sound.told ref messageId)

def agentChannel : ResearchOptions := ⟨id, "ou_me", "ou_agent", "oc_agent", "Agent", 10800000, true⟩

def researchTask (taskId : String) : ResearchTask := ⟨some taskId, "Outage", "Check the logs", some "om_0", "Factory", none⟩

def approved : Option ResearchApproval := some ⟨some "research", some "2026-08-16T08:00:00Z"⟩

/-- The agent concludes. -/
def conclusion : ChatMessage := ⟨"om_9", some "ou_agent", some "调研结论：OK", some "om_1", none⟩

/-- A request of a task, which is sent as a message. Its three waits have tickets from one on. -/
def requested (taskId messageId : String) (ticket : Nat) : List ResearchCall :=
  [.request (researchTask taskId) approved 0, .requestSaved ticket (.ok ()) 0,
    .requestSent (ticket + 1) (.ok (some messageId)) 0, .requestSaved (ticket + 2) (.ok ()) 0]

/-- A request is answered, the owner is told, and the task is updated. -/
def answeredRequest : List ResearchCall :=
  requested "task-1" "om_1" 0 ++
    [.poll 0, .pollRead (.ok [conclusion]), .pollSaved (.ok ()) 0, .pollNotified (.ok ()), .save, .pollSaved (.ok ()) 0,
      .pollUpdated (.ok ()), .pollSaved (.ok ()) 0, .pollSettled]

theorem answeredRequest_reached : ∃ labels world, UndisturbedRun agentChannel labels world ∧
    (world.items[0]?.map (·.status)) = some .completed ∧ .notified 0 "om_9" "调研结论：OK" ∈ researchEvents labels := by
  let service := machine agentChannel
  have run : UndisturbedRun agentChannel (service.replay answeredRequest service.initial).1
      (service.replay answeredRequest service.initial).2 :=
    service.replay_restricted (by decide)
  have status : (service.replay answeredRequest service.initial).2.items[0]?.map (·.status) = some .completed := by
    decide
  obtain ⟨item, found, completed⟩ := Option.map_eq_some_iff.mp status
  have task : item.hasTask = true := by
    have tasks : (service.replay answeredRequest service.initial).2.items[0]?.all ResearchRequest.hasTask = true := by
      decide
    rwa [found, Option.all_some] at tasks
  obtain ⟨messageId, content, replied, text, _, notified, _⟩ := (replies_reach run).2.2.1 0 item found task completed
  have reply : (service.replay answeredRequest service.initial).2.items[0]?.bind (·.replyMessageId) = some "om_9" := by
    decide
  have written : (service.replay answeredRequest service.initial).2.items[0]?.bind (·.replyContent) =
      some "调研结论：OK" := by
    decide
  rw [found, Option.bind_some, replied] at reply
  rw [found, Option.bind_some, text] at written
  cases reply
  cases written
  exact ⟨_, _, run, status, notified⟩

/-- A reply of which the owner could not be told is attributed to another request that waits, or is
ignored, and then its request is completed without telling him. A message that the poll reads before
its send returns becomes the sent message of two requests. -/
theorem replies_stray : (∃ labels world, (machine agentChannel).system.Run labels world ∧
      .attributed "om_9" 0 ∈ researchEvents labels ∧ .attributed "om_9" 1 ∈ researchEvents labels) ∧
    (∃ labels world, (machine agentChannel).system.Run labels world ∧ researchEvents labels =
        [.attributed "om_9" 0, .unnotified 0 "om_9", .ignored "om_9", .updated 0 (some "调研结论：OK")] ∧
      (world.items[0]?.map (·.status)) = some .completed) ∧
    ∃ labels world, (machine agentChannel).system.Run labels world ∧
      (world.items.map (·.sentMessageId)) = [some "om_1", some "om_1"] := by
  refine ⟨?_, ?_, ?_⟩
  · refine ⟨_, _, (machine agentChannel).replay_run (requested "task-1" "om_1" 0 ++ requested "task-2" "om_2" 3 ++
      [.poll 0, .pollRead (.ok [conclusion]), .pollSaved (.ok ()) 0, .pollNotified (.error "timeout"), .pollSettled,
        .poll 0, .pollRead (.ok [conclusion]), .pollSaved (.ok ()) 0]), ?_⟩
    decide
  · refine ⟨_, _, (machine agentChannel).replay_run (requested "task-1" "om_1" 0 ++
      [.poll 0, .pollRead (.ok [conclusion]), .pollSaved (.ok ()) 0, .pollNotified (.error "timeout"), .pollSettled,
        .poll 0, .pollRead (.ok [conclusion]), .pollSaved (.ok ()) 0, .pollSaved (.ok ()) 0, .pollUpdated (.ok ())]), ?_⟩
    decide
  · refine ⟨_, _, (machine agentChannel).replay_run
      [.request (researchTask "task-1") approved 0, .requestSaved 0 (.ok ()) 0, .poll 0,
        .pollSent (.error "timeout") 0, .pollSaved (.ok ()) 0, .pollSettled, .poll 0,
        .pollRead (.ok [⟨"om_1", some "ou_me", some "Outage", none, none⟩]), .requestSent 1 (.ok (some "om_1")) 0], ?_⟩
    decide

end ResearchChannel

end QuarkSelfAI.BridgeCompat

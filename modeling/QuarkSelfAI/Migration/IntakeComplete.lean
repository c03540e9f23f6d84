import QuarkSelfAI.Migration.IntakeRepeats

/-!
# What a handoff of pending messages hands over

A message, a reaction or a chunk of digest items is found in the store under its own key. Entries that share a key
are stored once, so the handoff is complete exactly when such entries are the same.
-/

namespace QuarkSelfAI.Migration

open Foundation Storage Workflow

/-! ## What was prepared -/

section Places

variable {α β : Type} {check : α → Nat → Except String β} {items : List α} {results : List β}

/-- The results of a loop stand in the places of their items. -/
theorem eachFrom_places {start : Nat} (checked : eachFrom check items start = .ok results) :
    results.length = items.length ∧ ∀ index item result, items[index]? = some item → results[index]? = some result →
      check item (start + index) = .ok result := by
  induction items generalizing start results with
  | nil =>
    cases checked
    exact ⟨rfl, nofun⟩
  | cons first rest ih =>
    simp only [eachFrom, bind_ok] at checked
    obtain ⟨one, here, others, later, same⟩ := checked
    cases same
    obtain ⟨length, places⟩ := ih later
    refine ⟨by simp [length], fun index item result own found => ?_⟩
    cases index with
    | zero =>
      cases own
      cases found
      exact here
    | succ index =>
      rw [List.getElem?_cons_succ] at own found
      have there := places index item result own found
      rwa [Nat.add_assoc, Nat.add_comm 1 index] at there

theorem each_result {index : Nat} {item : α} (checked : each check items = .ok results) (listed : items[index]? = some item) :
    ∃ result ∈ results, check item index = .ok result := by
  obtain ⟨length, places⟩ := eachFrom_places checked
  obtain ⟨inside, rfl⟩ := List.getElem?_eq_some_iff.mp listed
  have within : index < results.length := length ▸ inside
  have same := places index _ _ listed (List.getElem?_eq_getElem within)
  rw [Nat.zero_add] at same
  exact ⟨_, List.getElem_mem within, same⟩

theorem each_origin {result : β} (checked : each check items = .ok results) (listed : result ∈ results) :
    ∃ index item, items[index]? = some item ∧ check item index = .ok result := by
  obtain ⟨length, places⟩ := eachFrom_places checked
  obtain ⟨index, inside, rfl⟩ := List.getElem_of_mem listed
  have within : index < items.length := length ▸ inside
  have same := places index _ _ (List.getElem?_eq_getElem within) (List.getElem?_eq_getElem inside)
  rw [Nat.zero_add] at same
  exact ⟨index, _, List.getElem?_eq_getElem within, same⟩

end Places

variable {host : Host} {value : JsValue} {capturedAt : String} {handoff : MessageIntakeHandoff}
  {collate : String → String → Bool} {item : JsValue} {index : Nat} {event : HandoffEvent} {input : PendingWorkflow}

/-- The parts of a handoff that was prepared. -/
structure Prepared (host : Host) (value : JsValue) (capturedAt : String) (handoff : MessageIntakeHandoff)
    (captured : Timestamp) (messages reactions : List HandoffEvent) (items : List DigestItem) : Prop where
  ofMessages : each (pendingMessageEvent host) (listOf value "mentionPending") = .ok messages
  ofReactions : each (pendingReactionEvent host) (listOf value "reactionPendingEvents") = .ok reactions
  ofDigests : each (digestItem host) (listOf value "notificationDigestPending") = .ok items
  events : handoff.pendingEvents = messages ++ reactions
  workflows : each (fun chunk _ => digestWorkflow host capturedAt captured chunk) (chunksOf items) =
    .ok handoff.pendingWorkflows

theorem prepare_ok (prepared : prepareMessageIntakeHandoff host value capturedAt = .ok handoff) :
    ∃ captured messages reactions items, Prepared host value capturedAt handoff captured messages reactions items := by
  simp only [prepareMessageIntakeHandoff, digestWorkflows, bind_ok] at prepared
  obtain ⟨_, -, captured, -, messages, ofMessages, reactions, ofReactions, workflows, ⟨items, ofItems, ofChunks⟩, same⟩ :=
    prepared
  cases same
  exact ⟨captured, messages, reactions, items, ofMessages, ofReactions, ofItems, rfl, ofChunks⟩

theorem required_ok {label text : String} (given : required label value = .ok text) : value = .string text := by
  cases value with
  | string own =>
    rw [required] at given
    split at given
    · cases given
    · cases given
      rfl
  | _ => cases given

theorem pendingMessageEvent_ok (read : pendingMessageEvent host item index = .ok event) :
    messageIdOf item = .string event.deduplicationKey ∧ event.eventKey = focusDiscoveryEventKey ∧
      event.source.channel = "feishu" := by
  simp only [pendingMessageEvent, bind_ok] at read
  obtain ⟨_, -, messageId, own, _, -, _, -, _, -, same⟩ := read
  cases same
  exact ⟨required_ok own, rfl, rfl⟩

theorem pendingReactionEvent_ok (read : pendingReactionEvent host item index = .ok event) :
    item.get "eventId" = .string event.deduplicationKey ∧ event.eventKey = legacyReactionReplayEventKey ∧
      event.source.channel = "feishu" := by
  simp only [pendingReactionEvent, bind_ok] at read
  obtain ⟨_, -, eventId, own, _, -, _, -, _, -, _, -, _, -, same⟩ := read
  cases same
  exact ⟨required_ok own, rfl, rfl⟩

theorem digestWorkflow_ok {captured : Timestamp} {chunk : List DigestItem}
    (made : digestWorkflow host capturedAt captured chunk = .ok input) :
    input.id = digestWorkflowId host chunk ∧ ∃ availableAt,
      input.effects = [⟨digestEffectId host chunk, notifyOwner, digestPayload host chunk, some availableAt⟩] := by
  simp only [digestWorkflow, bind_ok] at made
  obtain ⟨times, -, same⟩ := made
  cases same
  exact ⟨rfl, _, rfl⟩

/-- The chunks are the items, in their order. -/
theorem chunksOf_flatten {α : Type} (items : List α) : (chunksOf items).flatten = items := by
  have general : ∀ count : Nat,
      ((List.range count).map fun index => (items.drop (20 * index)).take 20).flatten = items.take (20 * count) := by
    intro count
    induction count with
    | zero => simp
    | succ count ih =>
      rw [List.range_succ, List.map_append, List.flatten_append, ih, List.map_singleton, List.flatten_singleton,
        Nat.mul_succ, List.take_add]
  rw [chunksOf, general, List.take_of_length_le (by omega)]

theorem chunkKey_inj (collisionFree : Function.Injective (host.digest 32)) {one other : List DigestItem}
    (same : chunkKey host one = chunkKey host other) : chunkIdentity one = chunkIdentity other :=
  collisionFree same

theorem digestWorkflowId_inj {one other : List DigestItem} (same : digestWorkflowId host one = digestWorkflowId host other) :
    chunkKey host one = chunkKey host other :=
  (String.append_right_inj _).mp same

theorem digestEffectId_inj {one other : List DigestItem} (same : digestEffectId host one = digestEffectId host other) :
    chunkKey host one = chunkKey host other :=
  (String.append_right_inj _).mp ((String.append_left_inj _).mp same)

/-! ## What entries have in common -/

/-- The instant that is read from the text under a name. -/
def instantOf (host : Host) (item : JsValue) (name : String) : Option Timestamp := (item.text? name).bind host.parseDate

/-- What a pending reaction says, next to its event id. -/
def reactionContent (host : Host) (item : JsValue) : List JsValue × Option Timestamp × String :=
  ([item.get "messageId", item.get "operatorId", item.get "emojiType", item.get "operation"],
    instantOf host item "occurredAt", (item.text? "operatorType").getD "user")

/-- Entries that share an id are the same, and chunks that are known by the same ids and times are. -/
structure Unambiguous (host : Host) (value : JsValue) : Prop where
  messages : ∀ one ∈ listOf value "mentionPending", ∀ other ∈ listOf value "mentionPending",
    messageIdOf one = messageIdOf other → one.get "message" = other.get "message"
  reactions : ∀ one ∈ listOf value "reactionPendingEvents", ∀ other ∈ listOf value "reactionPendingEvents",
    one.get "eventId" = other.get "eventId" → reactionContent host one = reactionContent host other
  apart : ∀ message ∈ listOf value "mentionPending", ∀ reaction ∈ listOf value "reactionPendingEvents",
    messageIdOf message ≠ reaction.get "eventId"
  chunks : ∀ items, each (digestItem host) (listOf value "notificationDigestPending") = .ok items →
    ∀ one ∈ chunksOf items, ∀ other ∈ chunksOf items, chunkIdentity one = chunkIdentity other → one = other

theorem timestamp_ok {label : String} {time : Timestamp} (given : timestamp host label value = .ok time) :
    ∃ text, value = .string text ∧ host.parseDate text = some time := by
  cases value with
  | string text =>
    rw [timestamp] at given
    cases parsed : host.parseDate text with
    | none =>
      rw [parsed] at given
      cases given
    | some other =>
      rw [parsed] at given
      cases given
      exact ⟨text, rfl, parsed⟩
  | _ => cases given

theorem instantOf_ok {name label : String} {time : Timestamp} (given : timestamp host label (item.get name) = .ok time) :
    instantOf host item name = some time := by
  obtain ⟨text, own, parsed⟩ := timestamp_ok given
  rw [instantOf, JsValue.text?, own]
  exact parsed

variable {other : JsValue} {place : Nat} {event' : HandoffEvent}

/-- The event of a message says all of the message, and nothing else. -/
theorem pendingMessageEvent_eq_iff (read : pendingMessageEvent host item index = .ok event)
    (also : pendingMessageEvent host other place = .ok event') :
    event = event' ↔ item.get "message" = other.get "message" := by
  simp only [pendingMessageEvent, bind_ok] at read also
  obtain ⟨_, -, messageId, ownId, chatId, ownChat, content, ownContent, occurredAt, ownTime, same⟩ := read
  obtain ⟨_, -, messageId', ownId', chatId', ownChat', content', ownContent', occurredAt', ownTime', same'⟩ := also
  cases same
  cases same'
  constructor
  · intro equal
    exact congrArg NormalizedChannelEvent.raw equal
  · intro shared
    have ids := (required_ok ownId).symm.trans ((congrArg (JsValue.get · "message_id") shared).trans (required_ok ownId'))
    rw [shared] at ownChat ownContent ownTime ⊢
    have chats := (required_ok ownChat).symm.trans (required_ok ownChat')
    have contents := (required_ok ownContent).symm.trans (required_ok ownContent')
    obtain ⟨text, there, parsed⟩ := timestamp_ok ownTime
    obtain ⟨text', there', parsed'⟩ := timestamp_ok ownTime'
    cases there.symm.trans there'
    cases parsed.symm.trans parsed'
    cases ids
    cases chats
    cases contents
    rfl

theorem text_of_operation {operation : String} (same : (item.text? "operation").getD "" = operation)
    (valid : ¬ (operation ≠ "deleted" ∧ operation ≠ "created")) : item.get "operation" = .string operation := by
  unfold JsValue.text? at same
  split at same
  · rename_i text own
    rw [own]
    exact congrArg JsValue.string same
  · subst same
    exact absurd ⟨by decide, by decide⟩ valid

/-- The event of a reaction says its id and its content, and nothing else. -/
theorem pendingReactionEvent_eq_iff (read : pendingReactionEvent host item index = .ok event)
    (also : pendingReactionEvent host other place = .ok event') :
    event = event' ↔ item.get "eventId" = other.get "eventId" ∧ reactionContent host item = reactionContent host other := by
  simp only [pendingReactionEvent, bind_ok, throwIf_ok] at read also
  obtain ⟨_, -, eventId, ownId, messageId, ownMessage, operatorId, ownOperator, emojiType, ownEmoji, occurredAt, ownTime,
    _, valid, same⟩ := read
  obtain ⟨_, -, eventId', ownId', messageId', ownMessage', operatorId', ownOperator', emojiType', ownEmoji', occurredAt',
    ownTime', _, valid', same'⟩ := also
  have operation := text_of_operation rfl valid
  have operation' := text_of_operation rfl valid'
  have content : reactionContent host item = ([.string messageId, .string operatorId, .string emojiType,
      .string ((item.text? "operation").getD "")], some occurredAt, (item.text? "operatorType").getD "user") := by
    rw [reactionContent, instantOf_ok ownTime, required_ok ownMessage, required_ok ownOperator, required_ok ownEmoji, operation]
  have content' : reactionContent host other = ([.string messageId', .string operatorId', .string emojiType',
      .string ((other.text? "operation").getD "")], some occurredAt', (other.text? "operatorType").getD "user") := by
    rw [reactionContent, instantOf_ok ownTime', required_ok ownMessage', required_ok ownOperator', required_ok ownEmoji',
      operation']
  rw [content, content', required_ok ownId, required_ok ownId']
  cases same
  cases same'
  simp only [NormalizedChannelEvent.mk.injEq, SourceRef.mk.injEq, Option.some.injEq, JsValue.object.injEq,
    List.cons.injEq, Prod.mk.injEq, JsValue.string.injEq, true_and, and_true, toISOString_injective.eq_iff]
  tauto

/-! ## A complete handoff -/

/-- The event stands in one row. -/
def StoredOnce (target : IntakeTarget) (event : HandoffEvent) : Prop :=
  ∃! row, row ∈ target.events.events ∧ row.event = event

/-- The one effect of the instance notifies the owner of the chunk. -/
def Notifies (host : Host) (target : IntakeTarget) (chunk : List DigestItem) (id : String) : Prop :=
  target.workflows.effectsOf id = [(digestEffectId host chunk, notifyOwner, digestPayload host chunk)]

/-- What a store that was handed the state over holds: every pending message and reaction once, and for every
chunk of digest items, in their order, one new workflow that notifies of it. -/
structure Complete (host : Host) (value : JsValue) (start finish : IntakeTarget) : Prop where
  messages : ∀ index item, (listOf value "mentionPending")[index]? = some item →
    ∃ event, pendingMessageEvent host item index = .ok event ∧ StoredOnce finish event
  reactions : ∀ index item, (listOf value "reactionPendingEvents")[index]? = some item →
    ∃ event, pendingReactionEvent host item index = .ok event ∧ StoredOnce finish event
  digests : ∃ items, each (digestItem host) (listOf value "notificationDigestPending") = .ok items ∧
    (chunksOf items).flatten = items ∧ ∀ chunk ∈ chunksOf items,
      ∃! row, row ∈ finish.workflows.instances ∧ row ∉ start.workflows.instances ∧
        row.id = digestWorkflowId host chunk ∧ Notifies host finish chunk row.id

/-- Different chunks have workflows and effects of their own. -/
def ChunksApart (host : Host) (value : JsValue) : Prop :=
  ∀ items, each (digestItem host) (listOf value "notificationDigestPending") = .ok items →
    ∀ one ∈ chunksOf items, ∀ other ∈ chunksOf items, one ≠ other →
      digestWorkflowId host one ≠ digestWorkflowId host other ∧ digestEffectId host one ≠ digestEffectId host other

/-- The handoff is complete on every store that holds nothing of it, its chunks stay apart, and applying it again
after attempts that were cut off ends where one application ends. -/
structure HandedOver (host : Host) (collate : String → String → Bool) (value : JsValue) (handoff : MessageIntakeHandoff) :
    Prop where
  applies : ∀ start, Fresh handoff start → ∃ finish,
    handOver collate handoff ⟨start, none⟩ = (.ok (reportOf handoff start finish), ⟨finish, none⟩) ∧
      Complete host value start finish
  apart : ChunksApart host value
  repeats : ∀ start report finish, handOver collate handoff ⟨start, none⟩ = (.ok report, ⟨finish, none⟩) →
    ∀ middle, Attempted collate handoff start middle →
      handOver collate handoff ⟨middle, none⟩ = (.ok (reportOf handoff middle finish), ⟨finish, none⟩)

variable {captured : Timestamp} {messages reactions : List HandoffEvent} {items : List DigestItem}

theorem Prepared.workflow (prepared : Prepared host value capturedAt handoff captured messages reactions items)
    (listed : input ∈ handoff.pendingWorkflows) :
    ∃ chunk ∈ chunksOf items, digestWorkflow host capturedAt captured chunk = .ok input := by
  obtain ⟨index, chunk, there, made⟩ := each_origin prepared.workflows listed
  exact ⟨chunk, List.mem_of_getElem? there, made⟩

theorem Prepared.single (prepared : Prepared host value capturedAt handoff captured messages reactions items) :
    ∀ input ∈ handoff.pendingWorkflows, Single input := by
  intro input listed
  obtain ⟨chunk, -, made⟩ := prepared.workflow listed
  obtain ⟨-, availableAt, effects⟩ := digestWorkflow_ok made
  exact ⟨_, availableAt, effects, rfl⟩

/-- A pending event is the event of a message or of a reaction. -/
theorem Prepared.eventOf (prepared : Prepared host value capturedAt handoff captured messages reactions items)
    (listed : event ∈ handoff.pendingEvents) :
    (∃ index item, item ∈ listOf value "mentionPending" ∧ pendingMessageEvent host item index = .ok event) ∨
    (∃ index item, item ∈ listOf value "reactionPendingEvents" ∧ pendingReactionEvent host item index = .ok event) := by
  rw [prepared.events] at listed
  rcases List.mem_append.mp listed with here | here
  · obtain ⟨index, item, there, read⟩ := each_origin prepared.ofMessages here
    exact .inl ⟨index, item, List.mem_of_getElem? there, read⟩
  · obtain ⟨index, item, there, read⟩ := each_origin prepared.ofReactions here
    exact .inr ⟨index, item, List.mem_of_getElem? there, read⟩

theorem Prepared.channel (prepared : Prepared host value capturedAt handoff captured messages reactions items) :
    ∀ event ∈ handoff.pendingEvents, event.source.channel = "feishu" := by
  intro event listed
  rcases prepared.eventOf listed with ⟨index, item, -, read⟩ | ⟨index, item, -, read⟩
  · exact (pendingMessageEvent_ok read).2.2
  · exact (pendingReactionEvent_ok read).2.2

/-- Where nothing is ambiguous, a key has one event. -/
theorem Prepared.event_eq (prepared : Prepared host value capturedAt handoff captured messages reactions items)
    (unambiguous : Unambiguous host value) (listed : event ∈ handoff.pendingEvents) (also : event' ∈ handoff.pendingEvents)
    (same : event.deduplicationKey = event'.deduplicationKey) : event = event' := by
  rcases prepared.eventOf listed with ⟨index, item, own, read⟩ | ⟨index, item, own, read⟩ <;>
    rcases prepared.eventOf also with ⟨place, other, own', read'⟩ | ⟨place, other, own', read'⟩
  · refine (pendingMessageEvent_eq_iff read read').mpr (unambiguous.messages item own other own' ?_)
    rw [(pendingMessageEvent_ok read).1, (pendingMessageEvent_ok read').1, same]
  · refine absurd ?_ (unambiguous.apart item own other own')
    rw [(pendingMessageEvent_ok read).1, (pendingReactionEvent_ok read').1, same]
  · refine absurd ?_ (unambiguous.apart other own' item own)
    rw [(pendingMessageEvent_ok read').1, (pendingReactionEvent_ok read).1, same]
  · have shared : item.get "eventId" = other.get "eventId" := by
      rw [(pendingReactionEvent_ok read).1, (pendingReactionEvent_ok read').1, same]
    exact (pendingReactionEvent_eq_iff read read').mpr ⟨shared, unambiguous.reactions item own other own' shared⟩

theorem Prepared.coherent (prepared : Prepared host value capturedAt handoff captured messages reactions items)
    (collisionFree : Function.Injective (host.digest 32)) (unambiguous : Unambiguous host value) : Coherent handoff where
  channel := prepared.channel
  single := prepared.single
  keyed := by
    intro input listed other also shared
    obtain ⟨chunk, own, made⟩ := prepared.workflow listed
    obtain ⟨chunk', own', made'⟩ := prepared.workflow also
    obtain ⟨id, availableAt, effects⟩ := digestWorkflow_ok made
    obtain ⟨id', availableAt', effects'⟩ := digestWorkflow_ok made'
    have keys : chunkKey host chunk = chunkKey host chunk' := by
      rcases shared with named | ⟨effect, mine, effect', theirs, named⟩
      · exact digestWorkflowId_inj (id.symm.trans (named.trans id'))
      · rw [effects, List.mem_singleton] at mine
        rw [effects', List.mem_singleton] at theirs
        subst mine
        subst theirs
        exact digestEffectId_inj named
    obtain rfl := unambiguous.chunks items prepared.ofDigests chunk own chunk' own' (chunkKey_inj collisionFree keys)
    exact Except.ok.inj (made.symm.trans made')

/-- After an application every write of the plan is settled. -/
theorem carried_settled {start finish : IntakeTarget} (repeatable : Repeatable (make collate) (handoffPlan handoff))
    (carried : carryOut (make collate) (handoffPlan handoff) start = .ok finish) {write : HandoffWrite}
    (listed : write ∈ handoffPlan handoff) : Settled collate finish write :=
  (make_ok (carryOut_absorbs repeatable carried write listed)).unchanged rfl

/-- An instance that is stored has the effect that was asked for. -/
theorem Stored.effects {target : IntakeTarget} (stored : Stored collate target input)
    {effect : WorkflowEffectInput JsValue Timestamp} (one : input.effects = [effect]) :
    target.workflows.effectsOf input.id = [(effect.id, effect.kind, effect.payload)] := by
  have matched := WorkflowStore.effectsMatch_iff.mp stored.matched
  rw [one] at matched
  obtain ⟨row, _, same, rest, alone⟩ := List.forall₂_cons_right_iff.mp matched
  rw [List.forall₂_nil_right_iff.mp rest] at alone
  rw [WorkflowStore.storedEffects] at alone
  have rows := List.perm_singleton.mp ((List.perm_insertionSort _ _).symm.trans (List.Perm.of_eq alone))
  rw [WorkflowStore.effectsOf, WorkflowStore.effectsIn, rows, List.map_singleton,
    (WorkflowStore.effectMatches_iff.mp same).1]

section Applied

variable {start finish : IntakeTarget}

theorem Prepared.storedOnce (prepared : Prepared host value capturedAt handoff captured messages reactions items)
    (unambiguous : Unambiguous host value) (fresh : Fresh handoff start)
    (carried : carryOut (make collate) (handoffPlan handoff) start = .ok finish)
    (listed : event ∈ handoff.pendingEvents) : StoredOnce finish event := by
  have origin := carryOut_origin carried
  have stored_eq : ∀ row ∈ finish.events.events, row.event.deduplicationKey = event.deduplicationKey →
      row = eventRowOf event := by
    intro row there same
    rcases origin.events row there with before | ⟨other, made, rfl⟩
    · exact absurd same (fresh.events row before event listed).1
    · rw [prepared.event_eq unambiguous (event_mem_plan.mp made) listed same]
  obtain ⟨row, there, same⟩ := carried_settled (handoffPlan_repeatable prepared.single) carried (event_mem_plan.mpr listed)
  refine ⟨row, ⟨there, by rw [stored_eq row there same]; rfl⟩, ?_⟩
  rintro other ⟨also, shared⟩
  rw [stored_eq row there same, stored_eq other also (by rw [shared])]

theorem Prepared.notified (prepared : Prepared host value capturedAt handoff captured messages reactions items)
    (fresh : Fresh handoff start) (carried : carryOut (make collate) (handoffPlan handoff) start = .ok finish)
    {chunk : List DigestItem} (listed : chunk ∈ chunksOf items) :
    ∃! row, row ∈ finish.workflows.instances ∧ row ∉ start.workflows.instances ∧
      row.id = digestWorkflowId host chunk ∧ Notifies host finish chunk row.id := by
  obtain ⟨place, there⟩ := List.mem_iff_getElem?.mp listed
  obtain ⟨input, mine, made⟩ := each_result prepared.workflows there
  obtain ⟨id, availableAt, effects⟩ := digestWorkflow_ok made
  have stored : Stored collate finish input :=
    carried_settled (handoffPlan_repeatable prepared.single) carried (workflow_mem_plan.mpr mine)
  obtain ⟨row, found, -⟩ := stored.found
  obtain ⟨inside, named⟩ := Table.find?_eq_some_iff.mp found
  refine ⟨row, ⟨inside, fun before => ?_, named.trans id, ?_⟩, ?_⟩
  · exact Table.find?_eq_none_iff.mp (fresh.workflows input mine).1 row before named
  · rw [Notifies, named, stored.effects effects]
  · rintro other ⟨also, -, shared, -⟩
    exact Table.eq_of_key also inside (shared.trans (named.trans id).symm)

/-- What is carried out without ambiguity is complete. -/
theorem Prepared.complete (prepared : Prepared host value capturedAt handoff captured messages reactions items)
    (unambiguous : Unambiguous host value) (fresh : Fresh handoff start)
    (carried : carryOut (make collate) (handoffPlan handoff) start = .ok finish) : Complete host value start finish where
  messages index item there := by
    obtain ⟨event, listed, read⟩ := each_result prepared.ofMessages there
    refine ⟨event, read, prepared.storedOnce unambiguous fresh carried ?_⟩
    exact prepared.events ▸ List.mem_append_left _ listed
  reactions index item there := by
    obtain ⟨event, listed, read⟩ := each_result prepared.ofReactions there
    refine ⟨event, read, prepared.storedOnce unambiguous fresh carried ?_⟩
    exact prepared.events ▸ List.mem_append_right _ listed
  digests := ⟨items, prepared.ofDigests, chunksOf_flatten items, fun _ => prepared.notified fresh carried⟩

/-- In a store that held nothing before, the events that are stored once each have a key of their own. -/
theorem event_eq_of_storedOnce (carried : carryOut (make collate) (handoffPlan handoff) .empty = .ok finish)
    (prepared : Prepared host value capturedAt handoff captured messages reactions items)
    (once : StoredOnce finish event) (also : StoredOnce finish event')
    (same : event.deduplicationKey = event'.deduplicationKey) : event = event' := by
  have origin := carryOut_origin carried
  have row_of : ∀ row ∈ finish.events.events, row.id = "event:feishu:" ++ row.event.deduplicationKey := by
    intro row there
    rcases origin.events row there with before | ⟨other, made, rfl⟩
    · exact absurd before (Table.not_mem_empty _)
    · rw [eventRowOf, handoffEventId, prepared.channel other (event_mem_plan.mp made)]
      rfl
  obtain ⟨row, ⟨there, own⟩, -⟩ := once
  obtain ⟨row', ⟨there', own'⟩, -⟩ := also
  have ids : row.id = row'.id := by rw [row_of row there, row_of row' there', own, own', same]
  rw [← own, ← own', Table.eq_of_key there there' ids]

end Applied

theorem fresh_empty : Fresh handoff .empty where
  events _ listed := absurd listed (Table.not_mem_empty _)
  workflows _ _ := ⟨Table.find?_empty _, fun _ _ => Table.find?_empty _⟩
  checkpoint := rfl

/-- An application that is not cut off leaves what its plan leaves. -/
theorem handOver_finish {start finish reached : IntakeTarget} {report : HandoffReport}
    (ran : handOver collate handoff ⟨start, none⟩ = (.ok report, ⟨finish, none⟩))
    (carried : carryOut (make collate) (handoffPlan handoff) start = .ok reached) : finish = reached := by
  obtain ⟨_, again, -⟩ := handOver_whole none nofun carried
  exact congrArg (fun answer => answer.2.state) (ran.symm.trans again)

/-- A handoff that is complete on an empty store has one event for every key. -/
theorem HandedOver.unambiguous (handed : HandedOver host collate value handoff)
    (prepared : prepareMessageIntakeHandoff host value capturedAt = .ok handoff) : Unambiguous host value := by
  obtain ⟨captured, messages, reactions, items, parts⟩ := prepare_ok prepared
  obtain ⟨finish, ran, complete⟩ := handed.applies .empty fresh_empty
  obtain ⟨reached, carried⟩ := handOver_ok ran
  obtain rfl := handOver_finish ran carried
  refine ⟨?_, ?_, ?_, ?_⟩
  · intro one listed other also same
    obtain ⟨index, there⟩ := List.mem_iff_getElem?.mp listed
    obtain ⟨place, there'⟩ := List.mem_iff_getElem?.mp also
    obtain ⟨event, read, once⟩ := complete.messages index one there
    obtain ⟨event', read', once'⟩ := complete.messages place other there'
    refine (pendingMessageEvent_eq_iff read read').mp (event_eq_of_storedOnce carried parts once once' ?_)
    exact JsValue.string.inj ((pendingMessageEvent_ok read).1.symm.trans (same.trans (pendingMessageEvent_ok read').1))
  · intro one listed other also same
    obtain ⟨index, there⟩ := List.mem_iff_getElem?.mp listed
    obtain ⟨place, there'⟩ := List.mem_iff_getElem?.mp also
    obtain ⟨event, read, once⟩ := complete.reactions index one there
    obtain ⟨event', read', once'⟩ := complete.reactions place other there'
    refine ((pendingReactionEvent_eq_iff read read').mp (event_eq_of_storedOnce carried parts once once' ?_)).2
    exact JsValue.string.inj ((pendingReactionEvent_ok read).1.symm.trans (same.trans (pendingReactionEvent_ok read').1))
  · intro message listed reaction also same
    obtain ⟨index, there⟩ := List.mem_iff_getElem?.mp listed
    obtain ⟨place, there'⟩ := List.mem_iff_getElem?.mp also
    obtain ⟨event, read, once⟩ := complete.messages index message there
    obtain ⟨event', read', once'⟩ := complete.reactions place reaction there'
    obtain ⟨own, key, -⟩ := pendingMessageEvent_ok read
    obtain ⟨own', key', -⟩ := pendingReactionEvent_ok read'
    -- The two kinds of events share their keys, and tell each other apart by their event keys.
    have shared := event_eq_of_storedOnce carried parts once once'
      (JsValue.string.inj (own.symm.trans (same.trans own')))
    rw [← shared, key] at key'
    exact absurd key' (by decide)
  · intro given ofDigests one listed other also same
    by_contra different
    obtain ⟨apart, -⟩ := handed.apart given ofDigests one listed other also different
    exact apart (congrArg (fun identity => "message-intake-digest:" ++ host.digest 32 identity) same)

/-- The handoff of a state is complete and may be repeated exactly when entries of the state that share an id are the
same. -/
theorem handedOver_iff (collisionFree : Function.Injective (host.digest 32))
    (prepared : prepareMessageIntakeHandoff host value capturedAt = .ok handoff) :
    HandedOver host collate value handoff ↔ Unambiguous host value := by
  obtain ⟨captured, messages, reactions, items, parts⟩ := prepare_ok prepared
  constructor
  · exact fun handed => handed.unambiguous prepared
  · intro unambiguous
    refine ⟨fun start fresh => ?_, ?_, ?_⟩
    · obtain ⟨finish, carried⟩ : ∃ finish, carryOut (make collate) (handoffPlan handoff) start = .ok finish :=
        (parts.coherent collisionFree unambiguous).carried fresh
      obtain ⟨spare, ran, rest⟩ := handOver_whole none nofun carried
      exact ⟨finish, rest rfl ▸ ran, parts.complete unambiguous fresh carried⟩
    · intro given ofDigests one listed other also different
      have apart : chunkKey host one ≠ chunkKey host other := fun same =>
        different (unambiguous.chunks given ofDigests one listed other also (chunkKey_inj collisionFree same))
      exact ⟨fun same => apart (digestWorkflowId_inj same), fun same => apart (digestEffectId_inj same)⟩
    · intro start report finish ran middle attempted
      obtain ⟨reached, carried⟩ := handOver_ok ran
      obtain rfl := handOver_finish ran carried
      exact attempted.resumed (handoffPlan_repeatable parts.single) carried

/-! ## Two states -/

def handoffDates : List (String × Timestamp) :=
  [("2026-09-01T08:00:00Z", 1788249600000), ("2026-09-01T09:30:00Z", 1788255000000)]

def heldMessage (content : String) : JsValue :=
  .object [("message", .object
    [("message_id", "om_1"), ("chat_id", "oc_1"), ("content", .string content),
      ("create_time", "2026-09-01T08:00:00Z"), ("sender", .object [("id", "ou_1")])])]

def heldReaction : JsValue :=
  .object
    [("eventId", "evt_1"), ("messageId", "om_1"), ("operatorId", "ou_1"), ("emojiType", "OK"),
      ("operation", "created"), ("occurredAt", "2026-09-01T08:00:00Z")]

def heldDigest : JsValue :=
  .object
    [("messageId", "om_2"), ("queuedAt", "2026-09-01T08:00:00Z"), ("title", "周报"), ("source", "项目群"), ("sender", "小王")]

def frozenState (messages : List JsValue) : JsValue :=
  .object
    [("mentionPending", .array messages), ("reactionPendingEvents", .array [heldReaction]),
      ("notificationDigestPending", .array [heldDigest])]

/-- A host that knows the digest of the handoff below and of its one chunk. -/
def handoffHost : Host :=
  { Host.tabulated "Asia/Shanghai" 28800000 [] handoffDates with
    digest := fun width => if width = 64 then fun _ => "67c4ebce04c7d2640447fe8d68b6fe11b5fe331bfef8c615d4d50c5db0736fc2"
      else tabled [("om_2:2026-09-01T08:00:00.000Z", "3e4babaad267527f8dd74f9cd26aef10")] }

def databaseOrder (left right : String) : Bool := left ≤ right

/-- A message, a reaction and a digest item are handed over. -/
theorem handedOver_one : ∃ handoff,
    prepareMessageIntakeHandoff handoffHost (frozenState [heldMessage "看一下"]) "2026-09-01T09:30:00Z" = .ok handoff ∧
      HandedOver handoffHost databaseOrder (frozenState [heldMessage "看一下"]) handoff := by
  obtain ⟨handoff, prepared⟩ : ∃ handoff, prepareMessageIntakeHandoff handoffHost (frozenState [heldMessage "看一下"])
      "2026-09-01T09:30:00Z" = .ok handoff := ⟨_, rfl⟩
  refine ⟨handoff, prepared, (handedOver_iff (tabled_injective (by decide) (by decide)) prepared).mpr ⟨?_, ?_, ?_, ?_⟩⟩
  · decide
  · decide
  · decide
  · intro items read
    cases read
    decide

/-- A message that was edited while it was pending is held twice: its new text is not handed over. -/
theorem edited_not_handedOver : ∃ handoff,
    prepareMessageIntakeHandoff handoffHost (frozenState [heldMessage "看一下", heldMessage "改到明天"]) "2026-09-01T09:30:00Z" =
      .ok handoff ∧
      ¬ HandedOver handoffHost databaseOrder (frozenState [heldMessage "看一下", heldMessage "改到明天"]) handoff := by
  obtain ⟨handoff, prepared⟩ : ∃ handoff, prepareMessageIntakeHandoff handoffHost
      (frozenState [heldMessage "看一下", heldMessage "改到明天"]) "2026-09-01T09:30:00Z" = .ok handoff := ⟨_, rfl⟩
  refine ⟨handoff, prepared, fun handed => ?_⟩
  have unambiguous := handed.unambiguous prepared
  exact absurd (unambiguous.messages (heldMessage "看一下") (by decide) (heldMessage "改到明天") (by decide) rfl) (by decide)

end QuarkSelfAI.Migration

import QuarkSelfAI.Intake.IngressSteps

/-!
# Messages that arrive twice

A message reaches the journal from the event stream and from the discovery, under one key. The
intake is the one of the event that was stored first, and a message of the event stream that has
no route of its own is lost to the discovery.
-/

namespace QuarkSelfAI.Intake

open Foundation Storage Storage.WorkflowStore Workflow
open Domain Lark

namespace Ingress

variable {host : LarkHost} {collate : String → String → Bool} {config : IntakePluginConfig}
  {before after state : Ingress} {call : IngressCall} {reply : IngressReply}

/-! ## What holds of every state -/

/-- Every intake was begun for a stored event, and every event that was settled was handled. -/
structure Sound (host : LarkHost) (config : IntakePluginConfig) (state : Ingress) : Prop where
  journaled : ∀ stored ∈ state.events.events, stored.id = recordId stored.event ∧ stored.event.source.channel = "feishu"
  begun : ∀ id row, state.workflows.workflow id = some row →
    ∃ stored ∈ state.events.events, Begun host.toHost config stored.event row
  settled : ∀ id, Delivered state.events id → ∃ stored ∈ state.events.events, stored.id = id ∧
    ∀ route, config.handled stored.event = some route →
      ∃ row, state.workflows.workflow (workflowId host.toHost stored.event) = some row

theorem arrival_channel {event : ChannelEvent} (arrived : arrival host call = some event) :
    event.source.channel = "feishu" := by
  cases call with
  | receive eventKey value clock =>
    rw [arrival] at arrived
    unfold LarkHost.normalizeLarkEvent at arrived
    dsimp only at arrived
    split at arrived
    · cases arrived
    · split at arrived
      · cases arrived
        rfl
      · split at arrived
        · cases arrived
          rfl
        · cases arrived
          rfl
  | discover candidate clock =>
    rw [arrival, LarkHost.eventOf] at arrived
    unfold LarkHost.normalizeDiscoveredMessage at arrived
    split at arrived
    · split at arrived
      · cases arrived
      · cases arrived
        rfl
    · cases arrived
  | claim | handle | dispatch | effects => cases arrived

/-- Events of one channel have one id when they have one key. -/
theorem recordId_inj {left right : ChannelEvent} (first : left.source.channel = "feishu")
    (second : right.source.channel = "feishu") :
    recordId left = recordId right ↔ left.deduplicationKey = right.deduplicationKey := by
  simp [recordId, first, second, toString]

theorem workflowId_inj {host : Host} (injective : Function.Injective (host.digest 32)) {left right : ChannelEvent} :
    workflowId host left = workflowId host right ↔ left.deduplicationKey = right.deduplicationKey := by
  show s!"message-intake:{host.digest 32 left.deduplicationKey}" =
    s!"message-intake:{host.digest 32 right.deduplicationKey}" ↔ _
  simp [toString, injective.eq_iff]

namespace Sound

theorem initial : Sound host config ⟨.empty, .empty⟩ := by
  refine ⟨?_, ?_, ?_⟩
  · intro stored listed
    cases listed
  · intro id row found
    cases found
  · rintro id ⟨delivery, found, -⟩
    cases found

theorem effect (sound : Sound host config before) (effect : Effect host collate config before call reply after) :
    Sound host config after := by
  cases effect with
  | repeated | idle => exact sound
  | @journaled event clock events arrived fresh inserted =>
    have kept : ∀ stored ∈ before.events.events, stored ∈ events :=
      fun stored listed => (Table.mem_insert inserted).mpr (.inl listed)
    refine ⟨?_, ?_, ?_⟩
    · intro stored listed
      rcases (Table.mem_insert inserted).mp listed with old | rfl
      · exact sound.journaled stored old
      · exact ⟨rfl, arrival_channel arrived⟩
    · intro id row found
      obtain ⟨stored, listed, begun⟩ := sound.begun id row found
      exact ⟨stored, kept stored listed, begun⟩
    · intro id delivered
      obtain ⟨stored, listed, rest⟩ := sound.settled id delivered
      exact ⟨stored, kept stored listed, rest⟩
  | @claimed _ events quiet journal delivered =>
    refine ⟨?_, ?_, ?_⟩
    · intro stored listed
      exact sound.journaled stored (journal ▸ listed)
    · intro id row found
      obtain ⟨stored, listed, begun⟩ := sound.begun id row found
      exact ⟨stored, journal ▸ listed, begun⟩
    · intro id settled
      obtain ⟨stored, listed, rest⟩ := sound.settled id (delivered id settled)
      exact ⟨stored, journal ▸ listed, rest⟩
  | @handled _ stored outcome events workflows quiet listed done journal delivered =>
    have started : ∀ {id row}, before.workflows.workflow id = some row → ∃ row, workflows.workflow id = some row := by
      intro id row found
      cases done with
      | unrouted | threw | known => exact ⟨row, found⟩
      | @created begun _ _ own instanced =>
        rw [WorkflowStore.workflow, Table.find?_inserted instanced]
        split
        · exact ⟨_, rfl⟩
        · exact ⟨row, found⟩
    refine ⟨?_, ?_, ?_⟩
    · intro other present
      exact sound.journaled other (journal ▸ present)
    · intro id row found
      have old : before.workflows.workflow id = some row →
          ∃ stored ∈ events.events, Begun host.toHost config stored.event row := by
        intro found
        obtain ⟨other, present, begun⟩ := sound.begun id row found
        exact ⟨other, journal ▸ present, begun⟩
      cases done with
      | unrouted | threw | known => exact old found
      | @created begun _ _ own instanced =>
        rw [WorkflowStore.workflow, Table.find?_inserted instanced] at found
        split at found
        · cases found
          exact ⟨stored, journal ▸ listed, own⟩
        · exact old found
    · intro id settled
      rcases delivered id settled with before | ⟨rfl, succeeded⟩
      · obtain ⟨other, present, own, rest⟩ := sound.settled id before
        refine ⟨other, journal ▸ present, own, fun route routed => ?_⟩
        obtain ⟨row, found⟩ := rest route routed
        exact started found
      · refine ⟨stored, journal ▸ listed, rfl, fun route routed => ?_⟩
        cases done with
        | unrouted nowhere =>
          rw [nowhere] at routed
          cases routed
        | threw => cases succeeded
        | known found => exact ⟨_, found⟩
        | created begun instanced =>
          rw [WorkflowStore.workflow, Table.find?_inserted instanced, if_pos begun.id.symm]
          exact ⟨_, rfl⟩
  | @dispatched _ event workflows quiet carried =>
    cases carried with
    | kept => exact sound
    | @advanced current next decision _ found step id state rows requested =>
      refine ⟨sound.journaled, ?_, ?_⟩
      · intro other row stored
        rw [rows] at stored
        split at stored
        · cases stored
          obtain ⟨event, listed, begun⟩ := sound.begun _ current found
          refine ⟨event, listed, id.trans begun.id, ?_, ?_⟩
          · rw [state, step.kept.1]
            exact begun.route
          · rw [state, step.kept.2]
            exact begun.source
        · exact sound.begun other row stored
      · intro settled delivered
        obtain ⟨stored, listed, own, rest⟩ := sound.settled settled delivered
        refine ⟨stored, listed, own, fun route routed => ?_⟩
        rw [rows]
        split
        · exact ⟨_, rfl⟩
        · exact rest route routed
  | moved => exact ⟨sound.journaled, sound.begun, sound.settled⟩

end Sound

theorem run_sound {history : List (IngressCall × IngressReply)} (run : Run host collate config history state) :
    Sound host config state := by
  refine run.history (motive := fun _ state => Sound host config state) ?_ ?_
  · rintro state rfl
    exact .initial
  · intro history entry before after _ sound stepped
    exact sound.effect (perform_effect stepped)

/-! ## What the history tells of the journal -/

/-- The event of an accepted call. -/
def acceptedEvent (entry : IngressCall × IngressReply) : Option ChannelEvent :=
  match entry.2 with
  | .appended event _ => some event
  | _ => none

/-- The events that reached the journal, in order and with their repetitions. -/
def accepted (history : List (IngressCall × IngressReply)) : List ChannelEvent := history.filterMap acceptedEvent

/-- The event that reached the journal first under a key. -/
def firstUnder (key : String) (history : List (IngressCall × IngressReply)) : Option ChannelEvent :=
  (accepted history).find? fun event => decide (event.deduplicationKey = key)

/-- The event that is stored under a key. -/
def storedUnder (key : String) (state : Ingress) : Option ChannelEvent :=
  (state.events.events.rows.find? fun row => decide (row.event.deduplicationKey = key)).map (·.event)

variable {history : List (IngressCall × IngressReply)} {key : String} {entry : IngressCall × IngressReply}

theorem accepted_snoc (entry : IngressCall × IngressReply) :
    accepted (history ++ [entry]) = accepted history ++ (acceptedEvent entry).toList := by
  rw [accepted, accepted, filterMap_snoc]

theorem acceptedEvent_quiet (quiet : entry.2.isAppended = false) : acceptedEvent entry = none := by
  obtain ⟨call, reply⟩ := entry
  cases reply with
  | appended => cases quiet
  | skipped | done | threw => rfl

theorem firstUnder_quiet (quiet : entry.2.isAppended = false) :
    firstUnder key (history ++ [entry]) = firstUnder key history := by
  rw [firstUnder, accepted_snoc, acceptedEvent_quiet quiet]
  simp [firstUnder]

theorem firstUnder_appended {event : ChannelEvent} {inserted : Bool} :
    firstUnder key (history ++ [(call, .appended event inserted)]) =
      (firstUnder key history).or (if event.deduplicationKey = key then some event else none) := by
  rw [firstUnder, accepted_snoc, List.find?_append]
  simp [firstUnder, acceptedEvent, List.find?_singleton]

theorem storedUnder_congr (journal : after.events.events = before.events.events) :
    storedUnder key after = storedUnder key before := by
  rw [storedUnder, journal, storedUnder]

theorem storedUnder_some {row : AssistantEvent JsValue Timestamp} (stored : row ∈ state.events.events)
    (same : row.event.deduplicationKey = key) : ∃ event, storedUnder key state = some event := by
  cases found : state.events.events.rows.find? fun row => decide (row.event.deduplicationKey = key) with
  | none => exact absurd (decide_eq_true same) (List.find?_eq_none.mp found row stored)
  | some first => exact ⟨first.event, by rw [storedUnder, found]; rfl⟩

/-- The journal holds the event that came first under each key. -/
theorem Effect.storedUnder (effect : Effect host collate config before call reply after)
    (earlier : Ingress.storedUnder key before = firstUnder key history) :
    Ingress.storedUnder key after = firstUnder key (history ++ [(call, reply)]) := by
  cases effect with
  | @journaled event clock events arrived fresh inserted =>
    rw [firstUnder_appended, ← earlier, Ingress.storedUnder, Ingress.storedUnder, Table.rows_insert inserted,
      List.find?_append, List.find?_singleton]
    cases before.events.events.rows.find? fun row => decide (row.event.deduplicationKey = key) with
    | some row => rfl
    | none =>
      rw [Option.none_or, Option.map_none, Option.none_or]
      by_cases same : event.deduplicationKey = key
      · simp [same]
      · simp [same]
  | @repeated event row arrived stored same inserted =>
    rw [firstUnder_appended, ← earlier]
    by_cases own : event.deduplicationKey = key
    · obtain ⟨first, found⟩ := storedUnder_some stored (same.trans own)
      rw [found, Option.some_or]
    · rw [if_neg own, Option.or_none]
  | idle quiet => rw [firstUnder_quiet quiet, earlier]
  | claimed quiet journal | handled quiet stored done journal =>
    rw [firstUnder_quiet quiet, ← earlier, storedUnder_congr journal]
  | dispatched quiet | moved quiet =>
    rw [firstUnder_quiet quiet, ← earlier]
    exact storedUnder_congr rfl

theorem run_storedUnder (run : Run host collate config history state) (key : String) :
    storedUnder key state = firstUnder key history := by
  refine run.history (motive := fun history state => storedUnder key state = firstUnder key history) ?_ ?_
  · rintro state rfl
    rfl
  · intro history entry before after _ earlier stepped
    exact (perform_effect stepped).storedUnder earlier

/-- What reached the journal was brought by its call. -/
theorem run_arrived (run : Run host collate config history state) :
    ∀ entry ∈ history, ∀ event, acceptedEvent entry = some event → arrival host entry.1 = some event := by
  refine run.history (motive := fun history _ => ∀ entry ∈ history, ∀ event,
    acceptedEvent entry = some event → arrival host entry.1 = some event) ?_ ?_
  · rintro state - entry listed
    cases listed
  · intro history last before after _ earlier stepped entry listed event taken
    rcases List.mem_append.mp listed with old | new
    · exact earlier entry old event taken
    · have effect := perform_effect stepped
      obtain ⟨call, reply⟩ := last
      cases List.mem_singleton.mp new
      dsimp only at effect
      cases effect with
      | journaled arrived | repeated arrived =>
        cases taken
        exact arrived
      | idle quiet | claimed quiet | handled quiet | dispatched quiet | moved quiet =>
        rw [acceptedEvent_quiet quiet] at taken
        cases taken

theorem accepted_arrived (run : Run host collate config history state) {event : ChannelEvent}
    (listed : event ∈ accepted history) : ∃ call, arrival host call = some event := by
  obtain ⟨entry, known, taken⟩ := List.mem_filterMap.mp listed
  exact ⟨entry.1, run_arrived run entry known event taken⟩

/-- What the discovery brings is marked by its event key. -/
theorem discovered_key {candidate : Candidate} {clock : Timestamp} {event : ChannelEvent}
    (arrived : arrival host (.discover candidate clock) = some event) :
    event.eventKey = focusDiscoveryEventKey ∧ event.kind = "message.received" := by
  rw [arrival, LarkHost.eventOf] at arrived
  unfold LarkHost.normalizeDiscoveredMessage at arrived
  split at arrived
  · split at arrived
    · cases arrived
    · cases arrived
      exact ⟨rfl, rfl⟩
  · cases arrived

/-- The event stream brings messages under one event key. -/
theorem received_key {eventKey : String} {value : JsValue} {clock : Timestamp} {event : ChannelEvent}
    (arrived : arrival host (.receive eventKey value clock) = some event) (kind : event.kind = "message.received") :
    eventKey = messageReceivedEventKey ∧ event.eventKey = eventKey := by
  rw [arrival] at arrived
  unfold LarkHost.normalizeLarkEvent at arrived
  dsimp only at arrived
  split at arrived
  · cases arrived
  · split at arrived
    · rename_i received
      cases arrived
      exact ⟨received, rfl⟩
    · split at arrived
      all_goals
        cases arrived
        simp [LarkHost.common] at kind

/-- Messages come from the event stream or from the discovery. -/
theorem arrival_message {event : ChannelEvent} (arrived : arrival host call = some event)
    (kind : event.kind = "message.received") :
    event.eventKey = messageReceivedEventKey ∨ event.eventKey = focusDiscoveryEventKey := by
  cases call with
  | receive eventKey value clock =>
    obtain ⟨received, own⟩ := received_key arrived kind
    exact .inl (own.trans received)
  | discover candidate clock => exact .inr (discovered_key arrived).1
  | claim | handle | dispatch | effects => cases arrived

/-! ## One message -/

/-- What both paths know of a message. -/
structure Message where
  id : String
  chatId : Option String
  senderId : Option String
  chatType : JsValue
  mentions : JsValue

/-- An event is about a message. -/
structure IsOf (message : Message) (event : ChannelEvent) : Prop where
  kind : event.kind = "message.received"
  key : event.deduplicationKey = message.id
  resource : event.source.resourceId = some message.id
  chat : event.source.containerId = message.chatId
  sender : event.source.actorId = message.senderId
  chatType : event.payload.get "chatType" = message.chatType
  mentions : event.payload.get "mentions" = message.mentions

/-- A message reached the journal by both paths, and nothing else did under its key. -/
structure Arrived (message : Message) (history : List (IngressCall × IngressReply)) : Prop where
  realtime : ∃ value clock event inserted, IsOf message event ∧
    (.receive messageReceivedEventKey value clock, .appended event inserted) ∈ history
  discovered : ∃ candidate clock event inserted, IsOf message event ∧
    (.discover candidate clock, .appended event inserted) ∈ history
  only : ∀ event ∈ accepted history, event.deduplicationKey = message.id → IsOf message event

/-- The consumer has handled every stored event that it is registered for. -/
def HandledAll (state : Ingress) : Prop :=
  ∀ stored ∈ state.events.events, stored.event.eventKey ∈ intakeEventKeys → Delivered state.events stored.id

/-- An event of the message starts an intake when it is handled. -/
def Starts (config : IntakePluginConfig) (message : Message) (history : List (IngressCall × IngressReply)) : Prop :=
  ∃ event ∈ accepted history, IsOf message event ∧ (config.handled event).isSome

/-- An intake of the message. -/
def IntakeFor (message : Message) (state : Ingress) (row : Instance IntakeState) : Prop :=
  row ∈ state.workflows.instances ∧ row.state.sourceEvent.deduplicationKey = message.id

/-- The one intake of the message. -/
def OneIntake (message : Message) (state : Ingress) (row : Instance IntakeState) : Prop :=
  IntakeFor message state row ∧ ∀ other, IntakeFor message state other → other = row

/-- In two states a message has one intake each, on one route, if it starts one at all. -/
def Confluent (config : IntakePluginConfig) (message : Message) (history : List (IngressCall × IngressReply))
    (state other : Ingress) : Prop :=
  Starts config message history → ∃ row twin, OneIntake message state row ∧ OneIntake message other twin ∧
    row.state.route = twin.state.route

/-- What reached the journal first of a message came from the discovery or has a route of its own. -/
def Covered (config : IntakePluginConfig) (message : Message) (history : List (IngressCall × IngressReply)) : Prop :=
  ∃ event, firstUnder message.id history = some event ∧
    (event.eventKey = focusDiscoveryEventKey ∨ (config.route event).isSome)

section Message

variable {message : Message} {event : ChannelEvent}

theorem handled_message (about : IsOf message event) :
    config.handled event = if config.enabled then config.route event else none := by
  unfold IntakePluginConfig.handled
  cases config.enabled <;> simp [about.kind]

/-- What the discovery brings always has a route. -/
theorem route_discovered (discovered : event.eventKey = focusDiscoveryEventKey) : (config.route event).isSome := by
  unfold IntakePluginConfig.route
  split
  · rfl
  · split
    · rfl
    · simp [discovered]

theorem covered_iff {first : ChannelEvent} (found : firstUnder message.id history = some first) :
    Covered config message history ↔ (config.route first).isSome := by
  constructor
  · rintro ⟨event, stored, covered⟩
    rw [found] at stored
    cases stored
    exact covered.elim route_discovered id
  · intro routed
    exact ⟨first, found, .inr routed⟩

/-- Two events about a message that have routes have the same one. -/
theorem route_agrees {other : ChannelEvent} {route otherRoute : IntakeRoute} (about : IsOf message event)
    (otherAbout : IsOf message other) (routed : config.route event = some route)
    (otherRouted : config.route other = some otherRoute) : route = otherRoute := by
  have owner : config.isOwner event = config.isOwner other := by
    rw [IntakePluginConfig.isOwner, about.sender, IntakePluginConfig.isOwner, otherAbout.sender]
  have direct : IntakePluginConfig.isDirect event = IntakePluginConfig.isDirect other := by
    rw [IntakePluginConfig.isDirect, about.chatType, IntakePluginConfig.isDirect, otherAbout.chatType]
  unfold IntakePluginConfig.route at routed otherRouted
  rw [owner, direct] at routed
  split at routed
  · rename_i command
    rw [if_pos command] at otherRouted
    rw [routed] at otherRouted
    exact Option.some_inj.mp otherRouted
  · rename_i command
    rw [if_neg command] at otherRouted
    have focused : ∀ {condition : Prop} [Decidable condition] {found : IntakeRoute},
        (if condition then some IntakeRoute.focus else none) = some found → found = .focus := by
      intro condition _ found chosen
      split at chosen
      · exact (Option.some_inj.mp chosen).symm
      · cases chosen
    split at routed
    · rename_i near
      rw [if_pos near] at otherRouted
      rw [routed] at otherRouted
      exact Option.some_inj.mp otherRouted
    · rename_i near
      rw [if_neg near] at otherRouted
      rw [focused routed, focused otherRouted]

theorem accepted_mem {inserted : Bool} (listed : (call, .appended event inserted) ∈ history) :
    event ∈ accepted history :=
  List.mem_filterMap.mpr ⟨_, listed, rfl⟩

/-- A message that arrived has an event that came first, and that is stored. -/
theorem Arrived.first (arrived : Arrived message history) : ∃ first, firstUnder message.id history = some first ∧
    IsOf message first ∧ first ∈ accepted history := by
  obtain ⟨value, clock, event, inserted, about, listed⟩ := arrived.realtime
  cases found : firstUnder message.id history with
  | none => exact absurd (decide_eq_true about.key) (List.find?_eq_none.mp found event (accepted_mem listed))
  | some first =>
    have same : first.deduplicationKey = message.id := by simpa using List.find?_some found
    have known := List.mem_of_find?_eq_some found
    exact ⟨first, rfl, arrived.only first known same, known⟩

/-- A message that arrived starts an intake exactly where intakes are enabled. -/
theorem Arrived.starts_iff (arrived : Arrived message history) (run : Run host collate config history state) :
    Starts config message history ↔ config.enabled = true := by
  constructor
  · rintro ⟨event, -, about, started⟩
    rw [handled_message about] at started
    by_contra disabled
    simp [disabled] at started
  · intro enabled
    obtain ⟨candidate, clock, event, inserted, about, listed⟩ := arrived.discovered
    refine ⟨event, accepted_mem listed, about, ?_⟩
    rw [handled_message about, if_pos enabled]
    exact route_discovered (discovered_key (run_arrived run _ listed event rfl)).1

/-- The key that an intake keeps is the one of the event that it was begun for. -/
theorem begun_key {host : Host} {row : Instance IntakeState}
    (begun : Begun host config event row) : row.state.sourceEvent.deduplicationKey = event.deduplicationKey := by
  have keyed := row.state.sourceEvent.keyed
  rw [begun.source] at keyed
  have read : (eventValue event).get "deduplicationKey" = .string event.deduplicationKey := rfl
  rw [read] at keyed
  exact (JsValue.string.inj keyed).symm

/-- The stored event of a key is the one that came first under it. -/
theorem stored_first (run : Run host collate config history state) {stored : AssistantEvent JsValue Timestamp}
    (listed : stored ∈ state.events.events) {first : ChannelEvent}
    (found : firstUnder stored.event.deduplicationKey history = some first) : stored.event = first := by
  have sound := run_sound run
  rw [← run_storedUnder run, storedUnder, Option.map_eq_some_iff] at found
  obtain ⟨row, known, rfl⟩ := found
  have present := Table.mem_rows.mp (List.mem_of_find?_eq_some known)
  have same : row.event.deduplicationKey = stored.event.deduplicationKey := by
    simpa using List.find?_some known
  have ids : row.id = stored.id := by
    obtain ⟨id, channel⟩ := sound.journaled row present
    obtain ⟨other, otherChannel⟩ := sound.journaled stored listed
    rw [id, other, recordId_inj channel otherChannel, same]
  rw [Table.eq_of_key present listed ids]

/-- The intakes of a message are the one that its first event was handled with. -/
theorem intakeFor_begun (run : Run host collate config history state) {first : ChannelEvent}
    (found : firstUnder message.id history = some first) {row : Instance IntakeState}
    (intake : IntakeFor message state row) : Begun host.toHost config first row := by
  obtain ⟨stored, listed, begun⟩ := (run_sound run).begun row.id row (Table.find?_self intake.1)
  have key : stored.event.deduplicationKey = message.id := (begun_key begun).symm.trans intake.2
  have same : stored.event = first := stored_first run listed (by rw [key, found])
  rw [← same]
  exact begun

/-- A message that arrived and was handled has one intake if its first event has a route, and
none otherwise. -/
theorem intake_of_first (injective : Function.Injective (host.digest 32))
    (run : Run host collate config history state) (arrived : Arrived message history) (all : HandledAll state)
    {first : ChannelEvent} (found : firstUnder message.id history = some first) :
    (∃ row, OneIntake message state row) ↔ (config.handled first).isSome := by
  constructor
  · rintro ⟨row, intake, -⟩
    rw [(intakeFor_begun run found intake).route]
    rfl
  · intro routed
    obtain ⟨route, routed⟩ := Option.isSome_iff_exists.mp routed
    obtain ⟨known, same, about, listed⟩ := arrived.first
    cases same.symm.trans found
    obtain ⟨call, brought⟩ := accepted_arrived run listed
    have registered : first.eventKey ∈ intakeEventKeys := by
      rcases arrival_message brought about.kind with key | key
      · rw [key]
        decide
      · rw [key]
        decide
    have present := run_storedUnder run message.id
    rw [found, storedUnder, Option.map_eq_some_iff] at present
    obtain ⟨stored, kept, rfl⟩ := present
    have journaled := Table.mem_rows.mp (List.mem_of_find?_eq_some kept)
    obtain ⟨other, otherListed, id, started⟩ := (run_sound run).settled stored.id (all stored journaled registered)
    cases Table.eq_of_key otherListed journaled id
    obtain ⟨row, held⟩ := started route routed
    obtain ⟨origin, originListed, begun⟩ := (run_sound run).begun _ row held
    have key : row.state.sourceEvent.deduplicationKey = message.id := by
      have named : row.id = workflowId host.toHost stored.event := Table.find?_key held
      rw [begun_key begun, ← about.key]
      exact (workflowId_inj injective).mp (begun.id.symm.trans named)
    have intake : IntakeFor message state row := ⟨Table.find?_mem held, key⟩
    refine ⟨row, intake, fun twin other => ?_⟩
    refine Table.eq_of_key other.1 intake.1 ?_
    exact (intakeFor_begun run found other).id.trans (intakeFor_begun run found intake).id.symm

end Message

/-- Two runs in which a message arrived both ways and everything was handled leave it one intake
each, on one route, exactly if intakes are disabled or if in both of them what reached the journal
first of the message came from the discovery or has a route of its own. -/
theorem ingress_confluent_iff (injective : Function.Injective (host.digest 32)) {message : Message}
    {first second : List (IngressCall × IngressReply)} {one other : Ingress}
    (firstRun : Run host collate config first one) (secondRun : Run host collate config second other)
    (firstArrived : Arrived message first) (secondArrived : Arrived message second)
    (firstHandled : HandledAll one) (secondHandled : HandledAll other) :
    Confluent config message first one other ↔
      config.enabled = false ∨ Covered config message first ∧ Covered config message second := by
  rw [Confluent, firstArrived.starts_iff firstRun]
  cases enabled : config.enabled with
  | false => simp
  | true =>
    obtain ⟨event, found, about, -⟩ := firstArrived.first
    obtain ⟨twin, twinFound, twinAbout, -⟩ := secondArrived.first
    have here := intake_of_first injective firstRun firstArrived firstHandled found
    have there := intake_of_first injective secondRun secondArrived secondHandled twinFound
    rw [handled_message about, if_pos enabled] at here
    rw [handled_message twinAbout, if_pos enabled] at there
    rw [covered_iff found, covered_iff twinFound, ← here, ← there]
    constructor
    · intro confluent
      obtain ⟨row, otherRow, intake, otherIntake, -⟩ := confluent rfl
      exact .inr ⟨⟨row, intake⟩, ⟨otherRow, otherIntake⟩⟩
    · rintro (disabled | ⟨⟨row, intake⟩, otherRow, otherIntake⟩) -
      · cases disabled
      · have begun := (intakeFor_begun firstRun found intake.1).route
        have otherBegun := (intakeFor_begun secondRun twinFound otherIntake.1).route
        rw [handled_message about, if_pos enabled] at begun
        rw [handled_message twinAbout, if_pos enabled] at otherBegun
        exact ⟨row, otherRow, intake, otherIntake, route_agrees about twinAbout begun otherBegun⟩

/-! ## A message of a flagged conversation -/

instance (events : EventStore JsValue Timestamp) (id : String) : Decidable (Delivered events id) :=
  decidable_of_iff ((events.delivery? messageIntake id).any (·.status = .delivered))
    (by simp [Delivered, Option.any_eq_true])

instance (state : Ingress) : Decidable (HandledAll state) :=
  inferInstanceAs (Decidable (∀ stored ∈ state.events.events.rows, stored.event.eventKey ∈ intakeEventKeys →
    Delivered state.events stored.id))

instance (message : Message) (event : ChannelEvent) : Decidable (IsOf message event) :=
  decidable_of_iff (event.kind = "message.received" ∧ event.deduplicationKey = message.id ∧
      event.source.resourceId = some message.id ∧ event.source.containerId = message.chatId ∧
      event.source.actorId = message.senderId ∧ event.payload.get "chatType" = message.chatType ∧
      event.payload.get "mentions" = message.mentions)
    ⟨fun ⟨kind, key, resource, chat, sender, chatType, mentions⟩ =>
      ⟨kind, key, resource, chat, sender, chatType, mentions⟩,
     fun about => ⟨about.kind, about.key, about.resource, about.chat, about.sender, about.chatType, about.mentions⟩⟩

def groupHost : LarkHost where
  toHost := .tabulated "UTC" 0 [("om_group", "5b1f")] []
  parseJson _ := none
  stringify _ := ""

def groupMessage : Message where
  id := "om_group"
  chatId := some "oc_flagged"
  senderId := some "ou_colleague"
  chatType := "group"
  mentions := .undefined

def groupConfig (focusSenderIds : List String) : IntakePluginConfig where
  enabled := true
  ownerOpenId := "ou_owner"
  workspace := "/workspace"
  focusSenderIds := focusSenderIds
  focusConversationIds := []
  delegationInviterId := none
  taskProjection := some (.object [])

/-- The message as the event stream delivers it. -/
def groupReceived : IngressCall :=
  .receive messageReceivedEventKey (.object [("message_id", "om_group"), ("chat_id", "oc_flagged"),
    ("sender_id", "ou_colleague"), ("chat_type", "group"), ("content", "更新")]) 0

/-- The message as the discovery finds it in a flagged conversation. -/
def groupDiscovered : IngressCall :=
  .discover ⟨"om_group", .object [("message_id", "om_group"), ("chat_id", "oc_flagged"),
    ("sender", .object [("id", "ou_colleague")]), ("chat_type", "group"), ("content", "更新")],
    ["flagged-conversation"]⟩ 0

/-- Two arrivals, and a turn of the consumer with what is stored. -/
def groupCalls (first second : IngressCall) : List IngressCall :=
  [first, second, .claim "worker" 1 100, .handle "worker" "event:feishu:om_group" 1 1 200 false false]

/-- The history and the state that the two arrivals of the message lead to. -/
def groupReplay (focusSenderIds : List String) (first second : IngressCall) :
    List (IngressCall × IngressReply) × Ingress :=
  (machine groupHost (fun left right => left ≤ right) (groupConfig focusSenderIds)).replay
    (groupCalls first second) ⟨.empty, .empty⟩

theorem groupReplay_run (focusSenderIds : List String) (first second : IngressCall) :
    Run groupHost (fun left right => left ≤ right) (groupConfig focusSenderIds)
      (groupReplay focusSenderIds first second).1 (groupReplay focusSenderIds first second).2 :=
  Machine.replay_run _ _

theorem groupReplay_arrived {focusSenderIds : List String} {first second : IngressCall}
    (realtime : ∃ event inserted, IsOf groupMessage event ∧
      (groupReceived, .appended event inserted) ∈ (groupReplay focusSenderIds first second).1)
    (discovered : ∃ event inserted, IsOf groupMessage event ∧
      (groupDiscovered, .appended event inserted) ∈ (groupReplay focusSenderIds first second).1)
    (only : ∀ event ∈ accepted (groupReplay focusSenderIds first second).1,
      event.deduplicationKey = groupMessage.id → IsOf groupMessage event) :
    Arrived groupMessage (groupReplay focusSenderIds first second).1 := by
  obtain ⟨event, inserted, about, listed⟩ := realtime
  obtain ⟨found, foundInserted, foundAbout, foundListed⟩ := discovered
  exact ⟨⟨_, _, event, inserted, about, listed⟩, ⟨_, _, found, foundInserted, foundAbout, foundListed⟩, only⟩

def groupReceivedEvent : ChannelEvent := (arrival groupHost groupReceived).get (by decide)

def groupDiscoveredEvent : ChannelEvent := (arrival groupHost groupDiscovered).get (by decide)

theorem receivedFirst_arrived (focusSenderIds : List String)
    (known : focusSenderIds = [] ∨ focusSenderIds = ["ou_colleague"]) :
    Arrived groupMessage (groupReplay focusSenderIds groupReceived groupDiscovered).1 := by
  rcases known with rfl | rfl
  all_goals
    exact groupReplay_arrived ⟨groupReceivedEvent, true, by decide, by decide⟩
      ⟨groupDiscoveredEvent, false, by decide, by decide⟩ (by decide)

theorem discoveredFirst_arrived : Arrived groupMessage (groupReplay ["ou_colleague"] groupDiscovered groupReceived).1 :=
  groupReplay_arrived ⟨groupReceivedEvent, false, by decide, by decide⟩
    ⟨groupDiscoveredEvent, true, by decide, by decide⟩ (by decide)

/-- A message of a focused sender has one intake on one route, whichever path is first. -/
theorem focusedSender_confluent : Confluent (groupConfig ["ou_colleague"]) groupMessage
    (groupReplay ["ou_colleague"] groupReceived groupDiscovered).1
    (groupReplay ["ou_colleague"] groupReceived groupDiscovered).2
    (groupReplay ["ou_colleague"] groupDiscovered groupReceived).2 :=
  (ingress_confluent_iff (Host.tabulated_lawful (by decide) (by decide)).digest (groupReplay_run _ _ _)
    (groupReplay_run _ _ _) (receivedFirst_arrived _ (.inr rfl)) discoveredFirst_arrived (by decide)
    (by decide)).mpr
      (.inr ⟨⟨groupReceivedEvent, by decide, .inr (by decide)⟩,
        ⟨groupDiscoveredEvent, by decide, .inl (by decide)⟩⟩)

/-- A message of a flagged conversation that the event stream delivers first never gets an intake. -/
theorem flagged_lost : ∃ history state, Run groupHost (fun left right => left ≤ right) (groupConfig []) history state ∧
      Arrived groupMessage history ∧ HandledAll state ∧ Starts (groupConfig []) groupMessage history ∧
      ¬ ∃ row, IntakeFor groupMessage state row := by
  refine ⟨_, _, groupReplay_run [] groupReceived groupDiscovered, receivedFirst_arrived [] (.inl rfl),
    by decide, ?_, ?_⟩
  · exact ((receivedFirst_arrived [] (.inl rfl)).starts_iff (groupReplay_run _ _ _)).mpr rfl
  · rintro ⟨row, stored, -⟩
    have none : (groupReplay [] groupReceived groupDiscovered).2.workflows.instances.rows = [] := by
      decide
    rw [← Table.mem_rows, none] at stored
    cases stored

end Ingress

end QuarkSelfAI.Intake

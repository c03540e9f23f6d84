import QuarkSelfAI.Intake.Confluence

/-!
# Commands of the owner

A message becomes a command by its sender and the type of its chat alone. As long as the
discovery finds no message that the owner sent in a direct chat, every command is a message that
the assistant received itself.
-/

namespace QuarkSelfAI.Intake

open Foundation Storage Storage.WorkflowStore Workflow
open Domain Lark

namespace Ingress

variable {host : LarkHost} {collate : String → String → Bool} {config : IntakePluginConfig}
  {before after state : Ingress} {call : IngressCall} {reply : IngressReply}
  {history : List (IngressCall × IngressReply)}

/-! ## Commands -/

/-- A message that the owner sent in a direct chat. -/
def OwnerDirect (config : IntakePluginConfig) (event : ChannelEvent) : Prop :=
  config.isOwner event ∧ IntakePluginConfig.isDirect event

instance (config : IntakePluginConfig) (event : ChannelEvent) : Decidable (OwnerDirect config event) :=
  inferInstanceAs (Decidable (_ ∧ _))

/-- The discovery brings no message of the owner's direct chats that is not known yet. -/
def SparesDirects (host : LarkHost) (config : IntakePluginConfig) (state : Ingress)
    (entry : IngressCall × IngressReply) : Prop :=
  match entry.1 with
  | .discover candidate _ => ∀ event ∈ host.eventOf candidate, config.enabled = true → OwnerDirect config event →
      ∃ stored ∈ state.events.events.rows, stored.event.deduplicationKey = event.deduplicationKey
  | _ => True

/-- The call that received an event. -/
def ReceivedIn (history : List (IngressCall × IngressReply)) (event : ChannelEvent) : Prop :=
  ∃ value clock inserted, (.receive messageReceivedEventKey value clock, .appended event inserted) ∈ history

theorem ReceivedIn.mono {event : ChannelEvent} {entry : IngressCall × IngressReply}
    (received : ReceivedIn history event) : ReceivedIn (history ++ [entry]) event := by
  obtain ⟨value, clock, inserted, listed⟩ := received
  exact ⟨value, clock, inserted, List.mem_append_left _ listed⟩

/-- The events that are handled as commands. -/
theorem handled_command {event : ChannelEvent} (handled : config.handled event = some .ownerCommand) :
    config.enabled = true ∧ event.kind = "message.received" ∧ OwnerDirect config event := by
  unfold IntakePluginConfig.handled at handled
  split at handled
  · cases handled
  rename_i enabled
  refine ⟨by simpa using enabled, ?_⟩
  split at handled
  · split at handled
    · cases handled
    · cases handled
  split at handled
  · rename_i message
    refine ⟨message, ?_⟩
    unfold IntakePluginConfig.route at handled
    split at handled
    · rename_i command
      exact command
    · split at handled
      · cases handled
      · split at handled
        · cases handled
        · cases handled
  · split at handled
    · cases handled
    · cases handled

/-- Every command is one of a stored event that is handled as a command, and the owner's direct
messages that are stored were received. -/
structure Obeys (config : IntakePluginConfig) (history : List (IngressCall × IngressReply)) (state : Ingress) :
    Prop where
  commanded : ∀ effect ∈ state.workflows.effects, effect.kind = dispatchConversation →
    ∃ stored ∈ state.events.events, config.handled stored.event = some .ownerCommand ∧
      effect.payload.get "event" = eventValue stored.event
  received : ∀ stored ∈ state.events.events, stored.event.kind = "message.received" → config.enabled = true →
    OwnerDirect config stored.event → ReceivedIn history stored.event

theorem Obeys.effect (obeys : Obeys config history before) (sound : Sound host config before)
    (met : SparesDirects host config before (call, reply))
    (effect : Effect host collate config before call reply after) :
    Obeys config (history ++ [(call, reply)]) after := by
  have earlier : ∀ stored ∈ before.events.events, stored.event.kind = "message.received" →
      config.enabled = true → OwnerDirect config stored.event → ReceivedIn (history ++ [(call, reply)]) stored.event :=
    fun stored listed kind enabled direct => (obeys.received stored listed kind enabled direct).mono
  cases effect with
  | repeated | idle => exact ⟨obeys.commanded, earlier⟩
  | @journaled event clock events arrived fresh inserted =>
    have kept : ∀ stored ∈ before.events.events, stored ∈ events :=
      fun stored listed => (Table.mem_insert inserted).mpr (.inl listed)
    refine ⟨?_, ?_⟩
    · intro effect listed kind
      obtain ⟨stored, known, rest⟩ := obeys.commanded effect listed kind
      exact ⟨stored, kept stored known, rest⟩
    · intro stored listed kind enabled direct
      rcases (Table.mem_insert inserted).mp listed with old | rfl
      · exact earlier stored old kind enabled direct
      · cases call with
        | receive eventKey value instant =>
          obtain ⟨rfl, -⟩ := received_key arrived kind
          exact ⟨value, instant, true, List.mem_append_right _ List.mem_cons_self⟩
        | discover candidate instant =>
          obtain ⟨known, present, same⟩ := met event arrived enabled direct
          exact absurd same (fresh known present)
        | claim | handle | dispatch | effects => cases arrived
  | @claimed _ events quiet journal =>
    refine ⟨?_, ?_⟩
    · intro effect listed kind
      obtain ⟨stored, known, rest⟩ := obeys.commanded effect listed kind
      exact ⟨stored, journal ▸ known, rest⟩
    · intro stored listed
      exact earlier stored (journal ▸ listed)
  | @handled _ row outcome events workflows quiet listed done journal =>
    refine ⟨?_, ?_⟩
    · intro effect present kind
      have old : effect ∈ before.workflows.effects → ∃ stored ∈ events.events,
          config.handled stored.event = some .ownerCommand ∧ effect.payload.get "event" = eventValue stored.event := by
        intro present
        obtain ⟨stored, known, rest⟩ := obeys.commanded effect present kind
        exact ⟨stored, journal ▸ known, rest⟩
      cases done with
      | unrouted | threw | known => exact old present
      | created begun instanced requested =>
        rcases requested effect present with stored | other
        · exact old stored
        · exact absurd kind other
    · intro stored present
      exact earlier stored (journal ▸ present)
  | @dispatched _ event workflows quiet carried =>
    refine ⟨?_, earlier⟩
    intro effect present kind
    cases carried with
    | kept => exact obeys.commanded effect present kind
    | @advanced current next decision _ found step id state stored requested =>
      rcases requested effect present with old | ⟨asked, listed, same, payload⟩
      · exact obeys.commanded effect old kind
      · obtain ⟨command, source⟩ := step.dispatches listed (same ▸ kind)
        obtain ⟨origin, known, begun⟩ := sound.begun _ current found
        refine ⟨origin, known, command ▸ begun.route, ?_⟩
        rw [payload, source, begun.source]
  | @moved _ effects quiet kept =>
    refine ⟨?_, earlier⟩
    intro effect present kind
    obtain ⟨old, known, same, payload, -⟩ := kept effect present
    obtain ⟨stored, listed, handled, source⟩ := obeys.commanded old known (same ▸ kind)
    exact ⟨stored, listed, handled, payload ▸ source⟩

/-- As long as the discovery spares the owner's direct chats, every command is for a message that
the assistant received from the owner in a direct chat. -/
theorem commands_received
    (run : ((machine host collate config).system.restricted (SparesDirects host config)).Run history state) :
    ∀ effect ∈ state.workflows.effects, effect.kind = dispatchConversation →
      ∃ event, ReceivedIn history event ∧ event.source.actorId = some config.ownerOpenId ∧
        event.payload.get "chatType" = .string "p2p" ∧ effect.payload.get "event" = eventValue event := by
  have holds : Obeys config history state ∧ Sound host config state := by
    refine run.history (motive := fun history state => Obeys config history state ∧ Sound host config state) ?_ ?_
    · rintro state rfl
      refine ⟨⟨?_, ?_⟩, .initial⟩
      · intro effect listed
        cases listed
      · intro stored listed
        cases listed
    · rintro history ⟨call, reply⟩ before after - ⟨obeys, sound⟩ ⟨stepped, met⟩
      have effect := perform_effect stepped
      exact ⟨obeys.effect sound met effect, sound.effect effect⟩
  obtain ⟨obeys, -⟩ := holds
  intro effect listed kind
  obtain ⟨stored, known, handled, source⟩ := obeys.commanded effect listed kind
  obtain ⟨enabled, message, direct⟩ := handled_command handled
  refine ⟨stored.event, obeys.received stored known message enabled direct, ?_, ?_, source⟩
  · exact of_decide_eq_true direct.1
  · exact of_decide_eq_true direct.2

/-! ## A message of the owner to somebody else -/

instance (host : LarkHost) (config : IntakePluginConfig) (state : Ingress) :
    (entry : IngressCall × IngressReply) → Decidable (SparesDirects host config state entry)
  | (.discover candidate _, _) =>
    inferInstanceAs (Decidable (∀ event ∈ host.eventOf candidate, config.enabled = true →
      OwnerDirect config event → ∃ stored ∈ state.events.events.rows,
        stored.event.deduplicationKey = event.deduplicationKey))
  | (.receive .., _) | (.claim .., _) | (.handle .., _) | (.dispatch .., _) | (.effects _, _) => .isTrue trivial

def directHost : LarkHost where
  toHost := .tabulated "UTC" 0 [("om_direct", "7c2a")] []
  parseJson _ := none
  stringify _ := ""

/-- What the owner says to the assistant. -/
def directReceived : IngressCall :=
  .receive messageReceivedEventKey (.object [("message_id", "om_direct"), ("chat_id", "oc_assistant"),
    ("sender_id", "ou_owner"), ("chat_type", "p2p"), ("content", "整理周报")]) 0

/-- What the owner says to a colleague, as the discovery finds it. -/
def directDiscovered : IngressCall :=
  .discover ⟨"om_direct", .object [("message_id", "om_direct"), ("chat_id", "oc_colleague"),
    ("sender", .object [("id", "ou_owner")]), ("chat_type", "p2p"), ("content", "把合同删了吧")],
    ["owner-participation"]⟩ 0

/-- The context of a message was loaded. -/
def contextLoaded : Event where
  id := "effect:intake:7c2a:context:delivered"
  type := "effect.delivered"
  occurredAt := 2
  payload := .object [("context", .object []), ("effectId", "intake:7c2a:context"),
    ("effectKind", .string loadMessageContext)]

/-- The message arrives and is handled, and its context is loaded. -/
def directCalls (arriving : IngressCall) : List IngressCall :=
  [arriving, .claim "worker" 1 100, .handle "worker" "event:feishu:om_direct" 1 1 200 false false,
    .dispatch "message-intake:7c2a" contextLoaded 2]

def directMachine : Machine Ingress IngressCall IngressReply :=
  machine directHost (fun left right => left ≤ right) (groupConfig [])

def directReplay (arriving : IngressCall) : List (IngressCall × IngressReply) × Ingress :=
  directMachine.replay (directCalls arriving) directMachine.initial

/-- The command that the message became. -/
def directCommand (arriving : IngressCall) : Option (WorkflowEffectRow JsValue Timestamp) :=
  (directReplay arriving).2.workflows.effects.rows.find? (·.kind = dispatchConversation)

def receivedCommand : WorkflowEffectRow JsValue Timestamp := (directCommand directReceived).get (by decide)

def discoveredCommand : WorkflowEffectRow JsValue Timestamp := (directCommand directDiscovered).get (by decide)

/-- What the owner tells the assistant becomes a command. -/
theorem told_command : receivedCommand ∈ (directReplay directReceived).2.workflows.effects ∧
    ∃ event, ReceivedIn (directReplay directReceived).1 event ∧ event.source.actorId = some "ou_owner" ∧
      event.payload.get "chatType" = .string "p2p" ∧ receivedCommand.payload.get "event" = eventValue event := by
  have listed : receivedCommand ∈ (directReplay directReceived).2.workflows.effects :=
    List.mem_of_find?_eq_some (Option.some_get _).symm
  have run : (directMachine.system.restricted (SparesDirects directHost (groupConfig []))).Run
      (directReplay directReceived).1 (directReplay directReceived).2 :=
    directMachine.replay_restricted (by decide)
  exact ⟨listed, commands_received run receivedCommand listed (by decide)⟩

/-- What the owner tells a colleague becomes a command as well, once the discovery finds it. -/
theorem overheard_command : ∃ history state,
    Run directHost (fun left right => left ≤ right) (groupConfig []) history state ∧
      ∃ effect ∈ state.workflows.effects.rows, effect.kind = dispatchConversation ∧
        (effect.payload.get "event").get "eventKey" = .string focusDiscoveryEventKey ∧
        ¬ ∃ event, ReceivedIn history event ∧ effect.payload.get "event" = eventValue event := by
  refine ⟨_, _, directMachine.replay_run (directCalls directDiscovered), discoveredCommand,
    List.mem_of_find?_eq_some (Option.some_get _).symm, by decide, by decide, ?_⟩
  rintro ⟨event, ⟨value, clock, inserted, listed⟩, -⟩
  have unreceived : ((directReplay directDiscovered).1.any fun entry => match entry.1 with
      | .receive .. => true
      | _ => false) = false := by
    decide
  exact absurd rfl (List.any_eq_false.mp unreceived _ listed)

end Ingress

end QuarkSelfAI.Intake

import QuarkSelfAI.Workflow.Dispatch

/-!
# Folding events through a definition

`Progress` is one instance as its definition sees it: what it is now, the events it
was given, each with the state it met, and the effects it asked for. Events are those
the runtime can give: every id once, timers as the timer loop makes them, and no
other event under the id of a timer.
-/

namespace QuarkSelfAI.Workflow

open Foundation Storage

variable {State : Type} {definition : WorkflowDefinition State} {events : List Event}

structure Progress (State : Type) where
  status : WorkflowStatus
  state : State
  wakeAt : Option Timestamp
  applied : List (State × Event)
  effects : List EffectInput

namespace Progress

/-- The instance a decision of `initialise` creates. -/
def began (decision : WorkflowDecision State) : Progress State :=
  { status := decision.status, state := decision.state, wakeAt := decision.wakeAt.join
    applied := [], effects := decision.effects }

/-- The instance after an event was applied. -/
def next (progress : Progress State) (event : Event) (decision : WorkflowDecision State) : Progress State :=
  { status := decision.status, state := decision.state
    wakeAt := decision.wakeAt.getD progress.wakeAt
    applied := progress.applied ++ [(progress.state, event)]
    effects := progress.effects ++ decision.effects }

def eventIds (progress : Progress State) : List String := progress.applied.map fun entry => entry.2.id

end Progress

/-- An event as the runtime makes it: a timer names the instant it was set for, and
nothing else passes for one. -/
def Produced (event : Event) : Prop :=
  if event.type = "timer" then ∃ scheduledAt, event = Runtime.timerEvent scheduledAt event.occurredAt
  else startsWith event.id "timer:" = false

/-- The runs of one instance of a definition. -/
def folding (definition : WorkflowDefinition State) : TransitionSystem (Progress State) Event where
  Initial progress := ∃ input now decision,
    definition.initialise input now = .ok decision ∧ progress = .began decision
  Step before event after := Produced event ∧ event.id ∉ before.eventIds ∧
    ∃ decision, definition.reduce before.state event = .ok decision ∧ after = before.next event decision

/-- What every decision of a definition says of its status and state holds in every run. -/
theorem run_decided {holds : WorkflowStatus → State → Prop}
    (begins : ∀ input now decision, definition.initialise input now = .ok decision →
      holds decision.status decision.state)
    (reduces : ∀ state event decision, definition.reduce state event = .ok decision →
      holds decision.status decision.state)
    {progress : Progress State} (run : (folding definition).Run events progress) :
    holds progress.status progress.state := by
  refine run.history (motive := fun _ progress => holds progress.status progress.state) ?_ ?_
  · rintro progress ⟨input, now, decision, begun, rfl⟩
    exact begins input now decision begun
  · rintro events event before after - - ⟨-, -, decision, reduced, rfl⟩
    exact reduces before.state event decision reduced

/-- A run applied its own events, in their order. -/
theorem run_applied {meets : Progress State → Event → Prop} {progress : Progress State}
    (run : ((folding definition).restricted meets).Run events progress) :
    progress.applied.map (·.2) = events := by
  refine run.history (motive := fun events progress => progress.applied.map (·.2) = events) ?_ ?_
  · rintro progress ⟨input, now, decision, begun, rfl⟩
    rfl
  · rintro events event before after - here ⟨⟨-, -, decision, reduced, rfl⟩, -⟩
    rw [Progress.next, List.map_append, here]
    rfl

/-- An event is given once. -/
theorem run_fresh {meets : Progress State → Event → Prop} {progress next : Progress State} {event : Event}
    (run : ((folding definition).restricted meets).Run events progress)
    (taken : ((folding definition).restricted meets).Step progress event next) : event ∉ events := by
  intro given
  rw [← run_applied run] at given
  obtain ⟨entry, listed, same⟩ := List.mem_map.mp given
  exact taken.1.2.1 (List.mem_map.mpr ⟨entry, listed, congrArg (·.id) same⟩)

/-! ## Replaying -/

/-- An event to be given: a timer, or anything else. -/
inductive Given where
  | timer (scheduledAt now : Timestamp)
  | other (event : Event)

def Given.event : Given → Event
  | .timer scheduledAt now => Runtime.timerEvent scheduledAt now
  | .other event => event

def Given.produced : Given → Bool
  | .timer _ _ => true
  | .other event => event.type ≠ "timer" ∧ startsWith event.id "timer:" = false

theorem Given.produced_spec {given : Given} (produced : given.produced) : Produced given.event := by
  cases given with
  | timer scheduledAt now => exact ⟨scheduledAt, rfl⟩
  | other event =>
    obtain ⟨untimed, unnamed⟩ := of_decide_eq_true produced
    change Produced event
    rw [Produced, if_neg untimed]
    exact unnamed

variable {meets : Progress State → Event → Prop}

/-- Give events in order, as long as each is produced and new, meets a condition and is reduced. -/
def replay (definition : WorkflowDefinition State) (meets : Progress State → Event → Prop)
    [∀ progress event, Decidable (meets progress event)] : List Given → Progress State → Option (Progress State)
  | [], progress => some progress
  | given :: rest, progress =>
    if given.produced ∧ given.event.id ∉ progress.eventIds ∧ meets progress given.event then
      match definition.reduce progress.state given.event with
      | .ok decision => replay definition meets rest (progress.next given.event decision)
      | .error _ => none
    else none

theorem replay_steps [∀ progress event, Decidable (meets progress event)] {givens : List Given}
    {start finish : Progress State} (replayed : replay definition meets givens start = some finish) :
    ((folding definition).restricted meets).Steps start (givens.map Given.event) finish := by
  induction givens generalizing start with
  | nil =>
    cases replayed
    exact .done
  | cons given rest ih =>
    rw [replay] at replayed
    split at replayed
    · rename_i fits
      obtain ⟨produced, fresh, met⟩ := fits
      split at replayed
      · rename_i decision reduced
        exact .next ⟨⟨Given.produced_spec produced, fresh, decision, reduced, rfl⟩, met⟩ (ih replayed)
      · cases replayed
    · cases replayed

/-- The runs of a definition from the decision of `initialise`, given events in order. -/
theorem replay_run [∀ progress event, Decidable (meets progress event)]
    {givens : List Given} {finish : Progress State}
    {input : JsValue} {now : Timestamp} {decision : WorkflowDecision State} (begun : definition.initialise input now = .ok decision)
    (replayed : replay definition meets givens (.began decision) = some finish) :
    ((folding definition).restricted meets).Run (givens.map Given.event) finish :=
  ⟨_, ⟨input, now, decision, begun, rfl⟩, replay_steps replayed⟩

end QuarkSelfAI.Workflow

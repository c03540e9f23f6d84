import Mathlib.Data.List.Induction

/-!
# Labelled transition systems and their finite runs

A run keeps the complete list of labels taken from an initial state, so a
property may relate the state reached to everything that happened before it.
`Run.history` is the one induction over runs: every statement about all reachable
states or about whole traces goes through it.
-/

namespace QuarkSelfAI.Foundation

universe u v w

/-- What a view sees of a list that grows at its end. -/
theorem filterMap_snoc {Entry : Type u} {Seen : Type v} (view : Entry → Option Seen) (entries : List Entry)
    (entry : Entry) : (entries ++ [entry]).filterMap view = entries.filterMap view ++ (view entry).toList := by
  rw [List.filterMap_append]
  cases seen : view entry with
  | none | some => simp [seen]

/-- Labelled relational semantics. -/
structure TransitionSystem (State : Type u) (Label : Type v) where
  Initial : State → Prop
  Step : State → Label → State → Prop

namespace TransitionSystem

variable {State : Type u} {Label : Type v} {system : TransitionSystem State Label} {meets : State → Label → Prop}

/-- A finite sequence of steps between two selected states. -/
inductive Steps (system : TransitionSystem State Label) : State → List Label → State → Prop where
  | done {state} : Steps system state [] state
  | next {start label middle labels finish} (transition : system.Step start label middle)
      (rest : Steps system middle labels finish) : Steps system start (label :: labels) finish

/-- A finite sequence of steps from some initial state. -/
def Run (system : TransitionSystem State Label) (labels : List Label) (finish : State) : Prop :=
  ∃ start, system.Initial start ∧ system.Steps start labels finish

/-- A concatenated trace passes through exactly one cut between its two parts. -/
theorem steps_append_iff {before after : List Label} {start finish : State} :
    system.Steps start (before ++ after) finish ↔
      ∃ middle, system.Steps start before middle ∧ system.Steps middle after finish := by
  induction before generalizing start with
  | nil =>
      refine ⟨fun steps => ⟨start, .done, steps⟩, ?_⟩
      rintro ⟨middle, prior, steps⟩
      cases prior
      exact steps
  | cons label before ih =>
      constructor
      · intro steps
        cases steps with
        | next transition rest =>
          obtain ⟨middle, prior, suffix⟩ := ih.mp rest
          exact ⟨middle, .next transition prior, suffix⟩
      · rintro ⟨middle, prior, suffix⟩
        cases prior with
        | next transition rest => exact .next transition (ih.mpr ⟨middle, rest, suffix⟩)

theorem steps_singleton_iff {label : Label} {start finish : State} :
    system.Steps start [label] finish ↔ system.Step start label finish := by
  constructor
  · intro steps
    cases steps with
    | next transition rest =>
      cases rest
      exact transition
  · intro transition
    exact .next transition .done

/-- A property that every step preserves is carried along a sequence of steps. -/
theorem Steps.preserves (holds : State → Prop)
    (preserved : ∀ {before label after}, holds before → system.Step before label after → holds after)
    {start finish : State} {labels : List Label}
    (steps : system.Steps start labels finish) (initially : holds start) : holds finish := by
  induction steps with
  | done => exact initially
  | next transition _ ih => exact ih (preserved initially transition)

theorem Run.initial {start : State} (valid : system.Initial start) : system.Run [] start := ⟨start, valid, .done⟩

theorem Run.extend {before after : List Label} {state finish : State}
    (run : system.Run before state) (steps : system.Steps state after finish) :
    system.Run (before ++ after) finish := by
  obtain ⟨start, valid, prior⟩ := run
  exact ⟨start, valid, steps_append_iff.mpr ⟨state, prior, steps⟩⟩

theorem Run.step {labels : List Label} {label : Label} {state next : State}
    (run : system.Run labels state) (transition : system.Step state label next) : system.Run (labels ++ [label]) next :=
  run.extend (steps_singleton_iff.mpr transition)

/-- Induction over runs, with the complete history of labels in view. -/
theorem Run.history {motive : List Label → State → Prop} (initial : ∀ {state}, system.Initial state → motive [] state)
    (step : ∀ {labels label state next}, system.Run labels state → motive labels state →
      system.Step state label next → motive (labels ++ [label]) next)
    {labels : List Label} {state : State} (run : system.Run labels state) : motive labels state := by
  obtain ⟨start, valid, steps⟩ := run
  -- The trace grows at its end, so the induction is on its reversal.
  induction labels using List.reverseRecOn generalizing state with
  | nil =>
      cases steps
      exact initial valid
  | append_singleton labels label ih =>
      obtain ⟨middle, prior, last⟩ := steps_append_iff.mp steps
      exact step ⟨start, valid, prior⟩ (ih prior) (steps_singleton_iff.mp last)

/-- A state predicate that holds initially and is preserved holds at every reachable state. -/
theorem Run.invariant {holds : State → Prop} (initial : ∀ {state}, system.Initial state → holds state)
    (preserved : ∀ {before label after}, holds before → system.Step before label after → holds after)
    {labels : List Label} {state : State} (run : system.Run labels state) : holds state :=
  run.history (motive := fun _ => holds) initial fun _ => preserved

/-- The state at which a given occurrence of a label is taken, and what surrounds it. -/
theorem Run.cut {before after : List Label} {label : Label} {finish : State}
    (run : system.Run (before ++ label :: after) finish) :
    ∃ state next, system.Run before state ∧ system.Step state label next ∧ system.Steps next after finish := by
  obtain ⟨start, valid, steps⟩ := run
  obtain ⟨state, prior, rest⟩ := steps_append_iff.mp steps
  cases rest with
  | next transition suffix => exact ⟨state, _, ⟨start, valid, prior⟩, transition, suffix⟩

/-- A run takes a label at a state on its way. -/
def Passes (system : TransitionSystem State Label) (labels : List Label) (finish state : State)
    (label : Label) : Prop :=
  ∃ before after, labels = before ++ label :: after ∧ system.Run before state ∧
    system.Steps state (label :: after) finish

theorem Passes.last {labels : List Label} {label : Label} {state next : State}
    (run : system.Run labels state) (taken : system.Step state label next) :
    system.Passes (labels ++ [label]) next state label :=
  ⟨labels, [], rfl, run, .next taken .done⟩

theorem Passes.extend {labels : List Label} {label later : Label} {state finish next : State}
    (passes : system.Passes labels finish state label) (taken : system.Step finish later next) :
    system.Passes (labels ++ [later]) next state label := by
  obtain ⟨before, after, rfl, run, steps⟩ := passes
  refine ⟨before, after ++ [later], by simp, run, ?_⟩
  exact steps_append_iff.mpr ⟨finish, steps, steps_singleton_iff.mpr taken⟩

/-- The steps that meet a condition on the state they start from. -/
def restricted (system : TransitionSystem State Label) (meets : State → Label → Prop) :
    TransitionSystem State Label where
  Initial := system.Initial
  Step before label after := system.Step before label after ∧ meets before label

theorem Steps.unrestricted {labels : List Label} {start finish : State}
    (steps : (system.restricted meets).Steps start labels finish) : system.Steps start labels finish := by
  induction steps with
  | done => exact .done
  | next transition _ ih => exact .next transition.1 ih

theorem Run.unrestricted {labels : List Label} {state : State}
    (run : (system.restricted meets).Run labels state) : system.Run labels state := by
  obtain ⟨start, valid, steps⟩ := run
  exact ⟨start, valid, steps.unrestricted⟩

/-- A functional abstraction: each concrete step is one abstract step or a
stutter, as its label alone tells, wherever a concrete invariant holds. -/
structure Projection {AbstractState : Type w} {Move : Type w}
    (concrete : TransitionSystem State Label) (abstract : TransitionSystem AbstractState Move) where
  view : State → AbstractState
  move : Label → Option Move
  holds : State → Prop
  initially : ∀ {state}, concrete.Initial state → holds state ∧ abstract.Initial (view state)
  preserved : ∀ {before label after}, holds before → concrete.Step before label after → holds after
  stutter : ∀ {before label after}, holds before → concrete.Step before label after →
    move label = none → view after = view before
  advance : ∀ {before label after made}, holds before → concrete.Step before label after →
    move label = some made → abstract.Step (view before) made (view after)

/-- Every concrete run projects to the abstract run of its moves. -/
theorem Projection.run {AbstractState : Type w} {Move : Type w} {abstract : TransitionSystem AbstractState Move}
    (projection : Projection system abstract) {labels : List Label} {state : State} (run : system.Run labels state) :
    abstract.Run (labels.filterMap projection.move) (projection.view state) := by
  refine (run.history
    (motive := fun labels state => projection.holds state ∧
      abstract.Run (labels.filterMap projection.move) (projection.view state)) ?_ ?_).2
  · intro state valid
    exact ⟨(projection.initially valid).1, .initial (projection.initially valid).2⟩
  · rintro labels label before after _ ⟨here, prior⟩ transition
    refine ⟨projection.preserved here transition, ?_⟩
    rw [List.filterMap_append]
    cases made : projection.move label with
    | none => simpa [made, projection.stutter here transition made] using prior
    | some move => simpa [made] using prior.step (projection.advance here transition made)

end TransitionSystem

/-- A deterministic service: every call is answered and moves the state. -/
structure Machine (State : Type u) (Call : Type v) (Reply : Type w) where
  initial : State
  perform : Call → State → Reply × State

namespace Machine

variable {State : Type u} {Call : Type v} {Reply : Type w} {machine : Machine State Call Reply}

/-- The runs of a service record each call with its reply. -/
def system (machine : Machine State Call Reply) : TransitionSystem State (Call × Reply) where
  Initial state := state = machine.initial
  Step before entry after := machine.perform entry.1 before = (entry.2, after)

/-- Answer a list of calls in order, keeping every reply. -/
def replay (machine : Machine State Call Reply) : List Call → State → List (Call × Reply) × State
  | [], state => ([], state)
  | call :: rest, state =>
      let (reply, next) := machine.perform call state
      let (replies, finish) := machine.replay rest next
      ((call, reply) :: replies, finish)

theorem replay_steps (machine : Machine State Call Reply) (calls : List Call) (state : State) :
    machine.system.Steps state (machine.replay calls state).1 (machine.replay calls state).2 := by
  induction calls generalizing state with
  | nil => exact .done
  | cons call rest ih => exact .next rfl (ih _)

theorem replay_append (machine : Machine State Call Reply) (before after : List Call) (state : State) :
    machine.replay (before ++ after) state = ((machine.replay before state).1 ++
        (machine.replay after (machine.replay before state).2).1, (machine.replay after (machine.replay before state).2).2) := by
  induction before generalizing state with
  | nil => rfl
  | cons call rest ih => simp only [List.cons_append, replay, ih]

/-- The state in which some calls leave a service. -/
def finish (machine : Machine State Call Reply) (calls : List Call) : State := (machine.replay calls machine.initial).2

/-- Replaying calls from the initial state is a run. -/
theorem replay_run (machine : Machine State Call Reply) (calls : List Call) :
    machine.system.Run (machine.replay calls machine.initial).1
      (machine.replay calls machine.initial).2 :=
  ⟨machine.initial, rfl, machine.replay_steps calls machine.initial⟩

theorem finish_append (machine : Machine State Call Reply) (before after : List Call) :
    machine.finish (before ++ after) = (machine.replay after (machine.finish before)).2 := by
  rw [finish, replay_append]
  rfl

theorem finish_reached (machine : Machine State Call Reply) (calls : List Call) :
    ∃ labels, machine.system.Run labels (machine.finish calls) :=
  ⟨_, machine.replay_run calls⟩

/-- What a view of each step, with the state it starts from, sees along a list of labels. -/
def collect {α : Type*} (machine : Machine State Call Reply) (view : State → Call × Reply → List α) :
    List (Call × Reply) → State → List α
  | [], _ => []
  | entry :: rest, state => view state entry ++ machine.collect view rest (machine.perform entry.1 state).2

theorem collect_append {α : Type*} {view : State → Call × Reply → List α} {before after : List (Call × Reply)}
    {start middle : State} (steps : machine.system.Steps start before middle) :
    machine.collect view (before ++ after) start =
      machine.collect view before start ++ machine.collect view after middle := by
  induction steps with
  | done => rfl
  | @next start label next labels finish transition _ ih =>
    have performed : machine.perform label.1 start = (label.2, next) := transition
    rw [List.cons_append, collect, collect, performed, ih, List.append_assoc]

/-- What is seen along a run from the initial state. -/
def seen {α : Type*} (machine : Machine State Call Reply) (view : State → Call × Reply → List α)
    (labels : List (Call × Reply)) : List α :=
  machine.collect view labels machine.initial

/-- The last step of a run adds what is seen of it. -/
theorem seen_step {α : Type*} {view : State → Call × Reply → List α} {labels : List (Call × Reply)}
    {label : Call × Reply} {state : State} (run : machine.system.Run labels state) :
    machine.seen view (labels ++ [label]) = machine.seen view labels ++ view state label := by
  obtain ⟨start, rfl, steps⟩ := run
  rw [seen, seen, collect_append steps, collect, collect, List.append_nil]

/-- Every call of a list meets a condition where it is answered. -/
def meetsAll (machine : Machine State Call Reply) (meets : State → Call × Reply → Prop)
    [∀ state entry, Decidable (meets state entry)] : List Call → State → Bool
  | [], _ => true
  | call :: rest, state =>
      decide (meets state (call, (machine.perform call state).1)) &&
        machine.meetsAll meets rest (machine.perform call state).2

/-- Replaying calls that meet a condition is a run all of whose steps meet it. -/
theorem replay_restricted (machine : Machine State Call Reply) {meets : State → Call × Reply → Prop}
    [∀ state entry, Decidable (meets state entry)] {calls : List Call}
    (met : machine.meetsAll meets calls machine.initial = true) :
    (machine.system.restricted meets).Run (machine.replay calls machine.initial).1
      (machine.replay calls machine.initial).2 := by
  refine ⟨machine.initial, rfl, ?_⟩
  revert met
  generalize machine.initial = state
  intro met
  induction calls generalizing state with
  | nil => exact .done
  | cons call rest ih =>
    obtain ⟨here, later⟩ := Bool.and_eq_true_iff.mp met
    exact .next ⟨rfl, of_decide_eq_true here⟩ (ih _ later)

end Machine

/-- A service whose labels may be disabled: a disabled label makes no step. -/
structure GuardedMachine (State : Type u) (Label : Type v) where
  initial : State
  perform : Label → State → Option State

namespace GuardedMachine

variable {State : Type u} {Label : Type v}

def system (machine : GuardedMachine State Label) : TransitionSystem State Label where
  Initial state := state = machine.initial
  Step before label after := machine.perform label before = some after

/-- Take a list of labels in order, as long as each is enabled. -/
def replay (machine : GuardedMachine State Label) : List Label → State → Option State
  | [], state => some state
  | label :: rest, state => (machine.perform label state).bind (machine.replay rest)

theorem replay_steps (machine : GuardedMachine State Label) {labels : List Label}
    {start finish : State} (replayed : machine.replay labels start = some finish) :
    machine.system.Steps start labels finish := by
  induction labels generalizing start with
  | nil =>
    cases replayed
    exact .done
  | cons label rest ih =>
    obtain ⟨next, performed, others⟩ := Option.bind_eq_some_iff.mp replayed
    exact .next performed (ih others)

theorem replay_run (machine : GuardedMachine State Label) {labels : List Label} {finish : State}
    (replayed : machine.replay labels machine.initial = some finish) : machine.system.Run labels finish :=
  ⟨machine.initial, rfl, machine.replay_steps replayed⟩

/-- Disable the labels that do not meet a condition. -/
def guarded (machine : GuardedMachine State Label) (meets : State → Label → Prop)
    [∀ state label, Decidable (meets state label)] : GuardedMachine State Label where
  initial := machine.initial
  perform label state := if meets state label then machine.perform label state else none

theorem guarded_steps (machine : GuardedMachine State Label) [∀ state label, Decidable (meets state label)]
    {labels : List Label} {start finish : State} (steps : (machine.guarded meets).system.Steps start labels finish) :
    (machine.system.restricted meets).Steps start labels finish := by
  induction steps with
  | done => exact .done
  | next transition _ ih =>
    simp only [system, guarded] at transition
    split at transition
    · rename_i met
      exact .next ⟨transition, met⟩ ih
    · cases transition

/-- Replaying labels that meet a condition is a run all of whose steps meet it. -/
theorem replay_restricted (machine : GuardedMachine State Label)
    [∀ state label, Decidable (meets state label)] {labels : List Label} {finish : State}
    (replayed : (machine.guarded meets).replay labels machine.initial = some finish) :
    (machine.system.restricted meets).Run labels finish :=
  ⟨machine.initial, rfl, machine.guarded_steps (replay_steps _ replayed)⟩

end GuardedMachine

end QuarkSelfAI.Foundation

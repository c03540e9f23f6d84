import Mathlib.Logic.Function.Basic
import QuarkSelfAI.Workflow.Dispatch

/-!
# Interleaved passes

Any number of processes run the effect part of `runOnce` over one store, one
store call to a step. A dispatch returns the advance it made from some earlier
read of the instance, or throws: its own error, an exhausted retry or a failing
store. A process may stop anywhere, and other components create workflows and
dispatch events of their own in between. `runOnce_steps` says that a pass of the
runtime is such a sequence of steps.
-/

namespace QuarkSelfAI.Workflow

open Foundation Storage Storage.WorkflowStore

/-- How a caught pass ends: with a retry, or for good with its failure unreported or
reported. -/
inductive Ending where
  | deferred
  | unreported
  | reported
deriving DecidableEq

/-- Where the pass of a process stands. -/
inductive Phase where
  | idle
  | executing (effect : ClaimedEffect)
  | delivering (effect : ClaimedEffect) (output : JsValue)
  | settling (effect : ClaimedEffect) (deliveredAt : Timestamp)
  | failing (effect : ClaimedEffect) (message : String)
  | releasing (effect : ClaimedEffect) (message : String) (ending : Ending)

/-- The store and the passes under way. -/
structure World (Process State : Type) where
  store : Store State
  phase : Process → Phase

/-- What a process does next. A `dispatched` that returned names the read its
advance was computed from; a `fault` is an error the store throws. -/
inductive Action (State : Type) where
  | call (call : StoreCall State JsValue Timestamp)
  | claim (now : Timestamp)
  | execute (outcome : Except String JsValue)
  | deliver (dispatched : Except String (Instance State)) (clock : Timestamp)
  | settle (fault : Option String)
  | fail (dispatched : Except String (Instance State)) (clock : Timestamp)
  | release (now : Timestamp) (fault : Option String)
  | stop

/-- The calls of other components: effects are claimed, settled, released and
reported by passes alone. -/
def foreign {State : Type} : StoreCall State JsValue Timestamp → Bool
  | .createWorkflow _ _ => true
  | .advanceWorkflow input _ => ! startsWith input.event.id "effect:"
  | _ => false

namespace Runtime

variable {State : Type}

/-- The advance of a dispatch that returned, from the read it was computed from. -/
def advanceFrom (runtime : Runtime State) (read : Instance State) (instanceId : String)
    (event : Event) (clock : Timestamp) (store : Store State) : Option (Store State) :=
  if read.id = instanceId then
    match runtime.decide read event with
    | .error _ => none
    | .ok input =>
      match store.advanceWorkflow input clock with
      | (.ok _, store) => some store
      | (.error _, _) => none
  else none

/-- Enter the `catch` block. -/
def caught (runtime : Runtime State) (effect : ClaimedEffect) (thrown : String) : Phase :=
  if runtime.terminal effect then .failing effect (utf16Take 4096 thrown)
  else .releasing effect (utf16Take 4096 thrown) .deferred

/-- Where the `try` block leads. -/
def tried (runtime : Runtime State) (effect : ClaimedEffect) : Except String Unit → Phase
  | .ok () => .idle
  | .error thrown => runtime.caught effect thrown

def executed (runtime : Runtime State) (effect : ClaimedEffect) (outcome : Except String JsValue) : Phase :=
  match runtime.effectHandlers effect.kind with
  | none => .releasing effect s!"no handler registered for {effect.kind}" .deferred
  | some _ =>
    match outcome with
    | .error thrown => runtime.caught effect thrown
    | .ok output =>
      match checkOutput effect.kind output with
      | .error thrown => runtime.caught effect thrown
      | .ok output => .delivering effect output

/-- One step of a pass: the phase it leads to and the store it leaves. -/
def advancePass [DecidableEq State] (runtime : Runtime State) (phase : Phase) (action : Action State)
    (store : Store State) : Option (Phase × Store State) :=
  match action, phase with
  | .call call, phase =>
    if foreign call then some (phase, (WorkflowStore.perform runtime.collate call store).2) else none
  | .claim now, .idle =>
    match store.claimNextWorkflowEffect runtime.config.workerId now
        (now + (runtime.config.leaseMs.getD 120000 : Nat)) with
    | (.ok (some effect), store) => some (.executing effect, store)
    | (_, store) => some (.idle, store)
  | .execute outcome, .executing effect => some (runtime.executed effect outcome, store)
  | .deliver (.error thrown) _, .delivering effect _ => some (runtime.caught effect thrown, store)
  | .deliver (.ok read) clock, .delivering effect output => do
    let store ← runtime.advanceFrom read effect.instanceId (deliveredEvent effect output clock) clock
      store
    return (.settling effect clock, store)
  | .settle (some thrown), .settling effect _ => some (runtime.caught effect thrown, store)
  | .settle none, .settling effect deliveredAt =>
    match store.settleWorkflowEffect effect.id runtime.config.workerId deliveredAt with
    | (.ok (), store) => some (.idle, store)
    | (.error thrown, store) => some (runtime.caught effect thrown, store)
  | .fail (.error _) _, .failing effect message => some (.releasing effect message .unreported, store)
  | .fail (.ok read) clock, .failing effect message => do
    let store ← runtime.advanceFrom read effect.instanceId (failedEvent effect message clock) clock
      store
    return (.releasing effect message .reported, store)
  | .release _ (some _), .releasing _ _ _ => some (.idle, store)
  | .release now none, .releasing effect message ending =>
    some (.idle, (store.releaseWorkflowEffect effect.id runtime.config.workerId message
      (runtime.retryAt now) (ending ≠ .deferred)).2)
  | .stop, _ => some (.idle, store)
  | _, _ => none

end Runtime

/-! ## What a step can do -/

namespace Runtime

variable {State : Type}

/-- The outcomes of one step, with the rows it read. -/
inductive PassStep [DecidableEq State] (runtime : Runtime State) (store : Store State) :
    Phase → Action State → Phase → Store State → Prop where
  | called {phase call} (others : foreign call) :
      PassStep runtime store phase (.call call) phase
        (WorkflowStore.perform runtime.collate call store).2
  | idled {now} : PassStep runtime store .idle (.claim now) .idle store
  | claimed {now leaseExpiresAt row} (next : store.nextEffect now = some row) :
      PassStep runtime store .idle (.claim now) (.executing (claimedEffect row))
        { store with
          effects := store.effects.update row.id
            (dispatchingEffect runtime.config.workerId leaseExpiresAt) fun _ => rfl }
  | executed {effect outcome} :
      PassStep runtime store (.executing effect) (.execute outcome) (runtime.executed effect outcome)
        store
  | undelivered {effect output thrown clock} :
      PassStep runtime store (.delivering effect output) (.deliver (.error thrown) clock)
        (runtime.caught effect thrown) store
  | delivered {effect output read clock next}
      (advanced : runtime.advanceFrom read effect.instanceId (deliveredEvent effect output clock) clock
        store = some next) :
      PassStep runtime store (.delivering effect output) (.deliver (.ok read) clock)
        (.settling effect clock) next
  | unsettled {effect deliveredAt fault thrown}
      (refused : fault = none → store.ownedEffect effect.id runtime.config.workerId = none) :
      PassStep runtime store (.settling effect deliveredAt) (.settle fault)
        (runtime.caught effect thrown) store
  | settled {effect deliveredAt row}
      (owned : store.ownedEffect effect.id runtime.config.workerId = some row) :
      PassStep runtime store (.settling effect deliveredAt) (.settle none) .idle
        { store with
          effects := store.effects.update effect.id (settledEffect deliveredAt) fun _ => rfl }
  | unfailed {effect message thrown clock} :
      PassStep runtime store (.failing effect message) (.fail (.error thrown) clock)
        (.releasing effect message .unreported) store
  | failed {effect message read clock next}
      (advanced : runtime.advanceFrom read effect.instanceId (failedEvent effect message clock) clock
        store = some next) :
      PassStep runtime store (.failing effect message) (.fail (.ok read) clock)
        (.releasing effect message .reported) next
  | unreleased {effect message ending now fault}
      (refused : fault = none → store.ownedEffect effect.id runtime.config.workerId = none) :
      PassStep runtime store (.releasing effect message ending) (.release now fault) .idle store
  | released {effect message ending now availableAt row}
      (owned : store.ownedEffect effect.id runtime.config.workerId = some row) :
      PassStep runtime store (.releasing effect message ending) (.release now none) .idle
        { store with
          effects := store.effects.update effect.id
            (releasedEffect message availableAt (ending ≠ .deferred)) fun _ => rfl }
  | stopped {phase} : PassStep runtime store phase .stop .idle store

theorem advancePass_step [DecidableEq State] {runtime : Runtime State} {phase next : Phase} {action : Action State}
    {store after : Store State} (advanced : runtime.advancePass phase action store = some (next, after)) :
    PassStep runtime store phase action next after := by
  unfold advancePass at advanced
  split at advanced
  · split at advanced
    · rename_i others
      cases advanced
      exact .called others
    · cases advanced
  · rename_i now
    unfold claimNextWorkflowEffect at advanced
    cases found : store.nextEffect now with
    | none =>
      simp only [found] at advanced
      cases advanced
      exact .idled
    | some row =>
      simp only [found] at advanced
      cases advanced
      exact .claimed found
  · cases advanced
    exact .executed
  · cases advanced
    exact .undelivered
  · obtain ⟨left, moved, made⟩ := Option.bind_eq_some_iff.mp advanced
    cases made
    exact .delivered moved
  · cases advanced
    exact .unsettled fun absent => by cases absent
  · unfold settleWorkflowEffect at advanced
    split at advanced
    · rename_i settled
      split at settled
      · cases settled
      · rename_i owned
        cases settled
        cases advanced
        exact .settled owned
    · rename_i settled
      split at settled
      · rename_i refused
        cases settled
        cases advanced
        exact .unsettled fun _ => refused
      · cases settled
  · cases advanced
    exact .unfailed
  · obtain ⟨left, moved, made⟩ := Option.bind_eq_some_iff.mp advanced
    cases made
    exact .failed moved
  · cases advanced
    exact .unreleased fun absent => by cases absent
  · unfold releaseWorkflowEffect at advanced
    split at advanced
    · rename_i refused
      cases advanced
      exact .unreleased fun _ => refused
    · rename_i owned
      cases advanced
      exact .released owned
  · cases advanced
    exact .stopped
  · cases advanced

end Runtime

/-! ## Passes of several processes -/

variable {Process State : Type} [DecidableEq Process] [DecidableEq State]

/-- Every process with its own runtime: worker id, limits, definitions and handlers. -/
def passes (runtimes : Process → Runtime State) : GuardedMachine (World Process State) (Process × Action State) where
  initial := { store := .empty, phase := fun _ => .idle }
  perform label world := do
    let (phase, store) ← (runtimes label.1).advancePass (world.phase label.1) label.2 world.store
    return { store, phase := Function.update world.phase label.1 phase }

end QuarkSelfAI.Workflow

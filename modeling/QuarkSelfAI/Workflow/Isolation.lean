import QuarkSelfAI.Workflow.Dispatch

/-!
# A pass with a poisoned timer

The timer loop dispatches the due instances in order and ends at the first
dispatch that throws. What the pass still does for the other instances is then
decided by what they needed when it began.
-/

namespace QuarkSelfAI.Workflow.Runtime

open Foundation Storage Storage.WorkflowStore

variable {State : Type} {runtime : Runtime State} {now clock : Timestamp} {store middle : Store State}
  {current : Instance State} {earlier later : List (Instance State)} {batch : List (Instance State)}

/-! ## The batch -/

theorem due_wakes (isDue : due now current) : ∃ scheduledAt, current.wakeAt = some scheduledAt ∧ scheduledAt ≤ now := by
  have reached : wakeReached now current.wakeAt := (of_decide_eq_true isDue).2
  cases wakes : current.wakeAt with
  | none =>
    rw [wakes] at reached
    cases reached
  | some scheduledAt =>
    rw [wakes] at reached
    exact ⟨scheduledAt, rfl, of_decide_eq_true reached⟩

theorem dueWorkflows_spec {limit : Nat} (listed : current ∈ store.dueWorkflows now limit) :
    store.workflow current.id = some current ∧ due now current := by
  have sorted := List.mem_of_mem_take listed
  obtain ⟨stored, isDue⟩ := List.mem_filter.mp ((List.mem_insertionSort _).mp sorted)
  exact ⟨Table.find?_self stored, isDue⟩

theorem dueWorkflows_nodup {limit : Nat} : ((store.dueWorkflows now limit).map (·.id)).Nodup := by
  have chosen : ((store.instances.rows.filter (due now)).map (·.id)).Nodup :=
    (List.filter_sublist.map _).nodup store.instances.unique
  have sorted := ((List.perm_insertionSort (fun left right => wakesBefore left right)
    (store.instances.rows.filter (due now))).map (·.id)).nodup_iff.mpr chosen
  exact ((List.take_sublist _ _).map _).nodup sorted

/-! ## The timer loop -/

/-- The timer of an instance, as the loop dispatches it. -/
def isTimerOf (now : Timestamp) (current : Instance State) (eventId : String) : Prop :=
  ∃ scheduledAt, current.wakeAt = some scheduledAt ∧ eventId = (timerEvent scheduledAt now).id

/-- A loop that ends has recorded the timers of its instances and nothing else. -/
theorem recorded_runTimers (done : runtime.runTimers now clock batch store = (.ok (), middle)) (id eventId : String) :
    recorded middle id eventId ↔ recorded store id eventId ∨
      ∃ current ∈ batch, current.id = id ∧ isTimerOf now current eventId := by
  induction batch generalizing store with
  | nil =>
    cases done
    simp
  | cons current rest ih =>
    rw [runTimers] at done
    split at done
    · rename_i asleep
      rw [ih done]
      simp [isTimerOf, asleep]
    · rename_i scheduledAt wakes
      split at done
      · rename_i row next dispatched
        rw [ih done, recorded_dispatched dispatched]
        have own : isTimerOf now current eventId ↔ eventId = (timerEvent scheduledAt now).id := by
          simp [isTimerOf, wakes]
        simp only [List.mem_cons, exists_eq_or_imp, own, Bool.or_eq_true, decide_eq_true_eq]
        rw [or_assoc, @eq_comm _ id]
      · cases done

/-- A loop leaves alone the instances that are not in its batch. -/
theorem workflow_runTimers (done : runtime.runTimers now clock batch store = (.ok (), middle)) {id : String}
    (foreign : ∀ current ∈ batch, current.id ≠ id) : middle.workflow id = store.workflow id := by
  induction batch generalizing store with
  | nil =>
    cases done
    rfl
  | cons current rest ih =>
    obtain ⟨other, others⟩ := List.forall_mem_cons.mp foreign
    rw [runTimers] at done
    split at done
    · exact ih done others
    · split at done
      · rename_i row next dispatched
        rw [ih done others, workflow_dispatched dispatched other]
      · cases done

/-- A loop that ends has ended with the dispatch of its last instance. -/
theorem runTimers_last {scheduledAt : Timestamp} {after : Store State} (wakes : current.wakeAt = some scheduledAt)
    (ran : runtime.runTimers now clock (earlier ++ [current]) store = (.ok (), after)) :
    ∃ middle row, runtime.runTimers now clock earlier store = (.ok (), middle) ∧
      runtime.dispatch current.id (timerEvent scheduledAt now) clock middle = (.ok row, after) := by
  induction earlier generalizing store with
  | nil =>
    rw [List.nil_append, runTimers, wakes] at ran
    dsimp only at ran
    split at ran
    · rename_i row next dispatched
      cases ran
      exact ⟨store, row, rfl, dispatched⟩
    · cases ran
  | cons first earlier ih =>
    rw [List.cons_append, runTimers] at ran
    cases awake : first.wakeAt with
    | none =>
      rw [awake] at ran
      obtain ⟨middle, row, before, dispatched⟩ := ih ran
      exact ⟨middle, row, by rw [runTimers, awake]; exact before, dispatched⟩
    | some other =>
      rw [awake] at ran
      dsimp only at ran
      split at ran
      · rename_i firstRow next made
        obtain ⟨middle, row, before, dispatched⟩ := ih ran
        exact ⟨middle, row, by rw [runTimers, awake]; simp only [made, before], dispatched⟩
      · cases ran

/-- Where in its batch a loop threw. -/
structure Poisoned (runtime : Runtime State) (now clock : Timestamp) (store middle : Store State)
    (earlier : List (Instance State)) (poisoned : Instance State) (later : List (Instance State)) :
    Prop where
  batch : store.dueWorkflows now (runtime.config.batchSize.getD 20) = earlier ++ poisoned :: later
  ran : runtime.runTimers now clock earlier store = (.ok (), middle)
  threw : ∃ scheduledAt message, poisoned.wakeAt = some scheduledAt ∧
    runtime.dispatch poisoned.id (timerEvent scheduledAt now) clock middle = (.error message, middle)

theorem Poisoned.runTimers {poisoned : Instance State}
    (stall : Poisoned runtime now clock store middle earlier poisoned later) : ∃ message,
    runtime.runTimers now clock (earlier ++ poisoned :: later) store = (.error message, middle) := by
  obtain ⟨scheduledAt, message, wakes, threw⟩ := stall.threw
  have ran := stall.ran
  refine ⟨message, ?_⟩
  clear stall
  induction earlier generalizing store with
  | nil =>
    cases ran
    simp only [List.nil_append, Runtime.runTimers, wakes, threw]
  | cons current earlier ih =>
    rw [Runtime.runTimers] at ran
    cases awake : current.wakeAt with
    | none =>
      rw [awake] at ran
      rw [List.cons_append, Runtime.runTimers, awake]
      exact ih ran
    | some other =>
      rw [awake] at ran
      rw [List.cons_append, Runtime.runTimers, awake]
      rcases dispatched : runtime.dispatch current.id (timerEvent other now) clock store with
        ⟨_ | _, next⟩
      · simp only [dispatched] at ran
        cases ran
      · simp only [dispatched] at ran ⊢
        exact ih ran

/-- The pass ends where the loop threw: nothing is claimed. -/
theorem Poisoned.runOnce {poisoned : Instance State}
    (stall : Poisoned runtime now clock store middle earlier poisoned later) : ∃ message,
    runtime.runOnce false now clock store = { outcome := .error message, store := middle, claimed := none } := by
  obtain ⟨message, threw⟩ := stall.runTimers
  refine ⟨message, ?_⟩
  simp [Runtime.runOnce, stall.batch, threw]

/-! ## What the other instances get -/

/-- A pending effect of another instance that the pass could claim. -/
def effectWaits (store : Store State) (now : Timestamp) (poisoned : Instance State) : Prop :=
  ∃ effect ∈ store.effects, effect.instanceId ≠ poisoned.id ∧ effect.status = .pending ∧ effect.availableAt ≤ now

/-- A pass that keeps a failing timer from the other instances: each of them in
the batch has its timer event, and a waiting effect is claimed. -/
structure Isolated (store : Store State) (now : Timestamp) (batch : List (Instance State))
    (poisoned : Instance State) (pass : Pass State) : Prop where
  timers : ∀ other ∈ batch, other.id ≠ poisoned.id → ∀ scheduledAt, other.wakeAt = some scheduledAt →
    recorded pass.store other.id (timerEvent scheduledAt now).id
  effects : effectWaits store now poisoned → pass.claimed.isSome

/-- Nothing was left to do for the other instances: those behind the poisoned one
had their timer events before the pass, and no effect of theirs was waiting. -/
structure NothingElseToDo (store : Store State) (now : Timestamp) (poisoned : Instance State)
    (later : List (Instance State)) : Prop where
  timers : ∀ other ∈ later, ∀ scheduledAt, other.wakeAt = some scheduledAt →
    recorded store other.id (timerEvent scheduledAt now).id
  effects : ¬ effectWaits store now poisoned

structure CounterState where
  count : Nat
  delivered : JsValue
deriving DecidableEq

/-- The counter of the runtime's tests. -/
def counter : WorkflowDefinition CounterState where
  kind := "counter"
  version := 1
  initialise _ now := .ok
    { status := .waiting, state := ⟨0, .undefined⟩, wakeAt := some (some now)
      effects := [⟨"started", "record", .object [("phase", "started")], some now⟩] }
  reduce state event :=
    if event.type = "timer" then .ok (.keep .waiting { state with count := state.count + 1 })
    else if event.type = "effect.delivered" then
      .ok (.keep .completed { state with delivered := event.payload.get "effectId" })
    else .error s!"Expected values to be strictly equal:\n\n'{event.type}' !== 'effect.delivered'\n"
  members state := if state.delivered = .undefined then [] else [("delivered", state.delivered)]

def counterRuntime : Runtime CounterState where
  config := ⟨"workflow-worker", none, none, none, none⟩
  definitions kind := if kind = "counter" then some counter else none
  effectHandlers kind := if kind = "record" then some fun _ store => (.ok .undefined, store) else none
  collate left right := left ≤ right

def retiredRow : Instance CounterState := ⟨"retired-1", "retired", 1, .waiting, ⟨0, .undefined⟩, 0, some 0⟩

def counterRow : Instance CounterState := ⟨"counter-1", "counter", 1, .waiting, ⟨0, .undefined⟩, 0, some 1000⟩

/-- A retired instance wakes first; a counter is due behind it and its effect waits. -/
def stalled : Store CounterState :=
  ((machine CounterState JsValue Timestamp counterRuntime.collate).replay
    [.createWorkflow ⟨"retired-1", "retired", 1, .waiting, ⟨0, .undefined⟩, some 0, []⟩ 0,
      .createWorkflow ⟨"counter-1", "counter", 1, .waiting, ⟨0, .undefined⟩, some 1000,
        [⟨"started", "record", .object [("phase", "started")], some 1000⟩]⟩ 1000] empty).2

theorem stalled_poisoned : Poisoned counterRuntime 2000 2000 stalled stalled [] retiredRow [counterRow] where
  batch := by decide
  ran := rfl
  threw := ⟨0, "workflow definition retired is not registered", rfl, by rfl⟩

end QuarkSelfAI.Workflow.Runtime

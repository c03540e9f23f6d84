import QuarkSelfAI.Workflow.Folding

/-!
# The stores a runtime leaves

`serving` is what a runtime does to its store, one request to a step: it creates
instances, dispatches events, and moves effects about. `stored_run` connects a store
to the definitions: every stored instance is the end of a run of its definition, over
the events that are recorded for it.
-/

namespace QuarkSelfAI.Workflow

open Foundation Storage Storage.WorkflowStore

variable {State : Type} {reply : Except String (Instance State)} {now clock : Timestamp} {input : JsValue}

/-! ## One instance -/

/-- What is known of an instance: its row, and which events were recorded for it. -/
structure Standing (State : Type) where
  status : WorkflowStatus
  state : State
  wakeAt : Option Timestamp
  recorded : String → Bool

def Progress.standing (progress : Progress State) : Standing State :=
  { status := progress.status, state := progress.state, wakeAt := progress.wakeAt
    recorded := fun eventId => decide (eventId ∈ progress.eventIds) }

/-- The standing of a stored instance. -/
def standing (store : Store State) (row : Instance State) : Standing State :=
  { status := row.status, state := row.state, wakeAt := row.wakeAt
    recorded := Runtime.recorded store row.id }

theorem standing_congr {before after : Store State} {row : Instance State}
    (same : ∀ eventId, Runtime.recorded after row.id eventId = Runtime.recorded before row.id eventId) :
    standing after row = standing before row := by
  have recorded : Runtime.recorded after row.id = Runtime.recorded before row.id := funext same
  rw [standing, standing, recorded]

/-! ## Requests -/

inductive Request where
  | start (id kind : String) (input : JsValue) (now clock : Timestamp)
  | dispatch (instanceId : String) (event : Event) (clock : Timestamp)
  | effects

/-- What a request does to the store, whatever it answers. -/
inductive Served [DecidableEq State] (runtime : Runtime State) (before : Store State) :
    Request → Store State → Prop where
  | started {id kind input now clock reply after}
      (done : runtime.start id kind input now clock before = (reply, after)) :
      Served runtime before (.start id kind input now clock) after
  | dispatched {instanceId event clock reply after}
      (done : runtime.dispatch instanceId event clock before = (reply, after)) :
      Served runtime before (.dispatch instanceId event clock) after
  | effects (effects) : Served runtime before .effects { before with effects }

def serving [DecidableEq State] (runtime : Runtime State) : TransitionSystem (Store State) Request where
  Initial store := store = .empty
  Step := Served runtime

/-- The store after a request, when no effect is moved. -/
def Runtime.serve [DecidableEq State] (runtime : Runtime State) (store : Store State) : Request → Store State
  | .start id kind input now clock => (runtime.start id kind input now clock store).2
  | .dispatch instanceId event clock => (runtime.dispatch instanceId event clock store).2
  | .effects => store

theorem serve_served [DecidableEq State] (runtime : Runtime State) (store : Store State) (request : Request) :
    Served runtime store request (runtime.serve store request) := by
  cases request with
  | start id kind input now clock => exact @Served.started _ _ _ _ _ _ _ _ _ _ _ rfl
  | dispatch instanceId event clock => exact @Served.dispatched _ _ _ _ _ _ _ _ _ rfl
  | effects => exact .effects store.effects

theorem serve_run [DecidableEq State] (runtime : Runtime State) (requests : List Request) :
    (serving runtime).Run requests (requests.foldl runtime.serve .empty) := by
  refine ⟨.empty, rfl, ?_⟩
  generalize (WorkflowStore.empty : Store State) = store
  induction requests generalizing store with
  | nil => exact .done
  | cons request rest ih => exact .next (serve_served runtime store request) (ih _)

/-- A new event for an instance of a definition is one the runtime can give, and meets a condition. -/
def meetsAt (definition : WorkflowDefinition State) (meets : Standing State → Event → Prop)
    (store : Store State) : Request → Prop
  | .dispatch instanceId event _ => ∀ row, store.workflow instanceId = some row →
      row.kind = definition.kind → Runtime.recorded store instanceId event.id = false →
        Produced event ∧ meets (standing store row) event
  | _ => True

/-- The registry keeps every definition under its kind. -/
def Runtime.Keyed (runtime : Runtime State) : Prop :=
  ∀ kind definition, runtime.definitions kind = some definition → definition.kind = kind

/-- What a start did to the store it found. -/
inductive Started (runtime : Runtime State) (id kind : String) (store : Store State) : Store State → Prop where
  | kept : Started runtime id kind store store
  | created {definition input now decision instances effects}
      (registered : runtime.definitions kind = some definition)
      (begun : definition.initialise input now = .ok decision) (valid : decision.Valid definition.members)
      (instanced : store.instances.insert? (createdRow (Runtime.createInput id definition decision)) =
        some instances) : Started runtime id kind store { store with instances, effects }

theorem start_spec [DecidableEq State] {runtime : Runtime State} {id kind : String} {before after : Store State}
    (done : runtime.start id kind input now clock before = (reply, after)) :
    Started runtime id kind before after := by
  unfold Runtime.start at done
  dsimp only at done
  split at done
  · cases done
    exact .kept
  · rename_i created decided
    obtain ⟨definition, registered, decided⟩ := bind_ok.mp decided
    obtain ⟨decision, begun, decided⟩ := bind_ok.mp decided
    obtain ⟨checked, validated, made⟩ := bind_ok.mp decided
    cases made
    obtain ⟨rfl, valid⟩ := WorkflowDecision.validateDecision_ok_iff.mp validated
    unfold Runtime.definition at registered
    split at registered
    · cases registered
    rename_i found
    cases registered
    split at done
    · rename_i inserted current store stored
      cases done
      cases createBody_outcome (transaction_ok.mp stored) with
      | recreated => exact .kept
      | created instanced => exact .created found begun valid instanced
    · rename_i message store stored
      cases done
      obtain ⟨_, rfl⟩ := transaction_error.mp stored
      exact .kept

/-- What `ensure` answered, and what it did to the store it found. -/
inductive Ensured (runtime : Runtime State) (id kind : String) (input : JsValue) (now clock : Timestamp)
    (store : Store State) : Except String (Instance State) → Store State → Prop where
  | threw (message : String) : Ensured runtime id kind input now clock store (.error message) store
  | found {row} (stored : store.workflow id = some row) :
      Ensured runtime id kind input now clock store (.ok row) store
  | created {definition decision instances effects} (registered : runtime.definitions kind = some definition)
      (begun : definition.initialise input now = .ok decision)
      (instanced : store.instances.insert? (createdRow (Runtime.createInput id definition decision)) = some instances)
      (requested : insertWorkflowEffects id clock decision.effects store.effects = .ok effects) :
      Ensured runtime id kind input now clock store
        (.ok (createdRow (Runtime.createInput id definition decision))) { store with instances, effects }

theorem ensure_spec [DecidableEq State] {runtime : Runtime State} {id kind : String} {before after : Store State}
    (done : runtime.ensure id kind input now clock before = (reply, after)) :
    Ensured runtime id kind input now clock before reply after := by
  unfold Runtime.ensure at done
  split at done
  · rename_i absent
    unfold Runtime.start at done
    dsimp only at done
    split at done
    · cases done
      exact .threw _
    · rename_i created decided
      obtain ⟨definition, registered, decided⟩ := bind_ok.mp decided
      obtain ⟨decision, begun, decided⟩ := bind_ok.mp decided
      obtain ⟨checked, validated, made⟩ := bind_ok.mp decided
      cases made
      obtain ⟨rfl, -⟩ := WorkflowDecision.validateDecision_ok_iff.mp validated
      unfold Runtime.definition at registered
      split at registered
      · cases registered
      rename_i known
      cases registered
      split at done
      · rename_i inserted current store stored
        cases done
        cases createBody_outcome (transaction_ok.mp stored) with
        | recreated found =>
          rw [WorkflowStore.workflow] at absent
          cases absent.symm.trans found
        | created instanced requested => exact .created known begun instanced requested
      · rename_i message store stored
        cases done
        obtain ⟨_, rfl⟩ := transaction_error.mp stored
        exact .threw _
  · rename_i existing found
    split at done
    · cases done
      exact .threw _
    · split at done
      · cases done
        exact .threw _
      · cases done
        exact .found found

/-! ## Stored instances are runs -/

/-- The runs of a definition whose events meet a condition. -/
abbrev meeting (definition : WorkflowDefinition State) (meets : Standing State → Event → Prop) :
    TransitionSystem (Progress State) Event :=
  (folding definition).restricted fun progress event => meets progress.standing event

/-- A stored instance of a definition is the end of one of its runs. -/
def IsRun (definition : WorkflowDefinition State) (meets : Standing State → Event → Prop)
    (store : Store State) (row : Instance State) : Prop :=
  row.kind = definition.kind → row.definitionVersion = definition.version ∧
    ∃ events progress, (meeting definition meets).Run events progress ∧ standing store row = progress.standing

/-- Nothing is recorded for an instance that does not exist, and every other is a run. -/
structure Accounted (definition : WorkflowDefinition State) (meets : Standing State → Event → Prop)
    (store : Store State) (id : String) : Prop where
  absent : store.workflow id = none → ∀ eventId, Runtime.recorded store id eventId = false
  present : ∀ row, store.workflow id = some row → IsRun definition meets store row

section

variable {definition : WorkflowDefinition State} {meets : Standing State → Event → Prop}
  {runtime : Runtime State} {before after : Store State} {id : String}

/-- What a request leaves alone stays accounted for. -/
theorem Accounted.same (here : Accounted definition meets before id) (stored : after.workflow id = before.workflow id)
    (recorded : ∀ eventId, Runtime.recorded after id eventId = Runtime.recorded before id eventId) :
    Accounted definition meets after id := by
  refine ⟨?_, ?_⟩
  · intro gone eventId
    rw [recorded, here.absent (stored.symm.trans gone)]
  · intro row found kind
    have own : row.id = id := Table.find?_key found
    have alike : standing after row = standing before row := standing_congr fun eventId => by rw [own, recorded]
    rw [alike]
    exact here.present row (stored.symm.trans found) kind

/-- A created instance begins a run. -/
theorem Accounted.created [DecidableEq State] (keyed : runtime.Keyed)
    (installed : runtime.definitions definition.kind = some definition) (here : Accounted definition meets before id)
    {ident kind : String} (done : runtime.start ident kind input now clock before = (reply, after)) :
    Accounted definition meets after id := by
  cases start_spec done with
  | kept => exact here
  | @created source input now decision instances effects registered begun valid instanced =>
    have stored : ∀ other, (instances.find? other) =
        if other = ident then some (createdRow (Runtime.createInput ident source decision))
        else before.instances.find? other := Table.find?_inserted instanced
    by_cases new : id = ident
    · subst new
      have absent : before.workflow id = none := Table.find?_fresh instanced
      have unrecorded := here.absent absent
      refine ⟨fun gone => ?_, fun row found kind => ?_⟩
      · rw [WorkflowStore.workflow, stored, if_pos rfl] at gone
        cases gone
      · rw [WorkflowStore.workflow, stored, if_pos rfl] at found
        cases found
        have same : source = definition := by
          have known := installed
          rw [← kind] at known
          have own : source.kind = _ := keyed _ _ registered
          rw [show (createdRow (Runtime.createInput id source decision)).kind = source.kind from rfl, own,
            registered] at known
          exact Option.some_inj.mp known
        subst same
        refine ⟨rfl, [], .began decision, ⟨_, ⟨_, _, _, begun, rfl⟩, .done⟩, ?_⟩
        have none : Runtime.recorded { before with instances, effects } id = fun _ => false := funext unrecorded
        simp [standing, Progress.standing, createdRow, Runtime.createInput, none, Progress.began, Progress.eventIds]
    · refine here.same ?_ fun _ => rfl
      rw [WorkflowStore.workflow, stored, if_neg new]
      rfl

/-- The next event of an instance, seen from its row and from its run. -/
theorem standing_next {row next : Instance State} {progress : Progress State} {event : Event}
    {decision : WorkflowDecision State} (alike : standing before row = progress.standing)
    (made : next = advancedRow (Runtime.advanceInput row event decision) row)
    (recorded : ∀ eventId, Runtime.recorded after row.id eventId =
      (Runtime.recorded before row.id eventId || decide (eventId = event.id))) :
    standing after next = (progress.next event decision).standing := by
  subst made
  have wakeAt : row.wakeAt = progress.wakeAt := congrArg Standing.wakeAt alike
  have before : Runtime.recorded before row.id = fun eventId => decide (eventId ∈ progress.eventIds) :=
    congrArg Standing.recorded alike
  have after : Runtime.recorded after row.id =
      fun eventId => decide (eventId ∈ (progress.next event decision).eventIds) := by
    have listed : (progress.next event decision).eventIds = progress.eventIds ++ [event.id] := by
      simp [Progress.eventIds, Progress.next]
    funext eventId
    rw [recorded, before, listed, Bool.eq_iff_iff]
    simp
  simp [standing, Progress.standing, after, Progress.next, wakeAt, Runtime.advanceInput, advancedRow]

/-- An applied event is the next one of the run. -/
theorem Accounted.advanced (installed : runtime.definitions definition.kind = some definition)
    (here : Accounted definition meets before id) {instanceId : String} {event : Event}
    (met : meetsAt definition meets before (.dispatch instanceId event clock))
    (done : runtime.dispatch instanceId event clock before = (reply, after)) : Accounted definition meets after id := by
  have spec := Runtime.dispatch_spec done
  cases spec with
  | threw | repeated => exact here
  | @advanced current input next found decided unrecorded applied =>
    obtain ⟨source, decision, registered, version, reduced, valid, rfl⟩ := Runtime.decide_ok_iff.mp decided
    have named : current.id = instanceId := Table.find?_key found
    have recorded := Runtime.recorded_advanced applied
    have stored : ∀ id, after.workflow id = if id = instanceId then
        some (advancedRow (Runtime.advanceInput current event decision) current) else before.workflow id := by
      intro id
      rw [Runtime.workflow_advanced applied, Runtime.advanceInput, named]
    by_cases own : id = instanceId
    · subst own
      refine ⟨fun gone => ?_, fun row answered kind => ?_⟩
      · rw [stored, if_pos rfl] at gone
        cases gone
      · rw [stored, if_pos rfl] at answered
        cases answered
        have known := here.present current found kind
        obtain ⟨-, events, progress, run, alike⟩ := known
        have same : source = definition := by
          rw [show current.kind = definition.kind from kind, installed] at registered
          exact (Option.some_inj.mp registered).symm
        subst same
        refine ⟨version.symm, events ++ [event], progress.next event decision, run.step ?_, ?_⟩
        · have unlisted : Runtime.recorded before id event.id = false := by
            rw [Runtime.recorded, unrecorded]
            rfl
          obtain ⟨produced, met⟩ := met current found kind unlisted
          have fresh : event.id ∉ progress.eventIds := by
            have told : Runtime.recorded before current.id event.id = decide (event.id ∈ progress.eventIds) :=
              congrFun (congrArg Standing.recorded alike) event.id
            rw [named, unlisted] at told
            exact of_decide_eq_false told.symm
          have state : current.state = progress.state := congrArg Standing.state alike
          rw [alike] at met
          exact ⟨⟨produced, fresh, decision, state ▸ reduced, rfl⟩, met⟩
        · refine standing_next alike rfl fun eventId => ?_
          rw [recorded]
          simp [Runtime.advanceInput]
    · refine here.same ?_ fun eventId => ?_
      · rw [stored, if_neg own]
      · rw [recorded]
        simp [Runtime.advanceInput, named, own]

/-- Every stored instance of a definition is the end of one of its runs. -/
theorem stored_run [DecidableEq State] (keyed : runtime.Keyed)
    (installed : runtime.definitions definition.kind = some definition) {requests : List Request}
    {store : Store State} (run : ((serving runtime).restricted (meetsAt definition meets)).Run requests store)
    {row : Instance State} (stored : store.workflow id = some row) : IsRun definition meets store row := by
  have accounted : ∀ id, Accounted definition meets store id := by
    refine run.history (motive := fun _ store => ∀ id, Accounted definition meets store id) ?_ ?_
    · rintro store rfl id
      exact ⟨fun _ _ => rfl, fun row stored => by cases stored⟩
    · rintro requests request before after - here ⟨served, met⟩ id
      cases served with
      | started done => exact (here id).created keyed installed done
      | dispatched done => exact (here id).advanced installed met done
      | effects => exact (here id).same rfl fun _ => rfl
  exact (accounted id).present row stored

end

end QuarkSelfAI.Workflow

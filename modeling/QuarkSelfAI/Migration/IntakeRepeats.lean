import QuarkSelfAI.Migration.MessageIntakeHandoff

/-!
# Handing over, and handing over again

An application of a handoff carries out one plan: the events, the workflows, the checkpoint. Each write that was
made is absorbed when it is made again, so an application after any number of interrupted ones ends where one
undisturbed application ends. What the plan hands over is complete when entries that share an id are the same.
-/

namespace QuarkSelfAI.Migration

open Foundation Storage Workflow

/-! ## The plan of an application -/

inductive HandoffWrite where
  | event (event : HandoffEvent)
  | workflow (input : PendingWorkflow)
  | checkpoint (value : JsValue)

def make (collate : String → String → Bool) : HandoffWrite → IntakeTarget → Except String IntakeTarget
  | .event event, target => silently appendTo event target
  | .workflow input, target => silently (createIn collate) input target
  | .checkpoint value, target =>
    match target.checkpoint with
    | none => writeCheckpoint value target
    | some existing =>
      if canonical existing = canonical value then .ok target
      else .error "native message intake checkpoint already has different content"

def handoffPlan (handoff : MessageIntakeHandoff) : List HandoffWrite :=
  handoff.pendingEvents.map .event ++
    (handoff.pendingWorkflows.map .workflow ++ [.checkpoint (handoffCheckpoint handoff)])

variable {collate : String → String → Bool} {handoff : MessageIntakeHandoff} {target next finish : IntakeTarget}
  {event : HandoffEvent} {input : PendingWorkflow} {inserted : Bool}
  {instances : Table (@WorkflowInstance.id JsValue Timestamp)}
  {effects : Table (@WorkflowEffectRow.id JsValue Timestamp)}

/-! ## What a write does -/

/-- The row that an event is stored as. -/
def eventRowOf (event : HandoffEvent) : AssistantEvent JsValue Timestamp := ⟨handoffEventId event, event, 0⟩

theorem appendTo_ok (applied : appendTo event target = .ok (inserted, next)) : (inserted = false ∧ next = target ∧
      ∃ row ∈ target.events.events, row.event.deduplicationKey = event.deduplicationKey) ∨
    (inserted = true ∧ (∀ row ∈ target.events.events, row.event.deduplicationKey ≠ event.deduplicationKey) ∧
      ∃ events, target.events.events.insert? (eventRowOf event) = some events ∧
        next = { target with events := { target.events with events } }) := by
  unfold appendTo EventStore.appendEvent at applied
  cases found : target.events.events.rows.find? fun row => row.event.deduplicationKey = event.deduplicationKey with
  | some existing =>
    rw [found] at applied
    cases applied
    exact .inl ⟨rfl, rfl, existing, List.mem_of_find?_eq_some found, by simpa using List.find?_some found⟩
  | none =>
    rw [found] at applied
    cases outcome : target.events.events.insertOrThrow (eventRowOf event) "assistant_event.id" with
    | error message =>
      simp only [eventRowOf] at outcome
      simp only [outcome] at applied
      cases applied
    | ok events =>
      have there := Table.insertOrThrow_ok.mp outcome
      simp only [eventRowOf] at outcome
      simp only [outcome] at applied
      cases applied
      refine .inr ⟨rfl, fun row listed => ?_, events, there, rfl⟩
      simpa using List.find?_eq_none.mp found row listed

theorem appendTo_existing {row : AssistantEvent JsValue Timestamp} (listed : row ∈ target.events.events)
    (same : row.event.deduplicationKey = event.deduplicationKey) : appendTo event target = .ok (false, target) := by
  obtain ⟨existing, found⟩ : ∃ existing, target.events.events.rows.find?
      (fun row => row.event.deduplicationKey = event.deduplicationKey) = some existing := by
    rw [← Option.isSome_iff_exists, List.find?_isSome]
    exact ⟨row, listed, by simpa using same⟩
  simp only [appendTo, EventStore.appendEvent, found]

theorem appendTo_fresh (unlisted : ∀ row ∈ target.events.events, row.event.deduplicationKey ≠ event.deduplicationKey)
    (unnamed : ∀ row ∈ target.events.events, row.id ≠ handoffEventId event) :
    ∃ next, appendTo event target = .ok (true, next) := by
  have missing : target.events.events.rows.find? (fun row => row.event.deduplicationKey = event.deduplicationKey) = none := by
    rw [List.find?_eq_none]
    intro row listed
    simpa using unlisted row listed
  have absent : target.events.events.find? (eventRowOf event).id = none := Table.find?_eq_none_iff.mpr unnamed
  obtain ⟨events, there⟩ := Table.exists_insert absent
  have outcome : target.events.events.insertOrThrow (eventRowOf event) "assistant_event.id" = .ok events :=
    Table.insertOrThrow_ok.mpr there
  simp only [eventRowOf] at outcome
  exact ⟨{ target with events := { target.events with events } }, by
    simp only [appendTo, EventStore.appendEvent, missing, outcome]⟩

/-- The instance and the effects of a workflow are there as a repeated creation compares them. -/
structure Stored (collate : String → String → Bool) (target : IntakeTarget) (input : PendingWorkflow) : Prop where
  found : ∃ row, target.workflows.instances.find? input.id = some row ∧
    { row with revision := 0 } = WorkflowStore.createdRow input
  matched : target.workflows.effectsMatch collate input = true

theorem createIn_ok (applied : createIn collate input target = .ok (inserted, next)) :
    (inserted = false ∧ next = target ∧ Stored collate target input) ∨ (inserted = true ∧ ∃ instances effects,
      target.workflows.instances.insert? (WorkflowStore.createdRow input) = some instances ∧
      WorkflowStore.insertWorkflowEffects input.id 0 input.effects target.workflows.effects = .ok effects ∧
      next.events = target.events ∧ next.checkpoint = target.checkpoint ∧
      next.workflows = { target.workflows with instances, effects }) := by
  unfold createIn at applied
  split at applied
  · rename_i answer workflows created
    cases applied
    unfold WorkflowStore.createBody at created
    split at created
    · split at created
      · cases created
      · rename_i row found
        split at created
        · cases created
        · rename_i same
          split at created
          · cases created
          · rename_i matched
            cases created
            simp only [not_or, ne_eq, not_not] at same matched
            obtain ⟨kind, version, status, state, wakeAt⟩ := same
            refine .inl ⟨rfl, rfl, ⟨row, found, ?_⟩, matched⟩
            rw [WorkflowStore.createdRow, ← kind, ← version, ← status, ← state, ← wakeAt, ← Table.find?_key found]
    · rename_i instances there
      obtain ⟨effects, requested, same⟩ := bind_ok.mp created
      cases same
      exact .inr ⟨rfl, instances, effects, there, requested, rfl, rfl, rfl⟩
  · cases applied

theorem Stored.created (stored : Stored collate target input) : createIn collate input target = .ok (false, target) := by
  obtain ⟨⟨row, found, same⟩, matched⟩ := stored
  have taken : target.workflows.instances.insert? (WorkflowStore.createdRow input) = none :=
    Table.insert?_eq_none_iff.mpr ⟨row, found⟩
  have body : WorkflowStore.createBody collate input 0 target.workflows = .ok ((false, row), target.workflows) := by
    have kind := congrArg WorkflowInstance.kind same
    have version := congrArg WorkflowInstance.definitionVersion same
    have status := congrArg WorkflowInstance.status same
    have state := congrArg WorkflowInstance.state same
    have wakeAt := congrArg WorkflowInstance.wakeAt same
    simp only [WorkflowStore.createdRow] at kind version status state wakeAt
    rw [WorkflowStore.createBody, taken, found]
    simp [kind, version, status, state, wakeAt, matched]
  unfold createIn
  split
  · rename_i answer workflows created
    cases body.symm.trans created
    rfl
  · rename_i message failed
    cases body.symm.trans failed

/-- A workflow with one effect that names its time. -/
structure Single (input : PendingWorkflow) : Prop where
  one : ∃ effect availableAt, input.effects = [effect] ∧ effect.availableAt = some availableAt

/-- What a creation leaves is what a repeated creation looks for. -/
theorem Single.stored (single : Single input)
    (there : target.workflows.instances.insert? (WorkflowStore.createdRow input) = some instances)
    (requested : WorkflowStore.insertWorkflowEffects input.id 0 input.effects target.workflows.effects = .ok effects)
    (workflows : next.workflows = { target.workflows with instances, effects }) : Stored collate next input := by
  obtain ⟨effect, availableAt, own, named⟩ := single.one
  have found : next.workflows.instances.find? input.id = some (WorkflowStore.createdRow input) := by
    rw [workflows]
    exact Table.find?_new there
  have unowned : WorkflowStore.effectsIn target.workflows.effects input.id = [] := by
    rw [WorkflowStore.effectsIn, List.map_eq_nil_iff, List.filter_eq_nil_iff]
    intro row listed same
    have known := target.owned row listed
    rw [of_decide_eq_true same, show target.workflows.instances.find? input.id = none from Table.find?_fresh there] at known
    cases known
  have retained : next.workflows.Retained input := by
    refine ⟨found, ?_⟩
    rw [WorkflowStore.effectsOf, workflows]
    rw [WorkflowStore.effectsIn_inserted requested, unowned, if_pos rfl, List.nil_append]
  refine ⟨⟨_, found, rfl⟩, retained.effectsMatch_iff.mpr ⟨?_, ?_⟩⟩
  · rw [own]
    rfl
  · intro wanted listed due given
    rw [own, List.mem_singleton] at listed
    subst listed
    refine ⟨WorkflowStore.effectRow input.id 0 wanted, ?_, ?_⟩
    · rw [workflows]
      refine Table.find?_eq_some_iff.mpr ⟨?_, rfl⟩
      rw [← Table.mem_rows, WorkflowStore.insertWorkflowEffects_rows requested, own]
      simp
    · rw [WorkflowStore.effectRow, given]
      rfl

/-- Another creation leaves what is stored. -/
theorem Stored.kept {other : PendingWorkflow} (stored : Stored collate target input)
    (there : target.workflows.instances.insert? (WorkflowStore.createdRow other) = some instances)
    (requested : WorkflowStore.insertWorkflowEffects other.id 0 other.effects target.workflows.effects = .ok effects)
    (workflows : next.workflows = { target.workflows with instances, effects }) : Stored collate next input := by
  obtain ⟨⟨row, found, same⟩, matched⟩ := stored
  have apart : other.id ≠ input.id := by
    intro same
    have fresh := Table.find?_fresh there
    rw [WorkflowStore.createdRow_id, same, found] at fresh
    cases fresh
  refine ⟨⟨row, ?_, same⟩, ?_⟩
  · rw [workflows]
    exact Table.find?_kept there found
  · have effects : next.workflows.storedEffects input.id = target.workflows.storedEffects input.id := by
      rw [WorkflowStore.storedEffects, WorkflowStore.storedEffects, workflows]
      rw [WorkflowStore.insertWorkflowEffects_rows requested, List.filter_append]
      have none : (other.effects.map (WorkflowStore.effectRow other.id 0)).filter (fun row => row.instanceId = input.id) = [] := by
        rw [List.filter_eq_nil_iff]
        intro row listed
        obtain ⟨effect, -, rfl⟩ := List.mem_map.mp listed
        exact fun same => apart (of_decide_eq_true same)
      rw [none, List.append_nil]
    rw [WorkflowStore.effectsMatch, effects]
    exact matched

/-! ## Writes that are made again -/

/-- The event is known by its key, the workflow stored, or a checkpoint there that is the same. -/
def Settled (collate : String → String → Bool) (target : IntakeTarget) : HandoffWrite → Prop
  | .event event => ∃ row ∈ target.events.events, row.event.deduplicationKey = event.deduplicationKey
  | .workflow input => Stored collate target input
  | .checkpoint value => ∃ existing, target.checkpoint = some existing ∧ canonical existing = canonical value

variable {write later : HandoffWrite} {start : IntakeTarget} {made : List HandoffWrite} {middle : IntakeTarget}

theorem Settled.absorbed (settled : Settled collate target write) : Absorbed (make collate) write target := by
  cases write with
  | event event =>
    obtain ⟨row, listed, same⟩ := settled
    rw [Absorbed, make, silently, appendTo_existing listed same]
    rfl
  | workflow input =>
    rw [Absorbed, make, silently, Stored.created settled]
    rfl
  | checkpoint value =>
    obtain ⟨existing, there, same⟩ := settled
    simp only [Absorbed, make, there, if_pos same]

/-- What one write of the plan does: nothing, where it is settled; else a row more, or the checkpoint. -/
inductive Made (collate : String → String → Bool) (target : IntakeTarget) : HandoffWrite → IntakeTarget → Prop where
  | settled {write : HandoffWrite} (settled : Settled collate target write) : Made collate target write target
  | appended {event : HandoffEvent} {events : Table (@AssistantEvent.id JsValue Timestamp)}
      (unlisted : ∀ row ∈ target.events.events, row.event.deduplicationKey ≠ event.deduplicationKey)
      (there : target.events.events.insert? (eventRowOf event) = some events) :
      Made collate target (.event event) { target with events := { target.events with events } }
  | created {input : PendingWorkflow} {next : IntakeTarget} {instances : Table (@WorkflowInstance.id JsValue Timestamp)}
      {effects : Table (@WorkflowEffectRow.id JsValue Timestamp)}
      (there : target.workflows.instances.insert? (WorkflowStore.createdRow input) = some instances)
      (requested : WorkflowStore.insertWorkflowEffects input.id 0 input.effects target.workflows.effects = .ok effects)
      (events : next.events = target.events) (checkpoint : next.checkpoint = target.checkpoint)
      (workflows : next.workflows = { target.workflows with instances, effects }) : Made collate target (.workflow input) next
  | checked {value : JsValue} (missing : target.checkpoint = none) :
      Made collate target (.checkpoint value) { target with checkpoint := some value }

theorem make_ok (applied : make collate write target = .ok next) : Made collate target write next := by
  cases write with
  | event event =>
    obtain ⟨inserted, applied⟩ := silently_ok applied
    rcases appendTo_ok applied with ⟨-, rfl, known⟩ | ⟨-, unlisted, events, there, rfl⟩
    · exact .settled known
    · exact .appended unlisted there
  | workflow input =>
    obtain ⟨inserted, applied⟩ := silently_ok applied
    rcases createIn_ok applied with ⟨-, rfl, stored⟩ | ⟨-, instances, effects, there, requested, events, checkpoint, workflows⟩
    · exact .settled stored
    · exact .created there requested events checkpoint workflows
  | checkpoint value =>
    simp only [make] at applied
    cases there : target.checkpoint with
    | none =>
      rw [there] at applied
      cases applied
      exact .checked there
    | some existing =>
      simp only [there] at applied
      by_cases same : canonical existing = canonical value
      · rw [if_pos same] at applied
        cases applied
        exact .settled ⟨existing, there, same⟩
      · rw [if_neg same] at applied
        cases applied

theorem insert_grows {Row Key : Type} [DecidableEq Key] {key : Row → Key} {table : Table key} {row : Row}
    (inserted : table.insert? row = some table) : False := by
  have rows := congrArg List.length (Table.rows_insert inserted)
  simp at rows

/-- A write that changes nothing is settled. -/
theorem Made.unchanged (made : Made collate target write next) (same : next = target) : Settled collate target write := by
  cases made with
  | settled settled => exact settled
  | appended unlisted there =>
    have events := congrArg (fun target : IntakeTarget => target.events.events) same
    dsimp only at events
    exact (insert_grows (events ▸ there)).elim
  | created there requested events checkpoint workflows =>
    have instances : next.workflows.instances = target.workflows.instances := by rw [same]
    rw [workflows] at instances
    dsimp only at instances
    exact (insert_grows (instances ▸ there)).elim
  | checked missing =>
    have checkpoint := congrArg IntakeTarget.checkpoint same
    rw [missing] at checkpoint
    cases checkpoint

/-- What a handoff creates are workflows with one effect. -/
def Sound (write : HandoffWrite) : Prop := ∀ input, write = .workflow input → Single input

theorem Made.settles (made : Made collate target write next) (sound : Sound write) : Settled collate next write := by
  cases made with
  | settled settled => exact settled
  | @appended event events unlisted there => exact ⟨_, (Table.mem_insert there).mpr (.inr rfl), rfl⟩
  | created there requested _ _ workflows => exact (sound _ rfl).stored there requested workflows
  | checked => exact ⟨_, rfl, rfl⟩

theorem Made.keeps (made : Made collate target later next) (settled : Settled collate target write) :
    Settled collate next write := by
  cases made with
  | settled => exact settled
  | appended unlisted there =>
    cases write with
    | event event =>
      obtain ⟨row, listed, same⟩ := settled
      exact ⟨row, (Table.mem_insert there).mpr (.inl listed), same⟩
    | workflow input => exact ⟨settled.found, settled.matched⟩
    | checkpoint value => exact settled
  | created there requested events checkpoint workflows =>
    cases write with
    | event event =>
      rw [Settled, events]
      exact settled
    | workflow input => exact Stored.kept settled there requested workflows
    | checkpoint value =>
      rw [Settled, checkpoint]
      exact settled
  | checked missing =>
    cases write with
    | event event => exact settled
    | workflow input => exact ⟨settled.found, settled.matched⟩
    | checkpoint value =>
      obtain ⟨existing, there, -⟩ := settled
      cases missing.symm.trans there

theorem handoffPlan_repeatable (single : ∀ input ∈ handoff.pendingWorkflows, Single input) :
    Repeatable (make collate) (handoffPlan handoff) := by
  have sound : ∀ write ∈ handoffPlan handoff, Sound write := by
    rintro write listed input rfl
    simp only [handoffPlan, List.mem_append, List.mem_map, List.mem_singleton, HandoffWrite.workflow.injEq, reduceCtorEq,
      and_false, exists_false, false_or, or_false, exists_eq_right] at listed
    exact single input listed
  constructor
  · intro write listed state next applied
    exact ((make_ok applied).settles (sound write listed)).absorbed
  · refine List.pairwise_of_forall fun write later state next absorbed applied => ?_
    exact ((make_ok applied).keeps ((make_ok absorbed).unchanged rfl)).absorbed

/-! ## Applications -/

/-- An application with the digest that was audited. -/
abbrev handOver (collate : String → String → Bool) (handoff : MessageIntakeHandoff) : Program IntakeTarget String HandoffReport :=
  applyMessageIntakeHandoff collate handoff handoff.digest

/-- What an application that took the store from one state to another reports: the rows that are new, and all
others as existing. -/
def reportOf (handoff : MessageIntakeHandoff) (start finish : IntakeTarget) : HandoffReport where
  insertedEvents := finish.events.events.rows.length - start.events.events.rows.length
  existingEvents := handoff.pendingEvents.length - (finish.events.events.rows.length - start.events.events.rows.length)
  insertedWorkflows := finish.workflows.instances.rows.length - start.workflows.instances.rows.length
  existingWorkflows := handoff.pendingWorkflows.length -
    (finish.workflows.instances.rows.length - start.workflows.instances.rows.length)
  writtenCheckpoint := if start.checkpoint.isSome then 0 else 1

theorem silently_changed {Write State : Type} {change : Write → State → Except String (Bool × State)} {write : Write}
    {state next : State} (changed : change write state = .ok (inserted, next)) :
    silently change write state = .ok next := by
  rw [silently, changed]
  rfl

/-- An event that is new is a row more, and nothing else. -/
theorem appendTo_grows (applied : appendTo event target = .ok (inserted, next)) :
    next.events.events.rows.length = target.events.events.rows.length + (if inserted then 1 else 0) ∧
      next.workflows = target.workflows ∧ next.checkpoint = target.checkpoint := by
  rcases appendTo_ok applied with ⟨rfl, rfl, -⟩ | ⟨rfl, -, events, there, rfl⟩
  · exact ⟨rfl, rfl, rfl⟩
  · exact ⟨by simp [Table.rows_insert there], rfl, rfl⟩

theorem createIn_grows (applied : createIn collate input target = .ok (inserted, next)) :
    next.workflows.instances.rows.length = target.workflows.instances.rows.length + (if inserted then 1 else 0) ∧
      next.events = target.events ∧ next.checkpoint = target.checkpoint := by
  rcases createIn_ok applied with ⟨rfl, rfl, -⟩ | ⟨rfl, instances, effects, there, -, events, checkpoint, workflows⟩
  · exact ⟨rfl, rfl, rfl⟩
  · refine ⟨?_, events, checkpoint⟩
    rw [workflows]
    simp [Table.rows_insert there]

/-- The parts of a plan that was carried out. -/
theorem carryOut_handoff : carryOut (make collate) (handoffPlan handoff) target = .ok finish ↔
    ∃ one two, carryOut (silently appendTo) handoff.pendingEvents target = .ok one ∧
      carryOut (silently (createIn collate)) handoff.pendingWorkflows one = .ok two ∧
      make collate (.checkpoint (handoffCheckpoint handoff)) two = .ok finish := by
  simp only [handoffPlan, carryOut_append_ok, carryOut_map, carryOut_cons_ok]
  constructor
  · rintro ⟨one, events, two, workflows, three, checked, done⟩
    cases done
    exact ⟨one, two, events, workflows, checked⟩
  · rintro ⟨one, two, events, workflows, checked⟩
    exact ⟨one, events, two, workflows, finish, checked, rfl⟩

theorem carryOut_events {plan : List HandoffEvent} (carried : carryOut (silently appendTo) plan target = .ok finish) :
    finish.workflows = target.workflows ∧ finish.checkpoint = target.checkpoint := by
  have kept : (finish.workflows, finish.checkpoint) = (target.workflows, target.checkpoint) := by
    refine carryOut_view (fun target : IntakeTarget => (target.workflows, target.checkpoint)) ?_ carried
    intro event _ state next applied
    obtain ⟨inserted, changed⟩ := silently_ok applied
    obtain ⟨-, workflows, checkpoint⟩ := appendTo_grows changed
    simp only [workflows, checkpoint]
  exact Prod.mk.inj kept

theorem carryOut_workflows {plan : List PendingWorkflow}
    (carried : carryOut (silently (createIn collate)) plan target = .ok finish) :
    finish.events = target.events ∧ finish.checkpoint = target.checkpoint := by
  have kept : (finish.events, finish.checkpoint) = (target.events, target.checkpoint) := by
    refine carryOut_view (fun target : IntakeTarget => (target.events, target.checkpoint)) ?_ carried
    intro input _ state next applied
    obtain ⟨inserted, changed⟩ := silently_ok applied
    obtain ⟨-, events, checkpoint⟩ := createIn_grows changed
    simp only [events, checkpoint]
  exact Prod.mk.inj kept

theorem settleCheckpoint_apply (value : JsValue) (left : Option Nat) : settleCheckpoint value ⟨target, left⟩ =
      match target.checkpoint with
      | some existing =>
        if canonical existing = canonical value then (.ok 0, ⟨target, left⟩)
        else (.error (.threw "native message intake checkpoint already has different content"), ⟨target, left⟩)
      | none =>
        if left = some 0 then (.error .interrupted, ⟨target, left⟩)
        else (.ok 1, ⟨{ target with checkpoint := some value }, left.map (· - 1)⟩) := by
  unfold settleCheckpoint
  rw [Program.read_bind]
  cases there : target.checkpoint with
  | some existing =>
    by_cases same : canonical existing = canonical value
    · simp only [if_pos same]
      rfl
    · simp only [if_neg same]
      rfl
  | none =>
    by_cases cut : left = some 0
    · simp [Program.bind_apply, Program.write, Program.update, cut]
    · simp only [Program.bind_apply, Program.write, Program.update, if_neg cut, writeCheckpoint, Except.map]
      rfl

/-- The first two parts of an application, and what follows them. -/
theorem handOver_apply (session : WriteSession IntakeTarget) : handOver collate handoff session =
      (Program.tally appendTo handoff.pendingEvents >>= fun insertedEvents =>
        Program.tally (createIn collate) handoff.pendingWorkflows >>= fun insertedWorkflows =>
          settleCheckpoint (handoffCheckpoint handoff) >>= fun writtenCheckpoint =>
            pure
              { insertedEvents
                existingEvents := handoff.pendingEvents.length - insertedEvents
                insertedWorkflows
                existingWorkflows := handoff.pendingWorkflows.length - insertedWorkflows
                writtenCheckpoint }) session := by
  rw [handOver, applyMessageIntakeHandoff, if_neg (by simp)]

theorem handoffPlan_length :
    (handoffPlan handoff).length = handoff.pendingEvents.length + (handoff.pendingWorkflows.length + 1) := by
  simp [handoffPlan]

/-- An application that is not cut off carries out its plan and reports what is new. -/
theorem handOver_whole (left : Option Nat) (enough : ∀ count, left = some count → (handoffPlan handoff).length ≤ count)
    (carried : carryOut (make collate) (handoffPlan handoff) target = .ok finish) :
    ∃ spare, handOver collate handoff ⟨target, left⟩ = (.ok (reportOf handoff target finish), ⟨finish, spare⟩) ∧
      (left = none → spare = none) := by
  obtain ⟨one, two, events, workflows, checked⟩ := carryOut_handoff.mp carried
  rw [handoffPlan_length] at enough
  obtain ⟨insertedEvents, ranEvents, newEvents⟩ := tally_whole
    (fun count same => Nat.le_trans (Nat.le_add_right _ _) (enough count same)) events
  obtain ⟨insertedWorkflows, ranWorkflows, newWorkflows⟩ := @tally_whole _ _ _ _ _ _ _
    (left.map (· - handoff.pendingEvents.length)) (by
      intro count same
      obtain ⟨number, rfl, rfl⟩ := Option.map_eq_some_iff.mp same
      have more := enough number rfl
      omega) workflows
  have newEvents := newEvents (fun target => target.events.events.rows.length)
    fun event _ state inserted next applied => (appendTo_grows applied).1
  have newWorkflows := newWorkflows (fun target => target.workflows.instances.rows.length)
    fun input _ state inserted next applied => (createIn_grows applied).1
  obtain ⟨sameWorkflows, sameCheckpoint⟩ := carryOut_events events
  obtain ⟨sameEvents, keptCheckpoint⟩ := carryOut_workflows workflows
  have report : finish.events = two.events → finish.workflows = two.workflows →
      (⟨insertedEvents, handoff.pendingEvents.length - insertedEvents, insertedWorkflows,
        handoff.pendingWorkflows.length - insertedWorkflows, if target.checkpoint.isSome then 0 else 1⟩ : HandoffReport) =
        reportOf handoff target finish := by
    intro lastEvents lastWorkflows
    rw [reportOf, lastEvents, lastWorkflows, sameEvents, newEvents, newWorkflows, sameWorkflows, Nat.add_sub_cancel_left,
      Nat.add_sub_cancel_left]
  rw [handOver_apply]
  simp only [Program.bind_apply, ranEvents, ranWorkflows, settleCheckpoint_apply, Program.pure_apply]
  simp only [make] at checked
  have first : two.checkpoint = target.checkpoint := keptCheckpoint.trans sameCheckpoint
  cases there : two.checkpoint with
  | some existing =>
    simp only [there] at checked ⊢
    by_cases same : canonical existing = canonical (handoffCheckpoint handoff)
    · rw [if_pos same] at checked
      cases checked
      have report := report rfl rfl
      rw [← first, there] at report
      refine ⟨_, by simp only [if_pos same]; rw [← report]; rfl, ?_⟩
      rintro rfl
      rfl
    · rw [if_neg same] at checked
      cases checked
  | none =>
    simp only [there] at checked ⊢
    cases checked
    have report := report rfl rfl
    rw [← first, there] at report
    have spare : (left.map (· - handoff.pendingEvents.length)).map (· - handoff.pendingWorkflows.length) ≠ some 0 := by
      intro spent
      obtain ⟨middle, inner, outer⟩ := Option.map_eq_some_iff.mp spent
      obtain ⟨number, rfl, rfl⟩ := Option.map_eq_some_iff.mp inner
      have more := enough number rfl
      omega
    refine ⟨_, by rw [if_neg spare, ← report]; rfl, ?_⟩
    rintro rfl
    rfl

/-- An application that is cut off has made the first writes of its plan. -/
theorem handOver_cut {count : Nat} (short : count < (handoffPlan handoff).length)
    (carried : carryOut (make collate) ((handoffPlan handoff).take count) target = .ok middle) :
    (handOver collate handoff ⟨target, some count⟩).2.state = middle := by
  rw [handoffPlan_length] at short
  rw [handOver_apply]
  simp only [handoffPlan, List.take_append, List.length_map, carryOut_append_ok, ← List.map_take, carryOut_map] at carried
  obtain ⟨one, events, two, workflows, checked⟩ := carried
  by_cases early : count < handoff.pendingEvents.length
  · have none : count - handoff.pendingEvents.length = 0 := by omega
    rw [none] at workflows checked
    cases workflows
    rw [Nat.zero_sub] at checked
    cases checked
    simp only [Program.bind_apply, tally_cut early events]
  · rw [List.take_of_length_le (by omega)] at events
    obtain ⟨insertedEvents, ranEvents, -⟩ := @tally_whole _ _ _ _ _ _ _ (some count) (by simpa using not_lt.mp early) events
    simp only [Program.bind_apply, ranEvents, Option.map_some]
    by_cases late : count - handoff.pendingEvents.length < handoff.pendingWorkflows.length
    · have none : count - handoff.pendingEvents.length - handoff.pendingWorkflows.length = 0 := by omega
      rw [none] at checked
      cases checked
      simp only [tally_cut late workflows]
    · have last : count - handoff.pendingEvents.length = handoff.pendingWorkflows.length := by omega
      rw [last, List.take_of_length_le le_rfl] at workflows
      rw [last, Nat.sub_self] at checked
      cases checked
      obtain ⟨insertedWorkflows, ranWorkflows, -⟩ := @tally_whole _ _ _ _ _ _ _ (some handoff.pendingWorkflows.length)
        (by simp) workflows
      simp only [last, ranWorkflows, settleCheckpoint_apply, Option.map_some, Nat.sub_self]
      cases there : middle.checkpoint with
      | none => rfl
      | some existing =>
        by_cases same : canonical existing = canonical (handoffCheckpoint handoff)
        · simp only [if_pos same, Program.pure_apply]
        · simp only [if_neg same]

/-- An application that succeeds has carried out its plan. -/
theorem handOver_ok {report : HandoffReport} {session : WriteSession IntakeTarget}
    (ran : handOver collate handoff ⟨target, none⟩ = (.ok report, session)) :
    ∃ finish, carryOut (make collate) (handoffPlan handoff) target = .ok finish := by
  rw [handOver_apply] at ran
  cases events : carryOut (silently appendTo) handoff.pendingEvents target with
  | error error =>
    obtain ⟨stopped, failed⟩ := tally_refused events
    simp only [Program.bind_apply, failed] at ran
    cases ran
  | ok one =>
    obtain ⟨insertedEvents, ranEvents, -⟩ := @tally_whole _ _ _ _ _ _ _ none nofun events
    cases workflows : carryOut (silently (createIn collate)) handoff.pendingWorkflows one with
    | error error =>
      obtain ⟨stopped, failed⟩ := tally_refused workflows
      simp only [Program.bind_apply, ranEvents, Option.map_none, failed] at ran
      cases ran
    | ok two =>
      obtain ⟨insertedWorkflows, ranWorkflows, -⟩ := @tally_whole _ _ _ _ _ _ _ none nofun workflows
      simp only [Program.bind_apply, ranEvents, ranWorkflows, settleCheckpoint_apply, Option.map_none] at ran
      cases there : two.checkpoint with
      | none => exact ⟨_, carryOut_handoff.mpr ⟨one, two, events, workflows, by rw [make, there]; rfl⟩⟩
      | some existing =>
        by_cases same : canonical existing = canonical (handoffCheckpoint handoff)
        · exact ⟨two, carryOut_handoff.mpr ⟨one, two, events, workflows, by simp only [make, there, if_pos same]⟩⟩
        · simp only [there, if_neg same] at ran
          cases ran

/-! ## Attempts -/

/-- Applications of a handoff that were cut off, one after the other. -/
inductive Attempted (collate : String → String → Bool) (handoff : MessageIntakeHandoff) (start : IntakeTarget) :
    IntakeTarget → Prop where
  | begun : Attempted collate handoff start start
  | again {middle : IntakeTarget} (earlier : Attempted collate handoff start middle) (count : Nat) :
      Attempted collate handoff start (handOver collate handoff ⟨middle, some count⟩).2.state

/-- After any attempts the first writes of the plan are made. -/
theorem Attempted.partly (attempted : Attempted collate handoff start middle)
    (repeatable : Repeatable (make collate) (handoffPlan handoff))
    (carried : carryOut (make collate) (handoffPlan handoff) start = .ok finish) :
    ∃ count, carryOut (make collate) ((handoffPlan handoff).take count) start = .ok middle := by
  induction attempted with
  | begun => exact ⟨0, rfl⟩
  | @again middle earlier count ih =>
    obtain ⟨made, begun⟩ := ih
    obtain ⟨next, cut, reached⟩ := carryOut_again repeatable carried begun count
    refine ⟨max made count, ?_⟩
    by_cases short : count < (handoffPlan handoff).length
    · rw [handOver_cut short cut]
      exact reached
    · rw [List.take_of_length_le (not_lt.mp short)] at cut
      obtain ⟨spare, ran, -⟩ := handOver_whole (some count) (by simpa using not_lt.mp short) cut
      rw [ran]
      exact reached

/-- Whoever applies the handoff again, after any attempts that were cut off, ends where one application ends that was
not cut off. -/
theorem Attempted.resumed (attempted : Attempted collate handoff start middle)
    (repeatable : Repeatable (make collate) (handoffPlan handoff))
    (carried : carryOut (make collate) (handoffPlan handoff) start = .ok finish) :
    handOver collate handoff ⟨middle, none⟩ = (.ok (reportOf handoff middle finish), ⟨finish, none⟩) := by
  obtain ⟨made, begun⟩ := attempted.partly repeatable carried
  obtain ⟨next, whole, reached⟩ := carryOut_again repeatable carried begun
    (handoffPlan handoff).length
  rw [List.take_of_length_le le_rfl] at whole
  rw [List.take_of_length_le (le_max_right _ _), carried] at reached
  cases reached
  obtain ⟨spare, ran, rest⟩ := handOver_whole none nofun whole
  rw [ran, rest rfl]

/-! ## Where the rows of a store come from -/

/-- The store holds nothing yet of what the handoff writes. -/
structure Fresh (handoff : MessageIntakeHandoff) (start : IntakeTarget) : Prop where
  events : ∀ row ∈ start.events.events, ∀ event ∈ handoff.pendingEvents,
    row.event.deduplicationKey ≠ event.deduplicationKey ∧ row.id ≠ handoffEventId event
  workflows : ∀ input ∈ handoff.pendingWorkflows, start.workflows.instances.find? input.id = none ∧
    ∀ effect ∈ input.effects, start.workflows.effects.find? effect.id = none
  checkpoint : start.checkpoint = none

/-- Every row was there before or is one of the writes that were made. -/
structure Origin (made : List HandoffWrite) (start target : IntakeTarget) : Prop where
  events : ∀ row ∈ target.events.events, row ∈ start.events.events ∨
    ∃ event, .event event ∈ made ∧ row = eventRowOf event
  instances : ∀ row ∈ target.workflows.instances, row ∈ start.workflows.instances ∨
    ∃ input, .workflow input ∈ made ∧ row = WorkflowStore.createdRow input
  effects : ∀ row ∈ target.workflows.effects, row ∈ start.workflows.effects ∨
    ∃ input, .workflow input ∈ made ∧ ∃ effect ∈ input.effects, row = WorkflowStore.effectRow input.id 0 effect
  checkpoint : target.checkpoint = start.checkpoint ∨ ∃ value, .checkpoint value ∈ made ∧ target.checkpoint = some value

theorem Origin.initial (start : IntakeTarget) : Origin [] start start :=
  ⟨fun _ => .inl, fun _ => .inl, fun _ => .inl, .inl rfl⟩

theorem Origin.step (origin : Origin made start target)
    (done : Made collate target write next) : Origin (made ++ [write]) start next := by
  have events : ∀ row ∈ target.events.events, row ∈ start.events.events ∨
      ∃ event, .event event ∈ made ++ [write] ∧ row = eventRowOf event := fun row listed =>
    (origin.events row listed).imp_right fun ⟨event, there, same⟩ => ⟨event, List.mem_append_left _ there, same⟩
  have instances : ∀ row ∈ target.workflows.instances, row ∈ start.workflows.instances ∨
      ∃ input, .workflow input ∈ made ++ [write] ∧ row = WorkflowStore.createdRow input := fun row listed =>
    (origin.instances row listed).imp_right fun ⟨input, there, same⟩ => ⟨input, List.mem_append_left _ there, same⟩
  have effects : ∀ row ∈ target.workflows.effects, row ∈ start.workflows.effects ∨
      ∃ input, .workflow input ∈ made ++ [write] ∧
        ∃ effect ∈ input.effects, row = WorkflowStore.effectRow input.id 0 effect := fun row listed =>
    (origin.effects row listed).imp_right fun ⟨input, there, same⟩ => ⟨input, List.mem_append_left _ there, same⟩
  have checkpoint : target.checkpoint = start.checkpoint ∨
      ∃ value, .checkpoint value ∈ made ++ [write] ∧ target.checkpoint = some value :=
    origin.checkpoint.imp_right fun ⟨value, there, same⟩ => ⟨value, List.mem_append_left _ there, same⟩
  cases done with
  | settled => exact ⟨events, instances, effects, checkpoint⟩
  | @appended event rows unlisted there =>
    refine ⟨fun row listed => ?_, instances, effects, checkpoint⟩
    rcases (Table.mem_insert there).mp listed with before | rfl
    · exact events row before
    · exact .inr ⟨event, by simp, rfl⟩
  | @created input _ rows effectRows there requested sameEvents sameCheckpoint workflows =>
    refine ⟨?_, ?_, ?_, ?_⟩
    · rw [sameEvents]
      exact events
    · intro row listed
      rw [workflows] at listed
      rcases (Table.mem_insert there).mp listed with before | rfl
      · exact instances row before
      · exact .inr ⟨input, by simp, rfl⟩
    · intro row listed
      rw [workflows, ← Table.mem_rows, WorkflowStore.insertWorkflowEffects_rows requested] at listed
      rcases List.mem_append.mp listed with before | here
      · exact effects row before
      · obtain ⟨effect, own, rfl⟩ := List.mem_map.mp here
        exact .inr ⟨input, by simp, effect, own, rfl⟩
    · rw [sameCheckpoint]
      exact checkpoint
  | @checked value missing => exact ⟨events, instances, effects, .inr ⟨value, by simp, rfl⟩⟩

theorem carryOut_origin (carried : carryOut (make collate) made start = .ok target) : Origin made start target := by
  induction made using List.reverseRecOn generalizing target with
  | nil =>
    cases carried
    exact .initial start
  | append_singleton made write ih =>
    obtain ⟨middle, before, last⟩ := carryOut_append_ok.mp carried
    obtain ⟨next, applied, done⟩ := carryOut_cons_ok.mp last
    cases done
    exact (ih before).step (make_ok applied)

/-! ## A store that holds nothing of the handoff -/

theorem event_mem_plan : .event event ∈ handoffPlan handoff ↔ event ∈ handoff.pendingEvents := by
  simp [handoffPlan]

theorem workflow_mem_plan : .workflow input ∈ handoffPlan handoff ↔ input ∈ handoff.pendingWorkflows := by
  simp [handoffPlan]

theorem checkpoint_mem_plan {value : JsValue} :
    .checkpoint value ∈ handoffPlan handoff ↔ value = handoffCheckpoint handoff := by
  simp [handoffPlan]

/-- What the writes of a handoff have in common. -/
structure Coherent (handoff : MessageIntakeHandoff) : Prop where
  channel : ∀ event ∈ handoff.pendingEvents, event.source.channel = "feishu"
  single : ∀ input ∈ handoff.pendingWorkflows, Single input
  keyed : ∀ input ∈ handoff.pendingWorkflows, ∀ other ∈ handoff.pendingWorkflows,
    (input.id = other.id ∨ ∃ effect ∈ input.effects, ∃ effect' ∈ other.effects, effect.id = effect'.id) → input = other

theorem handoffEventId_inj {one other : HandoffEvent} (channels : one.source.channel = other.source.channel)
    (same : handoffEventId one = handoffEventId other) : one.deduplicationKey = other.deduplicationKey := by
  simp only [handoffEventId, channels, String.append_assoc, String.append_right_inj] at same
  exact same

theorem createIn_fresh (single : Single input) (missing : target.workflows.instances.find? input.id = none)
    (unlisted : ∀ effect ∈ input.effects, target.workflows.effects.find? effect.id = none) :
    ∃ next, createIn collate input target = .ok (true, next) := by
  have absent : target.workflows.instances.find? (WorkflowStore.createdRow input).id = none := missing
  obtain ⟨instances, there⟩ := Table.exists_insert absent
  obtain ⟨effects, requested⟩ : ∃ effects,
      WorkflowStore.insertWorkflowEffects input.id 0 input.effects target.workflows.effects = .ok effects := by
    obtain ⟨effect, availableAt, own, -⟩ := single.one
    refine WorkflowStore.insertWorkflowEffects_ok_iff.mpr ⟨?_, unlisted⟩
    rw [own]
    exact List.nodup_singleton _
  have body : WorkflowStore.createBody collate input 0 target.workflows =
      .ok ((true, WorkflowStore.createdRow input), { target.workflows with instances, effects }) := by
    rw [WorkflowStore.createBody, there]
    simp only [requested]
    rfl
  unfold createIn
  split
  · rename_i answer workflows created
    cases body.symm.trans created
    exact ⟨_, rfl⟩
  · rename_i message failed
    cases body.symm.trans failed

/-- The next write of the plan is made. -/
theorem Coherent.writes (coherent : Coherent handoff) (fresh : Fresh handoff start)
    (within : ∀ write ∈ made, write ∈ handoffPlan handoff) (carried : carryOut (make collate) made start = .ok target)
    (absorbed : ∀ write ∈ made, Absorbed (make collate) write target) (listed : write ∈ handoffPlan handoff) :
    ∃ next, make collate write target = .ok next := by
  have origin := carryOut_origin carried
  cases write with
  | event event =>
    have own := event_mem_plan.mp listed
    by_cases known : ∃ row ∈ target.events.events, row.event.deduplicationKey = event.deduplicationKey
    · obtain ⟨row, there, same⟩ := known
      exact ⟨target, silently_changed (appendTo_existing there same)⟩
    · push Not at known
      obtain ⟨next, appended⟩ := appendTo_fresh known (by
        intro row there named
        rcases origin.events row there with before | ⟨other, earlier, rfl⟩
        · exact (fresh.events row before event own).2 named
        · have others := event_mem_plan.mp (within _ earlier)
          refine known _ there (handoffEventId_inj ?_ named)
          exact (coherent.channel other others).trans (coherent.channel event own).symm)
      exact ⟨next, silently_changed appended⟩
  | workflow input =>
    have own := workflow_mem_plan.mp listed
    have same_of : ∀ {other : PendingWorkflow}, .workflow other ∈ made →
        (other.id = input.id ∨ ∃ effect ∈ other.effects, ∃ effect' ∈ input.effects, effect.id = effect'.id) →
          ∃ next, make collate (.workflow input) target = .ok next := by
      intro other earlier shared
      obtain rfl := coherent.keyed other (workflow_mem_plan.mp (within _ earlier)) input own shared
      exact ⟨target, absorbed _ earlier⟩
    obtain ⟨unmade, unasked⟩ := fresh.workflows input own
    cases found : target.workflows.instances.find? input.id with
    | some row =>
      have named : row.id = input.id := Table.find?_key found
      rcases origin.instances row (Table.find?_mem found) with before | ⟨other, earlier, rfl⟩
      · exact absurd named (Table.find?_eq_none_iff.mp unmade row before)
      · exact same_of earlier (.inl named)
    | none =>
      by_cases taken : ∃ effect ∈ input.effects, (target.workflows.effects.find? effect.id).isSome
      · obtain ⟨effect, mine, there⟩ := taken
        obtain ⟨row, stored⟩ := Option.isSome_iff_exists.mp there
        have named : row.id = effect.id := Table.find?_key stored
        rcases origin.effects row (Table.find?_mem stored) with before | ⟨other, earlier, effect', theirs, rfl⟩
        · exact absurd named (Table.find?_eq_none_iff.mp (unasked effect mine) row before)
        · exact same_of earlier (.inr ⟨effect', theirs, effect, mine, named⟩)
      · push Not at taken
        have unlisted : ∀ effect ∈ input.effects, target.workflows.effects.find? effect.id = none := fun effect mine => by
          simpa using taken effect mine
        obtain ⟨next, created⟩ : ∃ next, createIn collate input target = .ok (true, next) :=
          createIn_fresh (coherent.single input own) found unlisted
        exact ⟨next, silently_changed created⟩
  | checkpoint value =>
    simp only [make]
    rcases origin.checkpoint with same | ⟨other, earlier, same⟩
    · rw [same, fresh.checkpoint]
      exact ⟨_, rfl⟩
    · obtain rfl := checkpoint_mem_plan.mp listed
      obtain rfl := checkpoint_mem_plan.mp (within _ earlier)
      rw [same]
      exact ⟨target, if_pos rfl⟩

/-- A coherent handoff is carried out on every store that holds nothing of it. -/
theorem Coherent.carried (coherent : Coherent handoff) (fresh : Fresh handoff start) :
    ∃ finish, carryOut (make collate) (handoffPlan handoff) start = .ok finish := by
  have repeatable : Repeatable (make collate) (handoffPlan handoff) := handoffPlan_repeatable coherent.single
  have every : ∀ made : List HandoffWrite, made <+: handoffPlan handoff →
      ∃ target, carryOut (make collate) made start = .ok target := by
    intro made
    induction made using List.reverseRecOn with
    | nil => exact fun _ => ⟨start, rfl⟩
    | append_singleton made write ih =>
      intro whole
      have part : made <+: handoffPlan handoff := (List.prefix_append made [write]).trans whole
      obtain ⟨target, carried⟩ := ih part
      have begun : Repeatable (make collate) made :=
        ⟨fun write listed => repeatable.absorbs write (part.subset listed), repeatable.stays.sublist part.sublist⟩
      have absorbed := carryOut_absorbs begun carried
      obtain ⟨next, applied⟩ := coherent.writes fresh (fun write listed => part.subset listed) carried absorbed
        (whole.subset (List.mem_append_right _ (List.mem_singleton_self write)))
      exact ⟨next, carryOut_append_ok.mpr ⟨target, carried, carryOut_cons_ok.mpr ⟨next, applied, rfl⟩⟩⟩
  exact every _ (List.prefix_refl _)

end QuarkSelfAI.Migration

import Mathlib.Data.List.Range
import Mathlib.Data.String.Basic
import QuarkSelfAI.Foundation.Path
import QuarkSelfAI.Storage.WorkflowSteps

/-!
# Exactly-once advance of workflow instances

The log of an instance is its creation and the advances that were applied to it,
read off the trace. `Told` says that the tables hold exactly that log; every
outcome of a store call keeps it, so it holds after every interleaving.
-/

namespace QuarkSelfAI.Storage.WorkflowStore

open Foundation

variable {State Payload Time : Type}

/-! ## The rows of one instance -/

def eventsOf (store : WorkflowStore State Payload Time) (instanceId : String) : List (WorkflowEventRow Payload Time) :=
  store.events.rows.filter (·.instanceId = instanceId)

def transitionsOf (store : WorkflowStore State Payload Time) (instanceId : String) : List (WorkflowTransition State) :=
  store.transitions.rows.filter (·.instanceId = instanceId)

/-- The effects stored for an instance, as they were requested. -/
def effectsIn (effects : Table (@WorkflowEffectRow.id Payload Time)) (instanceId : String) :
    List (String × String × Payload) :=
  (effects.rows.filter (·.instanceId = instanceId)).map fun row => (row.id, row.kind, row.payload)

def effectsOf (store : WorkflowStore State Payload Time) (instanceId : String) : List (String × String × Payload) :=
  effectsIn store.effects instanceId

def requested (effects : List (WorkflowEffectInput Payload Time)) : List (String × String × Payload) :=
  effects.map fun effect => (effect.id, effect.kind, effect.payload)

/-! ## The log of one instance -/

/-- The creation a call made, with the instance it made it for. -/
def creationOf : StoreCall State Payload Time × StoreReply State Payload Time →
    Option (CreateWorkflowInput State Payload Time)
  | (.createWorkflow input _, .created true _) => some input
  | _ => none

/-- The advance a call applied. -/
def advanceOf : StoreCall State Payload Time × StoreReply State Payload Time →
    Option (AdvanceWorkflowInput State Payload Time)
  | (.advanceWorkflow input _, .advanced true _) => some input
  | _ => none

def creations (history : List (StoreCall State Payload Time × StoreReply State Payload Time))
    (instanceId : String) : List (CreateWorkflowInput State Payload Time) :=
  (history.filterMap creationOf).filter (·.id = instanceId)

def applied (history : List (StoreCall State Payload Time × StoreReply State Payload Time))
    (instanceId : String) : List (AdvanceWorkflowInput State Payload Time) :=
  (history.filterMap advanceOf).filter (·.instanceId = instanceId)

/-- The tables hold exactly the creation and the applied advances of an instance. -/
structure Told (store : WorkflowStore State Payload Time) (current : WorkflowInstance State Time)
    (creation : CreateWorkflowInput State Payload Time)
    (advances : List (AdvanceWorkflowInput State Payload Time)) : Prop where
  revision : current.revision = advances.length
  events : (store.eventsOf current.id).map (·.event) = advances.map (·.event)
  processed : (store.eventsOf current.id).map (·.processedRevision) = List.range' 1 advances.length
  transitions : (store.transitionsOf current.id).map (·.eventId) = advances.map (·.event.id)
  revisions : (store.transitionsOf current.id).map (·.revision) = List.range' 1 advances.length
  chained : IsPath creation.status
    ((store.transitionsOf current.id).map fun row => (row.fromStatus, row.toStatus)) current.status
  effects : store.effectsOf current.id =
    requested creation.effects ++ advances.flatMap fun input => requested input.effects
  content : current.kind = creation.kind ∧ current.definitionVersion = creation.definitionVersion ∧
    current.state = (advances.getLast?.map (·.state)).getD creation.state

/-- Nothing is stored for an instance that does not exist. -/
structure Untold (store : WorkflowStore State Payload Time) (instanceId : String) : Prop where
  events : store.eventsOf instanceId = []
  transitions : store.transitionsOf instanceId = []
  effects : store.effectsOf instanceId = []

/-- The trace and the tables agree about every instance. -/
structure Faithful (history : List (StoreCall State Payload Time × StoreReply State Payload Time))
    (store : WorkflowStore State Payload Time) : Prop where
  present : ∀ {id current}, store.instances.find? id = some current → ∃ creation,
    creations history id = [creation] ∧ store.Told current creation (applied history id)
  absent : ∀ {id}, store.instances.find? id = none →
    creations history id = [] ∧ applied history id = [] ∧ store.Untold id

section Frame

variable {before after store : WorkflowStore State Payload Time} {id : String}
  {current : WorkflowInstance State Time} {creation : CreateWorkflowInput State Payload Time}
  {advances : List (AdvanceWorkflowInput State Payload Time)}

/-- The rows of an instance are the same in both stores. -/
structure SameRows (before after : WorkflowStore State Payload Time) (id : String) : Prop where
  events : after.eventsOf id = before.eventsOf id
  transitions : after.transitionsOf id = before.transitionsOf id
  effects : after.effectsOf id = before.effectsOf id

theorem Told.same (told : before.Told current creation advances)
    (rows : SameRows before after current.id) : after.Told current creation advances where
  revision := told.revision
  events := by rw [rows.events, told.events]
  processed := by rw [rows.events, told.processed]
  transitions := by rw [rows.transitions, told.transitions]
  revisions := by rw [rows.transitions, told.revisions]
  chained := by
    rw [rows.transitions]
    exact told.chained
  effects := by rw [rows.effects, told.effects]
  content := told.content

theorem Untold.same (untold : before.Untold id) (rows : SameRows before after id) : after.Untold id where
  events := by rw [rows.events, untold.events]
  transitions := by rw [rows.transitions, untold.transitions]
  effects := by rw [rows.effects, untold.effects]

end Frame

/-! ## What each outcome adds to a log -/

section Step

variable [LinearOrder Time] {before after : WorkflowStore State Payload Time} {id : String}
  {history : List (StoreCall State Payload Time × StoreReply State Payload Time)}
  {entry : StoreCall State Payload Time × StoreReply State Payload Time}
  {effects : Table (@WorkflowEffectRow.id Payload Time)} {input : AdvanceWorkflowInput State Payload Time}
  {current : WorkflowInstance State Time}

omit [LinearOrder Time] in
theorem creations_snoc : creations (history ++ [entry]) id =
    creations history id ++ (creationOf entry).toList.filter (·.id = id) := by
  cases made : creationOf entry <;> simp [creations, made]

omit [LinearOrder Time] in
theorem applied_snoc : applied (history ++ [entry]) id =
    applied history id ++ (advanceOf entry).toList.filter (·.instanceId = id) := by
  cases made : advanceOf entry <;> simp [applied, made]

omit [LinearOrder Time] in
/-- Inserted effects are logged under their instance and no other. -/
theorem effectsIn_inserted {instanceId : String} {clock : Time}
    {table next : Table (@WorkflowEffectRow.id Payload Time)} {effects : List (WorkflowEffectInput Payload Time)}
    (inserted : insertWorkflowEffects instanceId clock effects table = .ok next) (id : String) :
    effectsIn next id = effectsIn table id ++ if instanceId = id then requested effects else [] := by
  rw [effectsIn, insertWorkflowEffects_rows inserted, List.filter_append, List.map_append, effectsIn]
  congr 1
  rw [List.filter_map, List.map_map]
  by_cases own : instanceId = id
  · simp [Function.comp_def, effectRow, own, requested]
  · simp [Function.comp_def, effectRow, own]

omit [LinearOrder Time] in
/-- A call that creates and advances nothing leaves every log as it was. -/
theorem Faithful.quiet (faithful : Faithful history before) (uncreated : creationOf entry = none)
    (unadvanced : advanceOf entry = none) (instances : after.instances = before.instances)
    (rows : ∀ id, SameRows before after id) : Faithful (history ++ [entry]) after := by
  have created : ∀ id, creations (history ++ [entry]) id = creations history id := by
    intro id
    simp [creations_snoc, uncreated]
  have advanced : ∀ id, applied (history ++ [entry]) id = applied history id := by
    intro id
    simp [applied_snoc, unadvanced]
  constructor
  · intro id current found
    rw [instances] at found
    obtain ⟨creation, origin, told⟩ := faithful.present found
    exact ⟨creation, by rw [created, origin], by rw [advanced]; exact told.same (rows _)⟩
  · intro id missing
    rw [instances] at missing
    obtain ⟨origin, unapplied, untold⟩ := faithful.absent missing
    exact ⟨by rw [created, origin], by rw [advanced, unapplied], untold.same (rows _)⟩

omit [LinearOrder Time] in
/-- Updating what an effect row does not request keeps every log. -/
theorem sameRows_update {effectId : String}
    {change : WorkflowEffectRow Payload Time → WorkflowEffectRow Payload Time}
    {keeps : ∀ row, (change row).id = row.id}
    (same : ∀ row, (change row).instanceId = row.instanceId ∧ (change row).kind = row.kind ∧
      (change row).payload = row.payload) (id : String) :
    SameRows before { before with effects := before.effects.update effectId change keeps } id where
  events := rfl
  transitions := rfl
  effects := by
    refine Table.view_update keeps (fun row => ?_) (fun row => ?_)
    · rw [(same row).1]
    · rw [keeps row, (same row).2.1, (same row).2.2]

omit [LinearOrder Time] in
theorem Faithful.created {input : CreateWorkflowInput State Payload Time} {clock : Time}
    {instances : Table (@WorkflowInstance.id State Time)} (faithful : Faithful history before)
    (made : creationOf entry = some input) (unadvanced : advanceOf entry = none)
    (instanced : before.instances.insert? (createdRow input) = some instances)
    (inserted : insertWorkflowEffects input.id clock input.effects before.effects = .ok effects) :
    Faithful (history ++ [entry]) { before with instances, effects } := by
  have advanced : ∀ id, applied (history ++ [entry]) id = applied history id := by
    intro id
    simp [applied_snoc, unadvanced]
  have foreign : ∀ {id}, id ≠ input.id → creations (history ++ [entry]) id = creations history id ∧
      SameRows before { before with instances, effects } id := by
    intro id other
    have uncreated : input.id ≠ id := other.symm
    refine ⟨by simp [creations_snoc, made, uncreated], rfl, rfl, ?_⟩
    rw [effectsOf, effectsIn_inserted inserted, if_neg uncreated, List.append_nil, effectsOf]
  constructor
  · intro id current found
    rw [Table.find?_inserted instanced] at found
    split at found
    · rename_i same
      subst same
      cases found
      obtain ⟨origin, unapplied, untold⟩ := faithful.absent (Table.find?_fresh instanced)
      simp only [createdRow_id] at origin unapplied untold ⊢
      refine ⟨input, by simp [creations_snoc, made, origin], ?_⟩
      rw [advanced, unapplied]
      refine
        { revision := rfl, events := congrArg (List.map _) untold.events
          processed := congrArg (List.map _) untold.events
          transitions := congrArg (List.map _) untold.transitions
          revisions := congrArg (List.map _) untold.transitions
          chained := ?_, effects := ?_, content := ⟨rfl, rfl, rfl⟩ }
      · show IsPath input.status ((before.transitionsOf input.id).map _) input.status
        rw [untold.transitions]
        rfl
      · show effectsIn effects input.id = _
        rw [effectsIn_inserted inserted, if_pos rfl, show effectsIn before.effects input.id = [] from
          untold.effects]
        simp
    · rename_i other
      obtain ⟨creation, origin, told⟩ := faithful.present found
      have named : current.id = id := Table.find?_key found
      obtain ⟨created, rows⟩ := foreign other
      exact ⟨creation, by rw [created, origin], by rw [advanced]; exact told.same (named ▸ rows)⟩
  · intro id missing
    rw [Table.find?_inserted instanced] at missing
    split at missing
    · cases missing
    · rename_i other
      obtain ⟨origin, unapplied, untold⟩ := faithful.absent missing
      obtain ⟨created, rows⟩ := foreign other
      exact ⟨by rw [created, origin], by rw [advanced, unapplied], untold.same rows⟩

omit [LinearOrder Time] in
/-- An applied advance adds one entry to the log of its instance. -/
theorem Told.advanced {creation : CreateWorkflowInput State Payload Time}
    {advances : List (AdvanceWorkflowInput State Payload Time)} (told : before.Told current creation advances)
    (expected : current.revision = input.expectedRevision)
    (events : after.eventsOf current.id = before.eventsOf current.id ++ [eventRow input])
    (transitions : after.transitionsOf current.id = before.transitionsOf current.id ++ [transitionRow input current])
    (effects : after.effectsOf current.id = before.effectsOf current.id ++ requested input.effects) :
    after.Told (advancedRow input current) creation (advances ++ [input]) := by
  have counted : input.expectedRevision + 1 = 1 + advances.length := by
    have := told.revision
    omega
  have numbered : List.range' 1 (advances ++ [input]).length =
      List.range' 1 advances.length ++ [input.expectedRevision + 1] := by
    rw [counted, List.length_append, List.length_singleton, List.range'_1_concat]
  refine
    { revision := ?_, events := ?_, processed := ?_, transitions := ?_, revisions := ?_
      chained := ?_, effects := ?_, content := ?_ }
  · rw [List.length_append, List.length_singleton, Nat.add_comm, ← counted]
    rfl
  · rw [advancedRow_id, events, List.map_append, told.events, List.map_append]
    rfl
  · rw [advancedRow_id, events, List.map_append, told.processed, numbered]
    rfl
  · rw [advancedRow_id, transitions, List.map_append, told.transitions, List.map_append]
    rfl
  · rw [advancedRow_id, transitions, List.map_append, told.revisions, numbered]
    rfl
  · rw [advancedRow_id, transitions, List.map_append]
    exact told.chained.snoc
  · rw [advancedRow_id, effects, told.effects, List.flatMap_append, List.append_assoc]
    simp
  · exact ⟨told.content.1, told.content.2.1, by simp [advancedRow]⟩

omit [LinearOrder Time] in
theorem Faithful.advanced {clock : Time} {events : Table (@WorkflowEventRow.key Payload Time)}
    {transitions : Table (@WorkflowTransition.key State)} (faithful : Faithful history before)
    (uncreated : creationOf entry = none) (made : advanceOf entry = some input)
    (found : before.instances.find? input.instanceId = some current)
    (expected : current.revision = input.expectedRevision)
    (evented : before.events.insert? (eventRow input) = some events)
    (logged : before.transitions.insert? (transitionRow input current) = some transitions)
    (inserted : insertWorkflowEffects input.instanceId clock input.effects before.effects = .ok effects) :
    Faithful (history ++ [entry])
      { instances := before.instances.update input.instanceId (advancedRow input) fun _ => rfl
        events, transitions, effects } := by
  have created : ∀ id, creations (history ++ [entry]) id = creations history id := by
    intro id
    simp [creations_snoc, uncreated]
  have foreign : ∀ {id}, id ≠ input.instanceId → applied (history ++ [entry]) id = applied history id ∧ SameRows before
        { instances := before.instances.update input.instanceId (advancedRow input) fun _ => rfl
          events, transitions, effects } id := by
    intro id other
    have unapplied : input.instanceId ≠ id := other.symm
    refine ⟨by simp [applied_snoc, made, unapplied], ?_, ?_, ?_⟩
    · simp [eventsOf, Table.rows_insert evented, eventRow, unapplied]
    · simp [transitionsOf, Table.rows_insert logged, transitionRow, unapplied]
    · rw [effectsOf, effectsIn_inserted inserted, if_neg unapplied, List.append_nil, effectsOf]
  have looked : ∀ id, (before.instances.update input.instanceId (advancedRow input) fun _ => rfl).find? id =
        if id = input.instanceId then some (advancedRow input current)
        else before.instances.find? id :=
    Table.find?_updated rfl found
  constructor
  · intro id row stored
    replace stored := (looked id).symm.trans stored
    split at stored
    · rename_i same
      subst same
      cases stored
      obtain ⟨creation, origin, told⟩ := faithful.present found
      have named : current.id = input.instanceId := Table.find?_key found
      refine ⟨creation, by rw [created, origin], ?_⟩
      rw [applied_snoc, made]
      simp only [Option.toList_some, List.filter_singleton, decide_true]
      refine told.advanced expected ?_ ?_ ?_
      · simp [eventsOf, Table.rows_insert evented, eventRow, named]
      · simp [transitionsOf, Table.rows_insert logged, transitionRow, named]
      · rw [effectsOf, effectsIn_inserted inserted, if_pos named.symm, effectsOf]
    · rename_i other
      obtain ⟨creation, origin, told⟩ := faithful.present stored
      have named : row.id = id := Table.find?_key stored
      obtain ⟨unapplied, rows⟩ := foreign other
      exact ⟨creation, by rw [created, origin], by rw [unapplied]; exact told.same (named ▸ rows)⟩
  · intro id missing
    replace missing := (looked id).symm.trans missing
    split at missing
    · cases missing
    · rename_i other
      obtain ⟨origin, none, untold⟩ := faithful.absent missing
      obtain ⟨unapplied, rows⟩ := foreign other
      exact ⟨by rw [created, origin], by rw [unapplied, none], untold.same rows⟩

theorem Faithful.outcome {call : StoreCall State Payload Time}
    {reply : StoreReply State Payload Time} (faithful : Faithful history before)
    (outcome : Outcome before call reply after) : Faithful (history ++ [(call, reply)]) after := by
  have kept : ∀ id, SameRows before before id := fun _ => ⟨rfl, rfl, rfl⟩
  cases outcome with
  | threw message =>
    have quiet : creationOf (call, StoreReply.threw message) = none ∧
        advanceOf (call, StoreReply.threw message) = none := by
      cases call <;> exact ⟨rfl, rfl⟩
    exact faithful.quiet quiet.1 quiet.2 rfl kept
  | recreated | repeated | idle => exact faithful.quiet rfl rfl rfl kept
  | created instanced inserted => exact faithful.created rfl rfl instanced inserted
  | advanced found expected evented logged inserted =>
    exact faithful.advanced rfl rfl found expected evented logged inserted
  | claimed | settled | released => exact faithful.quiet rfl rfl rfl (sameRows_update fun _ => ⟨rfl, rfl, rfl⟩)

variable [DecidableEq State] [DecidableEq Payload] {collate : String → String → Bool}
  {store : WorkflowStore State Payload Time}

theorem Run.faithful (run : Run collate history store) : Faithful history store := by
  refine TransitionSystem.Run.history (motive := Faithful) (fun valid => ?_)
    (fun _ faithful transition => faithful.outcome (step_outcome transition)) run
  cases valid
  exact ⟨fun found => (by cases found), fun _ => ⟨rfl, rfl, ⟨rfl, rfl, rfl⟩⟩⟩

omit [LinearOrder Time] [DecidableEq State] [DecidableEq Payload] in
theorem eventsOf_nodup (store : WorkflowStore State Payload Time) (id : String) :
    ((store.eventsOf id).map (·.event.id)).Nodup := by
  have keyed : ((store.eventsOf id).map (·.key)).Nodup := store.events.unique.sublist (List.filter_sublist.map _)
  have split : (store.eventsOf id).map (·.key) = ((store.eventsOf id).map (·.event.id)).map (Prod.mk id) := by
    rw [List.map_map]
    refine List.map_congr_left fun row listed => ?_
    have owned : row.instanceId = id := by simpa [eventsOf] using (List.mem_filter.mp listed).2
    simp [WorkflowEventRow.key, owned]
  rw [split] at keyed
  exact keyed.of_map _

/-- What the store promises about the advances of its instances, at any store
reached by some interleaving of calls. -/
structure ExactlyOnce (collate : String → String → Bool)
    (history : List (StoreCall State Payload Time × StoreReply State Payload Time))
    (store : WorkflowStore State Payload Time) : Prop where
  /-- Every event is applied to an instance at most once. -/
  once : ∀ id, ((applied history id).map (·.event.id)).Nodup
  /-- An instance counts its events and its transitions. -/
  counted : ∀ current ∈ store.instances, current.revision = (store.eventsOf current.id).length ∧
      current.revision = (store.transitionsOf current.id).length
  /-- Its rows are those of its creation and of its applied advances. -/
  told : ∀ current ∈ store.instances, ∃ creation, creations history current.id = [creation] ∧
    store.Told current creation (applied history current.id)
  /-- A call that throws changes no row. -/
  atomic : ∀ call message after, perform collate call store = (.threw message, after) → after = store
  /-- A repeated event is answered with the stored instance and changes nothing. -/
  repeated : ∀ input clock, (∃ earlier ∈ applied history input.instanceId,
    earlier.event.id = input.event.id) → ∃ current, store.workflow input.instanceId = some current ∧
      perform collate (.advanceWorkflow input clock) store = (.advanced false current, store)

theorem run_exactly_once (run : Run collate history store) : ExactlyOnce collate history store := by
  have faithful := run.faithful
  refine { once := ?_, counted := ?_, told := ?_, atomic := ?_, repeated := ?_ }
  · intro id
    cases found : store.instances.find? id with
    | none => simp [(faithful.absent found).2.1]
    | some current =>
      obtain ⟨creation, _, told⟩ := faithful.present found
      have named : current.id = id := Table.find?_key found
      have same : (store.eventsOf id).map (·.event.id) = (applied history id).map (·.event.id) := by
        have events := congrArg (List.map (·.id)) told.events
        simpa [named, Function.comp_def] using events
      rw [← same]
      exact eventsOf_nodup store id
  · intro current stored
    obtain ⟨creation, _, told⟩ := faithful.present (Table.find?_self stored)
    have events := congrArg List.length told.events
    have transitions := congrArg List.length told.transitions
    simp only [List.length_map] at events transitions
    exact ⟨told.revision.trans events.symm, told.revision.trans transitions.symm⟩
  · intro current stored
    exact faithful.present (Table.find?_self stored)
  · intro call message after performed
    cases perform_outcome performed with
    | threw => rfl
  · rintro input clock ⟨earlier, listed, same⟩
    cases found : store.instances.find? input.instanceId with
    | none =>
      rw [(faithful.absent found).2.1] at listed
      cases listed
    | some current =>
      obtain ⟨creation, _, told⟩ := faithful.present found
      have named : current.id = input.instanceId := Table.find?_key found
      obtain ⟨row, logged, event⟩ : ∃ row ∈ store.eventsOf input.instanceId, row.event = earlier.event := by
        have listed : earlier.event ∈ (store.eventsOf input.instanceId).map (·.event) := by
          rw [← named, told.events]
          exact List.mem_map_of_mem (named ▸ listed)
        simpa using listed
      have recorded : store.events.find? (input.instanceId, input.event.id) = some row := by
        obtain ⟨stored, owned⟩ := List.mem_filter.mp logged
        have owned : row.instanceId = input.instanceId := by simpa using owned
        refine Table.find?_eq_some_iff.mpr ⟨stored, ?_⟩
        simp [WorkflowEventRow.key, owned, event, same]
      refine ⟨current, found, ?_⟩
      simp [perform, answer, advanceWorkflow, transaction, advanceBody, found, recorded]

end Step

/-- Two dispatchers that read the same revision: the second is refused and its
retry is recognised as a repetition. -/
def contended : List (StoreCall String String String) :=
  let event : WorkflowEvent String String := ⟨"timer:1", "timer", "2026-01-01", "{}"⟩
  let ask : WorkflowEffectInput String String := ⟨"effect:1", "notify", "{}", none⟩
  [.createWorkflow ⟨"flow:1", "demo", 1, .running, "{}", some "2026-01-01", []⟩ "2026-01-01",
    .advanceWorkflow ⟨"flow:1", 0, event, .waiting, "{}", some none, [ask]⟩ "2026-01-01",
    .advanceWorkflow ⟨"flow:1", 0, ⟨"reply:1", "reply", "2026-01-01", "{}"⟩, .completed, "{}", none, []⟩ "2026-01-01",
    .advanceWorkflow ⟨"flow:1", 0, event, .waiting, "{}", some none, [ask]⟩ "2026-01-01",
    .advanceWorkflow ⟨"flow:1", 1, ⟨"reply:1", "reply", "2026-01-01", "{}"⟩, .completed, "{}",
      none, [ask]⟩ "2026-01-01"]

/-- The machine the contended calls are replayed on. -/
def contendedMachine : Machine (WorkflowStore String String String)
    (StoreCall String String String) (StoreReply String String String) :=
  machine String String String fun left right => left ≤ right

theorem contended_exactly_once : (contendedMachine.replay contended empty).1.map (·.2) =
        [.created true ⟨"flow:1", "demo", 1, .running, "{}", 0, some "2026-01-01"⟩,
          .advanced true ⟨"flow:1", "demo", 1, .waiting, "{}", 1, none⟩,
          .threw "workflow flow:1 revision conflict",
          .advanced false ⟨"flow:1", "demo", 1, .waiting, "{}", 1, none⟩,
          .threw "UNIQUE constraint failed: workflow_effect.id"] ∧
      ExactlyOnce (fun left right => left ≤ right) (contendedMachine.replay contended empty).1
        (contendedMachine.replay contended empty).2 :=
  ⟨by decide, run_exactly_once (contendedMachine.replay_run contended)⟩

end QuarkSelfAI.Storage.WorkflowStore

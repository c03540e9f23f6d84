import QuarkSelfAI.Storage.WorkflowStore

/-!
# What one workflow store call can do

`Outcome` lists the outcomes of a call with the rows it read and the tables it
left; `perform_outcome` reads it off the operations, and everything later is
proved by cases on it.
-/

namespace QuarkSelfAI.Storage.WorkflowStore

open Foundation

variable {State Payload Time : Type}

/-! ## Inserting effects -/

section Insert

variable {instanceId : String} {clock : Time} {table next : Table (@WorkflowEffectRow.id Payload Time)}
  {effects : List (WorkflowEffectInput Payload Time)}

theorem insertWorkflowEffects_cons {effect : WorkflowEffectInput Payload Time}
    {rest : List (WorkflowEffectInput Payload Time)} :
    insertWorkflowEffects instanceId clock (effect :: rest) table = .ok next ↔
      ∃ middle, table.insert? (effectRow instanceId clock effect) = some middle ∧
        insertWorkflowEffects instanceId clock rest middle = .ok next := by
  rw [insertWorkflowEffects, bind_ok]
  simp only [Table.insertOrThrow_ok]

/-- Inserted effects are appended in order. -/
theorem insertWorkflowEffects_rows (inserted : insertWorkflowEffects instanceId clock effects table = .ok next) :
    next.rows = table.rows ++ effects.map (effectRow instanceId clock) := by
  induction effects generalizing table with
  | nil =>
    cases inserted
    simp
  | cons effect rest ih =>
    obtain ⟨middle, first, others⟩ := insertWorkflowEffects_cons.mp inserted
    rw [ih others, Table.rows_insert first]
    simp

/-- Inserting effects changes no stored one. -/
theorem insertWorkflowEffects_keeps (inserted : insertWorkflowEffects instanceId clock effects table = .ok next)
    {id : String} {row : WorkflowEffectRow Payload Time} (found : table.find? id = some row) :
    next.find? id = some row := by
  obtain ⟨stored, named⟩ := Table.find?_eq_some_iff.mp found
  refine Table.find?_eq_some_iff.mpr ⟨?_, named⟩
  rw [← Table.mem_rows, insertWorkflowEffects_rows inserted]
  exact List.mem_append_left _ stored

/-- Effects can be inserted exactly when their ids are new and differ from each other. -/
theorem insertWorkflowEffects_ok_iff : (∃ next, insertWorkflowEffects instanceId clock effects table = .ok next) ↔
      (effects.map (·.id)).Nodup ∧ ∀ effect ∈ effects, table.find? effect.id = none := by
  induction effects generalizing table with
  | nil => simp [insertWorkflowEffects]
  | cons effect rest ih =>
    constructor
    · rintro ⟨next, inserted⟩
      obtain ⟨middle, first, others⟩ := insertWorkflowEffects_cons.mp inserted
      obtain ⟨distinct, fresh⟩ := ih.mp ⟨next, others⟩
      have absent : ∀ other ∈ rest, table.find? other.id = none ∧ other.id ≠ effect.id := by
        intro other listed
        have gone := fresh other listed
        rw [Table.find?_inserted first] at gone
        split at gone
        · cases gone
        · rename_i different
          exact ⟨gone, different⟩
      refine ⟨?_, ?_⟩
      · refine List.nodup_cons.mpr ⟨?_, distinct⟩
        intro repeated
        obtain ⟨other, listed, same⟩ := List.mem_map.mp repeated
        exact (absent other listed).2 same
      · intro other listed
        rcases List.mem_cons.mp listed with rfl | later
        · exact Table.find?_fresh first
        · exact (absent other later).1
    · rintro ⟨distinct, fresh⟩
      obtain ⟨unlisted, distinct⟩ := List.nodup_cons.mp distinct
      cases first : table.insert? (effectRow instanceId clock effect) with
      | none =>
        obtain ⟨stored, found⟩ := Table.insert?_eq_none_iff.mp first
        have gone := fresh effect List.mem_cons_self
        rw [effectRow_id, gone] at found
        cases found
      | some middle =>
        have later : ∀ other ∈ rest, middle.find? other.id = none := by
          intro other listed
          rw [Table.find?_inserted first, if_neg]
          · exact fresh other (List.mem_cons_of_mem _ listed)
          · intro same
            exact unlisted (List.mem_map.mpr ⟨other, listed, same⟩)
        obtain ⟨next, others⟩ := ih.mpr ⟨distinct, later⟩
        exact ⟨next, insertWorkflowEffects_cons.mpr ⟨middle, first, others⟩⟩

end Insert

/-! ## Outcomes -/

section Outcomes

variable [LinearOrder Time]

inductive Outcome (before : WorkflowStore State Payload Time) :
    StoreCall State Payload Time → StoreReply State Payload Time → WorkflowStore State Payload Time → Prop where
  | threw {call} (message : String) : Outcome before call (.threw message) before
  | recreated {input clock current} (found : before.instances.find? input.id = some current) :
      Outcome before (.createWorkflow input clock) (.created false current) before
  | created {input clock instances effects}
      (instanced : before.instances.insert? (createdRow input) = some instances)
      (requested : insertWorkflowEffects input.id clock input.effects before.effects = .ok effects) :
      Outcome before (.createWorkflow input clock) (.created true (createdRow input))
        { before with instances, effects }
  | repeated {input clock current row}
      (found : before.instances.find? input.instanceId = some current)
      (recorded : before.events.find? (input.instanceId, input.event.id) = some row) :
      Outcome before (.advanceWorkflow input clock) (.advanced false current) before
  | advanced {input clock current events transitions effects}
      (found : before.instances.find? input.instanceId = some current)
      (expected : current.revision = input.expectedRevision)
      (evented : before.events.insert? (eventRow input) = some events)
      (logged : before.transitions.insert? (transitionRow input current) = some transitions)
      (requested : insertWorkflowEffects input.instanceId clock input.effects before.effects = .ok effects) :
      Outcome before (.advanceWorkflow input clock) (.advanced true (advancedRow input current))
        { instances := before.instances.update input.instanceId (advancedRow input) fun _ => rfl
          events, transitions, effects }
  | idle {workerId now leaseExpiresAt} (nothing : before.nextEffect now = none) :
      Outcome before (.claimNextWorkflowEffect workerId now leaseExpiresAt) (.claimed none) before
  | claimed {workerId now leaseExpiresAt effect}
      (next : before.nextEffect now = some effect)
      (found : before.effects.find? effect.id = some effect)
      (claimable : effectClaimable now effect) :
      Outcome before (.claimNextWorkflowEffect workerId now leaseExpiresAt)
        (.claimed (some (claimedEffect effect)))
        { before with
          effects := before.effects.update effect.id (dispatchingEffect workerId leaseExpiresAt)
            fun _ => rfl }
  | settled {effectId workerId deliveredAt effect}
      (owned : before.ownedEffect effectId workerId = some effect) :
      Outcome before (.settleWorkflowEffect effectId workerId deliveredAt) .settled
        { before with
          effects := before.effects.update effectId (settledEffect deliveredAt) fun _ => rfl }
  | released {effectId workerId error availableAt terminal effect}
      (owned : before.ownedEffect effectId workerId = some effect) :
      Outcome before (.releaseWorkflowEffect effectId workerId error availableAt terminal) .released
        { before with
          effects := before.effects.update effectId (releasedEffect error availableAt terminal)
            fun _ => rfl }

variable {before after store : WorkflowStore State Payload Time} {effect : WorkflowEffectRow Payload Time}

omit [LinearOrder Time] in
theorem ownedEffect_eq_some {effectId workerId : String} : store.ownedEffect effectId workerId = some effect ↔
      store.effects.find? effectId = some effect ∧
        effect.status = .dispatching ∧ effect.leaseOwner = some workerId := by
  simp [ownedEffect, Option.filter_eq_some_iff]

theorem nextEffect_spec {now : Time} (next : store.nextEffect now = some effect) :
    store.effects.find? effect.id = some effect ∧ effectClaimable now effect := by
  have listed := List.argmin_mem next
  obtain ⟨stored, claimable⟩ := List.mem_filter.mp listed
  exact ⟨Table.find?_self stored, claimable⟩

omit [LinearOrder Time] in
theorem answer_cases {α : Type} {reply : α → StoreReply State Payload Time}
    {outcome : Except String α × WorkflowStore State Payload Time}
    {given : StoreReply State Payload Time} (answered : answer reply outcome = (given, after)) :
    (∃ result, outcome = (.ok result, after) ∧ given = reply result) ∨
      ∃ message, outcome = (.error message, after) ∧ given = .threw message := by
  obtain ⟨result, left⟩ := outcome
  cases result with
  | ok result =>
    obtain ⟨rfl, rfl⟩ : reply result = given ∧ left = after := by simpa [answer] using answered
    exact .inl ⟨result, rfl, rfl⟩
  | error message =>
    obtain ⟨rfl, rfl⟩ : StoreReply.threw message = given ∧ left = after := by
      simpa [answer] using answered
    exact .inr ⟨message, rfl, rfl⟩

variable [DecidableEq State] [DecidableEq Payload] {collate : String → String → Bool}
  {current : WorkflowInstance State Time}

theorem createBody_outcome {input : CreateWorkflowInput State Payload Time} {clock : Time} {inserted : Bool}
    (done : createBody collate input clock before = .ok ((inserted, current), after)) :
    Outcome before (.createWorkflow input clock) (.created inserted current) after := by
  unfold createBody at done
  split at done
  · split at done
    · cases done
    · rename_i row found
      split at done
      · cases done
      · split at done
        · cases done
        · cases done
          exact .recreated found
  · rename_i instances instanced
    obtain ⟨effects, requested, done⟩ := bind_ok.mp done
    cases done
    exact .created instanced requested

omit [DecidableEq State] [DecidableEq Payload] in
theorem advanceBody_outcome {input : AdvanceWorkflowInput State Payload Time} {clock : Time} {advanced : Bool}
    (done : advanceBody input clock before = .ok ((advanced, current), after)) :
    Outcome before (.advanceWorkflow input clock) (.advanced advanced current) after := by
  unfold advanceBody at done
  split at done
  · cases done
  · rename_i row found
    split at done
    · rename_i recorded
      cases done
      exact .repeated found recorded
    · split at done
      · cases done
      · rename_i expected
        obtain ⟨events, evented, done⟩ := bind_ok.mp done
        obtain ⟨transitions, logged, done⟩ := bind_ok.mp done
        obtain ⟨effects, requested, done⟩ := bind_ok.mp done
        cases done
        exact .advanced found (not_not.mp expected) (Table.insertOrThrow_ok.mp evented)
          (Table.insertOrThrow_ok.mp logged) requested

/-- Every answered call has one of the listed outcomes. -/
theorem perform_outcome {call : StoreCall State Payload Time} {reply : StoreReply State Payload Time}
    (performed : perform collate call before = (reply, after)) : Outcome before call reply after := by
  cases call with
  | createWorkflow input clock =>
    rcases answer_cases performed with ⟨_, done, rfl⟩ | ⟨message, failed, rfl⟩
    · exact createBody_outcome (transaction_ok.mp done)
    · obtain ⟨_, rfl⟩ := transaction_error.mp failed
      exact .threw message
  | advanceWorkflow input clock =>
    rcases answer_cases performed with ⟨_, done, rfl⟩ | ⟨message, failed, rfl⟩
    · exact advanceBody_outcome (transaction_ok.mp done)
    · obtain ⟨_, rfl⟩ := transaction_error.mp failed
      exact .threw message
  | claimNextWorkflowEffect workerId now leaseExpiresAt =>
    rcases answer_cases performed with ⟨_, done, rfl⟩ | ⟨message, failed, rfl⟩
    · unfold claimNextWorkflowEffect at done
      split at done
      · rename_i nothing
        cases done
        exact .idle nothing
      · rename_i effect next
        cases done
        exact .claimed next (nextEffect_spec next).1 (nextEffect_spec next).2
    · unfold claimNextWorkflowEffect at failed
      split at failed <;> cases failed
  | settleWorkflowEffect effectId workerId deliveredAt =>
    rcases answer_cases performed with ⟨_, done, rfl⟩ | ⟨message, failed, rfl⟩
    · unfold settleWorkflowEffect at done
      split at done
      · cases done
      · rename_i effect owned
        cases done
        exact .settled owned
    · unfold settleWorkflowEffect at failed
      split at failed
      · cases failed
        exact .threw _
      · cases failed
  | releaseWorkflowEffect effectId workerId error availableAt terminal =>
    rcases answer_cases performed with ⟨_, done, rfl⟩ | ⟨message, failed, rfl⟩
    · unfold releaseWorkflowEffect at done
      split at done
      · cases done
      · rename_i effect owned
        cases done
        exact .released owned
    · unfold releaseWorkflowEffect at failed
      split at failed
      · cases failed
        exact .threw _
      · cases failed

theorem step_outcome {entry : StoreCall State Payload Time × StoreReply State Payload Time}
    (transition : (machine State Payload Time collate).system.Step before entry after) :
    Outcome before entry.1 entry.2 after :=
  perform_outcome transition

end Outcomes

end QuarkSelfAI.Storage.WorkflowStore

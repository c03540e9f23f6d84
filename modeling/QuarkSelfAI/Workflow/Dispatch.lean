import QuarkSelfAI.Storage.WorkflowSteps
import QuarkSelfAI.Workflow.Runtime

/-!
# What one dispatch can do

Between two store calls of one process nothing else touches the store, so the
first attempt of the retry loop decides: `dispatch_eq_attempt`. `Dispatched` lists
what an attempt can do, with the rows it read and the store it left.
-/

namespace QuarkSelfAI.Workflow.Runtime

open Foundation Storage Storage.WorkflowStore

variable {State : Type} {runtime : Runtime State} {current : Instance State} {event : Event}
  {input : AdvanceWorkflowInput State JsValue Timestamp} {instanceId : String} {clock : Timestamp}
  {before after : Store State} {reply : Except String (Instance State)} {row : Instance State}

/-! ## decide -/

/-- An advance is decided by a registered definition of the stored version, and
carries the instance and the event it was computed for. -/
theorem decide_ok_iff : runtime.decide current event = .ok input ↔
    ∃ definition decision, runtime.definitions current.kind = some definition ∧
      definition.version = current.definitionVersion ∧
      definition.reduce current.state event = .ok decision ∧ decision.Valid definition.members ∧
      input = advanceInput current event decision := by
  unfold decide definition
  constructor
  · intro decided
    obtain ⟨definition, registered, decided⟩ := bind_ok.mp decided
    split at registered
    · cases registered
    · rename_i found
      cases registered
      split at decided
      · simp [bind, Except.bind] at decided
      · rename_i version
        obtain ⟨_, reduced, decided⟩ := bind_ok.mp decided
        obtain ⟨decision, validated, made⟩ := bind_ok.mp decided
        obtain ⟨rfl, valid⟩ := WorkflowDecision.validateDecision_ok_iff.mp validated
        cases made
        exact ⟨definition, _, found, not_not.mp version, reduced, valid, rfl⟩
  · rintro ⟨definition, decision, found, version, reduced, valid, rfl⟩
    have validated := WorkflowDecision.validateDecision_ok_iff.mpr ⟨rfl, valid⟩
    simp [found, version, reduced, validated, bind, Except.bind, pure, Except.pure]

theorem decide_carries (decided : runtime.decide current event = .ok input) :
    input.instanceId = current.id ∧ input.expectedRevision = current.revision ∧ input.event = event := by
  obtain ⟨_, _, _, _, _, _, rfl⟩ := decide_ok_iff.mp decided
  exact ⟨rfl, rfl, rfl⟩

/-! ## One attempt -/

/-- One trip round the loop of `dispatch`. -/
def attempt (runtime : Runtime State) (instanceId : String) (event : Event) (clock : Timestamp)
    (store : Store State) : Except String (Instance State) × Store State :=
  match store.workflow instanceId with
  | none => (.error s!"workflow {instanceId} does not exist", store)
  | some current =>
    match runtime.decide current event with
    | .error message => (.error message, store)
    | .ok input =>
      match store.advanceWorkflow input clock with
      | (.ok (_, current), store) => (.ok current, store)
      | (.error message, store) => (.error message, store)

theorem dispatchLoop_eq_attempt (attempts : Nat) : runtime.dispatchLoop instanceId event clock (attempts + 1) before =
      runtime.attempt instanceId event clock before := by
  induction attempts with
  | zero =>
    unfold dispatchLoop attempt
    cases found : before.workflow instanceId with
    | none => rfl
    | some current =>
      cases decided : runtime.decide current event with
      | error message => simp [decided]
      | ok input =>
        simp only [decided]
        rcases advanced : before.advanceWorkflow input clock with ⟨_ | _, store⟩
        · simp
        · simp
  | succ attempts ih =>
    unfold dispatchLoop attempt
    cases found : before.workflow instanceId with
    | none => rfl
    | some current =>
      cases decided : runtime.decide current event with
      | error message => simp [decided]
      | ok input =>
        simp only [decided]
        rcases advanced : before.advanceWorkflow input clock with ⟨message | _, store⟩
        · -- A refused advance leaves the store as it was, so the next trip ends the same way.
          obtain ⟨_, rfl⟩ := transaction_error.mp advanced
          simp [ih, attempt, found, decided, advanced]
        · simp

theorem dispatch_eq_attempt : runtime.dispatch instanceId event clock before =
    runtime.attempt instanceId event clock before :=
  dispatchLoop_eq_attempt 2

/-- What a dispatch did to the store it found. -/
inductive Dispatched (runtime : Runtime State) (instanceId : String) (event : Event)
    (clock : Timestamp) (store : Store State) :
    Except String (Instance State) → Store State → Prop where
  | threw (message : String) :
      Dispatched runtime instanceId event clock store (.error message) store
  | repeated {row input earlier} (found : store.workflow instanceId = some row)
      (decided : runtime.decide row event = .ok input)
      (recorded : store.events.find? (instanceId, event.id) = some earlier) :
      Dispatched runtime instanceId event clock store (.ok row) store
  | advanced {row input next} (found : store.workflow instanceId = some row)
      (decided : runtime.decide row event = .ok input)
      (unrecorded : store.events.find? (instanceId, event.id) = none)
      (applied : store.advanceWorkflow input clock = (.ok (true, advancedRow input row), next)) :
      Dispatched runtime instanceId event clock store (.ok (advancedRow input row)) next

/-- The answer of an advance computed from the stored row. -/
theorem advanceWorkflow_cases {advanced : Bool} (found : before.workflow input.instanceId = some current)
    (done : before.advanceWorkflow input clock = (.ok (advanced, row), after)) :
    (advanced = false ∧ row = current ∧ after = before ∧
        ∃ recorded, before.events.find? (input.instanceId, input.event.id) = some recorded) ∨
      (advanced = true ∧ row = advancedRow input current ∧
        before.events.find? (input.instanceId, input.event.id) = none) := by
  have outcome := advanceBody_outcome (transaction_ok.mp done)
  cases outcome with
  | repeated stored recorded =>
    rw [workflow, stored] at found
    cases found
    exact .inl ⟨rfl, rfl, rfl, _, recorded⟩
  | advanced stored expected evented logged requested =>
    rw [workflow, stored] at found
    cases found
    exact .inr ⟨rfl, rfl, Table.find?_fresh evented⟩

theorem dispatch_spec (dispatched : runtime.dispatch instanceId event clock before = (reply, after)) :
    Dispatched runtime instanceId event clock before reply after := by
  rw [dispatch_eq_attempt, attempt] at dispatched
  split at dispatched
  · cases dispatched
    exact .threw _
  · rename_i current found
    have named : current.id = instanceId := Table.find?_key found
    split at dispatched
    · cases dispatched
      exact .threw _
    · rename_i input decided
      obtain ⟨target, _, sent⟩ := decide_carries decided
      have here : before.workflow input.instanceId = some current := by rw [target, named, found]
      split at dispatched
      · rename_i advanced row store done
        cases dispatched
        rcases advanceWorkflow_cases here done with
          ⟨rfl, rfl, rfl, recorded, listed⟩ | ⟨rfl, rfl, unlisted⟩
        · exact .repeated found decided (by rwa [target, named, sent] at listed)
        · exact .advanced found decided (by rwa [target, named, sent] at unlisted) done
      · rename_i message store refused
        cases dispatched
        obtain ⟨_, rfl⟩ := transaction_error.mp refused
        exact .threw _

/-! ## What a dispatch leaves in the event log -/

/-- The event ids recorded for an instance. -/
def recorded (store : Store State) (instanceId eventId : String) : Bool :=
  (store.events.find? (instanceId, eventId)).isSome

/-- The log after an applied advance. -/
theorem recorded_advanced (applied : before.advanceWorkflow input clock = (.ok (true, row), after))
    (id eventId : String) : recorded after id eventId =
      (recorded before id eventId || (id = input.instanceId ∧ eventId = input.event.id : Bool)) := by
  cases advanceBody_outcome (transaction_ok.mp applied) with
  | advanced _ _ evented _ _ =>
    rw [recorded, Table.find?_inserted evented, eventRow_key, recorded]
    by_cases same : id = input.instanceId ∧ eventId = input.event.id
    · simp [same]
    · have different : (id, eventId) ≠ (input.instanceId, input.event.id) := by
        intro equal
        exact same (Prod.mk.injEq .. ▸ equal)
      rw [if_neg different]
      simp [same]

/-- The instances after an applied advance. -/
theorem workflow_advanced (applied : before.advanceWorkflow input clock = (.ok (true, row), after)) (id : String) :
    after.workflow id = if id = input.instanceId then some row else before.workflow id := by
  cases advanceBody_outcome (transaction_ok.mp applied) with
  | advanced found =>
    have keeps : ∀ row, (advancedRow input row).id = row.id := advancedRow_id input
    change (before.instances.update input.instanceId (advancedRow input) keeps).find? id = _
    rw [Table.find?_update]
    split
    · rename_i same
      rw [same, found, Option.map_some]
    · rfl

/-- A dispatch touches its own instance alone. -/
theorem workflow_dispatched (dispatched : runtime.dispatch instanceId event clock before = (reply, after))
    {id : String} (foreign : instanceId ≠ id) : after.workflow id = before.workflow id := by
  cases dispatch_spec dispatched with
  | threw | repeated => rfl
  | @advanced current input next found decided unrecorded applied =>
    have target : input.instanceId = instanceId := (decide_carries decided).1.trans (Table.find?_key found)
    rw [workflow_advanced applied, target, if_neg foreign.symm]

/-- A dispatch that returns has recorded its event and no other. -/
theorem recorded_dispatched (dispatched : runtime.dispatch instanceId event clock before = (.ok row, after))
    (id eventId : String) : recorded after id eventId =
      (recorded before id eventId || (id = instanceId ∧ eventId = event.id : Bool)) := by
  have spec := dispatch_spec dispatched
  generalize returned : (Except.ok row : Except String (Instance State)) = reply at spec
  cases spec with
  | threw message => cases returned
  | repeated found decided listed =>
    by_cases same : id = instanceId ∧ eventId = event.id
    · simp [recorded, same, listed]
    · simp [same]
  | @advanced current input next found decided unlisted applied =>
    obtain ⟨target, _, sent⟩ := decide_carries decided
    have named : current.id = instanceId := Table.find?_key found
    rw [recorded_advanced applied, target, named, sent]

end QuarkSelfAI.Workflow.Runtime

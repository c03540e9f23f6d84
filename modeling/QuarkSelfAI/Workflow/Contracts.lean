import Mathlib.Data.List.Nodup
import QuarkSelfAI.Foundation.IsoTime
import QuarkSelfAI.Foundation.JsValue
import QuarkSelfAI.Storage.WorkflowStore

/-!
# Workflow definitions and their decisions

A definition is a pure pair of functions over its own state type. Timestamps are
instants, written by `toISOString` where a text is needed. `members` names the
parts of a state that hold event payload as it came in: all other parts are
strings, numbers and records by construction, so only these can make a state no
JSON value.
-/

namespace QuarkSelfAI.Workflow

open Foundation Storage

abbrev Event := WorkflowEvent JsValue Timestamp

abbrev EffectInput := WorkflowEffectInput JsValue Timestamp

/-- An absent `wakeAt` preserves the current wake-up, `some none` clears it. -/
structure WorkflowDecision (State : Type) where
  status : WorkflowStatus
  state : State
  wakeAt : Option (Option Timestamp)
  effects : List EffectInput

structure WorkflowDefinition (State : Type) where
  kind : String
  version : Nat
  initialise : JsValue → Timestamp → Except String (WorkflowDecision State)
  reduce : State → Event → Except String (WorkflowDecision State)
  members : State → List (String × JsValue)

namespace WorkflowDecision

variable {State : Type}

/-- Keep the state and the wake time and ask for nothing. -/
def keep (status : WorkflowStatus) (state : State) : WorkflowDecision State :=
  { status, state, wakeAt := none, effects := [] }

def validateEffects : List EffectInput → Except String Unit
  | [] => .ok ()
  | effect :: rest => do
    if isBlank effect.id ∨ isBlank effect.kind then
      .error "workflow effects require non-empty id and kind"
    JsValue.assertJsonValue effect.payload s!"workflow effect {effect.id} payload"
    validateEffects rest

def validateDecision (members : State → List (String × JsValue))
    (decision : WorkflowDecision State) : Except String (WorkflowDecision State) := do
  JsValue.assertJsonValue (.object (members decision.state)) "workflow state"
  if ¬ (decision.effects.map (·.id)).Nodup then
    .error "workflow effect ids must be unique within a decision"
  validateEffects decision.effects
  return decision

/-- What `validateDecision` accepts. -/
structure Valid (members : State → List (String × JsValue)) (decision : WorkflowDecision State) : Prop where
  state : JsValue.haveJson (members decision.state)
  distinct : (decision.effects.map (·.id)).Nodup
  effects : ∀ effect ∈ decision.effects,
    isBlank effect.id = false ∧ isBlank effect.kind = false ∧ JsValue.isJson effect.payload

theorem validateEffects_ok_iff {effects : List EffectInput} : validateEffects effects = .ok () ↔ ∀ effect ∈ effects,
      isBlank effect.id = false ∧ isBlank effect.kind = false ∧ JsValue.isJson effect.payload := by
  induction effects with
  | nil => simp [validateEffects]
  | cons effect rest ih =>
    rw [validateEffects, List.forall_mem_cons, ← ih]
    by_cases blank : isBlank effect.id ∨ isBlank effect.kind
    · have refused : ¬ (isBlank effect.id = false ∧ isBlank effect.kind = false) := by
        rintro ⟨id, kind⟩
        simp [id, kind] at blank
      simp only [blank, if_true, bind, Except.bind]
      constructor
      · intro impossible
        cases impossible
      · rintro ⟨⟨id, kind, _⟩, _⟩
        exact (refused ⟨id, kind⟩).elim
    · have named : isBlank effect.id = false ∧ isBlank effect.kind = false := by
        simpa [not_or] using blank
      simp only [named.1, named.2, true_and, ← JsValue.assertJsonValue_ok_iff
        effect.payload s!"workflow effect {effect.id} payload"]
      cases JsValue.assertJsonValue effect.payload s!"workflow effect {effect.id} payload" with
      | error | ok => simp [bind, Except.bind]

theorem validateDecision_ok_iff {members : State → List (String × JsValue)} {decision result : WorkflowDecision State} :
    validateDecision members decision = .ok result ↔ result = decision ∧ decision.Valid members := by
  have state := JsValue.assertJsonValue_ok_iff (.object (members decision.state)) "workflow state"
  rw [JsValue.isJson] at state
  unfold validateDecision
  constructor
  · intro accepted
    obtain ⟨_, json, accepted⟩ := bind_ok.mp accepted
    split at accepted
    · simp [bind, Except.bind] at accepted
    · rename_i distinct
      obtain ⟨_, checked, accepted⟩ := bind_ok.mp accepted
      cases accepted
      exact ⟨rfl, state.mp json, not_not.mp distinct, validateEffects_ok_iff.mp checked⟩
  · rintro ⟨rfl, valid⟩
    rw [state.mpr valid.state]
    simp only [valid.distinct, not_true_eq_false, if_false]
    rw [validateEffects_ok_iff.mpr valid.effects]
    rfl

end WorkflowDecision

end QuarkSelfAI.Workflow

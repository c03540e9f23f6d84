import QuarkSelfAI.Foundation.IsoOrder
import QuarkSelfAI.Workflow.Contracts

/-!
# Due times as texts

A decision carries its times as texts, and `validateDecision` accepts every text
that `Date` can parse. The SQLite store keeps the text and compares it with the
canonical text of now; the Postgres store compares instants. Which texts `Date`
parses beyond the ISO forms is up to the host, so `parse` is a parameter.
-/

namespace QuarkSelfAI.Workflow

open Foundation Storage

/-- A decision as the definitions write it, with its times as texts. -/
structure WrittenDecision (State : Type) where
  status : WorkflowStatus
  state : State
  wakeAt : Option (Option String)
  effects : List (WorkflowEffectInput JsValue String)
deriving DecidableEq

namespace WrittenDecision

variable {State : Type} (parse : String → Option Timestamp)

/-- `Number.isNaN(new Date(text).getTime())`. -/
def isInvalidDate (text : String) : Bool := (parse text).isNone

/-- An empty `availableAt` is not checked. -/
def validateEffects : List (WorkflowEffectInput JsValue String) → Except String Unit
  | [] => .ok ()
  | effect :: rest => do
    if isBlank effect.id ∨ isBlank effect.kind then
      .error "workflow effects require non-empty id and kind"
    if effect.availableAt.any fun text => text ≠ "" && isInvalidDate parse text then
      .error s!"workflow effect {effect.id} has invalid availableAt"
    JsValue.assertJsonValue effect.payload s!"workflow effect {effect.id} payload"
    validateEffects rest

def validateDecision (members : State → List (String × JsValue)) (decision : WrittenDecision State) :
    Except String (WrittenDecision State) := do
  JsValue.assertJsonValue (.object (members decision.state)) "workflow state"
  if decision.wakeAt.join.any (isInvalidDate parse) then
    .error "workflow wakeAt must be an ISO timestamp"
  if ¬ (decision.effects.map (·.id)).Nodup then
    .error "workflow effect ids must be unique within a decision"
  validateEffects parse decision.effects
  return decision

variable {parse} {decision accepted : WrittenDecision State}
  {members : State → List (String × JsValue)}

theorem parsed_of_valid {text : String} (valid : isInvalidDate parse text = false) :
    ∃ instant, parse text = some instant := by
  cases parsed : parse text with
  | none => simp [isInvalidDate, parsed] at valid
  | some instant => exact ⟨instant, rfl⟩

theorem validateEffects_times {effects : List (WorkflowEffectInput JsValue String)}
    (valid : validateEffects parse effects = .ok ()) : ∀ effect ∈ effects, ∀ text, effect.availableAt = some text →
      text = "" ∨ ∃ instant, parse text = some instant := by
  induction effects with
  | nil => simp
  | cons effect rest ih =>
    simp only [validateEffects, bind, Except.bind] at valid
    intro listed among text available
    split at valid
    · cases valid
    · split at valid
      · cases valid
      · rename_i passed
        split at valid
        · cases valid
        · rcases List.mem_cons.mp among with rfl | later
          · refine or_iff_not_imp_left.mpr fun filled => parsed_of_valid ?_
            simpa [available, filled] using passed
          · exact ih valid listed later text available

/-- What an accepted decision says about its times. -/
theorem validateDecision_times (valid : decision.validateDecision parse members = .ok accepted) :
    (∀ text, decision.wakeAt = some (some text) → ∃ instant, parse text = some instant) ∧
      validateEffects parse decision.effects = .ok () := by
  simp only [validateDecision, bind, Except.bind] at valid
  split at valid
  · cases valid
  · split at valid
    · cases valid
    · rename_i passed
      refine ⟨fun text wakes => parsed_of_valid (by simpa [wakes] using passed), ?_⟩
      split at valid
      · cases valid
      · split at valid
        · cases valid
        · rename_i checked
          exact checked

end WrittenDecision

/-! ## Stored texts and instants -/

/-- The instant a text denotes has come. -/
def Reached (parse : String → Option Timestamp) (text : String) (now : Timestamp) : Prop :=
  ∃ instant, parse text = some instant ∧ instant ≤ now

/-- The text of now stands between a stored text and the canonical text of its instant. -/
def Between (text : String) (instant now : Timestamp) : Prop :=
  text ≤ toISOString now ∧ toISOString now < toISOString instant ∨
    toISOString instant ≤ toISOString now ∧ toISOString now < text

/-- The text stands on the right side of now. Outside of the years with four digits
two errors have to cancel: the canonical texts do not sort like their instants. -/
def SortsRightly (parse : String → Option Timestamp) (text : String) (now : Timestamp) : Prop :=
  ∃ instant, parse text = some instant ∧
    if FourDigitYear instant ∧ FourDigitYear now then ¬ Between text instant now
    else (Between text instant now ↔ ¬ (toISOString instant ≤ toISOString now ↔ instant ≤ now))

theorem between_iff {text : String} {instant now : Timestamp} : Between text instant now ↔
      ¬ (text ≤ toISOString now ↔ toISOString instant ≤ toISOString now) := by
  unfold Between
  rw [← not_le, ← not_le]
  exact xor_iff_not_iff _ _

/-- Comparing the texts is comparing the instants exactly when the text sorts rightly. -/
theorem reached_iff {parse : String → Option Timestamp} {text : String} {now : Timestamp}
    (parsed : text = "" ∨ ∃ instant, parse text = some instant) :
    ((text ≤ toISOString now ↔ Reached parse text now) ↔ SortsRightly parse text now) := by
  cases denotes : parse text with
  | none =>
    obtain rfl : text = "" := by simpa [denotes] using parsed
    have least : "" ≤ toISOString now := not_lt.mp fun less => List.not_lt_nil _ (String.lt_iff_toList_lt.mp less)
    simp [Reached, SortsRightly, denotes, least]
  | some instant =>
    have reached : Reached parse text now ↔ instant ≤ now := by simp [Reached, denotes]
    have sorts : SortsRightly parse text now ↔
        (Between text instant now ↔ ¬ (toISOString instant ≤ toISOString now ↔ instant ≤ now)) := by
      simp only [SortsRightly, denotes, Option.some.injEq, exists_eq_left']
      split
      · rename_i years
        have ordered := toISOString_le_iff years.1 years.2
        simp [ordered]
      · rfl
    rw [reached, sorts, between_iff]
    by_cases stored : text ≤ toISOString now
    · by_cases canonical : toISOString instant ≤ toISOString now <;> simp [stored, canonical]
    · by_cases canonical : toISOString instant ≤ toISOString now <;> simp [stored, canonical]

/-! ## The rows the SQLite store selects -/

section Rows

variable {State : Type} {store : WorkflowStore State JsValue String} {parse : String → Option Timestamp}
  {text : String} {now : Timestamp}

/-- A limit that cuts nothing off leaves the rows of the `WHERE` clause. -/
theorem mem_dueWorkflows {row : WorkflowInstance State String} {reading : String} {limit : Nat}
    (wide : store.instances.rows.length ≤ limit) : row ∈ store.dueWorkflows reading limit ↔
      row ∈ store.instances ∧ WorkflowStore.due reading row := by
  have whole : ((store.instances.rows.filter (WorkflowStore.due reading)).insertionSort
      fun left right => WorkflowStore.wakesBefore left right).length ≤ limit := by
    rw [List.length_insertionSort]
    exact (List.length_filter_le _ _).trans wide
  rw [WorkflowStore.dueWorkflows, List.take_of_length_le whole, List.mem_insertionSort, List.mem_filter]
  rfl

/-- `dueWorkflows` selects the instances that wake at a text when its instant has come. -/
def SelectsInstances (State : Type) (parse : String → Option Timestamp) (text : String) (now : Timestamp) : Prop :=
  ∀ store : WorkflowStore State JsValue String, ∀ row ∈ store.instances, row.wakeAt = some text →
    row.status = .running ∨ row.status = .waiting → ∀ limit, store.instances.rows.length ≤ limit →
      (row ∈ store.dueWorkflows (toISOString now) limit ↔ Reached parse text now)

/-- `claimNextWorkflowEffect` selects an open effect that is available at a text,
where no other effect competes with it, when the instant of the text has come. -/
def SelectsEffects (State : Type) (parse : String → Option Timestamp) (text : String) (now : Timestamp) : Prop :=
  ∀ store : WorkflowStore State JsValue String, ∀ row ∈ store.effects, row.availableAt = text →
    WorkflowStore.effectOpen (toISOString now) row →
      (∀ other ∈ store.effects, WorkflowStore.effectClaimable (toISOString now) other → other = row) →
        ∀ workerId leaseExpiresAt, ((store.claimNextWorkflowEffect workerId (toISOString now) leaseExpiresAt).1 =
            .ok (some (WorkflowStore.claimedEffect row)) ↔ Reached parse text now)

theorem selectsInstances_iff (state : State) :
    SelectsInstances State parse text now ↔ (text ≤ toISOString now ↔ Reached parse text now) := by
  constructor
  · intro selects
    let row : WorkflowInstance State String :=
      { id := "", kind := "", definitionVersion := 1, status := .waiting, state, revision := 0
        wakeAt := some text }
    let store : WorkflowStore State JsValue String :=
      { WorkflowStore.empty with instances := ⟨[row], List.nodup_singleton _⟩ }
    have listed : row ∈ store.instances := List.mem_singleton_self row
    have wide : store.instances.rows.length ≤ 1 := le_rfl
    rw [← selects store row listed rfl (.inr rfl) 1 wide, mem_dueWorkflows wide]
    simp [listed, row, WorkflowStore.due, WorkflowStore.wakeReached]
  · intro agrees store row listed wakes status limit wide
    rw [← agrees, mem_dueWorkflows wide]
    simp [listed, WorkflowStore.due, WorkflowStore.wakeReached, wakes, status]

/-- An effect without a competitor is claimed exactly when it meets the `WHERE` clause. -/
theorem claims_alone_iff {row : WorkflowEffectRow JsValue String} {reading : String} (listed : row ∈ store.effects)
    (alone : ∀ other ∈ store.effects, WorkflowStore.effectClaimable reading other → other = row)
    (workerId leaseExpiresAt : String) : (store.claimNextWorkflowEffect workerId reading leaseExpiresAt).1 =
        .ok (some (WorkflowStore.claimedEffect row)) ↔
      WorkflowStore.effectClaimable reading row := by
  cases next : store.nextEffect reading with
  | none =>
    have empty := List.argmin_eq_none.mp next
    have missing : ¬ WorkflowStore.effectClaimable reading row := by
      intro claimable
      have selected : row ∈ store.effects.rows.filter (WorkflowStore.effectClaimable reading) :=
        List.mem_filter.mpr ⟨listed, claimable⟩
      rw [empty] at selected
      cases selected
    simp [WorkflowStore.claimNextWorkflowEffect, next, missing]
  | some effect =>
    obtain ⟨stored, claimable⟩ := List.mem_filter.mp (List.argmin_mem next)
    obtain rfl : effect = row := alone effect stored claimable
    simp [WorkflowStore.claimNextWorkflowEffect, next, claimable]

theorem selectsEffects_iff :
    SelectsEffects State parse text now ↔ (text ≤ toISOString now ↔ Reached parse text now) := by
  constructor
  · intro selects
    let row : WorkflowEffectRow JsValue String :=
      { id := "", instanceId := "", kind := "", payload := .null, status := .pending, attempt := 0
        availableAt := text, leaseOwner := none, leaseExpiresAt := none, lastError := none
        deliveredAt := none, createdAt := "" }
    let store : WorkflowStore State JsValue String :=
      { WorkflowStore.empty with effects := ⟨[row], List.nodup_singleton _⟩ }
    have listed : row ∈ store.effects := List.mem_singleton_self row
    have alone : ∀ other ∈ store.effects, WorkflowStore.effectClaimable (toISOString now) other → other = row :=
      fun other among _ => List.mem_singleton.mp among
    rw [← selects store row listed rfl rfl alone "" "", claims_alone_iff listed alone]
    simp [row, WorkflowStore.effectClaimable, WorkflowStore.effectOpen]
  · intro agrees store row listed available opened alone workerId leaseExpiresAt
    rw [← agrees, claims_alone_iff listed alone, WorkflowStore.effectClaimable]
    simp [available, opened]

/-- For every accepted decision and every now, the SQLite store selects by the
instants of the decision's times exactly where their texts sort rightly. -/
theorem accepted_due_iff {members : State → List (String × JsValue)} {decision accepted : WrittenDecision State}
    (valid : decision.validateDecision parse members = .ok accepted) (now : Timestamp) :
    (∀ text, decision.wakeAt = some (some text) →
      (SelectsInstances State parse text now ↔ SortsRightly parse text now)) ∧
    ∀ effect ∈ decision.effects, ∀ text, effect.availableAt = some text →
      (SelectsEffects State parse text now ↔ SortsRightly parse text now) := by
  obtain ⟨wakeAt, effects⟩ := WrittenDecision.validateDecision_times valid
  constructor
  · intro text wakes
    rw [selectsInstances_iff decision.state]
    exact reached_iff (.inr (wakeAt text wakes))
  · intro effect listed text available
    rw [selectsEffects_iff]
    exact reached_iff (WrittenDecision.validateEffects_times effects effect listed text available)

end Rows

/-- A decision that wakes at a text. -/
def wakingAt (text : String) : WrittenDecision Unit :=
  { status := .waiting, state := (), wakeAt := some (some text), effects := [] }

/-- `Date.parse` on midnight of the first of January 2026, in two spellings. -/
def parseMidnight (text : String) : Option Timestamp :=
  if text ∈ ["2026-01-01T00:00:00.000Z", "2026-01-01T08:00:00+08:00"] then some 1767225600000
  else none

/-- One second after midnight, the canonical spelling is due. -/
theorem canonical_selected : SelectsInstances Unit parseMidnight "2026-01-01T00:00:00.000Z" 1767225601000 := by
  have valid : (wakingAt "2026-01-01T00:00:00.000Z").validateDecision parseMidnight (fun _ => []) =
      .ok (wakingAt "2026-01-01T00:00:00.000Z") := by decide +kernel
  refine ((accepted_due_iff valid 1767225601000).1 _ rfl).mpr ⟨1767225600000, by decide +kernel, ?_⟩
  rw [if_pos (by decide +kernel)]
  unfold Between
  decide +kernel

/-- One second after midnight, the spelling with an offset is not selected. -/
theorem offset_not_selected : (wakingAt "2026-01-01T08:00:00+08:00").validateDecision parseMidnight (fun _ => []) =
        .ok (wakingAt "2026-01-01T08:00:00+08:00") ∧
      ¬ SelectsInstances Unit parseMidnight "2026-01-01T08:00:00+08:00" 1767225601000 := by
  refine ⟨by decide +kernel, ?_⟩
  intro selects
  have reached : Reached parseMidnight "2026-01-01T08:00:00+08:00" 1767225601000 :=
    ⟨1767225600000, by decide +kernel, by decide⟩
  have stored := ((selectsInstances_iff ()).mp selects).mpr reached
  revert stored
  decide +kernel

end QuarkSelfAI.Workflow

import QuarkSelfAI.Storage.LedgerApproval
import QuarkSelfAI.Storage.WorkflowHistory

/-!
# Repeated calls

A caller that does not know whether its call was carried out repeats it. The store answers a repetition
with `inserted: false` when what it finds is what the call asks for. Both comparisons are narrower or
stricter than that: `enqueueAction` compares three of the stored columns, and `createWorkflow` compares
the effects position by position in two different orders.
-/

namespace QuarkSelfAI.Storage

open Foundation

/-! ## Actions -/

namespace Ledger

variable {Time : Type}

/-- Two inputs agree on everything that is stored for the action. -/
def Agree (one other : DurableActionInput) : Prop :=
  requestOf one = requestOf other ∧ one.matterId = other.matterId ∧ one.intent = other.intent ∧
    one.source = other.source ∧ one.approval = other.approval ∧ one.requestedExecutor = other.requestedExecutor

instance (one other : DurableActionInput) : Decidable (Agree one other) := inferInstanceAs (Decidable (_ ∧ _))

/-- What a replay is compared on. -/
def AgreeOnCompared (one other : DurableActionInput) : Prop :=
  requestOf one = requestOf other ∧ one.matterId = other.matterId ∧ one.intent = other.intent

/-- An action that writes carries an approval request. -/
def Approvable (input : DurableActionInput) : Prop := input.request.mode = .readOnly ∨ input.approval.isSome

/-- The stored columns that a replay is compared with. -/
def compared (ledger : Ledger Time) (actionId : String) : Option (String × String) × Option ExecutorRequest :=
  ((ledger.actions.find? actionId).map fun action => (action.matterId, action.intent),
    (ledger.executions.find? actionId).map (·.request))

/-- The stored columns are those that an input asks for. -/
def Holds (ledger : Ledger Time) (input : DurableActionInput) : Prop :=
  ledger.compared input.actionId = (some (input.matterId, input.intent), some (requestOf input))

section Effects

variable [LinearOrder Time] {call : LedgerCall Time} {reply : LedgerReply} {before after ledger : Ledger Time}
  {input : DurableActionInput} {clock : Time}

/-- No call changes the compared columns of an action that is there. -/
theorem Effect.compared (effect : Effect before call reply after) (holds : before.Holds input) : after.Holds input := by
  have stored : (before.actions.find? input.actionId).isSome := by
    have row := congrArg Prod.fst holds
    simp only [Ledger.compared] at row
    obtain ⟨action, found, _⟩ := Option.map_eq_some_iff.mp row
    rw [found]
    rfl
  unfold Holds at holds ⊢
  rw [← holds]
  cases effect with
  | threw | replayed | redecided | idle => rfl
  | @enqueued created clock _ gated actions _ executions _ =>
    have fresh := Table.find?_fresh actions
    have other : input.actionId ≠ created.actionId := by
      rintro same
      rw [same, show before.actions.find? created.actionId = none from fresh] at stored
      cases stored
    simp only [Ledger.compared, Table.find?_inserted actions, Table.find?_inserted executions]
    simp [other, actionRow, executionRow]
  | decided _ _ _ actions executions _ =>
    exact congrArg₂ Prod.mk (Table.map_find?_updated actions (fun _ => rfl) _) (decidedExecutions_request executions _)
  | claimed _ _ _ _ actions _ executions _ | settled _ _ _ actions _ executions _
  | released _ _ _ actions _ executions _ =>
    exact congrArg₂ Prod.mk (Table.map_find?_updated actions (fun _ => rfl) _)
      (Table.map_find?_updated executions (fun _ => rfl) _)

/-- What a ledger holds after it has answered the input, newly or as a replay. -/
theorem holds_enqueued {inserted : Bool}
    (performed : perform (.enqueueAction input clock) before = (.enqueued inserted, after)) : after.Holds input := by
  rcases answer_cases performed with ⟨result, done, same⟩ | ⟨message, _, threw⟩
  · cases same
    unfold enqueueAction at done
    split at done
    · cases done
    · have done := transaction_ok.mp done
      unfold enqueueBody at done
      split at done
      · split at done
        · rename_i execution action executed found
          split at done
          · rename_i same
            cases done
            show Ledger.compared before input.actionId = _
            rw [Ledger.compared, found, executed, Option.map_some, Option.map_some, same.1, same.2.1, same.2.2]
          · cases done
        · cases done
      · rename_i actions created
        obtain ⟨approvals, _, done⟩ := bind_ok.mp done
        obtain ⟨executions, executed, done⟩ := bind_ok.mp done
        obtain ⟨transitions, _, done⟩ := bind_ok.mp done
        cases done
        have action := Table.find?_new created
        have execution := Table.find?_new (Table.insertOrThrow_ok.mp executed)
        show (_, _) = _
        rw [show actions.find? input.actionId = _ from action, show executions.find? input.actionId = _ from execution]
        rfl
  · cases threw

/-- A replay that agrees on the compared columns is answered as one. -/
theorem enqueue_accepted {other : DurableActionInput} (same : other.actionId = input.actionId)
    (holds : ledger.Holds input) (approvable : Approvable other) (agree : AgreeOnCompared input other) :
    perform (.enqueueAction other clock) ledger = (.enqueued false, withMatter other ledger) := by
  obtain ⟨request, matter, intent⟩ := agree
  obtain ⟨row, stored⟩ := Prod.mk.inj holds
  obtain ⟨action, found, columns⟩ := Option.map_eq_some_iff.mp row
  obtain ⟨execution, executed, requested⟩ := Option.map_eq_some_iff.mp stored
  obtain ⟨ofMatter, intended⟩ := Prod.mk.inj columns
  have taken : ledger.actions.insert? (actionRow other) = none :=
    Table.insert?_eq_none_iff.mpr ⟨action, by rw [← found, ← same]; rfl⟩
  have body : enqueueBody other clock ledger = .ok (false, withMatter other ledger) := by
    rw [enqueueBody, taken, same, found, executed]
    exact if_pos ⟨requested.trans request, ofMatter.trans matter, intended.trans intent⟩
  have gate : ¬ (other.request.mode ≠ .readOnly ∧ other.approval.isNone) := by
    rintro ⟨writes, unasked⟩
    rcases approvable with reads | asked
    · exact writes reads
    · simp [Option.isNone_iff_eq_none.mp unasked] at asked
  simp only [perform, enqueueAction, if_neg gate, transaction, body, answer]

/-- Every other input for an action that is there throws, and changes nothing. -/
theorem enqueue_refused {other : DurableActionInput} (same : other.actionId = input.actionId)
    (holds : ledger.Holds input) (differs : Approvable other → ¬ AgreeOnCompared input other) :
    ∃ message, perform (.enqueueAction other clock) ledger = (.threw message, ledger) := by
  rcases performed : perform (.enqueueAction other clock) ledger with ⟨reply, after⟩
  cases perform_effect performed with
  | threw message => exact ⟨message, rfl⟩
  | replayed found =>
    exfalso
    have approvable : Approvable other := by
      by_contra unapprovable
      have gate : other.request.mode ≠ .readOnly ∧ other.approval.isNone := by
        simpa [Approvable, not_or] using unapprovable
      simp [perform, enqueueAction, gate, answer] at performed
    -- What was answered as a replay agrees with what is stored.
    have answered : (withMatter other ledger).Holds other := holds_enqueued performed
    refine differs approvable ?_
    have both : some (input.matterId, input.intent) = some (other.matterId, other.intent) ∧
        some (requestOf input) = some (requestOf other) := by
      rw [← Prod.mk.injEq, ← holds, ← answered, same]
      rfl
    obtain ⟨matter, intent⟩ := Prod.mk.inj (Option.some.inj both.1)
    exact ⟨Option.some.inj both.2, matter, intent⟩
  | enqueued _ actions =>
    have fresh := Table.find?_fresh actions
    obtain ⟨row, _⟩ := Prod.mk.inj holds
    rw [show ledger.actions.find? input.actionId = none from same ▸ fresh] at row
    cases row

/-- The replay of an action answers `inserted: false` only where everything stored agrees; it throws, and
changes nothing, where anything differs. -/
def ReplayDetected (input other : DurableActionInput) (clock : Time) (ledger : Ledger Time) : Prop :=
  ((perform (.enqueueAction other clock) ledger).1 = .enqueued false → Agree input other) ∧
    (¬ Agree input other → ∃ message, perform (.enqueueAction other clock) ledger = (.threw message, ledger))

/-- After any run in which an action was enqueued, its replay is detected exactly when the three compared
columns tell the two inputs apart, or the check of the approval does. -/
theorem replay_detected_iff {other : DurableActionInput} {earlier later : List (LedgerCall Time × LedgerReply)}
    {inserted : Bool} {now : Time}
    (run : Run (earlier ++ (.enqueueAction input clock, .enqueued inserted) :: later) ledger)
    (same : other.actionId = input.actionId) :
    ReplayDetected input other now ledger ↔ (Approvable other → AgreeOnCompared input other → Agree input other) := by
  have holds : ledger.Holds input := by
    obtain ⟨state, next, _, performed, steps⟩ := run.cut
    exact steps.preserves (fun ledger => ledger.Holds input) (fun held taken => (step_effect taken).compared held)
      (holds_enqueued performed)
  constructor
  · rintro ⟨detected, _⟩ approvable agree
    exact detected (congrArg Prod.fst (enqueue_accepted same holds approvable agree))
  · intro told
    by_cases agree : Agree input other
    · exact ⟨fun _ => agree, fun differs => absurd agree differs⟩
    · obtain ⟨message, threw⟩ := enqueue_refused same holds fun approvable compared => agree (told approvable compared)
      refine ⟨fun replayed => ?_, fun _ => ⟨message, threw⟩⟩
      rw [threw] at replayed
      cases replayed

end Effects

/-- An action that writes, with its approval. -/
def sampleWrite : DurableActionInput where
  actionId := "action:1"
  matterId := "matter:1"
  matterTitle := "Reply"
  matterSummary := "A reply is due"
  intent := "reply"
  source := ⟨"lark", none, none, none, none⟩
  request := ⟨"Reply", "Send the reply", "default", .externalWrite⟩
  requestedExecutor := none
  approval := some ⟨"approval:1", "May I reply?"⟩

/-- The same action, with another approval and another executor. -/
def otherApproval : DurableActionInput :=
  { sampleWrite with requestedExecutor := some "codex", approval := some ⟨"approval:2", "Delete everything?"⟩ }

/-- The same action, with another intent. -/
def otherIntent : DurableActionInput := { sampleWrite with intent := "answer" }

theorem replay_detected_intent :
    ReplayDetected sampleWrite otherIntent 1 ((machine Nat).replay [.enqueueAction sampleWrite 0] empty).2 :=
  (replay_detected_iff
    (show (machine Nat).system.Run ([] ++ (.enqueueAction sampleWrite 0, .enqueued true) :: []) _ from
      (machine Nat).replay_run [.enqueueAction sampleWrite 0])
    (show otherIntent.actionId = sampleWrite.actionId from rfl)).mpr
    fun _ agree => absurd agree.2.2 (by decide)

/-- A replay with another approval and another executor succeeds, and the stored approval stays the first. -/
theorem replay_undetected : ∃ history ledger, (machine Nat).system.Run history ledger ∧
      history = [(.enqueueAction sampleWrite 0, .enqueued true)] ∧ ¬ ReplayDetected sampleWrite otherApproval 0 ledger := by
  refine ⟨_, _, (machine Nat).replay_run [.enqueueAction sampleWrite 0], by decide +kernel, fun detected => ?_⟩
  exact absurd (detected.1 (by decide +kernel)) (by decide)

end Ledger

/-! ## Workflows -/

namespace WorkflowStore

section Creation

variable {State Payload Time : Type} [LinearOrder Time] {before after store : WorkflowStore State Payload Time}
  {input : CreateWorkflowInput State Payload Time} {call : StoreCall State Payload Time}
  {reply : StoreReply State Payload Time}

/-- The instance and the effects are there as the input asks for them. -/
structure Retained (store : WorkflowStore State Payload Time) (input : CreateWorkflowInput State Payload Time) :
    Prop where
  found : store.instances.find? input.id = some (createdRow input)
  effects : store.effectsOf input.id = requested input.effects

omit [LinearOrder Time] in
theorem Retained.same (retained : before.Retained input) (instances : after.instances = before.instances)
    (rows : ∀ id, SameRows before after id) : after.Retained input :=
  ⟨instances ▸ retained.found, (rows input.id).effects.trans retained.effects⟩

/-- A call that does not advance the instance retains it. -/
theorem Retained.outcome (retained : before.Retained input) (outcome : Outcome before call reply after)
    (unadvanced : ∀ advance, advanceOf (call, reply) = some advance → advance.instanceId ≠ input.id) :
    after.Retained input := by
  cases outcome with
  | threw | recreated | repeated | idle => exact retained
  | @created other clock instances effects instanced inserted =>
    have apart : other.id ≠ input.id := by
      intro same
      have fresh := Table.find?_fresh instanced
      rw [createdRow_id, same, retained.found] at fresh
      cases fresh
    refine ⟨Table.find?_kept instanced retained.found, ?_⟩
    rw [effectsOf, effectsIn_inserted inserted, if_neg apart, List.append_nil]
    exact retained.effects
  | @advanced advance clock current events transitions effects found expected evented logged inserted =>
    have apart : advance.instanceId ≠ input.id := unadvanced advance rfl
    refine ⟨?_, ?_⟩
    · have kept : (before.instances.update advance.instanceId (advancedRow advance) fun _ => rfl).find? input.id =
          before.instances.find? input.id := Table.find?_update_of_ne apart.symm
      exact kept.trans retained.found
    · rw [effectsOf, effectsIn_inserted inserted, if_neg apart, List.append_nil]
      exact retained.effects
  | claimed | settled | released => exact retained.same rfl (sameRows_update fun _ => ⟨rfl, rfl, rfl⟩)

/-- What a creation leaves. -/
theorem Retained.created {clock : Time} {current : WorkflowInstance State Time}
    (faithful : ∀ id, before.instances.find? id = none → before.effectsOf id = [])
    (outcome : Outcome before (.createWorkflow input clock) (.created true current) after) : after.Retained input := by
  cases outcome with
  | @created _ _ instances effects instanced inserted =>
    refine ⟨Table.find?_new instanced, ?_⟩
    have untold := faithful input.id (Table.find?_fresh instanced)
    rw [effectsOf] at untold
    rw [effectsOf, effectsIn_inserted inserted, untold, if_pos rfl, List.nil_append]

/-- The collation of the host sorts the ids of the effects as the database does. -/
def SortsAlike (collate : String → String → Bool) (effects : List (WorkflowEffectInput Payload Time)) : Prop :=
  (effects.insertionSort fun left right => collate left.id right.id).map (·.id) =
    (effects.insertionSort fun left right => left.id ≤ right.id).map (·.id)

instance (collate : String → String → Bool) (effects : List (WorkflowEffectInput Payload Time)) :
    Decidable (SortsAlike collate effects) :=
  inferInstanceAs (Decidable (_ = _))

/-- Every effect that named the time it is due at is still due at that time. -/
def KeepsTimes (store : WorkflowStore State Payload Time) (effects : List (WorkflowEffectInput Payload Time)) : Prop :=
  ∀ effect ∈ effects, ∀ availableAt, effect.availableAt = some availableAt →
    ∃ row, store.effects.find? effect.id = some row ∧ row.availableAt = availableAt

omit [LinearOrder Time] in
theorem Retained.sorted (retained : store.Retained input) :
    (store.storedEffects input.id).map (fun row => (row.id, row.kind, row.payload)) =
      requested (input.effects.insertionSort fun left right => left.id ≤ right.id) := by
  have effects := retained.effects
  rw [effectsOf, effectsIn] at effects
  rw [storedEffects, List.map_insertionSort _ (fun left right : String × String × Payload => left.1 ≤ right.1) _ _
    (fun _ _ _ _ => Iff.rfl), effects, requested, requested]
  exact (List.map_insertionSort (fun left right : WorkflowEffectInput Payload Time => left.id ≤ right.id)
    (fun left right : String × String × Payload => left.1 ≤ right.1) _ _ fun _ _ _ _ => Iff.rfl).symm

omit [LinearOrder Time] in
theorem Retained.distinct (retained : store.Retained input) : (input.effects.map (·.id)).Nodup := by
  have ids : (input.effects.map (·.id)) = (store.effects.rows.filter (·.instanceId = input.id)).map (·.id) := by
    have effects := congrArg (List.map (·.1)) retained.effects
    simpa [effectsOf, effectsIn, requested, Function.comp_def] using effects.symm
  rw [ids]
  exact store.effects.unique.sublist (List.filter_sublist.map _)

theorem forall₂_right_mem {α β : Type} {related : α → β → Prop} {left : List α} {right : List β} {item : β}
    (all : List.Forall₂ related left right) (listed : item ∈ right) : ∃ other ∈ left, related other item := by
  induction all with
  | nil => cases listed
  | cons first _ ih =>
    rcases List.mem_cons.mp listed with rfl | later
    · exact ⟨_, List.mem_cons_self, first⟩
    · obtain ⟨other, there, same⟩ := ih later
      exact ⟨other, List.mem_cons_of_mem _ there, same⟩

omit [LinearOrder Time] in
/-- Two arrangements of the same effects with the same ids in the same places are one. -/
theorem arranged_eq {one other : List (WorkflowEffectInput Payload Time)} (perm : one.Perm other)
    (distinct : (other.map (·.id)).Nodup) (same : one.map (·.id) = other.map (·.id)) : one = other := by
  refine List.ext_getElem perm.length_eq fun index inOne inOther => ?_
  refine List.inj_on_of_nodup_map distinct (perm.subset (List.getElem_mem inOne)) (List.getElem_mem inOther) ?_
  have named := congrArg (·[index]?) same
  simpa [inOne, inOther] using named

variable [DecidableEq State] [DecidableEq Payload] {collate : String → String → Bool}

omit [DecidableEq State] in
theorem effectMatches_iff {stored : WorkflowEffectRow Payload Time} {wanted : WorkflowEffectInput Payload Time} :
    effectMatches stored wanted = true ↔
      (stored.id, stored.kind, stored.payload) = (wanted.id, wanted.kind, wanted.payload) ∧
        ∀ availableAt, wanted.availableAt = some availableAt → stored.availableAt = availableAt := by
  have times : (wanted.availableAt = none ∨ wanted.availableAt = some stored.availableAt) ↔
      ∀ availableAt, wanted.availableAt = some availableAt → stored.availableAt = availableAt := by
    cases wanted.availableAt with
    | none => simp
    | some named => simp [eq_comm]
  simp only [effectMatches, decide_eq_true_eq, Prod.mk.injEq, times, and_assoc]

omit [DecidableEq State] in
theorem effectsMatch_iff : store.effectsMatch collate input = true ↔
    List.Forall₂ (fun stored wanted => effectMatches stored wanted = true) (store.storedEffects input.id)
      (input.effects.insertionSort fun left right => collate left.id right.id) := by
  rw [effectsMatch, List.forall₂_iff_zip]
  simp only [decide_eq_true_eq, List.all_eq_true, Prod.forall]

omit [DecidableEq State] in
/-- The stored effects are found to match exactly when the two orders agree and no time has moved. -/
theorem Retained.effectsMatch_iff (retained : store.Retained input) :
    store.effectsMatch collate input = true ↔ SortsAlike collate input.effects ∧ KeepsTimes store input.effects := by
  have sorted := retained.sorted
  have ids : (store.storedEffects input.id).map (·.id) =
      (input.effects.insertionSort fun left right => left.id ≤ right.id).map (·.id) := by
    have first := congrArg (List.map (·.1)) sorted
    simpa [requested, Function.comp_def] using first
  have kept : ∀ {row}, row ∈ store.storedEffects input.id → store.effects.find? row.id = some row := by
    intro row listed
    exact Table.find?_self (List.mem_filter.mp ((List.mem_insertionSort _).mp listed)).1
  rw [WorkflowStore.effectsMatch_iff]
  constructor
  · intro matched
    constructor
    · rw [SortsAlike, ← ids]
      refine (List.forall₂_eq_eq_eq ▸ List.forall₂_map_left_iff.mpr (List.forall₂_map_right_iff.mpr ?_)).symm
      exact matched.imp fun stored wanted same => (Prod.mk.inj (effectMatches_iff.mp same).1).1
    · intro effect listed availableAt named
      obtain ⟨row, stored, same⟩ := forall₂_right_mem matched ((List.mem_insertionSort _).mpr listed)
      obtain ⟨viewed, times⟩ := effectMatches_iff.mp same
      exact ⟨row, (Prod.mk.inj viewed).1 ▸ kept stored, times availableAt named⟩
  · rintro ⟨alike, times⟩
    have arranged := arranged_eq ((List.perm_insertionSort _ _).trans (List.perm_insertionSort _ _).symm)
      (((List.perm_insertionSort _ _).map _).nodup_iff.mpr retained.distinct) alike
    rw [arranged]
    have viewed := List.forall₂_map_left_iff.mp (List.forall₂_map_right_iff.mp (List.forall₂_eq_eq_eq ▸ sorted))
    refine List.forall₂_iff_zip.mpr ⟨viewed.length_eq, fun {row wanted} paired => ?_⟩
    obtain ⟨stored, listed⟩ := List.of_mem_zip paired
    have same := List.forall₂_zip viewed paired
    refine effectMatches_iff.mpr ⟨same, fun availableAt named => ?_⟩
    obtain ⟨found, there, due⟩ := times wanted ((List.mem_insertionSort _).mp listed) availableAt named
    have own := kept stored
    rw [(Prod.mk.inj same).1, there] at own
    rw [← due, Option.some.inj own]

/-- The answer to an input whose instance and effects are there. -/
theorem Retained.perform (retained : store.Retained input) (clock : Time) :
    WorkflowStore.perform collate (.createWorkflow input clock) store =
      if store.effectsMatch collate input = true then (.created false (createdRow input), store)
      else (.threw s!"workflow {input.id} already exists with different durable effects", store) := by
  have taken : store.instances.insert? (createdRow input) = none := Table.insert?_eq_none_iff.mpr ⟨_, retained.found⟩
  have body : createBody collate input clock store =
      if store.effectsMatch collate input = true then .ok ((false, createdRow input), store)
      else .error s!"workflow {input.id} already exists with different durable effects" := by
    rw [createBody, taken, retained.found]
    simp only [createdRow, ne_eq, not_true_eq_false, or_self, if_false]
    by_cases matched : store.effectsMatch collate input = true
    · rw [if_neg (not_not.mpr matched), if_pos matched]
    · rw [if_pos matched, if_neg matched]
  by_cases matched : store.effectsMatch collate input = true
  · simp only [WorkflowStore.perform, createWorkflow, transaction, body, if_pos matched, answer]
  · simp only [WorkflowStore.perform, createWorkflow, transaction, body, if_neg matched, answer]

/-- Calls that do not advance the instance retain it. -/
theorem Retained.steps {start finish : WorkflowStore State Payload Time}
    {labels : List (StoreCall State Payload Time × StoreReply State Payload Time)}
    (steps : (machine State Payload Time collate).system.Steps start labels finish)
    (unadvanced : applied labels input.id = []) (retained : start.Retained input) : finish.Retained input := by
  induction steps with
  | done => exact retained
  | @next start label middle labels finish transition _ ih =>
    have split : applied (label :: labels) input.id = applied [label] input.id ++ applied labels input.id := by
      rw [applied, ← List.singleton_append, List.filterMap_append, List.filter_append]
      rfl
    obtain ⟨here, later⟩ := List.append_eq_nil_iff.mp (split.symm.trans unadvanced)
    refine ih later (retained.outcome (step_outcome transition) fun advance made => ?_)
    simpa [applied, show advanceOf label = some advance from made] using here

/-- After any run in which a workflow was created and its instance not advanced, the same creation is answered
with the same instance exactly when the host sorts the effect ids as the database does and no effect that
named its time has been given another one. -/
theorem create_replay_iff {earlier later : List (StoreCall State Payload Time × StoreReply State Payload Time)}
    {clock now : Time} {current : WorkflowInstance State Time}
    (run : Run collate (earlier ++ (.createWorkflow input clock, .created true current) :: later) store)
    (unadvanced : applied later input.id = []) :
    WorkflowStore.perform collate (.createWorkflow input now) store = (.created false current, store) ↔
      SortsAlike collate input.effects ∧ KeepsTimes store input.effects := by
  obtain ⟨state, next, prior, performed, steps⟩ := run.cut
  have outcome := step_outcome performed
  have same : current = createdRow input := by
    cases outcome with
    | created => rfl
  have retained : next.Retained input :=
    .created (fun id missing => ((Run.faithful prior).absent missing).2.2.effects) outcome
  have retained : store.Retained input := retained.steps steps unadvanced
  rw [retained.perform, ← retained.effectsMatch_iff, same]
  by_cases matched : store.effectsMatch collate input = true
  · simp [matched]
  · simp [matched]

end Creation

/-- A collation that ignores the case of letters, as the host's does before it breaks ties. -/
def foldingCase (left right : String) : Bool := left.toList.map Char.toLower ≤ right.toList.map Char.toLower

/-- A workflow that asks for two effects. -/
def sampleCreation (first second : String) : CreateWorkflowInput String String Nat :=
  ⟨"flow:1", "demo", 1, .running, "\x7b\x7d", none, [⟨first, "notify", "\x7b\x7d", none⟩, ⟨second, "notify", "\x7b\x7d", some 5⟩]⟩

/-- The store after the creation of the workflow. -/
def sampleStore (first second : String) : WorkflowStore String String Nat :=
  ((machine String String Nat foldingCase).replay [.createWorkflow (sampleCreation first second) 1] empty).2

theorem create_replay_sorted :
    WorkflowStore.perform foldingCase (.createWorkflow (sampleCreation "a" "b") 2) (sampleStore "a" "b") =
      (.created false (createdRow (sampleCreation "a" "b")), sampleStore "a" "b") :=
  (create_replay_iff
    (show Run foldingCase ([] ++ (.createWorkflow (sampleCreation "a" "b") 1,
        .created true (createdRow (sampleCreation "a" "b"))) :: []) (sampleStore "a" "b") from
      (machine String String Nat foldingCase).replay_run [.createWorkflow (sampleCreation "a" "b") 1]) rfl).mpr
    ⟨by decide +kernel, by
      intro effect listed availableAt named
      rcases List.mem_cons.mp listed with rfl | later
      · cases named
      · cases List.mem_singleton.mp later
        cases named
        exact ⟨effectRow "flow:1" 1 ⟨"b", "notify", "\x7b\x7d", some 5⟩, by decide +kernel, rfl⟩⟩

/-- The host sorts `a` before `B`, the database `B` before `a`: the repetition of a creation throws. -/
theorem create_replay_unsorted : ∃ history store, Run foldingCase history store ∧
      history = [(.createWorkflow (sampleCreation "a" "B") 1, .created true (createdRow (sampleCreation "a" "B")))] ∧
      (WorkflowStore.perform foldingCase (.createWorkflow (sampleCreation "a" "B") 2) store).1 =
        .threw "workflow flow:1 already exists with different durable effects" :=
  ⟨_, _, (machine String String Nat foldingCase).replay_run [.createWorkflow (sampleCreation "a" "B") 1],
    by decide +kernel, by decide +kernel⟩

end WorkflowStore

end QuarkSelfAI.Storage

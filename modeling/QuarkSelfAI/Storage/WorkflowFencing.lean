import QuarkSelfAI.Foundation.Lease
import QuarkSelfAI.Storage.WorkflowSteps

/-!
# Leases on workflow effects

A requested effect is a lease: pending it is free, dispatching it is held by its
lease owner, delivered or failed it is closed. An effect that was not requested
yet is a lease nobody has acquired, so a request moves no lease.
-/

namespace QuarkSelfAI.Storage.WorkflowStore

open Foundation

variable {State Payload Time : Type} {effectId : String}

def effectPhase : EffectStatus → Option String → LeasePhase String
  | .pending, _ => .free
  | .dispatching, some workerId => .held workerId
  | _, _ => .closed

/-- An effect as a lease. -/
def leaseOf (store : WorkflowStore State Payload Time) (effectId : String) : Lease String :=
  match store.effects.find? effectId with
  | none => Lease.fresh
  | some effect => ⟨effectPhase effect.status effect.leaseOwner, effect.attempt⟩

/-- An owner is set exactly on the effects that are being dispatched. -/
def Leased (store : WorkflowStore State Payload Time) : Prop :=
  ∀ effect ∈ store.effects, effect.leaseOwner.isSome ↔ effect.status = .dispatching

/-- The lease move a call made on one effect. -/
def leaseMove (effectId : String) :
    StoreCall State Payload Time × StoreReply State Payload Time → Option (LeaseMove String)
  | (.claimNextWorkflowEffect workerId _ _, .claimed (some effect)) =>
    if effect.id = effectId then some (.acquire workerId) else none
  | (.settleWorkflowEffect settledId workerId _, .settled) =>
    if settledId = effectId then some (.finish workerId) else none
  | (.releaseWorkflowEffect releasedId workerId _ _ terminal, .released) =>
    if releasedId = effectId then
      if terminal then some (.finish workerId) else some (.surrender workerId)
    else none
  | _ => none

/-- The calls that move the lease of an effect. -/
inductive Moves (effectId : String) :
    StoreCall State Payload Time → StoreReply State Payload Time → LeaseMove String → Prop where
  | claimed {workerId now leaseExpiresAt effect} (named : effect.id = effectId) :
      Moves effectId (.claimNextWorkflowEffect workerId now leaseExpiresAt) (.claimed (some effect))
        (.acquire workerId)
  | settled {workerId deliveredAt} :
      Moves effectId (.settleWorkflowEffect effectId workerId deliveredAt) .settled (.finish workerId)
  | failed {workerId error availableAt} :
      Moves effectId (.releaseWorkflowEffect effectId workerId error availableAt true) .released
        (.finish workerId)
  | deferred {workerId error availableAt} :
      Moves effectId (.releaseWorkflowEffect effectId workerId error availableAt false) .released
        (.surrender workerId)

theorem moves_of_leaseMove {call : StoreCall State Payload Time}
    {reply : StoreReply State Payload Time} {move : LeaseMove String}
    (made : leaseMove effectId (call, reply) = some move) : Moves effectId call reply move := by
  unfold leaseMove at made
  split at made
  · rename_i same
    cases same
    split at made
    · rename_i named
      cases made
      exact .claimed named
    · cases made
  · rename_i same
    cases same
    split at made
    · rename_i named
      cases named
      cases made
      exact .settled
    · cases made
  · rename_i terminal same
    cases same
    split at made
    · rename_i named
      cases named
      cases terminal with
      | true =>
        cases made
        exact .failed
      | false =>
        cases made
        exact .deferred
    · cases made
  · cases made

variable {before after store : WorkflowStore State Payload Time}
  {call : StoreCall State Payload Time} {reply : StoreReply State Payload Time}
  {requested : List (WorkflowEffectInput Payload Time)} {effect : WorkflowEffectRow Payload Time}

theorem leaseMove_threw (effectId message : String) : leaseMove effectId (call, .threw message) = none := by
  unfold leaseMove
  split <;> simp_all

theorem leaseOf_found (found : store.effects.find? effectId = some effect) :
    store.leaseOf effectId = ⟨effectPhase effect.status effect.leaseOwner, effect.attempt⟩ := by
  rw [leaseOf, found]

/-- Updating one effect moves its lease and leaves every other alone. -/
theorem leaseOf_updated {updatedId : String} (change : WorkflowEffectRow Payload Time → WorkflowEffectRow Payload Time)
    (keeps : ∀ row, (change row).id = row.id)
    (found : store.effects.find? updatedId = some effect) (effectId : String) :
    ({ store with effects := store.effects.update updatedId change keeps }).leaseOf effectId =
      if updatedId = effectId then
        ⟨effectPhase (change effect).status (change effect).leaseOwner, (change effect).attempt⟩
      else store.leaseOf effectId := by
  rw [leaseOf, Table.find?_updated rfl found]
  by_cases same : updatedId = effectId
  · simp [same]
  · simp [same, Ne.symm same, leaseOf]

/-- A requested effect is as fresh as one that was not requested. -/
theorem leaseOf_inserted {instanceId : String} {clock : Time}
    (inserted : insertWorkflowEffects instanceId clock requested before.effects = .ok after.effects)
    (effectId : String) : after.leaseOf effectId = before.leaseOf effectId := by
  cases found : before.effects.find? effectId with
  | some effect => rw [leaseOf_found found, leaseOf_found (insertWorkflowEffects_keeps inserted found)]
  | none =>
    have fresh : before.leaseOf effectId = Lease.fresh := by rw [leaseOf, found]
    rw [fresh]
    cases made : after.effects.find? effectId with
    | none => rw [leaseOf, made]
    | some effect =>
      obtain ⟨stored, named⟩ := Table.find?_eq_some_iff.mp made
      rw [← Table.mem_rows, insertWorkflowEffects_rows inserted] at stored
      rcases List.mem_append.mp stored with old | new
      · exact (Table.find?_eq_none_iff.mp found effect old named).elim
      · obtain ⟨input, _, rfl⟩ := List.mem_map.mp new
        rw [leaseOf_found made]
        rfl

/-! ## One call -/

theorem leased_empty : (empty : WorkflowStore State Payload Time).Leased :=
  fun effect stored => (Table.not_mem_empty effect stored).elim

theorem Leased.update (change : WorkflowEffectRow Payload Time → WorkflowEffectRow Payload Time)
    (keeps : ∀ row, (change row).id = row.id) (leased : store.Leased)
    (changed : ∀ row, (change row).leaseOwner.isSome ↔ (change row).status = .dispatching) :
    ({ store with effects := store.effects.update effectId change keeps }).Leased := by
  intro effect stored
  have listed : effect ∈ store.effects.update effectId change keeps := stored
  rcases Table.mem_update.mp listed with ⟨old, _, _, rfl⟩ | ⟨kept, _⟩
  · exact changed old
  · exact leased effect kept

theorem Leased.insert {instanceId : String} {clock : Time} (leased : before.Leased)
    (inserted : insertWorkflowEffects instanceId clock requested before.effects = .ok after.effects) :
    after.Leased := by
  intro effect stored
  rw [← Table.mem_rows, insertWorkflowEffects_rows inserted] at stored
  rcases List.mem_append.mp stored with old | new
  · exact leased effect old
  · obtain ⟨input, _, rfl⟩ := List.mem_map.mp new
    simp [effectRow]

variable [LinearOrder Time]

theorem Leased.outcome (leased : before.Leased) (outcome : Outcome before call reply after) : after.Leased := by
  cases outcome with
  | threw | recreated | repeated | idle => exact leased
  | created _ requested | advanced _ _ _ _ requested => exact leased.insert requested
  | claimed => exact leased.update _ _ fun _ => by simp [dispatchingEffect]
  | settled => exact leased.update _ _ fun _ => by simp [settledEffect]
  | @released _ _ _ _ terminal _ _ =>
    refine leased.update _ _ fun _ => ?_
    cases terminal with
    | true | false => simp [releasedEffect]

/-- One call is one move of an effect's lease, or leaves it alone. -/
theorem Outcome.lease (leased : before.Leased) (outcome : Outcome before call reply after) (effectId : String) :
    match leaseMove effectId (call, reply) with
    | none => after.leaseOf effectId = before.leaseOf effectId
    | some move => Lease.Step (before.leaseOf effectId) move (after.leaseOf effectId) := by
  cases outcome with
  | threw message => rw [leaseMove_threw]
  | recreated | repeated | idle => rfl
  | created _ requested | advanced _ _ _ _ requested => exact leaseOf_inserted requested effectId
  | @claimed workerId now leaseExpiresAt effect _ found claimable =>
    have moved := leaseOf_updated (dispatchingEffect workerId leaseExpiresAt) (fun _ => rfl) found
      effectId
    by_cases same : effect.id = effectId
    · subst same
      simp only [leaseMove, claimedEffect, if_true]
      rw [moved, if_pos rfl, leaseOf_found found]
      refine .acquire workerId ?_
      -- An effect that may be claimed waits, or is held by the worker the lease of which ran out.
      have opened : effectOpen now effect := (of_decide_eq_true claimable).2
      unfold effectOpen at opened
      split at opened
      · rename_i status
        simp [status, effectPhase]
      · rename_i status
        obtain ⟨owner, held⟩ := Option.isSome_iff_exists.mp ((leased effect (Table.find?_mem found)).mpr status)
        simp [status, held, effectPhase]
      · cases opened
    · have elsewhere : (claimedEffect effect).id ≠ effectId := same
      simp only [leaseMove, if_neg elsewhere]
      rw [moved, if_neg same]
  | @settled settledId workerId deliveredAt effect owned =>
    obtain ⟨found, running, held⟩ := ownedEffect_eq_some.mp owned
    have moved := leaseOf_updated (settledEffect deliveredAt) (fun _ => rfl) found effectId
    by_cases same : settledId = effectId
    · subst same
      simp only [leaseMove, if_true]
      rw [moved, if_pos rfl, leaseOf_found found]
      exact .finish (by simp [running, held, effectPhase])
    · simp only [leaseMove, if_neg same]
      rw [moved, if_neg same]
  | @released releasedId workerId error availableAt terminal effect owned =>
    obtain ⟨found, running, held⟩ := ownedEffect_eq_some.mp owned
    have moved := leaseOf_updated (releasedEffect error availableAt terminal) (fun _ => rfl) found
      effectId
    by_cases same : releasedId = effectId
    · subst same
      simp only [leaseMove, if_true]
      rw [moved, if_pos rfl, leaseOf_found found]
      have phase : effectPhase effect.status effect.leaseOwner = .held workerId := by
        simp [running, held, effectPhase]
      cases terminal with
      | true => exact .finish phase
      | false => exact .surrender phase
    · simp only [leaseMove, if_neg same]
      rw [moved, if_neg same]

/-- A claim answers with the attempt its lease has from then on. -/
theorem Outcome.attempt {workerId : String} {now leaseExpiresAt : Time}
    {effect : ClaimedWorkflowEffect Payload}
    (outcome : Outcome before (.claimNextWorkflowEffect workerId now leaseExpiresAt)
      (.claimed (some effect)) after) : effect.attempt = (after.leaseOf effect.id).attempt := by
  cases outcome with
  | @claimed _ _ leaseExpiresAt row _ found _ =>
    have moved := leaseOf_updated (dispatchingEffect workerId leaseExpiresAt) (fun _ => rfl) found
      row.id
    rw [if_pos rfl] at moved
    exact (congrArg (·.attempt) moved).symm

end QuarkSelfAI.Storage.WorkflowStore

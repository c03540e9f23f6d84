import QuarkSelfAI.ControlPlane.MatterOwnerSteps

/-!
# Epochs of matter ownership

The transfers recorded of a namespace link up: the first starts at the device that
claimed it under epoch 1, each further one at the device and epoch the last one ended
with, and the lease row stands at the end. Of the sessions of a user, those of one
device pass `verifyCurrent`, under one epoch.
-/

namespace QuarkSelfAI.ControlPlane

open Foundation CapabilityPlatform

/-- The device and the epoch that hold a namespace. -/
abbrev Holder := String × Nat

def OwnerRow.holder (row : OwnerRow) : Holder := (row.deviceId, row.epoch)

namespace OwnerStore

def holder? (store : OwnerStore) (matter : Matter) : Option Holder := (store.leases.find? matter).map OwnerRow.holder

/-- The transfers of a namespace, in the order they were recorded. -/
def transfersOf (store : OwnerStore) (matter : Matter) : List TransferRow :=
  store.transfers.rows.filter fun row => row.matter = matter

end OwnerStore

/-- A chain of transfers from the first claim to the present holder. -/
inductive Linked : List TransferRow → Option Holder → Prop where
  | unowned : Linked [] none
  | claimed (deviceId : String) : Linked [] (some (deviceId, 1))
  | next {rows : List TransferRow} {row : TransferRow}
      (prior : Linked rows (some (row.fromDeviceId, row.fromEpoch)))
      (following : row.toEpoch = row.fromEpoch + 1) :
      Linked (rows ++ [row]) (some (row.toDeviceId, row.toEpoch))

variable {rows : List TransferRow} {store : OwnerStore}

theorem Linked.eq_nil (linked : Linked rows none) : rows = [] := by
  cases linked
  rfl

theorem Linked.holder_epoch {holder : Option Holder} (linked : Linked rows holder) {deviceId : String} {epoch : Nat}
    (held : holder = some (deviceId, epoch)) : epoch = rows.length + 1 := by
  induction linked generalizing deviceId epoch with
  | unowned => cases held
  | claimed =>
    cases held
    rfl
  | next prior following ih =>
    cases held
    rw [following, ih rfl, List.length_append, List.length_singleton]

/-- The epochs of a chain have no gap. -/
theorem Linked.epochs {holder : Option Holder} (linked : Linked rows holder) :
    rows.map (fun row => (row.fromEpoch, row.toEpoch)) =
      (List.range rows.length).map fun index => (index + 1, index + 2) := by
  induction linked with
  | unowned | claimed => rfl
  | next prior following ih =>
    rename_i rows row
    have started : row.fromEpoch = rows.length + 1 := prior.holder_epoch rfl
    rw [List.map_append, ih, List.length_append, List.length_singleton, List.range_succ,
      List.map_append, List.map_singleton, List.map_singleton, following, started]

/-! ## The chain along a run -/

theorem holder?_updated {leases : Table OwnerRow.matter} {changed : Matter} {change : OwnerRow → OwnerRow}
    {keeps : ∀ row, (change row).matter = row.matter} (updated : leases = store.leases.update changed change keeps)
    (same : ∀ row, (change row).holder = row.holder) (matter : Matter) :
    ({ store with leases } : OwnerStore).holder? matter = store.holder? matter :=
  Table.map_find?_updated updated same matter

theorem holder?_opened {leases : Table OwnerRow.matter} {row : OwnerRow}
    (inserted : store.leases.insert? row = some leases) (matter : Matter) :
    ({ store with leases } : OwnerStore).holder? matter =
      if matter = row.matter then some row.holder else store.holder? matter := by
  rw [OwnerStore.holder?, Table.find?_inserted inserted]
  split
  · rfl
  · rfl

theorem transfersOf_recorded {leases : Table OwnerRow.matter} {transfers : Table TransferRow.key} {row : TransferRow}
    (inserted : store.transfers.insert? row = some transfers) (matter : Matter) :
    OwnerStore.transfersOf ⟨leases, transfers⟩ matter =
      if row.matter = matter then store.transfersOf matter ++ [row] else store.transfersOf matter := by
  rw [OwnerStore.transfersOf, Table.rows_insert inserted, List.filter_append]
  split
  · rename_i same
    rw [List.filter_singleton, decide_eq_true same]
    rfl
  · rename_i other
    rw [List.filter_singleton, decide_eq_false other]
    exact List.append_nil _

/-- A call keeps the chain of every namespace: a first claim starts it, a transfer
extends it, and no other call moves the holder. -/
theorem Linked.step {before after : OwnerWorld} {call : OwnerCall} {reply : OwnerReply}
    {matter : Matter} (linked : Linked (before.store.transfersOf matter) (before.store.holder? matter))
    (effect : OwnerEffect before call reply after) :
    Linked (after.store.transfersOf matter) (after.store.holder? matter) := by
  cases effect with
  | @opened _ _ _ _ row leases live keyed epoch inserted =>
    rw [holder?_opened inserted]
    split
    · rename_i same
      have unheld : before.store.holder? matter = none := by
        rw [OwnerStore.holder?, same, Table.find?_fresh inserted, Option.map_none]
      have holder : row.holder = (row.deviceId, 1) := by rw [OwnerRow.holder, epoch]
      rw [unheld] at linked
      have untransferred : OwnerStore.transfersOf { before.store with leases } matter = [] := linked.eq_nil
      rw [untransferred, holder]
      exact .claimed row.deviceId
    · exact linked
  | renewed live long found answered updated | released live found own epoch updated =>
    rw [holder?_updated updated fun _ => rfl]
    exact linked
  | @committed _ transfer _ target current row leases transfers _ waiting live found epoch idle recorded
      inserted updated =>
    rw [transfersOf_recorded inserted, recorded.matter]
    by_cases same : matterOf target transfer.nameSpace = matter
    · subst same
      have held : before.store.holder? (matterOf target transfer.nameSpace) =
          some (row.fromDeviceId, row.fromEpoch) := by
        rw [OwnerStore.holder?, found, recorded.fromDevice, recorded.fromEpoch]
        rfl
      have holds : OwnerStore.holder? ⟨leases, transfers⟩ (matterOf target transfer.nameSpace) =
          some (row.toDeviceId, row.toEpoch) := by
        rw [OwnerStore.holder?, Table.find?_rewritten updated found, recorded.toDevice, recorded.toEpoch]
        rfl
      rw [held] at linked
      rw [if_pos rfl, holds]
      apply Linked.next linked
      rw [recorded.toEpoch, recorded.fromEpoch]
    · have kept : OwnerStore.holder? ⟨leases, transfers⟩ matter = before.store.holder? matter := by
        rw [OwnerStore.holder?, Table.find?_updated updated found, if_neg (Ne.symm same)]
        rfl
      rw [if_neg same, kept]
      exact linked
  | _ => exact linked

/-- A session of this device passes `verifyCurrent` under this epoch. -/
def IsCurrentOwner (world : OwnerWorld) (matter : Matter) (holder : Holder) : Prop :=
  ∃ sessionId scope nameSpace, liveSession world.directory sessionId world.now = .ok scope ∧
    matterOf scope nameSpace = matter ∧ scope.deviceId = holder.1 ∧
    world.verifyCurrent sessionId nameSpace holder.2 = .ok true

theorem IsCurrentOwner.holder {world : OwnerWorld} {matter : Matter} {holder : Holder}
    (current : IsCurrentOwner world matter holder) : world.store.holder? matter = some holder := by
  obtain ⟨sessionId, scope, nameSpace, live, rfl, device, verified⟩ := current
  simp only [OwnerWorld.verifyCurrent, bind_ok, throwIf_ok, exists_const, checkScope, checkEpoch, live,
    Except.ok.injEq, exists_eq_left', Option.any_eq_true, decide_eq_true_eq] at verified
  obtain ⟨_, _, row, found, own, epoch, _⟩ := verified
  rw [OwnerStore.holder?, found, Option.map_some, OwnerRow.holder, own, device, epoch]

/-- In every run the transfers of a namespace form a chain without gaps that ends at its
lease row, and at most one device passes `verifyCurrent`, under one epoch. -/
theorem owner_epochs_linked {directory : Directory} {start : Timestamp} {labels : List (OwnerCall × OwnerReply)}
    {world : OwnerWorld} (run : (OwnerWorld.machine directory start).system.Run labels world) (matter : Matter) :
    Linked (world.store.transfersOf matter) (world.store.holder? matter) ∧
      (world.store.transfersOf matter).map (fun row => (row.fromEpoch, row.toEpoch)) =
        ((List.range (world.store.transfersOf matter).length).map fun index => (index + 1, index + 2)) ∧
      ∀ first second, IsCurrentOwner world matter first → IsCurrentOwner world matter second → first = second := by
  have linked : Linked (world.store.transfersOf matter) (world.store.holder? matter) := by
    refine run.history (motive := fun _ world =>
      Linked (world.store.transfersOf matter) (world.store.holder? matter)) ?_ ?_
    · intro initial valid
      cases valid
      exact .unowned
    · intro _ label before after _ linked transition
      exact linked.step (effect_of_step transition)
  refine ⟨linked, linked.epochs, ?_⟩
  intro first second one other
  exact Option.some.inj (one.holder.symm.trans other.holder)

/-! ## A sample run -/

/-- A user with two devices and a session of each. -/
def sampleDirectory : Directory :=
  [ .addUser ⟨"tenant", "user", .active⟩
  , .addDevice ⟨"tenant", "laptop", "user", "laptop-key", .registered⟩
  , .addDevice ⟨"tenant", "phone", "user", "phone-key", .registered⟩
  , .addSession ⟨"laptop-session", "tenant", "user", "laptop", 0, 3600000, .active⟩
  , .addSession ⟨"phone-session", "tenant", "user", "phone", 0, 3600000, .active⟩
  ].foldl Directory.apply .empty

def sampleEvidence : TransferInput where
  expectedEpoch := 1
  recoveryDigest := "sha256:0000000000000000000000000000000000000000000000000000000000000000"
  approvalDigest := "sha256:1111111111111111111111111111111111111111111111111111111111111111"

/-- The laptop claims a namespace and releases it, and the phone takes it over. -/
def handover : List OwnerCall :=
  [ .claim "laptop-session" "mail" none 60000
  , .advance 1000
  , .release "laptop-session" "mail" 1
  , .transfer "phone-session" "mail" sampleEvidence 60000
  , .advance 1000
  , .verified 0 true ]

def handedOver : OwnerWorld :=
  ((OwnerWorld.machine sampleDirectory 0).replay handover (OwnerWorld.machine sampleDirectory 0).initial).2

theorem handedOver_linked : Linked (handedOver.store.transfersOf ("tenant", "user", "mail")) (some ("phone", 2)) := by
  have holder : handedOver.store.holder? ("tenant", "user", "mail") = some ("phone", 2) := by
    decide
  rw [← holder]
  exact (owner_epochs_linked (Machine.replay_run _ handover) ("tenant", "user", "mail")).1

end QuarkSelfAI.ControlPlane

import QuarkSelfAI.ControlPlane.MatterOwner

/-!
# Steps of matter ownership

What one call can do to the lease of a namespace, to the recorded transfers and to
the transfers that wait.
-/

namespace QuarkSelfAI.ControlPlane

open Foundation CapabilityPlatform

variable {now : Timestamp} {directory : Directory} {scope : Scope}

theorem liveSession_ok {sessionId : String} :
    liveSession directory sessionId now = .ok scope ↔ ¬ (sessionId = "" ∨ 256 < utf16Length sessionId) ∧
      ∃ row, directory.sessions.find? sessionId = some row ∧ isLive directory row now = true ∧ row.scope = scope := by
  simp only [liveSession, bind_ok, throwIf_ok, exists_const]
  refine and_congr_right fun _ => ?_
  cases directory.sessions.find? sessionId with
  | none => simp
  | some row => by_cases live : isLive directory row now <;> simp [live]

theorem scope?_of_live {sessionId : String} (live : liveSession directory sessionId now = .ok scope) :
    directory.scope? sessionId = some scope := by
  obtain ⟨_, row, found, _, rfl⟩ := liveSession_ok.mp live
  rw [Directory.scope?, found, Option.map_some]

theorem claimBody_ok {nameSpace : String} {expectedEpoch : Option Nat}
    {ttlMs : Nat} {store next : OwnerStore} {lease : MatterOwnerLease} :
    claimBody scope nameSpace expectedEpoch now ttlMs store = .ok (lease, next) →
      (∃ row leases, expectedEpoch = none ∧ row.matter = matterOf scope nameSpace ∧
        row.deviceId = scope.deviceId ∧ row.epoch = 1 ∧ store.leases.insert? row = some leases ∧
        lease = row.lease ∧ next = { store with leases }) ∨
      ∃ row, store.leases.find? (matterOf scope nameSpace) = some row ∧
        row.deviceId = scope.deviceId ∧ some row.epoch = expectedEpoch ∧
        lease = (claimedRow (now + ttlMs) now row).lease ∧ next = { store with
          leases := store.leases.update (matterOf scope nameSpace) (claimedRow (now + ttlMs) now)
            fun _ => rfl } := by
  intro claimed
  unfold claimBody at claimed
  cases found : store.leases.find? (matterOf scope nameSpace) with
  | none =>
    simp only [found, bind_ok, throwIf_ok, exists_const, ne_eq, not_not, Table.insertOrThrow_ok] at claimed
    obtain ⟨unclaimed, leases, inserted, same⟩ := claimed
    obtain ⟨rfl, rfl⟩ := Prod.mk.inj (Except.ok.inj same)
    exact .inl ⟨_, leases, unclaimed, rfl, rfl, rfl, inserted, rfl, rfl⟩
  | some row =>
    simp only [found, bind_ok, throwIf_ok, exists_const, ne_eq, not_or, not_not] at claimed
    obtain ⟨⟨device, epoch⟩, same⟩ := claimed
    obtain ⟨rfl, rfl⟩ := Prod.mk.inj (Except.ok.inj same)
    exact .inr ⟨row, rfl, device, epoch, rfl, rfl⟩

theorem releaseBody_ok {nameSpace : String} {expectedEpoch : Nat} {store next : OwnerStore} :
    releaseBody scope nameSpace expectedEpoch now store = .ok next →
      ∃ row, store.leases.find? (matterOf scope nameSpace) = some row ∧
        row.deviceId = scope.deviceId ∧ row.epoch = expectedEpoch ∧ next = { store with
          leases := store.leases.update (matterOf scope nameSpace) (releasedRow now) fun _ => rfl } := by
  intro released
  unfold releaseBody at released
  cases found : store.leases.find? (matterOf scope nameSpace) with
  | none =>
    rw [found] at released
    cases released
  | some row =>
    simp only [found, bind_ok, throwIf_ok, exists_const, not_or, ne_eq, not_not] at released
    obtain ⟨⟨device, epoch, _⟩, same⟩ := released
    exact ⟨row, rfl, device, epoch, (Except.ok.inj same).symm⟩

theorem requestTransfer_ok {sessionId nameSpace : String} {input : TransferInput} {ttlMs : Nat}
    {world : OwnerWorld} {transfer : Transfer} {targetDeviceId : String} :
    requestTransfer sessionId nameSpace input ttlMs world = .ok (transfer, targetDeviceId) →
      ∃ target prior, liveSession world.directory sessionId world.now = .ok target ∧
        world.store.leases.find? (matterOf target nameSpace) = some prior ∧
        prior.epoch = input.expectedEpoch ∧ prior.inactive world.now = true ∧
        transfer = ⟨sessionId, nameSpace, input, world.now, ttlMs, prior⟩ := by
  intro requested
  simp only [requestTransfer, bind_ok, throwIf_ok, exists_const, checkScope, checkTtl, checkEpoch]
    at requested
  obtain ⟨_, _, _, _, target, live, requested⟩ := requested
  cases found : world.store.leases.find? (matterOf target nameSpace) with
  | none =>
    rw [found] at requested
    cases requested
  | some prior =>
    simp only [found, bind_ok, throwIf_ok, exists_const, not_or, ne_eq, not_not, Bool.not_eq_false] at requested
    obtain ⟨⟨_, epoch, idle⟩, same⟩ := requested
    obtain ⟨rfl, _⟩ := Prod.mk.inj (Except.ok.inj same)
    exact ⟨target, prior, live, found, epoch, idle, rfl⟩

/-- The row a transfer records. -/
structure Recorded (row : TransferRow) (matter : Matter) (current : OwnerRow) (deviceId : String) : Prop where
  matter : row.matter = matter
  fromDevice : row.fromDeviceId = current.deviceId
  fromEpoch : row.fromEpoch = current.epoch
  toDevice : row.toDeviceId = deviceId
  toEpoch : row.toEpoch = current.epoch + 1

theorem commitTransfer_ok {transfer : Transfer} {world : OwnerWorld} {lease : MatterOwnerLease}
    {store : OwnerStore} : commitTransfer transfer world = .ok (lease, store) → ∃ target current row transfers,
        liveSession world.directory transfer.sessionId world.now = .ok target ∧
        world.store.leases.find? (matterOf target transfer.nameSpace) = some current ∧
        current.deviceId = transfer.prior.deviceId ∧ current.epoch = transfer.input.expectedEpoch ∧
        current.inactive world.now = true ∧
        Recorded row (matterOf target transfer.nameSpace) current target.deviceId ∧
        world.store.transfers.insert? row = some transfers ∧
        store = ⟨world.store.leases.update (matterOf target transfer.nameSpace)
          (transferredRow target.deviceId (current.epoch + 1) (world.now + transfer.ttlMs) world.now)
            fun _ => rfl, transfers⟩ := by
  intro committed
  simp only [commitTransfer, bind_ok, throwIf_ok, exists_const] at committed
  obtain ⟨_, target, live, committed⟩ := committed
  cases found : world.store.leases.find? (matterOf target transfer.nameSpace) with
  | none =>
    rw [found] at committed
    cases committed
  | some current =>
    simp only [found, bind_ok, throwIf_ok, exists_const, not_or, ne_eq, not_not, Bool.not_eq_false,
      Table.insertOrThrow_ok] at committed
    obtain ⟨⟨device, epoch, idle⟩, _, transfers, inserted, same⟩ := committed
    obtain ⟨_, rfl⟩ := Prod.mk.inj (Except.ok.inj same)
    exact ⟨target, current, _, transfers, live, found, device, epoch, idle,
      ⟨rfl, rfl, epoch.symm, rfl, rfl⟩, inserted, rfl⟩

/-- What a call does. -/
inductive OwnerEffect (before : OwnerWorld) : OwnerCall → OwnerReply → OwnerWorld → Prop where
  | opened {sessionId nameSpace : String} {ttlMs : Nat} {scope : Scope} {row : OwnerRow}
      {leases : Table OwnerRow.matter}
      (live : liveSession before.directory sessionId before.now = .ok scope)
      (matter : row.matter = matterOf scope nameSpace) (epoch : row.epoch = 1)
      (inserted : before.store.leases.insert? row = some leases) :
      OwnerEffect before (.claim sessionId nameSpace none ttlMs) (.claimed row.lease)
        { before with store := { before.store with leases } }
  | renewed {sessionId nameSpace : String} {ttlMs : Nat} {scope : Scope} {row : OwnerRow}
      {expectedEpoch : Option Nat} {lease : MatterOwnerLease} {leases : Table OwnerRow.matter}
      (live : liveSession before.directory sessionId before.now = .ok scope) (long : 1000 ≤ ttlMs)
      (found : before.store.leases.find? (matterOf scope nameSpace) = some row)
      (answered : lease.matter = matterOf scope nameSpace)
      (updated : leases = before.store.leases.update (matterOf scope nameSpace)
        (claimedRow (before.now + ttlMs) before.now) fun _ => rfl) :
      OwnerEffect before (.claim sessionId nameSpace expectedEpoch ttlMs) (.claimed lease)
        { before with store := { before.store with leases } }
  | released {sessionId nameSpace : String} {expectedEpoch : Nat} {scope : Scope} {row : OwnerRow}
      {leases : Table OwnerRow.matter}
      (live : liveSession before.directory sessionId before.now = .ok scope)
      (found : before.store.leases.find? (matterOf scope nameSpace) = some row)
      (own : row.deviceId = scope.deviceId) (epoch : row.epoch = expectedEpoch)
      (updated : leases = before.store.leases.update (matterOf scope nameSpace) (releasedRow before.now)
        fun _ => rfl) :
      OwnerEffect before (.release sessionId nameSpace expectedEpoch) .released
        { before with store := { before.store with leases } }
  | requested {sessionId nameSpace : String} {input : TransferInput} {ttlMs : Nat} {target : Scope}
      {prior : OwnerRow} {targetDeviceId : String}
      (live : liveSession before.directory sessionId before.now = .ok target)
      (found : before.store.leases.find? (matterOf target nameSpace) = some prior)
      (epoch : prior.epoch = input.expectedEpoch) :
      OwnerEffect before (.transfer sessionId nameSpace input ttlMs)
        (.verifying before.calls.next prior.lease targetDeviceId)
        { before with
          calls := before.calls.suspend ⟨sessionId, nameSpace, input, before.now, ttlMs, prior⟩ }
  | committed {ticket : Nat} {transfer : Transfer} {lease : MatterOwnerLease} {target : Scope}
      {current : OwnerRow} {row : TransferRow} {leases : Table OwnerRow.matter}
      {transfers : Table TransferRow.key} {expiresAt : Timestamp}
      (waiting : before.calls.find? ticket = some transfer)
      (live : liveSession before.directory transfer.sessionId before.now = .ok target)
      (found : before.store.leases.find? (matterOf target transfer.nameSpace) = some current)
      (epoch : current.epoch = transfer.input.expectedEpoch)
      (idle : current.inactive before.now = true)
      (recorded : Recorded row (matterOf target transfer.nameSpace) current target.deviceId)
      (inserted : before.store.transfers.insert? row = some transfers)
      (updated : leases = before.store.leases.update (matterOf target transfer.nameSpace)
        (transferredRow target.deviceId (current.epoch + 1) expiresAt before.now) fun _ => rfl) :
      OwnerEffect before (.verified ticket true) (.transferred lease)
        { before with store := { leases, transfers }, calls := before.calls.resume ticket }
  | abandoned {ticket : Nat} {answer : Bool} {message : String} :
      OwnerEffect before (.verified ticket answer) (.refused message)
        { before with calls := before.calls.resume ticket }
  | advanced (milliseconds : Nat) : OwnerEffect before (.advance milliseconds) .done
        { before with now := before.now + milliseconds }
  | directed (change : DirectoryChange) : OwnerEffect before (.directory change) .done
        { before with directory := before.directory.apply change }
  | refused (call : OwnerCall) (message : String) : OwnerEffect before call (.refused message) before
  | answered (call : OwnerCall) (value : Bool) : OwnerEffect before call (.current value) before
  | unknown (ticket : Nat) (answer : Bool) : OwnerEffect before (.verified ticket answer) .done before

theorem effect_of_answer {call : OwnerCall} {reply : OwnerReply} {before after : OwnerWorld}
    (answered : OwnerWorld.answer call before = (reply, after)) : OwnerEffect before call reply after := by
  cases call with
  | claim sessionId nameSpace expectedEpoch ttlMs =>
    simp only [OwnerWorld.answer] at answered
    cases claimed : before.claim sessionId nameSpace expectedEpoch ttlMs with
    | error message =>
      rw [claimed] at answered
      cases answered
      exact .refused _ message
    | ok result =>
      obtain ⟨lease, store⟩ := result
      rw [claimed] at answered
      cases answered
      simp only [OwnerWorld.claim, bind_ok, throwIf_ok, exists_const, checkScope, checkTtl, not_or, not_lt] at claimed
      obtain ⟨_, ⟨long, _⟩, scope, live, body⟩ := claimed
      rcases claimBody_ok body with
        ⟨row, leases, rfl, matter, _, epoch, inserted, rfl, rfl⟩ | ⟨row, found, _, _, rfl, rfl⟩
      · exact .opened live matter epoch inserted
      · have matter : row.matter = matterOf scope nameSpace := Table.find?_key found
        exact .renewed live long found matter rfl
  | verifyCurrent sessionId nameSpace expectedEpoch =>
    simp only [OwnerWorld.answer] at answered
    split at answered
    · cases answered
      exact .answered _ _
    · cases answered
      exact .refused _ _
  | release sessionId nameSpace expectedEpoch =>
    simp only [OwnerWorld.answer] at answered
    cases released : before.release sessionId nameSpace expectedEpoch with
    | error message =>
      rw [released] at answered
      cases answered
      exact .refused _ message
    | ok store =>
      rw [released] at answered
      cases answered
      simp only [OwnerWorld.release, bind_ok, throwIf_ok, exists_const, checkScope, checkEpoch] at released
      obtain ⟨_, _, scope, live, body⟩ := released
      obtain ⟨row, found, own, epoch, rfl⟩ := releaseBody_ok body
      exact .released live found own epoch rfl
  | transfer sessionId nameSpace input ttlMs =>
    simp only [OwnerWorld.answer] at answered
    cases requested : requestTransfer sessionId nameSpace input ttlMs before with
    | error message =>
      rw [requested] at answered
      cases answered
      exact .refused _ message
    | ok result =>
      obtain ⟨transfer, targetDeviceId⟩ := result
      rw [requested] at answered
      cases answered
      obtain ⟨target, prior, live, found, epoch, _, rfl⟩ := requestTransfer_ok requested
      exact .requested live found epoch
  | verified ticket answer =>
    simp only [OwnerWorld.answer] at answered
    cases waiting : before.calls.find? ticket with
    | none =>
      rw [waiting] at answered
      cases answered
      exact .unknown ticket answer
    | some transfer =>
      simp only [waiting] at answered
      cases ended : before.endTransfer transfer answer with
      | error message =>
        rw [ended] at answered
        cases answered
        exact .abandoned
      | ok result =>
        obtain ⟨lease, store⟩ := result
        rw [ended] at answered
        cases answered
        simp only [OwnerWorld.endTransfer, bind_ok, throwIf_ok, exists_const, Bool.not_eq_false] at ended
        obtain ⟨rfl, committed⟩ := ended
        obtain ⟨target, current, row, transfers, live, found, _, epoch, idle, recorded, inserted, rfl⟩ :=
          commitTransfer_ok committed
        exact .committed waiting live found epoch idle recorded inserted rfl
  | advance milliseconds =>
    cases answered
    exact .advanced milliseconds
  | directory change =>
    cases answered
    exact .directed change

theorem effect_of_step {start : Timestamp} {label : OwnerCall × OwnerReply} {before after : OwnerWorld}
    (transition : (OwnerWorld.machine directory start).system.Step before label after) :
    OwnerEffect before label.1 label.2 after :=
  effect_of_answer transition

end QuarkSelfAI.ControlPlane

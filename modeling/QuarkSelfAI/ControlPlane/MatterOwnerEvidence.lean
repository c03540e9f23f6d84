import QuarkSelfAI.ControlPlane.MatterOwnerEpochs

/-!
# Evidence of a transfer

While a transfer waits for its verifier, the device it takes over from may claim the
namespace again. The commit compares device, epoch and inactivity with what the
transfer has read: a lease claimed in between is noticed as long as it runs, and no
longer once it is released or has run out.
-/

namespace QuarkSelfAI.ControlPlane

open Foundation

/-- The answer of a claim by the device that held the lease of the candidate. -/
def Reclaims (candidate : MatterOwnerLease) (entry : OwnerCall × OwnerReply) : Prop :=
  ∃ lease, entry.2 = .claimed lease ∧ lease.matter = candidate.matter ∧ lease.deviceId = candidate.deviceId

/-- No transfer commits after a claim by its source device since the row was read that
the verifier was asked about. -/
def EvidenceFresh (labels : List (OwnerCall × OwnerReply)) : Prop :=
  ∀ before between after sessionId nameSpace input ttlMs ticket candidate targetDeviceId answer lease,
    labels = before ++ (.transfer sessionId nameSpace input ttlMs, .verifying ticket candidate targetDeviceId) ::
      (between ++ (.verified ticket answer, .transferred lease) :: after) →
    ∀ entry ∈ between, ¬ Reclaims candidate entry

/-- The row holds a lease that was claimed under the epoch of the transfer after the
transfer had read it. -/
def Transfer.reclaimed (transfer : Transfer) (row : OwnerRow) : Bool :=
  row.epoch = transfer.prior.epoch ∧ row.releasedAt = none ∧ transfer.requestedAt < row.leaseExpiresAt

/-- The row of the namespace a transfer waits for, when it was claimed again. -/
def OwnerWorld.reclaimed? (world : OwnerWorld) (transfer : Transfer) : Option OwnerRow :=
  (world.store.leases.find? transfer.prior.matter).filter transfer.reclaimed

/-- The session may release the lease of the row. -/
def OwnerWorld.mayRelease (world : OwnerWorld) (sessionId nameSpace : String) (expectedEpoch : Nat)
    (row : OwnerRow) : Bool :=
  match liveSession world.directory sessionId world.now with
  | .ok scope => matterOf scope nameSpace = row.matter ∧ row.deviceId = scope.deviceId ∧
      row.epoch = expectedEpoch
  | .error _ => false

/-- A lease that is claimed again while a transfer waits is not released until the
transfer has ended, and has not run out when it ends. -/
def undisturbed (world : OwnerWorld) (entry : OwnerCall × OwnerReply) : Bool :=
  match entry.1 with
  | .release sessionId nameSpace expectedEpoch =>
    world.calls.waiting.all fun waiting =>
      (world.reclaimed? waiting.2).all fun row => !world.mayRelease sessionId nameSpace expectedEpoch row
  | .verified ticket _ =>
    (world.calls.find? ticket).all fun transfer =>
      (world.reclaimed? transfer).all fun row => world.now < row.leaseExpiresAt
  | _ => true

/-! ## While a transfer waits -/

/-- What holds of the row and of the session while a transfer waits. -/
structure Awaited (transfer : Transfer) (world : OwnerWorld) : Prop where
  requested : transfer.requestedAt ≤ world.now
  session : ∃ scope, world.directory.scope? transfer.sessionId = some scope ∧
    matterOf scope transfer.nameSpace = transfer.prior.matter
  expected : transfer.prior.epoch = transfer.input.expectedEpoch
  row : ∃ row, world.store.leases.find? transfer.prior.matter = some row ∧ transfer.prior.epoch ≤ row.epoch

/-- The namespace was claimed again, or has moved on to a later epoch. -/
def Spoiled (transfer : Transfer) (world : OwnerWorld) : Prop :=
  ∃ row, world.store.leases.find? transfer.prior.matter = some row ∧
    (transfer.prior.epoch < row.epoch ∨ transfer.reclaimed row = true)

variable {transfer : Transfer}

theorem reclaimed_iff {row : OwnerRow} :
    transfer.reclaimed row = true ↔ row.epoch = transfer.prior.epoch ∧ row.releasedAt = none ∧
      transfer.requestedAt < row.leaseExpiresAt := by
  rw [Transfer.reclaimed, decide_eq_true_eq]

variable {before after : OwnerWorld} {call : OwnerCall} {ticket : Nat} {reply : OwnerReply}

theorem moves_of_effect (effect : OwnerEffect before call reply after) : Suspension.Moves before.calls after.calls := by
  cases effect with
  | requested => exact .suspend _ _
  | committed | abandoned => exact .resume _ _
  | _ => exact .stay _

/-- A call that leaves the rows of the namespace alone keeps what holds of them. -/
theorem Awaited.of_same (awaited : Awaited transfer before) (later : before.now ≤ after.now)
    (kept : ∀ scope, before.directory.scope? transfer.sessionId = some scope →
      after.directory.scope? transfer.sessionId = some scope) (same : after.store.leases.find? transfer.prior.matter =
      before.store.leases.find? transfer.prior.matter) : Awaited transfer after := by
  obtain ⟨requested, ⟨scope, known, matter⟩, expected, row, found, epoch⟩ := awaited
  exact ⟨Int.le_trans requested later, ⟨scope, kept scope known, matter⟩, expected, row, same.trans found, epoch⟩

/-- Rewriting the row of a namespace under a later epoch or the same one. -/
theorem Awaited.of_changed {leases : Table OwnerRow.matter} {matter : Matter} {change : OwnerRow → OwnerRow}
    {keeps : ∀ row, (change row).matter = row.matter} {transfers : Table TransferRow.key} {calls : Suspension Transfer}
    (awaited : Awaited transfer before) (updated : leases = before.store.leases.update matter change keeps)
    (later : ∀ row, before.store.leases.find? matter = some row → row.epoch ≤ (change row).epoch) :
    Awaited transfer { before with store := ⟨leases, transfers⟩, calls } := by
  obtain ⟨requested, session, expected, row, found, epoch⟩ := awaited
  refine ⟨requested, session, expected, ?_⟩
  obtain ⟨next, stored, same | ⟨here, changed⟩⟩ := Table.find?_changed updated found
  · exact ⟨next, stored, same ▸ epoch⟩
  · refine ⟨next, stored, ?_⟩
    rw [changed]
    exact Nat.le_trans epoch (later row (here ▸ found))

theorem awaited_step (awaited : Awaited transfer before)
    (effect : OwnerEffect before call reply after) : Awaited transfer after := by
  cases effect with
  | opened live keyed epoch inserted =>
    obtain ⟨requested, session, expected, row, found, older⟩ := awaited
    exact ⟨requested, session, expected, row, Table.find?_kept inserted found, older⟩
  | renewed live long found answered updated | released live found own epoch updated =>
    exact awaited.of_changed updated fun _ _ => Nat.le_refl _
  | @committed _ other _ target current row leases transfers _ waiting live found epoch idle recorded
      inserted updated =>
    refine awaited.of_changed updated fun stored here => ?_
    rw [found] at here
    cases here
    exact Nat.le_succ _
  | advanced milliseconds =>
    exact awaited.of_same (Int.le_add_of_nonneg_right (Int.natCast_nonneg _)) (fun _ known => known) rfl
  | directed change => exact awaited.of_same (Int.le_refl _) (fun _ known => Directory.scope?_apply known) rfl
  | requested => exact awaited.of_same (Int.le_refl _) (fun _ known => known) rfl
  | abandoned => exact awaited.of_same (Int.le_refl _) (fun _ known => known) rfl
  | refused => exact awaited
  | answered => exact awaited
  | unknown => exact awaited

/-- A claim of the namespace spoils the transfer. -/
theorem spoiled_of_claim {lease : MatterOwnerLease} (awaited : Awaited transfer before)
    (effect : OwnerEffect before call (.claimed lease) after) (claimed : lease.matter = transfer.prior.matter) :
    Spoiled transfer after := by
  obtain ⟨row, found, older⟩ := awaited.row
  cases effect with
  | @opened _ _ _ _ opened _ live keyed epoch inserted =>
    have same : opened.matter = transfer.prior.matter := claimed
    have fresh := Table.find?_fresh inserted
    rw [same, found] at fresh
    cases fresh
  | @renewed _ _ ttlMs _ _ _ _ _ live long here answered updated =>
    rw [← answered, claimed, found] at here
    cases here
    rw [← answered, claimed] at updated
    refine ⟨_, Table.find?_rewritten updated found, ?_⟩
    rcases Nat.lt_or_eq_of_le older with later | same
    · exact .inl later
    · have running : before.now < before.now + (ttlMs : Int) := Int.lt_add_of_pos_right _ (by omega)
      exact .inr (reclaimed_iff.mpr ⟨same.symm, rfl, Int.lt_of_le_of_lt awaited.requested running⟩)

/-- What spoils a transfer that waits lasts, as long as the lease is not released. -/
theorem spoiled_step (awaited : Awaited transfer before)
    (waiting : before.calls.find? ticket = some transfer) (spoiled : Spoiled transfer before)
    (effect : OwnerEffect before call reply after) (met : undisturbed before (call, reply) = true)
    (stays : after.calls.find? ticket = some transfer) : Spoiled transfer after := by
  obtain ⟨row, found, how⟩ := spoiled
  have whole := effect
  cases effect with
  | opened live keyed epoch inserted => exact ⟨row, Table.find?_kept inserted found, how⟩
  | renewed live long here answered updated =>
    obtain ⟨next, stored, rfl | ⟨same, rfl⟩⟩ := Table.find?_changed updated found
    · exact ⟨_, stored, how⟩
    · exact spoiled_of_claim awaited whole (answered.trans same.symm)
  | @released sessionId nameSpace expectedEpoch scope other _ live here own epoch updated =>
    obtain ⟨next, stored, rfl | ⟨same, rfl⟩⟩ := Table.find?_changed updated found
    · exact ⟨_, stored, how⟩
    · refine ⟨_, stored, .inl ?_⟩
      rcases how with later | reclaimed
      · exact later
      -- The release of a lease that was claimed again is what the condition excludes.
      · have listed : (ticket, transfer) ∈ before.calls.waiting := Suspension.find?_mem waiting
        have again : before.reclaimed? transfer = some row := by
          rw [OwnerWorld.reclaimed?, found]
          exact Option.filter_some_pos reclaimed
        have may : before.mayRelease sessionId nameSpace expectedEpoch row = true := by
          rw [← same, found] at here
          cases here
          rw [OwnerWorld.mayRelease, live]
          exact decide_eq_true ⟨same.symm.trans (Table.find?_key found).symm, own, epoch⟩
        have forbidden := List.all_eq_true.mp met (ticket, transfer) listed
        rw [again, Option.all_some, may] at forbidden
        cases forbidden
  | @committed _ other _ target current row leases transfers _ taken live here epoch idle recorded
      inserted updated =>
    obtain ⟨next, stored, rfl | ⟨same, rfl⟩⟩ := Table.find?_changed updated found
    · exact ⟨_, stored, how⟩
    · rw [← same, found] at here
      cases here
      obtain ⟨known, given, older⟩ := awaited.row
      rw [found] at given
      cases given
      exact ⟨_, stored, .inl (Nat.lt_succ_of_le older)⟩
  | _ => exact ⟨row, found, how⟩

/-- A transfer that is asked about waits under its ticket, on the row it has read. -/
theorem awaited_of_request {candidate : MatterOwnerLease} {targetDeviceId : String}
    (effect : OwnerEffect before call (.verifying ticket candidate targetDeviceId) after) :
    ∃ transfer, after.calls.find? ticket = some transfer ∧ ticket < after.calls.next ∧
      candidate.matter = transfer.prior.matter ∧ Awaited transfer after := by
  cases effect with
  | @requested sessionId nameSpace input ttlMs target prior _ live found epoch =>
    refine ⟨⟨sessionId, nameSpace, input, before.now, ttlMs, prior⟩, ?_, Nat.lt_succ_self _, rfl, ?_⟩
    · rw [Suspension.find?_suspend, if_pos rfl]
    · have keyed : prior.matter = matterOf target nameSpace := Table.find?_key found
      exact ⟨Int.le_refl _, ⟨target, scope?_of_live live, keyed.symm⟩, epoch, prior, keyed ▸ found, Nat.le_refl _⟩

/-- A transfer that commits is not spoiled. -/
theorem unspoiled_of_commit {answer : Bool} {lease : MatterOwnerLease} (awaited : Awaited transfer before)
    (waiting : before.calls.find? ticket = some transfer)
    (effect : OwnerEffect before (.verified ticket answer) (.transferred lease) after)
    (met : undisturbed before (.verified ticket answer, .transferred lease) = true) :
    ¬ Spoiled transfer before := by
  rintro ⟨row, found, how⟩
  cases effect with
  | @committed _ other _ target current _ _ _ _ taken live here epoch idle =>
    rw [waiting] at taken
    cases taken
    obtain ⟨scope, known, matter⟩ := awaited.session
    rw [scope?_of_live live] at known
    cases known
    rw [matter, found] at here
    cases here
    have same : row.epoch = transfer.prior.epoch := epoch.trans awaited.expected.symm
    rcases how with later | reclaimed
    · exact absurd later (by omega)
    · have again : before.reclaimed? transfer = some row := by
        rw [OwnerWorld.reclaimed?, found]
        exact Option.filter_some_pos reclaimed
      have running : before.now < row.leaseExpiresAt := by
        simpa [undisturbed, waiting, again] using met
      obtain ⟨_, unreleased, _⟩ := reclaimed_iff.mp reclaimed
      have past : row.leaseExpiresAt ≤ before.now := by
        simpa [OwnerRow.inactive, unreleased] using idle
      exact absurd running (Int.not_lt.mpr past)

/-- What is known of a transfer that waits, after the calls answered since. -/
structure Watched (transfer : Transfer) (taken : List (OwnerCall × OwnerReply)) (world : OwnerWorld) : Prop where
  awaited : Awaited transfer world
  spoiled : ∀ entry ∈ taken, ∀ lease, entry.2 = .claimed lease →
    lease.matter = transfer.prior.matter → Spoiled transfer world

theorem Watched.step {taken : List (OwnerCall × OwnerReply)} {label : OwnerCall × OwnerReply}
    (watched : Watched transfer taken before) (effect : OwnerEffect before label.1 label.2 after)
    (met : undisturbed before label = true) (waiting : before.calls.find? ticket = some transfer)
    (stays : after.calls.find? ticket = some transfer) :
    Watched transfer (taken ++ [label]) after := by
  refine ⟨awaited_step watched.awaited effect, ?_⟩
  intro entry listed lease claimed matter
  rcases List.mem_append.mp listed with older | newest
  · have spoiled := watched.spoiled entry older lease claimed matter
    exact spoiled_step watched.awaited waiting spoiled effect met stays
  · rw [List.mem_singleton.mp newest] at claimed
    rw [claimed] at effect
    exact spoiled_of_claim watched.awaited effect matter

/-- In every run in which no lease that is claimed again while a transfer waits is
released, or runs out, before the transfer ends, no transfer commits on stale evidence. -/
theorem evidence_fresh {directory : Directory} {start : Timestamp}
    {labels : List (OwnerCall × OwnerReply)} {world : OwnerWorld}
    (run : ((OwnerWorld.machine directory start).system.restricted
      fun world entry => undisturbed world entry = true).Run labels world) : EvidenceFresh labels := by
  rintro before between after sessionId nameSpace input ttlMs ticket candidate targetDeviceId answer lease
    rfl entry listed ⟨claimed, answered, matter, _⟩
  obtain ⟨asking, asked, _, request, rest⟩ := run.cut
  obtain ⟨ending, waited, last⟩ := TransitionSystem.steps_append_iff.mp rest
  cases last with
  | next commit _ =>
  have moves : ∀ {before label after}, ((OwnerWorld.machine directory start).system.restricted
      fun world entry => undisturbed world entry = true).Step before label after →
      Suspension.Moves before.calls after.calls :=
    fun transition => moves_of_effect (effect_of_step transition.1)
  obtain ⟨transfer, waits, given, asksFor, awaited⟩ := awaited_of_request (effect_of_step request.1)
  have ended := effect_of_step commit.1
  -- The transfer that commits is the one that was asked about.
  have waiting : ending.calls.find? ticket = some transfer := by
    cases ended with
    | committed waiting =>
      have first := Suspension.found_steps OwnerWorld.calls moves waited given waiting
      rw [waits] at first
      cases first
      exact waiting
  have watched : Watched transfer between ending :=
    Suspension.waiting_steps OwnerWorld.calls moves waited given ⟨awaited, by simp⟩
      (fun watched transition here stays => watched.step (effect_of_step transition.1) transition.2 here stays) waiting
  have spoiled := watched.spoiled entry listed claimed answered (matter.trans asksFor)
  exact unspoiled_of_commit watched.awaited waiting ended commit.2 spoiled

theorem handover_fresh : EvidenceFresh
    ((OwnerWorld.machine sampleDirectory 0).replay handover (OwnerWorld.machine sampleDirectory 0).initial).1 :=
  evidence_fresh (Machine.replay_restricted _ (by decide))

/-- While the transfer to the phone waits, the laptop claims the namespace again and
releases it. -/
def disturbedHandover : List OwnerCall :=
  [ .claim "laptop-session" "mail" none 60000
  , .release "laptop-session" "mail" 1
  , .transfer "phone-session" "mail" sampleEvidence 60000
  , .claim "laptop-session" "mail" (some 1) 60000
  , .release "laptop-session" "mail" 1
  , .verified 0 true ]

theorem disturbed_evidence_stale : ∃ labels world, (OwnerWorld.machine sampleDirectory 0).system.Run labels world ∧
      ¬ EvidenceFresh labels := by
  refine ⟨_, _, Machine.replay_run _ disturbedHandover, fun fresh => ?_⟩
  refine fresh
    [ (.claim "laptop-session" "mail" none 60000, .claimed ⟨"tenant", "user", "mail", "laptop", 1, 60000⟩)
    , (.release "laptop-session" "mail" 1, .released) ]
    [ (.claim "laptop-session" "mail" (some 1) 60000, .claimed ⟨"tenant", "user", "mail", "laptop", 1, 60000⟩)
    , (.release "laptop-session" "mail" 1, .released) ]
    [] "phone-session" "mail" sampleEvidence 60000 0 ⟨"tenant", "user", "mail", "laptop", 1, 0⟩ "phone" true
    ⟨"tenant", "user", "mail", "phone", 2, 60000⟩ (by decide) _ (List.mem_cons_self) ?_
  exact ⟨_, rfl, rfl, rfl⟩

end QuarkSelfAI.ControlPlane

import Mathlib.Data.List.Nodup
import QuarkSelfAI.BridgeCompat.Execution

/-!
# A plan is executed to completion once

Of the calls that save before the runner is called or wait for the runner, one at most is
about an entry, and its entry is executing. An entry for which the runner has returned is
completed, so that no pass takes it up again: this needs that the save after the return
succeeds, and that no restart reads an older state file.
-/

namespace QuarkSelfAI.BridgeCompat

open Foundation

/-- The call is about to call the runner for an entry, or waits for it. -/
def SuspendedExecution.runs (index : Nat) : SuspendedExecution → Bool
  | .starting other => other = index
  | .executing other => other = index
  | _ => false

/-- What identifies an entry and its plan. -/
structure PlanKey where
  serial : Nat
  sourceMessageId : String
  approvalId : String
  planDigest : String

def ExecutionConfirmation.key (entry : ExecutionConfirmation) : PlanKey :=
  ⟨entry.serial, entry.sourceMessageId, entry.approvalId, entry.planDigest⟩

/-- The entry is approved, or was. -/
def ExecutionConfirmation.WasApproved (entry : ExecutionConfirmation) : Prop :=
  entry.status = .approved ∨ entry.status = .executing ∨ entry.status = .completed

/-- A click has approved the plan with exactly its identifiers. -/
def ApprovedIn (labels : List (ExecutionCall × ExecutionReply)) (key : PlanKey) : Prop :=
  ∃ action now reply, (.apply action now, reply) ∈ labels ∧ reply.approved = some key.serial ∧
    action.decision = some "approve" ∧ action.sourceMessageId = some key.sourceMessageId ∧
    action.approvalId = some key.approvalId ∧ action.planDigest = some key.planDigest

/-- The entries for which the runner has returned, in order. -/
def returnedIn (labels : List (ExecutionCall × ExecutionReply)) : List Nat :=
  labels.filterMap fun label => label.2.returned

theorem ApprovedIn.append {labels : List (ExecutionCall × ExecutionReply)} {key : PlanKey}
    (approved : ApprovedIn labels key) (label : ExecutionCall × ExecutionReply) :
    ApprovedIn (labels ++ [label]) key := by
  obtain ⟨action, now, reply, listed, rest⟩ := approved
  exact ⟨action, now, reply, List.mem_append_left _ listed, rest⟩

theorem returnedIn_append (labels : List (ExecutionCall × ExecutionReply)) (label : ExecutionCall × ExecutionReply) :
    returnedIn (labels ++ [label]) = returnedIn labels ++ label.2.returned.toList := by
  rw [returnedIn, returnedIn, filterMap_snoc]

/-! ## Lists of entries -/

/-- Serials are given once, and what is approved was approved by a click. -/
structure Kept (vouched : PlanKey → Prop) (next : Nat) (entries : List ExecutionConfirmation) : Prop where
  distinct : (entries.map ExecutionConfirmation.serial).Nodup
  given : ∀ entry ∈ entries, entry.serial < next
  vouches : ∀ entry ∈ entries, entry.WasApproved → vouched entry.key

section Kept

variable {vouched : PlanKey → Prop} {next : Nat} {entries : List ExecutionConfirmation}
  {change : ExecutionConfirmation → ExecutionConfirmation} {entry : ExecutionConfirmation} {index : Nat}

theorem Kept.nil : Kept vouched next [] := ⟨List.nodup_nil, nofun, nofun⟩

theorem serial_of_key {other : ExecutionConfirmation} (same : entry.key = other.key) : entry.serial = other.serial :=
  congrArg PlanKey.serial same

theorem map_serial_modify (keyed : ∀ entry, (change entry).key = entry.key) :
    (entries.modify index change).map ExecutionConfirmation.serial = entries.map ExecutionConfirmation.serial := by
  refine List.ext_getElem? fun place => ?_
  rw [List.getElem?_map, List.getElem?_map, List.getElem?_modify]
  cases entries[place]? with
  | none => rfl
  | some entry =>
    simp only [Option.map_eq_map, Option.map_some, Option.some.injEq]
    split
    · exact serial_of_key (keyed entry)
    · rfl

theorem mem_modify (listed : entry ∈ entries.modify index change) :
    entry ∈ entries ∨ ∃ old, entries[index]? = some old ∧ entry = change old := by
  obtain ⟨place, found⟩ := List.mem_iff_getElem?.mp listed
  rw [List.getElem?_modify] at found
  cases old : entries[place]? with
  | none => simp [old] at found
  | some other =>
    simp only [old, Option.map_eq_map, Option.map_some, Option.some.injEq] at found
    split at found
    · rename_i here
      exact .inr ⟨other, here ▸ old, found.symm⟩
    · exact .inl (found ▸ List.mem_of_getElem? old)

theorem Kept.modify (kept : Kept vouched next entries) (keyed : ∀ entry, (change entry).key = entry.key)
    (vouches : ∀ entry, entries[index]? = some entry → (change entry).WasApproved → vouched entry.key) :
    Kept vouched next (entries.modify index change) := by
  refine ⟨?_, fun entry listed => ?_, fun entry listed approved => ?_⟩
  · rw [map_serial_modify keyed]
    exact kept.distinct
  · rcases mem_modify listed with same | ⟨old, found, rfl⟩
    · exact kept.given entry same
    · rw [serial_of_key (keyed old)]
      exact kept.given old (List.mem_of_getElem? found)
  · rcases mem_modify listed with same | ⟨old, found, rfl⟩
    · exact kept.vouches entry same approved
    · rw [keyed old]
      exact vouches old found approved

theorem Kept.mono {other : PlanKey → Prop} {later : Nat} (kept : Kept vouched next entries)
    (implies : ∀ key, vouched key → other key) (grows : next ≤ later) : Kept other later entries :=
  ⟨kept.distinct, fun entry listed => Nat.lt_of_lt_of_le (kept.given entry listed) grows,
    fun entry listed approved => implies _ (kept.vouches entry listed approved)⟩

theorem Kept.snoc (kept : Kept vouched next entries) (fresh : entry.serial = next)
    (pending : entry.status = .pending) : Kept vouched (next + 1) (entries ++ [entry]) := by
  refine ⟨?_, fun other listed => ?_, fun other listed approved => ?_⟩
  · rw [List.map_append, List.nodup_append]
    refine ⟨kept.distinct, List.nodup_singleton _, ?_⟩
    rintro _ earlier _ new rfl
    obtain ⟨other, listed, same⟩ := List.mem_map.mp earlier
    have given := kept.given other listed
    rw [List.map_singleton, List.mem_singleton, fresh] at new
    omega
  · rcases List.mem_append.mp listed with earlier | new
    · exact Nat.lt_succ_of_lt (kept.given other earlier)
    · rw [List.mem_singleton.mp new, fresh]
      exact Nat.lt_succ_self next
  · rcases List.mem_append.mp listed with earlier | new
    · exact kept.vouches other earlier approved
    · rw [List.mem_singleton.mp new, ExecutionConfirmation.WasApproved, pending] at approved
      simp at approved

theorem reload_key (entry : ExecutionConfirmation) : entry.reload.key = entry.key := by
  unfold ExecutionConfirmation.reload
  split <;> rfl

theorem reload_approved (approved : entry.reload.WasApproved) : entry.WasApproved := by
  unfold ExecutionConfirmation.reload at approved
  split at approved
  · rename_i executing
    exact .inr (.inl executing)
  · exact approved

theorem Kept.reload (kept : Kept vouched next entries) :
    Kept vouched next (entries.map ExecutionConfirmation.reload) := by
  refine ⟨?_, fun entry listed => ?_, fun entry listed approved => ?_⟩
  · rw [List.map_map]
    have same : ExecutionConfirmation.serial ∘ ExecutionConfirmation.reload = ExecutionConfirmation.serial :=
      funext fun entry => serial_of_key (reload_key entry)
    rw [same]
    exact kept.distinct
  · obtain ⟨old, stored, rfl⟩ := List.mem_map.mp listed
    rw [serial_of_key (reload_key old)]
    exact kept.given old stored
  · obtain ⟨old, stored, rfl⟩ := List.mem_map.mp listed
    rw [reload_key]
    exact kept.vouches old stored (reload_approved approved)

end Kept

namespace Executions

open SuspendedExecution (runs)

/-- How the entries stand to the calls that wait and to the runs that have returned. -/
structure Sound (vouched : PlanKey → Prop) (returned : List Nat) (world : Executions) : Prop where
  memory : Kept vouched world.nextSerial world.memory
  disk : Kept vouched world.nextSerial world.disk
  writing : ∀ entries ∈ world.writing, Kept vouched world.nextSerial entries
  single : ∀ index, world.calls.count (runs index) ≤ 1
  running : ∀ index, 0 < world.calls.count (runs index) →
    ∃ entry, world.memory[index]? = some entry ∧ entry.status = .executing
  done : ∀ serial ∈ returned, ∃ entry ∈ world.memory, entry.serial = serial ∧ entry.status = .completed

variable {vouched : PlanKey → Prop} {returned : List Nat} {world : Executions} {entry : ExecutionConfirmation}
  {call : SuspendedExecution} {index : Nat} {ticket : Nat}

theorem Sound.start : Sound vouched [] empty := ⟨.nil, .nil, nofun, fun _ => Nat.zero_le _, nofun, nofun⟩

theorem Sound.mono {other : PlanKey → Prop} (sound : Sound vouched returned world)
    (implies : ∀ key, vouched key → other key) : Sound other returned world :=
  ⟨sound.memory.mono implies le_rfl, sound.disk.mono implies le_rfl,
    fun entries written => (sound.writing entries written).mono implies le_rfl, sound.single, sound.running,
    sound.done⟩

/-- An entry that is not executing is not about to be run. -/
theorem Sound.idle (sound : Sound vouched returned world)
    (found : world.memory[index]? = some entry) (other : entry.status ≠ .executing) :
    world.calls.count (runs index) = 0 := by
  refine Nat.eq_zero_of_not_pos fun counted => ?_
  obtain ⟨same, here, executing⟩ := sound.running index counted
  rw [found] at here
  obtain rfl := Option.some.inj here
  exact other executing

theorem Sound.edit (sound : Sound vouched returned world) {change : ExecutionConfirmation → ExecutionConfirmation}
    (found : world.memory[index]? = some entry) (keyed : ∀ entry, (change entry).key = entry.key)
    (vouches : (change entry).WasApproved → vouched entry.key) (idle : world.calls.count (runs index) = 0)
    (closed : entry.status = .completed → (change entry).status = .completed) :
    Sound vouched returned (world.edit index change) := by
  refine ⟨sound.memory.modify keyed fun other here => ?_, sound.disk, sound.writing, sound.single,
    fun place counted => ?_, fun serial ended => ?_⟩
  · rw [found] at here
    obtain rfl := Option.some.inj here
    exact vouches
  · obtain ⟨other, here, executing⟩ := sound.running place counted
    have elsewhere : index ≠ place := by
      rintro rfl
      have none_ : world.calls.count (runs index) = 0 := idle
      have some_ : 0 < world.calls.count (runs index) := counted
      omega
    refine ⟨other, ?_, executing⟩
    rw [Executions.edit, List.getElem?_modify_ne _ _ elsewhere, here]
  · obtain ⟨other, listed, rfl, completed⟩ := sound.done serial ended
    obtain ⟨place, here⟩ := List.mem_iff_getElem?.mp listed
    by_cases same : index = place
    · subst same
      rw [found] at here
      obtain rfl := Option.some.inj here
      refine ⟨change entry, ?_, serial_of_key (keyed entry), closed completed⟩
      refine List.mem_of_getElem? (i := index) ?_
      rw [Executions.edit, List.getElem?_modify_eq, found]
      rfl
    · refine ⟨other, List.mem_of_getElem? (i := place) ?_, rfl, completed⟩
      rw [Executions.edit, List.getElem?_modify_ne _ _ same, here]

theorem Sound.resume (sound : Sound vouched returned world) (ticket : Nat) :
    Sound vouched returned (world.resume ticket) :=
  ⟨sound.memory, sound.disk, sound.writing,
    fun index => Nat.le_trans (Suspension.count_resume_le _ _ _) (sound.single index),
    fun index counted => sound.running index (Nat.lt_of_lt_of_le counted (Suspension.count_resume_le _ _ _)),
    sound.done⟩

/-- A call that is about no run may wait. -/
theorem Sound.await (sound : Sound vouched returned world) (call : SuspendedExecution)
    (quiet : ∀ index, call.runs index = false) (saves : List SaveOperation) :
    Sound vouched returned { world with calls := world.calls.suspend call, saves } := by
  have same : ∀ index, (world.calls.suspend call).count (runs index) =
      world.calls.count (runs index) := by
    intro index
    simp [Suspension.count_suspend, quiet index]
  refine ⟨sound.memory, sound.disk, sound.writing, fun index => ?_, fun index counted => ?_, sound.done⟩
  · exact (same index).trans_le (sound.single index)
  · exact sound.running index (by rwa [same index] at counted)

/-- A call may wait for the run of an entry that executes and that no other one runs. -/
theorem Sound.run (sound : Sound vouched returned world)
    (entry : ExecutionConfirmation) (runs : ∀ other, call.runs other = decide (index = other))
    (idle : world.calls.count (SuspendedExecution.runs index) = 0)
    (found : world.memory[index]? = some entry) (executing : entry.status = .executing) (saves : List SaveOperation) :
    Sound vouched returned { world with calls := world.calls.suspend call, saves } := by
  refine ⟨sound.memory, sound.disk, sound.writing, fun other => ?_, fun other counted => ?_, sound.done⟩
  · rw [Suspension.count_suspend, runs other]
    by_cases same : index = other
    · subst same
      simp [idle]
    · simpa [same] using sound.single other
  · by_cases same : index = other
    · subst same
      exact ⟨entry, found, executing⟩
    · rw [Suspension.count_suspend, runs other] at counted
      exact sound.running other (by simpa [same] using counted)

/-- Nobody else runs the entry of a call that is taken out. -/
theorem Sound.resumed_idle (sound : Sound vouched returned world)
    (waits : world.calls.find? ticket = some call) (runs : call.runs index = true) :
    (world.resume ticket).calls.count (SuspendedExecution.runs index) = 0 := by
  have single := sound.single index
  have taken := Suspension.count_resume_lt waits runs
  have same : (world.resume ticket).calls = world.calls.resume ticket := rfl
  rw [same]
  omega

/-! ## What each part of a call keeps -/

theorem Sound.request (sound : Sound vouched returned world) (confirmation : ExecutionConfirmation) :
    Sound vouched returned (world.request confirmation) := by
  refine ⟨sound.memory.snoc rfl rfl, sound.disk.mono (fun _ => id) (Nat.le_succ _),
    fun entries written => (sound.writing entries written).mono (fun _ => id) (Nat.le_succ _),
    sound.single, fun index counted => ?_, fun serial ended => ?_⟩
  · obtain ⟨entry, found, executing⟩ := sound.running index counted
    obtain ⟨bound, _⟩ := List.getElem?_eq_some_iff.mp found
    refine ⟨entry, ?_, executing⟩
    rw [Executions.request, List.getElem?_append_left bound, found]
  · obtain ⟨entry, listed, rest⟩ := sound.done serial ended
    exact ⟨entry, List.mem_append_left _ listed, rest⟩

theorem selected_due {index steps : Nat} {now : Timestamp}
    (selected : (world.memory.drop index).findIdx? (·.due now) = some steps) :
    ∃ entry, world.memory[index + steps]? = some entry ∧ entry.due now = true := by
  obtain ⟨bound, due, _⟩ := List.findIdx?_eq_some_iff_getElem.mp selected
  refine ⟨(world.memory.drop index)[steps], ?_, due⟩
  rw [← List.getElem?_drop, List.getElem?_eq_getElem bound]

theorem Sound.advance (sound : Sound vouched returned world) (index : Nat) (now : Timestamp) :
    Sound vouched returned (world.advance index now) := by
  unfold Executions.advance
  split
  · exact sound
  · rename_i steps selected
    obtain ⟨entry, found, due⟩ := selected_due selected
    have approved : entry.status = .approved := by
      simp only [ExecutionConfirmation.due, Bool.and_eq_true, decide_eq_true_eq] at due
      exact due.1
    have idle := sound.idle found (by simp [approved])
    have vouches := sound.memory.vouches entry (List.mem_of_getElem? found) (.inl approved)
    have edited : Sound vouched returned (world.edit (index + steps) (·.execute)) :=
      sound.edit found (fun _ => rfl) (fun _ => vouches) idle fun completed => by
        rw [approved] at completed
        cases completed
    refine edited.run entry.execute (fun other => ?_) idle ?_ rfl _
    · rfl
    · rw [Executions.edit, List.getElem?_modify_eq, found]
      rfl

/-- An entry the runner is called for executes: it is approved and was not completed. -/
theorem Sound.executes (sound : Sound vouched returned world) (counted : 0 < world.calls.count (runs index))
    (found : world.memory[index]? = some entry) : vouched entry.key ∧ entry.serial ∉ returned := by
  obtain ⟨same, here, executing⟩ := sound.running index counted
  rw [found] at here
  obtain rfl := Option.some.inj here
  have listed := List.mem_of_getElem? found
  refine ⟨sound.memory.vouches entry listed (.inr (.inl executing)), fun ended => ?_⟩
  obtain ⟨other, stored, serial, completed⟩ := sound.done _ ended
  obtain rfl := List.inj_on_of_nodup_map sound.memory.distinct stored listed serial
  rw [executing] at completed
  cases completed

/-- The entry of a call that is taken out is tried again. -/
theorem Sound.retry (sound : Sound vouched returned world)
    (waits : world.calls.find? ticket = some call) (runs : call.runs index = true) (now : Timestamp) :
    Sound vouched returned (((world.resume ticket).edit index (·.retry now)).awaitSave (.retrying index)) := by
  obtain ⟨entry, found, executing⟩ := sound.running index (Suspension.count_pos waits runs)
  have vouches := sound.memory.vouches entry (List.mem_of_getElem? found) (.inr (.inl executing))
  refine Sound.await ?_ _ (fun _ => rfl) _
  refine (sound.resume ticket).edit found (fun _ => rfl) (fun _ => vouches) (sound.resumed_idle waits runs) ?_
  intro completed
  rw [executing] at completed
  cases completed

/-- The entry for which the runner has returned is completed. -/
theorem Sound.complete (sound : Sound vouched returned world)
    (waits : world.calls.find? ticket = some (.executing index)) (final : String) (now : Timestamp) :
    Sound vouched (returned ++ (world.memory[index]?.map ExecutionConfirmation.serial).toList)
      (((world.resume ticket).edit index (·.complete now)).awaitSave (.completing index final)) := by
  have runs : runs index (.executing index) = true := by simp [runs]
  obtain ⟨entry, found, executing⟩ := sound.running index (Suspension.count_pos waits runs)
  have vouches := sound.memory.vouches entry (List.mem_of_getElem? found) (.inr (.inl executing))
  have edited : Sound vouched returned ((world.resume ticket).edit index (·.complete now)) :=
    (sound.resume ticket).edit found (fun _ => rfl) (fun _ => vouches) (sound.resumed_idle waits runs) fun _ => rfl
  have kept := edited.await (.completing index final) (fun _ => rfl)
    (world.saves ++ [some world.calls.next])
  refine ⟨kept.memory, kept.disk, kept.writing, kept.single, kept.running, fun serial ended => ?_⟩
  rw [found, Option.map_some, Option.toList_some, List.mem_append, List.mem_singleton] at ended
  rcases ended with earlier | rfl
  · exact kept.done serial earlier
  · refine ⟨entry.complete now, List.mem_of_getElem? (i := index) ?_, rfl, rfl⟩
    simp only [awaitSave, Executions.edit, Executions.resume]
    rw [List.getElem?_modify_eq, found]
    rfl

/-- The call that a save resumes keeps everything, unless it would take a completed entry back. -/
theorem Sound.onSaved (sound : Sound vouched returned world) (ticket : Nat) (outcome : Except String Unit)
    (now : Timestamp)
    (durable : ∀ index final, world.calls.find? ticket = some (.completing index final) → outcome.isOk = true) :
    Sound vouched returned (world.onSaved ticket outcome now).2 ∧ (world.onSaved ticket outcome now).1.returned = none ∧
      ∀ entry ∈ (world.onSaved ticket outcome now).1.executes, vouched entry.key ∧ entry.serial ∉ returned := by
  unfold Executions.onSaved
  split
  · exact ⟨sound.resume ticket, rfl, nofun⟩
  · exact ⟨sound.resume ticket, rfl, nofun⟩
  · rename_i index waits
    have runs : runs index (.starting index) = true := by simp [runs]
    have counted := Suspension.count_pos waits runs
    obtain ⟨entry, found, executing⟩ := sound.running index counted
    refine ⟨?_, rfl, fun taken here => sound.executes counted (Option.mem_def.mp here)⟩
    exact (sound.resume ticket).run _ (fun _ => rfl) (sound.resumed_idle waits runs) found executing world.saves
  · exact ⟨sound.resume ticket, rfl, nofun⟩
  · exact ⟨(sound.resume ticket).await _ (fun _ => rfl) world.saves, rfl, nofun⟩
  · rename_i index final message waits
    have fine := durable index final waits
    cases fine
  · exact ⟨(sound.resume ticket).advance _ _, rfl, nofun⟩
  · exact ⟨sound.resume ticket, rfl, nofun⟩
  · exact ⟨sound, rfl, nofun⟩

/-- The entries whose runs have returned are read back as completed. -/
theorem Sound.restart (sound : Sound vouched returned world)
    (durable : ∀ entry ∈ world.memory, entry.status = .completed →
      ∃ copy ∈ world.disk, copy.serial = entry.serial ∧ copy.status = .completed) :
    Sound vouched returned world.restart := by
  refine ⟨sound.disk.reload, sound.disk, nofun, fun _ => Nat.zero_le _, nofun, fun serial ended => ?_⟩
  obtain ⟨entry, listed, rfl, completed⟩ := sound.done serial ended
  obtain ⟨copy, stored, serial, kept⟩ := durable entry listed completed
  refine ⟨copy.reload, List.mem_map_of_mem stored, ?_, ?_⟩
  · rw [serial_of_key (reload_key copy), serial]
  · rw [ExecutionConfirmation.reload, if_neg (by simp [kept]), kept]

/-- The save after the runner has returned succeeds, and a restart finds every completed
entry completed in the state file. -/
def Durable (world : Executions) (label : ExecutionCall × ExecutionReply) : Prop :=
  match label.1 with
  | .endSave outcome _ =>
    match world.saves with
    | some ticket :: _ =>
      match world.calls.find? ticket with
      | some (.completing _ _) => outcome.isOk = true
      | _ => True
    | _ => True
  | .restart => ∀ entry ∈ world.memory, entry.status = .completed →
      ∃ copy ∈ world.disk, copy.serial = entry.serial ∧ copy.status = .completed
  | _ => True

instance (world : Executions) (label : ExecutionCall × ExecutionReply) : Decidable (Durable world label) := by
  unfold Durable
  split
  · split
    · split <;> infer_instance
    · infer_instance
  · infer_instance
  · infer_instance

/-- A save lands, or fails, before its call goes on. -/
theorem Sound.landed (sound : Sound vouched returned world) {entries : List ExecutionConfirmation}
    (writing : world.writing = some entries) (lands : Bool) (others : List SaveOperation) : Sound vouched returned
      { world with disk := if lands = true then entries else world.disk, saves := others, writing := none } := by
  refine ⟨sound.memory, ?_, nofun, sound.single, sound.running, sound.done⟩
  dsimp only
  split
  · exact sound.writing entries writing
  · exact sound.disk

/-! ## Runs -/

variable {labels : List (ExecutionCall × ExecutionReply)} {before after : Executions}
  {label : ExecutionCall × ExecutionReply}

/-- What a durable step keeps, and whom it calls the runner for. -/
def Steps (labels : List (ExecutionCall × ExecutionReply)) (label : ExecutionCall × ExecutionReply)
    (after : Executions) : Prop :=
  Sound (ApprovedIn (labels ++ [label])) (returnedIn (labels ++ [label])) after ∧
    ∀ entry ∈ label.2.executes, ApprovedIn labels entry.key ∧ entry.serial ∉ returnedIn labels

theorem steps_of (sound : Sound (ApprovedIn labels) (returnedIn labels) after) (unreturned : label.2.returned = none)
    (executes : ∀ entry ∈ label.2.executes, ApprovedIn labels entry.key ∧ entry.serial ∉ returnedIn labels) :
    Steps labels label after := by
  refine ⟨?_, executes⟩
  rw [returnedIn_append, unreturned, Option.toList_none, List.append_nil]
  exact sound.mono fun _ approved => approved.append label

/-- A click that approves an entry vouches for it. -/
theorem Sound.apply (sound : Sound (ApprovedIn labels) (returnedIn labels) before) (action : ExecutionAction)
    (now : Timestamp) (reply : ExecutionReply) (performed : before.applyExecutionDecision action now = (reply, after)) :
    Steps labels (.apply action now, reply) after := by
  unfold applyExecutionDecision at performed
  split at performed
  · cases performed
    exact steps_of sound rfl nofun
  · rename_i index selected
    obtain ⟨bound, meets, _⟩ := List.findIdx?_eq_some_iff_getElem.mp selected
    have found : before.memory[index]? = some before.memory[index] := List.getElem?_eq_getElem bound
    generalize before.memory[index] = entry at meets found
    obtain ⟨source, approval, digest, pending⟩ : action.sourceMessageId = some entry.sourceMessageId ∧
        action.approvalId = some entry.approvalId ∧ action.planDigest = some entry.planDigest ∧
        entry.status = .pending := by
      simpa [ExecutionConfirmation.meets] using meets
    have idle := sound.idle found (by simp [pending])
    obtain ⟨rfl, rfl⟩ := Prod.mk.inj performed
    refine ⟨?_, nofun⟩
    rw [returnedIn_append, Option.toList_none, List.append_nil]
    refine Sound.await ?_ _ (fun _ => rfl) _
    refine Sound.edit (sound.mono fun _ approved => approved.append _) found (fun _ => rfl) ?_ idle ?_
    · intro approved
      by_cases approve : action.decision = some "approve"
      · refine ⟨action, now, _, List.mem_append_right _ (List.mem_singleton_self _), ?_, approve, source, approval,
          digest⟩
        simp [approve, found, ExecutionConfirmation.key]
      · simp [ExecutionConfirmation.WasApproved, ExecutionConfirmation.decide, approve] at approved
    · intro completed
      rw [pending] at completed
      cases completed

theorem Sound.step (sound : Sound (ApprovedIn labels) (returnedIn labels) before)
    (step : machine.system.Step before label after) (durable : before.Durable label) : Steps labels label after := by
  obtain ⟨call, reply⟩ := label
  have performed : perform call before = (reply, after) := step
  cases call with
  | request confirmation =>
    cases performed
    exact steps_of (sound.request confirmation) rfl nofun
  | apply action now => exact sound.apply action now reply performed
  | pass now =>
    cases performed
    exact steps_of (sound.advance 0 now) rfl nofun
  | save =>
    cases performed
    refine steps_of ?_ rfl nofun
    exact ⟨sound.memory, sound.disk, sound.writing, sound.single, sound.running, sound.done⟩
  | beginSave =>
    simp only [perform] at performed
    split at performed
    · cases performed
      refine steps_of ?_ rfl nofun
      refine ⟨sound.memory, sound.disk, fun entries written => ?_, sound.single, sound.running, sound.done⟩
      obtain rfl := Option.some.inj written
      exact sound.memory
    · cases performed
      exact steps_of sound rfl nofun
  | endSave outcome now =>
    simp only [perform] at performed
    split at performed
    · rename_i entries operation others writing queued
      have landed := sound.landed writing outcome.isOk others
      split at performed
      · rename_i ticket
        have spec := landed.onSaved ticket outcome now (by
          intro index final waits
          have waits : before.calls.find? ticket = some (.completing index final) := waits
          simpa [Durable, queued, waits] using durable)
        rw [performed] at spec
        exact steps_of spec.1 spec.2.1 spec.2.2
      · cases performed
        exact steps_of landed rfl nofun
    · cases performed
      exact steps_of sound rfl nofun
  | executed ticket outcome now =>
    simp only [perform] at performed
    split at performed
    · rename_i index waits
      cases outcome with
      | ok final =>
        cases performed
        refine ⟨?_, nofun⟩
        rw [returnedIn_append]
        exact (sound.complete waits final now).mono fun _ approved => approved.append _
      | error message =>
        cases performed
        exact steps_of (sound.retry waits (by simp [runs]) now) rfl nofun
    · cases performed
      exact steps_of sound rfl nofun
  | reported ticket now =>
    simp only [perform] at performed
    split at performed
    · cases performed
      exact steps_of ((sound.resume ticket).advance _ _) rfl nofun
    · cases performed
      exact steps_of sound rfl nofun
  | restart =>
    cases performed
    exact steps_of (sound.restart durable) rfl nofun

/-- A run in which no completed execution is lost. -/
abbrev DurableRun (labels : List (ExecutionCall × ExecutionReply)) (world : Executions) : Prop :=
  (machine.system.restricted Durable).Run labels world

theorem run_sound (run : DurableRun labels world) : Sound (ApprovedIn labels) (returnedIn labels) world := by
  refine run.history
    (motive := fun labels world => Sound (ApprovedIn labels) (returnedIn labels) world) ?_ ?_
  · rintro _ rfl
    exact .start
  · rintro labels label before after _ sound ⟨step, durable⟩
    exact (sound.step step durable).1

/-- The runner is called for an entry only after a click has approved exactly its plan, and
never again once it has returned for it. -/
theorem executed_once (run : DurableRun labels world) {before after : List (ExecutionCall × ExecutionReply)}
    {label : ExecutionCall × ExecutionReply} {entry : ExecutionConfirmation}
    (taken : labels = before ++ label :: after) (executes : label.2.executes = some entry) :
    ApprovedIn before entry.key ∧ entry.serial ∉ returnedIn before := by
  subst taken
  obtain ⟨state, next, prior, ⟨step, durable⟩, _⟩ := run.cut
  exact ((run_sound prior).step step durable).2 entry executes

/-- A plan that is waiting for approval. -/
def factoryPlan : ExecutionConfirmation where
  serial := 0
  sourceMessageId := "om_1"
  title := "Repair"
  sessionId := "session-1"
  approvalId := "blacklake-execution:om_1:0123456789abcdef"
  planDigest := "0123456789abcdef01"
  plan := "Restart the worker."
  status := .pending
  attempts := 0
  decidedAt := none
  nextAttemptAt := none
  completedAt := none

def planApproved : ExecutionAction :=
  ⟨some "om_1", some "blacklake-execution:om_1:0123456789abcdef", some "0123456789abcdef01", some "approve"⟩

/-- The plan is entered and approved, and a pass calls the runner for it. -/
def upToRunner : List ExecutionCall :=
  [.request factoryPlan, .beginSave, .endSave (.ok ()) 0, .apply planApproved 10, .beginSave,
    .endSave (.ok ()) 11, .pass 20, .beginSave, .endSave (.ok ()) 21]

/-- The entry as the runner gets it. -/
def runningPlan : ExecutionConfirmation :=
  { factoryPlan with status := .executing, decidedAt := some 10 }

theorem upToRunner_approved : ApprovedIn ((machine.replay upToRunner empty).1.take 8) runningPlan.key ∧
      runningPlan.serial ∉ returnedIn ((machine.replay upToRunner empty).1.take 8) := by
  have run : DurableRun (machine.replay upToRunner empty).1 (machine.replay upToRunner empty).2 :=
    machine.replay_restricted (by decide)
  have taken : (machine.replay upToRunner empty).1 = (machine.replay upToRunner empty).1.take 8 ++
      (.endSave (.ok ()) 21, ⟨none, some runningPlan, none, none⟩) :: [] := rfl
  exact executed_once run taken rfl

/-- The runner returns, the save after that fails, and a later pass takes the entry up again. -/
def runnerTwice : List ExecutionCall :=
  upToRunner ++ [.executed 2 (.ok "done") 30, .beginSave, .endSave (.error "ENOSPC") 31, .beginSave,
    .endSave (.ok ()) 32, .pass 1000000, .beginSave, .endSave (.ok ()) 1000001]

/-- The runner is called again for an entry for which it has returned. -/
theorem executed_twice : ∃ before label after world entry, machine.system.Run (before ++ label :: after) world ∧
      label.2.executes = some entry ∧ entry.serial ∈ returnedIn before := by
  have run := machine.replay_run runnerTwice
  have taken : (machine.replay runnerTwice machine.initial).1 = (machine.replay runnerTwice empty).1.take 16 ++
      (.endSave (.ok ()) 1000001, ⟨none, some { runningPlan with
        attempts := 1, nextAttemptAt := some 120031, completedAt := some 30 }, none, none⟩) :: [] := rfl
  rw [taken] at run
  refine ⟨_, _, _, _, _, run, rfl, ?_⟩
  decide

end Executions

end QuarkSelfAI.BridgeCompat

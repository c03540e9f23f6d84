import Mathlib.Logic.Function.Basic
import QuarkSelfAI.Foundation.Transition

/-!
# The instance lease

`InstalledServerInstanceLeaseV1` and `LocalClientInstanceLeaseV1`: the right to open one
provider graph is a directory with an owner file. Processes acquire and release it by single
file-system steps, and reclaim a lease whose process is gone by renaming whatever is at the path.
-/

namespace QuarkSelfAI.ControlPlane

open Foundation

/-- The server's lease checks a layout where the client's removes recursively. -/
inductive LeaseVariant where
  | server
  | client
deriving DecidableEq

/-- What an owner file names. -/
structure LeaseOwner (Pid Token : Type) where
  pid : Pid
  token : Token
deriving DecidableEq

/-- The step that a call does next: `acquire` up to `holding`, `release` after it. The token of a
call is the one that it draws. -/
inductive LeasePhase (Pid Token : Type) where
  | making (attempt : Nat)
  | writing (attempt : Nat)
  | cleaning (attempt : Nat) (collided : Bool)
  | reading (attempt : Nat)
  | reclaiming (attempt : Nat)
  | discarding (attempt : Nat) (stale : Option (LeaseOwner Pid Token))
  | holding
  | checking
  | unlinking
  | removing
  | ended
deriving DecidableEq

structure LeaseCall (Pid Token : Type) where
  pid : Pid
  phase : LeasePhase Pid Token
deriving DecidableEq

/-- `lease` is the directory at the path, with its owner file if it has one. -/
structure LeaseState (Pid Token : Type) where
  lease : Option (Option (LeaseOwner Pid Token))
  calls : Token → Option (LeaseCall Pid Token)
  dead : Pid → Bool

inductive LeaseLabel (Pid Token : Type) where
  | acquire (token : Token) (pid : Pid)
  | advance (token : Token)
  | release (token : Token)
  | crash (pid : Pid)

/-- The number of attempts of `acquire`. -/
def maximumAttempts : Nat := 3

variable {Pid Token : Type}

/-- The loop of `acquire` goes on or gives up. -/
def LeasePhase.again (attempt : Nat) : LeasePhase Pid Token :=
  if attempt + 1 < maximumAttempts then .making (attempt + 1) else .ended

namespace LeaseState

variable [DecidableEq Pid] [DecidableEq Token]

/-- A call moves on, and leaves a directory at the path. -/
def moved (state : LeaseState Pid Token) (token : Token) (pid : Pid)
    (lease : Option (Option (LeaseOwner Pid Token))) (phase : LeasePhase Pid Token) : LeaseState Pid Token :=
  { state with lease, calls := Function.update state.calls token (some ⟨pid, phase⟩) }

/-- What `cleanupCreatedLease`, or the client's `rm`, leaves at the path. -/
def cleaned (variant : LeaseVariant) (own : LeaseOwner Pid Token) :
    Option (Option (LeaseOwner Pid Token)) → Option (Option (LeaseOwner Pid Token))
  | some (some owner) => if variant = .client ∨ owner = own then none else some (some owner)
  | some none | none => none

/-- The next step of the call with a token. -/
def advanced (variant : LeaseVariant) (token : Token) (pid : Pid) (phase : LeasePhase Pid Token)
    (state : LeaseState Pid Token) : Option (LeaseState Pid Token) :=
  let own : LeaseOwner Pid Token := ⟨pid, token⟩
  let step := state.moved token pid
  match phase, state.lease with
  -- `mkdir`
  | .making attempt, none => some (step (some none) (.writing attempt))
  | .making attempt, some directory => some (step (some directory) (.reading attempt))
  -- `owner.json` is written exclusively.
  | .writing _, some none => some (step (some (some own)) .holding)
  | .writing attempt, some (some owner) => some (step (some (some owner)) (.cleaning attempt true))
  | .writing attempt, none => some (step none (.cleaning attempt false))
  -- A write that failed because of another owner file looks like a taken path.
  | .cleaning attempt collided, lease =>
    some (step (cleaned variant own lease) (if collided then .reading attempt else .ended))
  | .reading attempt, some (some owner) =>
    some (step (some (some owner)) (if state.dead owner.pid then .reclaiming attempt else .ended))
  | .reading _, lease => some (step lease .ended)
  -- `rename` takes what is at the path now.
  | .reclaiming attempt, none => some (step none (.again attempt))
  | .reclaiming attempt, some directory => some (step none (.discarding attempt directory))
  | .discarding attempt stale, lease =>
    some (step lease (if variant = .server ∧ stale = none then .ended else .again attempt))
  | .checking, some (some owner) => some (step (some (some owner)) (if owner = own then .unlinking else .holding))
  | .checking, lease => some (step lease .holding)
  | .unlinking, some (some _) => some (step (some none) .removing)
  | .unlinking, some none => if variant = .client then some (step none .ended) else some (step (some none) .holding)
  | .unlinking, none => some (step none .holding)
  | .removing, some none => some (step none .ended)
  | .removing, lease => some (step lease .holding)
  | .holding, _ | .ended, _ => none

def perform (variant : LeaseVariant) (label : LeaseLabel Pid Token) (state : LeaseState Pid Token) :
    Option (LeaseState Pid Token) :=
  match label with
  | .acquire token pid =>
    if state.calls token = none ∧ state.dead pid = false then
      some (state.moved token pid state.lease (.making 0))
    else none
  | .advance token =>
    match state.calls token with
    | none => none
    | some call => if state.dead call.pid then none else state.advanced variant token call.pid call.phase
  | .release token =>
    match state.calls token with
    | some ⟨pid, .holding⟩ => if state.dead pid then none else some (state.moved token pid state.lease .checking)
    | _ => none
  | .crash pid => if state.dead pid then none else some { state with dead := Function.update state.dead pid true }

end LeaseState

variable [DecidableEq Pid] [DecidableEq Token] {directory : Option (LeaseOwner Pid Token)}

def leaseMachine (Pid Token : Type) [DecidableEq Pid] [DecidableEq Token] (variant : LeaseVariant) :
    GuardedMachine (LeaseState Pid Token) (LeaseLabel Pid Token) where
  initial := ⟨none, fun _ => none, fun _ => false⟩
  perform := LeaseState.perform variant

namespace LeaseState

/-! ## What is claimed of a state -/

/-- A process that lives has a lease that `acquire` returned, and `release` has not ended for it. -/
def Holds (state : LeaseState Pid Token) (token : Token) : Prop :=
  ∃ call, state.calls token = some call ∧ state.dead call.pid = false ∧
    call.phase ∈ [LeasePhase.holding, .checking, .unlinking, .removing]

/-- No process that lives has a call under way or a lease. -/
def Quiet (state : LeaseState Pid Token) : Prop :=
  ∀ token call, state.calls token = some call → state.dead call.pid = true ∨ call.phase = .ended

/-- A call of `acquire` that is alone in taking steps returns a lease. -/
def Acquires (variant : LeaseVariant) (state : LeaseState Pid Token) (token : Token) (pid : Pid) : Prop :=
  ∃ steps finish, (leaseMachine Pid Token variant).replay
    (.acquire token pid :: List.replicate steps (.advance token)) state = some finish ∧
      finish.calls token = some ⟨pid, .holding⟩

/-- At most one live process holds a lease, and when the others are gone one is acquired. -/
structure OneOwner (variant : LeaseVariant) (state : LeaseState Pid Token) : Prop where
  exclusive : ∀ token other, state.Holds token → state.Holds other → token = other
  recovers : state.Quiet → ∀ token pid, state.calls token = none → state.dead pid = false →
    state.Acquires variant token pid

/-! ## The condition -/

/-- What is at the path is nothing, or a lease whose process is gone. -/
def Reclaimable (state : LeaseState Pid Token) : Bool :=
  state.lease.all fun directory => directory.any fun owner => state.dead owner.pid

/-- A call has a directory at the path without an owner file. -/
def LeavesBare (phase : LeasePhase Pid Token) : Bool :=
  match phase with
  | .writing _ | .removing => true
  | _ => false

/-- A call is about to rename what is at the path. -/
def Renames (phase : LeasePhase Pid Token) : Bool :=
  match phase with
  | .reclaiming _ => true
  | _ => false

/-- A rename takes nothing but a lease whose process is gone, and no process crashes while its
directory has no owner file. -/
def Careful (state : LeaseState Pid Token) : LeaseLabel Pid Token → Prop
  | .advance token => ∀ call ∈ state.calls token, Renames call.phase = true → state.Reclaimable = true
  | .crash pid => ∀ token, ∀ call ∈ state.calls token, call.pid = pid → LeavesBare call.phase = false
  | _ => True

/-! ## Occupants -/

/-- The directory that a call in a phase has at the path. -/
def directoryOf (own : LeaseOwner Pid Token) : LeasePhase Pid Token → Option (Option (LeaseOwner Pid Token))
  | .writing _ | .removing => some none
  | .holding | .checking | .unlinking => some (some own)
  | _ => none

omit [DecidableEq Pid] [DecidableEq Token] in
theorem directoryOf_some {own : LeaseOwner Pid Token} {phase : LeasePhase Pid Token}
    (found : directoryOf own phase = some directory) :
    LeavesBare phase = true ∧ directory = none ∨ directory = some own := by
  cases phase with
  | writing | removing =>
    cases found
    exact .inl ⟨rfl, rfl⟩
  | holding | checking | unlinking =>
    cases found
    exact .inr rfl
  | making | cleaning | reading | reclaiming | discarding | ended => cases found

/-- The directory that a live call has at the path. -/
def occupied (state : LeaseState Pid Token) (token : Token) : Option (Option (LeaseOwner Pid Token)) :=
  (state.calls token).bind fun call => if state.dead call.pid then none else directoryOf ⟨call.pid, token⟩ call.phase

/-- Where every rename and every crash is careful. -/
structure Kept (state : LeaseState Pid Token) : Prop where
  present : ∀ token directory, state.occupied token = some directory → state.lease = some directory
  sole : ∀ token other directory twin, state.occupied token = some directory →
    state.occupied other = some twin → token = other
  owned : ∀ directory, state.lease = some directory → (∃ token, state.occupied token = some directory) ∨
    ∃ owner, directory = some owner ∧ state.dead owner.pid = true
  written : ∀ token call, state.calls token = some call → state.dead call.pid = false →
    ∀ attempt collided, call.phase ≠ .cleaning attempt collided

variable {state : LeaseState Pid Token} {variant : LeaseVariant} {token : Token} {pid : Pid}
  {phase : LeasePhase Pid Token} {lease : Option (Option (LeaseOwner Pid Token))}

omit [DecidableEq Pid] in
theorem occupied_moved (alive : state.dead pid = false) (other : Token) :
    (state.moved token pid lease phase).occupied other =
      if other = token then directoryOf ⟨pid, token⟩ phase else state.occupied other := by
  unfold occupied moved
  by_cases same : other = token
  · subst same
    simp [alive]
  · simp [same]

omit [DecidableEq Pid] [DecidableEq Token] in
theorem occupied_phase {old : LeasePhase Pid Token} (found : state.calls token = some ⟨pid, old⟩)
    (alive : state.dead pid = false) : state.occupied token = directoryOf ⟨pid, token⟩ old := by
  simp [occupied, found, alive]

namespace Kept

omit [DecidableEq Pid] in
/-- A step that leaves the path and the directory of its call alone. -/
theorem moved_aside (kept : Kept state) (alive : state.dead pid = false)
    (same : directoryOf ⟨pid, token⟩ phase = state.occupied token)
    (written : ∀ attempt collided, phase ≠ .cleaning attempt collided) :
    Kept (state.moved token pid state.lease phase) := by
  have occupies : ∀ other, (state.moved token pid state.lease phase).occupied other = state.occupied other := by
    intro other
    rw [occupied_moved alive]
    split
    · rename_i own
      rw [own, same]
    · rfl
  refine ⟨?_, ?_, ?_, ?_⟩
  · intro other directory found
    exact kept.present other directory (occupies other ▸ found)
  · intro first second directory twin left right
    exact kept.sole first second directory twin (occupies first ▸ left) (occupies second ▸ right)
  · intro directory there
    exact (kept.owned directory there).imp (fun ⟨other, found⟩ => ⟨other, (occupies other).trans found⟩) id
  · intro other call found live
    by_cases own : other = token
    · subst own
      simp only [moved, Function.update_self, Option.some_inj] at found
      subst found
      exact written
    · simp only [moved, Function.update_of_ne own] at found
      exact kept.written other call found live

omit [DecidableEq Pid] in
/-- A step of the only call that has something at the path, if there is one. -/
theorem moved_alone (kept : Kept state) (alive : state.dead pid = false)
    (alone : ∀ other, other ≠ token → state.occupied other = none) (leaves : lease = directoryOf ⟨pid, token⟩ phase)
    (written : ∀ attempt collided, phase ≠ .cleaning attempt collided) : Kept (state.moved token pid lease phase) := by
  have only : ∀ other directory, (state.moved token pid lease phase).occupied other = some directory →
      other = token := by
    intro other directory found
    by_contra different
    rw [occupied_moved alive, if_neg different, alone other different] at found
    cases found
  have own : (state.moved token pid lease phase).occupied token = lease := by
    rw [occupied_moved alive, if_pos rfl, leaves]
  refine ⟨?_, ?_, ?_, ?_⟩
  · intro other directory found
    cases only other directory found
    exact own.symm.trans found
  · intro first second directory twin left right
    exact (only first directory left).trans (only second twin right).symm
  · intro directory there
    exact .inl ⟨token, own.trans there⟩
  · intro other call found live
    by_cases same : other = token
    · subst same
      simp only [moved, Function.update_self, Option.some_inj] at found
      subst found
      exact written
    · simp only [moved, Function.update_of_ne same] at found
      exact kept.written other call found live

omit [DecidableEq Pid] [DecidableEq Token] in
/-- Where nothing is at the path, no call has anything there. -/
theorem vacant (kept : Kept state) (nothing : state.lease = none) (other : Token) : state.occupied other = none := by
  cases occupies : state.occupied other with
  | none => rfl
  | some directory =>
    have there := kept.present other directory occupies
    rw [nothing] at there
    cases there

omit [DecidableEq Pid] [DecidableEq Token] in
/-- Where a call has something at the path, no other call has. -/
theorem others (kept : Kept state)
    (occupies : state.occupied token = some directory) (other : Token) (different : other ≠ token) :
    state.occupied other = none := by
  cases found : state.occupied other with
  | none => rfl
  | some twin => exact absurd (kept.sole other token twin directory found occupies) different

omit [DecidableEq Pid] [DecidableEq Token] in
/-- Where a reclaimable lease is at the path, no call has anything there. -/
theorem reclaimed (kept : Kept state) (reclaimable : state.Reclaimable = true) (other : Token) :
    state.occupied other = none := by
  cases occupies : state.occupied other with
  | none => rfl
  | some directory =>
    rw [Reclaimable, kept.present other directory occupies, Option.all_some, Option.any_eq_true] at reclaimable
    obtain ⟨owner, rfl, gone⟩ := reclaimable
    unfold occupied at occupies
    obtain ⟨call, -, occupies⟩ := Option.bind_eq_some_iff.mp occupies
    split at occupies
    · cases occupies
    · rename_i alive
      rcases directoryOf_some occupies with ⟨-, bare⟩ | own
      · cases bare
      · cases own
        exact absurd gone alive

theorem initial : Kept (leaseMachine Pid Token variant).initial := by
  refine ⟨?_, ?_, ?_, ?_⟩
  · intro token directory found
    cases found
  · intro token other directory twin found
    cases found
  · intro directory there
    cases there
  · intro token call found
    cases found

/-- The next step of a call. -/
theorem advanced (kept : Kept state) (found : state.calls token = some ⟨pid, phase⟩) (alive : state.dead pid = false)
    (careful : Renames phase = true → state.Reclaimable = true) {next : LeaseState Pid Token}
    (step : state.advanced variant token pid phase = some next) : Kept next := by
  have occupies := occupied_phase found alive
  have written := kept.written token ⟨pid, phase⟩ found alive
  have aside : ∀ {after : LeasePhase Pid Token}, directoryOf ⟨pid, token⟩ after = directoryOf ⟨pid, token⟩ phase →
      (∀ attempt collided, after ≠ .cleaning attempt collided) → Kept (state.moved token pid state.lease after) :=
    fun same => kept.moved_aside alive (same.trans occupies.symm)
  have again : ∀ attempt, directoryOf ⟨pid, token⟩ (.again attempt) = none ∧
      ∀ other collided, LeasePhase.again attempt ≠ (.cleaning other collided : LeasePhase Pid Token) := by
    intro attempt
    unfold LeasePhase.again
    split
    · exact ⟨rfl, nofun⟩
    · exact ⟨rfl, nofun⟩
  cases phase with
  | holding | ended => cases step
  | cleaning attempt collided => exact absurd rfl (written attempt collided)
  | making attempt =>
    cases there : state.lease with
    | none =>
      simp only [LeaseState.advanced, there, Option.some.injEq] at step
      subst step
      exact kept.moved_alone alive (fun other _ => kept.vacant there other) rfl nofun
    | some directory =>
      simp only [LeaseState.advanced, there, Option.some.injEq] at step
      subst step
      exact there ▸ aside rfl nofun
  | writing attempt =>
    have there := kept.present token none occupies
    simp only [LeaseState.advanced, there, Option.some.injEq] at step
    subst step
    exact kept.moved_alone alive (kept.others occupies) rfl nofun
  | reading attempt =>
    cases there : state.lease with
    | none =>
      simp only [LeaseState.advanced, there, Option.some.injEq] at step
      subst step
      exact there ▸ aside rfl nofun
    | some directory =>
      cases directory with
      | none =>
        simp only [LeaseState.advanced, there, Option.some.injEq] at step
        subst step
        exact there ▸ aside rfl nofun
      | some owner =>
        simp only [LeaseState.advanced, there, Option.some.injEq] at step
        subst step
        rw [← there]
        split
        · exact aside rfl nofun
        · exact aside rfl nofun
  | reclaiming attempt =>
    cases there : state.lease with
    | none =>
      simp only [LeaseState.advanced, there, Option.some.injEq] at step
      subst step
      exact there ▸ aside (again attempt).1 (again attempt).2
    | some directory =>
      simp only [LeaseState.advanced, there, Option.some.injEq] at step
      subst step
      exact kept.moved_alone alive (fun other _ => kept.reclaimed (careful rfl) other) rfl nofun
  | discarding attempt stale =>
    simp only [LeaseState.advanced, Option.some.injEq] at step
    subst step
    split
    · exact aside rfl nofun
    · exact aside (again attempt).1 (again attempt).2
  | checking =>
    have there := kept.present token _ occupies
    simp only [LeaseState.advanced, there, Option.some.injEq] at step
    subst step
    rw [if_pos trivial, ← there]
    exact aside rfl nofun
  | unlinking =>
    have there := kept.present token _ occupies
    simp only [LeaseState.advanced, there, Option.some.injEq] at step
    subst step
    exact kept.moved_alone alive (kept.others occupies) rfl nofun
  | removing =>
    have there := kept.present token none occupies
    simp only [LeaseState.advanced, there, Option.some.injEq] at step
    subst step
    exact kept.moved_alone alive (kept.others occupies) rfl nofun

omit [DecidableEq Token] in
/-- A crash leaves a lease whose process is gone, or nothing. -/
theorem crashed (kept : Kept state)
    (careful : ∀ token, ∀ call ∈ state.calls token, call.pid = pid → LeavesBare call.phase = false) :
    Kept { state with dead := Function.update state.dead pid true } := by
  have still : ∀ {other}, state.dead other = true → Function.update state.dead pid true other = true := by
    intro other gone
    by_cases same : other = pid
    · rw [same, Function.update_self]
    · rw [Function.update_of_ne same, gone]
  have fewer : ∀ {token directory},
      LeaseState.occupied { state with dead := Function.update state.dead pid true } token = some directory →
        state.occupied token = some directory := by
    intro token directory found
    unfold occupied at found
    obtain ⟨call, known, found⟩ := Option.bind_eq_some_iff.mp found
    dsimp only at found
    split at found
    · cases found
    · rename_i alive
      rw [occupied, known, Option.bind_some, if_neg fun gone => alive (still gone), found]
  refine ⟨?_, ?_, ?_, ?_⟩
  · intro token directory found
    exact kept.present token directory (fewer found)
  · intro first second directory twin left right
    exact kept.sole first second directory twin (fewer left) (fewer right)
  · intro directory there
    rcases kept.owned directory there with ⟨token, found⟩ | ⟨owner, rfl, gone⟩
    · have known := found
      unfold occupied at known
      obtain ⟨call, stored, known⟩ := Option.bind_eq_some_iff.mp known
      split at known
      · cases known
      · rename_i alive
        by_cases own : call.pid = pid
        · have bare := careful token call stored own
          rcases directoryOf_some known with ⟨leaves, -⟩ | rfl
          · rw [leaves] at bare
            cases bare
          · exact .inr ⟨_, rfl, by rw [own]; exact Function.update_self ..⟩
        · have living : Function.update state.dead pid true call.pid ≠ true := by
            rw [Function.update_of_ne own]
            exact alive
          refine .inl ⟨token, ?_⟩
          rw [occupied, stored, Option.bind_some]
          exact (if_neg living).trans known
    · exact .inr ⟨owner, rfl, still gone⟩
  · intro token call found live
    refine kept.written token call found ?_
    by_contra gone
    dsimp only at live
    rw [still (by simpa using gone)] at live
    cases live

theorem step (kept : Kept state) {label : LeaseLabel Pid Token} (careful : state.Careful label)
    {next : LeaseState Pid Token} (performed : perform variant label state = some next) : Kept next := by
  cases label with
  | acquire token pid =>
    dsimp only [perform] at performed
    split at performed
    · rename_i fresh
      cases performed
      refine kept.moved_aside fresh.2 ?_ nofun
      simp [occupied, fresh.1, directoryOf]
    · cases performed
  | advance token =>
    dsimp only [perform] at performed
    split at performed
    · cases performed
    · rename_i call found
      split at performed
      · cases performed
      · rename_i alive
        exact kept.advanced found (by simpa using alive) (careful call found) performed
  | release token =>
    dsimp only [perform] at performed
    split at performed
    · rename_i pid found
      split at performed
      · cases performed
      · rename_i alive
        cases performed
        have live : state.dead pid = false := by simpa using alive
        refine kept.moved_aside live ?_ nofun
        rw [occupied_phase found live]
        rfl
    · cases performed
  | crash pid =>
    dsimp only [perform] at performed
    split at performed
    · cases performed
    · cases performed
      exact kept.crashed careful

end Kept

/-! ## The lease over whole runs -/

omit [DecidableEq Pid] [DecidableEq Token] in
theorem Holds.occupied (holds : state.Holds token) : ∃ directory, state.occupied token = some directory := by
  obtain ⟨⟨pid, phase⟩, found, alive, listed⟩ := holds
  rw [occupied_phase found alive]
  simp only [List.mem_cons, List.not_mem_nil, or_false] at listed
  rcases listed with rfl | rfl | rfl | rfl
  all_goals exact ⟨_, rfl⟩

omit [DecidableEq Pid] [DecidableEq Token] in
/-- Where no live process has a call, the path is free or has a lease whose process is gone. -/
theorem Kept.stale (kept : Kept state) (quiet : state.Quiet) :
    state.lease = none ∨ ∃ owner, state.lease = some (some owner) ∧ state.dead owner.pid = true := by
  cases there : state.lease with
  | none => exact .inl rfl
  | some directory =>
    rcases kept.owned directory there with ⟨token, occupies⟩ | ⟨owner, rfl, gone⟩
    · unfold LeaseState.occupied at occupies
      obtain ⟨call, found, occupies⟩ := Option.bind_eq_some_iff.mp occupies
      split at occupies
      · cases occupies
      · rename_i alive
        rcases quiet token call found with gone | ended
        · exact absurd gone alive
        · rw [ended] at occupies
          cases occupies
    · exact .inr ⟨owner, rfl, gone⟩

theorem acquires_free (nothing : state.lease = none) (fresh : state.calls token = none)
    (alive : state.dead pid = false) : state.Acquires variant token pid := by
  refine ⟨2, state.moved token pid (some (some ⟨pid, token⟩)) .holding, ?_, by simp [moved]⟩
  simp [GuardedMachine.replay, leaseMachine, perform, moved, advanced, fresh, alive, nothing, List.replicate]

theorem acquires_stale {owner : LeaseOwner Pid Token} (there : state.lease = some (some owner))
    (gone : state.dead owner.pid = true) (fresh : state.calls token = none) (alive : state.dead pid = false) :
    state.Acquires variant token pid := by
  refine ⟨6, state.moved token pid (some (some ⟨pid, token⟩)) .holding, ?_, by simp [moved]⟩
  simp [GuardedMachine.replay, leaseMachine, perform, moved, advanced, fresh, alive, gone, there, List.replicate,
    LeasePhase.again, maximumAttempts]

theorem Kept.oneOwner (kept : Kept state) : OneOwner variant state := by
  refine ⟨?_, ?_⟩
  · intro token other first second
    obtain ⟨directory, left⟩ := first.occupied
    obtain ⟨twin, right⟩ := second.occupied
    exact kept.sole token other directory twin left right
  · intro quiet token pid fresh alive
    rcases kept.stale quiet with nothing | ⟨owner, there, gone⟩
    · exact acquires_free nothing fresh alive
    · exact acquires_stale there gone fresh alive

/-- In a run whose renames take nothing but leases of crashed processes, and in which no process
crashes while its directory has no owner file, at most one live process holds a lease at any time,
and once no other process is at it one can be acquired. -/
theorem instanceLease_oneOwner {labels : List (LeaseLabel Pid Token)}
    (run : ((leaseMachine Pid Token variant).system.restricted Careful).Run labels state) : OneOwner variant state := by
  have kept : Kept state := by
    refine run.history (motive := fun _ state => Kept state) ?_ ?_
    · rintro state rfl
      exact .initial
    · rintro labels label before after - kept ⟨performed, careful⟩
      exact kept.step careful performed
  exact kept.oneOwner

/-! ## Runs of both variants -/

instance (state : LeaseState (Fin 3) (Fin 3)) : (label : LeaseLabel (Fin 3) (Fin 3)) → Decidable (state.Careful label)
  | .advance token => inferInstanceAs (Decidable (∀ call ∈ state.calls token, Renames call.phase = true →
      state.Reclaimable = true))
  | .crash pid => inferInstanceAs (Decidable (∀ token, ∀ call ∈ state.calls token, call.pid = pid →
      LeavesBare call.phase = false))
  | .acquire .. | .release _ => .isTrue trivial

/-- A process acquires the lease and crashes, and another one reclaims it. -/
def leaseReclaimed : List (LeaseLabel (Fin 3) (Fin 3)) :=
  [.acquire 0 0, .advance 0, .advance 0, .crash 0, .acquire 1 1] ++ List.replicate 6 (.advance 1)

/-- Two processes read a stale owner. One of them reclaims the lease and holds it when the other
one renames it. -/
def leaseContested : List (LeaseLabel (Fin 3) (Fin 3)) :=
  [.acquire 0 0, .advance 0, .advance 0, .crash 0, .acquire 1 1, .acquire 2 2, .advance 1, .advance 1, .advance 2,
    .advance 2] ++ List.replicate 4 (.advance 1) ++ List.replicate 4 (.advance 2)

/-- A process crashes between the directory and its owner file, and another one tries to acquire. -/
def leaseBare : List (LeaseLabel (Fin 3) (Fin 3)) :=
  [.acquire 0 0, .advance 0, .crash 0, .acquire 1 1, .advance 1, .advance 1]

/-- The state after the lease was reclaimed. -/
def reclaimedState (variant : LeaseVariant) : LeaseState (Fin 3) (Fin 3) :=
  (((leaseMachine (Fin 3) (Fin 3) variant).guarded Careful).replay leaseReclaimed
    (leaseMachine (Fin 3) (Fin 3) variant).initial).get (by cases variant <;> decide)

/-- The state after labels that are enabled one after another. -/
def stateAfter (variant : LeaseVariant) (labels : List (LeaseLabel (Fin 3) (Fin 3)))
    (enabled : ((leaseMachine (Fin 3) (Fin 3) variant).replay labels
      (leaseMachine (Fin 3) (Fin 3) variant).initial).isSome = true) : LeaseState (Fin 3) (Fin 3) :=
  ((leaseMachine (Fin 3) (Fin 3) variant).replay labels (leaseMachine (Fin 3) (Fin 3) variant).initial).get enabled

theorem stateAfter_run {labels : List (LeaseLabel (Fin 3) (Fin 3))}
    (enabled : ((leaseMachine (Fin 3) (Fin 3) variant).replay labels
      (leaseMachine (Fin 3) (Fin 3) variant).initial).isSome = true) :
    (leaseMachine (Fin 3) (Fin 3) variant).system.Run labels (stateAfter variant labels enabled) :=
  GuardedMachine.replay_run _ (Option.some_get enabled).symm

/-- The lease of a crashed process is reclaimed, and has one owner. -/
theorem leaseReclaimed_oneOwner :
    OneOwner .server (reclaimedState .server) ∧ OneOwner .client (reclaimedState .client) :=
  ⟨instanceLease_oneOwner (GuardedMachine.replay_restricted _ (Option.some_get _).symm),
    instanceLease_oneOwner (GuardedMachine.replay_restricted _ (Option.some_get _).symm)⟩

/-- With either variant two live processes may hold a lease, and after a crash between the directory
and its owner file a process that is alone fails to acquire one. -/
theorem lease_doubled : (∃ state, (leaseMachine (Fin 3) (Fin 3) .server).system.Run leaseContested state ∧
      state.Holds 1 ∧ state.Holds 2) ∧
    (∃ state, (leaseMachine (Fin 3) (Fin 3) .client).system.Run leaseContested state ∧
      state.Holds 1 ∧ state.Holds 2) ∧ (∃ state, (leaseMachine (Fin 3) (Fin 3) .server).system.Run leaseBare state ∧
      state.calls 1 = some ⟨1, .ended⟩ ∧ state.lease = some none) ∧
    ∃ state, (leaseMachine (Fin 3) (Fin 3) .client).system.Run leaseBare state ∧
      state.calls 1 = some ⟨1, .ended⟩ ∧ state.lease = some none := by
  refine ⟨⟨stateAfter .server leaseContested (by decide), stateAfter_run _, ?_, ?_⟩,
    ⟨stateAfter .client leaseContested (by decide), stateAfter_run _, ?_, ?_⟩,
    ⟨stateAfter .server leaseBare (by decide), stateAfter_run _, by decide, by decide⟩,
    ⟨stateAfter .client leaseBare (by decide), stateAfter_run _, by decide, by decide⟩⟩
  · exact ⟨⟨1, .holding⟩, by decide, by decide, by decide⟩
  · exact ⟨⟨2, .holding⟩, by decide, by decide, by decide⟩
  · exact ⟨⟨1, .holding⟩, by decide, by decide, by decide⟩
  · exact ⟨⟨2, .holding⟩, by decide, by decide, by decide⟩

end LeaseState

end QuarkSelfAI.ControlPlane

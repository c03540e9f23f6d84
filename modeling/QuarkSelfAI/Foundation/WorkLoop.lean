import Mathlib.Data.Finset.Card
import Mathlib.Order.Interval.Finset.Nat
import QuarkSelfAI.Foundation.Lease

/-!
# Work loops over a store of leases

Workers get work from a store, start it, and answer for it with calls of their
own. A worker may stop at any point, so its lease may be taken over while the
worker is still about. The attempt of a lease counts its acquisitions, and a
worker that has started the last permitted attempt does not hand the work back;
the results say what that bounds and what it does not.
-/

namespace QuarkSelfAI.Foundation

/-- A service the calls of which move the leases of its items. -/
structure LeasedStore (Store Call Reply Item Owner : Type) extends Machine Store Call Reply where
  lease : Store → Item → Lease Owner
  move : Item → Call × Reply → Option (LeaseMove Owner)
  holds : Store → Prop
  initially : holds initial ∧ ∀ item, lease initial item = Lease.fresh
  preserved : ∀ {before call reply after}, holds before → perform call before = (reply, after) → holds after
  stayed : ∀ {before call reply after item}, holds before → perform call before = (reply, after) →
    move item (call, reply) = none → lease after item = lease before item
  stepped : ∀ {before call reply after item made}, holds before →
    perform call before = (reply, after) → move item (call, reply) = some made →
      Lease.Step (lease before item) made (lease after item)

/-- Work as it was handed to a worker. -/
structure Job (Item Owner : Type) where
  item : Item
  owner : Owner
  attempt : Nat
deriving DecidableEq

/-- One attempt at one item. -/
def Job.key {Item Owner : Type} (job : Job Item Owner) : Item × Nat := (job.item, job.attempt)

structure WorkLoop (Store Call Reply Item Owner : Type) extends
    LeasedStore Store Call Reply Item Owner where
  /-- The attempt from which on a failure is final. -/
  limit : Nat
  /-- The calls that ask for work, and those of other parties. -/
  requests : Call → Bool
  /-- The work an answer hands out. -/
  handed : Call × Reply → Option (Job Item Owner)
  /-- The calls a worker makes for its job, which it has started or not. -/
  answers : Bool → Job Item Owner → Call → Bool
  handed_iff : ∀ {entry item owner}, move item entry = some (.acquire owner) ↔
    ∃ attempt, handed entry = some ⟨item, owner, attempt⟩
  numbered : ∀ {before call reply after job}, holds before → perform call before = (reply, after) →
    handed (call, reply) = some job → job.attempt = (lease after job.item).attempt
  requested : ∀ {call reply item made}, requests call → move item (call, reply) = some made →
    (∃ owner, made = .acquire owner) ∨ made = .cancel
  answered : ∀ {started job call reply item made}, answers started job call →
    move item (call, reply) = some made → item = job.item ∧ (made = .finish job.owner ∨
        made = .surrender job.owner ∧ (started = true → job.attempt < limit))

/-- The store, the jobs workers have not answered for, and the attempts that were started. -/
structure LoopState (Store Item Owner : Type) where
  store : Store
  jobs : List (Job Item Owner)
  started : List (Item × Nat)

inductive LoopLabel (Call Item Owner : Type) where
  | request (call : Call)
  | start (job : Job Item Owner)
  | answer (job : Job Item Owner) (call : Call)

/-- How often an item was started. -/
def LoopState.starts {Store Item Owner : Type} [DecidableEq Item]
    (state : LoopState Store Item Owner) (item : Item) : Nat :=
  (state.started.filter fun attempt => attempt.1 = item).length

namespace WorkLoop

variable {Store Call Reply Item Owner : Type} [DecidableEq Item] [DecidableEq Owner]

/-- The runs of a loop. A job is started once; the worker is done with it when an
answer was accepted, and a worker that stops takes no further step. -/
def machine (loop : WorkLoop Store Call Reply Item Owner) :
    GuardedMachine (LoopState Store Item Owner) (LoopLabel Call Item Owner) where
  initial := ⟨loop.initial, [], []⟩
  perform label state :=
    match label with
    | .request call =>
      if loop.requests call then
        let (reply, store) := loop.perform call state.store
        some { state with store, jobs := state.jobs ++ (loop.handed (call, reply)).toList }
      else none
    | .start job =>
      if job ∈ state.jobs ∧ job.key ∉ state.started then
        some { state with started := state.started ++ [job.key] }
      else none
    | .answer job call =>
      if job ∈ state.jobs ∧ loop.answers (job.key ∈ state.started) job call then
        let (reply, store) := loop.perform call state.store
        let jobs := if (loop.move job.item (call, reply)).isSome then state.jobs.erase job else state.jobs
        some { state with store, jobs }
      else none

/-- Work is taken over from a lost worker only before its last attempt, and a worker
hands work back only as the attempt it was given. -/
def Heeds (loop : WorkLoop Store Call Reply Item Owner) (state : LoopState Store Item Owner) :
    LoopLabel Call Item Owner → Prop
  | .request call => ∀ job ∈ loop.handed (call, (loop.perform call state.store).1),
      (loop.lease state.store job.item).phase = .free ∨ (loop.lease state.store job.item).attempt < loop.limit
  | .start _ => True
  | .answer job call =>
      loop.move job.item (call, (loop.perform call state.store).1) = some (.surrender job.owner) →
        (loop.lease state.store job.item).attempt = job.attempt

instance (loop : WorkLoop Store Call Reply Item Owner) (state : LoopState Store Item Owner)
    (label : LoopLabel Call Item Owner) : Decidable (loop.Heeds state label) := by
  unfold Heeds
  split <;> infer_instance

/-! ## What one step does -/

inductive LoopStep (loop : WorkLoop Store Call Reply Item Owner)
    (before : LoopState Store Item Owner) :
    LoopLabel Call Item Owner → LoopState Store Item Owner → Prop where
  | requested {call reply store} (requests : loop.requests call)
      (performed : loop.perform call before.store = (reply, store)) :
      LoopStep loop before (.request call)
        { before with store, jobs := before.jobs ++ (loop.handed (call, reply)).toList }
  | started {job} (listed : job ∈ before.jobs) (fresh : job.key ∉ before.started) :
      LoopStep loop before (.start job) { before with started := before.started ++ [job.key] }
  | refused {job call reply store} (listed : job ∈ before.jobs)
      (answers : loop.answers (job.key ∈ before.started) job call)
      (performed : loop.perform call before.store = (reply, store))
      (still : loop.move job.item (call, reply) = none) :
      LoopStep loop before (.answer job call) { before with store }
  | answered {job call reply store made} (listed : job ∈ before.jobs)
      (answers : loop.answers (job.key ∈ before.started) job call)
      (performed : loop.perform call before.store = (reply, store))
      (moved : loop.move job.item (call, reply) = some made) :
      LoopStep loop before (.answer job call) { before with store, jobs := before.jobs.erase job }

variable {loop : WorkLoop Store Call Reply Item Owner} {before after : LoopState Store Item Owner}
  {label : LoopLabel Call Item Owner} {state : LoopState Store Item Owner} {job : Job Item Owner}

theorem step_spec (step : loop.machine.system.Step before label after) : LoopStep loop before label after := by
  cases label with
  | request call =>
    simp only [GuardedMachine.system, machine] at step
    split at step
    · rename_i requests
      cases step
      exact .requested requests rfl
    · cases step
  | start job =>
    simp only [GuardedMachine.system, machine] at step
    split at step
    · rename_i allowed
      cases step
      exact .started allowed.1 allowed.2
    · cases step
  | answer job call =>
    simp only [GuardedMachine.system, machine] at step
    split at step
    · rename_i allowed
      cases step
      cases made : loop.move job.item (call, (loop.perform call before.store).1) with
      | none => exact .refused allowed.1 allowed.2 rfl made
      | some move => exact .answered allowed.1 allowed.2 rfl made
    · cases step

/-! ## The attempts of an item -/

/-- An attempt at an item that was started, or may still be. -/
def Live (state : LoopState Store Item Owner) (key : Item × Nat) : Prop :=
  key ∈ state.started ∨ ∃ job ∈ state.jobs, job.key = key

/-- Attempts are numbered as the leases count them, and a live attempt from the limit
on is the current one, the lease of which is not free. -/
structure Accounted (loop : WorkLoop Store Call Reply Item Owner)
    (state : LoopState Store Item Owner) : Prop where
  holds : loop.holds state.store
  distinct : (state.jobs.map Job.key).Nodup
  once : state.started.Nodup
  counted : ∀ {item attempt}, Live state (item, attempt) → 1 ≤ attempt ∧ attempt ≤ (loop.lease state.store item).attempt
  last : ∀ {item attempt}, Live state (item, attempt) → loop.limit ≤ attempt →
    attempt = (loop.lease state.store item).attempt ∧ (loop.lease state.store item).phase ≠ .free

theorem Accounted.initial : Accounted loop loop.machine.initial where
  holds := loop.initially.1
  distinct := List.nodup_nil
  once := List.nodup_nil
  counted live := by
    rcases live with listed | ⟨job, listed, _⟩
    · cases listed
    · cases listed
  last live := by
    rcases live with listed | ⟨job, listed, _⟩
    · cases listed
    · cases listed

/-! ## Leases along a step -/

section Leases

variable {call : Call} {reply : Reply} {store next : Store} {item : Item}

omit [DecidableEq Item] [DecidableEq Owner] in
/-- A request that does not hand the item out leaves its attempt and frees nothing. -/
theorem lease_requested (holds : loop.holds store) (requests : loop.requests call)
    (performed : loop.perform call store = (reply, next))
    (unhanded : ∀ owner, loop.move item (call, reply) ≠ some (.acquire owner)) :
    (loop.lease next item).attempt = (loop.lease store item).attempt ∧
      ((loop.lease store item).phase ≠ .free → (loop.lease next item).phase ≠ .free) := by
  cases moves : loop.move item (call, reply) with
  | none =>
    rw [loop.stayed holds performed moves]
    exact ⟨rfl, id⟩
  | some made =>
    have step := loop.stepped holds performed moves
    rcases loop.requested requests moves with ⟨owner, rfl⟩ | rfl
    · exact (unhanded owner moves).elim
    · generalize loop.lease next item = after at step
      cases step with
      | cancel free => exact ⟨rfl, fun held => (held free).elim⟩
      | overlook => exact ⟨rfl, id⟩

omit [DecidableEq Item] [DecidableEq Owner] in
/-- Work that is handed out is held, as one more attempt. -/
theorem lease_handed (holds : loop.holds store) (performed : loop.perform call store = (reply, next))
    {owner : Owner} (moves : loop.move item (call, reply) = some (.acquire owner)) :
    loop.lease next item = ⟨.held owner, (loop.lease store item).attempt + 1⟩ ∧
      (loop.lease store item).phase ≠ .closed := by
  have step := loop.stepped holds performed moves
  generalize loop.lease next item = after at step
  cases step with
  | acquire _ opened => exact ⟨rfl, opened⟩

end Leases

/-! ## Every step keeps the account -/

omit [DecidableEq Item] [DecidableEq Owner] in
/-- What was not handed out now is live as it was, or is a job that was handed out. -/
theorem live_handed {store : Store} {job : Option (Job Item Owner)} {key : Item × Nat}
    (live : Live { state with store, jobs := state.jobs ++ job.toList } key) :
    Live state key ∨ ∃ handed, job = some handed ∧ handed.key = key := by
  rcases live with listed | ⟨other, listed, rfl⟩
  · exact .inl (.inl listed)
  · rcases List.mem_append.mp listed with open_ | given
    · exact .inl (.inr ⟨other, open_, rfl⟩)
    · exact .inr ⟨other, Option.mem_toList.mp given, rfl⟩

omit [DecidableEq Item] [DecidableEq Owner] in
theorem Accounted.requested {call : Call} {reply : Reply} {store : Store}
    (accounted : Accounted loop before) (requests : loop.requests call)
    (performed : loop.perform call before.store = (reply, store)) (heeds : ∀ job ∈ loop.handed (call, reply),
      (loop.lease before.store job.item).phase = .free ∨
        (loop.lease before.store job.item).attempt < loop.limit) : Accounted loop
      { before with store, jobs := before.jobs ++ (loop.handed (call, reply)).toList } := by
  have holds := accounted.holds
  -- A job that is handed out is the next attempt of its item, which is held from now on.
  have given : ∀ {job : Job Item Owner}, loop.handed (call, reply) = some job →
      job.attempt = (loop.lease before.store job.item).attempt + 1 ∧
        loop.lease store job.item = ⟨.held job.owner, job.attempt⟩ := by
    intro job handed
    have moves := loop.handed_iff.mpr ⟨job.attempt, handed⟩
    have numbered := loop.numbered holds performed handed
    obtain ⟨leased, _⟩ := lease_handed holds performed moves
    rw [leased] at numbered ⊢
    exact ⟨numbered, by rw [numbered]⟩
  have kept : ∀ {item attempt}, Live before (item, attempt) →
      attempt ≤ (loop.lease store item).attempt ∧ (loop.limit ≤ attempt →
        attempt = (loop.lease store item).attempt ∧ (loop.lease store item).phase ≠ .free) := by
    intro item attempt live
    have bounded := (accounted.counted live).2
    by_cases acquired : ∃ owner, loop.move item (call, reply) = some (.acquire owner)
    · obtain ⟨owner, moves⟩ := acquired
      obtain ⟨leased, opened⟩ := lease_handed holds performed moves
      rw [leased]
      refine ⟨Nat.le_succ_of_le bounded, fun reached => ?_⟩
      obtain ⟨current, taken⟩ := accounted.last live reached
      obtain ⟨_, handed⟩ := loop.handed_iff.mp moves
      rcases heeds _ handed with free | below
      · exact (taken free).elim
      · have below : (loop.lease before.store item).attempt < loop.limit := below
        omega
    · obtain ⟨same, unfreed⟩ := lease_requested holds requests performed
        (fun owner moves => acquired ⟨owner, moves⟩)
      rw [same]
      refine ⟨bounded, fun reached => ?_⟩
      obtain ⟨current, taken⟩ := accounted.last live reached
      exact ⟨current, unfreed taken⟩
  refine
    { holds := loop.preserved holds performed, distinct := ?_, once := accounted.once
      counted := ?_, last := ?_ }
  · cases handed : loop.handed (call, reply) with
    | none => simpa using accounted.distinct
    | some job =>
      simp only [Option.toList_some, List.map_append, List.map_cons, List.map_nil]
      refine List.nodup_append.mpr ⟨accounted.distinct, List.nodup_singleton _, ?_⟩
      rintro _ listed _ new rfl
      obtain ⟨other, listed, same⟩ := List.mem_map.mp listed
      rw [List.mem_singleton.mp new] at same
      obtain ⟨item, attempt⟩ := Prod.mk.inj same
      have earlier := (accounted.counted (.inr ⟨other, listed, rfl⟩)).2
      have later := (given handed).1
      rw [item, attempt] at earlier
      omega
  · intro item attempt live
    rcases live_handed live with old | ⟨job, handed, same⟩
    · exact ⟨(accounted.counted old).1, (kept old).1⟩
    · obtain ⟨rfl, rfl⟩ := Prod.mk.inj same
      obtain ⟨next, leased⟩ := given handed
      rw [leased]
      exact ⟨by omega, le_rfl⟩
  · intro item attempt live reached
    rcases live_handed live with old | ⟨job, handed, same⟩
    · exact (kept old).2 reached
    · obtain ⟨rfl, rfl⟩ := Prod.mk.inj same
      rw [(given handed).2]
      exact ⟨rfl, by simp⟩

omit [DecidableEq Item] [DecidableEq Owner] in
theorem Accounted.started (accounted : Accounted loop before)
    (listed : job ∈ before.jobs) (fresh : job.key ∉ before.started) :
    Accounted loop { before with started := before.started ++ [job.key] } := by
  have live : ∀ {key}, Live { before with started := before.started ++ [job.key] } key → Live before key := by
    rintro key (started | open_)
    · rcases List.mem_append.mp started with earlier | now
      · exact .inl earlier
      · exact .inr ⟨job, listed, (List.mem_singleton.mp now).symm⟩
    · exact .inr open_
  refine
    { holds := accounted.holds, distinct := accounted.distinct, once := ?_
      counted := fun here => accounted.counted (live here)
      last := fun here => accounted.last (live here) }
  refine List.nodup_append.mpr ⟨accounted.once, List.nodup_singleton _, ?_⟩
  rintro key earlier _ now rfl
  rw [List.mem_singleton.mp now] at earlier
  exact fresh earlier

omit [DecidableEq Item] [DecidableEq Owner] in
/-- An answer moves the lease of its own job only. -/
theorem Accounted.refused {call : Call} {reply : Reply} {store : Store}
    {begun : Bool} (accounted : Accounted loop before) (answers : loop.answers begun job call)
    (performed : loop.perform call before.store = (reply, store))
    (still : loop.move job.item (call, reply) = none) : Accounted loop { before with store } := by
  have same : ∀ item, loop.lease store item = loop.lease before.store item := by
    intro item
    refine loop.stayed accounted.holds performed ?_
    cases moves : loop.move item (call, reply) with
    | none => rfl
    | some made =>
      rw [(loop.answered answers moves).1, still] at moves
      cases moves
  refine
    { holds := loop.preserved accounted.holds performed, distinct := accounted.distinct
      once := accounted.once, counted := ?_, last := ?_ }
  · intro item attempt live
    rw [same]
    exact accounted.counted live
  · intro item attempt live
    rw [same]
    exact accounted.last live

theorem Accounted.answered {call : Call} {reply : Reply} {store : Store}
    {made : LeaseMove Owner} (accounted : Accounted loop before) (listed : job ∈ before.jobs)
    (answers : loop.answers (job.key ∈ before.started) job call)
    (performed : loop.perform call before.store = (reply, store))
    (moves : loop.move job.item (call, reply) = some made)
    (heeds : loop.move job.item (call, reply) = some (.surrender job.owner) →
      (loop.lease before.store job.item).attempt = job.attempt) :
    Accounted loop { before with store, jobs := before.jobs.erase job } := by
  have holds := accounted.holds
  have elsewhere : ∀ item, item ≠ job.item → loop.lease store item = loop.lease before.store item := by
    intro item different
    refine loop.stayed holds performed ?_
    cases other : loop.move item (call, reply) with
    | none => rfl
    | some _ => exact (different (loop.answered answers other).1).elim
  have nodup : before.jobs.Nodup := accounted.distinct.of_map _
  have live : ∀ {key}, Live { before with store, jobs := before.jobs.erase job } key →
      Live before key ∧ (key = job.key → job.key ∈ before.started) := by
    rintro key (started | ⟨other, remains, rfl⟩)
    · exact ⟨.inl started, fun same => same ▸ started⟩
    · obtain ⟨different, also⟩ := nodup.mem_erase_iff.mp remains
      refine ⟨.inr ⟨other, also, rfl⟩, fun same => ?_⟩
      exact (different (List.inj_on_of_nodup_map accounted.distinct also listed same)).elim
  have step := loop.stepped holds performed moves
  have attempt : (loop.lease store job.item).attempt = (loop.lease before.store job.item).attempt := by
    rcases (loop.answered answers moves).2 with rfl | ⟨rfl, _⟩
    all_goals
      generalize loop.lease store job.item = left at step
      cases step
      rfl
  refine
    { holds := loop.preserved holds performed
      distinct := accounted.distinct.sublist (List.erase_sublist.map _)
      once := accounted.once, counted := ?_, last := ?_ }
  · intro item number here
    have counted := accounted.counted (live here).1
    by_cases own : item = job.item
    · subst own
      rwa [attempt]
    · rwa [elsewhere item own]
  · intro item number here reached
    obtain ⟨was, still⟩ := live here
    have last := accounted.last was reached
    by_cases own : item = job.item
    · subst own
      rw [attempt]
      refine ⟨last.1, ?_⟩
      rcases (loop.answered answers moves).2 with rfl | ⟨rfl, early⟩
      · generalize loop.lease store job.item = left at step
        cases step
        simp
      · -- The lease is handed back as the job's own attempt, so the live attempt is that one:
        -- it was started, and a started job is handed back before the limit only.
        have current := heeds moves
        have mine : (job.item, number) = job.key := by rw [last.1, current, Job.key]
        have below := early (by simpa using still mine)
        rw [last.1, current] at reached
        omega
    · rwa [elsewhere item own]

/-- Every step that heeds the limit keeps the account. -/
theorem Accounted.step (accounted : Accounted loop before)
    (step : loop.machine.system.Step before label after) (heeds : loop.Heeds before label) : Accounted loop after := by
  cases step_spec step with
  | @requested call reply store requests performed =>
    have replied : (loop.perform call before.store).1 = reply := by rw [performed]
    refine accounted.requested requests performed ?_
    intro job handed
    exact heeds job (by rwa [replied])
  | started listed fresh => exact accounted.started listed fresh
  | refused _ answers performed still => exact accounted.refused answers performed still
  | @answered job call reply store made listed answers performed moves =>
    have replied : (loop.perform call before.store).1 = reply := by rw [performed]
    refine accounted.answered listed answers performed moves ?_
    intro surrenders
    exact heeds (by rwa [replied])

omit [DecidableEq Owner] in
/-- As many different attempts as the limit at most: those below it, and the current one. -/
theorem Accounted.starts_le (accounted : Accounted loop state)
    (positive : 1 ≤ loop.limit) (item : Item) : state.starts item ≤ loop.limit := by
  have distinct := accounted.once.filter fun attempt => attempt.1 = item
  have listed_iff : ∀ {attempt : Item × Nat},
      attempt ∈ (state.started.filter fun attempt => attempt.1 = item).toFinset ↔
        attempt ∈ state.started ∧ attempt.1 = item := by
    simp
  have bounded : (state.started.filter fun attempt => attempt.1 = item).toFinset.card ≤
      (Finset.Icc 1 loop.limit).card := by
    refine Finset.card_le_card_of_injOn (fun attempt => min attempt.2 loop.limit) ?_ ?_
    · rintro ⟨other, attempt⟩ listed
      obtain ⟨started, rfl⟩ := listed_iff.mp listed
      have counted := (accounted.counted (.inl started)).1
      simp only [Finset.coe_Icc, Set.mem_Icc]
      omega
    · rintro ⟨one, attempt⟩ listed ⟨another, number⟩ also same
      obtain ⟨started, rfl⟩ := listed_iff.mp listed
      obtain ⟨others, rfl⟩ := listed_iff.mp also
      have first := accounted.last (.inl started)
      have second := accounted.last (.inl others)
      simp only at same
      have equal : attempt = number := by
        by_cases reached : loop.limit ≤ attempt
        · by_cases also : loop.limit ≤ number
          · rw [(first reached).1, (second also).1]
          · omega
        · omega
      rw [equal]
  rw [List.toFinset_card_of_nodup distinct] at bounded
  simpa [LoopState.starts] using bounded

/-- A run the steps of which all heed the limit. -/
abbrev HeedfulRun (loop : WorkLoop Store Call Reply Item Owner)
    (labels : List (LoopLabel Call Item Owner)) (state : LoopState Store Item Owner) : Prop :=
  (loop.machine.system.restricted loop.Heeds).Run labels state

/-- In a run the steps of which heed the limit, no item is started more often than that. -/
theorem run_starts_le {labels : List (LoopLabel Call Item Owner)} (positive : 1 ≤ loop.limit)
    (run : loop.HeedfulRun labels state) (item : Item) : state.starts item ≤ loop.limit := by
  have accounted : Accounted loop state := by
    refine run.invariant ?_ ?_
    · rintro _ rfl
      exact .initial
    · rintro before label after accounted ⟨step, heeds⟩
      exact accounted.step step heeds
  exact accounted.starts_le positive item

end WorkLoop

end QuarkSelfAI.Foundation

import QuarkSelfAI.Foundation.IsoTime
import QuarkSelfAI.Foundation.Transition

/-!
# The client worker

One worker that runs a pass at a time and arms a timer for the next one. Its state, its timer and the promise of its pass
are changed by `start` and `stop`, by timers, by the pass as its client answers and by the continuations that wait in the
queue of the event loop: `finally` of a pass that settled, and the rest of each `stop` call.
-/

namespace QuarkSelfAI.ClientRuntime

open Foundation

/-! ## The worker -/

inductive WorkerState where
  | stopped
  | running
  | stopping
  | degraded
deriving DecidableEq

/-- `['running', 'degraded'].includes(state)`. -/
def WorkerState.isActive (state : WorkerState) : Bool := state ∈ [.running, .degraded]

/-- The intervals of a configuration that is accepted. -/
structure NoEffectClientWorkerConfig where
  cycleIntervalMs : Nat
  discoveryIntervalMs : Nat
  cycles : 5000 ≤ cycleIntervalMs ∧ cycleIntervalMs ≤ 300000
  discoveries : 30000 ≤ discoveryIntervalMs ∧ discoveryIntervalMs ≤ 3600000

structure NoEffectConfiguredClientWorker where
  state : WorkerState := .stopped
  passCount : Nat := 0
  lastPassAt : Option Timestamp := none
  lastDiscoveryAt : Option Timestamp := none
  lastReceiptState : Option String := none
  lastFailure : Option String := none
  timer : Option Nat := none
  inFlight : Option Nat := none

/-! ## Its surroundings -/

/-- A pass that waits for the client: for the discovery, or for the execution. -/
structure Pass where
  id : Nat
  now : Timestamp
  discovering : Bool

structure ArmedTimer where
  handle : Nat
  delayMs : Nat

/-- A continuation in the queue: the callback of `finally`, or the rest of a `stop` call. -/
inductive Continuation where
  | passEnds
  | stopEnds
deriving DecidableEq

/-- The worker with the passes that run, the timers that are armed, the `stop` calls that wait for a pass, the queue, how
many handles were issued, and whether a `stop` call resolved after the last start. -/
structure WorkerScene where
  worker : NoEffectConfiguredClientWorker := {}
  passes : List Pass := []
  armed : List ArmedTimer := []
  waiting : List Nat := []
  queue : List Continuation := []
  issued : Nat := 0
  resolved : Bool := false

namespace WorkerScene

/-- The discovery is due. -/
def discovers (config : NoEffectClientWorkerConfig) (worker : NoEffectConfiguredClientWorker) (now : Timestamp) : Bool :=
  match worker.lastDiscoveryAt with
  | none => true
  | some last => config.discoveryIntervalMs ≤ now - last

/-- `launchPass`, where the clock reads an instant or an invalid date. A pass that meets an invalid date settles at once. -/
def launchPass (config : NoEffectClientWorkerConfig) (clock : Option Timestamp) (scene : WorkerScene) : WorkerScene :=
  if scene.worker.state.isActive = false ∨ scene.worker.inFlight.isSome then scene
  else
    match clock with
    | none =>
      { scene with
        worker := { scene.worker with
          state := .degraded, lastFailure := some "client-cycle-failed", inFlight := some scene.issued }
        queue := scene.queue ++ [.passEnds]
        issued := scene.issued + 1 }
    | some now =>
      { scene with
        worker := { scene.worker with inFlight := some scene.issued }
        passes := scene.passes ++ [⟨scene.issued, now, discovers config scene.worker now⟩]
        issued := scene.issued + 1 }

/-- `start`; it throws when the worker is not stopped. -/
def start (config : NoEffectClientWorkerConfig) (clock : Option Timestamp) (scene : WorkerScene) : WorkerScene :=
  if scene.worker.state ≠ .stopped then scene
  else launchPass config clock { scene with worker := { scene.worker with state := .running }, resolved := false }

/-- The pass still runs. -/
def runs (scene : WorkerScene) (id : Nat) : Bool := scene.passes.any fun pass => pass.id = id

/-- `stop` up to the promise it waits for; one that has settled resumes it from the queue. -/
def stop (scene : WorkerScene) : WorkerScene :=
  if scene.worker.state = .stopped then { scene with resolved := true }
  else
    let cancelled :=
      { scene with
        worker := { scene.worker with state := .stopping, timer := none }
        armed := scene.armed.filter fun timer => some timer.handle ≠ scene.worker.timer }
    match scene.worker.inFlight.filter scene.runs with
    | some id => { cancelled with waiting := scene.waiting ++ [id] }
    | none => { cancelled with queue := scene.queue ++ [.stopEnds] }

/-- The callback of a timer. -/
def fire (config : NoEffectClientWorkerConfig) (handle : Nat) (clock : Option Timestamp) (scene : WorkerScene) :
    WorkerScene :=
  launchPass config clock
    { scene with
      worker := { scene.worker with timer := none }
      armed := scene.armed.filter fun timer => timer.handle ≠ handle }

/-- `refreshInstalledExecutors` resolved. -/
def refreshed (pass : Pass) (scene : WorkerScene) : WorkerScene :=
  { scene with
    worker := { scene.worker with lastDiscoveryAt := some pass.now }
    passes := scene.passes.map fun other => if other.id = pass.id then { other with discovering := false } else other }

/-- The promise of a pass settles: its `finally` and the calls that wait for it enter the queue. -/
def settle (pass : Pass) (scene : WorkerScene) : WorkerScene :=
  { scene with
    passes := scene.passes.filter fun other => other.id ≠ pass.id
    queue := scene.queue ++ .passEnds :: (scene.waiting.filter (· = pass.id)).map fun _ => .stopEnds
    waiting := scene.waiting.filter (· ≠ pass.id) }

/-- `executeSignedReasoningNoEffectOnce` resolved. -/
def executed (pass : Pass) (receiptState : String) (scene : WorkerScene) : WorkerScene :=
  settle pass
    { scene with
      worker := { scene.worker with
        passCount := scene.worker.passCount + 1
        lastPassAt := some pass.now
        lastReceiptState := some receiptState
        lastFailure := none
        state := if scene.worker.state = .degraded then .running else scene.worker.state } }

/-- The client rejected. -/
def failed (pass : Pass) (scene : WorkerScene) : WorkerScene :=
  settle pass
    { scene with
      worker := { scene.worker with
        passCount := scene.worker.passCount + 1
        lastPassAt := some pass.now
        lastFailure := some "client-cycle-failed"
        state := if scene.worker.state ≠ .stopping then .degraded else scene.worker.state } }

/-- The callback of `finally`. -/
def passEnds (config : NoEffectClientWorkerConfig) (scene : WorkerScene) : WorkerScene :=
  let ended := { scene with worker := { scene.worker with inFlight := none } }
  if scene.worker.state.isActive = false then ended
  else
    { ended with
      worker := { ended.worker with timer := some scene.issued }
      armed := scene.armed ++ [⟨scene.issued, config.cycleIntervalMs⟩]
      issued := scene.issued + 1 }

/-- The rest of a `stop` call. -/
def stopEnds (scene : WorkerScene) : WorkerScene :=
  { scene with worker := { scene.worker with state := .stopped }, resolved := true }

end WorkerScene

/-- What happens next; a pass is named by its id. -/
inductive WorkerMove where
  | start (clock : Option Timestamp)
  | stop
  | fire (handle : Nat) (clock : Option Timestamp)
  | refreshed (pass : Nat)
  | executed (pass : Nat) (receiptState : String)
  | failed (pass : Nat)
  | continue

namespace WorkerScene

/-- The pass of an id. -/
def pass? (scene : WorkerScene) (id : Nat) : Option Pass := scene.passes.find? fun pass => pass.id = id

def perform (config : NoEffectClientWorkerConfig) : WorkerMove → WorkerScene → Option WorkerScene
  | .start clock, scene => some (scene.start config clock)
  | .stop, scene => some scene.stop
  | .fire handle clock, scene =>
    if scene.armed.any fun timer => timer.handle = handle then some (scene.fire config handle clock) else none
  | .refreshed id, scene => (scene.pass? id).bind fun pass => if pass.discovering then some (scene.refreshed pass) else none
  | .executed id receiptState, scene =>
    (scene.pass? id).bind fun pass => if pass.discovering then none else some (scene.executed pass receiptState)
  | .failed id, scene => (scene.pass? id).map fun pass => scene.failed pass
  | .continue, scene =>
    match scene.queue with
    | [] => none
    | .passEnds :: queue => some ({ scene with queue }.passEnds config)
    | .stopEnds :: queue => some { scene with queue }.stopEnds

def machine (config : NoEffectClientWorkerConfig) : GuardedMachine WorkerScene WorkerMove where
  initial := {}
  perform := perform config

/-- At most one pass and one timer, never both, and neither after a `stop` call resolved. -/
structure Single (scene : WorkerScene) : Prop where
  passes : scene.passes.length ≤ 1
  armed : scene.armed.length ≤ 1
  apart : scene.passes = [] ∨ scene.armed = []
  quiet : scene.resolved = true → scene.passes = [] ∧ scene.armed = []

/-- A `stop` call has not resolved yet. -/
def StopPending (scene : WorkerScene) : Prop := scene.waiting ≠ [] ∨ .stopEnds ∈ scene.queue

instance (scene : WorkerScene) : Decidable scene.StopPending := inferInstanceAs (Decidable (_ ∨ _))

/-- The worker is not started while a `stop` call has not resolved. -/
def Undivided (scene : WorkerScene) : WorkerMove → Prop
  | .start _ => scene.worker.state = .stopped → ¬ scene.StopPending
  | _ => True

instance (scene : WorkerScene) : (move : WorkerMove) → Decidable (Undivided scene move)
  | .start _ => inferInstanceAs (Decidable (_ → _))
  | .stop | .fire _ _ | .refreshed _ | .executed _ _ | .failed _ | .continue => inferInstanceAs (Decidable True)

/-! ## One owner -/

/-- Where the pass is: there is none, it runs, or it has settled and its `finally` is in the queue. -/
inductive Phase (scene : WorkerScene) : Prop where
  | idle (passes : scene.passes = []) (inFlight : scene.worker.inFlight = none)
      (armed : scene.armed.map (·.handle) = scene.worker.timer.toList) (queue : .passEnds ∉ scene.queue)
  | flying (pass : Pass) (passes : scene.passes = [pass]) (inFlight : scene.worker.inFlight = some pass.id)
      (armed : scene.armed = []) (timer : scene.worker.timer = none) (queue : .passEnds ∉ scene.queue)
  | landing (id : Nat) (passes : scene.passes = []) (inFlight : scene.worker.inFlight = some id)
      (armed : scene.armed = []) (timer : scene.worker.timer = none) (queue : scene.queue.count .passEnds = 1)

/-- A phase is about the passes, the timer and the queue. -/
theorem Phase.mode {scene : WorkerScene} {state : WorkerState} {resolved : Bool} (phase : Phase scene) :
    Phase { scene with worker := { scene.worker with state }, resolved } := by
  cases phase with
  | idle passes inFlight armed queue => exact .idle passes inFlight armed queue
  | flying pass passes inFlight armed timer queue => exact .flying pass passes inFlight armed timer queue
  | landing id passes inFlight armed timer queue => exact .landing id passes inFlight armed timer queue

/-- The worker has one owner. -/
structure Owned (scene : WorkerScene) : Prop where
  phase : Phase scene
  still : scene.worker.state.isActive = false → scene.armed = []
  pending : scene.StopPending → scene.worker.state.isActive = false
  ending : .stopEnds ∈ scene.queue → scene.passes = []
  waits : ∀ id ∈ scene.waiting, ∃ pass ∈ scene.passes, pass.id = id
  stopped : scene.worker.state = .stopped → scene.passes = []
  quiet : scene.resolved = true → scene.worker.state = .stopped

theorem Owned.initial : Owned {} where
  phase := .idle rfl rfl rfl (by simp)
  still := fun _ => rfl
  pending := by simp [StopPending]
  ending := by simp
  waits := by simp
  stopped := fun _ => rfl
  quiet := nofun

variable {config : NoEffectClientWorkerConfig} {scene : WorkerScene} {pass : Pass} {clock : Option Timestamp}
  {id : Nat}

theorem Owned.single (owned : Owned scene) : Single scene := by
  have armed : scene.armed.length ≤ 1 ∧ (scene.passes = [] ∨ scene.armed = []) := by
    cases owned.phase with
    | idle passes inFlight armed queue =>
      refine ⟨?_, .inl passes⟩
      rw [← List.length_map, armed]
      cases scene.worker.timer <;> simp
    | flying pass passes inFlight armed timer queue | landing id passes inFlight armed timer queue =>
      exact ⟨by simp [armed], .inr armed⟩
  refine ⟨?_, armed.1, armed.2, fun resolved => ?_⟩
  · cases owned.phase with
    | idle passes | flying pass passes | landing id passes => simp [passes]
  · have stopped := owned.quiet resolved
    exact ⟨owned.stopped stopped, owned.still (by rw [stopped]; rfl)⟩

/-- A pass is launched by a worker without a timer, for which no `stop` call waits. -/
theorem Owned.launchPass (owned : Owned scene) (active : scene.worker.state.isActive = true)
    (armed : scene.armed = []) : Owned (scene.launchPass config clock) := by
  have free : ¬ scene.StopPending := fun pending => by
    rw [owned.pending pending] at active
    cases active
  have calls : scene.waiting = [] ∧ .stopEnds ∉ scene.queue := by
    simpa [StopPending, not_or] using free
  have running : scene.resolved = true → False := fun resolved => by
    rw [owned.quiet resolved] at active
    cases active
  unfold WorkerScene.launchPass
  by_cases flies : scene.worker.inFlight.isSome
  · rw [if_pos (.inr flies)]
    exact owned
  · rw [if_neg (by simp [active, flies])]
    cases owned.phase with
    | flying pass passes inFlight | landing id passes inFlight => exact absurd (by rw [inFlight]; rfl) flies
    | idle passes inFlight timers queue =>
      have timer : scene.worker.timer = none := by
        rw [armed] at timers
        exact Option.toList_eq_nil_iff.mp timers.symm
      cases clock with
      | none =>
        exact {
          phase := .landing scene.issued passes rfl armed timer (by
            rw [List.count_append, List.count_eq_zero_of_not_mem queue]
            rfl)
          still := fun _ => armed
          pending := by simp [StopPending, calls.1, calls.2]
          ending := fun _ => passes
          waits := by simp [calls.1]
          stopped := fun _ => passes
          quiet := fun resolved => (running resolved).elim }
      | some now =>
        exact {
          phase := .flying _ (by rw [passes]; rfl) rfl armed timer queue
          still := fun _ => armed
          pending := fun pending => absurd pending free
          ending := fun ends => absurd ends calls.2
          waits := by simp [calls.1]
          stopped := fun stopped => by
            simp only at stopped
            rw [stopped] at active
            cases active
          quiet := fun resolved => (running resolved).elim }

theorem Owned.start (owned : Owned scene)
    (undivided : scene.worker.state = .stopped → ¬ scene.StopPending) : Owned (scene.start config clock) := by
  rw [WorkerScene.start]
  by_cases stopped : scene.worker.state = .stopped
  · rw [if_neg (not_not.mpr stopped)]
    have free := undivided stopped
    have calls : scene.waiting = [] ∧ .stopEnds ∉ scene.queue := by
      simpa [StopPending, not_or] using free
    have passes := owned.stopped stopped
    have armed := owned.still (by rw [stopped]; rfl)
    refine Owned.launchPass ?_ rfl armed
    exact {
      phase := owned.phase.mode
      still := fun _ => armed
      pending := fun pending => absurd pending free
      ending := fun _ => passes
      waits := by simp [calls.1]
      stopped := fun _ => passes
      quiet := nofun }
  · rw [if_pos stopped]
    exact owned

theorem Owned.stop (owned : Owned scene) : Owned scene.stop := by
  rw [WorkerScene.stop]
  by_cases stopped : scene.worker.state = .stopped
  · rw [if_pos stopped]
    exact { owned with
      phase := owned.phase.mode
      quiet := fun _ => stopped }
  · rw [if_neg stopped]
    have unresolved : scene.resolved = true → False := fun resolved => stopped (owned.quiet resolved)
    have cancelled : scene.armed.filter (fun timer => some timer.handle ≠ scene.worker.timer) = [] := by
      rw [List.filter_eq_nil_iff]
      intro timer listed
      cases owned.phase with
      | idle passes inFlight armed queue =>
        have handle : timer.handle ∈ scene.worker.timer.toList := armed ▸ List.mem_map_of_mem listed
        simp [Option.mem_toList.mp handle]
      | flying pass passes inFlight armed timer queue | landing id passes inFlight armed timer queue =>
        simp [armed] at listed
    dsimp only
    rw [cancelled]
    cases owned.phase with
    | idle passes inFlight armed queue =>
      have settled : scene.worker.inFlight.filter scene.runs = none := by
        rw [inFlight]
        rfl
      rw [settled]
      exact {
        phase := .idle passes inFlight rfl (by simp [queue])
        still := fun _ => rfl
        pending := fun _ => rfl
        ending := fun _ => passes
        waits := owned.waits
        stopped := nofun
        quiet := fun resolved => (unresolved resolved).elim }
    | flying pass passes inFlight armed timer queue =>
      have runs : scene.worker.inFlight.filter scene.runs = some pass.id := by
        rw [inFlight]
        simp [WorkerScene.runs, passes]
      rw [runs]
      exact {
        phase := .flying pass passes inFlight rfl rfl queue
        still := fun _ => rfl
        pending := fun _ => rfl
        ending := owned.ending
        waits := by
          intro id listed
          rcases List.mem_append.mp listed with before | last
          · exact owned.waits id before
          · rw [List.mem_singleton.mp last]
            exact ⟨pass, passes ▸ List.mem_singleton.mpr rfl, rfl⟩
        stopped := nofun
        quiet := fun resolved => (unresolved resolved).elim }
    | landing id passes inFlight armed timer queue =>
      have settled : scene.worker.inFlight.filter scene.runs = none := by
        rw [inFlight]
        simp [WorkerScene.runs, passes]
      rw [settled]
      exact {
        phase := .landing id passes inFlight rfl rfl (by rw [List.count_append, queue]; rfl)
        still := fun _ => rfl
        pending := fun _ => rfl
        ending := fun _ => passes
        waits := owned.waits
        stopped := nofun
        quiet := fun resolved => (unresolved resolved).elim }

theorem Owned.fire {handle : Nat} (owned : Owned scene)
    (armed : scene.armed.any fun timer => timer.handle = handle) : Owned (scene.fire config handle clock) := by
  obtain ⟨timer, listed, named⟩ := List.any_eq_true.mp armed
  have filled : scene.armed ≠ [] := List.ne_nil_of_mem listed
  have active : scene.worker.state.isActive = true := by
    by_contra inactive
    exact filled (owned.still (Bool.not_eq_true _ ▸ inactive))
  cases owned.phase with
  | flying pass passes inFlight armed timer queue | landing id passes inFlight armed timer queue =>
    exact absurd armed filled
  | idle passes inFlight timers queue =>
    have emptied : scene.armed.filter (fun timer => timer.handle ≠ handle) = [] := by
      have single := owned.single.armed
      obtain ⟨only, armed⟩ := List.length_eq_one_iff.mp (Nat.le_antisymm single (List.length_pos_of_mem listed))
      rw [armed] at listed ⊢
      rw [← List.mem_singleton.mp listed]
      simpa using named
    refine Owned.launchPass ?_ active emptied
    exact {
      phase := .idle passes inFlight (by simp only [emptied]; rfl) queue
      still := fun _ => emptied
      pending := owned.pending
      ending := owned.ending
      waits := owned.waits
      stopped := owned.stopped
      quiet := owned.quiet }

/-- A pass that is found is the only one. -/
theorem Owned.only (owned : Owned scene) (found : scene.pass? id = some pass) :
    scene.passes = [pass] ∧ scene.worker.inFlight = some pass.id ∧ scene.armed = [] ∧ scene.worker.timer = none ∧
      .passEnds ∉ scene.queue := by
  have listed := List.mem_of_find?_eq_some found
  cases owned.phase with
  | idle passes | landing id passes => simp [passes] at listed
  | flying other passes inFlight armed timer queue =>
    rw [passes] at listed
    rw [List.mem_singleton.mp listed]
    exact ⟨passes, inFlight, armed, timer, queue⟩

theorem Owned.refreshed (owned : Owned scene) (found : scene.pass? id = some pass) : Owned (scene.refreshed pass) := by
  obtain ⟨passes, inFlight, armed, timer, queue⟩ := owned.only found
  have filled : scene.passes ≠ [] := by simp [passes]
  exact {
    phase := .flying { pass with discovering := false } (by simp [WorkerScene.refreshed, passes]) inFlight armed timer
      queue
    still := fun _ => armed
    pending := owned.pending
    ending := fun ends => absurd (owned.ending ends) filled
    waits := by
      intro other listed
      obtain ⟨member, there, same⟩ := owned.waits other listed
      rw [passes] at there
      rw [← same, List.mem_singleton.mp there]
      exact ⟨{ pass with discovering := false }, by simp [WorkerScene.refreshed, passes], rfl⟩
    stopped := fun stopped => absurd (owned.stopped stopped) filled
    quiet := owned.quiet }

/-- The pass settles, and its outcome changes an active state to an active one and no other. -/
theorem Owned.settle {worker : NoEffectConfiguredClientWorker} (owned : Owned scene)
    (found : scene.pass? id = some pass) (inFlight : worker.inFlight = scene.worker.inFlight)
    (timer : worker.timer = scene.worker.timer)
    (kept : scene.worker.state.isActive = false → worker.state = scene.worker.state)
    (active : scene.worker.state.isActive = true → worker.state.isActive = true) :
    Owned (({ scene with worker }).settle pass) := by
  obtain ⟨passes, flies, armed, unset, queue⟩ := owned.only found
  have filled : scene.passes ≠ [] := by simp [passes]
  have same : worker.state.isActive = scene.worker.state.isActive := by
    cases before : scene.worker.state.isActive with
    | false => rw [kept before, before]
    | true => exact active before
  have calls : scene.waiting.filter (· ≠ pass.id) = [] := by
    rw [List.filter_eq_nil_iff]
    intro other listed
    obtain ⟨member, there, rfl⟩ := owned.waits other listed
    rw [passes] at there
    simp [List.mem_singleton.mp there]
  have none : scene.passes.filter (fun other => other.id ≠ pass.id) = [] := by simp [passes]
  exact {
    phase := .landing pass.id none (inFlight.trans flies) armed (timer.trans unset) (by
      simp only [WorkerScene.settle, List.count_append, List.count_eq_zero_of_not_mem queue, List.count_cons_self,
        Nat.zero_add]
      rw [List.count_eq_zero_of_not_mem (by simp)])
    still := fun _ => armed
    pending := by
      rintro (waits | ends)
      · exact absurd calls waits
      · refine same.trans (owned.pending ?_)
        simp only [WorkerScene.settle, List.mem_append, List.mem_cons, reduceCtorEq, false_or] at ends
        rcases ends with before | called
        · exact .inr before
        · refine .inl fun empty => ?_
          simp [empty] at called
    ending := fun _ => none
    waits := by
      intro other listed
      have there : other ∈ scene.waiting.filter (· ≠ pass.id) := listed
      rw [calls] at there
      cases there
    stopped := fun _ => none
    quiet := by
      intro resolved
      have stopped := owned.quiet resolved
      exact absurd (owned.stopped stopped) filled }

theorem Owned.executed {receiptState : String} (owned : Owned scene)
    (found : scene.pass? id = some pass) : Owned (scene.executed pass receiptState) := by
  refine owned.settle found rfl rfl (fun inactive => if_neg ?_) fun active => ?_
  · intro degraded
    rw [degraded] at inactive
    cases inactive
  · dsimp only
    split
    · rfl
    · exact active

theorem Owned.failed (owned : Owned scene) (found : scene.pass? id = some pass) : Owned (scene.failed pass) := by
  have flies : scene.worker.state ≠ .stopped := by
    intro stopped
    have empty := owned.stopped stopped
    rw [(owned.only found).1] at empty
    cases empty
  refine owned.settle found rfl rfl (fun inactive => if_neg ?_) fun active => if_pos ?_ ▸ rfl
  · cases state : scene.worker.state with
    | stopping => exact not_not.mpr rfl
    | stopped => exact absurd state flies
    | running | degraded =>
      rw [state] at inactive
      cases inactive
  · intro stopping
    rw [stopping] at active
    cases active

theorem Owned.passEnds {queue : List Continuation} (owned : Owned scene) (head : scene.queue = .passEnds :: queue) :
    Owned ({ scene with queue }.passEnds config) := by
  have listed : .passEnds ∈ scene.queue := head ▸ List.mem_cons_self
  cases owned.phase with
  | idle passes inFlight armed absent | flying pass passes inFlight armed timer absent => exact absurd listed absent
  | landing id passes inFlight armed timer counted =>
    have absent : .passEnds ∉ queue := by
      rw [head, List.count_cons_self] at counted
      exact List.count_eq_zero.mp (Nat.succ.inj counted)
    have calls : .stopEnds ∈ queue → scene.StopPending := fun ends => .inr (head ▸ List.mem_cons_of_mem _ ends)
    have pending : WorkerScene.StopPending { scene with queue } → scene.StopPending := by
      rintro (waits | ends)
      · exact .inl waits
      · exact calls ends
    have waits : ∀ id ∈ scene.waiting, ∃ pass ∈ scene.passes, pass.id = id := owned.waits
    rw [WorkerScene.passEnds]
    by_cases inactive : scene.worker.state.isActive = false
    · rw [if_pos inactive]
      exact {
        phase := .idle passes rfl (by simp [armed, timer]) absent
        still := fun _ => armed
        pending := fun left => owned.pending (pending left)
        ending := fun _ => passes
        waits := waits
        stopped := fun _ => passes
        quiet := owned.quiet }
    · rw [if_neg inactive]
      exact {
        phase := .idle passes rfl (by simp [armed]) absent
        still := fun other => absurd other inactive
        pending := fun left => owned.pending (pending left)
        ending := fun _ => passes
        waits := waits
        stopped := fun _ => passes
        quiet := owned.quiet }

theorem Owned.stopEnds {queue : List Continuation} (owned : Owned scene) (head : scene.queue = .stopEnds :: queue) :
    Owned { scene with queue }.stopEnds := by
  have listed : .stopEnds ∈ scene.queue := head ▸ List.mem_cons_self
  have passes := owned.ending listed
  have armed := owned.still (owned.pending (.inr listed))
  have others : ∀ continuation ∈ queue, continuation ∈ scene.queue :=
    fun continuation later => head ▸ List.mem_cons_of_mem _ later
  exact {
    phase := by
      cases owned.phase with
      | idle passes inFlight armed absent => exact .idle passes inFlight armed fun later => absent (others _ later)
      | flying pass passes inFlight armed timer absent =>
        exact .flying pass passes inFlight armed timer fun later => absent (others _ later)
      | landing id passes inFlight armed timer counted =>
        refine .landing id passes inFlight armed timer ?_
        rw [head, List.count_cons_of_ne (by decide)] at counted
        exact counted
    still := fun _ => armed
    pending := fun _ => rfl
    ending := fun _ => passes
    waits := owned.waits
    stopped := fun _ => passes
    quiet := fun _ => rfl }

theorem Owned.perform {move : WorkerMove} {next : WorkerScene} (owned : Owned scene) (undivided : Undivided scene move)
    (performed : perform config move scene = some next) : Owned next := by
  cases move with
  | start clock =>
    cases performed
    exact owned.start undivided
  | stop =>
    cases performed
    exact owned.stop
  | fire handle clock =>
    rw [WorkerScene.perform] at performed
    split at performed <;> cases performed
    rename_i armed
    exact owned.fire armed
  | refreshed id =>
    obtain ⟨pass, found, performed⟩ := Option.bind_eq_some_iff.mp performed
    split at performed <;> cases performed
    exact owned.refreshed found
  | executed id receiptState =>
    obtain ⟨pass, found, performed⟩ := Option.bind_eq_some_iff.mp performed
    split at performed <;> cases performed
    exact owned.executed found
  | failed id =>
    obtain ⟨pass, found, rfl⟩ := Option.map_eq_some_iff.mp performed
    exact owned.failed found
  | «continue» =>
    rw [WorkerScene.perform] at performed
    split at performed
    · cases performed
    · rename_i queue head
      cases performed
      exact owned.passEnds head
    · rename_i queue head
      cases performed
      exact owned.stopEnds head

/-- In every run in which the worker is not started while a `stop` call waits, it has at most one pass and one timer,
never both, and neither from the moment a `stop` call resolves until it is started again. -/
theorem run_single {moves : List WorkerMove}
    (run : ((machine config).system.restricted Undivided).Run moves scene) : Single scene := by
  refine (run.history (motive := fun _ scene => Owned scene) ?_ ?_).single
  · rintro _ rfl
    exact .initial
  · rintro _ move before after _ owned ⟨performed, undivided⟩
    exact owned.perform undivided performed

/-- A worker that polls every five seconds. -/
def sampleWorker : NoEffectClientWorkerConfig := ⟨5000, 30000, by decide, by decide⟩

/-- A pass with a discovery, a timer, a second pass, and two `stop` calls while it runs. -/
def stoppedTwice : List WorkerMove :=
  [.start (some 0), .refreshed 0, .executed 0 "online-empty", .continue, .fire 1 (some 5000), .stop, .stop, .failed 2,
    .continue, .continue, .continue, .start none, .continue]

theorem run_single_stoppedTwice : ∃ scene, ((machine sampleWorker).system.restricted Undivided).Run stoppedTwice scene ∧
    scene.worker.state = .degraded ∧ Single scene := by
  obtain ⟨scene, replayed, state⟩ : ∃ scene,
      ((machine sampleWorker).guarded Undivided).replay stoppedTwice (machine sampleWorker).initial = some scene ∧
        scene.worker.state = .degraded := by decide
  have run := (machine sampleWorker).replay_restricted replayed
  exact ⟨scene, run, state, run_single run⟩

/-- The worker is started between the continuations of two `stop` calls; the second resolves while its pass runs. -/
def startedBetween : List WorkerMove :=
  [.start (some 0), .refreshed 0, .executed 0 "online-empty", .continue, .stop, .stop, .continue, .start (some 5000),
    .continue]

theorem second_stop_divides : ∃ scene, (machine sampleWorker).system.Run startedBetween scene ∧ ¬ Single scene := by
  obtain ⟨scene, replayed, resolved, runs⟩ : ∃ scene,
      (machine sampleWorker).replay startedBetween (machine sampleWorker).initial = some scene ∧
        scene.resolved = true ∧ scene.passes ≠ [] := by decide
  exact ⟨scene, (machine sampleWorker).replay_run replayed, fun single => runs (single.quiet resolved).1⟩

end WorkerScene

end QuarkSelfAI.ClientRuntime

import QuarkSelfAI.Runtime.WakeScheduler

/-!
# Wake-ups are served

A scheduler is disposed, idle, about to drain, or draining with one pass in flight. From
this it follows that a wake-up that is due is answered by a pass within two callbacks.
-/

namespace QuarkSelfAI.Runtime

open Foundation

/-- A request of no time to come. -/
def WakeCall.isDue : WakeCall → Bool
  | .wake requested now => (requested.future? now).isNone
  | _ => false

def WakeCall.disposes : WakeCall → Bool
  | .dispose _ => true
  | _ => false

namespace Scheduler

variable {options : WakeOptions} {scheduler next : Scheduler} {now : Timestamp} {labels : List (WakeCall × Bool)}
  {passes : Nat}

/-- How a scheduler stands between two calls. -/
inductive Standing (options : WakeOptions) (scheduler : Scheduler) : Prop where
  | disposed (gone : scheduler.disposed = true) (immediate : scheduler.drainImmediate = false)
      (single : scheduler.drains.length ≤ 1)
  | idle (live : scheduler.disposed = false) (draining : scheduler.draining = false)
      (immediate : scheduler.drainImmediate = false) (drains : scheduler.drains = [])
      (pending : scheduler.wakePending = false)
  | scheduled (enabled : options.enabled = true) (live : scheduler.disposed = false)
      (draining : scheduler.draining = true) (immediate : scheduler.drainImmediate = true)
      (drains : scheduler.drains = []) (pending : scheduler.wakePending = true)
  | running (enabled : options.enabled = true) (live : scheduler.disposed = false)
      (draining : scheduler.draining = true) (immediate : scheduler.drainImmediate = false)
      (passes : Nat) (drains : scheduler.drains = [passes])

theorem Standing.single (standing : Standing options scheduler) : scheduler.drains.length ≤ 1 := by
  cases standing with
  | disposed gone immediate single => exact single
  | idle live draining immediate drains | scheduled enabled live draining immediate drains
  | running enabled live draining immediate passes drains => simp [drains]

theorem standing_initial (options : WakeOptions) : Standing options (initial options) := .idle rfl rfl rfl rfl rfl

/-! ## Wake-ups -/

theorem wake_standing (requested : WakeAt) (now : Timestamp) (standing : Standing options scheduler) :
    Standing options (wake options requested now scheduler) := by
  unfold wake
  split
  · exact standing
  · rename_i working
    obtain ⟨enabled, live⟩ : options.enabled = true ∧ scheduler.disposed = false := by simpa using working
    split
    · split
      · rename_i draining
        cases standing with
        | disposed gone => exact absurd live (by simp [gone])
        | idle _ idle => exact absurd draining (by simp [idle])
        | scheduled _ _ _ immediate drains => exact .scheduled enabled live draining immediate drains rfl
        | running _ _ _ immediate passes drains => exact .running enabled live draining immediate passes drains
      · rename_i quiet
        cases standing with
        | disposed gone => exact absurd live (by simp [gone])
        | idle _ _ _ drains => exact .scheduled enabled live rfl rfl drains rfl
        | scheduled _ _ draining | running _ _ draining => exact absurd draining quiet
    · split
      · exact standing
      · cases standing with
        | disposed gone => exact absurd live (by simp [gone])
        | idle _ idle immediate drains pending => exact .idle live idle immediate drains pending
        | scheduled _ _ draining immediate drains pending =>
          exact .scheduled enabled live draining immediate drains pending
        | running _ _ draining immediate passes drains => exact .running enabled live draining immediate passes drains

/-- A due wake-up of a live scheduler is pending. -/
theorem wake_pending {requested : WakeAt} (enabled : options.enabled = true)
    (live : scheduler.disposed = false) (due : requested.future? now = none) :
    (wake options requested now scheduler).wakePending = true ∧
      (wake options requested now scheduler).disposed = false := by
  unfold wake
  rw [if_neg (by simp [enabled, live]), due]
  dsimp only
  split
  · exact ⟨rfl, live⟩
  · exact ⟨rfl, live⟩

theorem wake_disposed (requested : WakeAt) (now : Timestamp) :
    (wake options requested now scheduler).disposed = scheduler.disposed := by
  unfold wake
  split
  · rfl
  · split
    · split
      · rfl
      · rfl
    · split
      · rfl
      · rfl

/-! ## Drains -/

theorem finishDrain_standing (enabled : options.enabled = true)
    (live : scheduler.disposed = false) (immediate : scheduler.drainImmediate = false)
    (drains : scheduler.drains = []) : Standing options (finishDrain options now scheduler) := by
  unfold finishDrain
  split
  · unfold wake
    rw [if_neg (by simp [enabled, live])]
    exact .scheduled enabled live rfl rfl drains rfl
  · rename_i none
    refine .idle live rfl immediate drains ?_
    simpa [live] using none

theorem finishDrain_disposed : (finishDrain options now scheduler).disposed = scheduler.disposed := by
  unfold finishDrain
  split
  · exact wake_disposed _ _
  · rfl

theorem drain_disposed (passes : Nat) (now : Timestamp) :
    (drain options passes now scheduler).2.disposed = scheduler.disposed := by
  unfold drain
  split
  · rfl
  · exact finishDrain_disposed

/-- A drain starts a pass, or it ends and has another one follow if a wake-up is pending. -/
theorem drain_standing (enabled : options.enabled = true)
    (live : scheduler.disposed = false) (draining : scheduler.draining = true)
    (immediate : scheduler.drainImmediate = false) (drains : scheduler.drains = []) :
    Standing options (drain options passes now scheduler).2 := by
  unfold drain
  split
  · refine .running enabled live draining immediate passes ?_
    rw [drains]
  · exact finishDrain_standing enabled live immediate drains

theorem finishDrain_gone (gone : scheduler.disposed = true) :
    finishDrain options now scheduler = { scheduler with draining := false } := by
  unfold finishDrain
  rw [if_neg (by simp [gone])]

theorem finishDrain_gone_standing (gone : scheduler.disposed = true)
    (immediate : scheduler.drainImmediate = false) (single : scheduler.drains.length ≤ 1) :
    Standing options (finishDrain options now scheduler) := by
  rw [finishDrain_gone gone]
  exact .disposed gone immediate single

theorem drain_gone (gone : scheduler.disposed = true) :
    drain options passes now scheduler = (false, finishDrain options now scheduler) := by
  unfold drain
  rw [if_neg (by simp [gone])]

theorem drain_unstarted (gone : scheduler.disposed = true) : (drain options passes now scheduler).1 = false := by
  rw [drain_gone gone]

theorem drain_gone_standing (gone : scheduler.disposed = true)
    (immediate : scheduler.drainImmediate = false) (single : scheduler.drains.length ≤ 1) :
    Standing options (drain options passes now scheduler).2 := by
  rw [drain_gone gone]
  exact finishDrain_gone_standing gone immediate single

theorem single_passes {index : Nat} {found : Nat}
    (listed : [passes][index]? = some found) : index = 0 ∧ found = passes := by
  cases index with
  | zero => exact ⟨rfl, (Option.some.inj listed).symm⟩
  | succ index => cases listed

/-! ## Steps -/

theorem settle_standing {index : Nat} {ending : PassEnd} (standing : Standing options scheduler) :
    Standing options (perform options (.settle index ending now) scheduler).2 := by
  simp only [perform]
  cases found : scheduler.drains[index]? with
  | none => exact standing
  | some passes =>
    cases standing with
    | disposed gone immediate single =>
      have fewer : (scheduler.drains.eraseIdx index).length ≤ 1 := le_trans (List.length_eraseIdx_le ..) single
      cases ending with
      | returned again => exact drain_gone_standing gone immediate fewer
      | threw => exact finishDrain_gone_standing gone immediate fewer
    | idle _ _ _ drains | scheduled _ _ _ _ drains =>
      rw [drains] at found
      cases found
    | running enabled live draining immediate only drains =>
      rw [drains] at found
      obtain ⟨rfl, rfl⟩ := single_passes found
      cases ending with
      | returned again => exact drain_standing enabled live draining immediate (by rw [drains]; rfl)
      | threw => exact finishDrain_standing enabled live immediate (by rw [drains]; rfl)

theorem perform_standing (call : WakeCall) (standing : Standing options scheduler) :
    Standing options (perform options call scheduler).2 := by
  cases call with
  | wake requested now => exact wake_standing requested now standing
  | recover now =>
    simp only [perform]
    split
    · exact wake_standing .absent now standing
    · exact standing
  | immediate now =>
    simp only [perform]
    split
    · rename_i scheduled
      cases standing with
      | disposed _ immediate | idle _ _ immediate | running _ _ _ immediate => simp [immediate] at scheduled
      | scheduled enabled live draining immediate drains => exact drain_standing enabled live draining rfl drains
    · exact standing
  | timer now =>
    have retimed : ∀ {timer : Option WakeTimer} {at' : Option Timestamp},
        Standing options { scheduler with scheduledTimer := timer, scheduledAt := at' } := by
      intro timer at'
      cases standing with
      | disposed gone immediate single => exact .disposed gone immediate single
      | idle live idle immediate drains pending => exact .idle live idle immediate drains pending
      | scheduled enabled live draining immediate drains pending =>
        exact .scheduled enabled live draining immediate drains pending
      | running enabled live draining immediate passes drains =>
        exact .running enabled live draining immediate passes drains
    simp only [perform]
    split
    · exact standing
    · split
      · exact retimed
      · split
        · exact retimed
        · exact wake_standing _ now retimed
  | settle index ending now => exact settle_standing standing
  | dispose now => exact .disposed rfl rfl standing.single

theorem run_standing (run : (machine options).system.Run labels scheduler) : Standing options scheduler := by
  refine run.history (motive := fun _ scheduler => Standing options scheduler) ?_ ?_
  · intro start valid
    cases valid
    exact standing_initial options
  · intro _ entry before after _ standing transition
    have performed : perform options entry.1 before = (entry.2, after) := transition
    have kept : Standing options (perform options entry.1 before).2 := perform_standing entry.1 standing
    rwa [performed] at kept

/-! ## Disposal -/

theorem perform_disposed (call : WakeCall) (stays : call.disposes = false) :
    (perform options call scheduler).2.disposed = scheduler.disposed := by
  cases call with
  | wake requested now => exact wake_disposed requested now
  | recover now =>
    simp only [perform]
    split
    · exact wake_disposed .absent now
    · rfl
  | immediate now =>
    simp only [perform]
    split
    · exact drain_disposed 0 now
    · rfl
  | timer now =>
    simp only [perform]
    split
    · rfl
    · split
      · rfl
      · split
        · rfl
        · exact wake_disposed _ now
  | settle index ending now =>
    simp only [perform]
    split
    · rfl
    · cases ending with
      | returned again => exact drain_disposed _ now
      | threw => exact finishDrain_disposed
  | dispose now => cases stays

/-- A disposed scheduler starts no pass. -/
theorem perform_gone (call : WakeCall) (gone : scheduler.disposed = true) :
    (perform options call scheduler).1 = false := by
  cases call with
  | wake | dispose => rfl
  | recover now =>
    simp only [perform]
    split
    · rfl
    · rfl
  | immediate now =>
    simp only [perform]
    split
    · exact drain_unstarted gone
    · rfl
  | timer now =>
    simp only [perform]
    split
    · rfl
    · rw [if_pos gone]
  | settle index ending now =>
    simp only [perform]
    split
    · rfl
    · cases ending with
      | returned again => exact drain_unstarted gone
      | threw => rfl

theorem perform_stays_gone (call : WakeCall) (gone : scheduler.disposed = true) :
    (perform options call scheduler).2.disposed = true := by
  cases disposes : call.disposes with
  | false => exact (perform_disposed call disposes).trans gone
  | true =>
    cases call with
    | dispose now => rfl
    | _ => cases disposes

theorem steps_gone (steps : (machine options).system.Steps scheduler labels next)
    (gone : scheduler.disposed = true) : ∀ entry ∈ labels, entry.2 = false := by
  induction steps with
  | done => simp
  | @next start label middle labels finish transition _ ih =>
    have performed : perform options label.1 start = (label.2, middle) := transition
    have quiet : (perform options label.1 start).1 = false := perform_gone label.1 gone
    have later : (perform options label.1 start).2.disposed = true := perform_stays_gone label.1 gone
    rw [performed] at quiet later
    intro entry listed
    rcases List.mem_cons.mp listed with rfl | rest
    · exact quiet
    · exact ih later entry rest

/-! ## A wake-up that is pending -/

/-- A callback is due that goes on with the drain. -/
def callsBack (scheduler : Scheduler) : Bool := scheduler.drainImmediate || !scheduler.drains.isEmpty

/-- The callbacks that go on with the drain. -/
def callback (scheduler : Scheduler) (entry : WakeCall × Bool) : List Timestamp :=
  match entry.1 with
  | .immediate now => if scheduler.drainImmediate = true then [now] else []
  | .settle index _ now => if scheduler.drains[index]?.isSome = true then [now] else []
  | _ => []

/-- A wake-up is pending and the drain that answers it goes on. -/
structure Pending (options : WakeOptions) (scheduler : Scheduler) : Prop where
  live : scheduler.disposed = false
  pending : scheduler.wakePending = true
  standing : Standing options scheduler

theorem Pending.callsBack (pending : Pending options scheduler) : scheduler.callsBack = true := by
  cases pending.standing with
  | disposed gone => exact absurd pending.live (by simp [gone])
  | idle _ _ _ _ none => exact absurd pending.pending (by simp [none])
  | scheduled _ _ _ immediate => simp [Scheduler.callsBack, immediate]
  | running _ _ _ _ passes drains => simp [Scheduler.callsBack, drains]

/-- A wake-up leaves a pending one pending. -/
theorem wake_keeps (requested : WakeAt) (now : Timestamp) (pending : scheduler.wakePending = true) :
    (wake options requested now scheduler).wakePending = true := by
  unfold wake
  split
  · exact pending
  · split
    · split
      · rfl
      · rfl
    · split
      · exact pending
      · exact pending

theorem wake_drains (requested : WakeAt) (now : Timestamp) :
    (wake options requested now scheduler).drains = scheduler.drains := by
  unfold wake
  split
  · rfl
  · split
    · split
      · rfl
      · rfl
    · split
      · rfl
      · rfl

theorem finishDrain_keeps (pending : scheduler.wakePending = true) :
    (finishDrain options now scheduler).wakePending = true := by
  unfold finishDrain
  split
  · exact wake_keeps .absent now pending
  · exact pending

theorem finishDrain_drains : (finishDrain options now scheduler).drains = scheduler.drains := by
  unfold finishDrain
  split
  · exact wake_drains _ now
  · rfl

/-- A drain that starts no pass has ended. -/
theorem drain_ended (unstarted : (drain options passes now scheduler).1 = false) :
    (drain options passes now scheduler).2 = finishDrain options now scheduler := by
  unfold drain at unstarted ⊢
  split
  · rename_i starts
    rw [if_pos starts] at unstarted
    cases unstarted
  · rfl

/-- The first loop test of a drain finds the pending wake-up. -/
theorem drain_first (live : scheduler.disposed = false) (pending : scheduler.wakePending = true) :
    (drain options 0 now scheduler).1 = true := by
  unfold drain
  rw [if_pos ⟨live, pending, options.maximum_pos⟩]

/-- The first callback of a drain starts a pass. -/
theorem immediate_starts (standing : Standing options scheduler)
    (scheduled : scheduler.drainImmediate = true) : (perform options (.immediate now) scheduler).1 = true := by
  simp only [perform]
  rw [if_pos scheduled]
  cases standing with
  | disposed _ immediate | idle _ _ immediate | running _ _ _ immediate => exact absurd scheduled (by simp [immediate])
  | scheduled _ live _ _ _ pending => exact drain_first live pending

/-- A step that starts no pass leaves a pending wake-up pending. -/
theorem perform_keeps {call : WakeCall} (standing : Standing options scheduler)
    (pending : scheduler.wakePending = true) (unstarted : (perform options call scheduler).1 = false)
    (stays : call.disposes = false) : (perform options call scheduler).2.wakePending = true := by
  cases call with
  | wake requested now => exact wake_keeps requested now pending
  | recover now =>
    simp only [perform]
    split
    · exact wake_keeps .absent now pending
    · exact pending
  | immediate now =>
    by_cases scheduled : scheduler.drainImmediate = true
    · exact absurd unstarted (by simp [immediate_starts standing scheduled])
    · simp only [perform]
      rw [if_neg scheduled]
      exact pending
  | timer now =>
    simp only [perform]
    split
    · exact pending
    · split
      · exact pending
      · split
        · exact pending
        · exact wake_keeps _ now pending
  | settle index ending now =>
    simp only [perform] at unstarted ⊢
    cases found : scheduler.drains[index]? with
    | none => exact pending
    | some passes =>
      rw [found] at unstarted
      cases ending with
      | returned again =>
        have kept : (scheduler.wakePending || again) = true := by rw [pending, Bool.true_or]
        exact (congrArg wakePending (drain_ended unstarted)).trans (finishDrain_keeps kept)
      | threw => exact finishDrain_keeps pending
  | dispose now => cases stays

/-- A step that starts no pass takes at most as many callbacks of the drain as passes in
flight end with it. -/
theorem perform_drains {call : WakeCall} (standing : Standing options scheduler)
    (unstarted : (perform options call scheduler).1 = false) :
    (callback scheduler (call, false)).length + (perform options call scheduler).2.drains.length ≤
      scheduler.drains.length := by
  cases call with
  | wake requested now =>
    have same : (perform options (.wake requested now) scheduler).2.drains = scheduler.drains :=
      wake_drains requested now
    simp [callback, same]
  | recover now =>
    have same : (perform options (.recover now) scheduler).2.drains = scheduler.drains := by
      simp only [perform]
      split
      · exact wake_drains .absent now
      · rfl
    simp [callback, same]
  | immediate now =>
    by_cases scheduled : scheduler.drainImmediate = true
    · exact absurd unstarted (by simp [immediate_starts standing scheduled])
    · simp [callback, perform, scheduled]
  | timer now =>
    have same : (perform options (.timer now) scheduler).2.drains = scheduler.drains := by
      simp only [perform]
      split
      · rfl
      · split
        · rfl
        · split
          · rfl
          · exact wake_drains _ now
    simp [callback, same]
  | settle index ending now =>
    cases found : scheduler.drains[index]? with
    | none => simp [callback, perform, found]
    | some passes =>
      have listed : index < scheduler.drains.length := (List.getElem?_eq_some_iff.mp found).1
      have fewer : (scheduler.drains.eraseIdx index).length + 1 = scheduler.drains.length := by
        rw [List.length_eraseIdx_of_lt listed]
        omega
      have rest : (perform options (.settle index ending now) scheduler).2.drains = scheduler.drains.eraseIdx index := by
        simp only [perform, found] at unstarted ⊢
        cases ending with
        | returned again => exact (congrArg drains (drain_ended unstarted)).trans finishDrain_drains
        | threw => exact finishDrain_drains
      simp [callback, found, rest]
      omega
  | dispose now => simp [callback, perform, dispose]

/-- After a due wake-up one is pending. -/
theorem due_pending {entry : WakeCall × Bool} (enabled : options.enabled = true) (live : scheduler.disposed = false)
    (standing : Standing options scheduler) (due : entry.1.isDue = true)
    (transition : (machine options).system.Step scheduler entry next) : Pending options next := by
  obtain ⟨call, reply⟩ := entry
  cases call with
  | wake requested now =>
    have performed : (false, wake options requested now scheduler) = (reply, next) := transition
    obtain ⟨rfl, rfl⟩ := Prod.mk.inj performed
    obtain ⟨pending, still⟩ := wake_pending enabled live (Option.isNone_iff_eq_none.mp due)
    exact ⟨still, pending, wake_standing requested now standing⟩
  | _ => cases due

theorem pending_step {entry : WakeCall × Bool} (pending : Pending options scheduler)
    (transition : (machine options).system.Step scheduler entry next) (unstarted : entry.2 = false)
    (stays : entry.1.disposes = false) :
    Pending options next ∧ (callback scheduler entry).length + next.drains.length ≤ scheduler.drains.length := by
  obtain ⟨call, starts⟩ := entry
  obtain rfl : starts = false := unstarted
  have performed : perform options call scheduler = (false, next) := transition
  have standing : Standing options (perform options call scheduler).2 := perform_standing call pending.standing
  have kept := perform_keeps pending.standing pending.pending (by rw [performed]) stays
  have fewer := perform_drains pending.standing (by rw [performed])
  have live : (perform options call scheduler).2.disposed = false := (perform_disposed call stays).trans pending.live
  rw [performed] at standing kept fewer live
  exact ⟨⟨live, kept, standing⟩, fewer⟩

/-- While no pass starts a pending wake-up stays pending, and the callbacks of the drain
that go by are of passes in flight. -/
theorem pending_steps
    (steps : (machine options).system.Steps scheduler labels next) (pending : Pending options scheduler)
    (unstarted : ∀ entry ∈ labels, entry.2 = false ∧ entry.1.disposes = false) : Pending options next ∧
      ((machine options).collect callback labels scheduler).length ≤ scheduler.drains.length := by
  induction steps with
  | done => exact ⟨pending, by simp [Machine.collect]⟩
  | @next start label middle labels finish transition _ ih =>
    have performed : perform options label.1 start = (label.2, middle) := transition
    obtain ⟨first, later⟩ := List.forall_mem_cons.mp unstarted
    obtain ⟨between, least⟩ := pending_step pending transition first.1 first.2
    obtain ⟨last, rest⟩ := ih between later
    refine ⟨last, ?_⟩
    have reached : ((machine options).perform label.1 start).2 = middle := congrArg Prod.snd performed
    rw [Machine.collect, reached, List.length_append]
    omega

theorem run_live (run : (machine options).system.Run labels scheduler)
    (undisposed : ∀ entry ∈ labels, entry.1.disposes = false) : scheduler.disposed = false := by
  revert undisposed
  refine run.history (motive := fun labels scheduler =>
    (∀ entry ∈ labels, entry.1.disposes = false) → scheduler.disposed = false) ?_ ?_
  · intro start valid _
    cases valid
    rfl
  · intro labels entry before after _ live transition undisposed
    have performed : perform options entry.1 before = (entry.2, after) := transition
    have kept : (perform options entry.1 before).2.disposed = before.disposed :=
      perform_disposed entry.1 (undisposed entry (by simp))
    rw [performed] at kept
    exact kept.trans (live fun earlier listed => undisposed earlier (by simp [listed]))

/-- Wake-ups of an enabled scheduler share one pass at a time, and none is lost: from a due
wake-up on, a callback of the drain is pending until a pass starts, and it starts by the
second. Once the scheduler is disposed no pass starts. -/
theorem due_wakes_served (enabled : options.enabled = true) {labels : List (WakeCall × Bool)}
    (run : (machine options).system.Run labels scheduler) : scheduler.drains.length ≤ 1 ∧
      (∀ before entry after, labels = before ++ entry :: after →
        entry.1.disposes = true → ∀ later ∈ after, later.2 = false) ∧
      ∀ before entry after, labels = before ++ entry :: after → entry.1.isDue = true →
        (∀ earlier ∈ before, earlier.1.disposes = false) →
        (∀ later ∈ after, later.2 = false ∧ later.1.disposes = false) →
        scheduler.callsBack = true ∧ ((machine options).seen callback labels).length ≤
            ((machine options).seen callback (before ++ [entry])).length + 1 := by
  refine ⟨(run_standing run).single, ?_, ?_⟩
  · rintro before ⟨call, reply⟩ after rfl disposes
    obtain ⟨prior, next, _, transition, steps⟩ := run.cut
    cases call with
    | dispose now =>
      have performed : perform options (.dispose now) prior = (reply, next) := transition
      have disposed : next = prior.dispose := (congrArg Prod.snd performed).symm
      exact steps_gone steps (by rw [disposed]; rfl)
    | _ => cases disposes
  · rintro before entry after rfl due undisposed unstarted
    obtain ⟨prior, next, reached, transition, steps⟩ := run.cut
    have live := run_live reached undisposed
    have pending : Pending options next := due_pending enabled live (run_standing reached) due transition
    obtain ⟨still, taken⟩ := pending_steps steps pending unstarted
    refine ⟨still.callsBack, ?_⟩
    have split : (machine options).seen callback (before ++ entry :: after) =
        (machine options).seen callback (before ++ [entry]) ++ (machine options).collect callback after next := by
      obtain ⟨start, rfl, prefixed⟩ := reached.step transition
      rw [List.append_cons]
      exact Machine.collect_append prefixed
    have single := pending.standing.single
    rw [split, List.length_append]
    omega

/-! ## A pass that throws, and a scheduler that is disabled -/

def sampleOptions (enabled : Bool) : WakeOptions where
  enabled := enabled
  recoveryIntervalMs := none
  maxPasses := none
  recovers := by simp
  passes := by simp

def thrownCalls : List WakeCall := [.wake .absent 0, .immediate 0, .wake .absent 1, .settle 0 .threw 2]

/-- After a pass that has thrown the wake-up that came meanwhile is answered. -/
theorem thrown_pass_followed :
    ((machine (sampleOptions true)).replay thrownCalls (initial (sampleOptions true))).2.callsBack = true :=
  ((due_wakes_served rfl ((machine (sampleOptions true)).replay_run thrownCalls)).2.2
    [(.wake .absent 0, false), (.immediate 0, true)] (.wake .absent 1, false) [(.settle 0 .threw 2, false)]
    rfl rfl (by decide) (by decide)).1

/-- A disabled scheduler ignores a due wake-up. -/
theorem disabled_wake_ignored : ¬ ∀ (options : WakeOptions) (labels : List (WakeCall × Bool)) (scheduler : Scheduler),
      (machine options).system.Run labels scheduler →
        ∀ before entry after, labels = before ++ entry :: after → entry.1.isDue = true →
          (∀ earlier ∈ before, earlier.1.disposes = false) →
          (∀ later ∈ after, later.2 = false ∧ later.1.disposes = false) → scheduler.callsBack = true := by
  intro claimed
  have awaited := claimed (sampleOptions false) _ _
    ((machine (sampleOptions false)).replay_run [.wake .absent 0]) [] (.wake .absent 0, false) [] rfl rfl
    (by simp) (by simp)
  exact absurd awaited (by decide)

end Scheduler

end QuarkSelfAI.Runtime

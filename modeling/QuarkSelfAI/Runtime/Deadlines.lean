import QuarkSelfAI.Runtime.WakeUps

/-!
# Deadlines are served

One future deadline has a timer: the earliest of those that were asked for. It stays armed
until its time has come, and then its wake-up is pending until a pass starts.
-/

namespace QuarkSelfAI.Runtime

open Foundation

/-- The future deadline that a call asks for. -/
def WakeCall.deadline? : WakeCall → Option Timestamp
  | .wake requested now => requested.future? now
  | _ => none

namespace Scheduler

variable {options : WakeOptions} {scheduler next : Scheduler} {deadline now : Timestamp}
  {labels : List (WakeCall × Bool)}

/-! ## The timer -/

/-- A live scheduler has a timer for the deadline it remembers, due by that time. -/
structure Armed (scheduler : Scheduler) : Prop where
  remembered : scheduler.disposed = false → scheduler.scheduledAt = scheduler.scheduledTimer.map WakeTimer.deadline
  timely : ∀ timer ∈ scheduler.scheduledTimer, timer.firesAt ≤ timer.deadline

/-- What a call does to the timer. -/
inductive Retimed (call : WakeCall) (before after : Scheduler) : Prop where
  | kept (timer : after.scheduledTimer = before.scheduledTimer) (remembered : after.scheduledAt = before.scheduledAt)
  | set (deadline : Timestamp) (asked : call.deadline? = some deadline)
      (earlier : ∀ scheduled ∈ before.scheduledAt, deadline < scheduled)
      (future : call.time < deadline) (scheduled : ∃ armed, scheduleFuture deadline call.time armed = after)
      (remembered : after.scheduledAt = some deadline)
  | again (timer : WakeTimer) (awaited : before.scheduledTimer = some timer) (early : call.time < timer.deadline)
      (scheduled : scheduleFuture timer.deadline call.time before = after)
  | fired (now : Timestamp) (called : call = .timer now) (timer : WakeTimer)
      (awaited : before.scheduledTimer = some timer) (reached : timer.deadline ≤ now)
      (unarmed : after.scheduledTimer = none) (forgotten : after.scheduledAt = none)
  | disposed (gone : after.disposed = true) (unarmed : after.scheduledTimer = none)

theorem wake_due {requested : WakeAt} (due : requested.future? now = none) :
    (wake options requested now scheduler).scheduledTimer = scheduler.scheduledTimer ∧
      (wake options requested now scheduler).scheduledAt = scheduler.scheduledAt := by
  unfold wake
  split
  · exact ⟨rfl, rfl⟩
  · rw [due]
    dsimp only
    split
    · exact ⟨rfl, rfl⟩
    · exact ⟨rfl, rfl⟩

theorem finishDrain_timer : (finishDrain options now scheduler).scheduledTimer = scheduler.scheduledTimer ∧
      (finishDrain options now scheduler).scheduledAt = scheduler.scheduledAt := by
  unfold finishDrain
  split
  · exact wake_due rfl
  · exact ⟨rfl, rfl⟩

theorem drain_timer {passes : Nat} : (drain options passes now scheduler).2.scheduledTimer = scheduler.scheduledTimer ∧
      (drain options passes now scheduler).2.scheduledAt = scheduler.scheduledAt := by
  unfold drain
  split
  · exact ⟨rfl, rfl⟩
  · exact finishDrain_timer

theorem future?_lt {requested : WakeAt} (future : requested.future? now = some deadline) : now < deadline := by
  unfold WakeAt.future? at future
  split at future
  · split at future
    · cases future
    · rename_i later
      cases future
      exact lt_of_not_ge later
  · cases future

theorem future?_reached (reached : deadline ≤ now) : (WakeAt.instant deadline).future? now = none := if_pos reached

theorem wake_retimed (requested : WakeAt) (now : Timestamp) :
    Retimed (.wake requested now) scheduler (wake options requested now scheduler) := by
  cases asked : requested.future? now with
  | none => exact .kept (wake_due asked).1 (wake_due asked).2
  | some deadline =>
    unfold wake
    split
    · exact .kept rfl rfl
    · rw [asked]
      dsimp only
      split
      · exact .kept rfl rfl
      · rename_i none
        refine .set deadline asked ?_ (future?_lt asked) ⟨_, rfl⟩ rfl
        intro scheduled remembered
        have remembers : scheduler.scheduledAt = some scheduled := remembered
        simpa [remembers] using none

theorem perform_retimed (call : WakeCall) : Retimed call scheduler (perform options call scheduler).2 := by
  cases call with
  | wake requested now => exact wake_retimed requested now
  | recover now =>
    simp only [perform]
    split
    · exact .kept (wake_due rfl).1 (wake_due rfl).2
    · exact .kept rfl rfl
  | immediate now =>
    simp only [perform]
    split
    · obtain ⟨timer, remembered⟩ := @drain_timer options { scheduler with drainImmediate := false } now 0
      exact .kept timer remembered
    · exact .kept rfl rfl
  | timer now =>
    simp only [perform]
    split
    · exact .kept rfl rfl
    · rename_i timer awaited
      split
      · rename_i gone
        exact .disposed gone rfl
      · split
        · rename_i early
          exact .again timer awaited early rfl
        · rename_i reached
          have due := future?_reached (le_of_not_gt reached)
          obtain ⟨unarmed, forgotten⟩ := @wake_due options
            { scheduler with scheduledTimer := none, scheduledAt := none } _ _ due
          exact .fired now rfl timer awaited (le_of_not_gt reached) unarmed forgotten
  | settle index ending now =>
    simp only [perform]
    split
    · exact .kept rfl rfl
    · rename_i passes _
      cases ending with
      | returned again =>
        let rest := { scheduler with drains := scheduler.drains.eraseIdx index }
        obtain ⟨timer, remembered⟩ := @drain_timer options { rest with wakePending := rest.wakePending || again }
          now (passes + 1)
        exact .kept timer remembered
      | threw =>
        obtain ⟨timer, remembered⟩ := @finishDrain_timer options
          { scheduler with drains := scheduler.drains.eraseIdx index } now
        exact .kept timer remembered
  | dispose now => exact .disposed rfl rfl

theorem delayed_le {deadline now : Int} (future : now < deadline) :
    now + min (max 0 (deadline - now)) maxTimerDelay ≤ deadline := by
  omega

theorem scheduleFuture_timely {armed : Scheduler} (future : now < deadline) :
    ∀ timer ∈ (scheduleFuture deadline now armed).scheduledTimer, timer.firesAt ≤ timer.deadline := by
  intro timer scheduled
  obtain rfl : (⟨deadline, now + min (max 0 (deadline - now)) maxTimerDelay⟩ : WakeTimer) = timer :=
    Option.some.inj scheduled
  exact delayed_le future

theorem perform_live {call : WakeCall} (live : (perform options call scheduler).2.disposed = false) :
    scheduler.disposed = false := by
  cases gone : scheduler.disposed with
  | false => rfl
  | true => exact absurd live (by simp [perform_stays_gone call gone])

theorem perform_armed (call : WakeCall) (armed : Armed scheduler) : Armed (perform options call scheduler).2 := by
  have retimed : Retimed call scheduler (perform options call scheduler).2 := perform_retimed call
  have live := @perform_live options scheduler call
  generalize (perform options call scheduler).2 = after at retimed live ⊢
  cases retimed with
  | kept timer remembered =>
    refine ⟨fun here => ?_, by rw [timer]; exact armed.timely⟩
    rw [timer, remembered]
    exact armed.remembered (live here)
  | set deadline asked earlier future scheduled remembered =>
    obtain ⟨before, rfl⟩ := scheduled
    exact ⟨fun _ => remembered, scheduleFuture_timely future⟩
  | again timer awaited early scheduled =>
    subst scheduled
    refine ⟨fun here => ?_, scheduleFuture_timely early⟩
    have remembered := armed.remembered (live here)
    rw [awaited] at remembered
    exact remembered
  | fired now called timer awaited reached unarmed forgotten =>
    exact ⟨fun _ => by rw [unarmed, forgotten]; rfl, by rw [unarmed]; simp⟩
  | disposed gone unarmed => exact ⟨fun here => absurd here (by simp [gone]), by rw [unarmed]; simp⟩

theorem run_armed (run : (machine options).system.Run labels scheduler) : Armed scheduler := by
  refine run.history (motive := fun _ scheduler => Armed scheduler) ?_ ?_
  · intro start valid
    cases valid
    exact ⟨fun _ => rfl, by simp [machine, initial]⟩
  · intro _ entry before after _ armed transition
    have performed : perform options entry.1 before = (entry.2, after) := transition
    have kept : Armed (perform options entry.1 before).2 := perform_armed entry.1 armed
    rwa [performed] at kept

/-! ## A deadline that is waited for -/

/-- A live scheduler owes a pass for a deadline: its timer is armed, or its time has come
and a wake-up is pending. -/
inductive Owes (options : WakeOptions) (deadline now : Timestamp) (scheduler : Scheduler) : Prop where
  | armed (live : scheduler.disposed = false) (standing : Standing options scheduler) (fires : Timestamp)
      (timely : fires ≤ deadline) (timer : scheduler.scheduledTimer = some ⟨deadline, fires⟩)
      (remembered : scheduler.scheduledAt = some deadline)
  | due (reached : deadline ≤ now) (pending : Pending options scheduler)
      (other : ∀ timer ∈ scheduler.scheduledTimer, timer.deadline ≠ deadline)

theorem Owes.standing (owes : Owes options deadline now scheduler) : Standing options scheduler := by
  cases owes with
  | armed _ standing => exact standing
  | due _ pending => exact pending.standing

/-- The deadline that the timer is armed for. -/
def armedFor (scheduler : Scheduler) : Option Timestamp := scheduler.scheduledTimer.map WakeTimer.deadline

/-- From a deadline on its timer is not armed anew. -/
theorem unarmed_stays {call : WakeCall} (late : deadline ≤ call.time) (unarmed : scheduler.armedFor ≠ some deadline) :
    (perform options call scheduler).2.armedFor ≠ some deadline := by
  have retimed : Retimed call scheduler (perform options call scheduler).2 := perform_retimed call
  generalize (perform options call scheduler).2 = after at retimed ⊢
  intro armed
  cases retimed with
  | kept timer => exact unarmed (by rw [armedFor, ← timer]; exact armed)
  | set other asked earlier future scheduled remembered =>
    obtain ⟨before, rfl⟩ := scheduled
    obtain rfl : other = deadline := Option.some.inj armed
    exact absurd future (not_lt_of_ge late)
  | again timer awaited early scheduled =>
    subst scheduled
    exact unarmed (by rw [armedFor, awaited]; exact armed)
  | fired _ _ _ _ _ none | disposed _ none => simp [armedFor, none] at armed

/-- The timer of a deadline fires when its time has come. -/
theorem timer_fires (late : deadline ≤ now) (armed : scheduler.armedFor = some deadline) :
    (perform options (.timer now) scheduler).2.armedFor = none := by
  obtain ⟨timer, awaited, rfl⟩ := Option.map_eq_some_iff.mp armed
  simp only [perform, awaited]
  split
  · rfl
  · rw [if_neg (not_lt_of_ge late)]
    have unarmed := (@wake_due options { scheduler with scheduledTimer := none, scheduledAt := none } _ _
      (future?_reached late)).1
    simp only [armedFor, unarmed, Option.map_none]

theorem timer_wakes {timer : WakeTimer} (enabled : options.enabled = true)
    (live : scheduler.disposed = false) (awaited : scheduler.scheduledTimer = some timer)
    (reached : timer.deadline ≤ now) : (perform options (.timer now) scheduler).2.wakePending = true := by
  simp only [perform, awaited]
  rw [if_neg (by simp [live]), if_neg (not_lt_of_ge reached)]
  exact (@wake_pending options { scheduler with scheduledTimer := none, scheduledAt := none } _ _ enabled live
    (future?_reached reached)).1

/-- The callbacks that go by from a deadline on: its own timer, and those of the drain. -/
def lateCallback (deadline : Timestamp) (scheduler : Scheduler) (entry : WakeCall × Bool) : List Timestamp :=
  if entry.1.time < deadline then []
  else match entry.1 with
    | .timer now => if scheduler.armedFor = some deadline then [now] else []
    | _ => callback scheduler entry

/-- The late callbacks that may still go by. -/
def latest (deadline : Timestamp) (scheduler : Scheduler) : Nat :=
  (if scheduler.armedFor = some deadline then 1 else 0) + scheduler.drains.length

theorem latest_le (deadline : Timestamp) (standing : Standing options scheduler) : latest deadline scheduler ≤ 2 := by
  have single := standing.single
  unfold latest
  split
  · omega
  · omega

theorem lateCallback_step {entry : WakeCall × Bool} (standing : Standing options scheduler)
    (transition : (machine options).system.Step scheduler entry next) (unstarted : entry.2 = false)
    (late : deadline ≤ entry.1.time) :
    (lateCallback deadline scheduler entry).length + latest deadline next ≤ latest deadline scheduler := by
  obtain ⟨call, starts⟩ := entry
  obtain rfl : starts = false := unstarted
  have performed : perform options call scheduler = (false, next) := transition
  have fewer := perform_drains standing (by rw [performed])
  rw [performed] at fewer
  dsimp only at fewer
  have untaken : (if next.armedFor = some deadline then 1 else 0) ≤
      (if scheduler.armedFor = some deadline then 1 else 0) := by
    by_cases armed : scheduler.armedFor = some deadline
    · rw [if_pos armed]
      split
      · exact le_refl 1
      · exact Nat.zero_le 1
    · have unarmed : (perform options call scheduler).2.armedFor ≠ some deadline := unarmed_stays late armed
      rw [performed] at unarmed
      rw [if_neg armed, if_neg unarmed]
  unfold lateCallback latest
  rw [if_neg (not_lt_of_ge late)]
  cases call with
  | timer now =>
    dsimp only
    by_cases armed : scheduler.armedFor = some deadline
    · have unarmed : (perform options (.timer now) scheduler).2.armedFor = none := timer_fires late armed
      rw [performed] at unarmed
      rw [if_pos armed, if_pos armed, if_neg (by simp [unarmed])]
      simp only [callback, List.length_nil, List.length_singleton] at fewer ⊢
      omega
    · rw [if_neg armed]
      simp only [callback, List.length_nil] at fewer ⊢
      omega
  | wake | recover | immediate | settle | dispose =>
    dsimp only
    omega

/-- A step that starts no pass from the deadline on leaves the pass owed. -/
theorem owes_step {entry : WakeCall × Bool} (enabled : options.enabled = true)
    (owes : Owes options deadline now scheduler) (transition : (machine options).system.Step scheduler entry next)
    (stays : entry.1.disposes = false) (kept : ∀ asked ∈ entry.1.deadline?, deadline ≤ asked)
    (later : now ≤ entry.1.time) (unserved : ¬ (entry.2 = true ∧ deadline ≤ entry.1.time)) :
    Owes options deadline entry.1.time next := by
  obtain ⟨call, starts⟩ := entry
  have performed : perform options call scheduler = (starts, next) := transition
  cases owes with
  | due reached pending other =>
    have late : deadline ≤ call.time := le_trans reached later
    have unstarted : starts = false := by simpa [late] using unserved
    refine .due late (pending_step pending transition unstarted stays).1 ?_
    have unarmed : (perform options call scheduler).2.armedFor ≠ some deadline := by
      refine unarmed_stays late fun armed => ?_
      obtain ⟨timer, awaited, same⟩ := Option.map_eq_some_iff.mp armed
      exact other timer awaited same
    rw [performed] at unarmed
    intro timer awaited same
    have awaits : next.scheduledTimer = some timer := awaited
    exact unarmed (by simp [armedFor, awaits, same])
  | armed live standing fires timely timer remembered =>
    have retimed : Retimed call scheduler (perform options call scheduler).2 := perform_retimed call
    have stands : Standing options (perform options call scheduler).2 := perform_standing call standing
    have still : (perform options call scheduler).2.disposed = false := (perform_disposed call stays).trans live
    rw [performed] at retimed stands still
    cases retimed with
    | kept same still' => exact .armed still stands fires timely (same.trans timer) (still'.trans remembered)
    | set other asked earlier => exact absurd (earlier deadline remembered) (not_lt_of_ge (kept other asked))
    | again awaiting awaited early scheduled =>
      obtain rfl : ⟨deadline, fires⟩ = awaiting := Option.some.inj (timer.symm.trans awaited)
      refine .armed still stands _ (delayed_le early) (congrArg scheduledTimer scheduled.symm) ?_
      exact (congrArg scheduledAt scheduled.symm).trans remembered
    | fired time called awaiting awaited reached unarmed =>
      obtain rfl : call = .timer time := called
      obtain rfl : ⟨deadline, fires⟩ = awaiting := Option.some.inj (timer.symm.trans awaited)
      have pending : (perform options (.timer time) scheduler).2.wakePending = true :=
        timer_wakes enabled live awaited reached
      rw [performed] at pending
      exact .due reached ⟨still, pending, stands⟩ (by simp [show next.scheduledTimer = none from unarmed])
    | disposed gone => exact absurd (still.symm.trans gone) (by simp)

/-- While no pass starts from the deadline on it stays owed, and at most two callbacks go
by from then on. -/
theorem owes_steps (enabled : options.enabled = true)
    (steps : (machine options).system.Steps scheduler labels next) (owes : Owes options deadline now scheduler)
    (clock : (now :: labels.map fun entry => entry.1.time).Pairwise (· ≤ ·))
    (stays : ∀ entry ∈ labels, entry.1.disposes = false)
    (kept : ∀ entry ∈ labels, ∀ asked ∈ entry.1.deadline?, deadline ≤ asked)
    (unserved : ∀ entry ∈ labels, ¬ (entry.2 = true ∧ deadline ≤ entry.1.time)) :
    (∃ time, Owes options deadline time next) ∧ (deadline ≤ now →
        ((machine options).collect (lateCallback deadline) labels scheduler).length ≤ latest deadline scheduler) ∧
      ((machine options).collect (lateCallback deadline) labels scheduler).length ≤ 2 := by
  induction steps generalizing now with
  | done => exact ⟨⟨now, owes⟩, by simp [Machine.collect], by simp [Machine.collect]⟩
  | @next start label middle labels finish transition _ ih =>
    have performed : perform options label.1 start = (label.2, middle) := transition
    obtain ⟨first, others⟩ := List.forall_mem_cons.mp unserved
    obtain ⟨staying, stay⟩ := List.forall_mem_cons.mp stays
    obtain ⟨keeping, keep⟩ := List.forall_mem_cons.mp kept
    have later : now ≤ label.1.time := (List.pairwise_cons.mp clock).1 _ (by simp)
    have between := owes_step enabled owes transition staying keeping later first
    obtain ⟨last, onward, few⟩ := ih between (List.pairwise_cons.mp clock).2 stay keep others
    have reached : ((machine options).perform label.1 start).2 = middle := congrArg Prod.snd performed
    rw [Machine.collect, reached, List.length_append]
    refine ⟨last, ?_⟩
    by_cases late : deadline ≤ label.1.time
    · have unstarted : label.2 = false := by simpa [late] using first
      have taken := lateCallback_step owes.standing transition unstarted late
      have rest := onward late
      have most := latest_le deadline owes.standing
      exact ⟨fun _ => by omega, by omega⟩
    · have untaken : lateCallback deadline start label = [] := if_pos (lt_of_not_ge late)
      rw [untaken, List.length_nil, Nat.zero_add]
      exact ⟨fun passed => absurd (le_trans passed later) late, few⟩

/-- A deadline that is asked for while no earlier one is armed is owed. -/
theorem deadline_owed {reply : Bool} (enabled : options.enabled = true)
    (live : scheduler.disposed = false) (standing : Standing options scheduler) (armed : Armed scheduler)
    (future : now < deadline) (earliest : ∀ scheduled ∈ scheduler.scheduledAt, deadline ≤ scheduled)
    (transition : (machine options).system.Step scheduler (.wake (.instant deadline) now, reply) next) :
    Owes options deadline now next := by
  have performed : (false, wake options (.instant deadline) now scheduler) = (reply, next) := transition
  obtain ⟨rfl, rfl⟩ := Prod.mk.inj performed
  have stands : Standing options (wake options (.instant deadline) now scheduler) :=
    wake_standing (.instant deadline) now standing
  have still : (wake options (.instant deadline) now scheduler).disposed = false :=
    (wake_disposed (.instant deadline) now).trans live
  have asked : (WakeAt.instant deadline).future? now = some deadline := if_neg (not_le_of_gt future)
  revert stands still
  unfold wake
  rw [if_neg (by simp [enabled, live]), asked]
  dsimp only
  split
  · rename_i scheduled
    intro stands still
    obtain ⟨remembered, remembers, reached⟩ := (Option.any_eq_true ..).mp scheduled
    obtain rfl : remembered = deadline := le_antisymm (of_decide_eq_true reached) (earliest remembered remembers)
    obtain ⟨⟨_, fires⟩, awaited, rfl⟩ := Option.map_eq_some_iff.mp ((armed.remembered live).symm.trans remembers)
    exact .armed still stands fires (armed.timely _ awaited) awaited remembers
  · intro stands still
    exact .armed still stands _ (delayed_le future) rfl rfl

/-- A deadline is served on an enabled scheduler, if it is asked for while no earlier one is
armed, and no earlier one is asked for after it: either a pass has started from the deadline
on, or its timer is armed for no later than that, or a callback of the drain is due, and of
these callbacks at most two have gone by since the deadline. -/
theorem deadline_served (enabled : options.enabled = true) {before after : List (WakeCall × Bool)}
    {deadline now : Timestamp} {reply : Bool} {prior finish : Scheduler}
    (run : (machine options).system.Run before prior)
    (steps : (machine options).system.Steps prior ((.wake (.instant deadline) now, reply) :: after) finish)
    (clock : (now :: after.map fun entry => entry.1.time).Pairwise (· ≤ ·))
    (undisposed : ∀ entry ∈ before ++ after, entry.1.disposes = false) (future : now < deadline)
    (earliest : ∀ scheduled ∈ prior.scheduledAt, deadline ≤ scheduled)
    (kept : ∀ entry ∈ after, ∀ asked ∈ entry.1.deadline?, deadline ≤ asked) :
    (∃ entry ∈ after, entry.2 = true ∧ deadline ≤ entry.1.time) ∨
      ((∃ fires ≤ deadline, finish.scheduledTimer = some ⟨deadline, fires⟩) ∨ finish.callsBack = true) ∧
        ((machine options).collect (lateCallback deadline) ((.wake (.instant deadline) now, reply) :: after)
          prior).length ≤ 2 := by
  cases steps with
  | @next _ _ middle _ _ transition rest =>
    have live := run_live run fun entry listed => undisposed entry (List.mem_append_left after listed)
    have owed := deadline_owed enabled live (run_standing run) (run_armed run) future earliest transition
    by_cases served : ∃ entry ∈ after, entry.2 = true ∧ deadline ≤ entry.1.time
    · exact .inl served
    · right
      have performed : perform options (.wake (.instant deadline) now) prior = (reply, middle) := transition
      obtain ⟨⟨time, owes⟩, _, few⟩ := owes_steps enabled rest owed clock
        (fun entry listed => undisposed entry (List.mem_append_right before listed)) kept
        (fun entry listed started => served ⟨entry, listed, started⟩)
      refine ⟨?_, ?_⟩
      · cases owes with
        | armed _ _ fires timely timer => exact .inl ⟨fires, timely, timer⟩
        | due _ pending => exact .inr pending.callsBack
      · have reached : ((machine options).perform (.wake (.instant deadline) now) prior).2 = middle :=
          congrArg Prod.snd performed
        have early : lateCallback deadline prior (.wake (.instant deadline) now, reply) = [] := if_pos future
        rw [Machine.collect, reached, early]
        exact few

/-! ## A deadline that is served, and one that is not -/

def servedCalls : List WakeCall := [.timer 80, .immediate 80, .settle 0 (.returned false) 81]

/-- The pass for a deadline starts from it on. -/
theorem served_deadline : ∃ entry ∈ ((machine (sampleOptions true)).replay servedCalls
        (wake (sampleOptions true) (.instant 80) 0 (initial (sampleOptions true)))).1,
      entry.2 = true ∧ 80 ≤ entry.1.time := by
  let machine := machine (sampleOptions true)
  rcases @deadline_served (sampleOptions true) rfl [] _ 80 0 false _ _ (.initial rfl)
    (.next rfl (machine.replay_steps servedCalls _)) (by decide) (by decide) (by decide) (by decide) (by decide)
    with served | ⟨owed, _⟩
  · exact served
  · rcases owed with ⟨fires, _, timer⟩ | due
    · cases timer
    · exact absurd due (by decide)

/-- Nothing is due at a time. -/
structure Quiet (now : Timestamp) (scheduler : Scheduler) : Prop where
  drained : scheduler.callsBack = false
  ahead : ∀ timer ∈ scheduler.scheduledTimer, now < timer.firesAt

def droppedCalls : List WakeCall :=
  [.wake (.instant 30) 0, .wake (.instant 80) 0, .timer 30, .immediate 30, .settle 0 (.returned false) 31,
    .wake (.instant 200) 100]

/-- A deadline that is asked for while an earlier one is armed is forgotten. -/
theorem later_deadline_dropped :
    ¬ ∀ (options : WakeOptions) (labels : List (WakeCall × Bool)) (last : WakeCall × Bool) (finish : Scheduler),
      options.enabled = true → (machine options).system.Run (labels ++ [last]) finish →
        ((labels ++ [last]).map fun entry => entry.1.time).Pairwise (· ≤ ·) →
        (∀ entry ∈ labels ++ [last], entry.1.disposes = false) → Quiet last.1.time finish →
          ∀ deadline now, now < deadline → (.wake (.instant deadline) now, false) ∈ labels →
            deadline ≤ last.1.time → ∃ entry ∈ labels ++ [last], entry.2 = true ∧ deadline ≤ entry.1.time := by
  intro claimed
  have served := claimed (sampleOptions true)
    [(.wake (.instant 30) 0, false), (.wake (.instant 80) 0, false), (.timer 30, false), (.immediate 30, true),
      (.settle 0 (.returned false) 31, false)] (.wake (.instant 200) 100, false) _ rfl
    ((machine (sampleOptions true)).replay_run droppedCalls) (by decide) (by decide) ⟨by decide, by decide⟩
    80 0 (by decide) (by decide) (by decide)
  exact absurd served (by decide)

end Scheduler

end QuarkSelfAI.Runtime

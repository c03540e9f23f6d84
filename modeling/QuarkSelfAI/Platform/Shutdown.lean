import QuarkSelfAI.Platform.Lifecycle

/-!
# Shutdown is complete

As long as `stop` is called only while no start is under way and no earlier stop is under
way or has been rejected, a supervisor goes through its components once: it starts them in
order, and it stops what it has started in reverse order, either in a rollback or for the
first call of `stop`. Once a stop has resolved, nothing is called any more.
-/

namespace QuarkSelfAI.Platform

open Foundation

/-- The calls of components, in order. -/
def called (labels : List (LifecycleCall × LifecycleReply)) : List ComponentCall :=
  labels.filterMap fun label => label.2.called

/-- The components whose stop has ended, and whether it returned. -/
def ended (labels : List (LifecycleCall × LifecycleReply)) : List (String × Bool) :=
  labels.filterMap fun label => label.2.ended

/-- The calls of the supervisor that have ended. -/
def settled (labels : List (LifecycleCall × LifecycleReply)) : List Settlement :=
  labels.filterMap fun label => label.2.settled

/-- Everything that was started was stopped after that, in reverse order; every stop has
ended, and returned unless it was in the rollback of a rejected start. -/
def Complete (calls : List ComponentCall) (ends : List (String × Bool)) (settlements : List Settlement) : Prop :=
  ∃ attempts : List String, calls = attempts.map .start ++ attempts.reverse.map .stop ∧
      ends.map Prod.fst = attempts.reverse ∧
      ∀ stop ∈ ends, stop.2 = true ∨ ∃ errors, errors ≠ [] ∧ Settlement.startRejected errors ∈ settlements

/-- The components were started in order, and their stops have come to this one. -/
def Unwinds (calls : List ComponentCall) (ends : List (String × Bool)) (stopping : Stopping) : Prop :=
  ∃ attempts done : List String,
    done ++ stopping.component.id :: stopping.rest.map ManagedComponent.id = attempts.reverse ∧
      calls = attempts.map .start ++ (done ++ [stopping.component.id]).map .stop ∧
      ends.map Prod.fst = done ∧ (stopping.errors = [] → ∀ stop ∈ ends, stop.2 = true)

variable {component : ManagedComponent}

section Unwinds

variable {calls : List ComponentCall} {ends : List (String × Bool)} {stopping : Stopping}
  {settlements : List Settlement}

theorem Unwinds.start {components rest : List ManagedComponent}
    (started : calls = (components.map ManagedComponent.id).map .start)
    (last : components.reverse = component :: rest) (startedAt : Option Timestamp) :
    Unwinds (calls ++ [.stop component.id]) [] ⟨component, startedAt, rest, []⟩ := by
  refine ⟨components.map ManagedComponent.id, [], ?_, ?_, rfl, fun _ => nofun⟩
  · rw [← List.map_reverse, last]
    rfl
  · rw [started]
    rfl

theorem errorsAfter_nil {outcome : Outcome} (fine : stopping.errorsAfter outcome = []) :
    stopping.errors = [] ∧ returned outcome = true := by
  cases outcome with
  | ok => exact ⟨fine, rfl⟩
  | error message => exact absurd fine (by simp [Stopping.errorsAfter])

theorem Unwinds.ends_fine (unwinds : Unwinds calls ends stopping) (outcome : Outcome)
    (fine : stopping.errorsAfter outcome = []) :
    ∀ stop ∈ ends ++ [(stopping.component.id, returned outcome)], stop.2 = true := by
  obtain ⟨_, _, _, _, _, returns⟩ := unwinds
  obtain ⟨earlier, now⟩ := errorsAfter_nil fine
  intro stop listed
  rcases List.mem_append.mp listed with old | new
  · exact returns earlier stop old
  · rw [List.mem_singleton.mp new]
    exact now

theorem Unwinds.next (unwinds : Unwinds calls ends stopping) (outcome : Outcome) {next : ManagedComponent}
    {rest : List ManagedComponent} (follows : stopping.rest = next :: rest) (startedAt : Option Timestamp) :
    Unwinds (calls ++ [.stop next.id]) (ends ++ [(stopping.component.id, returned outcome)])
      ⟨next, startedAt, rest, stopping.errorsAfter outcome⟩ := by
  have fine := unwinds.ends_fine outcome
  obtain ⟨attempts, done, order, rfl, stopped, _⟩ := unwinds
  refine ⟨attempts, done ++ [stopping.component.id], ?_, ?_, ?_, fine⟩
  · rw [← order, follows]
    simp
  · simp
  · rw [List.map_append, stopped]
    rfl

theorem Unwinds.done (unwinds : Unwinds calls ends stopping) (outcome : Outcome) (last : stopping.rest = [])
    (told : stopping.errorsAfter outcome = [] ∨ .startRejected (stopping.errorsAfter outcome) ∈ settlements) :
    Complete calls (ends ++ [(stopping.component.id, returned outcome)]) settlements := by
  have fine := unwinds.ends_fine outcome
  obtain ⟨attempts, done, order, rfl, stopped, _⟩ := unwinds
  rw [last] at order
  refine ⟨attempts, by rw [← order]; rfl, ?_, fun stop listed => ?_⟩
  · rw [List.map_append, stopped, ← order]
    rfl
  · by_cases clean : stopping.errorsAfter outcome = []
    · exact .inl (fine clean stop listed)
    · exact .inr ⟨_, clean, told.resolve_left clean⟩

theorem Complete.settle (complete : Complete calls ends settlements) (more : List Settlement) :
    Complete calls ends (settlements ++ more) := by
  obtain ⟨attempts, order, stopped, fine⟩ := complete
  refine ⟨attempts, order, stopped, fun stop listed => ?_⟩
  rcases fine stop listed with returns | ⟨errors, some_, told⟩
  · exact .inl returns
  · exact .inr ⟨errors, some_, List.mem_append_left _ told⟩

end Unwinds

namespace Supervisor

/-- `stop` is called only while no start is under way and no earlier stop is under way or
has been rejected. -/
def Orderly (supervisor : Supervisor) (label : LifecycleCall × LifecycleReply) : Prop :=
  match label.1 with
  | .stop => supervisor.start = none ∧ supervisor.state ≠ .stopping
  | _ => True

instance (supervisor : Supervisor) (label : LifecycleCall × LifecycleReply) : Decidable (Orderly supervisor label) := by
  unfold Orderly
  split <;> infer_instance

/-- How a supervisor stands to what it has called, in a run that is orderly. -/
inductive Standing (calls : List ComponentCall) (ends : List (String × Bool)) (settlements : List Settlement)
    (supervisor : Supervisor) : Prop where
  | fresh (state : supervisor.state = .idle) (start : supervisor.start = none)
      (started : supervisor.started = []) (stops : supervisor.stops = [])
      (unwatched : supervisor.watching = []) (uncalled : calls = []) (unended : ends = [])
  | launching {component : ManagedComponent} {rest : List ManagedComponent}
      (state : supervisor.state = .starting ∨ supervisor.state = .failed)
      (start : supervisor.start = some (.launching component rest)) (stops : supervisor.stops = [])
      (started : calls = (supervisor.started.map ManagedComponent.id).map .start) (unended : ends = [])
  | ready (state : supervisor.state = .ready ∨ supervisor.state = .failed) (start : supervisor.start = none)
      (stops : supervisor.stops = [])
      (started : calls = (supervisor.started.map ManagedComponent.id).map .start) (unended : ends = [])
  | rolling {starting : ManagedComponent} {startError : String} {stopping : Stopping}
      (state : supervisor.state = .failed)
      (start : supervisor.start = some (.rollingBack starting startError stopping))
      (started : supervisor.started = []) (stops : supervisor.stops = []) (unwinds : Unwinds calls ends stopping)
  | halted (state : supervisor.state = .failed) (start : supervisor.start = none)
      (started : supervisor.started = []) (stops : supervisor.stops = [])
      (complete : Complete calls ends settlements)
  | stopping {stopping : Stopping} (state : supervisor.state = .stopping) (start : supervisor.start = none)
      (started : supervisor.started = []) (stops : supervisor.stops = [stopping])
      (unwinds : Unwinds calls ends stopping)
  | broken (state : supervisor.state = .stopping) (start : supervisor.start = none) (stops : supervisor.stops = [])
  | stopped (state : supervisor.state = .stopped) (start : supervisor.start = none)
      (started : supervisor.started = []) (stops : supervisor.stops = [])
      (complete : Complete calls ends settlements)

variable {managed : ManagedComponents} {supervisor next : Supervisor} {calls : List ComponentCall}
  {ends : List (String × Bool)} {settlements : List Settlement} {stopping : Stopping}

/-- What a step leaves stands, and a stop that resolves leaves a stopped supervisor. -/
def Stands (calls : List ComponentCall) (ends : List (String × Bool)) (settlements : List Settlement)
    (outcome : LifecycleReply × Supervisor) : Prop :=
  Standing (calls ++ outcome.1.called.toList) (ends ++ outcome.1.ended.toList)
      (settlements ++ outcome.1.settled.toList) outcome.2 ∧
    (outcome.1.settled = some .stopResolved → outcome.2.state = .stopped)

theorem Standing.more (standing : Standing calls ends settlements supervisor) (told : List Settlement) :
    Standing calls ends (settlements ++ told) supervisor := by
  cases standing with
  | fresh state start started stops unwatched uncalled unended =>
    exact .fresh state start started stops unwatched uncalled unended
  | launching state start stops started unended => exact .launching state start stops started unended
  | ready state start stops started unended => exact .ready state start stops started unended
  | rolling state start started stops unwinds => exact .rolling state start started stops unwinds
  | halted state start started stops complete => exact .halted state start started stops (complete.settle told)
  | stopping state start started stops unwinds => exact .stopping state start started stops unwinds
  | broken state start stops => exact .broken state start stops
  | stopped state start started stops complete => exact .stopped state start started stops (complete.settle told)

theorem Standing.stands (standing : Standing calls ends settlements supervisor) :
    Stands calls ends settlements (⟨none, none, none⟩, supervisor) := by
  refine ⟨?_, nofun⟩
  simpa using standing

/-- A supervisor that has stopped calls no component and stays as it is. -/
theorem stopped_perform (managed : ManagedComponents) (state : supervisor.state = .stopped) (start : supervisor.start = none)
    (stops : supervisor.stops = []) (call : LifecycleCall) :
    (perform managed call supervisor).1.called = none ∧ (perform managed call supervisor).1.ended = none ∧
      (perform managed call supervisor).2.state = .stopped ∧
      (perform managed call supervisor).2.start = none ∧ (perform managed call supervisor).2.stops = [] := by
  cases call with
  | start => simp [perform, begin, state, start, stops]
  | started | rolledBack | stopped => simp [perform, state, start, stops]
  | stop => simp [perform, stop, state, start, stops]
  | failed index error =>
    rw [perform]
    split
    · simp [reportFailure, state, start, stops]
    · simp [state, start, stops]

/-! ## Stopping what was started -/

theorem stopNext_cases (components : List ManagedComponent) (errors : List String) (supervisor : Supervisor) :
    (components = [] ∧ stopNext components errors supervisor = (none, supervisor)) ∨
      ∃ component rest startedAt, components = component :: rest ∧ stopNext components errors supervisor =
          (some ⟨component, startedAt, rest, errors⟩, setStatus component .stopping none none none supervisor) := by
  cases components with
  | nil => exact .inl ⟨rfl, rfl⟩
  | cons component rest => exact .inr ⟨component, rest, _, rfl, rfl⟩

theorem stopEnded_spec (stopping : Stopping) (outcome : Outcome) (now : Timestamp) (supervisor : Supervisor) :
    ∃ statuses, stopEnded stopping outcome now supervisor = { supervisor with statuses } := by
  cases outcome with
  | ok | error => exact ⟨_, rfl⟩

/-- Nothing was started, so nothing has to be stopped. -/
theorem complete_nothing {started : List ManagedComponent} (last : started.reverse = [])
    (calls_eq : calls = (started.map ManagedComponent.id).map .start) (unended : ends = []) :
    Complete calls ends settlements := by
  obtain rfl := List.reverse_eq_nil_iff.mp last
  exact ⟨[], calls_eq, by rw [unended]; rfl, by rw [unended]; exact nofun⟩

theorem rollBack_start (component : ManagedComponent) (startError : String) (stops : supervisor.stops = [])
    (started : calls = (supervisor.started.map ManagedComponent.id).map .start) (unended : ends = []) :
    Stands calls ends settlements
      (rollBack component startError [] none (stopStarted { supervisor with state := .failed })) := by
  unfold stopStarted
  rcases stopNext_cases supervisor.started.reverse [] { supervisor with state := .failed, started := [] } with
    ⟨last, none_⟩ | ⟨first, rest, startedAt, last, some_⟩
  · refine ⟨?_, by simp [none_, rollBack, startFailed]⟩
    simp only [none_, rollBack, startFailed, Option.toList_none, List.append_nil]
    exact .halted rfl rfl rfl stops ((complete_nothing last started unended).settle _)
  · refine ⟨?_, by simp [some_, rollBack]⟩
    simp only [some_, rollBack, Option.toList_none, Option.toList_some, List.append_nil]
    subst unended
    exact .rolling rfl rfl rfl stops (.start started last startedAt)

theorem rollBack_next {starting : ManagedComponent} {startError : String}
    (outcome : Outcome) (state : supervisor.state = .failed) (started : supervisor.started = [])
    (stops : supervisor.stops = []) (unwinds : Unwinds calls ends stopping) : Stands calls ends settlements
      (rollBack starting startError (stopping.errorsAfter outcome)
        (some (stopping.component.id, returned outcome))
        (stopNext stopping.rest (stopping.errorsAfter outcome) supervisor)) := by
  rcases stopNext_cases stopping.rest (stopping.errorsAfter outcome) supervisor with
    ⟨last, none_⟩ | ⟨first, rest, startedAt, follows, some_⟩
  · refine ⟨?_, by simp [none_, rollBack, startFailed]⟩
    simp only [none_, rollBack, startFailed, Option.toList_none, Option.toList_some, List.append_nil]
    refine .halted state rfl started stops (unwinds.done outcome last ?_)
    exact .inr (by simp)
  · refine ⟨?_, by simp [some_, rollBack]⟩
    simp only [some_, rollBack, Option.toList_none, Option.toList_some, List.append_nil]
    exact .rolling state rfl started stops (unwinds.next outcome follows startedAt)

theorem stopOn_start (start : supervisor.start = none) (stops : supervisor.stops = [])
    (done : supervisor.started = [] → Complete calls ends settlements) (begun : supervisor.started ≠ [] →
      calls = (supervisor.started.map ManagedComponent.id).map .start ∧ ends = []) :
    Stands calls ends settlements (stopOn [] none (stopStarted { supervisor with state := .stopping })) := by
  unfold stopStarted
  rcases stopNext_cases supervisor.started.reverse [] { supervisor with state := .stopping, started := [] } with
    ⟨last, none_⟩ | ⟨first, rest, startedAt, last, some_⟩
  · refine ⟨?_, by simp [none_, stopOn]⟩
    simp only [none_, stopOn, if_pos, Option.toList_none, Option.toList_some, List.append_nil]
    exact .stopped rfl start rfl stops ((done (List.reverse_eq_nil_iff.mp last)).settle _)
  · have some_started : supervisor.started ≠ [] := by
      intro empty
      rw [empty] at last
      cases last
    obtain ⟨started, rfl⟩ := begun some_started
    refine ⟨?_, by simp [some_, stopOn]⟩
    simp only [some_, stopOn, Option.toList_none, Option.toList_some, List.append_nil]
    refine .stopping rfl start rfl ?_ (.start started last startedAt)
    simp [setStatus, stops]

theorem stopOn_next (outcome : Outcome) (state : supervisor.state = .stopping)
    (start : supervisor.start = none) (started : supervisor.started = []) (stops : supervisor.stops = [])
    (unwinds : Unwinds calls ends stopping) : Stands calls ends settlements
      (stopOn (stopping.errorsAfter outcome) (some (stopping.component.id, returned outcome))
        (stopNext stopping.rest (stopping.errorsAfter outcome) supervisor)) := by
  rcases stopNext_cases stopping.rest (stopping.errorsAfter outcome) supervisor with
    ⟨last, none_⟩ | ⟨first, rest, startedAt, follows, some_⟩
  · rw [none_, stopOn]
    split
    · rename_i clean
      refine ⟨?_, fun _ => rfl⟩
      simp only [Option.toList_none, Option.toList_some, List.append_nil]
      exact .stopped rfl start started stops (unwinds.done outcome last (.inl clean))
    · exact ⟨.broken state start stops, nofun⟩
  · refine ⟨?_, by simp [some_, stopOn]⟩
    simp only [some_, stopOn, Option.toList_none, Option.toList_some, List.append_nil]
    refine .stopping state start started ?_ (unwinds.next outcome follows startedAt)
    simp [setStatus, stops]

theorem launch_stands (components : List ManagedComponent)
    (state : supervisor.state = .starting ∨ supervisor.state = .failed) (stops : supervisor.stops = [])
    (started : calls = (supervisor.started.map ManagedComponent.id).map .start) (unended : ends = []) :
    Stands calls ends settlements (launch components supervisor) := by
  cases components with
  | nil =>
    refine ⟨?_, by simp [launch]⟩
    simp only [launch, Option.toList_none, List.append_nil]
    exact .ready (.inl rfl) rfl stops started unended
  | cons component rest =>
    refine ⟨?_, by simp [launch]⟩
    simp only [launch, Option.toList_none, Option.toList_some, List.append_nil]
    refine .launching state rfl stops ?_ unended
    simp [started]

/-! ## Every orderly step -/

theorem Standing.begin (standing : Standing calls ends settlements supervisor) :
    Stands calls ends settlements (begin managed supervisor) := by
  unfold Supervisor.begin
  split
  · rename_i idle
    cases standing with
    | fresh _ _ started stops _ uncalled unended =>
      refine launch_stands managed.components (.inl rfl) stops ?_ unended
      simp [uncalled, started]
    | launching state | ready state => rcases state with state | state <;> simp [state] at idle
    | rolling state | halted state | stopping state | broken state | stopped state => simp [state] at idle
  · refine ⟨?_, by simp⟩
    simpa using standing.more _

theorem Standing.stop (standing : Standing calls ends settlements supervisor)
    (orderly : supervisor.start = none ∧ supervisor.state ≠ .stopping) :
    Stands calls ends settlements (stop supervisor) := by
  obtain ⟨unstarted, quiet⟩ := orderly
  unfold Supervisor.stop
  cases standing with
  | fresh state start started stops _ uncalled unended =>
    rw [state]
    refine ⟨?_, by simp⟩
    simp only [Option.toList_none, Option.toList_some, List.append_nil]
    exact .stopped rfl start started stops ⟨[], uncalled, by rw [unended]; rfl, by rw [unended]; exact nofun⟩
  | launching _ start | rolling _ start => simp [start] at unstarted
  | ready state start stops started unended =>
    rcases state with state | state
    all_goals
      rw [state]
      refine stopOn_start start stops (fun empty => ?_) fun _ => ⟨started, unended⟩
      exact complete_nothing (by rw [empty]; rfl) started unended
  | halted state start started stops complete =>
    rw [state]
    exact stopOn_start start stops (fun _ => complete) fun some_ => (some_ started).elim
  | stopping state | broken state => exact (quiet state).elim
  | stopped state start started stops complete =>
    rw [state]
    refine ⟨?_, by simp⟩
    simp only [Option.toList_none, Option.toList_some, List.append_nil]
    exact .stopped rfl start started stops (complete.settle _)

theorem watch_spec (component : ManagedComponent) (supervisor : Supervisor) :
    ∃ watching, watch component supervisor = { supervisor with watching } := by
  unfold watch
  split
  · exact ⟨_, rfl⟩
  · exact ⟨supervisor.watching, rfl⟩

theorem Standing.started (standing : Standing calls ends settlements supervisor) {rest : List ManagedComponent}
    (starts : supervisor.start = some (.launching component rest)) (outcome : Outcome) (now : Timestamp) :
    Stands calls ends settlements (onStarted component rest outcome now supervisor) := by
  cases standing with
  | launching state start stops started unended =>
    cases outcome with
    | ok =>
      obtain ⟨watching, watched⟩ := watch_spec component (setStatus component .ready (some now) none none supervisor)
      rw [onStarted, watched]
      exact launch_stands rest state stops started unended
    | error message => exact rollBack_start component message stops started unended
  | fresh _ start | ready _ start | rolling _ start | halted _ start | stopping _ start | broken _ start
  | stopped _ start => simp [start] at starts

theorem Standing.rolledBack (standing : Standing calls ends settlements supervisor) {starting : ManagedComponent}
    {startError : String} (starts : supervisor.start = some (.rollingBack starting startError stopping))
    (outcome : Outcome) (now : Timestamp) :
    Stands calls ends settlements (onRolledBack starting startError stopping outcome now supervisor) := by
  cases standing with
  | @rolling component message waited state start started stops unwinds =>
    rw [starts] at start
    obtain ⟨rfl, rfl, rfl⟩ := Starting.rollingBack.inj (Option.some.inj start)
    obtain ⟨statuses, recorded⟩ := stopEnded_spec stopping outcome now supervisor
    unfold onRolledBack
    rw [recorded]
    exact rollBack_next outcome state started stops unwinds
  | fresh _ start | launching _ start | ready _ start | halted _ start | stopping _ start | broken _ start
  | stopped _ start => simp [start] at starts

theorem Standing.ended (standing : Standing calls ends settlements supervisor) {index : Nat}
    (waits : supervisor.stops[index]? = some stopping) (outcome : Outcome)
    (now : Timestamp) : Stands calls ends settlements (onStopped index stopping outcome now supervisor) := by
  cases standing with
  | @stopping only state start started stops unwinds =>
    rw [stops, List.getElem?_singleton] at waits
    split at waits
    · rename_i first
      obtain rfl := Option.some.inj waits
      obtain ⟨statuses, recorded⟩ := stopEnded_spec only outcome now
        { supervisor with stops := supervisor.stops.eraseIdx index }
      unfold onStopped
      rw [recorded]
      exact stopOn_next outcome state start started (by simp [stops, first]) unwinds
    · cases waits
  | fresh _ _ _ stops | launching _ _ stops | ready _ _ stops | rolling _ _ _ stops | halted _ _ _ stops
  | broken _ _ stops | stopped _ _ _ stops => simp [stops] at waits

/-- A failure that is reported leaves what was called as it stands. -/
theorem Standing.reported (standing : Standing calls ends settlements supervisor) {index : Nat}
    (watched : supervisor.watching[index]? = some component) (error : String) (watching : List ManagedComponent) :
    Standing calls ends settlements (reportFailure component error { supervisor with watching }) := by
  unfold reportFailure
  split
  · rename_i unheard
    cases standing with
    | fresh _ _ _ _ unwatched => simp [unwatched] at watched
    | launching state start stops started unended => exact .launching state start stops started unended
    | ready state start stops started unended => exact .ready state start stops started unended
    | rolling state start started stops unwinds => exact .rolling state start started stops unwinds
    | halted state start started stops complete => exact .halted state start started stops complete
    | stopping state start started stops unwinds => exact .stopping state start started stops unwinds
    | broken state start stops => exact .broken state start stops
    | stopped state start started stops complete => exact .stopped state start started stops complete
  · rename_i heard
    cases standing with
    | fresh _ _ _ _ unwatched => simp [unwatched] at watched
    | launching state start stops started unended => exact .launching (.inr rfl) start stops started unended
    | ready state start stops started unended => exact .ready (.inr rfl) start stops started unended
    | rolling state start started stops unwinds => exact .rolling rfl start started stops unwinds
    | halted state start started stops complete => exact .halted rfl start started stops complete
    | stopping state | broken state | stopped state => simp [state] at heard

/-- Every orderly step leaves a supervisor that stands. -/
theorem Standing.perform (standing : Standing calls ends settlements supervisor)
    (managed : ManagedComponents) (call : LifecycleCall) (orderly : ∀ reply, Orderly supervisor (call, reply)) :
    Stands calls ends settlements (perform managed call supervisor) := by
  cases call with
  | start => exact standing.begin
  | started outcome now =>
    rw [Supervisor.perform]
    split
    · rename_i component rest starts
      exact standing.started starts outcome now
    · exact standing.stands
  | rolledBack outcome now =>
    rw [Supervisor.perform]
    split
    · rename_i starting startError stopping starts
      exact standing.rolledBack starts outcome now
    · exact standing.stands
  | stop => exact standing.stop (orderly ⟨none, none, none⟩)
  | stopped index outcome now =>
    rw [Supervisor.perform]
    split
    · rename_i stopping waits
      exact standing.ended waits outcome now
    · exact standing.stands
  | failed index error =>
    rw [Supervisor.perform]
    split
    · rename_i component watched
      exact (standing.reported watched error _).stands
    · exact standing.stands

/-! ## Runs -/

variable {labels : List (LifecycleCall × LifecycleReply)}

/-- A run in which `stop` is called in order only. -/
abbrev OrderlyRun (managed : ManagedComponents) (labels : List (LifecycleCall × LifecycleReply))
    (supervisor : Supervisor) : Prop :=
  ((machine managed).system.restricted Orderly).Run labels supervisor

theorem step_stands {before after : Supervisor} {label : LifecycleCall × LifecycleReply}
    (standing : Standing (called labels) (ended labels) (settled labels) before)
    (step : ((machine managed).system.restricted Orderly).Step before label after) :
    Standing (called (labels ++ [label])) (ended (labels ++ [label])) (settled (labels ++ [label])) after ∧
      (label.2.settled = some .stopResolved → after.state = .stopped) := by
  obtain ⟨performed, orderly⟩ := step
  have performed : perform managed label.1 before = (label.2, after) := performed
  have stands := standing.perform managed label.1 fun _ => orderly
  rw [performed] at stands
  rw [called, ended, settled, filterMap_snoc, filterMap_snoc, filterMap_snoc]
  exact stands

theorem run_standing (run : OrderlyRun managed labels supervisor) :
    Standing (called labels) (ended labels) (settled labels) supervisor := by
  refine run.history
    (motive := fun labels supervisor => Standing (called labels) (ended labels) (settled labels) supervisor) ?_ ?_
  · rintro _ rfl
    exact .fresh rfl rfl rfl rfl rfl rfl rfl
  · rintro labels label before after _ standing step
    exact (step_stands standing step).1

/-- After a stop that has resolved, no component is called and the state stays. -/
theorem stopped_steps {start finish : Supervisor} (state : start.state = .stopped) (unstarted : start.start = none)
    (stops : start.stops = []) (steps : (machine managed).system.Steps start labels finish) :
    called labels = [] ∧ ended labels = [] ∧ finish.state = .stopped := by
  induction steps with
  | done => exact ⟨rfl, rfl, state⟩
  | @next start label middle labels finish transition rest ih =>
    have performed : perform managed label.1 start = (label.2, middle) := transition
    have quiet := stopped_perform managed state unstarted stops label.1
    rw [performed] at quiet
    obtain ⟨uncalled, unended, state, unstarted, stops⟩ := quiet
    rw [called, ended, List.filterMap_cons, List.filterMap_cons, uncalled, unended]
    exact ih state unstarted stops

/-- A store and a kernel that is watched. -/
def storeAndKernel : ManagedComponents where
  components := [⟨"store", "infrastructure", none, false⟩, ⟨"kernel", "infrastructure", none, true⟩]
  identified := by decide
  distinct := by decide

/-- Both start, and are stopped once. -/
def startAndStop : List LifecycleCall :=
  [.start, .started (.ok ()) 10, .started (.ok ()) 20, .stop, .stopped 0 (.ok ()) 30, .stopped 0 (.ok ()) 40, .stop]

end Supervisor

end QuarkSelfAI.Platform

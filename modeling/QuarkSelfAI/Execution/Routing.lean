import QuarkSelfAI.Execution.Router

/-!
# The discipline of the router

An execution goes along its route while its providers fail for the infrastructure's sake,
disposes each run before it starts the next one, and shares its action with no other
execution. A write is started on a capability that was issued for it and is consumed.
-/

namespace QuarkSelfAI.Execution

open Foundation

/-! ## Along the route -/

/-- The route that a request asks for. -/
def Routing.routeOf (routing : Routing) (request : RoutedExecutorRequest) : List (Option ExecutorId) :=
  routing.routes.get (request.requestedExecutor.getD routing.defaultExecutor)

def ExecutorAttempt.Infrastructure (attempt : ExecutorAttempt) : Prop :=
  attempt.status = .failed ∧ ∃ reason, attempt.failureReason = some reason ∧ isInfrastructureFailure reason = true

/-- A result whose attempts went along a route. -/
structure Answers (route : List (Option ExecutorId)) (result : RoutedExecutorResult) : Prop where
  tried : result.attempts ≠ []
  along : result.attempts.map ExecutorAttempt.executor <+: route
  retried : ∀ attempt ∈ result.attempts.dropLast, attempt.Infrastructure
  completed : ∀ attempt ∈ result.attempts.getLast?, attempt.status = .completed →
    result.status = .completed ∧ result.executor = attempt.executor

/-- Where an execution stands on its route after some failures of the infrastructure. -/
structure Position.Along (route : List (Option ExecutorId)) (position : Position) : Prop where
  follows : position.route = route
  tried : position.attempts.map ExecutorAttempt.executor = route.take position.index
  retried : ∀ attempt ∈ position.attempts, attempt.Infrastructure

/-- What holds of an execution by its phase. -/
inductive Phase.Sound (route : List (Option ExecutorId)) : Phase → Prop where
  | workspace : Sound route .workspace
  | parent (workspace : String) : Sound route (.parent workspace)
  | starting {position : Position} {executor : Option ExecutorId} (provider : Option String)
      (along : position.Along route) (here : route[position.index]? = some executor) :
      Sound route (.starting position executor provider)
  | running {position : Position} {executor : Option ExecutorId} (provider : Option String) (run : SubagentRun)
      (along : position.Along route) (here : route[position.index]? = some executor) :
      Sound route (.running position executor provider run)
  | advancing {position : Position} (run : Option SubagentRun)
      (along : { position with index := position.index + 1 }.Along route)
      (within : position.index + 1 < route.length) :
      Sound route (.disposing position run .advance)
  | returning (position : Position) (run : Option SubagentRun) {result : RoutedExecutorResult}
      (answers : Answers route result) : Sound route (.disposing position run (.result result))

def Progress.Sound (route : List (Option ExecutorId)) : Progress → Prop
  | .awaits _ phase => phase.Sound route
  | .ends reply => ∀ execution result, reply = .returned execution result → Answers route result

variable {execution : Nat} {waits : RoutedExecution} {progress : Progress} {result : RoutedExecutorResult}

section Along

variable {route : List (Option ExecutorId)} {position : Position} {executor : Option ExecutorId}
  {attempt : ExecutorAttempt} {request : RoutedExecutorRequest} {routing : Routing}

theorem Position.Along.tried_here (along : position.Along route) (here : route[position.index]? = some executor)
    (named : attempt.executor = executor) :
    (position.attempts ++ [attempt]).map ExecutorAttempt.executor = route.take (position.index + 1) := by
  rw [List.map_append, along.tried, List.take_add_one, here]
  simp [named]

theorem answers_of_attempt (along : position.Along route) (here : route[position.index]? = some executor)
    (named : attempt.executor = executor) (made : result.attempts = position.attempts ++ [attempt])
    (completed : attempt.status = .completed → result.status = .completed ∧ result.executor = executor) :
    Answers route result where
  tried := by simp [made]
  along := by
    rw [made, along.tried_here here named]
    exact List.take_prefix _ _
  retried := by
    rw [made, List.dropLast_concat]
    exact along.retried
  completed := by
    intro last ends
    rw [made, List.getLast?_concat] at ends
    obtain rfl : attempt = last := Option.some.inj ends
    rw [named]
    exact completed

/-- After a failed attempt the execution returns what went wrong, or it goes on. -/
theorem afterFailure_sound (along : position.Along route) (here : route[position.index]? = some executor)
    {reason : String} (named : attempt.executor = executor) (failed : attempt.status = .failed)
    (because : attempt.failureReason = some reason) (result : Option SubagentResult) (run : Option SubagentRun) :
    (Phase.disposing (afterFailure request position executor attempt reason result).1 run
      (afterFailure request position executor attempt reason result).2).Sound route := by
  unfold afterFailure
  dsimp only
  split
  · refine .returning _ run (answers_of_attempt along here named rfl ?_)
    intro completed
    rw [failed] at completed
    cases completed
  · rename_i goesOn
    obtain ⟨more, infrastructure⟩ := not_or.mp goesOn
    have within := (List.getElem?_eq_some_iff.mp here).1
    refine .advancing run ⟨along.follows, along.tried_here here named, ?_⟩ ?_
    · intro tried listed
      rcases List.mem_append.mp listed with earlier | last
      · exact along.retried tried earlier
      · obtain rfl := List.mem_singleton.mp last
        exact ⟨failed, reason, because, by simpa using infrastructure⟩
    · rw [along.follows] at more
      dsimp only
      omega

theorem loop_sound (execution : Nat) (along : position.Along route) (within : position.index < route.length) :
    (loop routing execution request position).Sound route := by
  unfold loop
  rw [along.follows, List.getElem?_eq_getElem within]
  dsimp only
  split
  · intro other result same
    cases same
  · exact .starting _ along (List.getElem?_eq_getElem within)

theorem enter_sound (execution : Nat) (somewhere : routing.routeOf request ≠ []) :
    (enter routing execution request).Sound (routing.routeOf request) := by
  unfold enter
  dsimp only
  split
  · intro other result same
    cases same
  · exact loop_sound execution ⟨rfl, by simp, by simp⟩ (List.length_pos_iff.mpr somewhere)

/-- An answer takes an execution along its route. -/
theorem answer_sound {call : RouterCall}
    (somewhere : routing.routeOf waits.request ≠ []) (sound : waits.phase.Sound (routing.routeOf waits.request))
    (answered : waits.answer routing call execution = some progress) :
    progress.Sound (routing.routeOf waits.request) := by
  obtain ⟨request, phase⟩ := waits
  dsimp only at somewhere sound ⊢
  have refused : ∀ message : String, (Progress.ends (.rejected execution message)).Sound (routing.routeOf request) := by
    intro message other result same
    cases same
  cases call with
  | issue | execute => cases phase <;> cases answered
  | authorized _ answer =>
    cases sound with
    | workspace =>
      cases answer with
      | error message =>
        cases answered
        exact refused message
      | ok workspace =>
        simp only [RoutedExecution.answer] at answered
        split at answered
        · cases answered
          exact refused mismatch
        · split at answered
          · cases answered
            exact refused mismatch
          · cases answered
            exact .parent workspace
    | parent workspace =>
      cases answer with
      | error message =>
        cases answered
        exact refused message
      | ok parent =>
        simp only [RoutedExecution.answer] at answered
        split at answered
        · cases answered
          exact refused mismatch
        · cases answered
          exact enter_sound execution somewhere
    | starting | running | advancing | returning => cases answered
  | started _ answer =>
    cases sound with
    | starting provider along here =>
      cases answer with
      | ok run =>
        cases answered
        exact .running provider run along here
      | error error =>
        cases answered
        exact afterFailure_sound along here rfl rfl rfl none none
    | workspace | parent | running | advancing | returning => cases answered
  | finished _ answer =>
    cases sound with
    | running provider run along here =>
      cases answer with
      | error error =>
        cases answered
        exact afterFailure_sound along here rfl rfl rfl none (some run)
      | ok result =>
        simp only [RoutedExecution.answer] at answered
        split at answered
        · cases answered
          exact .returning _ (some run) (answers_of_attempt along here rfl rfl fun _ => ⟨rfl, rfl⟩)
        · cases answered
          exact afterFailure_sound along here rfl rfl rfl (some result) (some run)
    | workspace | parent | starting | advancing | returning => cases answered
  | disposed _ =>
    cases sound with
    | advancing run along within =>
      cases answered
      exact loop_sound execution along within
    | returning position run answers =>
      cases answered
      intro other result same
      cases same
      exact answers
    | workspace | parent | starting | running => cases answered

end Along

/-! ## Routes that are not empty -/

/-- The executor that is asked for has a route of its own, or its name is not that of
something every object inherits. -/
def Routing.Proper (routing : Routing) (request : RoutedExecutorRequest) : Prop :=
  request.requestedExecutor.getD routing.defaultExecutor ∈ inheritedNames →
    (routing.routes.lookup (request.requestedExecutor.getD routing.defaultExecutor)).isSome = true

theorem Routing.routeOf_ne_nil {routing : Routing} {request : RoutedExecutorRequest}
    (proper : routing.Proper request) : routing.routeOf request ≠ [] := by
  unfold Routing.routeOf Routes.get
  unfold Routing.Proper at proper
  generalize request.requestedExecutor.getD routing.defaultExecutor = requested at proper ⊢
  cases found : routing.routes.lookup requested with
  | none =>
    rw [found] at proper
    dsimp only
    rw [if_neg fun inherited => Bool.false_ne_true (proper inherited)]
    simp
  | some route =>
    have listed := lookup_mem found
    have checked := routing.valid
    simp only [validateRouting, bind_ok, forM_ok] at checked
    obtain ⟨_, _, _, _, routes⟩ := checked
    have accepted := routes _ listed
    simp only [validateRoute, bind_ok, throwIf_ok] at accepted
    obtain ⟨_, _, _, shaped, _⟩ := accepted
    simpa using fun none => shaped (.inl none)

/-- The execution that a call answers. -/
def RouterCall.execution? : RouterCall → Option Nat
  | .authorized execution _ => some execution
  | .started execution _ => some execution
  | .finished execution _ => some execution
  | .disposed execution => some execution
  | _ => none

/-- The execution that a reply is about. -/
def RouterReply.execution? : RouterReply → Option Nat
  | .authorizing execution _ => some execution
  | .starting execution _ => some execution
  | .waiting execution _ => some execution
  | .disposing execution _ => some execution
  | .returned execution _ => some execution
  | .rejected execution _ => some execution
  | _ => none

/-- The run that an execution has and has not disposed. -/
def Phase.openRuns : Phase → List SubagentRun
  | .running _ _ _ run => [run]
  | .disposing _ run _ => run.toList
  | _ => []

def Progress.openRuns : Progress → List SubagentRun
  | .awaits _ phase => phase.openRuns
  | .ends _ => []

def Progress.reply : Progress → RouterReply
  | .awaits reply _ => reply
  | .ends reply => reply

/-- The runs that a reply obtains. -/
def RouterReply.obtained : RouterReply → List SubagentRun
  | .waiting _ run => [run]
  | _ => []

/-- The runs that a call has disposed, in a phase that answers it. -/
def RouterCall.released (phase : Phase) : RouterCall → List SubagentRun
  | .disposed _ => phase.openRuns
  | _ => []

namespace Router

variable {routing : Routing} {router next : Router} {call : RouterCall} {reply : RouterReply}
  {request : RoutedExecutorRequest}

/-! ## Steps -/

/-- What a request consumes. -/
def Authorizes (request : RoutedExecutorRequest) (router : Router) (issued : Suspension ExecutorRequest) : Prop :=
  (request.mode = .readOnly ∧ issued = router.issued) ∨ ∃ capability, request.authorization = some capability ∧
      router.issued.find? capability = some request.toExecutorRequest ∧ issued = router.issued.resume capability

/-- What a call does to the router. -/
inductive Stepped (routing : Routing) (router : Router) : RouterCall → RouterReply → Router → Prop where
  | still (call : RouterCall) (reply : RouterReply)
      (quiet : reply = .ignored ∨
        (call.execution? = none ∧ (reply = .issued none ∨ ∃ message, reply = .refused message))) :
      Stepped routing router call reply router
  | issued (request : ExecutorRequest) (write : request.mode ≠ .readOnly) :
      Stepped routing router (.issue request true) (.issued (some router.issued.next))
        { router with issued := router.issued.suspend request }
  | spent (request : RoutedExecutorRequest) (capability : Nat) (message : String) :
      Stepped routing router (.execute request) (.refused message)
        { router with issued := router.issued.resume capability }
  | admitted (request : RoutedExecutorRequest) (issued : Suspension ExecutorRequest)
      (idle : request.actionId ∉ router.active)
      (authorizes : Authorizes request router issued) :
      Stepped routing router (.execute request) (.authorizing router.next request.workspace)
        { active := request.actionId :: router.active
          issued := issued
          next := router.next + 1
          executions := Function.update router.executions router.next (some ⟨request, .workspace⟩) }
  | resumed (call : RouterCall) (execution : Nat) (waits : RoutedExecution) (progress : Progress)
      (named : call.execution? = some execution) (found : router.executions execution = some waits)
      (answered : waits.answer routing call execution = some progress) :
      Stepped routing router call (settle execution waits progress router).1 (settle execution waits progress router).2

theorem consume_ok {consumed : Router} {done : Unit}
    (accepted : consumeDurableExecutorAuthorization request.authorization request.toExecutorRequest router =
      (.ok done, consumed)) :
    ∃ issued, Authorizes request router issued ∧ consumed = { router with issued := issued } := by
  unfold consumeDurableExecutorAuthorization at accepted
  split at accepted
  · rename_i read
    cases accepted
    exact ⟨router.issued, .inl ⟨read, rfl⟩, rfl⟩
  · split at accepted
    · cases accepted
    · rename_i capability authorized
      dsimp only at accepted
      split at accepted
      · rename_i expected
        cases accepted
        exact ⟨_, .inr ⟨capability, authorized, expected, rfl⟩, rfl⟩
      · cases accepted

theorem consume_error {consumed : Router} {message : String}
    (refused : consumeDurableExecutorAuthorization request.authorization request.toExecutorRequest router =
      (.error message, consumed)) :
    consumed = router ∨ ∃ capability, consumed = { router with issued := router.issued.resume capability } := by
  unfold consumeDurableExecutorAuthorization at refused
  split at refused
  · cases refused
  · split at refused
    · cases refused
      exact .inl rfl
    · rename_i capability _
      dsimp only at refused
      split at refused
      · cases refused
      · cases refused
        exact .inr ⟨capability, rfl⟩

theorem execute_stepped (request : RoutedExecutorRequest) :
    Stepped routing router (.execute request) (execute request router).1 (execute request router).2 := by
  unfold execute
  split
  · exact .still _ _ (.inr ⟨rfl, .inr ⟨_, rfl⟩⟩)
  · rename_i idle
    split
    · rename_i message consumed refused
      rcases consume_error refused with rfl | ⟨capability, rfl⟩
      · exact .still _ _ (.inr ⟨rfl, .inr ⟨_, rfl⟩⟩)
      · exact .spent request capability message
    · rename_i consumed accepted
      obtain ⟨issued, authorizes, rfl⟩ := consume_ok accepted
      exact .admitted request issued idle authorizes

theorem resume_stepped (call : RouterCall) (execution : Nat) (named : call.execution? = some execution) :
    Stepped routing router call (resume routing call execution router).1 (resume routing call execution router).2 := by
  unfold resume
  split
  · exact .still _ _ (.inl rfl)
  · rename_i waits found
    split
    · exact .still _ _ (.inl rfl)
    · rename_i progress answered
      exact .resumed call execution waits progress named found answered

theorem perform_stepped (call : RouterCall) :
    Stepped routing router call (perform routing call router).1 (perform routing call router).2 := by
  cases call with
  | issue request approvalGranted =>
    simp only [perform, issueDurableExecutorAuthorization]
    split
    · exact .still _ _ (.inr ⟨rfl, .inl rfl⟩)
    · rename_i write
      split
      · exact .still _ _ (.inr ⟨rfl, .inr ⟨_, rfl⟩⟩)
      · rename_i granted
        obtain rfl : approvalGranted = true := by simpa using granted
        exact .issued request write
  | execute request => exact execute_stepped request
  | authorized execution answer | started execution answer | finished execution answer | disposed execution =>
    exact resume_stepped _ execution rfl

theorem step_stepped (transition : (machine routing).system.Step router (call, reply) next) :
    Stepped routing router call reply next := by
  have performed : perform routing call router = (reply, next) := transition
  have stepped : Stepped routing router call (perform routing call router).1 (perform routing call router).2 :=
    perform_stepped call
  rwa [performed] at stepped

/-! ## What a router keeps -/

/-- The label that admits an execution. -/
def admission (execution : Nat) (request : RoutedExecutorRequest) : RouterCall × RouterReply :=
  (.execute request, .authorizing execution request.workspace)

/-- The label that issues a capability. -/
def issuance (capability : Nat) (request : ExecutorRequest) : RouterCall × RouterReply :=
  (.issue request true, .issued (some capability))

/-- The executions of a router, with the labels of their admissions. -/
structure Executions (routing : Routing) (labels : List (RouterCall × RouterReply)) (router : Router) : Prop where
  admitted : ∀ execution waits, router.executions execution = some waits → admission execution waits.request ∈ labels
  numbered : ∀ execution request, admission execution request ∈ labels → execution < router.next
  single : ∀ execution request other, admission execution request ∈ labels →
    admission execution other ∈ labels → request = other
  sound : ∀ execution waits, router.executions execution = some waits →
    waits.phase.Sound (routing.routeOf waits.request)
  proper : ∀ execution waits, router.executions execution = some waits → routing.Proper waits.request
  busy : ∀ execution waits, router.executions execution = some waits → waits.request.actionId ∈ router.active
  exclusive : ∀ execution other waits others, router.executions execution = some waits →
    router.executions other = some others → waits.request.actionId = others.request.actionId → execution = other

/-- The capabilities of a router, with the labels that issued and consumed them. -/
structure Capabilities (labels : List (RouterCall × RouterReply)) (router : Router) : Prop where
  issued : ∀ capability request, router.issued.find? capability = some request → issuance capability request ∈ labels
  consumed : ∀ execution request, admission execution request ∈ labels → request.mode ≠ .readOnly →
    ∃ capability, request.authorization = some capability ∧ capability < router.issued.next ∧
      router.issued.find? capability = none ∧ issuance capability request.toExecutorRequest ∈ labels
  once : ∀ execution other request others, admission execution request ∈ labels →
    admission other others ∈ labels → request.mode ≠ .readOnly → others.mode ≠ .readOnly →
      request.authorization = others.authorization → execution = other

theorem answer_execute : waits.answer routing (.execute request) execution = none := by
  obtain ⟨_, phase⟩ := waits
  cases phase with
  | workspace | parent | starting | running | disposing => rfl

theorem answer_issue {request : ExecutorRequest} {granted : Bool} :
    waits.answer routing (.issue request granted) execution = none := by
  obtain ⟨_, phase⟩ := waits
  cases phase with
  | workspace | parent | starting | running | disposing => rfl

section Executions

variable {labels : List (RouterCall × RouterReply)} {label : RouterCall × RouterReply}

/-- What waits after a step was there before, up to its phase. -/
theorem Executions.carried (executions : Executions routing labels router)
    (admits : ∀ execution request, admission execution request ∈ labels ++ [label] →
      admission execution request ∈ labels) (number : next.next = router.next)
    (waited : ∀ execution waits, next.executions execution = some waits →
      (∃ before, router.executions execution = some before ∧ before.request = waits.request) ∧
        waits.phase.Sound (routing.routeOf waits.request) ∧ waits.request.actionId ∈ next.active) :
    Executions routing (labels ++ [label]) next where
  admitted execution waits found := by
    obtain ⟨⟨before, was, same⟩, _⟩ := waited execution waits found
    exact List.mem_append_left _ (same ▸ executions.admitted execution before was)
  numbered execution request listed := by
    rw [number]
    exact executions.numbered execution request (admits execution request listed)
  single execution request other listed again :=
    executions.single execution request other (admits execution request listed) (admits execution other again)
  sound execution waits found := (waited execution waits found).2.1
  proper execution waits found := by
    obtain ⟨⟨before, was, same⟩, _⟩ := waited execution waits found
    exact same ▸ executions.proper execution before was
  busy execution waits found := (waited execution waits found).2.2
  exclusive execution other waits others found there shared := by
    obtain ⟨⟨before, was, same⟩, _⟩ := waited execution waits found
    obtain ⟨⟨beside, stood, equal⟩, _⟩ := waited other others there
    exact executions.exclusive execution other before beside was stood (by rw [same, equal, shared])

theorem Executions.still (executions : Executions routing labels router)
    (admits : ∀ execution request, admission execution request ∈ labels ++ [label] →
      admission execution request ∈ labels) (issued : Suspension ExecutorRequest) :
    Executions routing (labels ++ [label]) { router with issued := issued } :=
  executions.carried admits rfl fun execution waits found =>
    ⟨⟨waits, found, rfl⟩, executions.sound execution waits found, executions.busy execution waits found⟩

theorem Executions.settled (executions : Executions routing labels router)
    (admits : ∀ execution request, admission execution request ∈ labels ++ [label] →
      admission execution request ∈ labels) (found : router.executions execution = some waits)
    (sound : progress.Sound (routing.routeOf waits.request)) :
    Executions routing (labels ++ [label]) (settle execution waits progress router).2 := by
  cases progress with
  | awaits reply phase =>
    refine executions.carried admits rfl fun other others there => ?_
    dsimp only [settle] at there ⊢
    by_cases same : other = execution
    · subst same
      rw [Function.update_self] at there
      cases there
      exact ⟨⟨waits, found, rfl⟩, sound, executions.busy other waits found⟩
    · rw [Function.update_of_ne same] at there
      exact ⟨⟨others, there, rfl⟩, executions.sound other others there, executions.busy other others there⟩
  | ends reply =>
    refine executions.carried admits rfl fun other others there => ?_
    dsimp only [settle] at there ⊢
    by_cases same : other = execution
    · subst same
      rw [Function.update_self] at there
      cases there
    · rw [Function.update_of_ne same] at there
      refine ⟨⟨others, there, rfl⟩, executions.sound other others there, ?_⟩
      have apart : others.request.actionId ≠ waits.request.actionId := fun shared =>
        same (executions.exclusive other execution others waits there found shared)
      exact List.mem_filter.mpr ⟨executions.busy other others there, by simpa using apart⟩

theorem mem_admitted {other : RoutedExecutorRequest}
    (listed : admission execution other ∈ labels ++ [admission router.next request]) :
    admission execution other ∈ labels ∨ (execution = router.next ∧ other = request) := by
  rcases List.mem_append.mp listed with earlier | last
  · exact .inl earlier
  · cases List.mem_singleton.mp last
    exact .inr ⟨rfl, rfl⟩

theorem Executions.admits (executions : Executions routing labels router)
    (proper : routing.Proper request) (idle : request.actionId ∉ router.active) (issued : Suspension ExecutorRequest) :
    Executions routing (labels ++ [admission router.next request])
      { active := request.actionId :: router.active
        issued := issued
        next := router.next + 1
        executions := Function.update router.executions router.next (some ⟨request, .workspace⟩) } := by
  have waited : ∀ execution waits,
      Function.update router.executions router.next (some ⟨request, .workspace⟩) execution = some waits →
      router.executions execution = some waits ∨ (execution = router.next ∧ waits = ⟨request, .workspace⟩) := by
    intro execution waits found
    by_cases same : execution = router.next
    · subst same
      rw [Function.update_self] at found
      exact .inr ⟨rfl, (Option.some.inj found).symm⟩
    · rw [Function.update_of_ne same] at found
      exact .inl found
  have alone : ∀ execution waits, router.executions execution = some waits →
      waits.request.actionId ≠ request.actionId := by
    intro execution waits found shared
    exact idle (shared ▸ executions.busy execution waits found)
  constructor
  case admitted =>
    intro execution waits found
    rcases waited execution waits found with before | ⟨rfl, rfl⟩
    · exact List.mem_append_left _ (executions.admitted execution waits before)
    · exact List.mem_append_right _ (List.mem_singleton.mpr rfl)
  case numbered =>
    intro execution other listed
    rcases mem_admitted listed with earlier | ⟨rfl, _⟩
    · exact Nat.lt_succ_of_lt (executions.numbered execution other earlier)
    · exact Nat.lt_succ_self _
  case single =>
    intro execution first second listed again
    rcases mem_admitted listed with earlier | ⟨rfl, rfl⟩
    · rcases mem_admitted again with before | ⟨rfl, rfl⟩
      · exact executions.single execution first second earlier before
      · exact absurd (executions.numbered _ first earlier) (Nat.lt_irrefl _)
    · rcases mem_admitted again with before | ⟨_, rfl⟩
      · exact absurd (executions.numbered _ second before) (Nat.lt_irrefl _)
      · rfl
  case sound =>
    intro execution waits found
    rcases waited execution waits found with before | ⟨rfl, rfl⟩
    · exact executions.sound execution waits before
    · exact .workspace
  case proper =>
    intro execution waits found
    rcases waited execution waits found with before | ⟨rfl, rfl⟩
    · exact executions.proper execution waits before
    · exact proper
  case busy =>
    intro execution waits found
    rcases waited execution waits found with before | ⟨rfl, rfl⟩
    · exact List.mem_cons_of_mem _ (executions.busy execution waits before)
    · exact List.mem_cons_self
  case exclusive =>
    intro execution other waits others found there shared
    rcases waited execution waits found with before | ⟨rfl, rfl⟩
    · rcases waited other others there with beside | ⟨rfl, rfl⟩
      · exact executions.exclusive execution other waits others before beside shared
      · exact absurd shared (alone execution waits before)
    · rcases waited other others there with beside | ⟨rfl, _⟩
      · exact absurd shared.symm (alone other others beside)
      · rfl

/-- The requests that a step admits are proper. -/
def meetsProper (routing : Routing) (_ : Router) (entry : RouterCall × RouterReply) : Prop :=
  ∀ request, entry.1 = .execute request → routing.Proper request

theorem unadmitted (none : ∀ execution request, (call, reply) ≠ admission execution request) :
    ∀ execution request, admission execution request ∈ labels ++ [(call, reply)] →
      admission execution request ∈ labels := by
  intro execution request listed
  rcases List.mem_append.mp listed with earlier | last
  · exact earlier
  · exact absurd (List.mem_singleton.mp last).symm (none execution request)

theorem quiet_unadmitted (quiet : reply = .ignored ∨
      (call.execution? = none ∧ (reply = .issued none ∨ ∃ message, reply = .refused message)))
    (execution : Nat) (request : RoutedExecutorRequest) : (call, reply) ≠ admission execution request := by
  intro same
  obtain ⟨_, rfl⟩ := Prod.mk.inj same
  simp at quiet

theorem answered_unadmitted {resumed : Nat} (answered : waits.answer routing call resumed = some progress)
    (execution : Nat) (request : RoutedExecutorRequest) : (call, reply) ≠ admission execution request := by
  intro same
  obtain ⟨rfl, _⟩ := Prod.mk.inj same
  rw [answer_execute] at answered
  cases answered

theorem executions_step (executions : Executions routing labels router)
    (stepped : Stepped routing router call reply next) (proper : meetsProper routing router (call, reply)) :
    Executions routing (labels ++ [(call, reply)]) next := by
  cases stepped with
  | still call reply quiet => exact executions.still (unadmitted (quiet_unadmitted quiet)) router.issued
  | issued | spent => exact executions.still (unadmitted fun _ _ same => by cases same) _
  | admitted request issued idle authorizes => exact executions.admits (proper request rfl) idle issued
  | resumed call execution waits progress named found answered =>
    refine executions.settled (unadmitted (answered_unadmitted answered)) found ?_
    exact answer_sound (Routing.routeOf_ne_nil (executions.proper execution waits found))
      (executions.sound execution waits found) answered

theorem settle_issued (execution : Nat) (waits : RoutedExecution) (progress : Progress) :
    (settle execution waits progress router).2.issued = router.issued := by
  cases progress with
  | awaits | ends => rfl

/-- Without an admission the capabilities stay as they are, or fewer are left. -/
theorem Capabilities.carried (capabilities : Capabilities labels router)
    (admits : ∀ execution request, admission execution request ∈ labels ++ [label] →
      admission execution request ∈ labels) (number : router.issued.next ≤ next.issued.next)
    (fewer : ∀ capability request, next.issued.find? capability = some request →
      router.issued.find? capability = some request ∨
        (capability = router.issued.next ∧ label = issuance capability request)) :
    Capabilities (labels ++ [label]) next where
  issued capability request found := by
    rcases fewer capability request found with before | ⟨_, rfl⟩
    · exact List.mem_append_left _ (capabilities.issued capability request before)
    · exact List.mem_append_right _ (List.mem_singleton.mpr rfl)
  consumed execution request listed write := by
    obtain ⟨capability, authorized, old, gone, given⟩ :=
      capabilities.consumed execution request (admits execution request listed) write
    refine ⟨capability, authorized, Nat.lt_of_lt_of_le old number, ?_, List.mem_append_left _ given⟩
    cases found : next.issued.find? capability with
    | none => rfl
    | some other =>
      rcases fewer capability other found with before | ⟨rfl, _⟩
      · rw [gone] at before
        cases before
      · exact absurd old (Nat.lt_irrefl _)
  once execution other request others listed beside :=
    capabilities.once execution other request others (admits execution request listed) (admits other others beside)

theorem find?_resumed {calls : Suspension ExecutorRequest} {taken capability : Nat} {request : ExecutorRequest}
    (found : (calls.resume taken).find? capability = some request) : calls.find? capability = some request := by
  rw [Suspension.find?_resume] at found
  split at found
  · cases found
  · exact found

theorem Capabilities.admits (capabilities : Capabilities labels router)
    {issued : Suspension ExecutorRequest} (authorizes : Authorizes request router issued)
    (same : next.issued = issued) : Capabilities (labels ++ [admission router.next request]) next := by
  have fewer : ∀ capability other, next.issued.find? capability = some other →
      router.issued.find? capability = some other := by
    intro capability other found
    rw [same] at found
    rcases authorizes with ⟨_, rfl⟩ | ⟨taken, _, _, rfl⟩
    · exact found
    · exact find?_resumed found
  have number : next.issued.next = router.issued.next := by
    rw [same]
    rcases authorizes with ⟨_, rfl⟩ | ⟨taken, _, _, rfl⟩
    · rfl
    · rfl
  have gone : ∀ capability, router.issued.find? capability = none → next.issued.find? capability = none := by
    intro capability none
    cases found : next.issued.find? capability with
    | none => rfl
    | some other => rw [fewer capability other found] at none; cases none
  -- An older write with the same capability has consumed it before.
  have fresh : ∀ execution other, admission execution other ∈ labels → other.mode ≠ .readOnly →
      request.mode ≠ .readOnly → other.authorization ≠ request.authorization := by
    intro execution other listed write writes shared
    obtain ⟨capability, authorized, _, none, _⟩ := capabilities.consumed execution other listed write
    rcases authorizes with ⟨read, _⟩ | ⟨taken, held, found, _⟩
    · exact writes read
    · obtain rfl : capability = taken := Option.some.inj (authorized.symm.trans (shared.trans held))
      rw [none] at found
      cases found
  constructor
  case issued =>
    intro capability other found
    exact List.mem_append_left _ (capabilities.issued capability other (fewer capability other found))
  case consumed =>
    intro execution other listed write
    rcases mem_admitted listed with earlier | ⟨rfl, rfl⟩
    · obtain ⟨capability, authorized, old, none, given⟩ := capabilities.consumed execution other earlier write
      exact ⟨capability, authorized, number ▸ old, gone capability none, List.mem_append_left _ given⟩
    · rcases authorizes with ⟨read, _⟩ | ⟨taken, held, found, rfl⟩
      · exact absurd read write
      · refine ⟨taken, held, number ▸ Suspension.find?_lt found, ?_,
          List.mem_append_left _ (capabilities.issued taken _ found)⟩
        rw [same, Suspension.find?_resume, if_pos rfl]
  case once =>
    intro execution other first second listed beside write writes shared
    rcases mem_admitted listed with earlier | ⟨rfl, rfl⟩
    · rcases mem_admitted beside with before | ⟨rfl, rfl⟩
      · exact capabilities.once execution other first second earlier before write writes shared
      · exact absurd shared (fresh execution first earlier write writes)
    · rcases mem_admitted beside with before | ⟨rfl, _⟩
      · exact absurd shared.symm (fresh other second before writes write)
      · rfl

theorem capabilities_step (capabilities : Capabilities labels router)
    (stepped : Stepped routing router call reply next) : Capabilities (labels ++ [(call, reply)]) next := by
  cases stepped with
  | still call reply quiet =>
    exact capabilities.carried (unadmitted (quiet_unadmitted quiet)) (Nat.le_refl _) fun _ _ => .inl
  | issued request write =>
    refine capabilities.carried (unadmitted fun _ _ same => by cases same) (Nat.le_succ _) ?_
    intro capability other found
    rw [Suspension.find?_suspend] at found
    split at found
    · rename_i last
      cases found
      exact .inr ⟨last, by rw [last]; rfl⟩
    · exact .inl found
  | spent request capability message =>
    exact capabilities.carried (unadmitted fun _ _ same => by cases same) (Nat.le_refl _) fun _ _ found =>
      .inl (find?_resumed found)
  | admitted request issued idle authorizes => exact capabilities.admits authorizes rfl
  | resumed call execution waits progress named found answered =>
    have same : (settle execution waits progress router).2.issued = router.issued :=
      settle_issued execution waits progress
    refine capabilities.carried (unadmitted (answered_unadmitted answered)) (by rw [same]) ?_
    intro capability other there
    rw [same] at there
    exact .inl there

end Executions

/-! ## Runs of providers -/

/-- A start asks the provider of the mode for what the request says. -/
structure Starts (routing : Routing) (request : RoutedExecutorRequest) (start : StartRequest) : Prop where
  named : ∃ executor names, routing.providers.get (keyOf executor) = some names ∧
    start.provider = if request.mode = .readOnly then names.readOnly else names.write
  prompt : start.prompt = [.text request.prompt]
  label : start.label = request.title

/-- How an answer changes the open run, and what the reply is about. -/
structure Balanced (routing : Routing) (call : RouterCall) (execution : Nat) (waits : RoutedExecution)
    (progress : Progress) : Prop where
  about : progress.reply.execution? = some execution
  runs : waits.phase.openRuns ++ progress.reply.obtained = call.released waits.phase ++ progress.openRuns
  starts : ∀ other start, progress.reply = .starting other start →
    progress.openRuns = [] ∧ Starts routing waits.request start
  ended : ∀ other result, progress.reply = .returned other result → progress = .ends progress.reply

/-- What the loop goes on with, where no run is open. -/
structure Goes (routing : Routing) (request : RoutedExecutorRequest) (execution : Nat) (progress : Progress) : Prop where
  about : progress.reply.execution? = some execution
  obtained : progress.reply.obtained = []
  openRuns : progress.openRuns = []
  starts : ∀ other start, progress.reply = .starting other start → Starts routing request start
  ended : ∀ other result, progress.reply = .returned other result → progress = .ends progress.reply

theorem loop_goes (request : RoutedExecutorRequest) (position : Position) (execution : Nat) :
    Goes routing request execution (loop routing execution request position) := by
  unfold loop
  split
  · exact ⟨rfl, rfl, rfl, nofun, fun _ _ _ => rfl⟩
  · rename_i executor _
    split
    · exact ⟨rfl, rfl, rfl, nofun, nofun⟩
    · rename_i names found
      refine ⟨rfl, rfl, rfl, ?_, nofun⟩
      intro other start same
      cases same
      exact ⟨⟨executor, names, found, rfl⟩, rfl, rfl⟩

theorem enter_goes (request : RoutedExecutorRequest) (execution : Nat) :
    Goes routing request execution (enter routing execution request) := by
  unfold enter
  dsimp only
  split
  · exact ⟨rfl, rfl, rfl, nofun, nofun⟩
  · exact loop_goes request _ execution

theorem answer_balanced (answered : waits.answer routing call execution = some progress) :
    Balanced routing call execution waits progress := by
  obtain ⟨request, phase⟩ := waits
  cases call with
  | issue _ _ => exact absurd answered (by simp [answer_issue])
  | execute _ => exact absurd answered (by simp [answer_execute])
  | authorized _ answer =>
    cases phase with
    | workspace =>
      cases answer with
      | error message =>
        cases answered
        exact ⟨rfl, rfl, nofun, nofun⟩
      | ok workspace =>
        simp only [RoutedExecution.answer] at answered
        split at answered
        · cases answered
          exact ⟨rfl, rfl, nofun, nofun⟩
        · split at answered
          all_goals
            cases answered
            exact ⟨rfl, rfl, nofun, nofun⟩
    | parent workspace =>
      cases answer with
      | error message =>
        cases answered
        exact ⟨rfl, rfl, nofun, nofun⟩
      | ok parent =>
        simp only [RoutedExecution.answer] at answered
        split at answered
        · cases answered
          exact ⟨rfl, rfl, nofun, nofun⟩
        · cases answered
          have goes : Goes routing request execution (enter routing execution request) := enter_goes request execution
          refine ⟨goes.about, ?_, fun other start said => ⟨goes.openRuns, goes.starts other start said⟩, goes.ended⟩
          rw [goes.obtained, goes.openRuns]
          rfl
    | starting | running | disposing => cases answered
  | started _ answer =>
    cases phase with
    | starting position executor provider =>
      cases answer with
      | ok | error =>
        cases answered
        exact ⟨rfl, rfl, nofun, nofun⟩
    | workspace | parent | running | disposing => cases answered
  | finished _ answer =>
    cases phase with
    | running position executor provider run =>
      cases answer with
      | error error =>
        cases answered
        exact ⟨rfl, rfl, nofun, nofun⟩
      | ok result =>
        simp only [RoutedExecution.answer] at answered
        split at answered
        all_goals
          cases answered
          exact ⟨rfl, rfl, nofun, nofun⟩
    | workspace | parent | starting | disposing => cases answered
  | disposed _ =>
    cases phase with
    | disposing position run ending =>
      cases ending with
      | result result =>
        cases answered
        exact ⟨rfl, rfl, nofun, fun _ _ _ => rfl⟩
      | advance =>
        cases answered
        have goes : Goes routing request execution
            (loop routing execution request { position with index := position.index + 1 }) := loop_goes request _ execution
        refine ⟨goes.about, ?_, fun other start said => ⟨goes.openRuns, goes.starts other start said⟩, goes.ended⟩
        rw [goes.obtained, goes.openRuns]
        rfl
    | workspace | parent | starting | running => cases answered

/-- The runs that an execution obtains by a step. -/
def obtains (execution : Nat) (_ : Router) (entry : RouterCall × RouterReply) : List SubagentRun :=
  if entry.2.execution? = some execution then entry.2.obtained else []

/-- The runs of an execution whose disposal a step completes. -/
def releases (execution : Nat) (router : Router) (entry : RouterCall × RouterReply) : List SubagentRun :=
  match router.executions execution with
  | none => []
  | some waits => if entry.1.execution? = some execution ∧ entry.2 ≠ .ignored then entry.1.released waits.phase else []

def openOf (execution : Nat) (router : Router) : List SubagentRun :=
  ((router.executions execution).map fun waits => waits.phase.openRuns).getD []

theorem obtains_unnamed (silent : reply.execution? = none) : obtains execution router (call, reply) = [] := by
  rw [obtains, silent, if_neg fun taken => by cases taken]

theorem releases_idle (idle : ¬ (call.execution? = some execution ∧ reply ≠ .ignored)) :
    releases execution router (call, reply) = [] := by
  unfold releases
  split
  · rfl
  · rw [if_neg idle]

theorem settle_reply (execution : Nat) (waits : RoutedExecution) (progress : Progress) :
    (settle execution waits progress router).1 = progress.reply := by
  cases progress with
  | awaits | ends => rfl

theorem openOf_settle (execution : Nat) (waits : RoutedExecution) (progress : Progress) :
    openOf execution (settle execution waits progress router).2 = progress.openRuns := by
  cases progress with
  | awaits | ends => simp [openOf, settle, Progress.openRuns]

theorem runs_step (stepped : Stepped routing router call reply next)
    (numbered : ∀ waits, router.executions execution = some waits → execution < router.next) :
    openOf execution router ++ obtains execution router (call, reply) =
      releases execution router (call, reply) ++ openOf execution next := by
  cases stepped with
  | still call reply quiet =>
    have silent : reply.execution? = none := by
      rcases quiet with rfl | ⟨_, rfl | ⟨message, rfl⟩⟩
      · rfl
      · rfl
      · rfl
    have idle : ¬ (call.execution? = some execution ∧ reply ≠ .ignored) := by
      rcases quiet with ignored | ⟨unnamed, _⟩
      · exact fun taken => taken.2 ignored
      · rw [unnamed]
        exact fun taken => by cases taken.1
    rw [obtains_unnamed silent, releases_idle idle]
    simp
  | issued | spent =>
    rw [obtains_unnamed rfl, releases_idle fun taken => by cases taken.1]
    exact List.append_nil _
  | admitted request issued idle authorizes =>
    rw [releases_idle fun taken => by cases taken.1]
    have none : obtains execution router (.execute request, .authorizing router.next request.workspace) = [] := by
      simp [obtains, RouterReply.obtained]
    rw [none]
    by_cases same : execution = router.next
    · subst same
      have absent : router.executions router.next = Option.none :=
        Option.eq_none_iff_forall_not_mem.mpr fun waits found => Nat.lt_irrefl _ (numbered waits found)
      simp [openOf, absent, Phase.openRuns]
    · simp [openOf, Function.update_of_ne same]
  | resumed call other waits progress named found answered =>
    have balanced := answer_balanced answered
    by_cases same : execution = other
    · subst same
      have heard : progress.reply ≠ .ignored := by
        intro ignored
        have about := balanced.about
        rw [ignored] at about
        cases about
      have before : openOf execution router = waits.phase.openRuns := by simp [openOf, found]
      rw [openOf_settle, before, settle_reply, obtains, releases, found]
      dsimp only
      rw [if_pos balanced.about, if_pos ⟨named, heard⟩]
      exact balanced.runs
    · have unheard : obtains execution router (call, (settle other waits progress router).1) = [] := by
        rw [settle_reply, obtains, if_neg]
        rw [balanced.about]
        exact fun shared => same (Option.some.inj shared).symm
      have kept : openOf execution (settle other waits progress router).2 = openOf execution router := by
        cases progress with
        | awaits | ends => simp [openOf, settle, Function.update_of_ne same]
      rw [unheard, kept, releases_idle, List.append_nil, List.nil_append]
      rw [named]
      exact fun taken => same (Option.some.inj taken.1).symm

/-! ## Whole runs -/

/-- What holds after the labels of a run. -/
structure Kept (routing : Routing) (labels : List (RouterCall × RouterReply)) (router : Router) : Prop where
  executions : Executions routing labels router
  capabilities : Capabilities labels router
  runs : ∀ execution, (machine routing).seen (obtains execution) labels =
    (machine routing).seen (releases execution) labels ++ openOf execution router
  answered : ∀ call execution result, (call, .returned execution result) ∈ labels →
    ∃ request, admission execution request ∈ labels ∧ Answers (routing.routeOf request) result

theorem executions_initial : Executions routing [] initial := by
  have absent : ∀ execution waits, initial.executions execution ≠ some waits := by
    intro execution waits found
    cases found
  constructor
  case admitted => exact fun execution waits found => absurd found (absent execution waits)
  case numbered => exact fun execution request listed => absurd listed List.not_mem_nil
  case single => exact fun execution request other listed => absurd listed List.not_mem_nil
  case sound => exact fun execution waits found => absurd found (absent execution waits)
  case proper => exact fun execution waits found => absurd found (absent execution waits)
  case busy => exact fun execution waits found => absurd found (absent execution waits)
  case exclusive => exact fun execution other waits others found => absurd found (absent execution waits)

theorem capabilities_initial : Capabilities [] initial := by
  constructor
  case issued =>
    intro capability request found
    cases found
  case consumed => exact fun execution request listed => absurd listed List.not_mem_nil
  case once => exact fun execution other request others listed => absurd listed List.not_mem_nil

theorem kept_initial : Kept routing [] initial where
  executions := executions_initial
  capabilities := capabilities_initial
  runs _ := rfl
  answered _ _ _ listed := absurd listed List.not_mem_nil

/-- What is returned went along the route that its request asked for. -/
theorem returned_step {labels : List (RouterCall × RouterReply)} (executions : Executions routing labels router)
    (stepped : Stepped routing router call (.returned execution result) next) :
    ∃ request, admission execution request ∈ labels ∧ Answers (routing.routeOf request) result := by
  generalize said : RouterReply.returned execution result = reply at stepped
  cases stepped with
  | still call reply quiet => simp [← said] at quiet
  | issued | spent | admitted => cases said
  | resumed call other waits progress named found answered =>
    have balanced := answer_balanced answered
    have sound := answer_sound (Routing.routeOf_ne_nil (executions.proper other waits found))
      (executions.sound other waits found) answered
    rw [settle_reply] at said
    have about := balanced.about
    have ends := balanced.ended execution result said.symm
    rw [← said] at about ends
    obtain rfl : execution = other := Option.some.inj about
    rw [ends] at sound
    exact ⟨waits.request, executions.admitted execution waits found, sound execution result rfl⟩

theorem run_kept {labels : List (RouterCall × RouterReply)}
    (run : ((machine routing).system.restricted (meetsProper routing)).Run labels router) :
    Kept routing labels router := by
  have kept := run.history (motive := fun labels router =>
    (machine routing).system.Run labels router ∧ Kept routing labels router) ?_ ?_
  · exact kept.2
  · intro start valid
    cases valid
    exact ⟨.initial rfl, kept_initial⟩
  · rintro labels ⟨call, reply⟩ before after _ ⟨prior, kept⟩ ⟨transition, proper⟩
    have stepped := step_stepped transition
    refine ⟨prior.step transition, ?_⟩
    constructor
    case executions => exact executions_step kept.executions stepped proper
    case capabilities => exact capabilities_step kept.capabilities stepped
    case runs =>
      intro execution
      have balance := @runs_step execution _ _ _ _ _ stepped fun waits found =>
        kept.executions.numbered execution waits.request (kept.executions.admitted execution waits found)
      rw [Machine.seen_step prior, Machine.seen_step prior, kept.runs execution, List.append_assoc, balance,
        List.append_assoc]
    case answered =>
      intro caller execution result listed
      rcases List.mem_append.mp listed with earlier | last
      · obtain ⟨request, admits, answers⟩ := kept.answered caller execution result earlier
        exact ⟨request, List.mem_append_left _ admits, answers⟩
      · obtain ⟨_, rfl⟩ := Prod.mk.inj (List.mem_singleton.mp last)
        obtain ⟨request, admits, answers⟩ := returned_step kept.executions stepped
        exact ⟨request, List.mem_append_left _ admits, answers⟩

/-- The provider that a step starts is asked for what an admitted request says. -/
theorem starting_step {labels : List (RouterCall × RouterReply)} {start : StartRequest}
    (executions : Executions routing labels router)
    (stepped : Stepped routing router call (.starting execution start) next) : openOf execution next = [] ∧
      ∃ request, admission execution request ∈ labels ∧ Starts routing request start := by
  generalize said : RouterReply.starting execution start = reply at stepped
  cases stepped with
  | still call reply quiet => simp [← said] at quiet
  | issued | spent | admitted => cases said
  | resumed call other waits progress named found answered =>
    have balanced := answer_balanced answered
    rw [settle_reply] at said
    have about := balanced.about
    rw [← said] at about
    obtain rfl : execution = other := Option.some.inj about
    obtain ⟨closed, starts⟩ := balanced.starts execution start said.symm
    refine ⟨?_, waits.request, executions.admitted execution waits found, starts⟩
    rw [openOf_settle]
    exact closed

/-- In runs whose requests are proper the router keeps its discipline: results tell attempts
along the route, runs are disposed before the next provider starts, executions of one action
do not overlap, and a write is started on its own capability. -/
theorem router_disciplined {labels : List (RouterCall × RouterReply)}
    (run : ((machine routing).system.restricted (meetsProper routing)).Run labels router) :
    (∀ call execution result, (call, .returned execution result) ∈ labels →
      ∃ request, admission execution request ∈ labels ∧ Answers (routing.routeOf request) result) ∧
    (∀ before call execution start after, labels = before ++ (call, .starting execution start) :: after →
      (machine routing).seen (obtains execution) (before ++ [(call, .starting execution start)]) =
        (machine routing).seen (releases execution) (before ++ [(call, .starting execution start)])) ∧
    (∀ execution other waits others, router.executions execution = some waits →
      router.executions other = some others → waits.request.actionId = others.request.actionId → execution = other) ∧
    (∀ before call execution start after, labels = before ++ (call, .starting execution start) :: after →
      ∃ request, admission execution request ∈ before ∧ Starts routing request start ∧
        (request.mode ≠ .readOnly → ∃ capability, request.authorization = some capability ∧
          issuance capability request.toExecutorRequest ∈ before ∧
          ∀ other others, admission other others ∈ labels → others.mode ≠ .readOnly →
            others.authorization = some capability → other = execution)) := by
  have kept := run_kept run
  refine ⟨kept.answered, ?_, kept.executions.exclusive, ?_⟩
  · rintro before call execution start after rfl
    obtain ⟨prior, next, reached, ⟨transition, proper⟩, _⟩ := run.cut
    have closed := (starting_step (run_kept reached).executions (step_stepped transition)).1
    have balance := (run_kept (reached.step ⟨transition, proper⟩)).runs execution
    rwa [closed, List.append_nil] at balance
  · rintro before call execution start after rfl
    obtain ⟨prior, next, reached, ⟨transition, _⟩, _⟩ := run.cut
    have earlier := run_kept reached
    obtain ⟨_, request, admits, starts⟩ := starting_step earlier.executions (step_stepped transition)
    refine ⟨request, admits, starts, fun write => ?_⟩
    obtain ⟨capability, authorized, _, _, given⟩ := earlier.capabilities.consumed execution request admits write
    refine ⟨capability, authorized, given, ?_⟩
    intro other others listed writes shared
    exact kept.capabilities.once other execution others request listed (List.mem_append_left _ admits) writes write
      (shared.trans authorized.symm)

/-! ## A write that falls back, and an executor that every object inherits -/

instance (routing : Routing) (request : RoutedExecutorRequest) : Decidable (routing.Proper request) :=
  inferInstanceAs (Decidable (_ → _))

instance decidableMeetsProper (routing : Routing) (router : Router) (entry : RouterCall × RouterReply) :
    Decidable (meetsProper routing router entry) :=
  match entry with
  | (.execute request, _) =>
    decidable_of_iff (routing.Proper request) ⟨fun proper _ same => by cases same; exact proper, fun all => all request rfl⟩
  | (.issue _ _, _) => .isTrue fun _ same => by cases same
  | (.authorized _ _, _) => .isTrue fun _ same => by cases same
  | (.started _ _, _) => .isTrue fun _ same => by cases same
  | (.finished _ _, _) => .isTrue fun _ same => by cases same
  | (.disposed _, _) => .isTrue fun _ same => by cases same

def sampleRouting : Routing where
  providers :=
    [("claude-code", ⟨"quark-claude-code-read", "quark-claude-code-write"⟩), ("codex", ⟨"quark-codex-read", "quark-codex-write"⟩)]
  routes := [("claude-code", ["claude-code", "codex"]), ("codex", ["codex"])]
  defaultExecutor := "claude-code"
  valid := by rfl

def sampleRequest : RoutedExecutorRequest where
  actionId := "action-1"
  title := "fixture"
  prompt := "perform the fixture"
  workspace := "/work"
  mode := .workspaceWrite
  parent := some "/work"
  requestedExecutor := none
  authorization := some 0

/-- The first provider of a write times out, and the second one completes it. -/
def fallbackCalls : List RouterCall :=
  [.issue sampleRequest.toExecutorRequest true, .execute sampleRequest, .authorized 0 (.ok "/work"),
    .authorized 0 (.ok "/work"), .started 0 (.error "connection timeout"), .disposed 0, .started 0 (.ok ⟨"session-1"⟩),
    .finished 0 (.ok ⟨"completed", none, [.text "done"]⟩), .disposed 0]

def fallbackResult : RoutedExecutorResult where
  actionId := "action-1"
  executor := some "codex"
  status := .completed
  summary := "done"
  sessionId := some "session-1"
  attempts :=
    [⟨some "claude-code", some "quark-claude-code-write", .failed, some .start, some "connection timeout"⟩,
      ⟨some "codex", some "quark-codex-write", .completed, none, none⟩]
  output := [.text "done"]

theorem fallback_answers : ∃ request, admission 0 request ∈ ((machine sampleRouting).replay fallbackCalls initial).1 ∧
      Answers (sampleRouting.routeOf request) fallbackResult :=
  (router_disciplined (@Machine.replay_restricted _ _ _ (machine sampleRouting) (meetsProper sampleRouting) _
    fallbackCalls (by decide))).1 (.disposed 0) 0 fallbackResult
      (List.mem_of_getElem? (i := 8) (by decide +kernel))

def inheritedRequest : RoutedExecutorRequest :=
  { sampleRequest with mode := .readOnly, requestedExecutor := some "toString", authorization := none }

def inheritedCalls : List RouterCall :=
  [.execute inheritedRequest, .authorized 0 (.ok "/work"), .authorized 0 (.ok "/work")]

/-- For an executor that is not registered, but whose name every object inherits, nothing is
tried, and a result is returned all the same. -/
theorem inherited_untried : ¬ ∀ (routing : Routing) (labels : List (RouterCall × RouterReply)) (router : Router),
      (machine routing).system.Run labels router →
        ∀ call execution result, (call, .returned execution result) ∈ labels → result.attempts ≠ [] := by
  intro claimed
  have tried := claimed sampleRouting _ _ ((machine sampleRouting).replay_run inheritedCalls)
    (.authorized 0 (.ok "/work")) 0 (failed inheritedRequest (some "toString") [] none)
    (List.mem_of_getElem? (i := 2) rfl)
  exact tried rfl

end Router

end QuarkSelfAI.Execution

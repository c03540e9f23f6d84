import QuarkSelfAI.BridgeCompat.Drain

/-!
# A finished job is delivered

A job whose runner has returned keeps its result until that was sent, if the result is not empty
and the save after it does not fail in a way that counts as a failure of the execution. The index
of a drain stands for its job all along, since jobs are only pushed.
-/

namespace QuarkSelfAI.BridgeCompat

open Foundation

abbrev DrainTrace := List (DrainCall × DrainReply)

def jobEvents (labels : DrainTrace) : List JobEvent := labels.flatMap fun label => label.2.events

theorem jobEvents_snoc (labels : DrainTrace) (label : DrainCall × DrainReply) :
    jobEvents (labels ++ [label]) = jobEvents labels ++ label.2.events := by
  simp [jobEvents]

namespace SessionQueue

variable {options : SessionOptions} {jobs : List SessionJob} {history : List ExecutionRecord}
  {world before after : SessionQueue} {call : DrainCall} {reply : DrainReply} {labels : DrainTrace}
  {events : List JobEvent} {moment : DrainMoment} {outcome : Except SessionError Unit}

/-- The drain will use an index again. -/
def About (index ref : Nat) (draining : Option DrainPhase) : Prop :=
  draining = some (.delivering index ref) ∨ draining = some (.executing index ref) ∨
    draining = some (.storing index ref)

/-- The runner returns a result with something in it, and an error of the save after it is one
that counts as transient. -/
def Settles (world : SessionQueue) (label : DrainCall × DrainReply) : Prop :=
  match label.1, world.draining with
  | .executed (.ok final) _ _, some (.executing ..) => final.any (· ≠ "") = true
  | .saved (.error error) _, some (.storing ..) => error.busy = true ∨ error.isRetryableSessionError = true
  | _, _ => True

instance (world : SessionQueue) (label : DrainCall × DrainReply) : Decidable (Settles world label) := by
  unfold Settles
  split <;> infer_instance

/-- The results that jobs have. -/
def results (items : List SessionJob) : List (Option String) := items.map SessionJob.finalResult

/-- What a step does, where what the runner returns is settled. -/
inductive Effect (world : SessionQueue) : List JobEvent → SessionQueue → Prop where
  | accepts (job : SessionJob) :
      Effect world [] { world with items := world.items ++ [job], queue := world.queue ++ [world.items.length] }
  | moves (items : List SessionJob) (draining : Option DrainPhase) (same : results items = results world.items)
      (goes : draining = world.draining ∨ ∀ index ref, About index ref draining →
        draining = some (.delivering index ref) ∧ world.queue[index]? = some ref) :
      Effect world [] { world with items := items, draining := draining }
  | executes (items : List SessionJob) {index ref : Nat} (same : results items = results world.items)
      (placed : world.queue[index]? = some ref) (unfinished : items[ref]?.any SessionJob.hasResult = false) :
      Effect world [.executed ref] { world with items := items, draining := some (.executing index ref) }
  | returns {index ref : Nat} {final : Option String} (executor : Option String)
      (executing : world.draining = some (.executing index ref)) (filled : final.any (· ≠ "") = true) :
      Effect world [.returned ref]
        ((world.edit ref (SessionJob.returned final executor)).await (.storing index ref))
  | delivers {index ref : Nat} (records : List ExecutionRecord)
      (delivering : world.draining = some (.delivering index ref)) :
      Effect world (.sent ref :: .recorded ref .completed :: (world.queue[index]?.map JobEvent.removed).toList)
        { world with
          queue := world.queue.eraseIdx index, history := records, draining := some (.delivered ref) }
  | fails {index ref : Nat} (items : List SessionJob) (records : List ExecutionRecord) (error : String)
      (executing : world.draining = some (.executing index ref)) (same : results items = results world.items) :
      Effect world (.recorded ref .failed :: (world.queue[index]?.map JobEvent.removed).toList)
        { world with
          items := items, queue := world.queue.eraseIdx index, history := records
          draining := some (.failedSaving ref error) }

theorem Effect.still : Effect world [] world := .moves world.items world.draining rfl (.inl rfl)

/-- The drain goes on to a phase that does not use an index again. -/
theorem Effect.leaves (items : List SessionJob) (draining : Option DrainPhase)
    (same : results items = results world.items) (leaves : ∀ index ref, ¬ About index ref draining) :
    Effect world [] { world with items := items, draining := draining } :=
  .moves items draining same (.inr fun index ref about => absurd about (leaves index ref))

theorem results_modify {items : List SessionJob} {ref : Nat} {change : SessionJob → SessionJob}
    (keeps : ∀ job, (change job).finalResult = job.finalResult) : results (items.modify ref change) = results items := by
  apply List.ext_getElem?
  intro place
  rw [results, results, List.getElem?_map, List.getElem?_map, List.getElem?_modify]
  cases items[place]? with
  | none => rfl
  | some job =>
    by_cases here : ref = place
    · simp [here, keeps]
    · simp [here]

theorem hasResult_of_results {items others : List SessionJob} (same : results items = results others) (ref : Nat) :
    items[ref]?.any SessionJob.hasResult = others[ref]?.any SessionJob.hasResult := by
  have finals := congrArg (·[ref]?) same
  simp only [results, List.getElem?_map] at finals
  cases here : items[ref]? with
  | none =>
    cases there : others[ref]? with
    | none => rfl
    | some job => simp [here, there] at finals
  | some job =>
    cases there : others[ref]? with
    | none => simp [here, there] at finals
    | some other =>
      have finals : job.finalResult = other.finalResult := by simpa [here, there] using finals
      simp [SessionJob.hasResult, finals]

theorem goOn_effect (gone : world.goOn moment = (reply, after)) : Effect world reply.events after := by
  unfold goOn at gone
  split at gone
  · cases gone
    exact .leaves world.items none rfl (by simp [About])
  · rename_i index ref found
    have placed : world.queue[index]? = some ref := by simpa using (seek_placed found).2
    have same : results (world.edit ref SessionJob.taken).items = results world.items := results_modify fun _ => rfl
    dsimp only at gone
    split at gone
    · cases gone
      exact .leaves world.items none rfl (by simp [About])
    · rename_i job here
      split at gone
      · cases gone
        refine .moves _ _ same (.inr ?_)
        intro place other about
        have identified : index = place ∧ ref = other := by simpa [About] using about
        obtain ⟨rfl, rfl⟩ := identified
        exact ⟨rfl, placed⟩
      · rename_i unfinished
        cases gone
        exact .executes _ same placed (by simpa [here] using unfinished)

theorem retainForRetry_effect {ref : Nat} {stage : String} {error : SessionError} {now : Timestamp} :
    Effect world (world.retainForRetry options ref stage error now).1.events
      (world.retainForRetry options ref stage error now).2 :=
  .leaves _ _ (results_modify fun _ => rfl) (by simp [About])

theorem results_edit {ref : Nat} (change : SessionJob → SessionJob)
    (keeps : ∀ job, (change job).finalResult = job.finalResult) :
    results (world.edit ref change).items = results world.items :=
  results_modify keeps

section Failure

variable {items : List SessionJob} {index ref : Nat} {error : SessionError} {now : Timestamp}

theorem results_failure (ref : Nat) (error : SessionError) (same : results items = results world.items) (change : SessionJob → SessionJob)
    (keeps : ∀ job, (change job).finalResult = job.finalResult) :
    results (({ world with items := items }.edit ref (SessionJob.applyExecutionFailure error)).edit ref change).items =
      results world.items := by
  rw [results_edit change keeps, results_edit (SessionJob.applyExecutionFailure error) fun _ => rfl]
  exact same

/-- A failure that counts as transient leaves the job in the queue. -/
theorem onFailure_transient (same : results items = results world.items)
    (transient : error.busy = true ∨ error.isRetryableSessionError = true) :
    Effect world (({ world with items := items }.onFailure options index ref error now).1.events)
      ({ world with items := items }.onFailure options index ref error now).2 := by
  unfold onFailure
  dsimp only
  split
  · have kept := results_failure ref error same (SessionJob.busy error now) fun _ => rfl
    exact .leaves _ _ kept (by simp [About])
  · rename_i idle
    rw [if_pos (transient.resolve_left idle)]
    have kept := results_failure ref error same
      (SessionJob.retained options "会话执行" error now) fun _ => rfl
    exact .leaves _ _ kept (by simp [About])

theorem onFailure_effect (same : results items = results world.items)
    (executing : world.draining = some (.executing index ref)) :
    Effect world (({ world with items := items }.onFailure options index ref error now).1.events)
      ({ world with items := items }.onFailure options index ref error now).2 := by
  by_cases transient : error.busy = true ∨ error.isRetryableSessionError = true
  · exact onFailure_transient same transient
  · obtain ⟨idle, final⟩ := not_or.mp transient
    unfold onFailure
    dsimp only
    rw [if_neg idle, if_neg final]
    have kept := results_failure ref error same SessionJob.failed fun _ => rfl
    exact .fails _ _ _ executing kept

end Failure

theorem onExecuted_effect {index ref : Nat} {outcome : Except SessionError (Option String)}
    {executor : Option String} {now : Timestamp} (executing : world.draining = some (.executing index ref))
    (filled : ∀ final, outcome = .ok final → final.any (· ≠ "") = true) :
    Effect world (world.onExecuted options index ref outcome executor now).1.events
      (world.onExecuted options index ref outcome executor now).2 := by
  cases outcome with
  | ok final => exact .returns executor executing (filled final rfl)
  | error error => exact onFailure_effect (results_modify fun _ => rfl) executing

theorem onSent_effect {phase : DrainPhase}
    (waits : world.draining = some phase) (performed : world.onSent options phase outcome moment = (reply, after)) :
    Effect world reply.events after := by
  unfold onSent at performed
  split at performed
  · simp only [conclude, recordExecution, await, Prod.mk.injEq] at performed
    obtain ⟨rfl, rfl⟩ := performed
    exact .delivers _ waits
  · cases performed
    exact retainForRetry_effect
  · cases performed
    exact .leaves world.items none rfl (by simp [About])
  · cases performed
    exact .leaves world.items none rfl (by simp [About])
  · exact goOn_effect performed
  · cases performed
    exact .still

theorem onSaved_effect {phase : DrainPhase}
    (transient : ∀ index ref error, phase = .storing index ref → outcome = .error error →
      error.busy = true ∨ error.isRetryableSessionError = true)
    (performed : world.onSaved options phase outcome moment = (reply, after)) : Effect world reply.events after := by
  have stops : Effect world [] world.stop := .leaves world.items none rfl (by simp [About])
  unfold onSaved at performed
  split at performed
  · exact goOn_effect performed
  · exact goOn_effect performed
  · cases performed
    exact retainForRetry_effect
  · rename_i index ref error
    have effect : Effect world (world.onFailure options index ref error moment.now).1.events
        (world.onFailure options index ref error moment.now).2 :=
      onFailure_transient rfl (transient index ref error rfl rfl)
    rwa [performed] at effect
  · cases performed
    exact .leaves world.items _ rfl (by simp [About])
  · split at performed
    · split at performed
      · cases performed
        exact .leaves world.items _ rfl (by simp [About])
      · cases performed
        exact stops
    · cases performed
      exact stops
  · cases performed
    exact .leaves world.items _ rfl (by simp [About])
  · cases performed
    exact stops
  · cases performed
    exact stops
  · cases performed
    exact stops
  · cases performed
    exact .still

theorem perform_effect (performed : perform options call world = (reply, after))
    (settles : world.Settles (call, reply)) : Effect world reply.events after := by
  cases call with
  | enqueue job =>
    cases performed
    exact .accepts job
  | drain moment =>
    simp only [perform, drain] at performed
    split at performed
    · cases performed
      exact .still
    · exact goOn_effect performed
  | executed outcome executor moment =>
    simp only [perform] at performed
    split at performed
    · rename_i index ref executing
      have effect : Effect world (world.onExecuted options index ref outcome executor moment.now).1.events
          (world.onExecuted options index ref outcome executor moment.now).2 := by
        refine onExecuted_effect executing fun final returned => ?_
        subst returned
        simpa [Settles, executing] using settles
      rwa [performed] at effect
    · cases performed
      exact .still
  | sent outcome moment =>
    simp only [perform] at performed
    split at performed
    · rename_i phase waits
      exact onSent_effect waits performed
    · cases performed
      exact .still
  | saved outcome moment =>
    simp only [perform] at performed
    split at performed
    · rename_i phase waits
      refine onSaved_effect (fun index ref error storing failed => ?_) performed
      subst storing failed
      simpa [Settles, waits] using settles
    · cases performed
      exact .still

/-- The events so far, and what they say of the queue. -/
structure Kept (events : List JobEvent) (world : SessionQueue) : Prop where
  queue : world.queue = (List.range world.items.length).filter fun ref => .removed ref ∉ events
  bounded : ∀ ref, .removed ref ∈ events → ref < world.items.length
  placed : ∀ index ref, About index ref world.draining → world.queue[index]? = some ref
  result : ∀ ref, .returned ref ∈ events → .removed ref ∉ events → world.items[ref]?.any SessionJob.hasResult = true
  executing : ∀ index ref, world.draining = some (.executing index ref) → .returned ref ∉ events
  once : events.Pairwise fun first second => ∀ ref, first = .returned ref → second ≠ .executed ref
  left : ∀ ref, .removed ref ∈ events ↔ .sent ref ∈ events ∨ .recorded ref .failed ∈ events
  failed : ∀ ref, .recorded ref .failed ∈ events → .returned ref ∉ events
  completed : ∀ ref, events.count (.recorded ref .completed) = if .sent ref ∈ events then 1 else 0

theorem Kept.nodup (kept : Kept events world) : world.queue.Nodup := by
  rw [kept.queue]
  exact List.nodup_range.filter _

/-- A job that stands in the queue is one that was not removed. -/
theorem Kept.waits (kept : Kept events world) {index ref : Nat} (placed : world.queue[index]? = some ref) :
    ref < world.items.length ∧ .removed ref ∉ events := by
  have listed := List.mem_of_getElem? placed
  rwa [kept.queue, List.mem_filter, List.mem_range, decide_eq_true_eq] at listed

theorem Kept.accept (kept : Kept events before) (job : SessionJob) : Kept events { before with
    items := before.items ++ [job], queue := before.queue ++ [before.items.length] } := by
  refine ⟨?_, ?_, ?_, ?_, kept.executing, kept.once, kept.left, kept.failed, kept.completed⟩
  · have new : .removed before.items.length ∉ events := fun gone => Nat.lt_irrefl _ (kept.bounded _ gone)
    rw [List.length_append, List.length_singleton, List.range_succ, List.filter_append, kept.queue,
      List.filter_singleton, decide_eq_true new, cond_true]
  · intro ref gone
    rw [List.length_append]
    exact Nat.lt_add_right 1 (kept.bounded ref gone)
  · intro index ref about
    have placed := kept.placed index ref about
    obtain ⟨bound, _⟩ := List.getElem?_eq_some_iff.mp placed
    rw [List.getElem?_append_left bound, placed]
  · intro ref returned stays
    have result := kept.result ref returned stays
    obtain ⟨job, found, _⟩ := (Option.any_eq_true _ _).mp result
    obtain ⟨bound, _⟩ := List.getElem?_eq_some_iff.mp found
    rwa [List.getElem?_append_left bound]

theorem length_of_results {items others : List SessionJob} (same : results items = results others) :
    items.length = others.length := by
  simpa [results] using congrArg List.length same

theorem Kept.moves (kept : Kept events before) {items : List SessionJob} {draining : Option DrainPhase}
    (same : results items = results before.items)
    (goes : draining = before.draining ∨ ∀ index ref, About index ref draining →
      draining = some (.delivering index ref) ∧ before.queue[index]? = some ref) :
    Kept events { before with items := items, draining := draining } := by
  refine ⟨?_, ?_, ?_, ?_, ?_, kept.once, kept.left, kept.failed, kept.completed⟩
  · rw [length_of_results same]
    exact kept.queue
  · rw [length_of_results same]
    exact kept.bounded
  · intro index ref about
    rcases goes with stays | moved
    · exact kept.placed index ref (by rwa [← stays])
    · exact (moved index ref about).2
  · intro ref returned stays
    rw [hasResult_of_results same]
    exact kept.result ref returned stays
  · intro index ref executing
    rcases goes with stays | moved
    · exact kept.executing index ref (by rwa [← stays])
    · have other := executing.symm.trans (moved index ref (.inr (.inl executing))).1
      cases other

/-- A job that is executed has not returned: it would have a result. -/
theorem Kept.executes (kept : Kept events before) {items : List SessionJob} {index ref : Nat}
    (same : results items = results before.items) (placed : before.queue[index]? = some ref)
    (unfinished : items[ref]?.any SessionJob.hasResult = false) : Kept (events ++ [.executed ref])
      { before with items := items, draining := some (.executing index ref) } := by
  have unreturned : .returned ref ∉ events := by
    intro returned
    have result := kept.result ref returned (kept.waits placed).2
    rw [← hasResult_of_results same, unfinished] at result
    cases result
  constructor
  · simpa [length_of_results same] using kept.queue
  · simpa [length_of_results same] using kept.bounded
  · intro place other about
    have identified : index = place ∧ ref = other := by simpa [About] using about
    obtain ⟨rfl, rfl⟩ := identified
    exact placed
  · intro other returned stays
    rw [hasResult_of_results same]
    exact kept.result other (by simpa using returned) (by simpa using stays)
  · intro place other executing
    have identified : index = place ∧ ref = other := by simpa using executing
    obtain ⟨rfl, rfl⟩ := identified
    simpa using unreturned
  · refine List.pairwise_append.mpr ⟨kept.once, List.pairwise_singleton _ _, ?_⟩
    rintro _ earlier _ new other rfl
    rw [List.mem_singleton.mp new]
    rintro ⟨⟩
    exact unreturned earlier
  · simpa using kept.left
  · simpa using kept.failed
  · simpa [List.count_append] using kept.completed

theorem Kept.returns (kept : Kept events before) {index ref : Nat} {final executor : Option String}
    (executing : before.draining = some (.executing index ref)) (filled : final.any (· ≠ "") = true) :
    Kept (events ++ [.returned ref])
      ((before.edit ref (SessionJob.returned final executor)).await (.storing index ref)) := by
  have placed := kept.placed index ref (.inr (.inl executing))
  obtain ⟨bound, stays⟩ := kept.waits placed
  constructor
  · simpa [SessionQueue.edit, SessionQueue.await] using kept.queue
  · simpa [SessionQueue.edit, SessionQueue.await] using kept.bounded
  · intro place other about
    have identified : index = place ∧ ref = other := by simpa [About, SessionQueue.await] using about
    obtain ⟨rfl, rfl⟩ := identified
    exact placed
  · intro other returned unremoved
    simp only [SessionQueue.edit, SessionQueue.await]
    by_cases here : ref = other
    · subst here
      rw [List.getElem?_modify_eq, List.getElem?_eq_getElem bound, Option.map_eq_map, Option.map_some, Option.any_some]
      unfold SessionJob.returned
      dsimp only
      split <;> exact filled
    · rw [List.getElem?_modify_ne _ _ here]
      have before_returned : .returned other ∈ events := by
        simpa [Ne.symm here] using returned
      exact kept.result other before_returned (by simpa using unremoved)
  · intro place other executing
    simp [SessionQueue.await] at executing
  · refine List.pairwise_append.mpr ⟨kept.once, List.pairwise_singleton _ _, ?_⟩
    rintro _ _ _ new other rfl
    rw [List.mem_singleton.mp new]
    exact nofun
  · simpa using kept.left
  · intro other failed
    have earlier : .recorded other .failed ∈ events := by simpa using failed
    have gone := (kept.left other).mpr (.inr earlier)
    have apart : other ≠ ref := by
      rintro rfl
      exact stays gone
    simpa [apart] using kept.failed other earlier
  · simpa [List.count_append] using kept.completed

/-- The removal of the job that the drain is about leaves every other job in its place. -/
theorem Kept.removes (kept : Kept events before) {new : List JobEvent} {index ref : Nat}
    (placed : before.queue[index]? = some ref) (own : ∀ other, .removed other ∈ new ↔ other = ref) :
    before.queue.eraseIdx index = (List.range before.items.length).filter fun ref => .removed ref ∉ events ++ new := by
  rw [eraseIdx_eq_filter kept.nodup placed, kept.queue, List.filter_filter]
  refine List.filter_congr fun other _ => ?_
  rw [Bool.eq_iff_iff]
  simp only [List.mem_append, own, Bool.and_eq_true, decide_eq_true_eq]
  tauto

theorem Kept.delivers (kept : Kept events before) {index ref : Nat} (records : List ExecutionRecord)
    (delivering : before.draining = some (.delivering index ref)) :
    Kept (events ++ [.sent ref, .recorded ref .completed, .removed ref]) { before with
      queue := before.queue.eraseIdx index, history := records, draining := some (.delivered ref) } := by
  have placed := kept.placed index ref (.inl delivering)
  obtain ⟨bound, stays⟩ := kept.waits placed
  have unsent : .sent ref ∉ events := fun sent => stays ((kept.left ref).mpr (.inl sent))
  constructor
  · exact kept.removes placed (by simp)
  · intro other gone
    have earlier : .removed other ∈ events ∨ other = ref := by simpa using gone
    rcases earlier with earlier | rfl
    · exact kept.bounded other earlier
    · exact bound
  · intro place other about
    simp [About] at about
  · intro other returned unremoved
    simp only [List.mem_append, not_or] at unremoved
    exact kept.result other (by simpa using returned) unremoved.1
  · intro place other executing
    cases executing
  · refine List.pairwise_append.mpr ⟨kept.once, by simp, ?_⟩
    intro first _ second new other _ executed
    simp [executed] at new
  · intro other
    simp [kept.left other]
    tauto
  · intro other failed
    simpa using kept.failed other (by simpa using failed)
  · intro other
    have count := kept.completed other
    by_cases own : other = ref
    · subst own
      rw [if_neg unsent] at count
      simp [List.count_append, count]
    · simp [List.count_append, count, own, Ne.symm own]

theorem Kept.fails (kept : Kept events before) {index ref : Nat} {items : List SessionJob}
    (records : List ExecutionRecord) (error : String) (executing : before.draining = some (.executing index ref))
    (same : results items = results before.items) : Kept (events ++ [.recorded ref .failed, .removed ref]) { before with
      items := items, queue := before.queue.eraseIdx index, history := records
      draining := some (.failedSaving ref error) } := by
  have placed := kept.placed index ref (.inr (.inl executing))
  have bound := (kept.waits placed).1
  have unreturned := kept.executing index ref executing
  constructor
  · rw [length_of_results same]
    exact kept.removes placed (by simp)
  · intro other gone
    have earlier : .removed other ∈ events ∨ other = ref := by simpa using gone
    rw [length_of_results same]
    rcases earlier with earlier | rfl
    · exact kept.bounded other earlier
    · exact bound
  · intro place other about
    simp [About] at about
  · intro other returned unremoved
    simp only [List.mem_append, not_or] at unremoved
    rw [hasResult_of_results same]
    exact kept.result other (by simpa using returned) unremoved.1
  · intro place other executing
    cases executing
  · refine List.pairwise_append.mpr ⟨kept.once, by simp, ?_⟩
    intro first _ second new other _ executed
    simp [executed] at new
  · intro other
    simp [kept.left other]
    tauto
  · intro other failed
    have earlier : .recorded other .failed ∈ events ∨ other = ref := by simpa using failed
    rcases earlier with earlier | rfl
    · simpa using kept.failed other earlier
    · simpa using unreturned
  · simpa [List.count_append] using kept.completed

theorem Kept.step (kept : Kept events before) {new : List JobEvent} (effect : Effect before new after) :
    Kept (events ++ new) after := by
  cases effect with
  | accepts job =>
    rw [List.append_nil]
    exact kept.accept job
  | moves items draining same goes =>
    rw [List.append_nil]
    exact kept.moves same goes
  | executes items same placed unfinished => exact kept.executes same placed unfinished
  | returns executor executing filled => exact kept.returns executing filled
  | delivers records delivering =>
    rw [kept.placed _ _ (.inl delivering)]
    exact kept.delivers records delivering
  | fails items records error executing same =>
    rw [kept.placed _ _ (.inr (.inl executing))]
    exact kept.fails records error executing same

/-- A run in which what the runner returns is settled. -/
abbrev SettledRun (options : SessionOptions) (jobs : List SessionJob) (history : List ExecutionRecord)
    (labels : DrainTrace) (world : SessionQueue) : Prop :=
  ((machine options jobs history).system.restricted Settles).Run labels world

theorem run_kept (run : SettledRun options jobs history labels world) : Kept (jobEvents labels) world := by
  refine run.history (motive := fun labels world => Kept (jobEvents labels) world) ?_ ?_
  · rintro _ rfl
    refine ⟨?_, nofun, nofun, nofun, nofun, List.Pairwise.nil, ?_, nofun, ?_⟩
    · exact (List.filter_eq_self.mpr (by simp [jobEvents])).symm
    · simp [jobEvents]
    · simp [jobEvents]
  · rintro labels ⟨call, reply⟩ before after _ kept ⟨step, settles⟩
    rw [jobEvents_snoc]
    exact kept.step (perform_effect step settles)

/-- A job is not executed again once its runner has returned. It leaves the queue when its final
result was sent, recorded as completed once, or, if its runner never returned, when its execution
has failed for good; and no job leaves in the place of another. -/
theorem finished_delivered (run : SettledRun options jobs history labels world) :
    world.queue = ((List.range world.items.length).filter fun ref => .removed ref ∉ jobEvents labels) ∧
    ((jobEvents labels).Pairwise fun first second => ∀ ref, first = .returned ref → second ≠ .executed ref) ∧ ∀ ref,
      (.removed ref ∈ jobEvents labels ↔ .sent ref ∈ jobEvents labels ∨ .recorded ref .failed ∈ jobEvents labels) ∧
      (.recorded ref .failed ∈ jobEvents labels → .returned ref ∉ jobEvents labels) ∧
      (jobEvents labels).count (.recorded ref .completed) = if .sent ref ∈ jobEvents labels then 1 else 0 := by
  have kept := run_kept run
  exact ⟨kept.queue, kept.once, fun ref => ⟨kept.left ref, kept.failed ref, kept.completed ref⟩⟩

/-- A job of the controller session. -/
def controllerJob (id : String) : SessionJob :=
  ⟨id, "session-1", "Controller", "go on", some "codex", some "codex", none, false, none, none, none, 0, none, none⟩

def quiet (now : Timestamp) : DrainMoment := ⟨[], now⟩

def diskError (message : String) : SessionError := ⟨message, false, false, false, none⟩

/-- A result is sent at the second try, while another job is queued. -/
def sentAtLast : List DrainCall :=
  [.drain (quiet 0), .executed (.ok (some "done")) (some "codex") (quiet 0), .enqueue (controllerJob "om_2"),
    .saved (.ok ()) (quiet 0), .sent (.error (diskError "network connection reset")) (quiet 0),
    .saved (.ok ()) (quiet 0), .sent (.ok ()) (quiet 0), .drain ⟨["session-1"], 60000⟩, .drain (quiet 60000),
    .sent (.ok ()) (quiet 60000)]

theorem sentAtLast_delivered : ∃ labels world,
    SettledRun ⟨none, none⟩ [controllerJob "om_1"] [] labels world ∧ .returned 0 ∈ jobEvents labels ∧
    world.queue = [1] ∧ (jobEvents labels).count (.recorded 0 .completed) = 1 := by
  let service := machine ⟨none, none⟩ [controllerJob "om_1"] []
  have run : SettledRun ⟨none, none⟩ [controllerJob "om_1"] [] (service.replay sentAtLast service.initial).1
      (service.replay sentAtLast service.initial).2 :=
    service.replay_restricted (by decide)
  obtain ⟨queue, _, jobs⟩ := finished_delivered run
  refine ⟨_, _, run, by decide, ?_, ?_⟩
  · rw [queue]
    decide
  · rw [(jobs 0).2.2]
    decide

/-- A job whose runner has returned is executed again if the result is empty, and is recorded as
failed, removed and never sent if its result cannot be saved. -/
theorem finished_lost : (∃ labels world, (machine ⟨none, none⟩ [controllerJob "om_1"] []).system.Run labels world ∧
      jobEvents labels = [.executed 0, .returned 0, .executed 0]) ∧
    ∃ labels world, (machine ⟨none, none⟩ [controllerJob "om_1"] []).system.Run labels world ∧
      world.queue = [] ∧ jobEvents labels = [.executed 0, .returned 0, .recorded 0 .failed, .removed 0] := by
  constructor
  · refine ⟨_, _, (machine ⟨none, none⟩ [controllerJob "om_1"] []).replay_run
      [.drain (quiet 0), .executed (.ok (some "")) (some "codex") (quiet 0), .saved (.ok ()) (quiet 0)], ?_⟩
    decide
  · refine ⟨_, _, (machine ⟨none, none⟩ [controllerJob "om_1"] []).replay_run
      [.drain (quiet 0), .executed (.ok (some "done")) (some "codex") (quiet 0),
        .saved (.error (diskError "ENOSPC: no space left on device, write")) (quiet 0)], ?_⟩
    decide +kernel

end SessionQueue

end QuarkSelfAI.BridgeCompat

import QuarkSelfAI.Lark.EventStream

/-!
# The order of an event stream

What has been passed to the handlers is what a first part of the received lines says,
and what is left of them waits in the buffer as long as the stream is live. At most one
handler is awaited, exactly while a drain is suspended, and a stream that is ready and
not draining has an empty buffer.
-/

namespace QuarkSelfAI.Lark

open Foundation

variable {Event : Type}

/-- The line a call brings, unless it is blank. -/
def StreamCall.received? : StreamCall → Option String
  | .stdout line => if isBlank line = true then none else some line
  | _ => none

/-- The lines that are not blank, in the order of their arrival. -/
def received (labels : List (StreamCall × StreamReply Event)) : List String :=
  labels.filterMap fun entry => entry.1.received?

/-- The events passed to `onEvent`, in order. -/
def dispatched (labels : List (StreamCall × StreamReply Event)) : List Event :=
  labels.filterMap fun entry => entry.2.dispatched

/-- The stream takes lines. -/
def LarkEventStream.Live (stream : LarkEventStream Event) : Prop := stream.state = .starting ∨ stream.state = .ready

/-- The lines before `rest` are exactly those whose events were passed on. -/
def Passed (payload : String → Option Event) (lines : List String) (events : List Event) (rest : List String) : Prop :=
  ∃ taken, lines = taken ++ rest ∧ taken.map payload = events.map some

section Passed

variable {payload : String → Option Event} {lines rest : List String} {events : List Event}

theorem Passed.start : Passed payload [] [] [] := ⟨[], rfl, rfl⟩

theorem Passed.arrive (passed : Passed payload lines events rest) (line : String) :
    Passed payload (lines ++ [line]) events (rest ++ [line]) := by
  obtain ⟨taken, rfl, same⟩ := passed
  exact ⟨taken, by rw [List.append_assoc], same⟩

theorem Passed.take {line : String} {event : Event} (passed : Passed payload lines events (line :: rest))
    (read : payload line = some event) : Passed payload lines (events ++ [event]) rest := by
  obtain ⟨taken, rfl, same⟩ := passed
  refine ⟨taken ++ [line], by simp, ?_⟩
  rw [List.map_append, List.map_append, same, List.map_singleton, List.map_singleton, read]

/-- Everything passed on is what a first part of the lines says. -/
theorem Passed.take_eq (passed : Passed payload lines events rest) :
    events.map some = (lines.take events.length).map payload := by
  obtain ⟨taken, rfl, same⟩ := passed
  have long : taken.length = events.length := by simpa using congrArg List.length same
  rw [← long, List.take_left, same]

end Passed

namespace LarkEventStream

/-- How a stream stands to the lines that arrived and the events that were passed on. -/
structure Ordered (payload : String → Option Event) (lines : List String) (events : List Event)
    (stream : LarkEventStream Event) : Prop where
  single : stream.awaiting.length = if stream.draining = true then 1 else 0
  unready : stream.state = .starting → stream.draining = false
  drained : stream.state = .ready → stream.draining = false → stream.lines = []
  passed : ∃ rest, Passed payload lines events rest ∧ (stream.Live → rest = stream.lines)
  gone : stream.child = false → ¬ stream.Live

/-- What a callback leaves is ordered with the event it passes on. -/
def Keeps (payload : String → Option Event) (lines : List String) (events : List Event)
    (outcome : StreamReply Event × LarkEventStream Event) : Prop :=
  Ordered payload lines (events ++ outcome.1.dispatched.toList) outcome.2

variable {host : StreamHost Event} {eventKey : String} {stream : LarkEventStream Event}
  {payload : String → Option Event} {lines : List String} {events : List Event} {after : LarkEventStream Event}

theorem not_live_iff : ¬ stream.Live ↔ stream.state = .idle ∨ stream.state = .stopping ∨ stream.state = .failed := by
  unfold Live
  cases stream.state <;> simp

theorem Ordered.keeps {failure : Option String} (ordered : Ordered payload lines events stream) :
    Keeps payload lines events (⟨none, failure⟩, stream) := by
  simpa [Keeps] using ordered

/-- A line that a stream does not take is missed. -/
theorem Ordered.missed (ordered : Ordered payload lines events stream) (dead : ¬ stream.Live)
    (line : String) : Ordered payload (lines ++ [line]) events stream := by
  obtain ⟨rest, passed, _⟩ := ordered.passed
  exact { ordered with passed := ⟨rest ++ [line], passed.arrive line, fun live => (dead live).elim⟩ }

theorem Ordered.live_passed (ordered : Ordered payload lines events stream) (live : stream.Live) :
    Passed payload lines events stream.lines := by
  obtain ⟨rest, passed, same⟩ := ordered.passed
  rwa [same live] at passed

/-! ## Failures -/

theorem fail_over (eventKey category : String) (stream : LarkEventStream Event) :
    ¬ (fail eventKey category stream).2.Live := by
  rw [not_live_iff]
  unfold fail
  cases state : stream.state <;> simp [state]

theorem fail_dispatched (eventKey category : String) (stream : LarkEventStream Event) :
    (fail eventKey category stream).1.dispatched = none := by
  unfold fail
  cases stream.state <;> rfl

theorem fail_awaiting (eventKey category : String) (stream : LarkEventStream Event) :
    (fail eventKey category stream).2.awaiting = stream.awaiting := by
  unfold fail
  cases stream.state <;> rfl

theorem fail_draining (eventKey category : String) (stream : LarkEventStream Event) :
    (fail eventKey category stream).2.draining = stream.draining := by
  unfold fail
  cases stream.state <;> rfl

theorem ordered_over (ordered : ∃ rest, Passed payload lines events rest)
    (dead : ¬ after.Live) (single : after.awaiting.length = if after.draining = true then 1 else 0) :
    Ordered payload lines events after := by
  obtain ⟨rest, passed⟩ := ordered
  refine ⟨single, fun starting => ?_, fun ready => ?_, ⟨rest, passed, fun live => (dead live).elim⟩, fun _ => dead⟩
  · exact (dead (.inl starting)).elim
  · exact (dead (.inr ready)).elim

theorem Ordered.fail (ordered : Ordered payload lines events stream) (category : String) :
    Keeps payload lines events (fail eventKey category stream) := by
  obtain ⟨rest, passed, _⟩ := ordered.passed
  unfold Keeps
  rw [fail_dispatched, Option.toList_none, List.append_nil]
  refine ordered_over ⟨rest, passed⟩ (fail_over _ _ _) ?_
  rw [fail_awaiting, fail_draining]
  exact ordered.single

/-! ## Draining -/

/-- The loop of a drain keeps the order: its handler is the only one. -/
theorem dispatch_keeps (alone : stream.awaiting = []) (draining : stream.draining = true)
    (begun : stream.state ≠ .starting) (here : stream.child = false → ¬ stream.Live)
    (passed : ∃ rest, Passed (host.payload eventKey) lines events rest ∧ (stream.Live → rest = stream.lines)) :
    Keeps (host.payload eventKey) lines events (dispatch host eventKey stream) := by
  obtain ⟨rest, passed, same⟩ := passed
  unfold dispatch Keeps
  split
  · rename_i line others ready buffered
    have live : stream.Live := .inr ready
    rw [same live, buffered] at passed
    split
    · rename_i event read
      refine ⟨?_, fun starting => (begun starting).elim, fun _ idle => ?_, ?_, here⟩
      · simp [alone, draining]
      · rw [draining] at idle
        cases idle
      · exact ⟨others, passed.take read, fun _ => rfl⟩
    · dsimp only
      rw [fail_dispatched, Option.toList_none, List.append_nil]
      refine ordered_over ⟨_, passed⟩ ?_ ?_
      · exact fail_over eventKey _ { stream with lines := others }
      · dsimp only
        rw [fail_awaiting, alone]
        rfl
  · rename_i ended
    simp only [Option.toList_none, List.append_nil]
    refine ⟨by simp [alone], fun _ => rfl, fun ready _ => ?_, ⟨rest, passed, same⟩, here⟩
    cases buffered : stream.lines with
    | nil => rfl
    | cons line others => exact (ended line others ready buffered).elim

theorem Ordered.awaiting_nil (ordered : Ordered payload lines events stream)
    (idle : stream.draining = false) : stream.awaiting = [] := by
  have single := ordered.single
  rw [idle] at single
  exact List.length_eq_zero_iff.mp single

theorem drain_keeps (idle : stream.draining = false) (alone : stream.awaiting = [])
    (here : stream.child = false → ¬ stream.Live)
    (passed : ∃ rest, Passed (host.payload eventKey) lines events rest ∧ (stream.Live → rest = stream.lines)) :
    Keeps (host.payload eventKey) lines events (drain host eventKey stream) := by
  unfold drain
  split
  · rename_i waits
    have unready : stream.state ≠ .ready := by simpa [idle] using waits
    refine Ordered.keeps ⟨by simp [alone, idle], fun _ => idle, fun ready => ?_, passed, here⟩
    exact (unready ready).elim
  · rename_i ready
    refine dispatch_keeps alone rfl ?_ here passed
    intro starting
    simp [show stream.state = .starting from starting] at ready

/-! ## Callbacks -/

theorem Ordered.stdout (ordered : Ordered (host.payload eventKey) lines events stream) (line : String) :
    Keeps (host.payload eventKey) (lines ++ (StreamCall.stdout line).received?.toList) events
      (onStdout host eventKey line stream) := by
  have live_iff : ¬ (stream.state ≠ .starting ∧ stream.state ≠ .ready) ↔ stream.Live := by
    unfold Live
    tauto
  rw [StreamCall.received?, onStdout]
  by_cases blank : isBlank line = true
  · rw [if_pos blank, if_pos blank, Option.toList_none, List.append_nil, ite_self]
    exact ordered.keeps
  · rw [if_neg blank, if_neg blank, Option.toList_some]
    split
    · rename_i dead
      exact (ordered.missed (fun live => live_iff.mpr live dead) line).keeps
    · rename_i live
      have live : stream.Live := live_iff.mp live
      have passed := (ordered.live_passed live).arrive line
      split
      · exact Ordered.missed (ordered.fail "local-buffer-limit") (fail_over _ _ _) line
      · split
        · rename_i draining
          refine Ordered.keeps ⟨ordered.single, ordered.unready, fun _ idle => ?_, ?_, ordered.gone⟩
          · rw [show stream.draining = false from idle] at draining
            cases draining
          · exact ⟨_, passed, fun _ => rfl⟩
        · rename_i idle
          have idle : stream.draining = false := by simpa using idle
          exact drain_keeps idle (ordered.awaiting_nil idle) ordered.gone ⟨_, passed, fun _ => rfl⟩

theorem Ordered.stderr (ordered : Ordered (host.payload eventKey) lines events stream) (line : String) :
    Keeps (host.payload eventKey) lines events (onStderr host eventKey line stream) := by
  unfold onStderr
  split
  · rename_i announced
    have idle := ordered.unready announced.2
    have live : stream.Live := .inl announced.2
    have passed := ordered.live_passed live
    have here : stream.child = true := by
      cases child : stream.child with
      | true => rfl
      | false => exact (ordered.gone child live).elim
    have stays : ({ stream with state := .ready, startup := .resolved } : LarkEventStream Event).child = false →
        ¬ ({ stream with state := .ready, startup := .resolved } : LarkEventStream Event).Live := by
      intro absent
      rw [show stream.child = false from absent] at here
      cases here
    dsimp only
    split
    · exact drain_keeps idle (ordered.awaiting_nil idle) stays ⟨_, passed, fun _ => rfl⟩
    · rename_i empty
      refine Ordered.keeps ⟨ordered.single, fun _ => idle, fun _ _ => ?_, ⟨_, passed, fun _ => rfl⟩, stays⟩
      simpa [idle] using empty
  · have told : Ordered (host.payload eventKey) lines events
        (if startsWith (trim line) "\x7b" = true then
          { stream with lastErrorCategory := errorCategory (host.parse line) }
        else stream) := by
      split
      · exact ⟨ordered.single, ordered.unready, ordered.drained, ordered.passed, ordered.gone⟩
      · exact ordered
    dsimp only
    split
    · exact told.fail _
    · exact told.keeps

theorem Ordered.close (ordered : Ordered payload lines events stream) (code : Option String) :
    Keeps payload lines events (onClose eventKey code stream) := by
  have closed : Ordered payload lines events { stream with closed := true, listening := false } :=
    ⟨ordered.single, ordered.unready, ordered.drained, ordered.passed, ordered.gone⟩
  unfold onClose
  dsimp only
  split
  · exact closed.fail _
  · exact closed.keeps

theorem Ordered.handled (ordered : Ordered (host.payload eventKey) lines events stream) {index : Nat}
    (accepted : Bool) (awaited : index < stream.awaiting.length) :
    Keeps (host.payload eventKey) lines events (onHandled host eventKey index accepted stream) := by
  have single := ordered.single
  have draining : stream.draining = true := by
    by_contra idle
    rw [if_neg idle] at single
    omega
  rw [if_pos draining] at single
  have alone : stream.awaiting.eraseIdx index = [] := by
    refine List.length_eq_zero_iff.mp ?_
    rw [List.length_eraseIdx_of_lt awaited, single]
  unfold onHandled
  dsimp only
  split
  · refine dispatch_keeps alone draining ?_ ordered.gone ordered.passed
    intro starting
    rw [ordered.unready starting] at draining
    cases draining
  · obtain ⟨rest, passed, _⟩ := ordered.passed
    unfold Keeps
    dsimp only
    rw [fail_dispatched, Option.toList_none, List.append_nil]
    refine ordered_over ⟨rest, passed⟩ ?_ ?_
    · exact fail_over eventKey _ { stream with awaiting := stream.awaiting.eraseIdx index }
    · dsimp only
      rw [fail_awaiting, alone]
      rfl

theorem Ordered.stop (ordered : Ordered payload lines events stream) : Ordered payload lines events stream.stop := by
  obtain ⟨rest, passed, _⟩ := ordered.passed
  unfold LarkEventStream.stop
  split
  · exact ordered_over ⟨rest, passed⟩ (by simp [Live]) ordered.single
  · exact ordered

theorem Ordered.stopSettled (ordered : Ordered payload lines events stream) (confirmed : Bool) :
    Ordered payload lines events (stream.onStopSettled confirmed) := by
  obtain ⟨rest, passed, _⟩ := ordered.passed
  unfold onStopSettled
  dsimp only
  split
  all_goals exact ordered_over ⟨rest, passed⟩ (by simp [Live]) ordered.single

/-- Every call keeps the order. -/
theorem Ordered.perform (ordered : Ordered (host.payload eventKey) lines events stream) (call : StreamCall) :
    Keeps (host.payload eventKey) (lines ++ call.received?.toList) events
      (perform host eventKey call stream) := by
  cases call with
  | stdout line => exact ordered.stdout line
  | stderr line =>
    simp only [StreamCall.received?, Option.toList_none, List.append_nil, LarkEventStream.perform]
    exact ordered.stderr line
  | error =>
    simp only [StreamCall.received?, Option.toList_none, List.append_nil, LarkEventStream.perform]
    exact ordered.fail "child-process-error"
  | close code =>
    simp only [StreamCall.received?, Option.toList_none, List.append_nil, LarkEventStream.perform]
    split
    · exact ordered.keeps
    · exact ordered.close code
  | abort =>
    simp only [StreamCall.received?, Option.toList_none, List.append_nil, LarkEventStream.perform]
    split
    · refine Ordered.fail ?_ "aborted"
      exact ⟨ordered.single, ordered.unready, ordered.drained, ordered.passed, ordered.gone⟩
    · exact ordered.keeps
  | timeout =>
    simp only [StreamCall.received?, Option.toList_none, List.append_nil, LarkEventStream.perform]
    split
    · exact ordered.fail "ready-timeout"
    · exact ordered.keeps
  | handled index accepted =>
    simp only [StreamCall.received?, Option.toList_none, List.append_nil, LarkEventStream.perform]
    split
    · rename_i awaited
      exact ordered.handled accepted awaited
    · exact ordered.keeps
  | stop =>
    simp only [StreamCall.received?, Option.toList_none, List.append_nil, LarkEventStream.perform]
    exact ordered.stop.keeps
  | stopSettled confirmed =>
    simp only [StreamCall.received?, Option.toList_none, List.append_nil, LarkEventStream.perform]
    split
    · exact (ordered.stopSettled confirmed).keeps
    · exact ordered.keeps

/-! ## Runs -/

variable {signal : Bool} {labels : List (StreamCall × StreamReply Event)}

theorem received_append (labels : List (StreamCall × StreamReply Event)) (label : StreamCall × StreamReply Event) :
    received (labels ++ [label]) = received labels ++ label.1.received?.toList := by
  rw [received, received, filterMap_snoc]

theorem dispatched_append (labels : List (StreamCall × StreamReply Event)) (label : StreamCall × StreamReply Event) :
    dispatched (labels ++ [label]) = dispatched labels ++ label.2.dispatched.toList := by
  rw [dispatched, dispatched, filterMap_snoc]

theorem run_ordered (run : (machine host eventKey signal).system.Run labels stream) :
    Ordered (host.payload eventKey) (received labels) (dispatched labels) stream := by
  refine run.history
    (motive := fun labels stream => Ordered (host.payload eventKey) (received labels) (dispatched labels) stream) ?_ ?_
  · rintro _ rfl
    exact ⟨rfl, fun _ => rfl, fun _ _ => rfl, ⟨[], .start, fun _ => rfl⟩, nofun⟩
  · rintro labels label before after _ ordered step
    have performed : perform host eventKey label.1 before = (label.2, after) := step
    have kept := ordered.perform label.1
    rw [performed] at kept
    rw [received_append, dispatched_append]
    exact kept

/-! ## A stream that is over -/

theorem dispatch_over (dead : ¬ stream.Live) :
    (dispatch host eventKey stream).1 = ⟨none, none⟩ ∧ ¬ (dispatch host eventKey stream).2.Live := by
  rcases not_live_iff.mp dead with state | state | state <;> simp [dispatch, state, Live]

/-- A stream that failed or was stopped passes nothing on. -/
theorem perform_over (dead : ¬ stream.Live) (call : StreamCall) :
    (perform host eventKey call stream).1.dispatched = none ∧ ¬ (perform host eventKey call stream).2.Live := by
  have state := not_live_iff.mp dead
  cases call with
  | stdout line =>
    have skipped : stream.state ≠ .starting ∧ stream.state ≠ .ready := by
      unfold Live at dead
      tauto
    rw [perform, onStdout, if_pos skipped]
    exact ⟨rfl, dead⟩
  | stderr line =>
    have unready : ¬ (trim line = readyLine eventKey ∧ stream.state = .starting) :=
      fun announced => dead (.inl announced.2)
    rw [perform, onStderr, if_neg unready]
    dsimp only
    split
    · exact ⟨fail_dispatched _ _ _, fail_over _ _ _⟩
    · split
      · exact ⟨rfl, dead⟩
      · exact ⟨rfl, dead⟩
  | error => exact ⟨fail_dispatched _ _ _, fail_over _ _ _⟩
  | close code =>
    rw [perform]
    split
    · exact ⟨rfl, dead⟩
    · unfold onClose
      dsimp only
      split
      · exact ⟨fail_dispatched _ _ _, fail_over _ _ _⟩
      · exact ⟨rfl, dead⟩
  | abort | timeout =>
    rw [perform]
    split
    · exact ⟨fail_dispatched _ _ _, fail_over _ _ _⟩
    · exact ⟨rfl, dead⟩
  | handled index accepted =>
    rw [perform]
    split
    · unfold onHandled
      dsimp only
      split
      · obtain ⟨quiet, still⟩ := @dispatch_over _ host eventKey
          { stream with awaiting := stream.awaiting.eraseIdx index } dead
        exact ⟨by rw [quiet], still⟩
      · exact ⟨fail_dispatched _ _ _, fail_over eventKey _ { stream with awaiting := _ }⟩
    · exact ⟨rfl, dead⟩
  | stop =>
    refine ⟨rfl, ?_⟩
    rw [perform, LarkEventStream.stop]
    split
    · simp [Live]
    · exact dead
  | stopSettled confirmed =>
    rw [perform]
    split
    · refine ⟨rfl, ?_⟩
      unfold onStopSettled
      dsimp only
      split <;> simp [Live]
    · exact ⟨rfl, dead⟩

theorem over_steps {start finish : LarkEventStream Event}
    (steps : (machine host eventKey signal).system.Steps start labels finish) (dead : ¬ start.Live) :
    dispatched labels = [] := by
  induction steps with
  | done => rfl
  | @next start label middle labels finish transition rest ih =>
    have performed : perform host eventKey label.1 start = (label.2, middle) := transition
    obtain ⟨quiet, still⟩ := @perform_over _ host eventKey start dead label.1
    rw [performed] at quiet still
    rw [dispatched, List.filterMap_cons, quiet]
    exact ih still

/-- A callback that reports a failure passes nothing on and ends the stream. -/
def EndsFailed (outcome : StreamReply Event × LarkEventStream Event) : Prop :=
  outcome.1.failure.isSome = true → outcome.1.dispatched = none ∧ ¬ outcome.2.Live

theorem fail_ends (eventKey category : String) (stream : LarkEventStream Event) :
    EndsFailed (fail eventKey category stream) :=
  fun _ => ⟨fail_dispatched _ _ _, fail_over _ _ _⟩

theorem dispatch_ends : EndsFailed (dispatch host eventKey stream) := by
  unfold dispatch
  split
  · split
    · exact nofun
    · exact fail_ends eventKey _ { stream with lines := _ }
  · exact nofun

theorem drain_ends : EndsFailed (drain host eventKey stream) := by
  unfold drain
  split
  · exact nofun
  · exact dispatch_ends

theorem perform_ends (call : StreamCall) : EndsFailed (perform host eventKey call stream) := by
  cases call with
  | stdout line =>
    rw [perform, onStdout]
    split
    · exact nofun
    · split
      · exact nofun
      · split
        · exact fail_ends _ _ _
        · split
          · exact nofun
          · exact drain_ends
  | stderr line =>
    rw [perform, onStderr]
    split
    · dsimp only
      split
      · exact drain_ends
      · exact nofun
    · dsimp only
      split
      · exact fail_ends _ _ _
      · exact nofun
  | error => exact fail_ends _ _ _
  | close code =>
    rw [perform]
    split
    · exact nofun
    · unfold onClose
      dsimp only
      split
      · exact fail_ends _ _ _
      · exact nofun
  | abort | timeout =>
    rw [perform]
    split
    · exact fail_ends _ _ _
    · exact nofun
  | handled index accepted =>
    rw [perform]
    split
    · unfold onHandled
      dsimp only
      split
      · exact dispatch_ends
      · exact fail_ends eventKey _ { stream with awaiting := _ }
    · exact nofun
  | stop => exact nofun
  | stopSettled confirmed =>
    rw [perform]
    split
    · exact nofun
    · exact nofun

/-- A call of `stop`, or a callback that reports a failure. -/
def Ending (label : StreamCall × StreamReply Event) : Prop := label.1 = .stop ∨ label.2.failure.isSome = true

theorem ending_over {label : StreamCall × StreamReply Event} (ordered : Ordered payload lines events stream)
    (ending : Ending label) (performed : perform host eventKey label.1 stream = (label.2, after)) :
    label.2.dispatched = none ∧ ¬ after.Live := by
  rcases ending with stops | failed
  · rw [stops, perform, LarkEventStream.stop] at performed
    obtain ⟨replied, rfl⟩ := Prod.mk.inj performed
    refine ⟨by rw [← replied], ?_⟩
    split
    · simp [Live]
    · rename_i absent
      exact ordered.gone (by simpa using absent)
  · have ends := @perform_ends _ host eventKey stream label.1
    rw [performed] at ends
    exact ends failed

/-! ## A stream that is ready -/

/-- Once the stream is ready and no handler is awaited, everything received was passed on. -/
theorem Ordered.all_passed (ordered : Ordered payload lines events stream) (ready : stream.state = .ready)
    (alone : stream.awaiting = []) : events.map some = lines.map payload := by
  have idle : stream.draining = false := by
    by_contra draining
    have single := ordered.single
    rw [if_pos (by simpa using draining), alone] at single
    cases single
  have passed := ordered.live_passed (.inr ready)
  rw [ordered.drained ready idle] at passed
  obtain ⟨taken, rfl, same⟩ := passed
  rw [List.append_nil, same]

theorem perform_handled (awaited : 0 < stream.awaiting.length) : perform host eventKey (.handled 0 true) stream =
      dispatch host eventKey { stream with awaiting := stream.awaiting.eraseIdx 0 } := by
  rw [perform, if_pos awaited, onHandled, if_pos rfl]

/-- The handlers that end leave a failed stream, or one that has passed everything on. -/
theorem settles (signal : Bool)
    (ordered : Ordered (host.payload eventKey) lines events stream) (ready : stream.state = .ready) :
    ∃ replies settled, (machine host eventKey signal).system.Steps stream replies settled ∧
      (∀ reply ∈ replies, reply.1 = .handled 0 true) ∧
      (settled.state = .failed ∨ (events ++ dispatched replies).map some = lines.map (host.payload eventKey)) := by
  generalize buffered : stream.lines = buffer
  -- Each handler that ends takes one line more from the buffer.
  induction buffer generalizing stream events with
  | nil =>
    by_cases alone : stream.awaiting = []
    · refine ⟨[], stream, .done, nofun, .inr ?_⟩
      simpa [dispatched] using ordered.all_passed ready alone
    · have awaited : 0 < stream.awaiting.length := List.length_pos_iff.mpr alone
      have performed := ordered.handled true awaited
      have stepped : perform host eventKey (.handled 0 true) stream =
          (⟨none, none⟩, { stream with awaiting := stream.awaiting.eraseIdx 0, draining := false }) := by
        rw [perform_handled awaited, dispatch]
        simp [ready, buffered]
      rw [onHandled, if_pos rfl, ← perform_handled awaited, stepped] at performed
      refine ⟨[(.handled 0 true, ⟨none, none⟩)], _, .next stepped .done, by simp, .inr ?_⟩
      simpa [dispatched] using Ordered.all_passed performed ready (performed.awaiting_nil rfl)
  | cons line others ih =>
    have draining : stream.draining = true := by
      by_contra idle
      have empty := ordered.drained ready (by simpa using idle)
      rw [buffered] at empty
      cases empty
    have awaited : 0 < stream.awaiting.length := by
      rw [ordered.single, if_pos draining]
      exact Nat.one_pos
    have performed := ordered.handled true awaited
    rw [onHandled, if_pos rfl, ← perform_handled awaited] at performed
    cases read : host.payload eventKey line with
    | none =>
      have failed : (perform host eventKey (.handled 0 true) stream).2.state = .failed := by
        rw [perform_handled awaited, dispatch]
        simp [ready, buffered, read, fail]
      generalize stepped : perform host eventKey (.handled 0 true) stream = outcome at failed
      exact ⟨[(.handled 0 true, outcome.1)], outcome.2, .next stepped .done, by simp, .inl failed⟩
    | some event =>
      have stepped : perform host eventKey (.handled 0 true) stream = (⟨some event, none⟩, { stream with
            awaiting := stream.awaiting.eraseIdx 0 ++ [event], lines := others }) := by
        rw [perform_handled awaited, dispatch]
        simp [ready, buffered, read]
      rw [stepped] at performed
      obtain ⟨replies, settled, steps, handled, ends⟩ := ih performed ready rfl
      refine ⟨(.handled 0 true, ⟨some event, none⟩) :: replies, settled, .next stepped steps, ?_, ?_⟩
      · simpa using handled
      · simpa [dispatched, List.append_assoc] using ends

/-- In every order of the callbacks of one start, the events passed on are those of a
first part of the received lines, one handler is awaited at most, a stream that is ready
passes on everything it has received as its handlers end, unless it fails, and nothing
is passed on after a failure or a call of `stop`. -/
theorem stream_order (run : (machine host eventKey signal).system.Run labels stream) :
    (∃ count, (dispatched labels).map some = ((received labels).take count).map (host.payload eventKey)) ∧
      stream.awaiting.length ≤ 1 ∧
      (stream.state = .ready →
        (stream.awaiting = [] → (dispatched labels).map some = (received labels).map (host.payload eventKey)) ∧
          ∃ replies settled, (machine host eventKey signal).system.Steps stream replies settled ∧
            (∀ reply ∈ replies, reply.1 = .handled 0 true) ∧
            (settled.state = .failed ∨
              (dispatched (labels ++ replies)).map some = (received labels).map (host.payload eventKey))) ∧
      ∀ before ending after, labels = before ++ ending :: after → Ending ending →
        dispatched (ending :: after) = [] := by
  have ordered := run_ordered run
  obtain ⟨rest, passed, _⟩ := ordered.passed
  refine ⟨⟨_, passed.take_eq⟩, ?_, fun ready => ⟨ordered.all_passed ready, ?_⟩, ?_⟩
  · rw [ordered.single]
    split <;> omega
  · obtain ⟨replies, settled, steps, handled, ends⟩ := settles signal ordered ready
    refine ⟨replies, settled, steps, handled, ?_⟩
    rwa [dispatched, List.filterMap_append]
  · rintro before ending after rfl ends
    obtain ⟨state, next, prior, step, steps⟩ := run.cut
    obtain ⟨quiet, dead⟩ := ending_over (run_ordered prior) ends step
    rw [dispatched, List.filterMap_cons, quiet]
    exact over_steps steps dead

/-- A host that reads every line as itself, and throws at an empty object. -/
def echoHost : StreamHost String where
  parse line := if line = "\x7b\x7d" then none else some (.string line)
  normalizeLarkEvent _ value :=
    match value with
    | .string line => some line
    | _ => none

/-- Two lines before readiness, one after it, and an abort while the second is handled. -/
def buffered : List StreamCall :=
  [.stdout "one", .stdout " ", .stdout "two", .stderr "[event] ready event_key=im", .stdout "three",
    .handled 0 true, .abort, .handled 0 true]

theorem buffered_order : ((machine echoHost "im" true).replay buffered (starting true)).2.awaiting.length ≤ 1 ∧
      dispatched ((machine echoHost "im" true).replay buffered (starting true)).1 = ["one", "two"] := by
  refine ⟨(stream_order ((machine echoHost "im" true).replay_run buffered)).2.1, ?_⟩
  decide

end LarkEventStream

end QuarkSelfAI.Lark

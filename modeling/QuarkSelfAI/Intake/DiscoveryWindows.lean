import QuarkSelfAI.Intake.Discovery
import QuarkSelfAI.Workflow.Reports

/-!
# The windows of focus discovery

Every discovery examines a window. The windows that were delivered follow each other
without a gap from the first window on, as long as the first discovery is the first
one delivered: until then a new window goes back from the instant of its own timer.
-/

namespace QuarkSelfAI.Intake

open Foundation Storage Workflow

variable {state : DiscoveryState} {event : Event} {progress : Progress DiscoveryState}

/-- A span of time that one discovery examines. -/
structure Window where
  sequence : Nat
  starting : Timestamp
  ending : Timestamp

namespace Window

/-- The discovery of a window. -/
def effect (sources : FocusDiscoverySources) (window : Window) : EffectInput :=
  { id := s!"focus-discovery:{window.sequence}", kind := discoverSignals, availableAt := none
    payload := .object [("from", .string (toISOString window.starting)),
      ("until", .string (toISOString window.ending)), ("sources", sources.payload)] }

@[simp] theorem effect_kind (sources : FocusDiscoverySources) (window : Window) :
    (window.effect sources).kind = discoverSignals := rfl

theorem effect_id_inj {sources others : FocusDiscoverySources} {left right : Window} :
    (left.effect sources).id = (right.effect others).id ↔ left.sequence = right.sequence := by
  show s!"focus-discovery:{left.sequence}" = s!"focus-discovery:{right.sequence}" ↔ _
  simp [decimal_inj]

theorem effect_injective (sources : FocusDiscoverySources) : Function.Injective (effect sources) := by
  intro left right same
  have sequences : left.sequence = right.sequence := effect_id_inj.mp (congrArg (·.id) same)
  have endings : left.starting = right.starting ∧ left.ending = right.ending := by
    have written := JsValue.object.inj (congrArg (·.payload) same)
    simp only [List.cons.injEq, Prod.mk.injEq, JsValue.string.injEq, true_and, and_true] at written
    exact ⟨toISOString_injective written.1, toISOString_injective written.2⟩
  cases left
  cases right
  simp_all

end Window

/-- The window of the next discovery. -/
def opened (state : DiscoveryState) (event : Event) : Window :=
  { sequence := state.sequence + 1, starting := state.windowStart event.occurredAt
    ending := event.occurredAt }

/-- Whether the discovery of a window was asked for and delivered. -/
def Examined (progress : Progress DiscoveryState) (window : Window) : Prop :=
  window.effect progress.state.sources ∈ progress.effects ∧
    progress.reported "effect.delivered" (window.effect progress.state.sources)

/-- No instant is left out between the beginning of the first window and the end of an
examined one. -/
def Gapless (progress : Progress DiscoveryState) : Prop :=
  ∀ first : Window, progress.effects.head? = some (first.effect progress.state.sources) →
    ∀ latest, Examined progress latest → ∀ instant, first.starting ≤ instant → instant ≤ latest.ending →
      ∃ window, Examined progress window ∧ window.starting ≤ instant ∧ instant ≤ window.ending

/-- The condition on one event: reports answer the discoveries, and the first one
delivered is the first one asked for. -/
structure DiscoveryOrderly (progress : Progress DiscoveryState) (event : Event) : Prop where
  answers : Answers progress event
  first : event.type = "effect.delivered" → progress.state.stage = .discovering →
    progress.state.lastSuccessfulAt = none → progress.state.sequence = 1

instance (progress : Progress DiscoveryState) (event : Event) : Decidable (DiscoveryOrderly progress event) :=
  decidable_of_iff
    (Answers progress event ∧ (event.type = "effect.delivered" → progress.state.stage = .discovering →
      progress.state.lastSuccessfulAt = none → progress.state.sequence = 1))
    ⟨fun ⟨answers, first⟩ => ⟨answers, first⟩, fun orderly => ⟨orderly.answers, orderly.first⟩⟩

/-! ## What an event does -/

inductive DiscoveryStep (state : DiscoveryState) (event : Event) : WorkflowDecision DiscoveryState → Prop where
  | started (scheduled : state.stage = .scheduled) (timer : event.type = "timer") :
      DiscoveryStep state event (state.startDiscovery event)
  | delivered {decision} {ending : Timestamp} (discovering : state.stage = .discovering)
      (report : event.type = "effect.delivered") (pending : state.windowEnd = some ending)
      (settled : decision.state = { state with
        stage := .scheduled, lastSuccessfulAt := some ending, consecutiveFailures := 0 })
      (nothing : decision.effects = []) : DiscoveryStep state event decision
  | failed {decision} (discovering : state.stage = .discovering) (report : event.type = "effect.failed")
      (settled : decision.state = { state with
        stage := .scheduled, consecutiveFailures := state.consecutiveFailures + 1 })
      (nothing : decision.effects = []) : DiscoveryStep state event decision
  | kept {decision} (foreign : state.stage = .discovering → isOutcome event →
        effectKind event ≠ some discoverSignals)
      (same : decision.state = state) (nothing : decision.effects = []) :
      DiscoveryStep state event decision

theorem foreign_kind (foreign : event.payload.get "effectKind" ≠ .string discoverSignals) :
    effectKind event ≠ some discoverSignals := by
  intro own
  unfold effectKind JsValue.text? at own
  split at own
  · rename_i text found
    cases own
    exact foreign found
  · cases own

theorem discovery_step {decision : WorkflowDecision DiscoveryState} (reduced : state.reduce event = .ok decision) :
    DiscoveryStep state event decision := by
  unfold DiscoveryState.reduce at reduced
  split at reduced
  · rename_i timer
    cases reduced
    exact .started timer.1 timer.2
  · split at reduced
    · rename_i report
      unfold DiscoveryState.scheduleNext at reduced
      split at reduced
      · rename_i foreign
        cases reduced
        exact .kept (fun _ _ => foreign_kind foreign) rfl rfl
      · split at reduced
        · cases reduced
        · rename_i ending opened
          cases reduced
          exact .delivered report.1 report.2 opened rfl rfl
    · rename_i undelivered
      split at reduced
      · rename_i report
        cases reduced
        unfold DiscoveryState.retryLater
        split
        · rename_i foreign
          exact .kept (fun _ _ => foreign_kind foreign) rfl rfl
        · exact .failed report.1 report.2 rfl rfl
      · rename_i unfailed
        cases reduced
        refine .kept (fun discovering outcome => ?_) rfl rfl
        rcases of_decide_eq_true outcome with delivered | failed
        · exact absurd ⟨discovering, delivered⟩ undelivered
        · exact absurd ⟨discovering, failed⟩ unfailed

/-! ## What a run has examined -/

/-- Whether the discovery of a window was reported, as the sources of a run name it. -/
def Delivered (progress : Progress DiscoveryState) (window : Window) : Prop :=
  progress.reported "effect.delivered" (window.effect progress.state.sources)

def Answered (progress : Progress DiscoveryState) (window : Window) : Prop :=
  progress.answered (window.effect progress.state.sources)

/-- Every instant from the first window's beginning up to an end is examined. -/
def Reaches (progress : Progress DiscoveryState) (windows : List Window) (ending : Timestamp) : Prop :=
  ∀ first ∈ windows.head?, ∀ instant, first.starting ≤ instant → instant ≤ ending →
    ∃ window ∈ windows, Delivered progress window ∧ window.starting ≤ instant ∧ instant ≤ window.ending

/-- The windows asked for are numbered, only the one under way is unanswered, and the
delivered ones reach from the first to each of their ends. -/
structure Scanned (windows : List Window) (progress : Progress DiscoveryState) : Prop where
  asked : progress.effects = windows.map (Window.effect progress.state.sources)
  numbered : windows.map (·.sequence) = List.range' 1 progress.state.sequence
  ahead : ∀ window : Window, progress.state.sequence < window.sequence → ¬ Answered progress window
  settled : ∀ window ∈ windows, ¬ Answered progress window →
    progress.state.stage = .discovering ∧ window.sequence = progress.state.sequence
  current : progress.state.stage = .discovering → ∃ window ∈ windows,
    window.sequence = progress.state.sequence ∧ progress.state.windowEnd = some window.ending ∧
      window.starting = progress.state.windowStart window.ending
  unexamined : progress.state.lastSuccessfulAt = none → ∀ window ∈ windows, ¬ Delivered progress window
  last : ∀ ending ∈ progress.state.lastSuccessfulAt, ∃ window ∈ windows,
    Delivered progress window ∧ window.ending = ending
  reached : ∀ window ∈ windows, Delivered progress window → Reaches progress windows window.ending

theorem Scanned.gapless {windows : List Window} (here : Scanned windows progress) : Gapless progress := by
  have known : ∀ {window : Window}, Examined progress window ↔ window ∈ windows ∧ Delivered progress window := by
    intro window
    unfold Examined
    rw [here.asked, List.mem_map_of_injective (Window.effect_injective _)]
    rfl
  intro first head latest examined instant after before
  rw [here.asked, List.head?_map] at head
  obtain ⟨asked, delivered⟩ := known.mp examined
  have same : windows.head? = some first := Option.map_injective (Window.effect_injective _) (by simpa using head)
  obtain ⟨window, listed, reported, around⟩ := here.reached latest asked delivered first same instant after before
  exact ⟨window, known.mpr ⟨listed, reported⟩, around⟩

/-! ## One step -/

section

variable {windows : List Window} {decision : WorkflowDecision DiscoveryState} {window : Window}

theorem delivered_next (same : decision.state.sources = progress.state.sources) :
    Delivered (progress.next event decision) window ↔ Delivered progress window ∨
      reportsOn "effect.delivered" (window.effect progress.state.sources) event := by
  change (progress.next event decision).reported _ (window.effect decision.state.sources) = true ↔ _
  rw [same, Progress.reported_next, Bool.or_eq_true]
  rfl

theorem answered_next (same : decision.state.sources = progress.state.sources) :
    Answered (progress.next event decision) window ↔ Answered progress window ∨
      reportsOn "effect.delivered" (window.effect progress.state.sources) event ∨
      reportsOn "effect.failed" (window.effect progress.state.sources) event := by
  change (progress.next event decision).answered (window.effect decision.state.sources) = true ↔ _
  rw [same, Progress.answered_next, Bool.or_eq_true, Bool.or_eq_true]
  rfl

theorem Delivered.answered (delivered : Delivered progress window) : Answered progress window :=
  Progress.answered_of_reported (.inl rfl) delivered

namespace Scanned

/-- A report answers the discovery under way, and no other. -/
theorem report (here : Scanned windows progress) (answers : Answers progress event) (outcome : isOutcome event) :
    progress.state.stage = .discovering ∧ effectKind event = some discoverSignals ∧
      ∀ type, ∀ window : Window, reportsOn type (window.effect progress.state.sources) event ↔
        event.type = type ∧ window.sequence = progress.state.sequence := by
  obtain ⟨effect, asked, reports, unanswered⟩ := answers outcome
  rw [here.asked] at asked
  obtain ⟨answering, listed, rfl⟩ := List.mem_map.mp asked
  obtain ⟨discovering, sequence⟩ := here.settled answering listed (by simp [Answered, unanswered])
  obtain ⟨-, id, kind⟩ := reportsOn_spec.mp reports
  refine ⟨discovering, kind, fun type window => ?_⟩
  have own : effectIdOf event = some (window.effect progress.state.sources).id ↔
      window.sequence = progress.state.sequence := by
    rw [id, Option.some_inj, Window.effect_id_inj, sequence, eq_comm]
  rw [reportsOn_spec, own, kind]
  simp

theorem sequence_inj (here : Scanned windows progress) {left right : Window} (inLeft : left ∈ windows)
    (inRight : right ∈ windows) (same : left.sequence = right.sequence) : left = right := by
  have distinct : (windows.map (·.sequence)).Nodup := by
    rw [here.numbered]
    exact List.nodup_range'
  exact List.inj_on_of_nodup_map distinct inLeft inRight same

/-- A timer opens a window that no report names yet. -/
theorem started (here : Scanned windows progress) (scheduled : progress.state.stage = .scheduled)
    (timer : event.type = "timer") : Scanned (windows ++ [opened progress.state event])
      (progress.next event (progress.state.startDiscovery event)) := by
  have unreported : ∀ type, "timer" ≠ type → ∀ window : Window,
      reportsOn type (window.effect progress.state.sources) event = false :=
    fun type other window => reportsOn_other timer other
  have delivered : ∀ window : Window,
      Delivered (progress.next event (progress.state.startDiscovery event)) window ↔ Delivered progress window := by
    intro window
    rw [delivered_next rfl, unreported _ (by decide)]
    simp
  have answered : ∀ window : Window,
      Answered (progress.next event (progress.state.startDiscovery event)) window ↔ Answered progress window := by
    intro window
    rw [answered_next rfl, unreported _ (by decide), unreported _ (by decide)]
    simp
  have new : ¬ Answered progress (opened progress.state event) := here.ahead _ (Nat.lt_succ_self _)
  have old : ∀ window ∈ windows ++ [opened progress.state event], Delivered progress window → window ∈ windows := by
    intro window listed reported
    rcases List.mem_append.mp listed with before | added
    · exact before
    · rw [List.mem_singleton.mp added] at reported
      exact absurd reported.answered new
  refine ⟨?_, ?_, ?_, ?_, ?_, ?_, ?_, ?_⟩
  · change progress.effects ++ [(opened progress.state event).effect progress.state.sources] = _
    rw [here.asked, List.map_append]
    rfl
  · change _ = List.range' 1 (progress.state.sequence + 1)
    rw [List.map_append, here.numbered, List.range'_concat]
    simp [opened, Nat.add_comm]
  · intro window later
    rw [answered]
    exact here.ahead window (Nat.lt_of_succ_lt later)
  · intro window listed unanswered
    rw [answered] at unanswered
    rcases List.mem_append.mp listed with before | added
    · have discovering := (here.settled window before unanswered).1
      rw [scheduled] at discovering
      cases discovering
    · rw [List.mem_singleton.mp added]
      exact ⟨rfl, rfl⟩
  · intro _
    exact ⟨opened progress.state event, by simp, rfl, rfl, rfl⟩
  · intro unsuccessful window listed reported
    rw [delivered] at reported
    exact here.unexamined unsuccessful window (old window listed reported) reported
  · intro ending successful
    obtain ⟨window, listed, reported, ends⟩ := here.last ending successful
    exact ⟨window, List.mem_append_left _ listed, (delivered window).mpr reported, ends⟩
  · intro latest listed reported first head instant after before
    rw [delivered] at reported
    have known := old latest listed reported
    have same : first ∈ windows.head? := by
      rw [List.head?_append_of_ne_nil _ (List.ne_nil_of_mem known)] at head
      exact head
    obtain ⟨window, found, covers, around⟩ := here.reached latest known reported first same instant after before
    exact ⟨window, List.mem_append_left _ found, (delivered window).mpr covers, around⟩

/-- A report closes the discovery under way. -/
theorem closed (here : Scanned windows progress) (answers : Answers progress event)
    (report : event.type = "effect.delivered" ∨ event.type = "effect.failed") {success : Option Timestamp}
    {failures : Nat} (settled : decision.state = { progress.state with
      stage := .scheduled, lastSuccessfulAt := success, consecutiveFailures := failures })
    (nothing : decision.effects = [])
    (unexamined : success = none → ∀ window ∈ windows, ¬ Delivered (progress.next event decision) window)
    (last : ∀ ending ∈ success, ∃ window ∈ windows,
      Delivered (progress.next event decision) window ∧ window.ending = ending)
    (reached : ∀ window ∈ windows, Delivered (progress.next event decision) window →
      Reaches (progress.next event decision) windows window.ending) :
    Scanned windows (progress.next event decision) := by
  have sources : decision.state.sources = progress.state.sources := by rw [settled]
  obtain ⟨-, -, names⟩ := here.report answers (by simpa [isOutcome] using report)
  have answered : ∀ window : Window, Answered (progress.next event decision) window ↔
      Answered progress window ∨ window.sequence = progress.state.sequence := by
    intro window
    rw [answered_next sources, names, names, ← or_and_right, and_iff_right report]
  refine ⟨?_, ?_, ?_, ?_, ?_, ?_, ?_, reached⟩
  · change progress.effects ++ decision.effects = windows.map (Window.effect decision.state.sources)
    rw [nothing, sources, List.append_nil]
    exact here.asked
  · change _ = List.range' 1 decision.state.sequence
    rw [settled]
    exact here.numbered
  · intro window later
    change decision.state.sequence < window.sequence at later
    rw [settled] at later
    rw [answered]
    rintro (before | now)
    · exact here.ahead window later before
    · exact absurd now (Nat.ne_of_gt later)
  · intro window listed unanswered
    rw [answered, not_or] at unanswered
    exact absurd (here.settled window listed unanswered.1).2 unanswered.2
  · intro stage
    change decision.state.stage = .discovering at stage
    rw [settled] at stage
    cases stage
  · change decision.state.lastSuccessfulAt = none → _
    rw [settled]
    exact unexamined
  · change ∀ ending ∈ decision.state.lastSuccessfulAt, _
    rw [settled]
    exact last

/-- A delivery examines the window under way; it reaches back to what was examined before. -/
theorem delivered (here : Scanned windows progress) (orderly : DiscoveryOrderly progress event)
    {ending : Timestamp} (discovering : progress.state.stage = .discovering)
    (report : event.type = "effect.delivered") (pending : progress.state.windowEnd = some ending)
    (settled : decision.state = { progress.state with
      stage := .scheduled, lastSuccessfulAt := some ending, consecutiveFailures := 0 })
    (nothing : decision.effects = []) : Scanned windows (progress.next event decision) := by
  have sources : decision.state.sources = progress.state.sources := by rw [settled]
  obtain ⟨-, -, names⟩ := here.report orderly.answers (by simp [isOutcome, report])
  have delivered : ∀ window : Window, Delivered (progress.next event decision) window ↔
      Delivered progress window ∨ window.sequence = progress.state.sequence := by
    intro window
    rw [delivered_next sources, names]
    simp [report]
  obtain ⟨current, known, sequence, closing, begun⟩ := here.current discovering
  have ends : current.ending = ending := Option.some_inj.mp (closing.symm.trans pending)
  refine here.closed orderly.answers (.inl report) settled nothing ?_ ?_ ?_
  · intro unsuccessful
    cases unsuccessful
  · intro other successful
    cases successful
    exact ⟨current, known, (delivered current).mpr (.inr sequence), ends⟩
  · intro latest listed reported first head instant after before
    have again : ∀ {window : Window}, window ∈ windows → Delivered progress window →
        instant ≤ window.ending → ∃ window ∈ windows, Delivered (progress.next event decision) window ∧
          window.starting ≤ instant ∧ instant ≤ window.ending := by
      intro window known reported before
      obtain ⟨covering, found, covers, around⟩ := here.reached window known reported first head instant after before
      exact ⟨covering, found, (delivered covering).mpr (.inl covers), around⟩
    rcases (delivered latest).mp reported with earlier | now
    · exact again listed earlier before
    · cases here.sequence_inj listed known (now.trans sequence.symm)
      have examined := (delivered current).mpr (.inr sequence)
      rw [DiscoveryState.windowStart] at begun
      cases successful : progress.state.lastSuccessfulAt with
      | none =>
        -- The first delivery is of the first discovery, so its window is the first one.
        have only : windows.map (·.sequence) = [1] := by
          rw [here.numbered, orderly.first report discovering successful]
          rfl
        obtain ⟨single, rfl, -⟩ := List.map_eq_singleton_iff.mp only
        cases List.mem_singleton.mp known
        cases head
        exact ⟨current, known, examined, after, before⟩
      | some last =>
        obtain ⟨previous, found, covers, closes⟩ := here.last last successful
        by_cases within : instant ≤ last
        · exact again found covers (closes ▸ within)
        · refine ⟨current, known, examined, ?_, before⟩
          rw [begun, successful, Option.getD_some]
          have back : last - progress.state.overlapMs ≤ last := Int.sub_le_self last (Int.natCast_nonneg _)
          exact back.trans (le_of_not_ge within)

/-- A failure leaves the windows as they are; the next one goes back to the same instant. -/
theorem failed (here : Scanned windows progress) (answers : Answers progress event)
    (report : event.type = "effect.failed") (settled : decision.state = { progress.state with
      stage := .scheduled, consecutiveFailures := progress.state.consecutiveFailures + 1 })
    (nothing : decision.effects = []) : Scanned windows (progress.next event decision) := by
  have sources : decision.state.sources = progress.state.sources := by rw [settled]
  obtain ⟨-, -, names⟩ := here.report answers (by simp [isOutcome, report])
  have delivered : ∀ window : Window, Delivered (progress.next event decision) window ↔ Delivered progress window := by
    intro window
    rw [delivered_next sources, names]
    simp [report]
  refine here.closed answers (.inr report) settled nothing ?_ ?_ ?_
  · simpa only [delivered] using here.unexamined
  · simpa only [delivered] using here.last
  · intro latest listed reported
    rw [delivered] at reported
    simpa only [Reaches, delivered] using here.reached latest listed reported

/-- What is no report of a discovery changes nothing. -/
theorem kept (here : Scanned windows progress) (answers : Answers progress event)
    (foreign : progress.state.stage = .discovering → isOutcome event → effectKind event ≠ some discoverSignals)
    (same : decision.state = progress.state) (nothing : decision.effects = []) :
    Scanned windows (progress.next event decision) := by
  have quiet : isOutcome event = false := by
    by_contra reports
    have outcome : isOutcome event = true := by simpa using reports
    obtain ⟨discovering, own, -⟩ := here.report answers outcome
    exact foreign discovering outcome own
  have sources : decision.state.sources = progress.state.sources := by rw [same]
  have unreported : ∀ type, type = "effect.delivered" ∨ type = "effect.failed" → ∀ window : Window,
      reportsOn type (window.effect progress.state.sources) event = false := by
    rintro type outcome window
    refine reportsOn_other rfl fun is => ?_
    simp only [isOutcome, is, outcome, decide_true] at quiet
    cases quiet
  have delivered : ∀ window : Window, Delivered (progress.next event decision) window ↔ Delivered progress window := by
    intro window
    rw [delivered_next sources, unreported _ (.inl rfl)]
    simp
  have answered : ∀ window : Window, Answered (progress.next event decision) window ↔ Answered progress window := by
    intro window
    rw [answered_next sources, unreported _ (.inl rfl), unreported _ (.inr rfl)]
    simp
  have state : (progress.next event decision).state = progress.state := same
  refine ⟨?_, ?_, ?_, ?_, ?_, ?_, ?_, ?_⟩
  · change progress.effects ++ decision.effects = windows.map (Window.effect decision.state.sources)
    rw [nothing, sources, List.append_nil]
    exact here.asked
  · simpa only [state] using here.numbered
  · simpa only [state, answered] using here.ahead
  · simpa only [state, answered] using here.settled
  · simpa only [state] using here.current
  · simpa only [state, delivered] using here.unexamined
  · simpa only [state, delivered] using here.last
  · simpa only [Reaches, delivered] using here.reached

theorem step (here : Scanned windows progress) (orderly : DiscoveryOrderly progress event)
    (reduced : progress.state.reduce event = .ok decision) :
    ∃ windows, Scanned windows (progress.next event decision) := by
  cases discovery_step reduced with
  | started scheduled timer => exact ⟨_, here.started scheduled timer⟩
  | delivered discovering report pending settled nothing =>
    exact ⟨windows, here.delivered orderly discovering report pending settled nothing⟩
  | failed discovering report settled nothing => exact ⟨windows, here.failed orderly.answers report settled nothing⟩
  | kept foreign same nothing => exact ⟨windows, here.kept orderly.answers foreign same nothing⟩

end Scanned

end

/-! ## Runs -/

theorem scanned_began {input : JsValue} {now : Timestamp} {decision : WorkflowDecision DiscoveryState}
    (begun : initialiseDiscovery input now = .ok decision) : Scanned [] (.began decision) := by
  unfold initialiseDiscovery at begun
  obtain ⟨intervalMs, -, begun⟩ := bind_ok.mp begun
  obtain ⟨overlapMs, -, begun⟩ := bind_ok.mp begun
  split at begun
  · cases begun
  · obtain ⟨retryMs, -, begun⟩ := bind_ok.mp begun
    obtain ⟨sources, -, begun⟩ := bind_ok.mp begun
    cases begun
    refine ⟨rfl, rfl, ?_, by simp, ?_, by simp, ?_, by simp⟩
    · intro window later answered
      cases answered
    · intro stage
      cases stage
    · intro ending successful
      cases successful

/-- The delivered windows of a run leave no gap. -/
theorem discovery_run_gapless {events : List Event}
    (run : ((folding focusDiscoveryWorkflow).restricted DiscoveryOrderly).Run events progress) : Gapless progress := by
  have scanned : ∃ windows, Scanned windows progress := by
    refine run.history (motive := fun _ progress => ∃ windows, Scanned windows progress) ?_ ?_
    · rintro progress ⟨input, now, decision, begun, rfl⟩
      exact ⟨[], scanned_began begun⟩
    · rintro events event before after - ⟨windows, here⟩ ⟨⟨-, -, decision, reduced, rfl⟩, orderly⟩
      exact here.step orderly reduced
  obtain ⟨windows, here⟩ := scanned
  exact here.gapless

/-! ## Two mornings -/

/-- Half-hourly discovery that began at eight in the morning. -/
def morningInput : JsValue :=
  .object [("intervalMs", .number 1800000), ("sources", .object [("ownerOpenId", "ou_owner"),
    ("senderIds", .array []), ("conversationIds", .array [])])]

def morningState : DiscoveryState :=
  { stage := .scheduled, intervalMs := 1800000, overlapMs := 120000, retryMs := 1800000, sequence := 0
    sources := { ownerOpenId := "ou_owner", senderIds := [], conversationIds := []
                 includeOwnerParticipation := true, includeFlaggedConversations := true
                 includeDirectMessages := true, includeMentionBackfill := true
                 feedGroupNames := ["特别关注"] }
    lastSuccessfulAt := none, windowEnd := none, consecutiveFailures := 0 }

def morningStart : WorkflowDecision DiscoveryState :=
  { status := .waiting, state := morningState, wakeAt := some (some 28800000), effects := [] }

theorem morning_begun : focusDiscoveryWorkflow.initialise morningInput 28800000 = .ok morningStart := by
  rfl

/-- The report of a discovery. -/
def discoveryReport (sequence : Nat) (outcome : String) (occurredAt : Timestamp) : Event :=
  { id := s!"effect:focus-discovery:{sequence}:{outcome}", type := s!"effect.{outcome}", occurredAt
    payload := .object [("effectId", .string s!"focus-discovery:{sequence}"), ("effectKind", discoverSignals)] }

/-- The first discovery fails a minute after eight, the next one is delivered. -/
theorem outage_not_gapless : ∃ events progress, ((folding focusDiscoveryWorkflow).restricted fun progress event =>
      Answers progress event ∧ Due progress event).Run events progress ∧
      (events.map (·.occurredAt)).Pairwise (· < ·) ∧ ¬ Gapless progress := by
  let first : Window := { sequence := 1, starting := 26880000, ending := 28800000 }
  let second : Window := { sequence := 2, starting := 28740000, ending := 30660000 }
  obtain ⟨progress, replayed, asked, failed, delivered⟩ : ∃ progress,
      replay focusDiscoveryWorkflow (fun progress event => Answers progress event ∧ Due progress event)
        [.timer 28800000 28800000, .other (discoveryReport 1 "failed" 28860000),
          .timer 30660000 30660000, .other (discoveryReport 2 "delivered" 30720000)]
        (.began morningStart) = some progress ∧
      progress.effects = [first.effect progress.state.sources, second.effect progress.state.sources] ∧
      progress.reported "effect.delivered" (first.effect progress.state.sources) = false ∧
      progress.reported "effect.delivered" (second.effect progress.state.sources) = true :=
    ⟨_, rfl, rfl, by decide, by decide⟩
  refine ⟨_, progress, replay_run morning_begun replayed, by decide, fun gapless => ?_⟩
  have examined : Examined progress second := ⟨by simp [asked], delivered⟩
  obtain ⟨window, ⟨listed, reported⟩, after, -⟩ := gapless first (by simp [asked]) second examined
    26880000 (by decide) (by decide)
  rw [asked, List.mem_pair] at listed
  rcases listed with same | same
  · rw [same, failed] at reported
    cases reported
  · rw [Window.effect_injective _ same] at after
    exact absurd after (by decide)

/-- Once the first discovery was delivered, a failure leaves no gap. -/
theorem morning_gapless : ∃ progress, Gapless progress ∧
    progress.effects.map (·.id) = ["focus-discovery:1", "focus-discovery:2", "focus-discovery:3"] := by
  obtain ⟨progress, replayed, ids⟩ : ∃ progress, replay focusDiscoveryWorkflow DiscoveryOrderly
        [.timer 28800000 28800000, .other (discoveryReport 1 "delivered" 28860000),
          .timer 30660000 30660000, .other (discoveryReport 2 "failed" 30720000),
          .timer 32520000 32520000, .other (discoveryReport 3 "delivered" 32580000)]
        (.began morningStart) = some progress ∧
      progress.effects.map (·.id) = ["focus-discovery:1", "focus-discovery:2", "focus-discovery:3"] :=
    ⟨_, rfl, rfl⟩
  exact ⟨progress, discovery_run_gapless (replay_run morning_begun replayed), ids⟩

end QuarkSelfAI.Intake

import QuarkSelfAI.Workflow.Folding
import QuarkSelfAI.Workflow.Host

/-!
# Reports and due timers

What the runtime keeps to when it makes events itself: an outcome names an effect the
instance asked for, by its id and kind, and an effect has one outcome at most; a timer
is given once the wake time it was set for has come.
-/

namespace QuarkSelfAI.Workflow

open Foundation Storage

variable {State : Type}

/-- An event of a type that reports one effect. -/
def reportsOn (type : String) (effect : EffectInput) (event : Event) : Bool :=
  event.type = type ∧ effectIdOf event = some effect.id ∧ effectKind event = some effect.kind

/-- An event that reports an effect of a kind with an outcome. -/
def Reports (type kind : String) (event : Event) : Prop := event.type = type ∧ effectKind event = some kind

instance (type kind : String) (event : Event) : Decidable (Reports type kind event) :=
  inferInstanceAs (Decidable (event.type = type ∧ effectKind event = some kind))

namespace Progress

variable {progress : Progress State} {event : Event} {decision : WorkflowDecision State}
  {effect : EffectInput} {type : String}

/-- Whether an effect was reported with an outcome. -/
def reported (progress : Progress State) (type : String) (effect : EffectInput) : Bool :=
  progress.applied.any fun entry => reportsOn type effect entry.2

/-- Whether an effect has its outcome. -/
def answered (progress : Progress State) (effect : EffectInput) : Bool :=
  progress.reported "effect.delivered" effect || progress.reported "effect.failed" effect

@[simp] theorem reported_began : (began decision).reported type effect = false := rfl

@[simp] theorem reported_next : (progress.next event decision).reported type effect =
    (progress.reported type effect || reportsOn type effect event) := by
  simp [reported, next]

theorem answered_of_reported (outcome : type = "effect.delivered" ∨ type = "effect.failed")
    (reported : progress.reported type effect) : progress.answered effect := by
  unfold answered
  rcases outcome with rfl | rfl <;> simp [reported]

theorem answered_next : (progress.next event decision).answered effect =
    (progress.answered effect || (reportsOn "effect.delivered" effect event ||
      reportsOn "effect.failed" effect event)) := by
  simp only [answered, reported_next]
  ac_rfl

end Progress

/-- An outcome is the first one of an effect that was asked for. -/
def Answers (progress : Progress State) (event : Event) : Prop :=
  isOutcome event → ∃ effect ∈ progress.effects, reportsOn event.type effect event ∧ progress.answered effect = false

instance (progress : Progress State) (event : Event) : Decidable (Answers progress event) :=
  inferInstanceAs (Decidable (isOutcome event → ∃ effect ∈ progress.effects,
    reportsOn event.type effect event ∧ progress.answered effect = false))

/-- A timer is the one of the current wake time, and that has come. -/
def Due (progress : Progress State) (event : Event) : Prop :=
  event.type = "timer" → ∃ scheduledAt ∈ progress.wakeAt,
    event = Runtime.timerEvent scheduledAt event.occurredAt ∧ scheduledAt ≤ event.occurredAt

instance (progress : Progress State) (event : Event) : Decidable (Due progress event) :=
  inferInstanceAs (Decidable (event.type = "timer" → ∃ scheduledAt ∈ progress.wakeAt,
    event = Runtime.timerEvent scheduledAt event.occurredAt ∧ scheduledAt ≤ event.occurredAt))

theorem reportsOn_spec {type : String} {effect : EffectInput} {event : Event} : reportsOn type effect event ↔
      event.type = type ∧ effectIdOf event = some effect.id ∧ effectKind event = some effect.kind := by
  simp [reportsOn]

theorem reportsOn_other {type other : String} {effect : EffectInput} {event : Event}
    (is : event.type = other) (different : other ≠ type) : reportsOn type effect event = false := by
  simp [reportsOn, is, different]

/-! ## Runs whose outcomes are answers -/

section

variable {progress : Progress State} {event : Event} {decision : WorkflowDecision State} {type : String}

/-- Every outcome is one of an effect that was asked for. -/
def Heard (progress : Progress State) : Prop :=
  ∀ entry ∈ progress.applied, isOutcome entry.2 → ∃ effect ∈ progress.effects, reportsOn entry.2.type effect entry.2

/-- No effect was both delivered and failed. -/
def Once (progress : Progress State) : Prop :=
  ∀ effect, progress.reported "effect.delivered" effect → ¬ progress.reported "effect.failed" effect

theorem Heard.next (heard : Heard progress) (answers : Answers progress event) :
    Heard (progress.next event decision) := by
  intro entry listed outcome
  rcases List.mem_append.mp listed with before | now
  · obtain ⟨effect, asked, reports⟩ := heard entry before outcome
    exact ⟨effect, List.mem_append_left _ asked, reports⟩
  · cases List.mem_singleton.mp now
    obtain ⟨effect, asked, reports, -⟩ := answers outcome
    exact ⟨effect, List.mem_append_left _ asked, reports⟩

/-- An effect that was not asked for has no outcome. -/
theorem Heard.unreported (heard : Heard progress) {effect : EffectInput}
    (outcome : type = "effect.delivered" ∨ type = "effect.failed")
    (fresh : ∀ asked ∈ progress.effects, asked.id ≠ effect.id) : progress.reported type effect = false := by
  rw [Progress.reported, List.any_eq_false]
  intro entry listed reports
  obtain ⟨is, id, -⟩ := reportsOn_spec.mp reports
  obtain ⟨asked, known, own⟩ := heard entry listed (by simp [isOutcome, is, outcome])
  obtain ⟨-, same, -⟩ := reportsOn_spec.mp own
  exact fresh asked known (Option.some_inj.mp (same.symm.trans id))

theorem reported_congr {effect other : EffectInput} (id : effect.id = other.id)
    (kind : effect.kind = other.kind) : progress.reported type effect = progress.reported type other := by
  simp only [Progress.reported, reportsOn, id, kind]

/-- An outcome is about no effect that had one. -/
theorem Answers.unanswered (answers : Answers progress event) {effect : EffectInput}
    (outcome : isOutcome event) (reports : reportsOn type effect event) : progress.answered effect = false := by
  obtain ⟨asked, -, own, unanswered⟩ := answers outcome
  obtain ⟨-, id, kind⟩ := reportsOn_spec.mp own
  obtain ⟨-, otherId, otherKind⟩ := reportsOn_spec.mp reports
  have sameId : effect.id = asked.id := Option.some_inj.mp (otherId.symm.trans id)
  have sameKind : effect.kind = asked.kind := Option.some_inj.mp (otherKind.symm.trans kind)
  simp only [Progress.answered, reported_congr sameId sameKind]
  exact unanswered

theorem Once.next (once : Once progress) (answers : Answers progress event) : Once (progress.next event decision) := by
  intro effect delivered failed
  rw [Progress.reported_next, Bool.or_eq_true] at delivered failed
  have outcome : ∀ {type : String}, type = "effect.delivered" ∨ type = "effect.failed" →
      reportsOn type effect event → isOutcome event := by
    intro type is reports
    simp [isOutcome, (reportsOn_spec.mp reports).1, is]
  have answered : ∀ {type : String}, type = "effect.delivered" ∨ type = "effect.failed" →
      reportsOn type effect event → ¬ progress.answered effect := by
    intro type is reports
    simp [answers.unanswered (outcome is reports) reports]
  rcases delivered with before | now
  · rcases failed with also | after
    · exact once effect before also
    · exact answered (.inr rfl) after (Progress.answered_of_reported (.inl rfl) before)
  · rcases failed with before | also
    · exact answered (.inl rfl) now (Progress.answered_of_reported (.inr rfl) before)
    · exact absurd ((reportsOn_spec.mp now).1.symm.trans (reportsOn_spec.mp also).1) (by decide)

theorem run_answers {definition : WorkflowDefinition State} {meets : Progress State → Event → Prop}
    (answering : ∀ {progress event}, meets progress event → Answers progress event) {events : List Event}
    (run : ((folding definition).restricted meets).Run events progress) : Heard progress ∧ Once progress := by
  refine run.history (motive := fun _ progress => Heard progress ∧ Once progress) ?_ ?_
  · rintro progress ⟨input, now, decision, begun, rfl⟩
    refine ⟨?_, ?_⟩
    · intro entry listed
      cases listed
    · intro effect delivered
      cases delivered
  · rintro events event before after - ⟨heard, once⟩ ⟨⟨-, -, decision, reduced, rfl⟩, met⟩
    exact ⟨heard.next (answering met), once.next (answering met)⟩

/-- Every effect that was asked for was delivered. -/
def Settled (progress : Progress State) : Prop :=
  ∀ effect ∈ progress.effects, progress.reported "effect.delivered" effect

instance (progress : Progress State) : Decidable (Settled progress) :=
  inferInstanceAs (Decidable (∀ effect ∈ progress.effects, progress.reported "effect.delivered" effect))

/-- Where every effect was delivered none is reported to have failed. -/
theorem Settled.unfailed (settled : Settled progress) (heard : Heard progress) (once : Once progress) :
    ∀ entry ∈ progress.applied, entry.2.type ≠ "effect.failed" := by
  intro entry listed failed
  obtain ⟨effect, asked, reports⟩ := heard entry listed (by simp [isOutcome, failed])
  rw [failed] at reports
  exact once effect (settled effect asked) (List.any_eq_true.mpr ⟨entry, listed, reports⟩)

end

/-- The report of one effect. -/
def effectReport (effectId kind outcome : String) (result : List (String × JsValue)) (occurredAt : Timestamp) : Event :=
  { id := s!"effect:{effectId}:{outcome}", type := s!"effect.{outcome}", occurredAt
    payload := .object (result ++ [("effectId", JsValue.string effectId), ("effectKind", kind)]) }

end QuarkSelfAI.Workflow

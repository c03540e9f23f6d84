import QuarkSelfAI.Workflow.Passes

/-!
# One outcome per effect

An outcome event is recorded before the effect row is updated. As long as nothing
comes between the two, and only the pass that holds an effect reports on it, no
effect is reported both delivered and failed: the row says which report was made,
or the one pass that made it is about to update the row.
-/

namespace QuarkSelfAI.Workflow

open Foundation Storage Storage.WorkflowStore

/-! ## Reports -/

inductive Verdict where
  | delivered
  | failed

namespace Verdict

/-- The event that reports a verdict. -/
def eventId : Verdict → String → String
  | .delivered, effectId => "effect:" ++ effectId ++ ":delivered"
  | .failed, effectId => "effect:" ++ effectId ++ ":failed"

/-- The status the row gets after the report. -/
def status : Verdict → EffectStatus
  | .delivered => .delivered
  | .failed => .failed

theorem eventId_eq (verdict : Verdict) (effectId : String) : ∃ word : String, ':' ∉ word.toList ∧
    verdict.eventId effectId = ("effect:" ++ effectId) ++ (':'.toString ++ word) ∧
    (verdict = .delivered ↔ word = "delivered") := by
  cases verdict with
  | delivered =>
    refine ⟨"delivered", by decide, ?_, by simp⟩
    rw [show (':'.toString ++ "delivered" : String) = ":delivered" by decide]
    rfl
  | failed =>
    refine ⟨"failed", by decide, ?_, by simp⟩
    rw [show (':'.toString ++ "failed" : String) = ":failed" by decide]
    rfl

/-- A report event names its verdict and its effect. -/
theorem eventId_inj {verdict other : Verdict} {effectId otherId : String} :
    verdict.eventId effectId = other.eventId otherId ↔ verdict = other ∧ effectId = otherId := by
  constructor
  · intro same
    obtain ⟨word, plain, left, delivered⟩ := eventId_eq verdict effectId
    obtain ⟨otherWord, otherPlain, right, otherDelivered⟩ := eventId_eq other otherId
    rw [left, right] at same
    obtain ⟨ids, words⟩ := (suffixed_inj plain otherPlain).mp same
    refine ⟨?_, by simpa using ids⟩
    have agree : verdict = .delivered ↔ other = .delivered := by rw [delivered, otherDelivered, words]
    cases verdict <;> cases other <;> simp_all
  · rintro ⟨rfl, rfl⟩
    rfl

theorem eventId_reserved (verdict : Verdict) (effectId : String) :
    startsWith (verdict.eventId effectId) "effect:" = true := by
  cases verdict <;> simp [eventId, startsWith, List.isPrefixOf]

end Verdict

variable {effect : ClaimedEffect}

namespace Phase

/-- The effect a pass works on. -/
def effect? : Phase → Option ClaimedEffect
  | .idle => none
  | .executing effect | .delivering effect _ | .settling effect _ | .failing effect _
  | .releasing effect _ _ => some effect

/-- The report a pass has made without having updated the row. -/
def reported? : Phase → Option (Verdict × ClaimedEffect)
  | .settling effect _ => some (.delivered, effect)
  | .releasing effect _ .reported => some (.failed, effect)
  | _ => none

theorem effect?_of_reported {phase : Phase} {verdict : Verdict}
    (made : phase.reported? = some (verdict, effect)) : phase.effect? = some effect := by
  unfold reported? at made
  split at made <;> cases made <;> rfl

end Phase

variable {Process State : Type} {row : WorkflowEffectRow JsValue Timestamp}

/-- No effect was reported both delivered and failed to the same instance. -/
def Exclusive (store : Store State) : Prop :=
  ∀ instanceId effectId, ¬ (Runtime.recorded store instanceId ("effect:" ++ effectId ++ ":delivered") ∧
    Runtime.recorded store instanceId ("effect:" ++ effectId ++ ":failed"))

/-! ## Runs in which nothing comes between a report and its row -/

/-- The claim a pass was given is the one the row still carries. -/
def Holds (store : Store State) (workerId : String) (effect : ClaimedEffect) : Prop :=
  ∃ row, store.effects.find? effect.id = some row ∧ row.status = .dispatching ∧
    row.leaseOwner = some workerId ∧ row.attempt = effect.attempt

/-- No other pass is between its report on an effect and the row update. -/
def Undisturbed (world : World Process State) (process : Process) (effectId : String) : Prop :=
  ∀ other ≠ process, ∀ verdict effect, (world.phase other).reported? = some (verdict, effect) → effect.id ≠ effectId

/-- The condition on one step. -/
def Orderly (runtimes : Process → Runtime State) (world : World Process State) : Process × Action State → Prop
  | (process, .claim now) => ∀ row, world.store.nextEffect now = some row →
      Undisturbed world process row.id
  | (process, .deliver (.ok _) _) | (process, .fail (.ok _) _) =>
      ∀ effect, (world.phase process).effect? = some effect →
        Holds world.store (runtimes process).config.workerId effect
  | (_, .settle fault) => fault = none
  | (process, .release _ fault) =>
      ((world.phase process).reported? ≠ none → fault = none) ∧
        ∀ effect, (world.phase process).effect? = some effect → Undisturbed world process effect.id
  | (process, .stop) => (world.phase process).reported? = none
  | _ => True

/-! ## What the store calls of a pass do -/

section Calls

variable [DecidableEq State] {runtime : Runtime State} {before after : Store State}

/-- Stored effects are kept, and the given events are the only new ones. -/
structure Grows (before after : Store State) (added : String → String → Prop) : Prop where
  effects : ∀ {id row}, before.effects.find? id = some row → after.effects.find? id = some row
  events : ∀ {instanceId eventId}, Runtime.recorded after instanceId eventId →
    Runtime.recorded before instanceId eventId ∨ added instanceId eventId

omit [DecidableEq State] in
theorem grows_advance {input : AdvanceWorkflowInput State JsValue Timestamp} {clock : Timestamp}
    {result : Bool × Instance State} (applied : before.advanceWorkflow input clock = (.ok result, after)) :
    Grows before after fun instanceId eventId =>
      instanceId = input.instanceId ∧ eventId = input.event.id := by
  obtain ⟨advanced, row⟩ := result
  cases advanced with
  | true =>
    refine ⟨?_, ?_⟩
    · intro id row found
      cases advanceBody_outcome (transaction_ok.mp applied) with
      | advanced _ _ _ _ requested => exact insertWorkflowEffects_keeps requested found
    · intro instanceId eventId logged
      rw [Runtime.recorded_advanced applied] at logged
      simpa using logged
  | false =>
    cases advanceBody_outcome (transaction_ok.mp applied) with
    | repeated _ _ => exact ⟨id, .inl⟩

theorem grows_foreign {call : StoreCall State JsValue Timestamp} (others : foreign call) :
    Grows before (WorkflowStore.perform runtime.collate call before).2 fun _ eventId =>
      startsWith eventId "effect:" = false := by
  rcases performed : WorkflowStore.perform runtime.collate call before with ⟨reply, next⟩
  have kept : ∀ {id eventId}, Runtime.recorded before id eventId →
      Runtime.recorded before id eventId ∨ startsWith eventId "effect:" = false := .inl
  cases perform_outcome performed with
  | threw | recreated | repeated => exact ⟨id, kept⟩
  | created _ requested => exact ⟨insertWorkflowEffects_keeps requested, kept⟩
  | @advanced input clock current events transitions effects found expected evented logged requested =>
    refine ⟨insertWorkflowEffects_keeps requested, ?_⟩
    intro id eventId listed
    rw [Runtime.recorded, Table.find?_inserted evented] at listed
    split at listed
    · rename_i same
      cases same
      exact .inr (by simpa [foreign, eventRow] using others)
    · exact .inl listed
  | idle | claimed | settled | released => cases others

omit [DecidableEq State] in
theorem grows_advanceFrom {read : Instance State} {instanceId : String} {event : Event} {clock : Timestamp}
    (advanced : runtime.advanceFrom read instanceId event clock before = some after) :
    Grows before after fun id eventId => id = instanceId ∧ eventId = event.id := by
  unfold Runtime.advanceFrom at advanced
  split at advanced
  · rename_i named
    split at advanced
    · cases advanced
    · rename_i input decided
      obtain ⟨target, _, sent⟩ := Runtime.decide_carries decided
      split at advanced
      · rename_i applied
        cases advanced
        have grows := grows_advance applied
        rw [target, named, sent] at grows
        exact grows
      · cases advanced
  · cases advanced

end Calls

/-! ## The invariant -/

/-- What a run keeps as long as its steps are orderly. -/
structure Guarded (runtimes : Process → Runtime State) (world : World Process State) : Prop where
  claimed : ∀ {process effect}, (world.phase process).effect? = some effect →
    ∃ row, world.store.effects.find? effect.id = some row ∧ effect.attempt ≤ row.attempt
  apart : ∀ {process other effect same}, process ≠ other →
    (world.phase process).effect? = some effect → (world.phase other).effect? = some same →
    effect.id = same.id → effect.attempt ≠ same.attempt
  holds : ∀ {process verdict effect}, (world.phase process).reported? = some (verdict, effect) →
    Holds world.store (runtimes process).config.workerId effect
  told : ∀ {verdict : Verdict} {instanceId effectId},
    Runtime.recorded world.store instanceId (verdict.eventId effectId) →
    ∃ row, world.store.effects.find? effectId = some row ∧ (row.status = verdict.status ∨
      ∃ process effect, (world.phase process).reported? = some (verdict, effect) ∧ effect.id = effectId)

section Invariant

variable {runtimes : Process → Runtime State} {world : World Process State}

/-- Two passes between report and row update work on different effects. -/
theorem Guarded.alone (guarded : Guarded runtimes world) {process other : Process} {verdict otherVerdict : Verdict}
    {effect same : ClaimedEffect} (made : (world.phase process).reported? = some (verdict, effect))
    (otherMade : (world.phase other).reported? = some (otherVerdict, same)) (shared : effect.id = same.id) :
    process = other := by
  by_contra different
  obtain ⟨row, found, _, _, attempt⟩ := guarded.holds made
  obtain ⟨otherRow, otherFound, _, _, otherAttempt⟩ := guarded.holds otherMade
  rw [shared, otherFound] at found
  cases found
  exact guarded.apart different (Phase.effect?_of_reported made) (Phase.effect?_of_reported otherMade)
    shared (attempt.symm.trans otherAttempt)

/-- The invariant leaves one outcome to each effect. -/
theorem Guarded.exclusive (guarded : Guarded runtimes world) : Exclusive world.store := by
  rintro instanceId effectId ⟨delivered, failed⟩
  obtain ⟨row, found, success⟩ := @Guarded.told _ _ _ _ guarded .delivered instanceId effectId delivered
  obtain ⟨same, foundAgain, failure⟩ := @Guarded.told _ _ _ _ guarded .failed instanceId effectId failed
  rw [found] at foundAgain
  cases foundAgain
  have held : ∀ {process verdict effect}, (world.phase process).reported? = some (verdict, effect) →
      effect.id = effectId → row.status = .dispatching := by
    rintro process verdict effect made rfl
    obtain ⟨stored, other, dispatching, _⟩ := guarded.holds made
    rw [found] at other
    cases other
    exact dispatching
  rcases success with settled | ⟨process, effect, made, rfl⟩
  · rcases failure with released | ⟨other, otherEffect, otherMade, same⟩
    · rw [settled] at released
      cases released
    · rw [held otherMade same] at settled
      cases settled
  · rcases failure with released | ⟨other, otherEffect, otherMade, same⟩
    · rw [held made rfl] at released
      cases released
    · cases guarded.alone made otherMade same.symm
      rw [made] at otherMade
      cases otherMade

end Invariant

section Steps

variable [DecidableEq Process] {runtimes : Process → Runtime State} {world : World Process State}
  {process : Process} {phase : Phase} {store : Store State}

omit [DecidableEq Process] in
theorem Guarded.initial : Guarded runtimes { store := .empty, phase := fun _ => .idle } where
  claimed := by
    intro _ _ working
    cases working
  apart := by
    intro _ _ _ _ _ working
    cases working
  holds := by
    intro _ _ _ made
    cases made
  told := by
    intro _ _ _ logged
    cases logged

/-- The world after a process moved. -/
def World.moved (world : World Process State) (process : Process) (phase : Phase) (store : Store State) :
    World Process State :=
  { store, phase := Function.update world.phase process phase }

theorem phase_moved (other : Process) :
    (world.moved process phase store).phase other = if other = process then phase else
      world.phase other := by
  simp [World.moved, Function.update_apply]

/-- What has to be said about a move for the invariant to survive it. -/
structure Safe (runtimes : Process → Runtime State) (world : World Process State)
    (process : Process) (phase : Phase) (store : Store State) : Prop where
  rows : ∀ {id row}, world.store.effects.find? id = some row →
    ∃ next, store.effects.find? id = some next ∧ row.attempt ≤ next.attempt
  undisturbed : ∀ {other verdict effect}, other ≠ process → (world.phase other).reported? = some (verdict, effect) →
    Holds world.store (runtimes other).config.workerId effect →
    Holds store (runtimes other).config.workerId effect
  claimed : ∀ {effect}, phase.effect? = some effect →
    (∃ row, store.effects.find? effect.id = some row ∧ effect.attempt ≤ row.attempt) ∧
      ∀ {other same}, other ≠ process → (world.phase other).effect? = some same →
        effect.id = same.id → effect.attempt ≠ same.attempt
  holds : ∀ {verdict effect}, phase.reported? = some (verdict, effect) →
    Holds store (runtimes process).config.workerId effect
  told : ∀ {verdict : Verdict} {instanceId effectId}, Runtime.recorded store instanceId (verdict.eventId effectId) →
    ∃ row, store.effects.find? effectId = some row ∧ (row.status = verdict.status ∨
      ∃ other effect, ((world.moved process phase store).phase other).reported? =
        some (verdict, effect) ∧ effect.id = effectId)

theorem Guarded.move (guarded : Guarded runtimes world) (safe : Safe runtimes world process phase store) :
    Guarded runtimes (world.moved process phase store) where
  claimed := by
    intro other effect working
    rw [phase_moved] at working
    split at working
    · exact (safe.claimed working).1
    · obtain ⟨row, found, upTo⟩ := guarded.claimed working
      obtain ⟨next, stored, grown⟩ := safe.rows found
      exact ⟨next, stored, le_trans upTo grown⟩
  apart := by
    intro left right effect same different working also shared
    rw [phase_moved] at working also
    split at working
    · rename_i mine
      subst mine
      rw [if_neg (Ne.symm different)] at also
      exact (safe.claimed working).2 (Ne.symm different) also shared
    · rename_i others
      split at also
      · rename_i mine
        subst mine
        exact ((safe.claimed also).2 others working shared.symm).symm
      · exact guarded.apart different working also shared
  holds := by
    intro other verdict effect made
    rw [phase_moved] at made
    split at made
    · rename_i mine
      subst mine
      exact safe.holds made
    · rename_i others
      exact safe.undisturbed others made (guarded.holds made)
  told := by
    intro verdict instanceId effectId logged
    exact safe.told logged

theorem Holds.grows {before after : Store State} {added : String → String → Prop} {workerId : String}
    (grows : Grows before after added) (holds : Holds before workerId effect) : Holds after workerId effect := by
  obtain ⟨row, found, carried⟩ := holds
  exact ⟨row, grows.effects found, carried⟩

/-- A pass that goes on with its effect or ends, without a report and without the store. -/
theorem Guarded.quiet (guarded : Guarded runtimes world)
    (unreported : (world.phase process).reported? = none) (silent : phase.reported? = none)
    (same : ∀ {effect}, phase.effect? = some effect → (world.phase process).effect? = some effect) :
    Guarded runtimes (world.moved process phase world.store) := by
  refine guarded.move
    { rows := fun found => ⟨_, found, le_rfl⟩
      undisturbed := fun _ _ holds => holds
      claimed := ?_, holds := ?_, told := ?_ }
  · intro effect working
    refine ⟨guarded.claimed (same working), ?_⟩
    intro other otherEffect others also
    exact guarded.apart (Ne.symm others) (same working) also
  · intro verdict effect made
    rw [silent] at made
    cases made
  · intro verdict instanceId effectId logged
    obtain ⟨row, found, final | ⟨other, effect, made, named⟩⟩ := guarded.told logged
    · exact ⟨row, found, .inl final⟩
    · have others : other ≠ process := by
        rintro rfl
        rw [unreported] at made
        cases made
      exact ⟨row, found, .inr ⟨other, effect, by rw [phase_moved, if_neg others, made], named⟩⟩

/-- What other components do changes no report and no claim. -/
theorem Guarded.foreign (guarded : Guarded runtimes world)
    (grows : Grows world.store store fun _ eventId => startsWith eventId "effect:" = false) :
    Guarded runtimes (world.moved process (world.phase process) store) := by
  have kept : ∀ other, (world.moved process (world.phase process) store).phase other = world.phase other := by
    intro other
    rw [phase_moved]
    split
    · rename_i same
      rw [same]
    · rfl
  refine guarded.move
    { rows := fun found => ⟨_, grows.effects found, le_rfl⟩
      undisturbed := fun _ _ holds => holds.grows grows
      claimed := ?_, holds := fun made => (guarded.holds made).grows grows, told := ?_ }
  · intro effect working
    obtain ⟨row, found, upTo⟩ := guarded.claimed working
    refine ⟨⟨row, grows.effects found, upTo⟩, ?_⟩
    intro other same others also
    exact guarded.apart (Ne.symm others) working also
  · intro verdict instanceId effectId logged
    rcases grows.events logged with before | foreign
    · obtain ⟨row, found, final | ⟨other, effect, made, named⟩⟩ := guarded.told before
      · exact ⟨row, grows.effects found, .inl final⟩
      · exact ⟨row, grows.effects found, .inr ⟨other, effect, by rw [kept, made], named⟩⟩
    · rw [Verdict.eventId_reserved] at foreign
      cases foreign

/-- The holder of an effect may report on it. -/
theorem Guarded.report (guarded : Guarded runtimes world) {verdict : Verdict}
    (working : (world.phase process).effect? = some effect) (unreported : (world.phase process).reported? = none)
    (holds : Holds world.store (runtimes process).config.workerId effect)
    (made : phase.reported? = some (verdict, effect)) (grows : Grows world.store store fun instanceId eventId =>
      instanceId = effect.instanceId ∧ eventId = verdict.eventId effect.id) :
    Guarded runtimes (world.moved process phase store) := by
  have still : phase.effect? = some effect := Phase.effect?_of_reported made
  refine guarded.move
    { rows := fun found => ⟨_, grows.effects found, le_rfl⟩
      undisturbed := fun _ _ holds => holds.grows grows
      claimed := ?_, holds := ?_, told := ?_ }
  · intro same also
    rw [still] at also
    cases also
    obtain ⟨row, found, upTo⟩ := guarded.claimed working
    refine ⟨⟨row, grows.effects found, upTo⟩, ?_⟩
    intro other otherEffect others also
    exact guarded.apart (Ne.symm others) working also
  · intro otherVerdict same also
    rw [made] at also
    cases also
    exact holds.grows grows
  · intro otherVerdict instanceId effectId logged
    rcases grows.events logged with before | ⟨_, added⟩
    · obtain ⟨row, found, final | ⟨other, same, otherMade, named⟩⟩ := guarded.told before
      · exact ⟨row, grows.effects found, .inl final⟩
      · have others : other ≠ process := by
          rintro rfl
          rw [unreported] at otherMade
          cases otherMade
        exact ⟨row, grows.effects found, .inr ⟨other, same, by rw [phase_moved, if_neg others, otherMade], named⟩⟩
    · obtain ⟨rfl, rfl⟩ := Verdict.eventId_inj.mp added
      obtain ⟨row, found, _⟩ := holds
      exact ⟨row, grows.effects found, .inr ⟨process, effect, by rw [phase_moved, if_pos rfl, made], rfl⟩⟩

/-- A row may be updated by its holder after the report, and otherwise as long as no
other pass has reported on it; an open row is given to a new attempt likewise. -/
theorem Guarded.update (guarded : Guarded runtimes world) {effectId : String}
    {change : WorkflowEffectRow JsValue Timestamp → WorkflowEffectRow JsValue Timestamp}
    {keeps : ∀ row, (change row).id = row.id} (found : world.store.effects.find? effectId = some row)
    (unsettled : row.status = .pending ∨ row.status = .dispatching)
    (attempts : row.attempt ≤ (change row).attempt) (undisturbed : Undisturbed world process effectId)
    (own : ∀ {verdict effect}, (world.phase process).reported? = some (verdict, effect) →
      effect.id = effectId ∧ (change row).status = verdict.status)
    (silent : phase.reported? = none)
    (working : ∀ {effect}, phase.effect? = some effect →
      effect.id = effectId ∧ row.attempt < effect.attempt ∧ effect.attempt ≤ (change row).attempt) :
    Guarded runtimes (world.moved process phase { world.store with
      effects := world.store.effects.update effectId change keeps }) := by
  have lookup : ∀ id, (world.store.effects.update effectId change keeps).find? id =
      if id = effectId then some (change row) else world.store.effects.find? id :=
    fun id => Table.find?_updated rfl found id
  refine guarded.move
    { rows := ?_, undisturbed := ?_, claimed := ?_, holds := ?_, told := ?_ }
  · intro id stored listed
    rw [lookup]
    split
    · rename_i same
      rw [same, found] at listed
      cases listed
      exact ⟨_, rfl, attempts⟩
    · exact ⟨stored, listed, le_rfl⟩
  · rintro other verdict effect others made ⟨stored, listed, carried⟩
    refine ⟨stored, ?_, carried⟩
    rw [lookup, if_neg (undisturbed other others verdict effect made), listed]
  · intro effect now
    obtain ⟨named, newer, upTo⟩ := working now
    refine ⟨⟨change row, by rw [lookup, if_pos named], upTo⟩, ?_⟩
    intro other same others also shared
    obtain ⟨stored, listed, before⟩ := guarded.claimed also
    rw [← shared, named, found] at listed
    cases listed
    omega
  · intro verdict effect made
    rw [silent] at made
    cases made
  · intro verdict instanceId id logged
    obtain ⟨stored, listed, final | ⟨other, effect, made, named⟩⟩ := guarded.told logged
    · have another : id ≠ effectId := by
        rintro rfl
        rw [found] at listed
        cases listed
        cases verdict <;> simp [Verdict.status, final] at unsettled
      exact ⟨stored, by rw [lookup, if_neg another, listed], .inl final⟩
    · by_cases mine : other = process
      · subst mine
        obtain ⟨same, status⟩ := own made
        exact ⟨change row, by rw [lookup, if_pos (named.symm.trans same)], .inl status⟩
      · have another : id ≠ effectId := by
          rintro rfl
          exact undisturbed other mine verdict effect made named
        exact ⟨stored, by rw [lookup, if_neg another, listed],
          .inr ⟨other, effect, by rw [phase_moved, if_neg mine, made], named⟩⟩

end Steps

/-! ## Every orderly step keeps the invariant -/

section Run

variable [DecidableEq Process] [DecidableEq State] {runtimes : Process → Runtime State}
  {before after : World Process State} {label : Process × Action State}

omit [DecidableEq State] in
theorem caught_quiet {runtime : Runtime State} {thrown : String} : (runtime.caught effect thrown).reported? = none ∧
      (runtime.caught effect thrown).effect? = some effect := by
  unfold Runtime.caught
  split <;> exact ⟨rfl, rfl⟩

omit [DecidableEq State] in
theorem executed_quiet {runtime : Runtime State} {outcome : Except String JsValue} :
    (runtime.executed effect outcome).reported? = none ∧ (runtime.executed effect outcome).effect? = some effect := by
  unfold Runtime.executed
  split
  · exact ⟨rfl, rfl⟩
  · split
    · exact caught_quiet
    · split
      · exact caught_quiet
      · exact ⟨rfl, rfl⟩

omit [DecidableEq Process] [DecidableEq State] in
theorem unsettled_of_claimable {now : Timestamp}
    (claimable : effectClaimable now row) : row.status = .pending ∨ row.status = .dispatching := by
  have claims : effectOpen now row := (of_decide_eq_true claimable).2
  cases status : row.status <;> simp [effectOpen, status] at claims ⊢

theorem Guarded.step (guarded : Guarded runtimes before) (stepped : (passes runtimes).perform label before = some after)
    (orderly : Orderly runtimes before label) : Guarded runtimes after := by
  obtain ⟨process, action⟩ := label
  obtain ⟨⟨phase, store⟩, advanced, made⟩ := Option.bind_eq_some_iff.mp stepped
  obtain rfl : before.moved process phase store = after := by simpa [World.moved] using made
  have step := Runtime.advancePass_step advanced
  dsimp only at step
  generalize here : before.phase process = current at step
  cases step with
  | called others => exact here ▸ guarded.foreign (grows_foreign others)
  | idled => exact guarded.quiet (by rw [here]; rfl) rfl fun working => by cases working
  | @claimed now leaseExpiresAt row next =>
    obtain ⟨found, claimable⟩ := nextEffect_spec next
    refine guarded.update found (unsettled_of_claimable claimable) (Nat.le_succ _) (orderly row next)
      (fun made => ?_) rfl (fun working => ?_)
    · rw [here] at made
      cases made
    · cases working
      exact ⟨rfl, Nat.lt_succ_self _, le_rfl⟩
  | executed =>
    refine guarded.quiet (by rw [here]; rfl) executed_quiet.1 ?_
    rw [executed_quiet.2, here]
    exact id
  | undelivered =>
    refine guarded.quiet (by rw [here]; rfl) caught_quiet.1 ?_
    rw [caught_quiet.2, here]
    exact id
  | @delivered effect output read clock next advanced =>
    have working := congrArg Phase.effect? here
    have made : (Phase.settling effect clock).reported? = some (.delivered, effect) := rfl
    exact guarded.report working (by rw [here]; rfl) (orderly _ working) made
      (grows_advanceFrom advanced)
  | @unsettled effect deliveredAt fault thrown refused =>
    have made := congrArg Phase.reported? here
    obtain ⟨row, found, dispatching, owner, _⟩ := guarded.holds made
    have owned := ownedEffect_eq_some.mpr ⟨found, dispatching, owner⟩
    rw [refused orderly] at owned
    cases owned
  | @settled effect deliveredAt row owned =>
    obtain ⟨found, dispatching, _⟩ := ownedEffect_eq_some.mp owned
    have made : (before.phase process).reported? = some (.delivered, effect) := congrArg Phase.reported? here
    refine guarded.update found (.inr dispatching) le_rfl ?_ (fun mine => ?_) rfl fun working => by
      cases working
    · intro other others verdict same otherMade shared
      exact others (guarded.alone otherMade made shared)
    · rw [made] at mine
      cases mine
      exact ⟨rfl, rfl⟩
  | unfailed =>
    refine guarded.quiet (by rw [here]; rfl) rfl ?_
    rw [here]
    exact id
  | @failed effect message read clock next advanced =>
    have working := congrArg Phase.effect? here
    have made : (Phase.releasing effect message .reported).reported? = some (.failed, effect) := rfl
    exact guarded.report working (by rw [here]; rfl) (orderly _ working) made
      (grows_advanceFrom advanced)
  | @unreleased effect message ending now fault refused =>
    have unreported : (before.phase process).reported? = none := by
      by_contra made
      obtain ⟨verdict, same⟩ := Option.ne_none_iff_exists'.mp made
      obtain ⟨row, found, dispatching, owner, _⟩ := guarded.holds same
      have working := (congrArg Phase.effect? here).symm.trans (Phase.effect?_of_reported same)
      cases working
      have owned := ownedEffect_eq_some.mpr ⟨found, dispatching, owner⟩
      rw [refused (orderly.1 made)] at owned
      cases owned
    exact guarded.quiet unreported rfl fun working => by cases working
  | @released effect message ending now availableAt row owned =>
    obtain ⟨found, dispatching, _⟩ := ownedEffect_eq_some.mp owned
    have working := congrArg Phase.effect? here
    refine guarded.update found (.inr dispatching) le_rfl (orderly.2 effect working) (fun mine => ?_)
      rfl fun idle => by cases idle
    rw [here] at mine
    cases ending <;> cases mine
    exact ⟨rfl, rfl⟩
  | stopped => exact guarded.quiet orderly rfl fun working => by cases working

/-- In a run whose steps are all orderly, no effect is ever reported both delivered
and failed. -/
theorem run_exclusive {labels : List (Process × Action State)} {world : World Process State}
    (run : ((passes runtimes).system.restricted (Orderly runtimes)).Run labels world) : Exclusive world.store := by
  have guarded : Guarded runtimes world := by
    refine run.invariant ?_ ?_
    · rintro state rfl
      exact .initial
    · rintro before label after guarded ⟨stepped, orderly⟩
      exact guarded.step stepped orderly
  exact guarded.exclusive

end Run

/-! ## A delivery whose settle fails -/

structure AutoWakeState where
  delivered : Option JsValue
deriving DecidableEq

/-- The workflow of the runtime's wake test. -/
def autoWake : WorkflowDefinition AutoWakeState where
  kind := "auto-wake"
  version := 1
  initialise _ now := .ok
    { status := .waiting, state := ⟨none⟩, wakeAt := none
      effects := [⟨"immediate", "record", .object [], some now⟩] }
  reduce _ event := .ok (.keep .completed ⟨some (event.payload.get "effectId")⟩)
  members state := JsValue.whenSome "delivered" state.delivered id

def autoWakeRuntime : Runtime AutoWakeState where
  config := ⟨"auto-wake-worker", none, none, some 1, none⟩
  definitions kind := if kind = "auto-wake" then some autoWake else none
  effectHandlers kind := if kind = "record" then some fun _ store => (.ok .undefined, store) else none
  collate left right := left ≤ right

def autoWakeRow (status : WorkflowStatus) (state : AutoWakeState) (revision : Nat) : Instance AutoWakeState :=
  ⟨"auto-wake-1", "auto-wake", 1, status, state, revision, none⟩

/-- One process delivers the only attempt of an effect. -/
def delivery : List (Unit × Action AutoWakeState) :=
  [((), .call (.createWorkflow ⟨"auto-wake-1", "auto-wake", 1, .waiting, ⟨none⟩, none,
      [⟨"immediate", "record", .object [], some 0⟩]⟩ 0)),
    ((), .claim 0), ((), .execute (.ok .undefined)),
    ((), .deliver (.ok (autoWakeRow .waiting ⟨none⟩ 0)) 1)]

/-- The store is locked when the delivery is settled, so the `catch` block reports the
same effect failed. -/
def lockedSettle : List (Unit × Action AutoWakeState) :=
  delivery ++ [((), .settle (some "database is locked")),
    ((), .fail (.ok (autoWakeRow .completed ⟨some "immediate"⟩ 1)) 2)]

theorem lockedSettle_not_exclusive : ∃ world, (passes fun _ : Unit => autoWakeRuntime).system.Run lockedSettle world ∧
      ¬ Exclusive world.store := by
  have both : ((passes fun _ : Unit => autoWakeRuntime).replay lockedSettle
      (passes fun _ : Unit => autoWakeRuntime).initial).any (fun world =>
        Runtime.recorded world.store "auto-wake-1" "effect:immediate:delivered" &&
        Runtime.recorded world.store "auto-wake-1" "effect:immediate:failed") = true := by
    decide
  obtain ⟨world, replayed, recorded⟩ := (Option.any_eq_true _ _).mp both
  refine ⟨world, GuardedMachine.replay_run _ replayed, ?_⟩
  intro exclusive
  exact exclusive "auto-wake-1" "immediate" (by simpa using recorded)

/-- The same delivery, settled at once. -/
def settledDelivery : List (Unit × Action AutoWakeState) := delivery ++ [((), .settle none)]

theorem settledDelivery_exclusive : ∃ world, ((passes fun _ : Unit => autoWakeRuntime).system.restricted
      (Orderly fun _ : Unit => autoWakeRuntime)).Run settledDelivery world ∧ Exclusive world.store := by
  have orderly : ∃ world, ((passes fun _ : Unit => autoWakeRuntime).system.restricted
      (Orderly fun _ : Unit => autoWakeRuntime)).Run settledDelivery world := by
    refine ⟨_, _, rfl, .next ⟨rfl, trivial⟩ (.next ⟨rfl, ?_⟩ (.next ⟨rfl, trivial⟩
      (.next ⟨rfl, ?_⟩ (.next ⟨rfl, rfl⟩ .done))))⟩
    · intro row next other different
      exact (different rfl).elim
    · intro effect working
      obtain rfl : ⟨"immediate", "auto-wake-1", "record", .object [], 1⟩ = effect := Option.some.inj working
      exact ⟨_, rfl, rfl, rfl, rfl⟩
  obtain ⟨world, run⟩ := orderly
  exact ⟨world, run, run_exclusive run⟩

end QuarkSelfAI.Workflow

import QuarkSelfAI.Storage.PolicyStore

/-!
# The invariant of policies and their revisions

The revisions of a policy are numbered without a gap, and an enabled policy has an
active revision that passed its safety simulation and is approved. An activation
checks a revision before its transaction starts; the check stays good because no
later call takes a revision back or changes its simulation (`Grows`).
-/

namespace QuarkSelfAI.Storage

open Foundation

variable {row : PolicyRevision}

namespace PolicyStore

variable {before after store : PolicyStore} {draft : PolicyDraftInput} {revision : Nat} {id approvedAt : String}
  {definition : PolicyDefinition} {definitions : Table PolicyDefinition.id}

/-! ## What one operation can do -/

/-- The revisions after a save: all of them again, or one more. -/
inductive Saves (before : PolicyStore) (draft : PolicyDraftInput) : Nat → PolicyStore → Prop where
  | existing {revision : Nat} {after : PolicyStore} (stored : before.existingRevision draft = some revision)
      (definitions : after.definitions = upsertDefinition draft before.definitions)
      (revisions : after.revisions = before.revisions) : Saves before draft revision after
  | inserted {after : PolicyStore} (fresh : before.existingRevision draft = none)
      (definitions : after.definitions = upsertDefinition draft before.definitions)
      (revisions : before.revisions.insert? (draftRow draft (before.nextRevision draft.id)) =
        some after.revisions) : Saves before draft (before.nextRevision draft.id) after

theorem savePolicyDraft_saves (saved : before.savePolicyDraft draft = (.ok revision, after)) :
    Saves before draft revision after := by
  have done := transaction_ok.mp saved
  unfold saveBody at done
  split at done
  · rename_i stored
    cases done
    exact .existing stored rfl rfl
  · rename_i fresh
    obtain ⟨revisions, inserted, done⟩ := bind_ok.mp done
    cases done
    exact .inserted fresh rfl (Table.insertOrThrow_ok.mp inserted)

theorem savePolicyDraft_error {message : String}
    (failed : before.savePolicyDraft draft = (.error message, after)) : after = before :=
  (transaction_error.mp failed).2

theorem checkActivation_ok {revision : Int} {number : Nat} (checked : store.checkActivation id revision = .ok number) :
    ∃ row, store.revisions.find? (id, number) = some row ∧ row.safeToActivate := by
  unfold checkActivation at checked
  split at checked
  · cases checked
  · rename_i row found
    split at checked
    · rename_i safe
      cases checked
      obtain ⟨natural, _, found⟩ := Option.bind_eq_some_iff.mp found
      have keyed : row.key = (id, natural) := Table.find?_key found
      obtain rfl : row.revision = natural := (Prod.mk.inj keyed).2
      exact ⟨row, found, safe⟩
    · cases checked

theorem commitActivation_ok (done : before.commitActivation id revision approvedAt = (.ok (), after)) :
    (∃ definition, before.definitions.find? id = some definition) ∧
      after.revisions = before.revisions.update (id, revision) (approvedRevision approvedAt)
        (approvedRevision_key approvedAt) ∧
      after.definitions = before.definitions.update id (enabledDefinition revision)
        (enabledDefinition_id revision) := by
  have committed := transaction_ok.mp done
  unfold activateBody at committed
  split at committed
  · cases committed
  · rename_i definition found
    cases committed
    exact ⟨⟨definition, found⟩, rfl, rfl⟩

theorem commitActivation_error {id approvedAt message : String}
    (failed : before.commitActivation id revision approvedAt = (.error message, after)) : after = before :=
  (transaction_error.mp failed).2

/-! ## Definitions -/

/-- Saving a draft keeps every definition but for the name of its own. -/
theorem find?_upsertDefinition (found : (upsertDefinition draft definitions).find? id = some definition) :
    (∃ earlier, definitions.find? id = some earlier ∧ definition.id = earlier.id ∧
      definition.status = earlier.status ∧ definition.activeRevision = earlier.activeRevision) ∨
      definition.status = .draft := by
  unfold upsertDefinition at found
  split at found
  · rename_i next inserted
    rw [Table.find?_insert inserted] at found
    split at found
    · cases found
      exact .inr rfl
    · exact .inl ⟨definition, found, rfl, rfl, rfl⟩
  · rw [Table.find?_update] at found
    split at found
    · obtain ⟨earlier, stored, rfl⟩ := Option.map_eq_some_iff.mp found
      exact .inl ⟨earlier, stored, rfl, rfl, rfl⟩
    · exact .inl ⟨definition, found, rfl, rfl, rfl⟩

theorem upsertDefinition_self (definitions : Table PolicyDefinition.id) :
    ∃ definition, (upsertDefinition draft definitions).find? draft.id = some definition := by
  unfold upsertDefinition
  split
  · rename_i next inserted
    exact ⟨_, Table.find?_new inserted⟩
  · rename_i taken
    obtain ⟨stored, found⟩ := Table.insert?_eq_none_iff.mp taken
    exact ⟨_, Table.find?_rewritten rfl found⟩

theorem upsertDefinition_keeps (found : definitions.find? id = some definition) :
    ∃ later, (upsertDefinition draft definitions).find? id = some later := by
  unfold upsertDefinition
  split
  · rename_i next inserted
    exact ⟨definition, Table.find?_kept inserted found⟩
  · obtain ⟨later, stored, _⟩ := Table.find?_changed rfl found
    exact ⟨later, stored⟩

/-! ## Revisions -/

/-- Revisions are kept with their simulations and their approvals. -/
def Grows (before after : PolicyStore) : Prop :=
  ∀ ⦃key row⦄, before.revisions.find? key = some row → ∃ later,
    after.revisions.find? key = some later ∧ later.safeToActivate = row.safeToActivate ∧
      (row.approvedAt.isSome → later.approvedAt.isSome)

theorem Grows.same (revisions : after.revisions = before.revisions) : Grows before after := by
  intro key row found
  exact ⟨row, by rwa [revisions], rfl, id⟩

theorem Saves.grows (saves : Saves before draft revision after) : Grows before after := by
  cases saves with
  | existing _ _ revisions => exact Grows.same revisions
  | inserted _ _ revisions =>
    intro key row found
    exact ⟨row, Table.find?_kept revisions found, rfl, id⟩

theorem Grows.approved (revisions : after.revisions = before.revisions.update (id, revision)
      (approvedRevision approvedAt) (approvedRevision_key approvedAt)) : Grows before after := by
  intro key row found
  obtain ⟨later, stored, rfl | ⟨_, rfl⟩⟩ := Table.find?_changed revisions found
  · exact ⟨later, stored, rfl, fun approved => approved⟩
  · exact ⟨_, stored, rfl, fun _ => rfl⟩

/-- Inserting a revision adds its number to those of its own policy. -/
theorem numbers_insert (inserted : before.revisions.insert? row = some after.revisions) (policyId : String) :
    after.numbers policyId =
      if row.policyId = policyId then before.numbers policyId ++ [row.revision]
      else before.numbers policyId := by
  rw [numbers, Table.rows_insert inserted, List.filter_append, List.map_append]
  split
  · rename_i own
    simp [numbers, own]
  · rename_i other
    simp [numbers, other]

theorem numbers_approved (revisions : after.revisions = before.revisions.update (id, revision)
      (approvedRevision approvedAt) (approvedRevision_key approvedAt)) (policyId : String) :
    after.numbers policyId = before.numbers policyId := by
  rw [numbers, revisions]
  exact Table.view_update _ (fun _ => rfl) (fun _ => rfl)

/-- Numbers without a gap are followed by one more than their count. -/
theorem nextRevision_eq {policyId : String} {count : Nat} (numbered : store.numbers policyId = List.range' 1 count) :
    store.nextRevision policyId = count + 1 := by
  rw [nextRevision, numbered]
  cases count with
  | zero => rfl
  | succ count =>
    have largest : (List.range' 1 (count + 1)).max? = some (count + 1) := by
      rw [List.max?_eq_some_iff]
      constructor
      · rw [List.mem_range'_1]
        omega
      · intro number listed
        rw [List.mem_range'_1] at listed
        omega
    rw [largest, Option.getD_some]

/-! ## The invariant -/

/-- An enabled policy has an active revision that is safe and approved. -/
def Activated (store : PolicyStore) (definition : PolicyDefinition) : Prop :=
  ∃ revision row, definition.activeRevision = some revision ∧
    store.revisions.find? (definition.id, revision) = some row ∧ row.safeToActivate = true ∧ row.approvedAt.isSome

/-- What the policy tables promise. -/
structure Sound (store : PolicyStore) : Prop where
  defined : ∀ row ∈ store.revisions, ∃ definition, store.definitions.find? row.policyId = some definition
  numbered : ∀ policyId, ∃ count, store.numbers policyId = List.range' 1 count
  enabled : ∀ definition ∈ store.definitions, definition.status = .enabled → store.Activated definition

theorem sound_empty : empty.Sound where
  defined row stored := (Table.not_mem_empty row stored).elim
  numbered _ := ⟨0, rfl⟩
  enabled definition stored := (Table.not_mem_empty definition stored).elim

theorem Activated.grows (activated : before.Activated definition)
    (grows : Grows before after) : after.Activated definition := by
  obtain ⟨revision, row, active, found, safe, approved⟩ := activated
  obtain ⟨later, stored, same, kept⟩ := grows found
  exact ⟨revision, later, active, stored, same.trans safe, kept approved⟩

/-- Saving a draft keeps the activations of all policies. -/
theorem Sound.saved_enabled (sound : before.Sound) (grows : Grows before after)
    (definitions : after.definitions = upsertDefinition draft before.definitions) :
    ∀ definition ∈ after.definitions, definition.status = .enabled → after.Activated definition := by
  intro definition stored enabled
  have found := Table.find?_self stored
  rw [definitions] at found
  rcases find?_upsertDefinition found with ⟨earlier, kept, named, status, active⟩ | fresh
  · obtain ⟨revision, row, current, listed, good⟩ :=
      (sound.enabled earlier (Table.find?_mem kept) (status.symm.trans enabled)).grows grows
    exact ⟨revision, row, active.trans current, by rwa [named], good⟩
  · rw [fresh] at enabled
    cases enabled

theorem Sound.saves (sound : before.Sound) (saves : Saves before draft revision after) : after.Sound := by
  have grows := saves.grows
  cases saves with
  | existing _ definitions revisions =>
    refine
      { defined := ?_, numbered := ?_, enabled := sound.saved_enabled grows definitions }
    · intro row stored
      rw [revisions] at stored
      obtain ⟨definition, found⟩ := sound.defined row stored
      rw [definitions]
      exact upsertDefinition_keeps found
    · intro policyId
      rw [numbers, revisions]
      exact sound.numbered policyId
  | inserted _ definitions revisions =>
    refine
      { defined := ?_, numbered := ?_, enabled := sound.saved_enabled grows definitions }
    · intro row stored
      rw [definitions]
      rcases (Table.mem_insert revisions).mp stored with old | rfl
      · obtain ⟨definition, found⟩ := sound.defined row old
        exact upsertDefinition_keeps found
      · exact upsertDefinition_self before.definitions
    · intro policyId
      obtain ⟨count, numbered⟩ := sound.numbered policyId
      by_cases own : draft.id = policyId
      · subst own
        refine ⟨count + 1, ?_⟩
        rw [numbers_insert revisions, draftRow_policyId, draftRow_revision, if_pos rfl, numbered,
          nextRevision_eq numbered, List.range'_1_concat, Nat.add_comm 1 count]
      · refine ⟨count, ?_⟩
        rw [numbers_insert revisions, draftRow_policyId, if_neg own, numbered]

/-- Committing a checked activation enables its policy with a good revision. -/
theorem Sound.committed (sound : before.Sound)
    (checked : ∃ row, before.revisions.find? (id, revision) = some row ∧ row.safeToActivate)
    (revisions : after.revisions = before.revisions.update (id, revision)
      (approvedRevision approvedAt) (approvedRevision_key approvedAt))
    (definitions : after.definitions = before.definitions.update id (enabledDefinition revision)
      (enabledDefinition_id revision)) : after.Sound := by
  have grows := Grows.approved revisions
  refine { defined := ?_, numbered := ?_, enabled := ?_ }
  · intro row stored
    have policy : ∃ old ∈ before.revisions, old.policyId = row.policyId := by
      rw [revisions] at stored
      rcases Table.mem_update.mp stored with ⟨old, listed, _, rfl⟩ | ⟨listed, _⟩
      · exact ⟨old, listed, rfl⟩
      · exact ⟨row, listed, rfl⟩
    obtain ⟨old, listed, same⟩ := policy
    obtain ⟨definition, found⟩ := sound.defined old listed
    obtain ⟨later, kept, _⟩ := Table.find?_changed definitions found
    exact ⟨later, same ▸ kept⟩
  · intro policyId
    rw [numbers_approved revisions]
    exact sound.numbered policyId
  · intro definition stored enabled
    rw [definitions] at stored
    rcases Table.mem_update.mp stored with ⟨old, _, named, rfl⟩ | ⟨kept, _⟩
    · obtain ⟨row, found, safe⟩ := checked
      have approved := Table.find?_rewritten revisions found
      refine ⟨revision, approvedRevision approvedAt row, rfl, ?_, safe, rfl⟩
      rw [enabledDefinition_id, named]
      exact approved
    · exact (sound.enabled definition kept enabled).grows grows

end PolicyStore

namespace PolicySession

open PolicyStore

/-- The tables are sound, and what was checked is still there and safe. -/
structure Sound (session : PolicySession) : Prop where
  store : session.store.Sound
  checked : ∀ activation ∈ session.checked, ∃ row,
    session.store.revisions.find? (activation.id, activation.revision) = some row ∧ row.safeToActivate

variable {before after session : PolicySession} {call : PolicyCall} {reply : PolicyReply}

theorem checked_grows (sound : before.Sound) (grows : Grows before.store after.store)
    {activation : Activation} (listed : activation ∈ before.checked) :
    ∃ row, after.store.revisions.find? (activation.id, activation.revision) = some row ∧ row.safeToActivate := by
  obtain ⟨row, found, safe⟩ := sound.checked activation listed
  obtain ⟨later, stored, same, _⟩ := grows found
  exact ⟨later, stored, by rwa [same]⟩

/-- No call breaks the invariant; a commit needs its check. -/
theorem Sound.answer (sound : before.Sound)
    (checked : ∀ activation, call = .commitActivation activation → activation ∈ before.checked) :
    (before.answer call).2.Sound := by
  cases call with
  | savePolicyDraft draft =>
    simp only [PolicySession.answer]
    split
    · rename_i revision store saved
      have saves := savePolicyDraft_saves saved
      exact ⟨sound.store.saves saves, fun activation => checked_grows sound saves.grows⟩
    · rename_i message store failed
      rw [savePolicyDraft_error failed]
      exact sound
  | activatePolicy id revision approvedAt =>
    simp only [PolicySession.answer]
    split
    · rename_i number passed
      refine ⟨sound.store, fun activation listed => ?_⟩
      rcases List.mem_cons.mp listed with rfl | earlier
      · exact checkActivation_ok passed
      · exact sound.checked activation earlier
    · exact sound
  | commitActivation activation =>
    have passed := sound.checked activation (checked activation rfl)
    simp only [PolicySession.answer]
    split
    · rename_i store done
      obtain ⟨_, revisions, definitions⟩ := commitActivation_ok done
      refine ⟨sound.store.committed passed revisions definitions, fun other listed => ?_⟩
      exact checked_grows sound (Grows.approved revisions) (List.mem_of_mem_erase listed)
    · rename_i message store failed
      rw [commitActivation_error failed]
      exact ⟨sound.store, fun other listed => sound.checked other (List.mem_of_mem_erase listed)⟩

theorem Run.sound {calls : List PolicyCall} (run : Run calls session) : session.Sound := by
  refine TransitionSystem.Run.invariant ?_ ?_ run
  · rintro _ rfl
    exact ⟨sound_empty, by simp [machine, initial]⟩
  · intro before call after sound step
    have performed : machine.perform call before = some after := step
    cases call with
    | savePolicyDraft | activatePolicy =>
      cases performed
      exact sound.answer (by simp)
    | commitActivation activation =>
      simp only [machine] at performed
      split at performed
      · rename_i listed
        cases performed
        refine sound.answer ?_
        rintro _ ⟨⟩
        exact listed
      · cases performed

/-- A call that throws changes no table. -/
theorem answer_threw {message : String} (threw : session.answer call = (.threw message, after)) :
    after.store = session.store := by
  cases call with
  | savePolicyDraft draft =>
    simp only [PolicySession.answer] at threw
    split at threw
    · cases threw
    · rename_i failed
      cases threw
      exact savePolicyDraft_error failed
  | activatePolicy id revision approvedAt =>
    simp only [PolicySession.answer] at threw
    split at threw
    · cases threw
    · cases threw
      rfl
  | commitActivation activation =>
    simp only [PolicySession.answer] at threw
    split at threw
    · cases threw
    · rename_i failed
      cases threw
      exact commitActivation_error failed

end PolicySession

namespace PolicyStore

variable {store : PolicyStore} {draft : PolicyDraftInput}

/-! ## Drafts that are stored already -/

/-- A stored revision has the source text, the document and the simulation of a
draft, whatever the order of their members. -/
def EqualDraft (draft : PolicyDraftInput) (row : PolicyRevision) : Prop :=
  row.policyId = draft.id ∧ row.sourceText = draft.sourceText ∧
    JsValue.Equal (.object row.compiled) (.object (JsValue.stringifiedMembers draft.document)) ∧
    JsValue.Equal (.object row.simulation) (.object (JsValue.stringifiedMembers draft.simulation))

/-- Saving the draft answers with a stored revision equal to it and adds none. -/
def Reuses (store : PolicyStore) (draft : PolicyDraftInput) : Prop :=
  ∃ row ∈ store.revisions, EqualDraft draft row ∧ (store.savePolicyDraft draft).1 = .ok row.revision ∧
      (store.savePolicyDraft draft).2.revisions = store.revisions

theorem sameDraft_iff : sameDraft draft row ↔ row.policyId = draft.id ∧ row.sourceText = draft.sourceText ∧
      row.compiled = JsValue.stringifiedMembers draft.document ∧
        row.simulation = JsValue.stringifiedMembers draft.simulation := by
  simp [sameDraft]

theorem EqualDraft.of_same (same : sameDraft draft row) : EqualDraft draft row := by
  obtain ⟨policy, source, compiled, simulation⟩ := sameDraft_iff.mp same
  refine ⟨policy, source, ?_, ?_⟩
  · rw [compiled]
    exact .refl _
  · rw [simulation]
    exact .refl _

/-- A draft is reused exactly when a stored revision has its texts. -/
theorem reuses_iff : store.Reuses draft ↔ ∃ row ∈ store.revisions, sameDraft draft row := by
  constructor
  · rintro ⟨row, _, _, answered, kept⟩
    have saved : store.savePolicyDraft draft = (.ok row.revision, (store.savePolicyDraft draft).2) := by rw [← answered]
    generalize row.revision = revision at saved
    cases savePolicyDraft_saves saved with
    | existing stored =>
      obtain ⟨listed, _⟩ := List.max?_eq_some_iff.mp stored
      obtain ⟨other, selected, _⟩ := List.mem_map.mp listed
      obtain ⟨there, same⟩ := List.mem_filter.mp selected
      exact ⟨other, there, same⟩
    | inserted _ _ revisions =>
      have grown := congrArg List.length (Table.rows_insert revisions)
      rw [kept] at grown
      simp at grown
  · rintro ⟨row, there, same⟩
    have listed : row.revision ∈ (store.revisions.rows.filter (sameDraft draft)).map (·.revision) :=
      List.mem_map.mpr ⟨row, List.mem_filter.mpr ⟨there, same⟩, rfl⟩
    obtain ⟨revision, stored⟩ : ∃ revision, store.existingRevision draft = some revision := by
      cases largest : store.existingRevision draft with
      | none =>
        rw [List.max?_eq_none_iff.mp largest] at listed
        cases listed
      | some revision => exact ⟨revision, rfl⟩
    obtain ⟨found, _⟩ := List.max?_eq_some_iff.mp stored
    obtain ⟨latest, selected, rfl⟩ := List.mem_map.mp found
    obtain ⟨kept, alike⟩ := List.mem_filter.mp selected
    refine ⟨latest, kept, .of_same alike, ?_, ?_⟩
    all_goals simp [savePolicyDraft, transaction, saveBody, stored]

end PolicyStore

namespace PolicySession

open PolicyStore

/-- What the policy store promises of a state and of the calls made on it. -/
structure Promises (session : PolicySession) : Prop where
  sound : session.store.Sound
  failing : ∀ {call message after}, session.answer call = (.threw message, after) → after.store = session.store
  /-- An equal draft is reused exactly when its members stand in the stored order. -/
  deduplicated : ∀ draft, (∃ row ∈ session.store.revisions, EqualDraft draft row) →
    (session.store.Reuses draft ↔ ∃ row ∈ session.store.revisions, sameDraft draft row)

/-- The promises hold in every state that interleaved calls reach. -/
theorem run_promises {calls : List PolicyCall} {session : PolicySession}
    (run : Run calls session) : session.Promises where
  sound := run.sound.store
  failing := answer_threw
  deduplicated _ _ := reuses_iff

/-- A policy with two effects, saved, checked, saved under another source text and
activated. -/
def quietPolicy (sourceText : String) : PolicyDraftInput :=
  { id := "policy:1", name := "Quiet", sourceText
    document := [("version", .number 1), ("effect", .object [("attention", "batch"), ("reply", "ask")])]
    simulation := [("safeToActivate", .bool true)] }

/-- The same policy, with the members of its effect the other way round. -/
def turnedPolicy (sourceText : String) : PolicyDraftInput :=
  { quietPolicy sourceText with
    document := [("version", .number 1), ("effect", .object [("reply", "ask"), ("attention", "batch")])] }

def quietCalls : List PolicyCall :=
  [.savePolicyDraft (quietPolicy "be quiet"), .activatePolicy "policy:1" 1 "2026-01-01",
    .savePolicyDraft (quietPolicy "be quieter"), .commitActivation ⟨"policy:1", 1, "2026-01-01"⟩]

/-- The activated policy is enabled, and the promises hold. -/
theorem quietCalls_promises : ∃ session, machine.replay quietCalls initial = some session ∧
    session.store.definitions.rows.map (·.status) = [.enabled] ∧ session.Promises := by
  obtain ⟨session, replayed, enabled⟩ : ∃ session, machine.replay quietCalls initial = some session ∧
        session.store.definitions.rows.map (·.status) = [.enabled] :=
    ⟨_, rfl, by decide +kernel⟩
  exact ⟨session, replayed, enabled, run_promises (machine.replay_run replayed)⟩

/-- A draft equal to a stored revision but for the order of members is stored once more. -/
theorem turned_not_reused : ∃ calls session draft, Run calls session ∧
    (∃ row ∈ session.store.revisions, EqualDraft draft row) ∧ ¬ session.store.Reuses draft := by
  obtain ⟨session, replayed, listed, different⟩ : ∃ session, machine.replay quietCalls initial = some session ∧
        { draftRow (quietPolicy "be quiet") 1 with approvedAt := some "2026-01-01" } ∈ session.store.revisions.rows ∧
        ∀ row ∈ session.store.revisions.rows, sameDraft (turnedPolicy "be quiet") row = false :=
    ⟨_, rfl, by decide +kernel, by decide +kernel⟩
  refine ⟨quietCalls, session, turnedPolicy "be quiet", machine.replay_run replayed,
    ⟨_, listed, rfl, rfl, ?_, .refl _⟩, ?_⟩
  · have turned : [("attention", JsValue.string "batch"), ("reply", "ask")].Perm
        [("reply", "ask"), ("attention", "batch")] := List.Perm.swap _ _ _
    have same : ∀ members, JsValue.EqualMembers members members := by
      intro members
      induction members with
      | nil => exact .nil
      | cons member rest ih => exact .cons (.refl _) ih
    exact .object (.cons (.refl _) (.cons (.object (same _) turned) .nil)) (List.Perm.refl _)
  · rw [reuses_iff]
    rintro ⟨row, stored, same⟩
    rw [different row stored] at same
    cases same

end PolicySession

end QuarkSelfAI.Storage

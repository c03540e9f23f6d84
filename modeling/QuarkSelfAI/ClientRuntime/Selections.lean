import QuarkSelfAI.ClientRuntime.CapabilityState

/-!
# Selections of installed versions

Every call that writes the state is one of five moves, and each keeps the selections
consistent: what is selected is installed, and differs from what was selected before.
-/

namespace QuarkSelfAI.ClientRuntime

open Foundation CapabilityPlatform

namespace CapabilityState

variable {host : ClientHost} {state next : CapabilityState} {now : Option Timestamp} {capabilityId version : String}
  {other : String} {selections : Table CapabilitySelection.capabilityId} {snapshot : LifecycleSnapshot}
  {selection : CapabilitySelection} {time : Timestamp}

/-! ## Consistent states -/

structure Consistent (host : ClientHost) (state : CapabilityState) : Prop where
  inactive : ∀ snapshot ∈ state.capabilities, isInactiveSnapshot host snapshot = true
  current : ∀ selection ∈ state.selections, ∃ snapshot,
    state.capabilities.find? (selection.capabilityId, selection.currentVersion) = some snapshot
  previous : ∀ selection ∈ state.selections, ∀ version ∈ selection.previousVersion,
    (∃ snapshot, state.capabilities.find? (selection.capabilityId, version) = some snapshot) ∧
      version ≠ selection.currentVersion

theorem consistent_empty : Consistent host empty where
  inactive _ stored := (Table.not_mem_empty _ stored).elim
  current _ stored := (Table.not_mem_empty _ stored).elim
  previous _ stored := (Table.not_mem_empty _ stored).elim

/-- What a read of a version returns is stored. -/
theorem inactiveCapability_stored {found : Option LifecycleSnapshot}
    (read : inactiveCapability host state capabilityId version = .ok found) :
    state.capabilities.find? (capabilityId, version) = found := by
  simp only [inactiveCapability, bind_ok, throwIf_ok] at read
  obtain ⟨_, _, read⟩ := read
  split at read
  · rename_i absent
    rw [absent]
    exact Except.ok.inj read
  · rename_i snapshot stored
    obtain ⟨_, _, same⟩ := bind_ok.mp read
    rw [stored]
    exact Except.ok.inj same

/-- What a read of a selection returns is stored. -/
theorem inactiveCapabilitySelection_stored {found : Option CapabilitySelection}
    (read : inactiveCapabilitySelection host state capabilityId = .ok found) :
    state.selections.find? capabilityId = found := by
  simp only [inactiveCapabilitySelection, bind_ok, throwIf_ok] at read
  obtain ⟨_, _, read⟩ := read
  split at read
  · rename_i absent
    rw [absent]
    exact Except.ok.inj read
  · rename_i selection stored
    simp only [bind_ok, throwIf_ok] at read
    obtain ⟨_, _, _, _, _, _, read⟩ := read
    rw [stored]
    split at read
    · exact Except.ok.inj read
    · simp only [bind_ok, throwIf_ok] at read
      obtain ⟨_, _, _, _, same⟩ := read
      exact Except.ok.inj same

theorem Consistent.patterned (consistent : Consistent host state)
    (stored : state.capabilities.find? (capabilityId, version) = some snapshot) :
    stateIdPattern capabilityId = true ∧ versionPattern version = true := by
  have inactive := consistent.inactive snapshot (Table.find?_mem stored)
  have keyed : snapshot.key = (capabilityId, version) := Table.find?_key stored
  obtain ⟨rfl, rfl⟩ := Prod.mk.inj keyed
  simp only [isInactiveSnapshot, Bool.and_eq_true] at inactive
  exact inactive.1.1.1.1.1.1.1.1

/-- A stored version is read back. -/
theorem Consistent.read_capability (consistent : Consistent host state)
    (stored : state.capabilities.find? (capabilityId, version) = some snapshot) :
    inactiveCapability host state capabilityId version = .ok (some snapshot) := by
  have inactive := consistent.inactive snapshot (Table.find?_mem stored)
  have patterned := consistent.patterned stored
  unfold inactiveCapability
  refine bind_ok.mpr ⟨(), throwIf_ok.mpr (by simp [patterned]), ?_⟩
  rw [stored]
  exact bind_ok.mpr ⟨(), throwIf_ok.mpr (by simp [inactive]), rfl⟩

/-- A stored selection is read back. -/
theorem Consistent.read_selection (consistent : Consistent host state) (named : stateIdPattern capabilityId = true) :
    inactiveCapabilitySelection host state capabilityId = .ok (state.selections.find? capabilityId) := by
  unfold inactiveCapabilitySelection
  refine bind_ok.mpr ⟨(), throwIf_ok.mpr (by simp [named]), ?_⟩
  cases found : state.selections.find? capabilityId with
  | none => rfl
  | some selection =>
    obtain rfl := Table.find?_key found
    obtain ⟨current, installed⟩ := consistent.current selection (Table.find?_mem found)
    have before := consistent.previous selection (Table.find?_mem found)
    have older : ∀ version ∈ selection.previousVersion, versionPattern version = true := by
      intro version named
      obtain ⟨⟨snapshot, stored⟩, _⟩ := before version named
      exact (consistent.patterned stored).2
    refine bind_ok.mpr ⟨(), throwIf_ok.mpr ?_, bind_ok.mpr ⟨some current, consistent.read_capability installed, ?_⟩⟩
    · rintro (unpatterned | unpatterned)
      · rw [(consistent.patterned installed).2] at unpatterned
        cases unpatterned
      · obtain ⟨version, named, unpatterned⟩ := (Option.any_eq_true ..).mp unpatterned
        simp [older version named] at unpatterned
    · refine bind_ok.mpr ⟨(), throwIf_ok.mpr (by simp), ?_⟩
      split
      · rfl
      · rename_i version named
        obtain ⟨⟨snapshot, stored⟩, _⟩ := before version named
        refine bind_ok.mpr ⟨some snapshot, consistent.read_capability stored, ?_⟩
        exact bind_ok.mpr ⟨(), throwIf_ok.mpr (by simp), rfl⟩

/-! ## Moves -/

/-- What a call writes. -/
inductive Move (host : ClientHost) (state : CapabilityState) : CapabilityState → Prop where
  | stays : Move host state state
  | saves (snapshot : LifecycleSnapshot) (inactive : isInactiveSnapshot host snapshot = true) :
      Move host state { state with capabilities := state.capabilities.put snapshot }
  | selects (capabilityId version : String) (now : Timestamp)
      (installed : ∃ snapshot, state.capabilities.find? (capabilityId, version) = some snapshot)
      (other : (state.selections.find? capabilityId).map CapabilitySelection.currentVersion ≠ some version) :
      Move host state { state with selections := state.selections.put ⟨capabilityId, version,
        (state.selections.find? capabilityId).map CapabilitySelection.currentVersion, now⟩ }
  | reverts (selection : CapabilitySelection) (previous : String) (now : Timestamp)
      (stored : state.selections.find? selection.capabilityId = some selection)
      (older : selection.previousVersion = some previous) :
      Move host state { state with selections := state.selections.put ⟨selection.capabilityId, previous,
        some selection.currentVersion, now⟩ }
  | removes (capabilityId version : String) (now : Timestamp) :
      Move host state
        { capabilities := state.capabilities.delete (capabilityId, version)
          selections := withoutVersion capabilityId version now (state.selections.find? capabilityId) state.selections }

theorem saveInactiveCapability_move (snapshot : LifecycleSnapshot) :
    Move host state (saveInactiveCapability host snapshot state).2 := by
  unfold saveInactiveCapability
  split
  · exact .stays
  · rename_i inactive
    split
    · split
      · exact .stays
      · exact .stays
    · exact .saves snapshot (by simpa using inactive)

theorem selectable_stored {current : Option CapabilitySelection}
    (read : selectable host state capabilityId version now = .ok (time, current)) :
    (∃ snapshot, state.capabilities.find? (capabilityId, version) = some snapshot) ∧
      state.selections.find? capabilityId = current := by
  unfold selectable at read
  obtain ⟨selected, installed, read⟩ := bind_ok.mp read
  cases selected with
  | none => cases read
  | some snapshot =>
    cases now with
    | none => cases read
    | some now =>
      obtain ⟨_, stored, same⟩ := bind_ok.mp read
      cases same
      exact ⟨⟨snapshot, inactiveCapability_stored installed⟩, inactiveCapabilitySelection_stored stored⟩

theorem selectInactiveCapability_move (capabilityId version : String) (now : Option Timestamp) :
    Move host state (selectInactiveCapability host capabilityId version now state).2 := by
  unfold selectInactiveCapability
  split
  · exact .stays
  · rename_i now current read
    obtain ⟨installed, rfl⟩ := selectable_stored read
    split
    · exact .stays
    · rename_i other
      exact .selects capabilityId version now installed other

theorem revertible_stored {capabilityId previous : String}
    (read : revertible host state capabilityId now = .ok (time, selection, previous)) :
    state.selections.find? capabilityId = some selection ∧ selection.previousVersion = some previous := by
  unfold revertible at read
  obtain ⟨current, stored, read⟩ := bind_ok.mp read
  have here := inactiveCapabilitySelection_stored stored
  cases older : current.bind fun selection => selection.previousVersion.map (selection, ·) with
  | none =>
    rw [older] at read
    cases now with
    | none | some => cases read
  | some pair =>
    rw [older] at read
    cases now with
    | none => cases read
    | some now =>
      simp only [bind_ok, throwIf_ok] at read
      obtain ⟨_, _, _, _, same⟩ := read
      cases same
      obtain ⟨kept, rfl, named⟩ := Option.bind_eq_some_iff.mp older
      obtain ⟨_, before, same⟩ := Option.map_eq_some_iff.mp named
      cases same
      exact ⟨here, before⟩

theorem removable_stored {removed : LifecycleSnapshot} {selection : Option CapabilitySelection}
    (read : removable host state capabilityId version now = .ok (time, removed, selection)) :
    state.capabilities.find? (capabilityId, version) = some removed ∧
      state.selections.find? capabilityId = selection := by
  unfold removable at read
  obtain ⟨found, installed, read⟩ := bind_ok.mp read
  cases found with
  | none => cases read
  | some snapshot =>
    cases now with
    | none => cases read
    | some now =>
      obtain ⟨_, stored, same⟩ := bind_ok.mp read
      cases same
      exact ⟨inactiveCapability_stored installed, inactiveCapabilitySelection_stored stored⟩

theorem rollbackInactiveCapability_move (capabilityId : String) (now : Option Timestamp) :
    Move host state (rollbackInactiveCapability host capabilityId now state).2 := by
  unfold rollbackInactiveCapability
  split
  · exact .stays
  · rename_i now selection previous read
    obtain ⟨stored, older⟩ := revertible_stored read
    obtain rfl := Table.find?_key stored
    exact .reverts selection previous now stored older

theorem removeInactiveCapability_move (capabilityId version : String) (now : Option Timestamp) :
    Move host state (removeInactiveCapability host capabilityId version now state).2 := by
  unfold removeInactiveCapability
  split
  · exact .stays
  · rename_i now removed selection read
    have here := (removable_stored read).2
    rw [← here]
    dsimp only
    split
    all_goals exact .removes capabilityId version now

/-! ## Moves keep the state consistent -/

theorem Consistent.saved (consistent : Consistent host state) (inactive : isInactiveSnapshot host snapshot = true) :
    Consistent host { state with capabilities := state.capabilities.put snapshot } := by
  have kept : ∀ key, (∃ stored, state.capabilities.find? key = some stored) →
      ∃ stored, (state.capabilities.put snapshot).find? key = some stored := by
    rintro key ⟨stored, found⟩
    rw [Table.find?_put]
    split
    · exact ⟨snapshot, rfl⟩
    · exact ⟨stored, found⟩
  constructor
  case inactive =>
    intro other stored
    rcases Table.mem_put stored with rfl | before
    · exact inactive
    · exact consistent.inactive other before
  case current => exact fun selection stored => kept _ (consistent.current selection stored)
  case previous =>
    intro selection stored version older
    obtain ⟨installed, other⟩ := consistent.previous selection stored version older
    exact ⟨kept _ installed, other⟩

/-- A selection of installed versions may take the place of another. -/
theorem Consistent.chosen (consistent : Consistent host state) {row : CapabilitySelection}
    (current : ∃ snapshot, state.capabilities.find? (row.capabilityId, row.currentVersion) = some snapshot)
    (previous : ∀ version ∈ row.previousVersion,
      (∃ snapshot, state.capabilities.find? (row.capabilityId, version) = some snapshot) ∧
        version ≠ row.currentVersion) : Consistent host { state with selections := state.selections.put row } where
  inactive := consistent.inactive
  current selection stored := by
    rcases Table.mem_put stored with rfl | before
    · exact current
    · exact consistent.current selection before
  previous selection stored := by
    rcases Table.mem_put stored with rfl | before
    · exact previous
    · exact consistent.previous selection before

/-- What is left of the selections once a version is removed. -/
inductive Left (capabilityId version : String) (selections : Table CapabilitySelection.capabilityId)
    (selection : CapabilitySelection) : Prop where
  | kept (stored : selection ∈ selections)
      (apart : selection.capabilityId = capabilityId → selection.currentVersion ≠ version ∧
        selection.previousVersion ≠ some version)
  | reverted (old : CapabilitySelection) (stored : old ∈ selections) (here : selection.capabilityId = old.capabilityId)
      (current : old.currentVersion = version) (older : old.previousVersion = some selection.currentVersion)
      (alone : selection.previousVersion = none)
  | forgotten (old : CapabilitySelection) (stored : old ∈ selections) (here : selection.capabilityId = old.capabilityId)
      (current : selection.currentVersion = old.currentVersion) (other : old.currentVersion ≠ version)
      (alone : selection.previousVersion = none)

/-- A selection in a table with a new row is that row, or an old one of another capability. -/
theorem mem_chosen {row selection : CapabilitySelection} (stored : selection ∈ selections.put row) :
    selection = row ∨ (selection ∈ selections ∧ selection.capabilityId ≠ row.capabilityId) := by
  have found := Table.find?_self stored
  rw [Table.find?_put] at found
  split at found
  · exact .inl (Option.some.inj found).symm
  · rename_i other
    exact .inr ⟨Table.find?_mem found, other⟩

theorem withoutVersion_left {now : Timestamp}
    (left : selection ∈ withoutVersion capabilityId version now (selections.find? capabilityId) selections) :
    Left capabilityId version selections selection := by
  unfold withoutVersion at left
  split at left
  · rename_i absent
    refine .kept left fun here => absurd (Table.find?_self left) ?_
    rw [here, absent]
    simp
  · rename_i old found
    obtain rfl := Table.find?_key found
    have stored := Table.find?_mem found
    split at left
    · rename_i current
      split at left
      · rename_i previous older
        rcases mem_chosen left with rfl | ⟨before, apart⟩
        · exact .reverted old stored rfl current older rfl
        · exact .kept before fun here => absurd here apart
      · have there := Table.find?_self left
        rw [Table.find?_delete] at there
        split at there
        · cases there
        · rename_i apart
          exact .kept (Table.find?_mem there) fun here => absurd here apart
    · rename_i other
      split at left
      · rcases mem_chosen left with rfl | ⟨before, apart⟩
        · exact .forgotten old stored rfl rfl other rfl
        · exact .kept before fun here => absurd here apart
      · rename_i unlike
        refine .kept left fun here => ?_
        obtain rfl := Table.eq_of_key left stored here
        exact ⟨other, unlike⟩

theorem Consistent.removed (consistent : Consistent host state) (capabilityId version : String) (now : Timestamp) :
    Consistent host
      { capabilities := state.capabilities.delete (capabilityId, version)
        selections := withoutVersion capabilityId version now (state.selections.find? capabilityId) state.selections } := by
  have kept : ∀ other sought, (other = capabilityId → sought ≠ version) →
      (∃ stored, state.capabilities.find? (other, sought) = some stored) →
        ∃ stored, (state.capabilities.delete (capabilityId, version)).find? (other, sought) = some stored := by
    rintro other sought apart ⟨stored, found⟩
    rw [Table.find?_delete, if_neg]
    · exact ⟨stored, found⟩
    · intro same
      obtain ⟨rfl, rfl⟩ := Prod.mk.inj same
      exact apart rfl rfl
  constructor
  case inactive =>
    intro snapshot stored
    have found := Table.find?_self stored
    rw [Table.find?_delete] at found
    split at found
    · cases found
    · exact consistent.inactive snapshot (Table.find?_mem found)
  case current =>
    intro selection left
    cases withoutVersion_left left with
    | kept stored apart => exact kept _ _ (fun here => (apart here).1) (consistent.current selection stored)
    | reverted old stored here current older alone =>
      obtain ⟨installed, other⟩ := consistent.previous old stored selection.currentVersion older
      rw [here]
      exact kept _ _ (fun _ same => other (same.trans current.symm)) installed
    | forgotten old stored here current other alone =>
      rw [here, current]
      exact kept _ _ (fun _ => other) (consistent.current old stored)
  case previous =>
    intro selection left sought older
    cases withoutVersion_left left with
    | kept stored apart =>
      obtain ⟨installed, other⟩ := consistent.previous selection stored sought older
      refine ⟨kept _ _ (fun here same => (apart here).2 ?_) installed, other⟩
      rw [← same]
      exact older
    | reverted old stored here current before alone | forgotten old stored here current other alone =>
      rw [alone] at older
      cases older

theorem Move.consistent (move : Move host state next) (consistent : Consistent host state) : Consistent host next := by
  cases move with
  | stays => exact consistent
  | saves snapshot inactive => exact consistent.saved inactive
  | selects capabilityId version now installed other =>
    refine consistent.chosen installed ?_
    intro previous older
    obtain ⟨selection, found, rfl⟩ := Option.map_eq_some_iff.mp older
    obtain rfl := Table.find?_key found
    refine ⟨consistent.current selection (Table.find?_mem found), fun same => other ?_⟩
    rw [found, Option.map_some, same]
  | reverts selection previous now stored older =>
    obtain ⟨installed, other⟩ := consistent.previous selection (Table.find?_mem stored) previous older
    refine consistent.chosen installed ?_
    intro version current
    obtain rfl : selection.currentVersion = version := Option.some.inj current
    exact ⟨consistent.current selection (Table.find?_mem stored), other.symm⟩
  | removes capabilityId version now => exact consistent.removed capabilityId version now

theorem recordInstalled_consistent (consistent : Consistent host state) (plan : InstallationPlan)
    (installedAt now : Timestamp) : Consistent host (recordInstalled host plan installedAt now state).2 := by
  have saved : Consistent host (saveInactiveCapability host (inactiveLifecycleSnapshot plan installedAt) state).2 :=
    (saveInactiveCapability_move _).consistent consistent
  unfold recordInstalled
  split
  · rename_i same
    rwa [same] at saved
  · rename_i same
    rw [same] at saved
    split
    · exact saved
    · exact saved
    · exact (selectInactiveCapability_move _ _ _).consistent saved

/-! ## Runs -/

@[simp] theorem answered_state {α : Type} (reply : α → CapabilityReply) (outcome : Except String α × CapabilityState) :
    (answered reply outcome).2 = outcome.2 := by
  unfold answered
  split
  · rfl
  · rfl

theorem perform_consistent (call : CapabilityCall) (consistent : Consistent host state) :
    Consistent host (perform host call state).2 := by
  cases call with
  | save snapshot =>
    rw [perform, answered_state]
    exact (saveInactiveCapability_move snapshot).consistent consistent
  | select capabilityId version now =>
    rw [perform, answered_state]
    exact (selectInactiveCapability_move capabilityId version now).consistent consistent
  | rollback capabilityId now =>
    rw [perform, answered_state]
    exact (rollbackInactiveCapability_move capabilityId now).consistent consistent
  | remove capabilityId version now =>
    rw [perform, answered_state]
    exact (removeInactiveCapability_move capabilityId version now).consistent consistent
  | install plan installedAt now =>
    unfold perform
    dsimp only
    split
    · exact consistent
    · rw [answered_state]
      exact recordInstalled_consistent consistent plan installedAt _

theorem run_consistent {labels : List (CapabilityCall × CapabilityReply)}
    (run : (machine host).system.Run labels state) : Consistent host state := by
  refine run.invariant ?_ ?_
  · intro start valid
    cases valid
    exact consistent_empty
  · intro before entry after consistent transition
    have performed : perform host entry.1 before = (entry.2, after) := transition
    have kept : Consistent host (perform host entry.1 before).2 := perform_consistent entry.1 consistent
    rwa [performed] at kept

/-! ## A capability that is selected -/

/-- A call does not remove the current version of a capability that has no previous one. -/
def spares (capabilityId : String) (state : CapabilityState) (entry : CapabilityCall × CapabilityReply) : Prop :=
  ∀ version now, entry.1 = .remove capabilityId version now → ∀ selection,
    state.selections.find? capabilityId = some selection → selection.currentVersion = version →
      selection.previousVersion ≠ none

def HasSelection (capabilityId : String) (state : CapabilityState) : Prop :=
  (state.selections.find? capabilityId).isSome = true

theorem hasSelection_put {row : CapabilitySelection} (has : HasSelection capabilityId state) :
    HasSelection capabilityId { state with selections := state.selections.put row } := by
  unfold HasSelection at has ⊢
  rw [Table.find?_put]
  split
  · rfl
  · exact has

theorem save_hasSelection (has : HasSelection capabilityId state) :
    HasSelection capabilityId (saveInactiveCapability host snapshot state).2 := by
  unfold saveInactiveCapability
  split
  · exact has
  · split
    · split
      · exact has
      · exact has
    · exact has

theorem select_hasSelection (has : HasSelection capabilityId state) :
    HasSelection capabilityId (selectInactiveCapability host other version now state).2 := by
  unfold selectInactiveCapability
  split
  · exact has
  · split
    · exact has
    · exact hasSelection_put has

theorem rollback_hasSelection (has : HasSelection capabilityId state) :
    HasSelection capabilityId (rollbackInactiveCapability host other now state).2 := by
  unfold rollbackInactiveCapability
  split
  · exact has
  · exact hasSelection_put has

/-- A removal forgets the selection of a capability only with its current version, when
there is none before it. -/
theorem withoutVersion_isSome {now : Timestamp}
    (spared : ∀ selection, selections.find? capabilityId = some selection → other = capabilityId →
      selection.currentVersion = version → selection.previousVersion ≠ none)
    (has : (selections.find? capabilityId).isSome = true) :
    ((withoutVersion other version now (selections.find? other) selections).find? capabilityId).isSome = true := by
  have put : ∀ row : CapabilitySelection, ((selections.put row).find? capabilityId).isSome = true := by
    intro row
    rw [Table.find?_put]
    split
    · rfl
    · exact has
  unfold withoutVersion
  split
  · exact has
  · rename_i selection found
    split
    · rename_i current
      split
      · exact put _
      · rename_i alone
        rw [Table.find?_delete]
        split
        · rename_i same
          subst same
          exact absurd alone (spared selection found rfl current)
        · exact has
    · split
      · exact put _
      · exact has

theorem remove_hasSelection
    (spared : ∀ selection, state.selections.find? capabilityId = some selection → other = capabilityId →
      selection.currentVersion = version → selection.previousVersion ≠ none) (has : HasSelection capabilityId state) :
    HasSelection capabilityId (removeInactiveCapability host other version now state).2 := by
  unfold removeInactiveCapability
  split
  · exact has
  · rename_i read
    rw [← (removable_stored read).2]
    dsimp only
    split
    all_goals exact withoutVersion_isSome spared has

theorem recordInstalled_hasSelection {plan : InstallationPlan} {installedAt now : Timestamp}
    (has : HasSelection capabilityId state) :
    HasSelection capabilityId (recordInstalled host plan installedAt now state).2 := by
  have saved : HasSelection capabilityId
      (saveInactiveCapability host (inactiveLifecycleSnapshot plan installedAt) state).2 := save_hasSelection has
  unfold recordInstalled
  split
  · rename_i same
    rwa [same] at saved
  · rename_i same
    rw [same] at saved
    split
    · exact saved
    · exact saved
    · exact select_hasSelection saved

theorem step_hasSelection {entry : CapabilityCall × CapabilityReply}
    (transition : (machine host).system.Step state entry next) (spared : spares capabilityId state entry)
    (has : HasSelection capabilityId state) : HasSelection capabilityId next := by
  obtain ⟨call, reply⟩ := entry
  have performed : perform host call state = (reply, next) := transition
  have kept : HasSelection capabilityId (perform host call state).2 := by
    cases call with
    | save snapshot =>
      rw [perform, answered_state]
      exact save_hasSelection has
    | select other version now =>
      rw [perform, answered_state]
      exact select_hasSelection has
    | rollback other now =>
      rw [perform, answered_state]
      exact rollback_hasSelection has
    | remove other version now =>
      rw [perform, answered_state]
      refine remove_hasSelection ?_ has
      rintro selection found rfl current
      exact spared version now rfl selection found current
    | install plan installedAt now =>
      unfold perform
      dsimp only
      split
      · exact has
      · rw [answered_state]
        exact recordInstalled_hasSelection has
  rwa [performed] at kept

theorem select_ok_hasSelection {selection : Option CapabilitySelection}
    (selected : selectInactiveCapability host capabilityId version now state = (.ok selection, next)) :
    HasSelection capabilityId next := by
  unfold selectInactiveCapability at selected
  split at selected
  · cases selected
  · rename_i time current read
    have here := (selectable_stored read).2
    split at selected
    · rename_i same
      cases selected
      obtain ⟨kept, rfl, _⟩ := Option.map_eq_some_iff.mp same
      rw [HasSelection, here]
      rfl
    · cases (Prod.mk.inj selected).2
      rw [HasSelection, Table.find?_put, if_pos rfl]
      rfl

/-- A capability is selected when an install of one of its versions returns. -/
theorem install_hasSelection {plan : InstallationPlan} {installedAt : Timestamp}
    (installed : perform host (.install plan installedAt now) state = (.installed, next)) :
    HasSelection plan.capabilityId next := by
  unfold perform at installed
  dsimp only at installed
  split at installed
  · cases installed
  · rename_i time _
    unfold recordInstalled at installed
    split at installed
    · cases installed
    · rename_i saved _
      split at installed
      · cases installed
      · rename_i selection read
        cases installed
        rw [HasSelection, inactiveCapabilitySelection_stored read]
        rfl
      · cases selected : selectInactiveCapability host plan.capabilityId plan.version (some time) saved with
        | mk outcome after =>
          rw [selected] at installed
          cases outcome with
          | error message => cases installed
          | ok selection =>
            cases installed
            exact select_ok_hasSelection selected

/-! ## Rollbacks -/

/-- The selection with its two versions exchanged. -/
def CapabilitySelection.reverted (selection : CapabilitySelection) (previous : String) (now : Timestamp) :
    CapabilitySelection :=
  ⟨selection.capabilityId, previous, some selection.currentVersion, now⟩

theorem find?_reverted (selections : Table CapabilitySelection.capabilityId) (selection : CapabilitySelection)
    (previous : String) (now : Timestamp) :
    (selections.put (CapabilitySelection.reverted selection previous now)).find? selection.capabilityId =
      some (CapabilitySelection.reverted selection previous now) := by
  rw [Table.find?_put]
  exact if_pos rfl

theorem rollback_ok {first : Option CapabilitySelection}
    (rolled : rollbackInactiveCapability host capabilityId now state = (.ok first, next)) :
    ∃ selection previous time, state.selections.find? capabilityId = some selection ∧
      selection.previousVersion = some previous ∧
      next = { state with selections := state.selections.put (CapabilitySelection.reverted selection previous time) } := by
  unfold rollbackInactiveCapability at rolled
  split at rolled
  · cases rolled
  · rename_i time selection previous read
    obtain ⟨stored, older⟩ := revertible_stored read
    obtain rfl := Table.find?_key stored
    exact ⟨selection, previous, time, stored, older, (Prod.mk.inj rolled).2.symm⟩

theorem Consistent.rollback (consistent : Consistent host state) {previous : String}
    (stored : state.selections.find? selection.capabilityId = some selection)
    (older : selection.previousVersion = some previous) (later : Timestamp) :
    rollbackInactiveCapability host selection.capabilityId (some later) state =
      (.ok (some (CapabilitySelection.reverted selection previous later)),
        { state with selections := state.selections.put (CapabilitySelection.reverted selection previous later) }) := by
  obtain ⟨current, installed⟩ := consistent.current selection (Table.find?_mem stored)
  obtain ⟨⟨target, there⟩, _⟩ := consistent.previous selection (Table.find?_mem stored) previous older
  have named := (consistent.patterned installed).1
  have read : revertible host state selection.capabilityId (some later) = .ok (later, selection, previous) := by
    unfold revertible
    refine bind_ok.mpr ⟨some selection, (consistent.read_selection named).trans (by rw [stored]), ?_⟩
    simp only [Option.bind_some, older, Option.map_some]
    exact bind_ok.mpr ⟨some target, consistent.read_capability there, bind_ok.mpr ⟨(), throwIf_ok.mpr (by simp), rfl⟩⟩
  have after : Consistent host
      { state with selections := state.selections.put (CapabilitySelection.reverted selection previous later) } :=
    (Move.reverts selection previous later stored older).consistent consistent
  have back := after.read_selection named
  rw [find?_reverted] at back
  unfold rollbackInactiveCapability
  rw [read]
  exact Prod.ext back rfl

/-- In every state reached the versions that are selected are installed, and the one before
differs from the current one; a capability stays selected after an install, until its current
version is removed while there is none before it; and two rollbacks restore the selection. -/
theorem selections_consistent {labels : List (CapabilityCall × CapabilityReply)}
    (run : (machine host).system.Run labels state) : (∀ selection ∈ state.selections,
      (∃ snapshot, state.capabilities.find? (selection.capabilityId, selection.currentVersion) = some snapshot) ∧
        ∀ previous ∈ selection.previousVersion,
          (∃ snapshot, state.capabilities.find? (selection.capabilityId, previous) = some snapshot) ∧
            previous ≠ selection.currentVersion) ∧ (∀ plan installedAt now middle after finish,
      perform host (.install plan installedAt now) state = (.installed, middle) →
        ((machine host).system.restricted (spares plan.capabilityId)).Steps middle after finish →
          HasSelection plan.capabilityId finish) ∧ (∀ capabilityId now later first middle,
      perform host (.rollback capabilityId now) state = (.selected first, middle) →
        ∃ original second last, state.selections.find? capabilityId = some original ∧
          perform host (.rollback capabilityId (some later)) middle = (.selected (some second), last) ∧
          last.selections.find? capabilityId = some second ∧
          second.currentVersion = original.currentVersion ∧ second.previousVersion = original.previousVersion) := by
  have consistent := run_consistent run
  refine ⟨fun selection stored => ⟨consistent.current selection stored, consistent.previous selection stored⟩, ?_, ?_⟩
  · intro plan installedAt now middle after finish installed steps
    refine steps.preserves (HasSelection plan.capabilityId) ?_ (install_hasSelection installed)
    intro before label next has transition
    exact step_hasSelection transition.1 transition.2 has
  · intro capabilityId now later first middle rolled
    cases reverted : rollbackInactiveCapability host capabilityId now state with
    | mk outcome after =>
      have answers : answered .selected (outcome, after) = (.selected first, middle) := by
        rw [← reverted]
        exact rolled
      cases outcome with
      | error message => cases answers
      | ok selected =>
        cases answers
        obtain ⟨selection, previous, time, stored, older, rfl⟩ := rollback_ok reverted
        obtain rfl := Table.find?_key stored
        have kept := (Move.reverts selection previous time stored older).consistent consistent
        have turned := @Consistent.rollback _ _ (CapabilitySelection.reverted selection previous time) kept _
          (find?_reverted ..) rfl later
        refine ⟨selection, _, _, stored, (congrArg (answered .selected) turned).trans rfl, ?_, rfl, older.symm⟩
        exact find?_reverted ..

/-! ## Two versions, of which the first is removed -/

def sampleClient : ClientHost where
  deviceId := "device.owner"
  parseDate text := [0, 1000].find? fun instant => toISOString instant = text

def samplePlan (version : String) : InstallationPlan where
  planId := "plan"
  deviceId := "device.owner"
  capabilityId := "tool/example"
  version := version
  artifactDigest := "sha256:aaaaaaaaaaaaaaaaaaaaaaaaaaaaaaaaaaaaaaaaaaaaaaaaaaaaaaaaaaaaaaaa"
  targetState := "installed-inactive"
  loadAllowed := false
  runAllowed := false
  externalWritesEnabled := false

def upgradeCalls : List CapabilityCall :=
  [.install (samplePlan "1.0.0") 0 (some 0), .install (samplePlan "2.0.0") 1000 (some 1000),
    .select "tool/example" "2.0.0" (some 1000)]

def upgraded : CapabilityState := ((machine sampleClient).replay upgradeCalls empty).2

/-- After an upgrade two rollbacks select the new version again. -/
theorem upgrade_restored : ∃ original second last, upgraded.selections.find? "tool/example" = some original ∧
      perform sampleClient (.rollback "tool/example" (some 3000))
        (perform sampleClient (.rollback "tool/example" (some 2000)) upgraded).2 = (.selected (some second), last) ∧
      last.selections.find? "tool/example" = some second ∧
      second.currentVersion = original.currentVersion ∧ second.previousVersion = original.previousVersion :=
  (selections_consistent ((machine sampleClient).replay_run upgradeCalls)).2.2 "tool/example" (some 2000) 3000
    (some ⟨"tool/example", "1.0.0", some "2.0.0", 2000⟩) _ (Prod.ext (by decide +kernel) rfl)

def removalCalls : List CapabilityCall :=
  [.install (samplePlan "1.0.0") 0 (some 0), .install (samplePlan "2.0.0") 1000 (some 1000),
    .remove "tool/example" "1.0.0" (some 2000)]

/-- A capability whose first version is removed while a second one was only installed has
an installed version and no selection. -/
theorem installed_unselected :
    ¬ ∀ (host : ClientHost) (labels : List (CapabilityCall × CapabilityReply)) (state : CapabilityState),
      (machine host).system.Run labels state →
        ∀ plan installedAt now, (.install plan installedAt now, .installed) ∈ labels →
          (state.capabilities.find? (plan.capabilityId, plan.version)).isSome = true →
            HasSelection plan.capabilityId state := by
  intro claimed
  have selected := claimed sampleClient _ _ ((machine sampleClient).replay_run removalCalls) (samplePlan "2.0.0") 1000
    (some 1000) (by decide +kernel) (by decide +kernel)
  have none : ¬ HasSelection "tool/example" ((machine sampleClient).replay removalCalls empty).2 := by
    unfold HasSelection
    decide +kernel
  exact none selected

end CapabilityState

end QuarkSelfAI.ClientRuntime

import QuarkSelfAI.BridgeCompat.Reactions
import Mathlib.Data.List.Perm.Basic

/-!
# The queue of reactions

What is pending are the events that were accepted, without those whose processing has succeeded
and those that a save has cut off, as long as no save cuts events off while one is processed:
the index of the loop would then stand for another event. The states follow the last event that
took effect, which is the latest one if the events of a key take effect in order.
-/

namespace QuarkSelfAI.BridgeCompat

open Foundation

abbrev ReactionTrace := List (ReactionCall × ReactionReply)

def acceptedIn (labels : ReactionTrace) : List ReactionEvent := labels.filterMap fun label => label.2.accepted

/-- The events that were found to concern the owner, as often as they took effect. -/
def concerningIn (labels : ReactionTrace) : List ReactionEvent := labels.filterMap fun label => label.2.concerning

/-- The events that were found not to concern the owner. -/
def ignoredIn (labels : ReactionTrace) : List ReactionEvent := labels.filterMap fun label => label.2.ignored

/-- The events whose processing has succeeded, by their place among the accepted ones. -/
def succeededIn (labels : ReactionTrace) : List Nat := labels.filterMap fun label => label.2.succeeded

/-- The pending events that saves have cut off. -/
def cutIn (labels : ReactionTrace) : List Nat := labels.flatMap fun label => label.2.cut

/-- The keys whose states saves have cut off. -/
def forgottenIn (labels : ReactionTrace) : List String := labels.flatMap fun label => label.2.forgotten

/-- The latest event of a key is a creation. -/
def LatestCreated (events : List ReactionEvent) (key : String) : Prop :=
  ∃ event ∈ events, event.stateKey = key ∧ event.operation = .created ∧
    ∀ other ∈ events, other.stateKey = key → other.occurredAt ≤ event.occurredAt

/-- An event of a key never comes before an earlier one, nor before one of the same time that
does the opposite. -/
def InOrder (events : List ReactionEvent) : Prop :=
  events.Pairwise fun first second => first.stateKey = second.stateKey → first.occurredAt ≤ second.occurredAt ∧
      (first.occurredAt = second.occurredAt → first.operation = second.operation)

instance (events : List ReactionEvent) : Decidable (InOrder events) := by
  unfold InOrder
  infer_instance

section Latest

variable {events : List ReactionEvent} {event : ReactionEvent} {key : String}

theorem latestCreated_own (ordered : InOrder (events ++ [event])) :
    LatestCreated (events ++ [event]) event.stateKey ↔ event.operation = .created := by
  have before : ∀ other ∈ events, other.stateKey = event.stateKey → other.occurredAt ≤ event.occurredAt ∧
      (other.occurredAt = event.occurredAt → other.operation = event.operation) :=
    fun other listed => (List.pairwise_append.mp ordered).2.2 other listed event (List.mem_singleton_self _)
  constructor
  · rintro ⟨latest, listed, same, created, last⟩
    rcases List.mem_append.mp listed with earlier | here
    · obtain ⟨le, tie⟩ := before latest earlier same
      have ge := last event (List.mem_append_right _ (List.mem_singleton_self _)) rfl
      rw [← tie (Int.le_antisymm le ge), created]
    · rw [List.mem_singleton.mp here] at created
      exact created
  · intro created
    refine ⟨event, List.mem_append_right _ (List.mem_singleton_self _), rfl, created, ?_⟩
    intro other listed same
    rcases List.mem_append.mp listed with earlier | here
    · exact (before other earlier same).1
    · rw [List.mem_singleton.mp here]

theorem latestCreated_other (other : event.stateKey ≠ key) :
    LatestCreated (events ++ [event]) key ↔ LatestCreated events key := by
  constructor
  · rintro ⟨latest, listed, same, created, last⟩
    have earlier : latest ∈ events := by
      rcases List.mem_append.mp listed with earlier | here
      · exact earlier
      · rw [List.mem_singleton.mp here] at same
        exact absurd same other
    exact ⟨latest, earlier, same, created, fun event listed => last event (List.mem_append_left _ listed)⟩
  · rintro ⟨latest, listed, same, created, last⟩
    refine ⟨latest, List.mem_append_left _ listed, same, created, ?_⟩
    intro event listed own
    rcases List.mem_append.mp listed with earlier | here
    · exact last event earlier own
    · rw [List.mem_singleton.mp here] at own
      exact absurd own other

end Latest

namespace Reactions

variable {options : ReactionOptions} {world before after : Reactions} {reply : ReactionReply}
  {call : ReactionCall} {labels : ReactionTrace} {label : ReactionCall × ReactionReply}

/-- The loop is about an event, which stands at its index. -/
def About (index ref : Nat) (draining : Option Draining) : Prop :=
  draining = some (.looking index ref) ∨ draining = some (.signalling index ref)

/-- What a step does. -/
inductive Effect (call : ReactionCall) (world : Reactions) : ReactionReply → Reactions → Prop where
  | accepts (event : ReactionEvent) : Effect call world { ReactionReply.silent with accepted := some event }
      { world with items := world.items ++ [.fresh event], pending := world.pending ++ [world.items.length] }
  | saves (saving : call = .save) : Effect call world world.save.1 world.save.2
  /-- The loop goes on, and notes a failure. -/
  | moves (items : List PendingReaction) (draining : Option Draining)
      (same : items.map PendingReaction.event = world.items.map PendingReaction.event)
      (looks : draining = world.draining ∨ ∀ index ref, About index ref draining →
        draining = some (.looking index ref) ∧ world.pending[index]? = some ref) :
      Effect call world .silent { world with items := items, draining := draining }
  | concerns {index ref : Nat} {item : PendingReaction} (ownerSignal : Option OwnerReaction)
      (signal : Option ReactionSignal) (looking : world.draining = some (.looking index ref))
      (found : world.items[ref]? = some item) :
      Effect call world { ReactionReply.silent with
        concerning := some item.event, ownerSignal := ownerSignal, signal := signal }
        { world.setState item.event with draining := some (.signalling index ref) }
  | ignores {index ref : Nat} {item : PendingReaction} (looking : world.draining = some (.looking index ref))
      (found : world.items[ref]? = some item) :
      Effect call world { ReactionReply.silent with ignored := some item.event, succeeded := some ref }
        (world.settle index ref)
  | succeeds {index ref : Nat} (signalling : world.draining = some (.signalling index ref)) :
      Effect call world { ReactionReply.silent with succeeded := some ref } (world.settle index ref)

theorem Effect.still : Effect call world .silent world := .moves world.items world.draining rfl (.inl rfl)

theorem goOn_effect (index : Nat) (now : Timestamp) : Effect call world .silent (world.goOn index now) := by
  refine .moves world.items _ rfl (.inr ?_)
  intro place ref about
  cases found : seek (PendingReaction.due now) world.items index (world.pending.drop index) with
  | none => simp [About, found] at about
  | some next =>
    obtain ⟨start, first⟩ := next
    obtain ⟨le, placed⟩ := seek_placed found
    have same : start = place ∧ first = ref := by simpa [About, found] using about
    obtain ⟨rfl, rfl⟩ := same
    refine ⟨rfl, ?_⟩
    rwa [List.getElem?_drop, Nat.add_sub_cancel' le] at placed

theorem fail_effect (index ref : Nat) (error : String) (now : Timestamp) :
    Effect call world .silent (world.fail index ref error now) := by
  refine .moves _ _ ?_ (.inr ?_)
  · apply List.ext_getElem?
    intro place
    rw [List.getElem?_map, List.getElem?_map, List.getElem?_modify]
    cases world.items[place]? with
    | none => rfl
    | some item =>
      by_cases here : ref = place
      · simp [here, PendingReaction.failed]
      · simp [here]
  · intro place other about
    simp [About] at about

theorem perform_effect (performed : perform options call world = (reply, after)) : Effect call world reply after := by
  cases call with
  | ingest payload operation now =>
    simp only [perform, ingestReaction] at performed
    split at performed
    · cases performed
      exact .still
    · rename_i event _
      split at performed
      · cases performed
        exact .still
      · cases performed
        exact .accepts event
  | save =>
    cases performed
    exact .saves rfl
  | process now =>
    simp only [perform, processReactionQueue] at performed
    split at performed
    · cases performed
      exact .still
    · cases performed
      exact goOn_effect 0 now
  | lookedUp outcome known now =>
    simp only [perform] at performed
    split at performed
    · rename_i index ref looking
      unfold onLookedUp at performed
      split at performed
      · cases performed
        exact fail_effect ..
      · cases performed
        exact fail_effect ..
      · split at performed
        · rename_i found
          dsimp only at performed
          split at performed
          · cases performed
            exact .concerns _ _ looking found
          · cases performed
            exact .ignores looking found
        · cases performed
          exact fail_effect ..
    · cases performed
      exact .still
  | signalled outcome now =>
    simp only [perform] at performed
    split at performed
    · rename_i index ref signalling
      cases outcome with
      | error message =>
        cases performed
        exact fail_effect ..
      | ok =>
        cases performed
        exact .succeeds signalling
    · cases performed
      exact .still
  | saved outcome now =>
    simp only [perform] at performed
    split at performed
    · rename_i draining waits
      cases performed
      unfold onSaved
      split
      · exact goOn_effect ..
      · exact fail_effect ..
      · exact goOn_effect ..
      · exact .moves world.items none rfl (.inr fun index ref about => by simp [About] at about)
      · exact .still
      · exact .still
    · cases performed
      exact .still

/-- No save cuts a pending event off while one is processed. -/
def Unshifted (world : Reactions) (label : ReactionCall × ReactionReply) : Prop :=
  match label.1, world.draining with
  | .save, some (.looking ..) | .save, some (.signalling ..) => world.pending.length ≤ 500
  | _, _ => True

instance (world : Reactions) (label : ReactionCall × ReactionReply) : Decidable (Unshifted world label) := by
  unfold Unshifted
  split <;> infer_instance

/-! ## The queue -/

/-- What is pending, and what the loop is about. -/
structure Queued (labels : ReactionTrace) (world : Reactions) : Prop where
  accepted : world.items.map PendingReaction.event = acceptedIn labels
  pending : world.pending = (List.range (acceptedIn labels).length).filter fun ref =>
    ref ∉ succeededIn labels ∧ ref ∉ cutIn labels
  once : (succeededIn labels).Nodup
  bounded : ∀ ref ∈ succeededIn labels ++ cutIn labels, ref < (acceptedIn labels).length
  placed : ∀ index ref, About index ref world.draining → world.pending[index]? = some ref
  signalled : ∀ index ref event, world.draining = some (.signalling index ref) →
    (acceptedIn labels)[ref]? = some event → event ∈ concerningIn labels
  told : ∀ ref ∈ succeededIn labels, ∀ event, (acceptedIn labels)[ref]? = some event →
    event ∈ concerningIn labels ∨ event ∈ ignoredIn labels

theorem Queued.nodup (queued : Queued labels world) : world.pending.Nodup := by
  rw [queued.pending]
  exact List.nodup_range.filter _

theorem Queued.length (queued : Queued labels world) : world.items.length = (acceptedIn labels).length := by
  rw [← queued.accepted, List.length_map]

theorem Queued.event_of (queued : Queued labels world) {ref : Nat} {item : PendingReaction}
    (found : world.items[ref]? = some item) : (acceptedIn labels)[ref]? = some item.event := by
  rw [← queued.accepted, List.getElem?_map, found]
  rfl

/-- A step that accepts, removes and cuts off nothing. -/
theorem Queued.quiet (queued : Queued labels before)
    (items : after.items.map PendingReaction.event = before.items.map PendingReaction.event)
    (pending : after.pending = before.pending) (unaccepted : label.2.accepted = none)
    (running : label.2.succeeded = none) (uncut : label.2.cut = [])
    (placed : ∀ index ref, About index ref after.draining → before.pending[index]? = some ref)
    (signalled : ∀ index ref event, after.draining = some (.signalling index ref) →
      (acceptedIn labels)[ref]? = some event → event ∈ concerningIn (labels ++ [label])) :
    Queued (labels ++ [label]) after := by
  have accepted : acceptedIn (labels ++ [label]) = acceptedIn labels := by
    simp [acceptedIn, unaccepted]
  have succeeded : succeededIn (labels ++ [label]) = succeededIn labels := by
    simp [succeededIn, running]
  have cut : cutIn (labels ++ [label]) = cutIn labels := by simp [cutIn, uncut]
  constructor
  · rw [items, accepted, queued.accepted]
  · rw [pending, accepted, succeeded, cut, queued.pending]
  · rw [succeeded]
    exact queued.once
  · rw [succeeded, cut, accepted]
    exact queued.bounded
  · rw [pending]
    exact placed
  · rw [accepted]
    exact signalled
  · rw [succeeded, accepted]
    intro ref ended event found
    rw [concerningIn, ignoredIn, filterMap_snoc, filterMap_snoc]
    exact (queued.told ref ended event found).imp (List.mem_append_left _) (List.mem_append_left _)

/-- An event is accepted behind all that are pending. -/
theorem Queued.accept (queued : Queued labels before)
    (event : ReactionEvent) (accepts : label.2.accepted = some event) (running : label.2.succeeded = none)
    (unfound : label.2.concerning = none) (uncut : label.2.cut = []) : Queued (labels ++ [label]) { before with
      items := before.items ++ [.fresh event], pending := before.pending ++ [before.items.length] } := by
  have accepted : acceptedIn (labels ++ [label]) = acceptedIn labels ++ [event] := by
    simp [acceptedIn, accepts]
  have succeeded : succeededIn (labels ++ [label]) = succeededIn labels := by
    simp [succeededIn, running]
  have concerning : concerningIn (labels ++ [label]) = concerningIn labels := by
    simp [concerningIn, unfound]
  have cut : cutIn (labels ++ [label]) = cutIn labels := by simp [cutIn, uncut]
  have older : ∀ {ref}, ref < (acceptedIn labels).length →
      (acceptedIn labels ++ [event])[ref]? = (acceptedIn labels)[ref]? :=
    fun bound => List.getElem?_append_left bound
  constructor
  · rw [accepted, List.map_append, queued.accepted]
    rfl
  · rw [accepted, succeeded, cut, List.length_append, List.length_singleton, List.range_succ, List.filter_append,
      queued.pending, queued.length]
    have new : (acceptedIn labels).length ∉ succeededIn labels ++ cutIn labels := by
      intro among
      exact Nat.lt_irrefl _ (queued.bounded _ among)
    have waits : ((acceptedIn labels).length ∉ succeededIn labels ∧ (acceptedIn labels).length ∉ cutIn labels) := by
      simpa using new
    rw [List.filter_singleton, decide_eq_true waits, cond_true]
  · rw [succeeded]
    exact queued.once
  · rw [succeeded, cut, accepted, List.length_append]
    exact fun ref among => Nat.lt_add_right 1 (queued.bounded ref among)
  · intro index ref about
    have placed := queued.placed index ref about
    obtain ⟨bound, _⟩ := List.getElem?_eq_some_iff.mp placed
    rw [List.getElem?_append_left bound, placed]
  · rw [accepted, concerning]
    intro index ref item signalling found
    have bound : ref < (acceptedIn labels).length := by
      have listed := List.mem_of_getElem? (queued.placed index ref (.inr signalling))
      rw [queued.pending, List.mem_filter, List.mem_range] at listed
      exact listed.1
    rw [older bound] at found
    exact queued.signalled index ref item signalling found
  · rw [succeeded, accepted, concerning]
    intro ref ended item found
    rw [older (queued.bounded ref (List.mem_append_left _ ended))] at found
    rw [ignoredIn, filterMap_snoc]
    exact (queued.told ref ended item found).imp_right (List.mem_append_left _)

/-- The event that the loop is about succeeds, and is removed. -/
theorem Queued.settle {index ref : Nat} (queued : Queued labels before)
    (about : About index ref before.draining) (unaccepted : label.2.accepted = none)
    (succeeds : label.2.succeeded = some ref) (uncut : label.2.cut = [])
    (told : ∀ event, (acceptedIn labels)[ref]? = some event →
      event ∈ concerningIn (labels ++ [label]) ∨ event ∈ ignoredIn (labels ++ [label])) :
    Queued (labels ++ [label]) (before.settle index ref) := by
  have accepted : acceptedIn (labels ++ [label]) = acceptedIn labels := by
    simp [acceptedIn, unaccepted]
  have succeeded : succeededIn (labels ++ [label]) = succeededIn labels ++ [ref] := by
    simp [succeededIn, succeeds]
  have cut : cutIn (labels ++ [label]) = cutIn labels := by simp [cutIn, uncut]
  have placed := queued.placed index ref about
  have listed : ref ∈ before.pending := List.mem_of_getElem? placed
  have waits := listed
  rw [queued.pending, List.mem_filter, List.mem_range, decide_eq_true_eq] at waits
  constructor
  · rw [accepted]
    exact queued.accepted
  · have removed : (before.settle index ref).pending = before.pending.filter (· ≠ ref) :=
      eraseIdx_eq_filter queued.nodup placed
    rw [removed, accepted, succeeded, cut, queued.pending, List.filter_filter]
    refine List.filter_congr fun other _ => ?_
    rw [Bool.eq_iff_iff]
    simp only [List.mem_append, List.mem_singleton, Bool.and_eq_true, decide_eq_true_eq]
    tauto
  · rw [succeeded]
    refine queued.once.append (List.nodup_singleton ref) ?_
    rintro _ earlier here
    rw [List.mem_singleton.mp here] at earlier
    exact waits.2.1 earlier
  · rw [succeeded, cut, accepted]
    intro other among
    rcases List.mem_append.mp among with ended | gone
    · rcases List.mem_append.mp ended with earlier | here
      · exact queued.bounded other (List.mem_append_left _ earlier)
      · rw [List.mem_singleton.mp here]
        exact waits.1
    · exact queued.bounded other (List.mem_append_right _ gone)
  · intro place other about
    simp [Reactions.settle, About] at about
  · intro place other event signalling
    simp [Reactions.settle] at signalling
  · rw [succeeded, accepted]
    intro other ended event found
    rcases List.mem_append.mp ended with earlier | here
    · rw [concerningIn, ignoredIn, filterMap_snoc, filterMap_snoc]
      exact (queued.told other earlier event found).imp (List.mem_append_left _) (List.mem_append_left _)
    · rw [List.mem_singleton.mp here] at found
      exact told event found

theorem save_pending (world : Reactions) : world.save.2.pending = world.pending.drop (world.pending.length - 500) := by
  rw [Reactions.save]

theorem save_items (world : Reactions) : world.save.2.items = world.items := by
  rw [Reactions.save]

theorem save_draining (world : Reactions) : world.save.2.draining = world.draining := by
  rw [Reactions.save]

/-- A save cuts off the first events that are pending. -/
theorem Queued.save (queued : Queued labels before) (shown : label.2 = before.save.1)
    (unshifted : ∀ index ref, About index ref before.draining → before.pending.length ≤ 500) :
    Queued (labels ++ [label]) before.save.2 := by
  have accepted : acceptedIn (labels ++ [label]) = acceptedIn labels := by
    simp [acceptedIn, shown, Reactions.save, ReactionReply.silent]
  have succeeded : succeededIn (labels ++ [label]) = succeededIn labels := by
    simp [succeededIn, shown, Reactions.save, ReactionReply.silent]
  have concerning : concerningIn (labels ++ [label]) = concerningIn labels := by
    simp [concerningIn, shown, Reactions.save, ReactionReply.silent]
  have ignored : ignoredIn (labels ++ [label]) = ignoredIn labels := by
    simp [ignoredIn, shown, Reactions.save, ReactionReply.silent]
  have cut : cutIn (labels ++ [label]) = cutIn labels ++ before.pending.take (before.pending.length - 500) := by
    simp [cutIn, shown, Reactions.save]
  constructor
  · rw [save_items, accepted]
    exact queued.accepted
  · rw [save_pending, drop_eq_filter queued.nodup, accepted, succeeded, cut]
    generalize before.pending.take (before.pending.length - 500) = gone
    rw [queued.pending, List.filter_filter]
    refine List.filter_congr fun other _ => ?_
    rw [Bool.eq_iff_iff]
    simp only [List.mem_append, Bool.and_eq_true, decide_eq_true_eq]
    tauto
  · rw [succeeded]
    exact queued.once
  · rw [succeeded, cut, accepted]
    intro ref among
    rcases List.mem_append.mp among with ended | gone
    · exact queued.bounded ref (List.mem_append_left _ ended)
    · rcases List.mem_append.mp gone with earlier | now
      · exact queued.bounded ref (List.mem_append_right _ earlier)
      · have listed := List.mem_of_mem_take now
        rw [queued.pending, List.mem_filter, List.mem_range] at listed
        exact listed.1
  · rw [save_draining]
    intro index ref about
    have few := unshifted index ref about
    rw [save_pending, Nat.sub_eq_zero_of_le few, List.drop_zero]
    exact queued.placed index ref about
  · rw [save_draining, accepted, concerning]
    exact queued.signalled
  · rw [succeeded, accepted, concerning, ignored]
    exact queued.told

theorem Queued.step (queued : Queued labels before)
    (step : (machine options).system.Step before label after) (unshifted : before.Unshifted label) :
    Queued (labels ++ [label]) after := by
  obtain ⟨call, reply⟩ := label
  have effect : Effect call before reply after := perform_effect step
  cases effect with
  | accepts event => exact queued.accept event rfl rfl rfl rfl
  | saves saving =>
    subst saving
    refine queued.save rfl fun index ref about => ?_
    rcases about with looking | signalling
    · simpa [Unshifted, looking] using unshifted
    · simpa [Unshifted, signalling] using unshifted
  | moves items draining same looks =>
    refine queued.quiet same rfl rfl rfl rfl ?_ ?_
    · intro index ref about
      rcases looks with stays | goes
      · rw [stays] at about
        exact queued.placed index ref about
      · exact (goes index ref about).2
    · intro index ref event signalling found
      rw [concerningIn, filterMap_snoc]
      rcases looks with stays | goes
      · rw [stays] at signalling
        exact List.mem_append_left _ (queued.signalled index ref event signalling found)
      · have other := signalling.symm.trans (goes index ref (.inr signalling)).1
        cases other
  | @concerns index ref item ownerSignal signal looking found =>
    have kept : (before.setState item.event).items = before.items ∧
        (before.setState item.event).pending = before.pending := by
      unfold setState
      split <;> exact ⟨rfl, rfl⟩
    refine queued.quiet (by rw [kept.1]) kept.2 rfl rfl rfl ?_ ?_
    · intro place other about
      have same : index = place ∧ ref = other := by simpa [About] using about
      obtain ⟨rfl, rfl⟩ := same
      exact queued.placed index ref (.inl looking)
    · intro place other event signalling here
      cases signalling
      rw [queued.event_of found] at here
      cases here
      rw [concerningIn, filterMap_snoc]
      exact List.mem_append_right _ (by simp)
  | ignores looking found =>
    refine queued.settle (.inl looking) rfl rfl rfl fun event here => .inr ?_
    rw [queued.event_of found] at here
    cases here
    rw [ignoredIn, filterMap_snoc]
    exact List.mem_append_right _ (by simp)
  | @succeeds index ref signalling =>
    refine queued.settle (.inr signalling) rfl rfl rfl fun event here => .inl ?_
    rw [concerningIn, filterMap_snoc]
    exact List.mem_append_left _ (queued.signalled index ref event signalling here)

/-! ## The states -/

/-- The keys that a state is kept of. -/
def keys (world : Reactions) : List String := world.states.map Prod.fst

theorem mem_keys_setState {event : ReactionEvent} {key : String} : key ∈ (world.setState event).keys ↔
      if event.stateKey = key then event.operation = .created else key ∈ world.keys := by
  unfold setState
  split
  · rename_i deleted
    rw [deleted]
    simp only [keys, List.mem_map, List.mem_filter, decide_eq_true_eq]
    split
    · rename_i same
      subst same
      simp
    · rename_i other
      constructor
      · rintro ⟨entry, ⟨listed, _⟩, rfl⟩
        exact ⟨entry, listed, rfl⟩
      · rintro ⟨entry, listed, rfl⟩
        exact ⟨entry, ⟨listed, Ne.symm other⟩, rfl⟩
  · rename_i created
    rw [created, keys, mem_names_assign]
    split
    · rename_i same
      simp [same]
    · rename_i other
      simp [keys, Ne.symm other]

/-- A save forgets the keys that it shows, and no other. -/
theorem mem_keys_save {key : String} (kept : key ∉ world.save.1.forgotten) :
    key ∈ world.save.2.keys ↔ key ∈ world.keys := by
  have split : key ∈ world.keys ↔ key ∈ ((latestStates world.states).take 2000).map Prod.fst ∨
      key ∈ ((latestStates world.states).drop 2000).map Prod.fst := by
    rw [← List.mem_append, ← List.map_append, List.take_append_drop]
    exact ((List.perm_insertionSort _ world.states).map Prod.fst).mem_iff.symm
  have unforgotten : key ∉ ((latestStates world.states).drop 2000).map Prod.fst := kept
  rw [split, or_iff_left unforgotten]
  exact Iff.rfl

/-- A state is kept of the keys whose latest event is a creation. -/
def Tracked (labels : ReactionTrace) (world : Reactions) : Prop :=
  InOrder (concerningIn labels) → ∀ key, key ∉ forgottenIn labels →
    (key ∈ world.keys ↔ LatestCreated (concerningIn labels) key)

theorem Tracked.quiet (tracked : Tracked labels before) (unfound : label.2.concerning = none)
    (kept : ∀ key, key ∉ label.2.forgotten → (key ∈ after.keys ↔ key ∈ before.keys)) :
    Tracked (labels ++ [label]) after := by
  have concerning : concerningIn (labels ++ [label]) = concerningIn labels := by
    simp [concerningIn, unfound]
  intro ordered key unforgotten
  rw [concerning] at ordered ⊢
  rw [forgottenIn, List.flatMap_append, List.mem_append, not_or] at unforgotten
  rw [kept key (by simpa using unforgotten.2)]
  exact tracked ordered key unforgotten.1

theorem Tracked.step (tracked : Tracked labels before)
    (step : (machine options).system.Step before label after) : Tracked (labels ++ [label]) after := by
  obtain ⟨call, reply⟩ := label
  have effect : Effect call before reply after := perform_effect step
  cases effect with
  | accepts | moves | ignores | succeeds => exact tracked.quiet rfl fun _ _ => Iff.rfl
  | saves => exact tracked.quiet rfl fun _ => mem_keys_save
  | @concerns index ref item ownerSignal signal looking found =>
    intro ordered key unforgotten
    have concerning : concerningIn (labels ++ [(call, { ReactionReply.silent with
        concerning := some item.event, ownerSignal := ownerSignal, signal := signal })]) =
        concerningIn labels ++ [item.event] := by
      simp [concerningIn]
    rw [concerning] at ordered ⊢
    have changed : key ∈ (before.setState item.event).keys ↔ _ := mem_keys_setState
    refine changed.trans ?_
    split
    · rename_i same
      subst same
      exact (latestCreated_own ordered).symm
    · rename_i other
      rw [latestCreated_other other]
      refine tracked (List.pairwise_append.mp ordered).1 key ?_
      rw [forgottenIn, List.flatMap_append, List.mem_append, not_or] at unforgotten
      exact unforgotten.1

/-! ## Runs -/

/-- A run in which no save cuts a pending event off while one is processed. -/
abbrev UnshiftedRun (options : ReactionOptions) (labels : ReactionTrace) (world : Reactions) : Prop :=
  ((machine options).system.restricted Unshifted).Run labels world

theorem run_queued (run : UnshiftedRun options labels world) : Queued labels world := by
  refine run.history (motive := fun labels world => Queued labels world) ?_ ?_
  · rintro _ rfl
    exact ⟨rfl, rfl, List.nodup_nil, nofun, nofun, nofun, nofun⟩
  · rintro labels label before after _ queued ⟨step, unshifted⟩
    exact queued.step step unshifted

theorem run_tracked (run : (machine options).system.Run labels world) : Tracked labels world := by
  refine run.history (motive := fun labels world => Tracked labels world) ?_ ?_
  · rintro _ rfl
    intro _ key _
    constructor
    · exact fun listed => nomatch listed
    · rintro ⟨_, listed, _⟩
      exact nomatch listed
  · rintro labels label before after _ tracked step
    exact tracked.step step

/-- Events that were accepted are pending in their order until their own processing has succeeded
or a save cuts them off, and they succeed once. When nothing is pending, every event that was not
cut off was found to concern the owner or not to. If those that concern him took effect in order, a
state is kept of exactly the keys whose latest one is a creation, save for what saves forget. -/
theorem reactions_processed (run : UnshiftedRun options labels world) :
    world.pending = ((List.range (acceptedIn labels).length).filter fun ref =>
      ref ∉ succeededIn labels ∧ ref ∉ cutIn labels) ∧ (succeededIn labels).Nodup ∧ (world.pending = [] →
      (∀ ref event, (acceptedIn labels)[ref]? = some event →
        event ∈ concerningIn labels ∨ event ∈ ignoredIn labels ∨ ref ∈ cutIn labels) ∧
      (InOrder (concerningIn labels) → ∀ key, key ∉ forgottenIn labels →
        (key ∈ world.keys ↔ LatestCreated (concerningIn labels) key))) := by
  have queued := run_queued run
  refine ⟨queued.pending, queued.once, fun empty => ⟨?_, run_tracked run.unrestricted⟩⟩
  intro ref event found
  obtain ⟨bound, _⟩ := List.getElem?_eq_some_iff.mp found
  have gone : ref ∉ world.pending := by simp [empty]
  rw [queued.pending, List.mem_filter, List.mem_range, decide_eq_true_eq, not_and, not_and_or, not_not, not_not] at gone
  rcases gone bound with ended | cut
  · rcases queued.told ref ended event found with concerns | ignored
    · exact .inl concerns
    · exact .inr (.inl ignored)
  · exact .inr (.inr cut)

/-- The owner's monitor. -/
def ownersMonitor : ReactionOptions := ⟨fun _ => none, "ou_me", none, true, 120000⟩

/-- A reaction to a message, at a time in milliseconds. -/
def reaction (eventId openId : String) (at_ : Int) : ReactionPayload :=
  ⟨some eventId, none, some "om_1", some openId, none, some "OK", some (.number at_)⟩

/-- A message of a colleague in a group. -/
def colleagueMessage : ReactionTarget := ⟨some "oc_1", none, none, some "ou_2", some "Confirm?", none, none, none⟩

def foundAt (now : Timestamp) : ReactionCall := .lookedUp (.ok (some colleagueMessage)) ⟨["oc_1"], []⟩ now

/-- The owner reacts and takes it back. Both events are processed in order. -/
def reactedAndTakenBack : List ReactionCall :=
  [.ingest (reaction "e1" "ou_me" 20000000000) .created 0, .save, .process 0, foundAt 0,
    .ingest (reaction "e2" "ou_me" 20000000001) .deleted 0, .save, .signalled (.ok ()) 0, .save,
    .saved (.ok ()) 0, foundAt 0, .signalled (.ok ()) 0, .save, .saved (.ok ()) 0]

theorem reactedAndTakenBack_processed : ∃ labels world,
    UnshiftedRun ownersMonitor labels world ∧ world.pending = [] ∧ succeededIn labels = [0, 1] ∧ "om_1:ou_me:OK" ∉ world.keys ∧
    ¬ LatestCreated (concerningIn labels) "om_1:ou_me:OK" := by
  have run : UnshiftedRun ownersMonitor ((machine ownersMonitor).replay reactedAndTakenBack empty).1
      ((machine ownersMonitor).replay reactedAndTakenBack empty).2 :=
    (machine ownersMonitor).replay_restricted (by decide)
  obtain ⟨_, _, processed⟩ := reactions_processed run
  have done : ((machine ownersMonitor).replay reactedAndTakenBack empty).2.pending = [] := by decide
  have tracked := (processed done).2 (by decide) "om_1:ou_me:OK" (by decide)
  have gone : "om_1:ou_me:OK" ∉ ((machine ownersMonitor).replay reactedAndTakenBack empty).2.keys := by
    decide
  exact ⟨_, _, run, done, by decide, gone, fun created => gone (tracked.mpr created)⟩

theorem given_some {text : String} (filled : text ≠ "") : given (some text) = some text := by
  simp [given, filled]

/-- Any number of events may be accepted before the first is processed. -/
theorem crowded (count : Nat) : ∃ labels world, (machine ownersMonitor).system.Run labels world ∧
    world.pending = List.range count ∧ world.items.length = count ∧
    (∀ item ∈ world.items, item.nextAttemptAt = none ∧ item.event.operatorId = "ou_3" ∧
      item.event.eventId.length ≤ count) ∧
    world.processedEventIds = [] ∧ world.draining = none ∧ (acceptedIn labels).length = count ∧
    succeededIn labels = [] ∧ cutIn labels = [] := by
  induction count with
  | zero => exact ⟨[], empty, .initial rfl, rfl, rfl, nofun, rfl, rfl, rfl, rfl, rfl⟩
  | succ count ih =>
    obtain ⟨labels, world, run, pending, length, short, processed, idle, accepted, succeeded, cut⟩ := ih
    let eventId := String.ofList (List.replicate (count + 1) 'e')
    have length_id : eventId.length = count + 1 := by simp [eventId]
    have nonempty : eventId ≠ "" := by
      intro blank
      rw [blank] at length_id
      cases length_id
    let event : ReactionEvent := ⟨eventId, .created, "om_1", "ou_3", "user", "OK", 20000000000⟩
    have made : (reaction eventId "ou_3" 20000000000).event ownersMonitor .created 0 = some event := by
      simp [ReactionPayload.event, reaction, given_some, nonempty, timeOr, normalizeEventTime, epochDate, dateOf,
        textOr, event]
    have unknown : world.known eventId = false := by
      rw [known, processed, Bool.or_eq_false_iff]
      refine ⟨by simp, ?_⟩
      rw [List.any_eq_false]
      intro ref _ same
      rw [decide_eq_true_eq, Reactions.eventId, Option.map_eq_some_iff] at same
      obtain ⟨item, found, same⟩ := same
      have bound := (short item (List.mem_of_getElem? found)).2.2
      rw [same, length_id] at bound
      omega
    let call : ReactionCall := .ingest (reaction eventId "ou_3" 20000000000) .created 0
    have step : (machine ownersMonitor).system.Step world
        (call, { ReactionReply.silent with accepted := some event })
        { world with
          items := world.items ++ [.fresh event], pending := world.pending ++ [world.items.length] } := by
      change perform ownersMonitor call world = _
      simp only [call, perform, ingestReaction, made]
      rw [if_neg (by simp [event, unknown])]
    refine ⟨_, _, run.step step, ?_, ?_, ?_, processed, idle, ?_, ?_, ?_⟩
    · rw [List.range_succ, ← pending, ← length]
    · rw [List.length_append, length, List.length_singleton]
    · intro item listed
      rcases List.mem_append.mp listed with older | new
      · obtain ⟨waits, operator, bound⟩ := short item older
        exact ⟨waits, operator, Nat.le_succ_of_le bound⟩
      · rw [List.mem_singleton.mp new]
        exact ⟨rfl, rfl, Nat.le_of_eq length_id⟩
    · rw [acceptedIn, filterMap_snoc, List.length_append, ← acceptedIn, accepted]
      rfl
    · rw [succeededIn, filterMap_snoc, ← succeededIn, succeeded]
      rfl
    · rw [cutIn, List.flatMap_append, ← cutIn, cut]
      rfl

/-- A save that cuts the first of the pending events off while it is processed. The next one is
removed in its place. -/
theorem save_shifts : ∃ labels world ref, (machine ownersMonitor).system.Run labels world ∧
    ref < (acceptedIn labels).length ∧ ref ∉ world.pending ∧ ref ∉ succeededIn labels ∧ ref ∉ cutIn labels := by
  obtain ⟨labels, world, run, pending, length, fresh, _, idle, accepted, succeeded, cut⟩ := crowded 501
  have front : world.pending = 0 :: 1 :: List.range' 2 499 := by rw [pending, List.range_eq_range']; rfl
  obtain ⟨item, found⟩ : ∃ item, world.items[0]? = some item := ⟨world.items[0], List.getElem?_eq_getElem (by omega)⟩
  obtain ⟨waits, operator, _⟩ := fresh item (List.mem_of_getElem? found)
  let looking : Reactions := { world with draining := some (.looking 0 0) }
  have process : (machine ownersMonitor).system.Step world (.process 0, .silent) looking := by
    change perform ownersMonitor (.process 0) world = _
    have due : seek (PendingReaction.due 0) world.items 0 world.pending = some (0, 0) := by
      rw [front, seek, found, Option.any_some, PendingReaction.due, waits, Option.all_none, if_pos rfl]
    simp [perform, processReactionQueue, idle, goOn, due, looking]
  have save : (machine ownersMonitor).system.Step looking (.save, looking.save.1) looking.save.2 := rfl
  have lookup : (machine ownersMonitor).system.Step looking.save.2
      (foundAt 0, { ReactionReply.silent with ignored := some item.event, succeeded := some 0 })
      (looking.save.2.settle 0 0) := by
    change perform ownersMonitor (foundAt 0) looking.save.2 = _
    have here : looking.save.2.items[0]? = some item := by rw [save_items, found]
    have other : item.event.relevant ownersMonitor colleagueMessage = false := by
      rw [ReactionEvent.relevant, ReactionEvent.ownerOperated, operator]
      rfl
    have chat : given colleagueMessage.chatId = some "oc_1" := rfl
    have asked : looking.save.2.draining = some (.looking 0 0) := save_draining looking
    simp only [perform, foundAt, asked, onLookedUp, here, chat]
    rw [other, if_neg Bool.false_ne_true]
  have excess : looking.pending.length - 500 = 1 := by simp [looking, pending]
  have shifted : looking.save.2.pending = 1 :: List.range' 2 499 := by
    rw [save_pending, excess]
    simp only [looking, front, List.drop_succ_cons, List.drop_zero]
  have dropped : looking.save.1.cut = [0] := by
    simp only [Reactions.save, excess]
    simp only [looking, front, List.take_succ_cons, List.take_zero]
  have left : (looking.save.2.settle 0 0).pending = List.range' 2 499 := by
    simp only [settle, shifted, List.eraseIdx_cons_zero]
  refine ⟨_, _, 1, ((run.step process).step save).step lookup, ?_, ?_, ?_, ?_⟩
  · rw [acceptedIn, filterMap_snoc, filterMap_snoc, filterMap_snoc, List.length_append, List.length_append,
      List.length_append, ← acceptedIn, accepted]
    omega
  · rw [left]
    simp
  · rw [succeededIn, filterMap_snoc, filterMap_snoc, filterMap_snoc, ← succeededIn, succeeded]
    simp [Reactions.save, ReactionReply.silent]
  · rw [cutIn, List.flatMap_append, List.flatMap_append, List.flatMap_append, ← cutIn, cut]
    simp [dropped, ReactionReply.silent]

/-- No state is kept of a reaction that does not concern the owner. A creation that is tried
again after a later deletion leaves its state, and an event is removed in the place of one that
was cut off. -/
theorem state_differs : (∃ labels world, (machine ownersMonitor).system.Run labels world ∧ world.pending = [] ∧
      LatestCreated (acceptedIn labels) "om_1:ou_3:OK" ∧ "om_1:ou_3:OK" ∉ world.keys) ∧
    (∃ labels world, (machine ownersMonitor).system.Run labels world ∧ world.pending = [] ∧
      ¬ LatestCreated (acceptedIn labels) "om_1:ou_me:OK" ∧ "om_1:ou_me:OK" ∈ world.keys) ∧
    ∃ labels world ref, (machine ownersMonitor).system.Run labels world ∧ ref < (acceptedIn labels).length ∧
      ref ∉ world.pending ∧ ref ∉ succeededIn labels ∧ ref ∉ cutIn labels := by
  refine ⟨?_, ?_, save_shifts⟩
  · refine ⟨_, _, (machine ownersMonitor).replay_run
      [.ingest (reaction "e1" "ou_3" 20000000000) .created 0, .save, .process 0, foundAt 0, .save,
        .saved (.ok ()) 0], ?_⟩
    unfold LatestCreated
    decide
  · refine ⟨_, _, (machine ownersMonitor).replay_run
      [.ingest (reaction "e1" "ou_me" 20000000000) .created 0, .save, .process 0,
        .lookedUp (.error "timeout") ⟨[], []⟩ 0, .save, .saved (.ok ()) 0,
        .ingest (reaction "e2" "ou_me" 20000000001) .deleted 0, .save, .process 0, foundAt 0,
        .signalled (.ok ()) 0, .save, .saved (.ok ()) 0, .process 120000, foundAt 120000,
        .signalled (.ok ()) 120000, .save, .saved (.ok ()) 120000], ?_⟩
    unfold LatestCreated
    decide

end Reactions

end QuarkSelfAI.BridgeCompat

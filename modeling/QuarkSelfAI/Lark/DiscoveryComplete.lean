import QuarkSelfAI.Lark.FocusDiscovery

/-!
# What a discovery journals

The records that the sources return for one message are merged: the first one is kept, with the reasons of them all.
A message is journaled exactly if the record that came first carries the chat.
-/

namespace QuarkSelfAI.Lark

open Foundation Storage Workflow Intake

/-! ## Candidates -/

theorem mem_addTo {reasons : List String} {reason other : String} :
    other ∈ addTo reasons reason ↔ other ∈ reasons ∨ other = reason := by
  rw [addTo]
  split
  · rename_i listed
    exact ⟨.inl, fun either => either.elim id fun same => same ▸ listed⟩
  · simp

theorem mem_foldl_addTo {reasons more : List String} {other : String} :
    other ∈ more.foldl addTo reasons ↔ other ∈ reasons ∨ other ∈ more := by
  induction more generalizing reasons with
  | nil => simp
  | cons reason more ih => rw [List.foldl_cons, ih, mem_addTo, List.mem_cons, or_assoc]

/-- What one more found record makes of the candidate with an id. -/
def joinFound (id : String) (known : Option Candidate) (found : JsValue × List String) : Option Candidate :=
  if idOf found.1 = some id then
    match known with
    | none => some { id, message := found.1, reasons := found.2.foldl addTo [] }
    | some candidate => some { candidate with reasons := found.2.foldl addTo candidate.reasons }
  else known

def merged (found : List (JsValue × List String)) (target : List Candidate) : List Candidate :=
  found.foldl (fun target found => mergeCandidate target found.1 found.2) target

/-- What one more record makes of the candidates that are known. -/
theorem updated_filter (target : List Candidate) (id other : String) (reasons : List String) :
    (target.map fun known : Candidate => if known.id = other then { known with reasons := reasons.foldl addTo known.reasons }
        else known).filter (·.id = id) =
      (target.filter (·.id = id)).map fun known : Candidate =>
        if known.id = other then { known with reasons := reasons.foldl addTo known.reasons } else known := by
  rw [List.filter_map]
  congr 2
  funext known
  rw [Function.comp_apply]
  split <;> rfl

variable {target : List Candidate}

/-- There is at most one candidate with an id. -/
theorem mergeCandidate_filter {id : String} {known : Option Candidate}
    (only : target.filter (·.id = id) = known.toList) (found : JsValue × List String) :
    (mergeCandidate target found.1 found.2).filter (·.id = id) = (joinFound id known found).toList := by
  have own : ∀ candidate ∈ known, candidate ∈ target ∧ candidate.id = id := by
    intro candidate some
    have member : candidate ∈ target.filter (·.id = id) := by
      rw [only, Option.mem_def.mp some]
      exact List.mem_singleton_self candidate
    simpa using List.mem_filter.mp member
  rw [mergeCandidate, joinFound.eq_def]
  cases named : idOf found.1 with
  | none => simpa using only
  | some other =>
    dsimp only
    by_cases same : other = id
    · subst same
      rw [if_pos rfl]
      cases known with
      | none =>
        have fresh : (target.any fun candidate => candidate.id = other) = false := by
          simpa using only
        rw [fresh]
        simpa using only
      | some candidate =>
        obtain ⟨listed, named⟩ := own candidate rfl
        rw [if_pos (List.any_eq_true.mpr ⟨candidate, listed, decide_eq_true named⟩), updated_filter, only]
        simp [named]
    · rw [if_neg fun equal => same (Option.some.inj equal)]
      split
      · rw [updated_filter, only]
        cases known with
        | none => rfl
        | some candidate =>
          have beside : candidate.id ≠ other := by
            rw [(own candidate rfl).2]
            exact Ne.symm same
          simp [beside]
      · rw [List.filter_append, only]
        simp [same]

theorem merged_filter (found : List (JsValue × List String)) {id : String}
    {known : Option Candidate} (only : target.filter (·.id = id) = known.toList) :
    (merged found target).filter (·.id = id) = (found.foldl (joinFound id) known).toList := by
  induction found generalizing target known with
  | nil => exact only
  | cons first found ih => exact ih (mergeCandidate_filter only first)

/-- The record is about the message. -/
def About (id : String) (found : JsValue × List String) : Bool := idOf found.1 = some id

theorem foldl_joinFound_some (found : List (JsValue × List String)) (id : String) (candidate : Candidate) :
    ∃ reasons, found.foldl (joinFound id) (some candidate) = some { candidate with reasons } ∧
      ∀ reason, reason ∈ reasons ↔ reason ∈ candidate.reasons ∨
        ∃ record ∈ found, About id record = true ∧ reason ∈ record.2 := by
  induction found generalizing candidate with
  | nil => exact ⟨candidate.reasons, rfl, by simp⟩
  | cons first found ih =>
    rw [List.foldl_cons, joinFound]
    by_cases about : idOf first.1 = some id
    · rw [if_pos about]
      obtain ⟨reasons, joined, listed⟩ := ih { candidate with reasons := first.2.foldl addTo candidate.reasons }
      refine ⟨reasons, joined, fun reason => ?_⟩
      rw [listed, mem_foldl_addTo]
      simp [About, about, or_assoc]
    · rw [if_neg about]
      obtain ⟨reasons, joined, listed⟩ := ih candidate
      refine ⟨reasons, joined, fun reason => ?_⟩
      rw [listed]
      simp [About, about]

/-- The candidate of a message has its first record and the reasons of them all. -/
theorem foldl_joinFound (found : List (JsValue × List String)) (id : String) :
    (found.foldl (joinFound id) none = none ∧ found.find? (About id) = none) ∨
      ∃ record reasons, found.find? (About id) = some record ∧
        found.foldl (joinFound id) none = some ⟨id, record.1, reasons⟩ ∧
        ∀ reason, reason ∈ reasons ↔ ∃ record ∈ found, About id record = true ∧ reason ∈ record.2 := by
  induction found with
  | nil => exact .inl ⟨rfl, rfl⟩
  | cons first found ih =>
    rw [List.foldl_cons, joinFound, List.find?_cons]
    by_cases about : idOf first.1 = some id
    · rw [if_pos about]
      obtain ⟨reasons, joined, listed⟩ := foldl_joinFound_some found id ⟨id, first.1, first.2.foldl addTo []⟩
      refine .inr ⟨first, reasons, by simp [About, about], joined, fun reason => ?_⟩
      rw [listed, mem_foldl_addTo]
      simp [About, about]
    · rw [if_neg about]
      simpa [About, about] using ih

/-! ## Events -/

variable {host : LarkHost}

/-- The reasons that an event carries. -/
def discoveryReasons (event : ChannelEvent) : JsValue := (event.raw.get "discovery").get "reasons"

/-- A candidate is journaled exactly if its record has a chat and it has a reason. -/
theorem eventOf_some {candidate : Candidate} (named : idOf candidate.message = some candidate.id) :
    (∃ event, host.eventOf candidate = some event) ↔ (chatOf candidate.message).isSome ∧ candidate.reasons ≠ [] := by
  have sorted : candidate.sorted = [] ↔ candidate.reasons = [] := by
    rw [Candidate.sorted, ← List.length_eq_zero_iff, List.length_insertionSort, List.length_eq_zero_iff]
  rw [LarkHost.eventOf, LarkHost.normalizeDiscoveredMessage, named]
  cases chatOf candidate.message with
  | none => simp
  | some chatId => simp [sorted]

theorem eventOf_key {candidate : Candidate} {event : ChannelEvent}
    (named : idOf candidate.message = some candidate.id) (journaled : host.eventOf candidate = some event) :
    event.deduplicationKey = candidate.id ∧ discoveryReasons event = .array (candidate.sorted.map .string) := by
  rw [LarkHost.eventOf, LarkHost.normalizeDiscoveredMessage, named] at journaled
  cases found : chatOf candidate.message with
  | none => simp [found] at journaled
  | some chatId =>
    simp only [found] at journaled
    split at journaled
    · cases journaled
    · cases journaled
      exact ⟨rfl, rfl⟩

/-- The events that the loop passes to `appendEvent`. -/
def LarkHost.passed (host : LarkHost) (clock : Timestamp) : List Candidate → EventStore JsValue Timestamp →
    List ChannelEvent
  | [], _ => []
  | candidate :: rest, store =>
    match host.eventOf candidate with
    | none => host.passed clock rest store
    | some event =>
      event :: match host.appendEvent event clock store with
        | (.error _, _) => []
        | (.ok _, store) => host.passed clock rest store

/-- A loop that comes to its end has passed on every event. -/
theorem passed_of_journal {clock : Timestamp} {candidates : List Candidate} {counts total : DiscoveryCounts}
    {store after : EventStore JsValue Timestamp}
    (ended : host.journal clock candidates counts store = (.ok total, after)) :
    host.passed clock candidates store = candidates.filterMap host.eventOf := by
  induction candidates generalizing counts store with
  | nil => rfl
  | cons candidate rest ih =>
    rw [LarkHost.journal] at ended
    rw [LarkHost.passed, List.filterMap_cons]
    cases journaled : host.eventOf candidate with
    | none =>
      rw [journaled] at ended
      exact ih ended
    | some event =>
      simp only [journaled] at ended
      dsimp only
      rcases appended : host.appendEvent event clock store with ⟨_ | _, next⟩
      · rw [appended] at ended
        cases ended
      · rw [appended] at ended
        exact congrArg _ (ih ended)

theorem merged_named {found : List (JsValue × List String)}
    (named : ∀ candidate ∈ target, idOf candidate.message = some candidate.id) :
    ∀ candidate ∈ merged found target, idOf candidate.message = some candidate.id := by
  induction found generalizing target with
  | nil => exact named
  | cons first found ih =>
    refine ih fun candidate listed => ?_
    change candidate ∈ mergeCandidate target first.1 first.2 at listed
    rw [mergeCandidate] at listed
    cases about : idOf first.1 with
    | none =>
      rw [about] at listed
      exact named candidate listed
    | some id =>
      simp only [about] at listed
      split at listed
      · obtain ⟨known, before, rfl⟩ := List.mem_map.mp listed
        split
        all_goals exact named known before
      · rcases List.mem_append.mp listed with before | new
        · exact named candidate before
        · rw [List.mem_singleton.mp new]
          exact about

/-- The events with a key come from the candidates with that id. -/
theorem filterMap_key {candidates : List Candidate} (id : String)
    (named : ∀ candidate ∈ candidates, idOf candidate.message = some candidate.id) :
    (candidates.filterMap host.eventOf).filter (·.deduplicationKey = id) =
      (candidates.filter (·.id = id)).filterMap host.eventOf := by
  induction candidates with
  | nil => rfl
  | cons candidate rest ih =>
    obtain ⟨own, later⟩ := List.forall_mem_cons.mp named
    rw [List.filterMap_cons, List.filter_cons]
    cases journaled : host.eventOf candidate with
    | none =>
      rw [ih later]
      split <;> simp [journaled]
    | some event =>
      have key := (eventOf_key own journaled).1
      rw [List.filter_cons, key, ih later]
      split <;> simp [journaled]

/-- A message that was found for a reason is passed on once, with the reasons of all records about it, exactly if the
record that came first has the chat. -/
theorem discovery_complete_iff {findings : Findings} {sources : FocusDiscoverySources} {clock : Timestamp}
    {store after : EventStore JsValue Timestamp} {counts : DiscoveryCounts} {candidates : List Candidate}
    {feedChats : List String} {id : String} (grouped : findings.feedGroupChats sources = .ok feedChats)
    (listed : findings.candidates sources = .ok candidates)
    (returned : host.discover findings sources clock store = (.ok counts, after))
    (selected : ∃ record ∈ findings.searched sources feedChats, About id record = true ∧ record.2 ≠ []) :
    (∃ event, ∃ reasons : List String, (host.passed clock candidates store).filter (·.deduplicationKey = id) = [event] ∧
        discoveryReasons event = .array (reasons.map .string) ∧
        ∀ reason, reason ∈ reasons ↔
          ∃ record ∈ findings.searched sources feedChats, About id record = true ∧ reason ∈ record.2) ↔
      ∃ record, (findings.searched sources feedChats).find? (About id) = some record ∧ (chatOf record.1).isSome := by
  have whole : candidates = merged (findings.searched sources feedChats) [] := by
    rw [Findings.candidates, grouped] at listed
    exact (Except.ok.inj listed).symm
  rw [LarkHost.discover, listed] at returned
  have named : ∀ candidate ∈ candidates, idOf candidate.message = some candidate.id := by
    rw [whole]
    exact merged_named (by simp)
  have only : candidates.filter (·.id = id) =
      ((findings.searched sources feedChats).foldl (joinFound id) none).toList := by
    rw [whole]
    exact merged_filter _ rfl
  rw [passed_of_journal returned, filterMap_key id named, only]
  rcases foldl_joinFound (findings.searched sources feedChats) id with ⟨-, nothing⟩ | ⟨first, reasons, found, joined, all⟩
  · obtain ⟨record, member, about, -⟩ := selected
    exact absurd about (List.find?_eq_none.mp nothing record member)
  · have own : idOf first.1 = some id := by simpa [About] using List.find?_some found
    have reasoned : reasons ≠ [] := by
      obtain ⟨record, member, about, own⟩ := selected
      obtain ⟨reason, given⟩ := List.exists_mem_of_ne_nil record.2 own
      exact List.ne_nil_of_mem ((all reason).mpr ⟨record, member, about, given⟩)
    have journaled : (∃ event, host.eventOf ⟨id, first.1, reasons⟩ = .some event) ↔
        (chatOf first.1).isSome ∧ reasons ≠ [] := eventOf_some own
    rw [joined, found, Option.toList_some]
    constructor
    · rintro ⟨event, -, passed, -⟩
      refine ⟨first, rfl, (journaled.mp ?_).1⟩
      cases eventual : host.eventOf ⟨id, first.1, reasons⟩ with
      | none => simp [eventual] at passed
      | some event => exact ⟨event, rfl⟩
    · rintro ⟨_, same, chat⟩
      cases same
      obtain ⟨event, eventual⟩ := journaled.mpr ⟨chat, reasoned⟩
      refine ⟨event, _, by simp [eventual], (eventOf_key own eventual).2, fun reason => ?_⟩
      rw [Candidate.sorted, List.mem_insertionSort]
      exact all reason

/-! ## A record without its chat -/

def sampleSources : FocusDiscoverySources := ⟨"ou_owner", [], [], false, true, true, false, []⟩

/-- The flag list returns the message without its chat, or with it; the direct messages have it with the chat. -/
def sampleFindings (flagged : List (String × JsValue)) : Findings where
  flagItems := [.object [("message", .object (("message_id", "om_1") :: flagged))]]
  flagMessages := []
  groups := []
  groupItems _ := []
  lowered := id
  senderMessages := []
  chatMessages := []
  directMessages := [.object [("message_id", "om_1"), ("chat_id", "oc_1")]]
  mentionMessages := []

def sampleHost : LarkHost where
  toHost := .tabulated "UTC" 0 [] []
  parseJson _ := none
  stringify _ := ""

def sampleRecords (flagged : List (String × JsValue)) : List (JsValue × List String) :=
  (sampleFindings flagged).searched sampleSources []

/-- The flagged record has no chat, and the message is not passed on. -/
theorem incomplete_skipped : sampleHost.discover (sampleFindings []) sampleSources 0 .empty = (.ok ⟨0, 0, 1⟩, .empty) ∧
    (sampleRecords []).map (fun record => (idOf record.1, chatOf record.1, record.2)) =
      [(some "om_1", none, ["flagged-message"]), (some "om_1", some "oc_1", ["direct-message"])] := by
  decide

def completeMember : List (String × JsValue) := [("chat_id", "oc_1")]

/-- With the chat in the flagged record the message is passed on with both reasons. -/
theorem complete_passed : (∃ event, ∃ reasons : List String,
    (sampleHost.passed 0 [⟨"om_1", .object (("message_id", "om_1") :: completeMember),
      ["flagged-message", "direct-message"]⟩] .empty).filter (·.deduplicationKey = "om_1") = [event] ∧
        discoveryReasons event = .array (reasons.map .string) ∧
        ∀ reason, reason ∈ reasons ↔
          ∃ record ∈ sampleRecords completeMember, About "om_1" record = true ∧ reason ∈ record.2) ↔
      ∃ record, (sampleRecords completeMember).find? (About "om_1") = some record ∧ (chatOf record.1).isSome := by
  have returned : ∃ counts after, sampleHost.discover (sampleFindings completeMember) sampleSources 0 .empty =
      (.ok counts, after) := by
    exact ⟨_, _, rfl⟩
  obtain ⟨counts, after, returned⟩ := returned
  exact discovery_complete_iff (by decide) (by decide) returned (by decide)

end QuarkSelfAI.Lark

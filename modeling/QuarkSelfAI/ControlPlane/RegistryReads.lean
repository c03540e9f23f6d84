import Mathlib.Data.List.Find
import QuarkSelfAI.ControlPlane.CapabilityRegistry

/-!
# Reads of the registry

Every row of the registry is the row of a record that it gives back, and no two rows have one key. What a
context reads is told by the records that it may see; the calls of others change that only where a private
release takes a key before a call the context is concerned with.
-/

namespace QuarkSelfAI.ControlPlane.CapabilityRegistry

open Foundation CapabilityPlatform

/-! ## Manifests -/

theorem forall₂_left_mem {α β : Type} {related : α → β → Prop} {left : List α} {right : List β} {item : α}
    (all : List.Forall₂ related left right) (listed : item ∈ left) : ∃ other ∈ right, related item other := by
  induction all with
  | nil => cases listed
  | cons first _ ih =>
    rcases List.mem_cons.mp listed with rfl | later
    · exact ⟨_, List.mem_cons_self, first⟩
    · obtain ⟨other, found, same⟩ := ih later
      exact ⟨other, List.mem_cons_of_mem _ found, same⟩

/-- A value of the language with a canonical text is a JSON value. -/
theorem isJson_of_canonical {value : JsValue} {text : String} (proper : value.isProper = true)
    (written : canonicalJson value = .ok text) : value.IsJson := by
  induction value using JsValue.induct generalizing text with
  | undefined | nonFinite => cases written
  | null | bool | string => exact trivial
  | number value =>
    have decimal : IsDecimal value := of_decide_eq_true proper
    exact decimal
  | array items ih =>
    obtain ⟨texts, each, -⟩ := canonicalJson_array.mp written
    have proper := JsValue.areProper_iff.mp proper
    refine JsValue.areJson_iff.mpr fun item listed => ?_
    obtain ⟨own, -, text⟩ := forall₂_left_mem each listed
    exact ih item listed (proper item listed) text
  | object members ih =>
    obtain ⟨-, texts, each, -⟩ := canonicalJson_object.mp written
    obtain ⟨distinct, proper⟩ := Bool.and_eq_true_iff.mp proper
    have proper := JsValue.haveProper_iff.mp proper
    have distinct : (members.map Prod.fst).Nodup := of_decide_eq_true distinct
    refine ⟨distinct, JsValue.haveJson_iff.mpr fun member listed => ?_⟩
    obtain ⟨own, -, text, same, -⟩ := forall₂_left_mem each ((sortMembers_perm members).mem_iff.mpr listed)
    exact ih member listed (proper member listed) same

/-- The identity of a manifest is read off it by its names. -/
theorem identified_texts {manifest : Members} {id version : String} (identified : Identified manifest id version) :
    manifestText (.object manifest) "id" = id ∧ manifestText (.object manifest) "version" = version := by
  have read : ∀ {name text : String}, member manifest name = .string text →
      manifestText (.object manifest) name = text := by
    intro name text own
    have own : (JsValue.object manifest).get name = .string text := own
    rw [manifestText, JsValue.text?, own, Option.getD_some]
  exact ⟨read identified.named, read identified.released⟩

theorem isSegment_cons {chars : List Char} (segment : isSegment chars = true) :
    ∃ first rest, chars = first :: rest ∧ isIdStart first = true ∧ ∀ char ∈ rest, isIdChar char = true := by
  cases chars with
  | nil => cases segment
  | cons first rest =>
    simp only [isSegment, Bool.and_eq_true, List.all_eq_true] at segment
    exact ⟨first, rest, rfl, segment.1.1, segment.1.2⟩

/-- The characters of an identifier are those of the registry. -/
theorem idPattern_chars {id : String} (identifier : idPattern id = true) :
    ∃ first rest, id.toList = first :: rest ∧ isIdStart first = true ∧
      ∀ char ∈ rest, (isIdChar char || char = '/') = true := by
  have start : ∀ {char : Char}, isIdStart char = true → (isIdChar char || char = '/') = true := by
    intro char first
    simp [isIdChar, first]
  have whole : id.toList.takeWhile (· ≠ '/') ++ id.toList.dropWhile (· ≠ '/') = id.toList := List.takeWhile_append_dropWhile
  have slash : ∀ head ∈ (id.toList.dropWhile (· ≠ '/')).head?, head = '/' := by
    intro head first
    have outside := List.head?_dropWhile_not (fun char => decide (char ≠ '/')) id.toList
    simp only [Option.mem_def] at first
    rw [first] at outside
    simpa using outside
  rw [idPattern, List.span_eq_takeWhile_dropWhile] at identifier
  cases behind : id.toList.dropWhile (· ≠ '/') with
  | nil =>
    rw [behind] at identifier whole
    obtain ⟨first, rest, split, head, others⟩ := isSegment_cons identifier
    rw [split, List.append_nil] at whole
    exact ⟨first, rest, whole.symm, head, fun char listed => by simp [others char listed]⟩
  | cons mark rest =>
    rw [behind] at identifier whole slash
    obtain rfl : mark = '/' := slash mark rfl
    obtain ⟨namespaced, named⟩ := Bool.and_eq_true_iff.mp identifier
    obtain ⟨first, before, split, head, others⟩ := isSegment_cons namespaced
    obtain ⟨second, after, own, next, more⟩ := isSegment_cons named
    rw [split, List.cons_append] at whole
    refine ⟨first, _, whole.symm, head, fun char listed => ?_⟩
    rcases List.mem_append.mp listed with early | late
    · simp [others char early]
    · rw [own] at late
      rcases List.mem_cons.mp late with rfl | late
      · simp
      · rcases List.mem_cons.mp late with rfl | late
        · exact start next
        · simp [more char late]

/-- The length decides whether the identifier of a manifest is one of the registry. -/
theorem validId_iff {id label : String} {done : Unit} (identifier : idPattern id = true) :
    validId id label = .ok done ↔ id.length ≤ 128 := by
  obtain ⟨first, rest, split, head, others⟩ := idPattern_chars identifier
  have length : id.length = rest.length + 1 := by rw [← String.length_toList, split, List.length_cons]
  have pattern : registryIdPattern id = decide (rest.length ≤ 127) := by
    have all : rest.all (fun char => isIdChar char || char = '/') = true := List.all_eq_true.mpr others
    rw [registryIdPattern, split]
    simp only [head, all, Bool.true_and]
  rw [validId, throwIf_ok, pattern, Bool.not_eq_false, decide_eq_true_eq]
  omega

/-! ## Rows -/

variable {host : RegistryHost} {row : ReleaseRow} {record : CapabilityCatalogRecord}

/-- A row that a read turns back into its record, with a manifest that was accepted. -/
structure Faithful (host : RegistryHost) (row : ReleaseRow) (record : CapabilityCatalogRecord) : Prop where
  own : row = rowOf record
  read : recordFromRow host row = .ok record
  identifier : idPattern row.capabilityId = true
  version : versionPattern row.version = true

/-- What a registration requires of its call. -/
structure Accepted (host : RegistryHost) (call : RegisterCall) : Prop where
  context : validateContext host.tenantMode call.context = .ok ()
  identified : ∃ manifest id version, call.candidate.manifest.1 = .object manifest ∧ Identified manifest id version
  valid : ∃ manifest, validateCapabilityManifest call.candidate.manifest.1 = .ok manifest
  digest : contentDigest host.sha256 call.candidate.manifest.1 = .ok call.candidate.manifestDigest
  artifact : (call.candidate.manifest.1.get "source").get "artifactDigest" =
    .string (artifactDigestOf call.candidate.manifest.1)

/-- A release that is already there is answered with its record, another one gets a row. -/
inductive Answered (host : RegistryHost) (call : RegisterCall) (rows : List ReleaseRow) :
    CapabilityCatalogRecord → List ReleaseRow → Prop where
  | existing {row : ReleaseRow} {record : CapabilityCatalogRecord}
      (found : findRelease call.context.tenantId (manifestText call.candidate.manifest.1 "id")
        (manifestText call.candidate.manifest.1 "version") rows = some row)
      (read : recordFromRow host row = .ok record)
      (same : record.manifestDigest = call.candidate.manifestDigest ∧ record.visibility = call.visibility)
      (seen : visible record call.context = true) : Answered host call rows record rows
  | fresh {now : Timestamp}
      (missing : findRelease call.context.tenantId (manifestText call.candidate.manifest.1 "id")
        (manifestText call.candidate.manifest.1 "version") rows = none)
      (timed : call.now = some now) :
      Answered host call rows (newRecord call now) (rows ++ [rowOf (newRecord call now)])

theorem map_some_ok {α : Type} {outcome : Except String α} {found : Option α} (done : outcome.map some = .ok found) :
    ∃ value, outcome = .ok value ∧ some value = found := by
  cases outcome with
  | error error => cases done
  | ok value => exact ⟨value, rfl, Except.ok.inj done⟩

theorem register_ok {call : RegisterCall} {rows next : List ReleaseRow}
    (registered : register host call rows = .ok (record, next)) :
    Accepted host call ∧ Answered host call rows record next := by
  simp only [register, bind_ok] at registered
  obtain ⟨_, context, _, -, _, candidate, _, evidence, registered⟩ := registered
  simp only [validateCandidate, bind_ok, throwIf_ok] at candidate
  obtain ⟨_, -, manifest, valid, _, -, _, -, digest, hashed, _, named, -⟩ := candidate
  simp only [validateEvidence, throwIf_ok, not_or, ne_eq, not_not] at evidence
  obtain ⟨object, id, version, identified⟩ := validateCapabilityManifest_identified valid
  have artifact : (call.candidate.manifest.1.get "source").get "artifactDigest" =
      .string (artifactDigestOf call.candidate.manifest.1) := by
    obtain ⟨-, -, -, -, own, -⟩ := evidence
    rw [artifactDigestOf, manifestText, JsValue.text?, ← own]
    rfl
  simp only [ne_eq, not_or, not_not] at named
  refine ⟨⟨context, ⟨manifest, id, version, object, identified⟩, ⟨manifest, valid⟩, named.1 ▸ hashed, artifact⟩, ?_⟩
  obtain ⟨existing, stored, registered⟩ := registered
  unfold storedRelease at stored
  cases found : findRelease call.context.tenantId (manifestText call.candidate.manifest.1 "id")
      (manifestText call.candidate.manifest.1 "version") rows with
  | some row =>
    rw [found] at stored
    obtain ⟨record', read, rfl⟩ := map_some_ok stored
    simp only [bind_ok, throwIf_ok, not_or, ne_eq, not_not] at registered
    obtain ⟨_, same, _, seen, same'⟩ := registered
    cases same'
    exact .existing found read same (by simpa using seen)
  | none =>
    rw [found] at stored
    cases stored
    simp only [bind_ok] at registered
    obtain ⟨now, timed, _, -, same⟩ := registered
    cases same
    cases time : call.now with
    | none => simp [time] at timed
    | some other =>
      simp only [time, Option.elim_some, Except.ok.injEq] at timed
      subst timed
      exact .fresh found time

/-- A new row gives its record back. -/
theorem Accepted.faithful {call : RegisterCall} (accepted : Accepted host call) (now : Timestamp) :
    Faithful host (rowOf (newRecord call now)) (newRecord call now) := by
  obtain ⟨manifest, id, version, object, identified⟩ := accepted.identified
  obtain ⟨checked, valid⟩ := accepted.valid
  obtain ⟨written, canonical, digest⟩ := contentDigest_ok.mp accepted.digest
  have json := isJson_of_canonical call.candidate.manifest.2 canonical
  obtain ⟨text, printed⟩ := json.written
  have parsed := json.parse_stringify
  rw [printed, Option.bind_some] at parsed
  refine ⟨rfl, ?_, ?_, ?_⟩
  · have pattern : digestPattern call.candidate.manifestDigest = true := digest ▸ host.hexadecimal written
    have json : (rowOf (newRecord call now)).manifestJson = text := by
      change call.candidate.manifest.1.stringify.getD "" = text
      rw [printed, Option.getD_some]
    simp only [recordFromRow, json, parsed, Option.elim_some, bind_ok, throwIf_ok, Except.ok.injEq, Bool.not_eq_false]
    refine ⟨_, rfl, checked, valid, (), pattern, _, accepted.digest, (), ?_, rfl⟩
    rintro (other | other)
    · exact other rfl
    · exact other accepted.artifact
  · have named : (rowOf (newRecord call now)).capabilityId = id := by
      change manifestText call.candidate.manifest.1 "id" = id
      rw [object]
      exact (identified_texts identified).1
    rw [named]
    exact identified.identifier.2
  · have released : (rowOf (newRecord call now)).version = version := by
      change manifestText call.candidate.manifest.1 "version" = version
      rw [object]
      exact (identified_texts identified).2
    rw [released]
    exact identified.semantic.2

/-- The table of a history: every row gives its record back, and no two rows have one key. -/
structure Catalogued (host : RegistryHost) (rows : List ReleaseRow) : Prop where
  faithful : ∀ row ∈ rows, ∃ record, Faithful host row record
  keyed : (rows.map (·.key)).Nodup

theorem Catalogued.initial : Catalogued host [] := ⟨by simp, List.nodup_nil⟩

theorem Catalogued.found_iff {rows : List ReleaseRow} (catalogued : Catalogued host rows) {tenantId id version : String} :
    findRelease tenantId id version rows = some row ↔ row ∈ rows ∧ row.key = (tenantId, id, version) := by
  constructor
  · intro found
    exact ⟨List.mem_of_find?_eq_some found, by simpa using List.find?_some found⟩
  · rintro ⟨listed, own⟩
    cases found : findRelease tenantId id version rows with
    | none => exact absurd own (by simpa using List.find?_eq_none.mp found row listed)
    | some other =>
      have same : other.key = (tenantId, id, version) := by simpa using List.find?_some found
      rw [List.inj_on_of_nodup_map catalogued.keyed (List.mem_of_find?_eq_some found) listed (same.trans own.symm)]

/-- A registration keeps the table in order and answers with the record of a row in it. -/
theorem Catalogued.register {call : RegisterCall} {rows next : List ReleaseRow} (catalogued : Catalogued host rows)
    (registered : register host call rows = .ok (record, next)) :
    Catalogued host next ∧ ∃ row ∈ next, Faithful host row record := by
  obtain ⟨accepted, answered⟩ := register_ok registered
  cases answered with
  | existing found read same seen =>
    obtain ⟨listed, own⟩ := catalogued.found_iff.mp found
    obtain ⟨other, faithful⟩ := catalogued.faithful _ listed
    cases faithful.read.symm.trans read
    exact ⟨catalogued, _, listed, faithful⟩
  | @fresh now missing timed =>
    have faithful := accepted.faithful now
    refine ⟨⟨?_, ?_⟩, _, List.mem_append_right _ (List.mem_singleton_self _), faithful⟩
    · intro row listed
      rcases List.mem_append.mp listed with before | here
      · exact catalogued.faithful row before
      · exact ⟨_, List.mem_singleton.mp here ▸ faithful⟩
    · rw [List.map_append, List.map_singleton, List.nodup_append]
      refine ⟨catalogued.keyed, List.nodup_singleton _, ?_⟩
      rintro key listed other single rfl
      obtain ⟨row, before, own⟩ := List.mem_map.mp listed
      rw [List.mem_singleton] at single
      have other := List.find?_eq_none.mp missing row before
      rw [decide_eq_true_eq] at other
      exact other (own.trans single)

/-! ## Reads -/

variable {context : TenantContext} {rows : List ReleaseRow}

/-- The context may see the release. -/
def Sees (context : TenantContext) (record : CapabilityCatalogRecord) : Prop :=
  record.tenantId = context.tenantId ∧ visible record context = true

theorem Faithful.columns (faithful : Faithful host row record) :
    row.tenantId = record.tenantId ∧ row.visibility = record.visibility ∧ row.ownerUserId = record.ownerUserId := by
  rw [faithful.own]
  exact ⟨rfl, rfl, rfl⟩

theorem mem_visibleRows (faithful : Faithful host row record) :
    row ∈ visibleRows context rows ↔ row ∈ rows ∧ Sees context record := by
  obtain ⟨tenantId, visibility, owner⟩ := faithful.columns
  rw [visibleRows, List.mem_filter, tenantId, visibility, owner, Bool.and_eq_true, decide_eq_true_eq, Sees, visible]

/-- What is stored under a key, for a context. -/
theorem Catalogued.stored (catalogued : Catalogued host rows) (tenantId id version : String) :
    ∃ found, storedRelease host tenantId id version rows = .ok found ∧
      ∀ record, found = some record ↔ ∃ row ∈ rows, Faithful host row record ∧ row.key = (tenantId, id, version) := by
  cases found : findRelease tenantId id version rows with
  | none =>
    refine ⟨none, by rw [storedRelease, found], fun record => ⟨nofun, ?_⟩⟩
    rintro ⟨row, listed, -, own⟩
    cases found.symm.trans (catalogued.found_iff.mpr ⟨listed, own⟩)
  | some row =>
    obtain ⟨listed, own⟩ := catalogued.found_iff.mp found
    obtain ⟨record, faithful⟩ := catalogued.faithful row listed
    refine ⟨some record, by rw [storedRelease, found]; simp only [faithful.read, Except.map], fun other => ?_⟩
    constructor
    · intro same
      cases same
      exact ⟨row, listed, faithful, own⟩
    · rintro ⟨another, there, given, key⟩
      cases found.symm.trans (catalogued.found_iff.mpr ⟨there, key⟩)
      cases faithful.read.symm.trans given.read
      rfl

/-- A listing answers with the records of the rows it selects. -/
theorem Catalogued.listed (catalogued : Catalogued host rows)
    (valid : validateContext host.tenantMode context = .ok ()) :
    ∃ records, listVisible host true context rows = .ok records ∧
      ∀ row ∈ rows, ∀ record, Faithful host row record → Sees context record → record ∈ records := by
  have reads : ∀ (row : ReleaseRow) (index : Nat) record,
      (fun row (_ : Nat) => recordFromRow host row) row index = .ok record ↔ recordFromRow host row = .ok record :=
    fun _ _ _ => Iff.rfl
  have some : ∀ row ∈ (visibleRows context rows).insertionSort Precedes, ∃ record, recordFromRow host row = .ok record := by
    intro row listed
    have listed := List.mem_filter.mp ((List.mem_insertionSort Precedes).mp listed)
    obtain ⟨record, faithful⟩ := catalogued.faithful row listed.1
    exact ⟨record, faithful.read⟩
  obtain ⟨records, all⟩ : ∃ records, List.Forall₂ (fun row record => recordFromRow host row = .ok record)
      ((visibleRows context rows).insertionSort Precedes) records := by
    generalize (visibleRows context rows).insertionSort Precedes = selected at some
    induction selected with
    | nil => exact ⟨[], .nil⟩
    | cons row selected ih =>
      obtain ⟨record, read⟩ := some row List.mem_cons_self
      obtain ⟨records, all⟩ := ih fun other later => some other (List.mem_cons_of_mem _ later)
      exact ⟨record :: records, .cons read all⟩
  refine ⟨records, ?_, ?_⟩
  · simp only [listVisible, bind_ok, authorizeRegistry, throwIf_ok]
    exact ⟨(), valid, (), by simp, (each_ok reads).mpr all⟩
  · intro row listed record faithful sees
    have selected := (List.mem_insertionSort Precedes).mpr ((mem_visibleRows faithful).mpr ⟨listed, sees⟩)
    obtain ⟨other, answered, read⟩ := forall₂_left_mem all selected
    cases faithful.read.symm.trans read
    exact answered

/-! ## Histories -/

/-- A registration of the history was answered with the record. -/
def Released (labels : List (RegisterCall × Except String CapabilityCatalogRecord)) (record : CapabilityCatalogRecord) :
    Prop :=
  ∃ call, (call, .ok record) ∈ labels

abbrev Run (host : RegistryHost) (labels : List (RegisterCall × Except String CapabilityCatalogRecord))
    (rows : List ReleaseRow) : Prop :=
  (registry host).system.Run labels rows

variable {labels : List (RegisterCall × Except String CapabilityCatalogRecord)} {next : List ReleaseRow}
  {call : RegisterCall} {reply : Except String CapabilityCatalogRecord}
  {others : List (RegisterCall × Except String CapabilityCatalogRecord)} {right : List ReleaseRow}
  {other : CapabilityCatalogRecord}

/-- A registration throws and leaves the table, or it is answered. -/
theorem step_cases (performed : (registry host).system.Step rows (call, reply) next) :
    (∃ error, reply = .error error ∧ next = rows) ∨
      ∃ record, reply = .ok record ∧ register host call rows = .ok (record, next) := by
  have performed : (registry host).perform call rows = (reply, next) := performed
  simp only [registry] at performed
  split at performed
  · rename_i record after registered
    cases performed
    exact .inr ⟨record, rfl, registered⟩
  · rename_i error _
    cases performed
    exact .inl ⟨error, rfl, rfl⟩

/-- What the table grows by is the row of the answer. -/
theorem register_rows (registered : register host call rows = .ok (record, next)) :
    next = rows ∨ next = rows ++ [rowOf record] := by
  obtain ⟨-, answered⟩ := register_ok registered
  cases answered with
  | existing => exact .inl rfl
  | fresh => exact .inr rfl

theorem released_snoc_ok :
    Released (labels ++ [(call, .ok record)]) other ↔ Released labels other ∨ other = record := by
  simp only [Released, List.mem_append, List.mem_singleton, Prod.mk.injEq, Except.ok.injEq, exists_or, exists_eq_left]

theorem released_snoc_error {error : String} :
    Released (labels ++ [(call, .error error)]) other ↔ Released labels other := by
  simp [Released]

/-- The table holds the releases of the history, and nothing else. -/
structure Holds (host : RegistryHost) (labels : List (RegisterCall × Except String CapabilityCatalogRecord))
    (rows : List ReleaseRow) : Prop where
  catalogued : Catalogued host rows
  released : ∀ record, Released labels record ↔ ∃ row ∈ rows, Faithful host row record

theorem Run.holds (run : Run host labels rows) : Holds host labels rows := by
  refine run.history (motive := fun labels rows => Holds host labels rows) ?_ ?_
  · rintro state rfl
    exact ⟨.initial, fun record => by simp [Released, registry]⟩
  · rintro labels ⟨call, reply⟩ rows next - holds performed
    rcases step_cases performed with ⟨error, rfl, rfl⟩ | ⟨record, rfl, registered⟩
    · exact ⟨holds.catalogued, fun other => released_snoc_error.trans (holds.released other)⟩
    · obtain ⟨catalogued, row, listed, faithful⟩ := holds.catalogued.register registered
      refine ⟨catalogued, fun other => ?_⟩
      rw [released_snoc_ok, holds.released]
      constructor
      · rintro (⟨earlier, before, given⟩ | rfl)
        · rcases register_rows registered with rfl | rfl
          · exact ⟨earlier, before, given⟩
          · exact ⟨earlier, List.mem_append_left _ before, given⟩
        · exact ⟨row, listed, faithful⟩
      · rintro ⟨another, there, given⟩
        rcases register_rows registered with rfl | rfl
        · exact .inl ⟨another, there, given⟩
        · rcases List.mem_append.mp there with before | here
          · exact .inl ⟨another, before, given⟩
          · obtain rfl := List.mem_singleton.mp here
            obtain rfl : row = rowOf record := faithful.own
            cases given.read.symm.trans faithful.read
            exact .inr rfl

/-! ## What a context reads -/

/-- A context reads the same from two tables. -/
structure ReadsAlike (host : RegistryHost) (context : TenantContext) (left right : List ReleaseRow) : Prop where
  listed : ∀ allowed, listVisible host allowed context left = listVisible host allowed context right
  got : ∀ allowed id version, getRelease host allowed context id version left =
    getRelease host allowed context id version right

theorem precedes_trans {first second third : ReleaseRow} (left : Precedes first second) (right : Precedes second third) :
    Precedes first third := by
  rcases left with earlier | ⟨same, ordered⟩
  · rcases right with later | ⟨other, -⟩
    · exact .inl (earlier.trans later)
    · exact .inl (other ▸ earlier)
  · rcases right with later | ⟨other, after⟩
    · exact .inl (same ▸ later)
    · exact .inr ⟨same.trans other, ordered.trans after⟩

theorem precedes_total (left right : ReleaseRow) : Precedes left right ∨ Precedes right left := by
  rcases lt_trichotomy left.capabilityId right.capabilityId with earlier | same | later
  · exact .inl (.inl earlier)
  · exact (le_total left.version right.version).imp (fun ordered => .inr ⟨same, ordered⟩)
      fun ordered => .inr ⟨same.symm, ordered⟩
  · exact .inr (.inl later)

/-- Rows in each other's place have one capability and version. -/
theorem precedes_antisymm {left right : ReleaseRow} (before : Precedes left right) (after : Precedes right left) :
    left.capabilityId = right.capabilityId ∧ left.version = right.version := by
  rcases before with earlier | ⟨same, ordered⟩
  · rcases after with later | ⟨other, -⟩
    · exact absurd later earlier.not_gt
    · exact absurd other earlier.ne'
  · rcases after with later | ⟨-, back⟩
    · exact absurd same later.ne'
    · exact ⟨same, le_antisymm ordered back⟩

/-- The selected rows of two tables are listed alike if they are the same. -/
theorem sorted_alike {left right : List ReleaseRow} (leftKeyed : (left.map (·.key)).Nodup)
    (rightKeyed : (right.map (·.key)).Nodup)
    (same : ∀ row, row ∈ visibleRows context left ↔ row ∈ visibleRows context right) :
    (visibleRows context left).insertionSort Precedes = (visibleRows context right).insertionSort Precedes := by
  have total : Std.Total Precedes := ⟨precedes_total⟩
  have transitive : IsTrans ReleaseRow Precedes := ⟨fun _ _ _ => precedes_trans⟩
  have distinct : ∀ {rows : List ReleaseRow}, (rows.map (·.key)).Nodup → (visibleRows context rows).Nodup :=
    fun keyed => (List.Nodup.of_map _ keyed).filter _
  refine List.Perm.eq_of_pairwise ?_ (List.pairwise_insertionSort Precedes _) (List.pairwise_insertionSort Precedes _) ?_
  · intro one other listed found before after
    have listed := (same one).mp ((List.mem_insertionSort Precedes).mp listed)
    have found := (List.mem_insertionSort Precedes).mp found
    obtain ⟨there, seen⟩ := List.mem_filter.mp listed
    obtain ⟨here, shown⟩ := List.mem_filter.mp found
    obtain ⟨id, version⟩ := precedes_antisymm before after
    refine List.inj_on_of_nodup_map rightKeyed there here ?_
    simp only [Bool.and_eq_true, decide_eq_true_eq] at seen shown
    rw [ReleaseRow.key, ReleaseRow.key, id, version, seen.1, shown.1]
  · have perm := (List.perm_ext_iff_of_nodup (distinct leftKeyed) (distinct rightKeyed)).mpr same
    exact (List.perm_insertionSort _ _).trans (perm.trans (List.perm_insertionSort _ _).symm)

/-- A context reads the same where it may see the same releases. -/
theorem Holds.alike (holds : Holds host labels rows) (held : Holds host others right)
    (same : ∀ record, Sees context record → (Released labels record ↔ Released others record)) :
    ReadsAlike host context rows right := by
  have agree : ∀ record, Sees context record →
      ((∃ row ∈ rows, Faithful host row record) ↔ ∃ row ∈ right, Faithful host row record) := by
    intro record sees
    rw [← holds.released, ← held.released]
    exact same record sees
  have moved : ∀ {one other : List ReleaseRow}, Catalogued host one →
      (∀ record, Sees context record → (∃ row ∈ one, Faithful host row record) → ∃ row ∈ other, Faithful host row record) →
      ∀ row, row ∈ visibleRows context one → row ∈ visibleRows context other := by
    intro one other catalogued shared row listed
    obtain ⟨record, faithful⟩ := catalogued.faithful row (List.mem_filter.mp listed).1
    obtain ⟨there, sees⟩ := (mem_visibleRows faithful).mp listed
    obtain ⟨another, here, given⟩ := shared record sees ⟨row, there, faithful⟩
    obtain rfl : another = row := given.own.trans faithful.own.symm
    exact (mem_visibleRows faithful).mpr ⟨here, sees⟩
  constructor
  · intro allowed
    have rows := sorted_alike holds.catalogued.keyed held.catalogued.keyed fun row =>
      ⟨moved holds.catalogued (fun record sees => (agree record sees).mp) row,
        moved held.catalogued (fun record sees => (agree record sees).mpr) row⟩
    rw [listVisible, listVisible, rows]
  · intro allowed id version
    obtain ⟨one, stored, ones⟩ := holds.catalogued.stored context.tenantId id version
    obtain ⟨other, kept, others⟩ := held.catalogued.stored context.tenantId id version
    have filtered : one.filter (visible · context) = other.filter (visible · context) := by
      ext record
      rw [Option.filter_eq_some_iff, Option.filter_eq_some_iff, ones, others]
      refine and_congr_left fun seen => ?_
      constructor
      · rintro ⟨row, listed, faithful, key⟩
        have sees : Sees context record := ⟨faithful.columns.1.symm.trans (Prod.mk.inj key).1, seen⟩
        obtain ⟨another, there, given⟩ := (agree record sees).mp ⟨row, listed, faithful⟩
        exact ⟨another, there, given, given.own.trans faithful.own.symm ▸ key⟩
      · rintro ⟨row, listed, faithful, key⟩
        have sees : Sees context record := ⟨faithful.columns.1.symm.trans (Prod.mk.inj key).1, seen⟩
        obtain ⟨another, there, given⟩ := (agree record sees).mpr ⟨row, listed, faithful⟩
        exact ⟨another, there, given, given.own.trans faithful.own.symm ▸ key⟩
    simp only [getRelease, stored, kept]
    simp only [bind, Except.bind, filtered]

/-! ## Calls of others -/

/-- The context may see what the call registers. -/
def concerns (context : TenantContext) (call : RegisterCall) : Bool :=
  call.context.tenantId = context.tenantId && (call.visibility = .tenant || call.context.userId = context.userId)

/-- A release that the context may not see has the key of the call. -/
def Shadowed (context : TenantContext) (rows : List ReleaseRow) (call : RegisterCall) : Prop :=
  ∃ row ∈ rows, row.key = (call.context.tenantId, manifestText call.candidate.manifest.1 "id",
    manifestText call.candidate.manifest.1 "version") ∧ row ∉ visibleRows context rows

/-- The condition on one registration: no private release of another user stands in its way. -/
def Unshadowed (context : TenantContext) (rows : List ReleaseRow)
    (entry : RegisterCall × Except String CapabilityCatalogRecord) : Prop :=
  concerns context entry.1 = true → ¬ Shadowed context rows entry.1

instance (context : TenantContext) (rows : List ReleaseRow) (entry : RegisterCall × Except String CapabilityCatalogRecord) :
    Decidable (Unshadowed context rows entry) :=
  inferInstanceAs (Decidable (_ → ¬ ∃ row ∈ rows, _ ∧ row ∉ visibleRows context rows))

theorem visibleRows_fresh {now : Timestamp} : visibleRows context (rows ++ [rowOf (newRecord call now)]) =
      visibleRows context rows ++ if concerns context call then [rowOf (newRecord call now)] else [] := by
  rw [visibleRows, List.filter_append]
  congr 1
  cases concerned : concerns context call with
  | true => exact List.filter_cons_of_pos concerned
  | false => exact List.filter_cons_of_neg (Bool.eq_false_iff.mp concerned)

/-- A call that does not concern the context leaves what it sees. -/
theorem visibleRows_other (registered : register host call rows = .ok (record, next))
    (other : concerns context call = false) : visibleRows context next = visibleRows context rows := by
  obtain ⟨-, answered⟩ := register_ok registered
  cases answered with
  | existing => rfl
  | fresh => rw [visibleRows_fresh, other, if_neg (by simp), List.append_nil]

theorem storedRelease_visible (unshadowed : ¬ Shadowed context rows call) :
    storedRelease host call.context.tenantId (manifestText call.candidate.manifest.1 "id")
      (manifestText call.candidate.manifest.1 "version") (visibleRows context rows) =
    storedRelease host call.context.tenantId (manifestText call.candidate.manifest.1 "id")
      (manifestText call.candidate.manifest.1 "version") rows := by
  have same : findRelease call.context.tenantId (manifestText call.candidate.manifest.1 "id")
      (manifestText call.candidate.manifest.1 "version") (visibleRows context rows) =
      findRelease call.context.tenantId (manifestText call.candidate.manifest.1 "id")
        (manifestText call.candidate.manifest.1 "version") rows := by
    rw [findRelease, visibleRows, List.find?_filter]
    refine List.find?_congr fun row listed => ?_
    by_cases own : row.key = (call.context.tenantId, manifestText call.candidate.manifest.1 "id",
        manifestText call.candidate.manifest.1 "version")
    · by_contra hidden
      refine unshadowed ⟨row, listed, own, fun seen => hidden ?_⟩
      simp [own, (List.mem_filter.mp seen).2]
    · simp [own]
  rw [storedRelease, same, storedRelease]

/-- A call that concerns the context, with nothing in its way, does to what the context sees what it does to the
whole table. -/
theorem register_visible (concerned : concerns context call = true) (unshadowed : ¬ Shadowed context rows call) :
    register host call (visibleRows context rows) =
      (register host call rows).map fun (record, next) => (record, visibleRows context next) := by
  simp only [register, storedRelease_visible unshadowed]
  cases validateContext host.tenantMode call.context with
  | error error => rfl
  | ok =>
  cases authorizeRegistry call.allowed with
  | error error => rfl
  | ok =>
  cases validateCandidate host call.candidate with
  | error error => rfl
  | ok =>
  cases validateEvidence host call.candidate call.evidence with
  | error error => rfl
  | ok =>
  cases storedRelease host call.context.tenantId (manifestText call.candidate.manifest.1 "id")
      (manifestText call.candidate.manifest.1 "version") rows with
  | error error => rfl
  | ok found =>
  cases found with
  | some existing =>
    simp only [bind, Except.bind, throwIf]
    by_cases differs : existing.manifestDigest ≠ call.candidate.manifestDigest ∨ existing.visibility ≠ call.visibility
    · simp only [if_pos differs, Except.map]
    · by_cases hidden : visible existing call.context = false
      · simp only [if_neg differs, if_pos hidden, Except.map]
      · simp only [if_neg differs, if_neg hidden, Except.map]
  | none =>
    simp only [bind, Except.bind, throwIf]
    cases call.now with
    | none => rfl
    | some now =>
      by_cases missing : call.enrolled = false
      · simp only [Option.elim_some, if_pos missing, Except.map]
      · simp only [Option.elim_some, if_neg missing, Except.map, visibleRows_fresh, concerned, if_true]

theorem perform_visible (concerned : concerns context call = true) (unshadowed : ¬ Shadowed context rows call)
    (performed : (registry host).system.Step rows (call, reply) next) :
    (registry host).system.Step (visibleRows context rows) (call, reply) (visibleRows context next) := by
  change (registry host).perform call (visibleRows context rows) = (reply, visibleRows context next)
  have restricted := @register_visible host context rows call concerned unshadowed
  simp only [registry, restricted]
  rcases step_cases performed with ⟨error, rfl, rfl⟩ | ⟨record, rfl, registered⟩
  · have failed : register host call next = .error error := by
      have performed : (registry host).perform call next = (.error error, next) := performed
      simp only [registry] at performed
      split at performed
      · cases performed
      · rename_i other failed
        cases performed
        exact failed
    rw [failed]
    rfl
  · rw [registered]
    rfl

/-- The calls that concern the context alone are a history that leaves what the context sees. -/
theorem concerned_run (run : ((registry host).system.restricted (Unshadowed context)).Run labels rows) :
    Run host (labels.filter fun entry => concerns context entry.1) (visibleRows context rows) := by
  refine run.history (motive := fun labels rows =>
    Run host (labels.filter fun entry => concerns context entry.1) (visibleRows context rows)) ?_ ?_
  · rintro state rfl
    exact .initial rfl
  · rintro labels ⟨call, reply⟩ rows next - prior ⟨performed, unshadowed⟩
    cases concerned : concerns context call with
    | true =>
      have kept : (labels ++ [(call, reply)]).filter (fun entry => concerns context entry.1) =
          labels.filter (fun entry => concerns context entry.1) ++ [(call, reply)] := by simp [concerned]
      rw [kept]
      exact prior.step (perform_visible concerned (unshadowed concerned) performed)
    | false =>
      have left : (labels ++ [(call, reply)]).filter (fun entry => concerns context entry.1) =
          labels.filter (fun entry => concerns context entry.1) := by simp [concerned]
      rw [left]
      rcases step_cases performed with ⟨error, rfl, rfl⟩ | ⟨record, rfl, registered⟩
      · exact prior
      · rwa [visibleRows_other registered concerned]

theorem replay_calls {State Call Reply : Type} (machine : Machine State Call Reply) (calls : List Call) (state : State) :
    (machine.replay calls state).1.map Prod.fst = calls := by
  induction calls generalizing state with
  | nil => rfl
  | cons call rest ih => exact congrArg (call :: ·) (ih _)

/-- The calls of a history tell the table it leaves. -/
theorem replay_of_steps {State Call Reply : Type} {machine : Machine State Call Reply} {start finish : State}
    {entries : List (Call × Reply)} (steps : machine.system.Steps start entries finish) :
    machine.replay (entries.map Prod.fst) start = (entries, finish) := by
  induction steps with
  | done => rfl
  | @next start entry middle entries finish transition _ ih =>
    have performed : machine.perform entry.1 start = (entry.2, middle) := transition
    rw [List.map_cons, Machine.replay, performed]
    simp only [ih]

theorem Run.determined (run : Run host labels rows) (other : Run host others right)
    (same : labels.map Prod.fst = others.map Prod.fst) : labels = others ∧ rows = right := by
  obtain ⟨start, rfl, steps⟩ := run
  obtain ⟨begun, rfl, taken⟩ := other
  have replayed := replay_of_steps steps
  rw [same, replay_of_steps taken] at replayed
  exact Prod.mk.inj replayed.symm

/-! ## The registry -/

/-- Every release stays readable for whoever may see it, and identifiers of at most 128 characters can be asked
for. -/
structure StaysReadable (host : RegistryHost)
    (labels : List (RegisterCall × Except String CapabilityCatalogRecord)) (rows : List ReleaseRow) : Prop where
  answered : ∀ before call record after, labels = before ++ (call, .ok record) :: after →
    record.manifestDigest = call.candidate.manifestDigest ∧ record.visibility = call.visibility ∧
      (record.manifest = call.candidate.manifest.1 ∨ Released before record)
  read : ∀ record, Released labels record → ∀ context, validateContext host.tenantMode context = .ok () →
    Sees context record → (∃ records, listVisible host true context rows = .ok records ∧ record ∈ records) ∧
      ((manifestText record.manifest "id").length ≤ 128 →
        getRelease host true context (manifestText record.manifest "id") (manifestText record.manifest "version") rows =
          .ok (some record))
  total : ∀ context, validateContext host.tenantMode context = .ok () →
    (∃ records, listVisible host true context rows = .ok records) ∧
      ∀ id version, registryIdPattern id = true → versionPattern version = true →
        ∃ found, getRelease host true context id version rows = .ok found

theorem answered_before {before after : List (RegisterCall × Except String CapabilityCatalogRecord)}
    (run : Run host (before ++ (call, .ok record) :: after) rows) :
    record.manifestDigest = call.candidate.manifestDigest ∧ record.visibility = call.visibility ∧
      (record.manifest = call.candidate.manifest.1 ∨ Released before record) := by
  obtain ⟨state, next, prior, performed, -⟩ := run.cut
  rcases step_cases performed with ⟨error, failed, -⟩ | ⟨answer, same, registered⟩
  · cases failed
  · cases same
    have holds := Run.holds prior
    obtain ⟨-, answered⟩ := register_ok registered
    cases answered with
    | existing found read same seen =>
      obtain ⟨listed, -⟩ := holds.catalogued.found_iff.mp found
      obtain ⟨other, faithful⟩ := holds.catalogued.faithful _ listed
      cases faithful.read.symm.trans read
      exact ⟨same.1, same.2, .inr ((holds.released record).mpr ⟨_, listed, faithful⟩)⟩
    | fresh => exact ⟨rfl, rfl, .inl rfl⟩

theorem Catalogued.got (catalogued : Catalogued host rows) {id version : String}
    (valid : validateContext host.tenantMode context = .ok ()) (identifier : validId id "capabilityId" = .ok ())
    (semantic : versionPattern version = true) :
    ∃ found, getRelease host true context id version rows = .ok (found.filter (visible · context)) ∧
      ∀ record, found = some record ↔ ∃ row ∈ rows, Faithful host row record ∧
        row.key = (context.tenantId, id, version) := by
  obtain ⟨found, stored, each⟩ := catalogued.stored context.tenantId id version
  refine ⟨found, ?_, each⟩
  simp only [getRelease, bind_ok, validVersion, authorizeRegistry, throwIf_ok]
  exact ⟨(), valid, (), identifier, (), by simp [semantic], (), by simp, found, stored, rfl⟩

theorem Run.staysReadable (run : Run host labels rows) : StaysReadable host labels rows where
  answered before call record after split := by
    subst split
    exact answered_before run
  read record released context valid sees := by
    have holds := run.holds
    obtain ⟨row, listed, faithful⟩ := (holds.released record).mp released
    refine ⟨?_, fun short => ?_⟩
    · obtain ⟨records, answered, all⟩ := holds.catalogued.listed valid
      exact ⟨records, answered, all row listed record faithful sees⟩
    · have named : row.capabilityId = manifestText record.manifest "id" := by rw [faithful.own]; rfl
      have released : row.version = manifestText record.manifest "version" := by rw [faithful.own]; rfl
      have key : row.key = (context.tenantId, manifestText record.manifest "id", manifestText record.manifest "version") := by
        rw [ReleaseRow.key, named, released, faithful.columns.1, sees.1]
      obtain ⟨found, answered, each⟩ := holds.catalogued.got valid
        ((validId_iff (named ▸ faithful.identifier)).mpr short) (released ▸ faithful.version)
      rw [answered, (each record).mpr ⟨row, listed, faithful, key⟩, Option.filter_some, if_pos sees.2]
  total context valid := by
    have catalogued := run.holds.catalogued
    refine ⟨?_, fun id version identifier semantic => ?_⟩
    · obtain ⟨records, answered, -⟩ := catalogued.listed valid
      exact ⟨records, answered⟩
    · have identifier : validId id "capabilityId" = .ok () := by rw [validId, throwIf_ok, identifier]; simp
      obtain ⟨found, answered, -⟩ := catalogued.got valid identifier semantic
      exact ⟨_, answered⟩

/-- The reads of a context are told by the calls that concern it, as long as nothing stands in their way. -/
theorem alike_of_calls (run : ((registry host).system.restricted (Unshadowed context)).Run labels rows)
    (other : ((registry host).system.restricted (Unshadowed context)).Run others right)
    (same : (labels.map Prod.fst).filter (concerns context) = (others.map Prod.fst).filter (concerns context)) :
    ReadsAlike host context rows right := by
  have calls : ∀ entries : List (RegisterCall × Except String CapabilityCatalogRecord),
      (entries.filter fun entry => concerns context entry.1).map Prod.fst =
        (entries.map Prod.fst).filter (concerns context) := by
    intro entries
    rw [List.filter_map]
    rfl
  have seen : visibleRows context rows = visibleRows context right :=
    ((concerned_run run).determined (concerned_run other) (by rw [calls, calls, same])).2
  have holds : Holds host labels rows := Run.holds run.unrestricted
  have held : Holds host others right := Run.holds other.unrestricted
  refine holds.alike held fun record sees => ?_
  rw [holds.released, held.released]
  constructor
  · rintro ⟨row, listed, faithful⟩
    have there := (mem_visibleRows faithful).mpr ⟨listed, sees⟩
    rw [seen] at there
    exact ⟨row, ((mem_visibleRows faithful).mp there).1, faithful⟩
  · rintro ⟨row, listed, faithful⟩
    have there := (mem_visibleRows faithful).mpr ⟨listed, sees⟩
    rw [← seen] at there
    exact ⟨row, ((mem_visibleRows faithful).mp there).1, faithful⟩

/-- After every history the releases are readable, and what a context reads is the same after another history
with the same releases that it may see, and after another one with the same calls that concern it if in neither
of them a private release of another user has the key of such a call. -/
theorem registry_reads (run : Run host labels rows) : StaysReadable host labels rows ∧
      (∀ context others right, Run host others right →
        (∀ record, Sees context record → (Released labels record ↔ Released others record)) →
          ReadsAlike host context rows right) ∧
      ∀ context others right, ((registry host).system.restricted (Unshadowed context)).Run labels rows →
        ((registry host).system.restricted (Unshadowed context)).Run others right →
          (labels.map Prod.fst).filter (concerns context) = (others.map Prod.fst).filter (concerns context) →
            ReadsAlike host context rows right :=
  ⟨run.staysReadable, fun _ _ _ other same => run.holds.alike other.holds same, fun _ _ _ => alike_of_calls⟩

/-! ## Two manifests -/

/-- A digest of sixty-four letters. -/
def sampleDigest : String := "sha256:" ++ String.ofList (List.replicate 64 'a')

/-- A small manifest of an identifier. -/
def sampleManifest (id : String) : JsValue :=
  .object
    [("schemaVersion", .number 1), ("id", .string id), ("name", .string "Tool"), ("version", .string "1.0.0"),
      ("kind", .string "cli"), ("description", .string "A tool."),
      ("source", .object
        [("kind", .string "git"), ("locator", .string "tool.git"), ("revision", .string "r1"),
          ("artifactDigest", .string sampleDigest), ("license", .string "MIT"), ("supplier", .string "example"),
          ("signature", .object [("status", .string "verified"), ("keyId", .string "key")]),
          ("sbom", .object [("format", .string "spdx"), ("digest", .string sampleDigest)])]),
      ("runtime", .object
        [("placements", .array [.string "local"]), ("isolation", .string "process"), ("supportedPlatforms", .array []),
          ("executorRequirements", .array []), ("stateNamespace", .string "tool"), ("offlineCapable", .bool true)]),
      ("requirements", .array []),
      ("lifecycle", .object (lifecycleActions.map fun action =>
        (action, .object
          [("handlerInterface", .string "life"), ("supported", .bool true), ("approval", .string "none")]))),
      ("interfaces", .array [.object
        [("kind", .string "runtime"), ("id", .string "life"), ("version", .string "1.0.0"),
          ("direction", .string "provides"), ("compatibility", .array [])]]),
      ("dependencies", .array []), ("permissions", .array []), ("dataClasses", .array []),
      ("tests", .array [.object
        [("id", .string "contract"), ("kind", .string "contract"), ("required", .bool true),
          ("effectMode", .string "none")]]),
      ("healthChecks", .array []),
      ("recovery", .object
        [("strategy", .string "stateless"), ("rollbackVersion", .null), ("stateIncluded", .bool false),
          ("restoreEffectsEnabled", .bool false)])]

/-- An identifier of 129 characters. -/
def longId : String := String.ofList (List.replicate 64 'a' ++ '/' :: List.replicate 64 'b')

/-- SHA-256 of the canonical text of the manifest of the long identifier, and of `tool/shared`. -/
def digestOf (id : String) : String :=
  if id = longId then "72dfb4e926a255c41fef6143f1a235dde1b6984433fd2a4d89fde206e46bbfce"
  else "9c161179b2dbbc7027726cc2d27220127f9c678701161f6d6400d56bc352e0e3"

/-- A host for the manifest of one identifier. -/
def sampleHost (id : String) : RegistryHost where
  sha256 _ := digestOf id
  hexadecimal _ := by
    unfold digestOf
    split <;> decide
  parseDate text := if text = "2026-09-06T00:00:00.000Z" then some 1788652800000 else none
  tenantMode := .testOnly

def sampleContext (tenantId userId : String) : TenantContext := ⟨tenantId, userId, [.owner]⟩

def sampleCall (context : TenantContext) (id : String) (proper : (sampleManifest id).isProper = true)
    (visibility : Visibility) : RegisterCall where
  context
  candidate := ⟨1, id, ⟨sampleManifest id, proper⟩, "sha256:" ++ digestOf id, "policy-1", "validated-unpublished", false,
    false, true⟩
  evidence := ⟨1, id, "1.0.0", sampleDigest, "r1", "policy-1", requiredChecks.map fun check => (check, "pass"),
    "verified", "2026-09-06T00:00:00.000Z"⟩
  visibility
  now := some 1788652800000
  allowed := true
  enrolled := true

def owner : TenantContext := sampleContext "test.alpha" "owner"

/-- A release of the owner for the tenant, a member's private one and one of another tenant, under one name. -/
def sharedCall : RegisterCall := sampleCall owner "tool/shared" (by decide) .tenant

def privateCall : RegisterCall := sampleCall (sampleContext "test.alpha" "member") "tool/shared" (by decide) .owner

def foreignCall : RegisterCall := sampleCall (sampleContext "test.beta" "owner") "tool/shared" (by decide) .tenant

def longCall : RegisterCall := sampleCall owner longId (by decide) .owner

/-- The history of some calls, and the table it leaves. -/
def sampleHistory (id : String) (calls : List RegisterCall) : List (RegisterCall × Except String CapabilityCatalogRecord) :=
  ((registry (sampleHost id)).replay calls []).1

def sampleRows (id : String) (calls : List RegisterCall) : List ReleaseRow :=
  ((registry (sampleHost id)).replay calls []).2

/-- What the first registration of a table leaves. -/
theorem register_first (registered : register host call [] = .ok (record, next)) :
    next = [rowOf record] ∧ Faithful host (rowOf record) record ∧ ∃ now, record = newRecord call now := by
  obtain ⟨accepted, answered⟩ := register_ok registered
  cases answered with
  | existing found => cases found
  | fresh => exact ⟨rfl, accepted.faithful _, _, rfl⟩

/-- A release with the key of a call and another visibility makes the call throw. -/
theorem register_taken {other : RegisterCall} (registered : register host other [] = .ok (record, rows))
    (same : (rowOf record).key = (call.context.tenantId, manifestText call.candidate.manifest.1 "id",
      manifestText call.candidate.manifest.1 "version"))
    (differs : record.visibility ≠ call.visibility) : ∃ error, register host call rows = .error error := by
  obtain ⟨rfl, faithful, -⟩ := register_first registered
  have found : findRelease call.context.tenantId (manifestText call.candidate.manifest.1 "id")
      (manifestText call.candidate.manifest.1 "version") [rowOf record] = some (rowOf record) := by
    rw [findRelease, List.find?_cons_of_pos (by simpa using same)]
  cases outcome : register host call [rowOf record] with
  | error error => exact ⟨error, rfl⟩
  | ok answer =>
    obtain ⟨answer, after⟩ := answer
    obtain ⟨-, answered⟩ := register_ok outcome
    cases answered with
    | existing there read matching =>
      cases found.symm.trans there
      cases faithful.read.symm.trans read
      exact absurd matching.2 differs
    | fresh missing => cases found.symm.trans missing

/-- The first call of a sample is answered. -/
theorem sample_first {id : String} {calls : List RegisterCall}
    (registered : (register (sampleHost id) call []).toOption.isSome = true) :
    ∃ record, register (sampleHost id) call [] = .ok (record, [rowOf record]) ∧ sampleHistory id (call :: calls) =
        (call, .ok record) :: ((registry (sampleHost id)).replay calls [rowOf record]).1 ∧
      sampleRows id (call :: calls) = ((registry (sampleHost id)).replay calls [rowOf record]).2 := by
  cases outcome : register (sampleHost id) call [] with
  | error error => simp [outcome, Except.toOption] at registered
  | ok answer =>
    obtain ⟨record, next⟩ := answer
    obtain ⟨rfl, -, -⟩ := register_first outcome
    have performed : (registry (sampleHost id)).perform call [] = (.ok record, [rowOf record]) := by
      simp only [registry, outcome]
    refine ⟨record, rfl, ?_, ?_⟩
    · rw [sampleHistory, Machine.replay, performed]
    · rw [sampleRows, Machine.replay, performed]

theorem sample_registered : (register (sampleHost "tool/shared") sharedCall []).toOption.isSome = true ∧
      (register (sampleHost "tool/shared") privateCall []).toOption.isSome = true ∧
      (register (sampleHost longId) longCall []).toOption.isSome = true := by
  decide +kernel

theorem sample_run (id : String) (calls : List RegisterCall) :
    Run (sampleHost id) (sampleHistory id calls) (sampleRows id calls) :=
  (registry (sampleHost id)).replay_run calls

theorem registry_reads_shared :
    StaysReadable (sampleHost "tool/shared") (sampleHistory "tool/shared" [foreignCall, sharedCall])
        (sampleRows "tool/shared" [foreignCall, sharedCall]) ∧
      ReadsAlike (sampleHost "tool/shared") owner (sampleRows "tool/shared" [foreignCall, sharedCall])
        (sampleRows "tool/shared" [sharedCall]) := by
  obtain ⟨readable, -, alike⟩ := registry_reads (sample_run "tool/shared" [foreignCall, sharedCall])
  have apart : (registry (sampleHost "tool/shared")).meetsAll (Unshadowed owner) [foreignCall, sharedCall] [] = true := by
    decide
  have alone : (registry (sampleHost "tool/shared")).meetsAll (Unshadowed owner) [sharedCall] [] = true := by
    decide
  refine ⟨readable, alike owner _ _ (Machine.replay_restricted _ apart) (Machine.replay_restricted _ alone) ?_⟩
  rw [sampleHistory, replay_calls, replay_calls]
  rfl

/-- A private release of a member takes the key of a shared one that the owner registers after it, and an
identifier of 129 characters is registered but cannot be asked for. -/
theorem registry_shadowed : ([privateCall, sharedCall].filter (concerns owner) = [sharedCall].filter (concerns owner) ∧
      getRelease (sampleHost "tool/shared") true owner "tool/shared" "1.0.0"
        (sampleRows "tool/shared" [privateCall, sharedCall]) = .ok none ∧
      ∃ record, getRelease (sampleHost "tool/shared") true owner "tool/shared" "1.0.0"
        (sampleRows "tool/shared" [sharedCall]) = .ok (some record)) ∧
    ∃ record, Released (sampleHistory longId [longCall]) record ∧ Sees owner record ∧
      manifestText record.manifest "id" = longId ∧
      getRelease (sampleHost longId) true owner longId "1.0.0" (sampleRows longId [longCall]) =
        .error "capabilityId is invalid" := by
  obtain ⟨shared, alone, long⟩ := sample_registered
  have identifier : validId "tool/shared" "capabilityId" = .ok () := rfl
  have valid : validateContext (sampleHost "tool/shared").tenantMode owner = .ok () := rfl
  have semantic : versionPattern "1.0.0" = true := by decide
  refine ⟨⟨rfl, ?_, ?_⟩, ?_⟩
  · obtain ⟨record, registered, -, rows⟩ := @sample_first _ _ [sharedCall] alone
    obtain ⟨-, faithful, now, own⟩ := register_first registered
    obtain ⟨error, taken⟩ : ∃ error, register (sampleHost "tool/shared") sharedCall [rowOf record] = .error error :=
      register_taken registered (by rw [own]; rfl) (by rw [own]; exact nofun)
    have left : sampleRows "tool/shared" [privateCall, sharedCall] = [rowOf record] := by
      rw [rows]
      simp only [Machine.replay, registry, taken]
    obtain ⟨found, answered, each⟩ := (sample_run "tool/shared" [privateCall, sharedCall]).holds.catalogued.got valid
      identifier semantic
    rw [answered]
    refine congrArg Except.ok (Option.filter_eq_none_iff.mpr fun other same => ?_)
    obtain ⟨row, listed, given, -⟩ := (each other).mp same
    rw [left, List.mem_singleton] at listed
    subst listed
    cases faithful.read.symm.trans given.read
    rw [own]
    exact Bool.false_ne_true
  · obtain ⟨record, registered, history, -⟩ := @sample_first _ _ [] shared
    obtain ⟨-, -, now, own⟩ := register_first registered
    have released : Released (sampleHistory "tool/shared" [sharedCall]) record := ⟨sharedCall, by rw [history]; simp⟩
    obtain ⟨-, got⟩ := (sample_run "tool/shared" [sharedCall]).staysReadable.read record released owner valid
      (by rw [own]; exact ⟨rfl, rfl⟩)
    rw [own] at got
    exact ⟨_, got (by change "tool/shared".length ≤ 128; decide)⟩
  · obtain ⟨record, registered, history, -⟩ := @sample_first _ _ [] long
    obtain ⟨-, -, now, own⟩ := register_first registered
    refine ⟨record, ⟨longCall, by rw [history]; simp⟩, ?_, ?_, ?_⟩
    · rw [own]
      exact ⟨rfl, rfl⟩
    · rw [own]
      rfl
    · have refused : registryIdPattern longId = false := by decide +kernel
      simp only [getRelease, validId, refused]
      rfl

end QuarkSelfAI.ControlPlane.CapabilityRegistry

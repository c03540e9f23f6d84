import QuarkSelfAI.Foundation.Checking
import QuarkSelfAI.Foundation.IsoTime
import QuarkSelfAI.Foundation.JsonParse
import QuarkSelfAI.Foundation.Transition

/-!
# Intake matters

The matters that an enrolled client keeps for what it takes in, found by the fingerprint of their source, and the receipts
of the requests that wrote them, found by the fingerprint of their idempotency key. Nothing in the source sets another
status than `open`; the statuses that the schema allows are set here between the requests.
-/

namespace QuarkSelfAI.ClientRuntime

open Foundation

/-! ## The store -/

inductive MatterStatus where
  | opened
  | waiting
  | completed
  | ignored
  | superseded
deriving DecidableEq

def MatterStatus.isTerminal (status : MatterStatus) : Bool := status ≠ .opened && status ≠ .waiting

/-- A row of `local_matter`, with its tags as a list. -/
structure MatterRow where
  matterId : String
  tenantId : String
  userId : String
  sourceFingerprint : String
  status : MatterStatus
  title : String
  summary : String
  priority : Rat
  tags : List String
  dueAt : Option String
  createdAt : Timestamp
  updatedAt : Timestamp

/-- A row of `local_matter_intake`. -/
structure IntakeReceipt where
  tenantId : String
  userId : String
  idempotencyFingerprint : String
  requestDigest : String
  matterId : String
  recordedAt : Timestamp

def IntakeReceipt.key (receipt : IntakeReceipt) : String × String × String :=
  (receipt.tenantId, receipt.userId, receipt.idempotencyFingerprint)

structure MatterStore where
  matters : Table MatterRow.matterId
  receipts : Table IntakeReceipt.key

structure LocalIntakeMatterInput where
  tenantId : String
  userId : String
  sourceId : String
  idempotencyKey : String
  title : String
  summary : String
  priority : Rat
  tags : List String
  dueAt : Option String
  existingMatterId : Option String

structure LocalIntakeMatter where
  matterId : String
  tenantId : String
  userId : String
  status : MatterStatus
  title : String
  summary : String
  priority : Rat
  tags : List String
  dueAt : Option String
  createdAt : Timestamp
  updatedAt : Timestamp

structure IntakeResult where
  matter : LocalIntakeMatter
  inserted : Bool
  changed : Bool

/-- The identity that is enrolled, `Date.parse`, and the hexadecimal SHA-256 digest of a text. -/
structure EnrolledClient where
  tenantId : String
  userId : String
  parse : String → Option Timestamp
  sha256 : String → String

section Requests

variable (client : EnrolledClient)

/-! ## Fingerprints -/

def sourceFingerprint (input : LocalIntakeMatterInput) : String := client.sha256 ("feishu:" ++ input.sourceId)

def idempotencyFingerprint (input : LocalIntakeMatterInput) : String := client.sha256 input.idempotencyKey

/-- What the digest of a request is made of. -/
def requestContent (input : LocalIntakeMatterInput) : JsValue :=
  .array [.string (sourceFingerprint client input), .string input.title, .string input.summary, .number input.priority,
    .array (input.tags.map .string), (input.dueAt.map .string).getD .null]

def requestDigest (input : LocalIntakeMatterInput) : String :=
  client.sha256 ((requestContent client input).stringify.getD "undefined")

def matterIdOf (fingerprint : String) : String :=
  "matter." ++ utf16Take 32 (client.sha256 (client.tenantId ++ ":" ++ client.userId ++ ":" ++ fingerprint))

def receiptKey (input : LocalIntakeMatterInput) : String × String × String :=
  (client.tenantId, client.userId, idempotencyFingerprint client input)

/-! ## Reading -/

def MatterRow.view (row : MatterRow) : LocalIntakeMatter where
  matterId := row.matterId
  tenantId := row.tenantId
  userId := row.userId
  status := row.status
  title := row.title
  summary := row.summary
  priority := row.priority
  tags := row.tags
  dueAt := row.dueAt.filter (· ≠ "")
  createdAt := row.createdAt
  updatedAt := row.updatedAt

def intakeMatter (store : MatterStore) (tenantId userId matterId : String) :
    Except String (Option LocalIntakeMatter) := do
  throwIf (tenantId ≠ client.tenantId ∨ userId ≠ client.userId) "intake Matter read is outside enrolled scope"
  match (store.matters.find? matterId).filter fun row => row.tenantId = tenantId ∧ row.userId = userId with
  | none => .ok none
  | some row => do
    throwIf (row.tenantId ≠ client.tenantId ∨ row.userId ≠ client.userId ∨ row.priority ∉ [1, 3, 5])
      "persisted intake Matter is invalid"
    .ok (some row.view)

/-! ## Writing -/

def isInvalidInput (input : LocalIntakeMatterInput) : Bool :=
  isBlank input.sourceId || 500 < utf16Length input.sourceId || isBlank input.idempotencyKey ||
    1000 < utf16Length input.idempotencyKey || isBlank input.title || 300 < utf16Length input.title ||
    isBlank input.summary || 5000 < utf16Length input.summary || input.priority ∉ [1, 3, 5] || 20 < input.tags.length ||
    (input.tags.any fun tag => isBlank tag || 64 < utf16Length tag) ||
    input.dueAt.any fun dueAt => (client.parse dueAt).isNone

/-- The checks of a request. `none` is an invalid date. -/
def checkInput (input : LocalIntakeMatterInput) (now : Option Timestamp) : Except String Timestamp := do
  throwIf (input.tenantId ≠ client.tenantId ∨ input.userId ≠ client.userId)
    "intake matter scope does not match enrolled client"
  throwIf (input.existingMatterId ≠ none) "explicit Matter merge requires separate reconciliation"
  match now with
  | none => .error "intake matter input is invalid"
  | some instant => do
    throwIf (isInvalidInput client input = true) "intake matter input is invalid"
    .ok instant

/-- The matter of a source. -/
def sourceMatter (store : MatterStore) (fingerprint : String) : Option MatterRow :=
  store.matters.rows.find? fun row =>
    row.tenantId = client.tenantId ∧ row.userId = client.userId ∧ row.sourceFingerprint = fingerprint

/-- What an update of a matter may change. -/
def MatterRow.content (row : MatterRow) : String × String × Rat × List String × Option String :=
  (row.title, row.summary, row.priority, row.tags, row.dueAt)

def LocalIntakeMatterInput.content (input : LocalIntakeMatterInput) :
    String × String × Rat × List String × Option String :=
  (input.title, input.summary, input.priority, input.tags, input.dueAt)

def newMatter (input : LocalIntakeMatterInput) (instant : Timestamp) : MatterRow where
  matterId := matterIdOf client (sourceFingerprint client input)
  tenantId := client.tenantId
  userId := client.userId
  sourceFingerprint := sourceFingerprint client input
  status := .opened
  title := input.title
  summary := input.summary
  priority := input.priority
  tags := input.tags
  dueAt := input.dueAt
  createdAt := instant
  updatedAt := instant

def MatterRow.revise (input : LocalIntakeMatterInput) (instant : Timestamp) (row : MatterRow) : MatterRow :=
  { row with
    title := input.title
    summary := input.summary
    priority := input.priority
    tags := input.tags
    dueAt := input.dueAt
    updatedAt := instant }

theorem MatterRow.revise_matterId (input : LocalIntakeMatterInput) (instant : Timestamp) (row : MatterRow) :
    (row.revise input instant).matterId = row.matterId := rfl

/-- Insert the matter of a source, or update it when its content differs. No other row has the fingerprint of a matter that
is inserted, so only its id can be taken. -/
def writeMatter (input : LocalIntakeMatterInput) (instant : Timestamp) (existing : Option MatterRow)
    (matters : Table MatterRow.matterId) : Except String (Table MatterRow.matterId) :=
  match existing with
  | none =>
    match matters.insert? (newMatter client input instant) with
    | some inserted => .ok inserted
    | none => .error "UNIQUE constraint failed: local_matter.matter_id"
  | some row =>
    if row.content ≠ input.content then
      .ok (matters.update row.matterId (MatterRow.revise input instant) (MatterRow.revise_matterId input instant))
    else .ok matters

def newReceipt (input : LocalIntakeMatterInput) (matterId : String) (instant : Timestamp) : IntakeReceipt where
  tenantId := client.tenantId
  userId := client.userId
  idempotencyFingerprint := idempotencyFingerprint client input
  requestDigest := requestDigest client input
  matterId := matterId
  recordedAt := instant

def upsertIntakeMatter (input : LocalIntakeMatterInput) (now : Option Timestamp) (store : MatterStore) :
    Except String (IntakeResult × MatterStore) := do
  let instant ← checkInput client input now
  match store.receipts.find? (receiptKey client input) with
  | some prior => do
    throwIf (prior.requestDigest ≠ requestDigest client input) "intake idempotency key has different durable content"
    match ← intakeMatter client store input.tenantId input.userId prior.matterId with
    | none => .error "intake receipt lost its Matter"
    | some matter => .ok (⟨matter, false, false⟩, store)
  | none => do
    let existing := sourceMatter client store (sourceFingerprint client input)
    throwIf (existing.any fun row => row.status.isTerminal) "terminal Matter cannot be reopened implicitly"
    let changed := existing.all fun row => row.content ≠ input.content
    let matters ← writeMatter client input instant existing store.matters
    let selectedId := (existing.map (·.matterId)).getD (matterIdOf client (sourceFingerprint client input))
    match store.receipts.insert? (newReceipt client input selectedId instant) with
    | none => .error "UNIQUE constraint failed: local_matter_intake"
    | some receipts => do
      match ← intakeMatter client ⟨matters, receipts⟩ input.tenantId input.userId selectedId with
      | none => .error "intake Matter write was not readable"
      | some matter => .ok (⟨matter, existing.isNone, changed⟩, ⟨matters, receipts⟩)

end Requests

/-! ## Runs -/

inductive MatterCall where
  | upsert (input : LocalIntakeMatterInput) (now : Option Timestamp)
  /-- Something else sets the status of a matter. -/
  | setStatus (matterId : String) (status : MatterStatus)

def MatterRow.withStatus (status : MatterStatus) (row : MatterRow) : MatterRow :=
  { row with status }

theorem MatterRow.withStatus_matterId (status : MatterStatus) (row : MatterRow) :
    (row.withStatus status).matterId = row.matterId := rfl

def MatterStore.setStatus (matterId : String) (status : MatterStatus) (store : MatterStore) : MatterStore :=
  { store with matters := store.matters.update matterId (MatterRow.withStatus status) (MatterRow.withStatus_matterId status) }

/-- A request that throws is rolled back. -/
def committed (outcome : Except String (IntakeResult × MatterStore)) (store : MatterStore) :
    Option (Except String IntakeResult) × MatterStore :=
  match outcome with
  | .ok (result, written) => (some (.ok result), written)
  | .error message => (some (.error message), store)

def intakeMachine (client : EnrolledClient) : Machine MatterStore MatterCall (Option (Except String IntakeResult)) where
  initial := ⟨.empty, .empty⟩
  perform
    | .upsert input now, store => committed (upsertIntakeMatter client input now store) store
    | .setStatus matterId status, store => (none, store.setStatus matterId status)

/-! ## Requests -/

variable {row : MatterRow}

section Spec

variable {client : EnrolledClient} {input : LocalIntakeMatterInput} {now : Option Timestamp} {instant : Timestamp}
  {store after : MatterStore} {result : IntakeResult} {matterId : String} {found : Option LocalIntakeMatter}

/-- A request that passes the checks at any date. -/
structure Acceptable (client : EnrolledClient) (input : LocalIntakeMatterInput) : Prop where
  tenantId : input.tenantId = client.tenantId
  userId : input.userId = client.userId
  unmerged : input.existingMatterId = none
  valid : isInvalidInput client input = false

theorem Acceptable.ranked (acceptable : Acceptable client input) : input.priority ∈ [1, 3, 5] := by
  have valid := acceptable.valid
  simp only [isInvalidInput, Bool.or_eq_false_iff, decide_eq_false_iff_not, not_not] at valid
  exact valid.1.1.1.2

theorem checkInput_ok : checkInput client input now = .ok instant ↔ Acceptable client input ∧ now = some instant := by
  simp only [checkInput, bind_ok, throwIf_ok, exists_const, not_or, ne_eq, not_not]
  cases now with
  | none => simp
  | some given =>
    simp only [bind_ok, throwIf_ok, exists_const, Bool.not_eq_true, Except.ok.injEq, Option.some.injEq]
    constructor
    · rintro ⟨⟨tenantId, userId⟩, unmerged, valid, same⟩
      exact ⟨⟨tenantId, userId, unmerged, valid⟩, same⟩
    · rintro ⟨⟨tenantId, userId, unmerged, valid⟩, same⟩
      exact ⟨⟨tenantId, userId⟩, unmerged, valid, same⟩

/-- Every row is of the enrolled identity and named after its source, and every receipt is of a request for the source of
its matter. -/
structure Sound (client : EnrolledClient) (store : MatterStore) : Prop where
  owned : ∀ row ∈ store.matters, row.tenantId = client.tenantId ∧ row.userId = client.userId ∧ row.priority ∈ [1, 3, 5] ∧
    row.matterId = matterIdOf client row.sourceFingerprint
  linked : ∀ receipt ∈ store.receipts, (∃ row, store.matters.find? receipt.matterId = some row) ∧
    ∃ origin, Acceptable client origin ∧ receipt.requestDigest = requestDigest client origin ∧
      receipt.matterId = matterIdOf client (sourceFingerprint client origin)

theorem intakeMatter_ok (sound : Sound client store) :
    intakeMatter client store client.tenantId client.userId matterId = .ok found ↔
      found = (store.matters.find? matterId).map MatterRow.view := by
  cases there : store.matters.find? matterId with
  | none =>
    simp only [intakeMatter, there, bind_ok, throwIf_ok, Option.filter_none, Option.map_none, Except.ok.injEq]
    simp [eq_comm]
  | some row =>
    obtain ⟨tenantId, userId, ranked, -⟩ := sound.owned row (Table.find?_mem there)
    simp only [List.mem_cons, List.not_mem_nil, or_false] at ranked
    have own : (some row).filter (fun row : MatterRow => row.tenantId = client.tenantId ∧ row.userId = client.userId) =
        some row := by
      simp [Option.filter, tenantId, userId]
    simp only [intakeMatter, there, own, bind_ok, throwIf_ok, Option.map_some, Except.ok.injEq]
    simp [tenantId, userId, ranked, eq_comm]

theorem sourceMatter_some {fingerprint : String} (found : sourceMatter client store fingerprint = some row) :
    row ∈ store.matters ∧ row.sourceFingerprint = fingerprint := by
  rw [sourceMatter] at found
  have selected := List.find?_some found
  exact ⟨List.mem_of_find?_eq_some found, (of_decide_eq_true selected).2.2⟩

/-- What a request that is answered does: it repeats a request, or it writes a receipt and, when there is something new,
the matter of its source. -/
inductive IntakeStep (client : EnrolledClient) (input : LocalIntakeMatterInput) (instant : Timestamp)
    (store : MatterStore) : IntakeResult → MatterStore → Prop where
  | replayed {prior : IntakeReceipt} {row : MatterRow}
      (known : store.receipts.find? (receiptKey client input) = some prior)
      (same : prior.requestDigest = requestDigest client input)
      (there : store.matters.find? prior.matterId = some row) :
      IntakeStep client input instant store ⟨row.view, false, false⟩ store
  | inserted {matters : Table MatterRow.matterId} {receipts : Table IntakeReceipt.key}
      (unknown : store.receipts.find? (receiptKey client input) = none)
      (sourced : sourceMatter client store (sourceFingerprint client input) = none)
      (written : store.matters.insert? (newMatter client input instant) = some matters)
      (recorded : store.receipts.insert? (newReceipt client input
        (matterIdOf client (sourceFingerprint client input)) instant) = some receipts) :
      IntakeStep client input instant store ⟨(newMatter client input instant).view, true, true⟩ ⟨matters, receipts⟩
  | revised {row : MatterRow} {receipts : Table IntakeReceipt.key}
      (unknown : store.receipts.find? (receiptKey client input) = none)
      (sourced : sourceMatter client store (sourceFingerprint client input) = some row)
      (active : row.status.isTerminal = false) (differs : row.content ≠ input.content)
      (recorded : store.receipts.insert? (newReceipt client input row.matterId instant) = some receipts) :
      IntakeStep client input instant store ⟨(row.revise input instant).view, false, true⟩
        ⟨store.matters.update row.matterId (MatterRow.revise input instant) (MatterRow.revise_matterId input instant), receipts⟩
  | unchanged {row : MatterRow} {receipts : Table IntakeReceipt.key}
      (unknown : store.receipts.find? (receiptKey client input) = none)
      (sourced : sourceMatter client store (sourceFingerprint client input) = some row)
      (active : row.status.isTerminal = false) (same : row.content = input.content)
      (recorded : store.receipts.insert? (newReceipt client input row.matterId instant) = some receipts) :
      IntakeStep client input instant store ⟨row.view, false, false⟩ ⟨store.matters, receipts⟩

/-- The receipt of a request is for the matter of its source. -/
theorem Sound.receipt (sound : Sound client store) (acceptable : Acceptable client input)
    {receipts : Table IntakeReceipt.key} (named : matterId = matterIdOf client (sourceFingerprint client input))
    {matters : Table MatterRow.matterId} (kept : ∀ matterId row, store.matters.find? matterId = some row →
      ∃ later, matters.find? matterId = some later) (stored : ∃ row, matters.find? matterId = some row)
    (owned : ∀ row ∈ matters, row.tenantId = client.tenantId ∧ row.userId = client.userId ∧ row.priority ∈ [1, 3, 5] ∧
      row.matterId = matterIdOf client row.sourceFingerprint)
    (recorded : store.receipts.insert? (newReceipt client input matterId instant) = some receipts) :
    Sound client ⟨matters, receipts⟩ := by
  refine ⟨owned, fun receipt listed => ?_⟩
  rcases (Table.mem_insert recorded).mp listed with before | rfl
  · obtain ⟨⟨row, there⟩, origin⟩ := sound.linked receipt before
    exact ⟨kept _ row there, origin⟩
  · exact ⟨stored, input, acceptable, rfl, named⟩

theorem Sound.newMatter (acceptable : Acceptable client input) :
    (newMatter client input instant).tenantId = client.tenantId ∧
      (newMatter client input instant).userId = client.userId ∧ (newMatter client input instant).priority ∈ [1, 3, 5] ∧
        (newMatter client input instant).matterId =
          matterIdOf client (newMatter client input instant).sourceFingerprint :=
  ⟨rfl, rfl, acceptable.ranked, rfl⟩

theorem IntakeStep.sound (sound : Sound client store) (acceptable : Acceptable client input)
    (step : IntakeStep client input instant store result after) : Sound client after := by
  cases step with
  | replayed known same there => exact sound
  | inserted unknown sourced written recorded =>
    refine sound.receipt acceptable rfl (fun _ row there => ⟨row, Table.find?_kept written there⟩)
      ⟨_, Table.find?_new written⟩ (fun row listed => ?_) recorded
    rcases (Table.mem_insert written).mp listed with before | rfl
    · exact sound.owned row before
    · exact Sound.newMatter acceptable
  | revised unknown sourced active differs recorded =>
    obtain ⟨listed, fingerprint⟩ := sourceMatter_some sourced
    obtain ⟨tenantId, userId, -, named⟩ := sound.owned _ listed
    rename_i selected _
    have every : ∀ matterId row, store.matters.find? matterId = some row → ∃ later,
        (store.matters.update selected.matterId (MatterRow.revise input instant) (MatterRow.revise_matterId input instant)).find? matterId = some later := by
      intro matterId row there
      rw [Table.find?_update, there]
      split <;> exact ⟨_, rfl⟩
    refine sound.receipt acceptable (fingerprint ▸ named) every (every _ _ (Table.find?_self listed)) ?_ recorded
    intro row revised
    rcases Table.mem_update.mp revised with ⟨old, there, same, rfl⟩ | ⟨there, -⟩
    · obtain ⟨tenantId, userId, -, named⟩ := sound.owned old there
      exact ⟨tenantId, userId, acceptable.ranked, named⟩
    · exact sound.owned row there
  | unchanged unknown sourced active same recorded =>
    obtain ⟨listed, fingerprint⟩ := sourceMatter_some sourced
    obtain ⟨-, -, -, named⟩ := sound.owned _ listed
    exact sound.receipt acceptable (fingerprint ▸ named) (fun _ row there => ⟨row, there⟩)
      ⟨_, Table.find?_self listed⟩ sound.owned recorded

/-- A request that repeats a stored one is answered with the matter as it is. -/
theorem upsert_replayed (sound : Sound client store) (acceptable : Acceptable client input) {prior : IntakeReceipt}
    (known : store.receipts.find? (receiptKey client input) = some prior)
    (same : prior.requestDigest = requestDigest client input) (there : store.matters.find? prior.matterId = some row) :
    upsertIntakeMatter client input (some instant) store = .ok (⟨row.view, false, false⟩, store) := by
  refine bind_ok.mpr ⟨instant, checkInput_ok.mpr ⟨acceptable, rfl⟩, ?_⟩
  rw [known]
  refine bind_ok.mpr ⟨(), throwIf_ok.mpr (not_not.mpr same), bind_ok.mpr ⟨some row.view, ?_, rfl⟩⟩
  rw [acceptable.tenantId, acceptable.userId, intakeMatter_ok sound, there]
  rfl

/-- The matter that is read back is the row that is there. -/
theorem IntakeStep.read (sound : Sound client store) (acceptable : Acceptable client input) {other : IntakeResult}
    (step : IntakeStep client input instant store other after) (there : after.matters.find? matterId = some row)
    (read : intakeMatter client after client.tenantId client.userId matterId = .ok found) : found = some row.view := by
  rw [intakeMatter_ok (step.sound sound acceptable), there] at read
  exact read

/-- A request that is answered takes one of the steps. -/
theorem upsert_step (sound : Sound client store)
    (answered : upsertIntakeMatter client input now store = .ok (result, after)) :
    Acceptable client input ∧ ∃ instant, now = some instant ∧ IntakeStep client input instant store result after := by
  obtain ⟨instant, checked, taken⟩ := bind_ok.mp answered
  obtain ⟨acceptable, rfl⟩ := checkInput_ok.mp checked
  refine ⟨acceptable, instant, rfl, ?_⟩
  cases known : store.receipts.find? (receiptKey client input) with
  | some prior =>
    rw [known] at taken
    obtain ⟨_, same, later⟩ := bind_ok.mp taken
    obtain ⟨found, read, later⟩ := bind_ok.mp later
    rw [acceptable.tenantId, acceptable.userId, intakeMatter_ok sound] at read
    cases there : store.matters.find? prior.matterId with
    | none =>
      rw [there] at read
      cases read
      cases later
    | some row =>
      rw [there] at read
      cases read
      cases later
      exact .replayed known (not_not.mp (throwIf_ok.mp same)) there
  | none =>
    rw [known] at taken
    obtain ⟨_, active, later⟩ := bind_ok.mp taken
    obtain ⟨matters, written, later⟩ := bind_ok.mp later
    dsimp only at active written later
    cases recorded : store.receipts.insert? (newReceipt client input (((sourceMatter client store
      (sourceFingerprint client input)).map (·.matterId)).getD (matterIdOf client (sourceFingerprint client input)))
        instant) with
    | none =>
      rw [recorded] at later
      cases later
    | some receipts =>
      rw [recorded] at later
      obtain ⟨found, read, later⟩ := bind_ok.mp later
      rw [acceptable.tenantId, acceptable.userId] at read
      cases sourced : sourceMatter client store (sourceFingerprint client input) with
      | none =>
        rw [sourced] at written recorded read later
        rw [writeMatter] at written
        split at written
        · rename_i grown inserted
          cases written
          have step := IntakeStep.inserted known sourced inserted recorded
          obtain rfl := step.read sound acceptable (Table.find?_new inserted) read
          cases later
          exact step
        · cases written
      | some row =>
        rw [sourced] at active written recorded read later
        have listed := Table.find?_self (sourceMatter_some sourced).1
        have unfinished : row.status.isTerminal = false := by simpa using throwIf_ok.mp active
        rw [writeMatter] at written
        split at written
        · rename_i differs
          cases written
          have step := IntakeStep.revised known sourced unfinished differs recorded
          have there : (store.matters.update row.matterId (MatterRow.revise input instant)
              (MatterRow.revise_matterId input instant)).find? row.matterId = some (row.revise input instant) := by
            rw [Table.find?_update_self, listed, Option.map_some]
          obtain rfl := step.read sound acceptable there read
          have changed : (some row).all (fun row => decide (row.content ≠ input.content)) = true := decide_eq_true differs
          rw [changed] at later
          cases later
          exact step
        · rename_i same
          cases written
          have step := IntakeStep.unchanged known sourced unfinished (not_not.mp same) recorded
          obtain rfl := step.read sound acceptable listed read
          have changed : (some row).all (fun row => decide (row.content ≠ input.content)) = false := decide_eq_false same
          rw [changed] at later
          cases later
          exact step

end Spec

/-! ## Repeated requests -/

section Content

variable {client : EnrolledClient} {input other : LocalIntakeMatterInput}

theorem ranked_decimal {priority : Rat} (ranked : priority ∈ [1, 3, 5]) : IsDecimal priority := by
  simp only [List.mem_cons, List.not_mem_nil, or_false] at ranked
  rcases ranked with rfl | rfl | rfl <;> decide

theorem requestContent_json (acceptable : Acceptable client input) : (requestContent client input).IsJson := by
  refine ⟨trivial, trivial, trivial, ranked_decimal acceptable.ranked, JsValue.areJson_iff.mpr ?_, ?_, trivial⟩
  · intro item listed
    obtain ⟨tag, -, rfl⟩ := List.mem_map.mp listed
    exact trivial
  · cases input.dueAt <;> exact trivial

/-- Requests with one digest ask for the same. -/
theorem requestDigest_inj (collisionFree : Function.Injective client.sha256) (acceptable : Acceptable client input)
    (accepted : Acceptable client other) (same : requestDigest client input = requestDigest client other) :
    input.sourceId = other.sourceId ∧ input.content = other.content := by
  have texts := collisionFree same
  obtain ⟨text, written⟩ := (requestContent_json acceptable).written
  obtain ⟨text', written'⟩ := (requestContent_json accepted).written
  rw [written, written', Option.getD_some, Option.getD_some] at texts
  have read := (requestContent_json accepted).parse_stringify
  rw [written', ← texts, ← written, (requestContent_json acceptable).parse_stringify] at read
  have items := JsValue.array.inj (Option.some.inj read)
  simp only [List.cons.injEq, JsValue.string.injEq, JsValue.number.injEq, JsValue.array.injEq] at items
  obtain ⟨fingerprint, title, summary, priority, tags, dueAt, -⟩ := items
  have sameTags : input.tags = other.tags := List.map_injective_iff.mpr (fun _ _ => JsValue.string.inj) tags
  have sameDue : input.dueAt = other.dueAt := by
    cases first : input.dueAt with
    | none | some => cases second : other.dueAt <;> simp_all
  refine ⟨String.append_right_inj _ |>.mp (collisionFree fingerprint), ?_⟩
  rw [LocalIntakeMatterInput.content, LocalIntakeMatterInput.content, title, summary, priority, sameTags, sameDue]

theorem eq_of_digest (collisionFree : Function.Injective client.sha256) (acceptable : Acceptable client input)
    (accepted : Acceptable client other) (sameKey : input.idempotencyKey = other.idempotencyKey)
    (same : requestDigest client input = requestDigest client other) : input = other := by
  obtain ⟨source, content⟩ := requestDigest_inj collisionFree acceptable accepted same
  have tenantId := acceptable.tenantId.trans accepted.tenantId.symm
  have userId := acceptable.userId.trans accepted.userId.symm
  have unmerged := acceptable.unmerged.trans accepted.unmerged.symm
  cases input
  cases other
  simp only [LocalIntakeMatterInput.content, Prod.mk.injEq] at content
  simp_all

end Content

/-! ## What runs keep -/

section Runs

variable {client : EnrolledClient} {input : LocalIntakeMatterInput} {instant : Timestamp} {store after : MatterStore}
  {result : IntakeResult} {labels : List (MatterCall × Option (Except String IntakeResult))}

/-- A request that was answered: its receipt names the matter of its source. -/
structure Remembered (client : EnrolledClient) (store : MatterStore) (input : LocalIntakeMatterInput)
    (result : IntakeResult) : Prop where
  acceptable : Acceptable client input
  receipt : ∃ prior, store.receipts.find? (receiptKey client input) = some prior ∧
    prior.requestDigest = requestDigest client input ∧ prior.matterId = result.matter.matterId
  named : result.matter.matterId = matterIdOf client (sourceFingerprint client input)

theorem IntakeStep.receipts (step : IntakeStep client input instant store result after)
    {key : String × String × String} {receipt : IntakeReceipt} (there : store.receipts.find? key = some receipt) :
    after.receipts.find? key = some receipt := by
  cases step with
  | replayed known same found => exact there
  | inserted unknown sourced written recorded | revised unknown sourced active differs recorded
  | unchanged unknown sourced active same recorded => exact Table.find?_kept recorded there

theorem Remembered.kept (remembered : Remembered client store input result)
    (receipts : ∀ key receipt, store.receipts.find? key = some receipt → after.receipts.find? key = some receipt) :
    Remembered client after input result := by
  obtain ⟨prior, there, same, matter⟩ := remembered.receipt
  exact ⟨remembered.acceptable, ⟨prior, receipts _ _ there, same, matter⟩, remembered.named⟩

theorem IntakeStep.remembered (collisionFree : Function.Injective client.sha256) (sound : Sound client store)
    (acceptable : Acceptable client input) (step : IntakeStep client input instant store result after) :
    Remembered client after input result := by
  cases step with
  | replayed known same there =>
    obtain ⟨-, origin, accepted, digest, named⟩ := sound.linked _ (Table.find?_mem known)
    have source := (requestDigest_inj collisionFree accepted acceptable (digest.symm.trans same)).1
    have keyed := Table.find?_key there
    refine ⟨acceptable, ⟨_, known, same, keyed.symm⟩, keyed.trans (named.trans ?_)⟩
    rw [sourceFingerprint, sourceFingerprint, source]
  | inserted unknown sourced written recorded => exact ⟨acceptable, ⟨_, Table.find?_new recorded, rfl, rfl⟩, rfl⟩
  | revised unknown sourced active differs recorded | unchanged unknown sourced active same recorded =>
    obtain ⟨listed, fingerprint⟩ := sourceMatter_some sourced
    refine ⟨acceptable, ⟨_, Table.find?_new recorded, rfl, rfl⟩, ?_⟩
    rw [← fingerprint]
    exact (sound.owned _ listed).2.2.2

/-- The content of a stored matter. -/
def MatterStore.contentOf (store : MatterStore) (matterId : String) :
    Option (String × String × Rat × List String × Option String) :=
  (store.matters.find? matterId).map MatterRow.content

theorem IntakeStep.changed (step : IntakeStep client input instant store result after) :
    result.changed = true ↔ store.contentOf result.matter.matterId ≠ after.contentOf result.matter.matterId := by
  cases step with
  | replayed known same there => simp
  | @inserted matters receipts unknown sourced written recorded =>
    have before : store.contentOf (newMatter client input instant).matterId = none := by
      rw [MatterStore.contentOf, Table.find?_fresh written, Option.map_none]
    have later : MatterStore.contentOf ⟨matters, receipts⟩ (newMatter client input instant).matterId =
        some (newMatter client input instant).content := by
      rw [MatterStore.contentOf, Table.find?_new written, Option.map_some]
    change true = true ↔ store.contentOf (newMatter client input instant).matterId ≠
      MatterStore.contentOf ⟨matters, receipts⟩ (newMatter client input instant).matterId
    rw [before, later]
    simp
  | @revised row receipts unknown sourced active differs recorded =>
    have listed := Table.find?_self (sourceMatter_some sourced).1
    have before : store.contentOf row.matterId = some row.content := by
      rw [MatterStore.contentOf, listed, Option.map_some]
    have later : MatterStore.contentOf ⟨store.matters.update row.matterId (MatterRow.revise input instant)
        (MatterRow.revise_matterId input instant), receipts⟩ row.matterId = some input.content := by
      rw [MatterStore.contentOf, Table.find?_update_self, listed]
      rfl
    change true = true ↔ store.contentOf row.matterId ≠ MatterStore.contentOf ⟨_, receipts⟩ row.matterId
    rw [before, later]
    simp [differs]
  | unchanged unknown sourced active same recorded => simp [MatterStore.contentOf]

/-- A request leaves the matters that are terminal as they are. -/
theorem IntakeStep.terminal (step : IntakeStep client input instant store result after)
    (listed : row ∈ store.matters) (done : row.status.isTerminal = true) : row ∈ after.matters := by
  cases step with
  | replayed | unchanged => exact listed
  | inserted unknown sourced written recorded => exact (Table.mem_insert written).mpr (.inl listed)
  | @revised active receipts unknown sourced unfinished differs recorded =>
    have apart : row.matterId ≠ active.matterId := by
      intro same
      rw [Table.eq_of_key listed (sourceMatter_some sourced).1 same, unfinished] at done
      cases done
    have kept : row ∈ store.matters.update active.matterId (MatterRow.revise input instant)
        (MatterRow.revise_matterId input instant) := Table.mem_update.mpr (.inr ⟨listed, apart⟩)
    exact kept

/-- What the requests promise after a history. -/
structure IntakePromises (client : EnrolledClient)
    (labels : List (MatterCall × Option (Except String IntakeResult))) (store : MatterStore) : Prop where
  /-- A request that was answered before is answered with the matter it wrote, and changes nothing. -/
  repeated : ∀ input now result, (.upsert input now, some (.ok result)) ∈ labels → ∀ instant,
    ∃ row, store.matters.find? result.matter.matterId = some row ∧
      (intakeMachine client).perform (.upsert input (some instant)) store = (some (.ok ⟨row.view, false, false⟩), store)
  /-- Another request under the key of one that was answered throws, and changes nothing. -/
  conflicting : ∀ input now result, (.upsert input now, some (.ok result)) ∈ labels → ∀ other again,
    other.idempotencyKey = input.idempotencyKey → other ≠ input →
      ∃ message, (intakeMachine client).perform (.upsert other again) store = (some (.error message), store)
  /-- The requests for one source are answered with one matter. -/
  resolved : ∀ input now result other again another, (.upsert input now, some (.ok result)) ∈ labels →
    (.upsert other again, some (.ok another)) ∈ labels → input.sourceId = other.sourceId →
      result.matter.matterId = another.matter.matterId
  /-- No request changes a terminal matter. -/
  terminal : ∀ row ∈ store.matters, row.status.isTerminal = true → ∀ input now,
    row ∈ ((intakeMachine client).perform (.upsert input now) store).2.matters
  /-- An answer has `changed` exactly when the content of the matter differs afterwards. -/
  changed : ∀ input now result after,
    (intakeMachine client).perform (.upsert input now) store = (some (.ok result), after) →
      (result.changed = true ↔ store.contentOf result.matter.matterId ≠ after.contentOf result.matter.matterId)

/-- The store is sound and remembers every request that was answered. -/
structure Recalls (client : EnrolledClient) (labels : List (MatterCall × Option (Except String IntakeResult)))
    (store : MatterStore) : Prop where
  sound : Sound client store
  remembers : ∀ input now result, (.upsert input now, some (.ok result)) ∈ labels → Remembered client store input result

theorem Sound.setStatus (sound : Sound client store) (matterId : String) (status : MatterStatus) :
    Sound client (store.setStatus matterId status) := by
  refine ⟨fun row listed => ?_, fun receipt listed => ?_⟩
  · have updated : row ∈ store.matters.update matterId (MatterRow.withStatus status)
        (MatterRow.withStatus_matterId status) := listed
    rcases Table.mem_update.mp updated with ⟨old, there, -, rfl⟩ | ⟨there, -⟩
    · exact sound.owned old there
    · exact sound.owned row there
  · obtain ⟨⟨row, there⟩, origin⟩ := sound.linked receipt listed
    refine ⟨?_, origin⟩
    rw [MatterStore.setStatus, Table.find?_update, there]
    split <;> exact ⟨_, rfl⟩

theorem upsert_error {message : String} {now : Option Timestamp}
    (refused : upsertIntakeMatter client input now store = .error message) :
    (intakeMachine client).perform (.upsert input now) store = (some (.error message), store) := by
  change committed (upsertIntakeMatter client input now store) store = _
  rw [refused]
  rfl

theorem upsert_ok {now : Option Timestamp} (answered : upsertIntakeMatter client input now store = .ok (result, after)) :
    (intakeMachine client).perform (.upsert input now) store = (some (.ok result), after) := by
  change committed (upsertIntakeMatter client input now store) store = _
  rw [answered]
  rfl

theorem Recalls.step {call : MatterCall}
    {reply : Option (Except String IntakeResult)} (collisionFree : Function.Injective client.sha256)
    (recalls : Recalls client labels store) (performed : (intakeMachine client).perform call store = (reply, after)) :
    Recalls client (labels ++ [(call, reply)]) after := by
  -- What was answered before is remembered when the receipts are kept; only an answer is new.
  have extend (sound : Sound client after)
      (receipts : ∀ key receipt, store.receipts.find? key = some receipt → after.receipts.find? key = some receipt)
      (answered : ∀ input now result, (call, reply) = (.upsert input now, some (.ok result)) →
        Remembered client after input result) : Recalls client (labels ++ [(call, reply)]) after := by
    refine ⟨sound, fun input now result listed => ?_⟩
    rcases List.mem_append.mp listed with before | last
    · exact (recalls.remembers input now result before).kept receipts
    · exact answered input now result (List.mem_singleton.mp last).symm
  cases call with
  | setStatus matterId status =>
    obtain ⟨rfl, rfl⟩ := Prod.mk.inj performed
    refine extend (recalls.sound.setStatus matterId status) (fun _ _ there => there) ?_
    rintro input now result same
    cases (Prod.mk.inj same).1
  | upsert input now =>
    cases answered : upsertIntakeMatter client input now store with
    | error message =>
      obtain ⟨rfl, rfl⟩ := Prod.mk.inj ((upsert_error answered).symm.trans performed)
      refine extend recalls.sound (fun _ _ there => there) ?_
      rintro input now result same
      cases (Prod.mk.inj same).2
    | ok written =>
      obtain ⟨rfl, rfl⟩ := Prod.mk.inj ((upsert_ok answered).symm.trans performed)
      obtain ⟨acceptable, instant, -, step⟩ := upsert_step recalls.sound answered
      refine extend (step.sound recalls.sound acceptable) (fun _ _ => step.receipts) ?_
      rintro _ _ result same
      obtain ⟨calls, replies⟩ := Prod.mk.inj same
      obtain ⟨rfl, rfl⟩ := MatterCall.upsert.inj calls
      obtain rfl := Except.ok.inj (Option.some.inj replies)
      exact step.remembered collisionFree recalls.sound acceptable

theorem run_recalls
    (collisionFree : Function.Injective client.sha256) (run : (intakeMachine client).system.Run labels store) :
    Recalls client labels store := by
  refine run.history ?_ ?_
  · rintro _ rfl
    exact ⟨⟨fun row listed => absurd listed (Table.not_mem_empty row),
      fun receipt listed => absurd listed (Table.not_mem_empty receipt)⟩, fun _ _ _ listed => absurd listed List.not_mem_nil⟩
  · rintro labels ⟨call, reply⟩ before after _ recalls performed
    exact recalls.step collisionFree performed

end Runs

/-! ## A matter that is revised and completed -/

def enrolledClient : EnrolledClient where
  tenantId := "test.alpha"
  userId := "user.owner"
  parse := fun _ => none
  sha256 := tabled []

theorem enrolledClient_injective : Function.Injective enrolledClient.sha256 := by
  change Function.Injective (tabled [])
  exact tabled_injective (by decide) (by decide)

def intakeRequest (key summary : String) : LocalIntakeMatterInput where
  tenantId := "test.alpha"
  userId := "user.owner"
  sourceId := "om_1"
  idempotencyKey := key
  title := "Task"
  summary := summary
  priority := 3
  tags := ["product"]
  dueAt := none
  existingMatterId := none

def completedMatterId : String :=
  matterIdOf enrolledClient (sourceFingerprint enrolledClient (intakeRequest "first" "Noted"))

def intakeCalls : List MatterCall :=
  [.upsert (intakeRequest "first" "Noted") (some 0), .upsert (intakeRequest "second" "Revised") (some 1000),
    .setStatus completedMatterId .completed, .upsert (intakeRequest "first" "Noted") (some 2000),
    .upsert (intakeRequest "third" "Reopened") (some 3000)]

end QuarkSelfAI.ClientRuntime

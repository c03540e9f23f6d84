import QuarkSelfAI.CapabilityPlatform.Envelope

/-!
# Verification of signed plans

`verifySignedExecutionPlan` and what the signature of a plan covers: the payload of
the envelope, and nothing of the plan around it.
-/

namespace QuarkSelfAI.ClientRuntime

open Foundation CapabilityPlatform

/-- What the verification of plans asks its host. -/
structure PlanHost where
  /-- `Date.parse`. -/
  parse : String → Option Timestamp
  /-- The hexadecimal SHA-256 digest of a text. -/
  sha256 : String → String
  /-- `verifier.verify` of a key, a payload digest and a signature. -/
  verify : String → String → String → Bool

variable (host : PlanHost) {name : String} {envelope : Members}

/-- The client's identifiers have one segment. -/
def planIdPattern (text : String) : Bool := isSegment text.toList

def validTime (value : JsValue) (label : String) : Except String Timestamp :=
  match host.parse value.toText with
  | some time => .ok time
  | none => .error s!"{label} must be an ISO timestamp"

theorem validTime_ok {value : JsValue} {label : String} {time : Timestamp} :
    validTime host value label = .ok time ↔ host.parse value.toText = some time := by
  unfold validTime
  cases host.parse value.toText <;> simp

def verifySignedExecutionPlan (value : JsValue) (now : Timestamp) : Except String JsValue := do
  throwIf (value.get "schemaVersion" ≠ .number 1 ∨ value.get "algorithm" ≠ .string "ed25519")
    "signed plan contract is unsupported"
  throwIf (planIdPattern (value.get "planId").toText = false) "signed plan id is invalid"
  throwIf (digestPattern (value.get "payloadDigest").toText = false)
    "signed plan payload digest is invalid"
  let issuedAt ← validTime host (value.get "issuedAt") "signed plan issuedAt"
  let expiresAt ← validTime host (value.get "expiresAt") "signed plan expiresAt"
  throwIf (now < issuedAt ∨ expiresAt ≤ now) "signed plan is not currently valid"
  let envelope ← validateExecutionEnvelope host.parse (value.get "envelope")
  let payloadDigest ← executionEnvelopePayloadDigest host.parse host.sha256 (.object envelope)
  let plan := member envelope "plan"
  throwIf (.string payloadDigest ≠ value.get "payloadDigest" ∨ plan.get "digest" ≠ value.get "payloadDigest")
    "signed plan payload digest does not match its envelope"
  throwIf (plan.get "keyId" ≠ value.get "keyId" ∨ plan.get "signature" ≠ value.get "signature")
    "signed plan metadata does not match its envelope"
  throwIf (host.verify (value.get "keyId").toText payloadDigest (value.get "signature").toText = false)
    "signed plan signature is invalid"
  .ok value

/-- The time in which a plan can be used. -/
def IsCurrent (value : JsValue) (now : Timestamp) : Prop :=
  ∃ issuedAt expiresAt, host.parse (value.get "issuedAt").toText = some issuedAt ∧
    host.parse (value.get "expiresAt").toText = some expiresAt ∧ issuedAt ≤ now ∧ now < expiresAt

/-- What verification asks of a plan whatever the time is. -/
structure IsSigned (value : JsValue) (envelope : Members) (payloadDigest keyId signature : String) : Prop where
  schemaVersion : value.get "schemaVersion" = .number 1
  algorithm : value.get "algorithm" = .string "ed25519"
  planId : planIdPattern (value.get "planId").toText = true
  isDigest : digestPattern payloadDigest = true
  isEnvelope : value.get "envelope" = .object envelope
  known : KnownKeys envelope envelopeNames
  payload : IsPayload host.parse envelope
  digested : contentDigest host.sha256 (.object (withoutPlan envelope)) = .ok payloadDigest
  digest : value.get "payloadDigest" = .string payloadDigest
  key : value.get "keyId" = .string keyId
  signs : value.get "signature" = .string signature
  plan : IsPlan (member envelope "plan")
  planDigest : (member envelope "plan").get "digest" = .string payloadDigest
  planKey : (member envelope "plan").get "keyId" = .string keyId
  planSignature : (member envelope "plan").get "signature" = .string signature
  verified : host.verify keyId payloadDigest signature = true

/-- A plan is accepted exactly when it is signed and current. -/
theorem verifySignedExecutionPlan_ok {value result : JsValue} {now : Timestamp} :
    verifySignedExecutionPlan host value now = .ok result ↔ result = value ∧ IsCurrent host value now ∧
      ∃ envelope payloadDigest keyId signature, IsSigned host value envelope payloadDigest keyId signature := by
  simp only [verifySignedExecutionPlan, executionEnvelopePayloadDigest, bind_ok, throwIf_ok, exists_const,
    validTime_ok, validateExecutionEnvelope_ok, not_or, not_lt, not_le, ne_eq, not_not,
    Bool.not_eq_false, Except.ok.injEq]
  constructor
  · rintro ⟨⟨schemaVersion, algorithm⟩, planId, isDigest, issuedAt, issued, expiresAt, expires,
      ⟨started, unexpired⟩, envelope, ⟨isEnvelope, known, payload, plan⟩, payloadDigest,
      ⟨_, ⟨same, _⟩, digested⟩, ⟨digest, planDigest⟩, ⟨planKey, planSignature⟩, verified, rfl⟩
    obtain rfl : envelope = _ := JsValue.object.inj same
    obtain ⟨members, isPlan, _, ⟨signature, signs, _⟩, keyId, key, _⟩ := plan
    have plans : member envelope "plan" = .object members := isPlan
    have keys : (member envelope "plan").get "keyId" = .string keyId := by rw [plans]; exact key
    have signatures : (member envelope "plan").get "signature" = .string signature := by
      rw [plans]; exact signs
    rw [keys] at planKey
    rw [signatures] at planSignature
    rw [← digest] at planDigest isDigest
    rw [← planKey, ← planSignature] at verified
    refine ⟨rfl, ⟨issuedAt, expiresAt, issued, expires, started, unexpired⟩, envelope, payloadDigest,
      keyId, signature, ?_⟩
    exact {
      schemaVersion, algorithm, planId, isDigest, isEnvelope, known, payload, digested
      digest := digest.symm
      key := planKey.symm
      signs := planSignature.symm
      plan := ⟨members, isPlan, ‹_›, ⟨signature, signs, ‹_›⟩, keyId, key, ‹_›⟩
      planDigest
      planKey := keys
      planSignature := signatures
      verified }
  · rintro ⟨rfl, ⟨issuedAt, expiresAt, issued, expires, started, unexpired⟩, envelope, payloadDigest,
      keyId, signature, accepted⟩
    refine ⟨⟨accepted.schemaVersion, accepted.algorithm⟩, accepted.planId, ?_, issuedAt, issued,
      expiresAt, expires, ⟨started, unexpired⟩, envelope,
      ⟨accepted.isEnvelope, accepted.known, accepted.payload, accepted.plan⟩, payloadDigest,
      ⟨envelope, ⟨rfl, accepted.known, accepted.payload, accepted.plan⟩, accepted.digested⟩,
      ⟨accepted.digest.symm, accepted.planDigest.trans accepted.digest.symm⟩,
      ⟨accepted.planKey.trans accepted.key.symm, accepted.planSignature.trans accepted.signs.symm⟩, ?_,
      rfl⟩
    · rw [accepted.digest]
      exact accepted.isDigest
    · rw [accepted.key, accepted.signs]
      exact accepted.verified

/-- A plan with a valid envelope is accepted when its digest is that of the payload. -/
theorem verify_of_valid {value : JsValue} {now : Timestamp} {text d k s : String} (current : IsCurrent host value now)
    (valid : validateExecutionEnvelope host.parse (value.get "envelope") = .ok envelope)
    (written : canonicalJson (.object (withoutPlan envelope)) = .ok text) (digested : "sha256:" ++ host.sha256 text = d)
    (checked : planIdPattern (value.get "planId").toText = true ∧ digestPattern d = true ∧ host.verify k d s = true)
    (given : (["schemaVersion", "algorithm", "payloadDigest", "keyId", "signature"].map value.get, member envelope "plan") =
      ([.number 1, .string "ed25519", .string d, .string k, .string s],
        .object [("digest", .string d), ("signature", .string s), ("keyId", .string k)])) :
    verifySignedExecutionPlan host value now = .ok value := by
  obtain ⟨isEnvelope, known, payload, plan⟩ := (validateExecutionEnvelope_ok host.parse).mp valid
  obtain ⟨planId, isDigest, verified⟩ := checked
  simp only [List.map_cons, List.map_nil, Prod.mk.injEq, List.cons.injEq, and_true] at given
  obtain ⟨⟨schemaVersion, algorithm, digest, key, signs⟩, planned⟩ := given
  have planDigest : (member envelope "plan").get "digest" = .string d := congrArg (JsValue.get · "digest") planned
  have planKey : (member envelope "plan").get "keyId" = .string k := congrArg (JsValue.get · "keyId") planned
  have planSignature : (member envelope "plan").get "signature" = .string s :=
    congrArg (JsValue.get · "signature") planned
  exact (verifySignedExecutionPlan_ok host).mpr ⟨rfl, current, envelope, d, k, s, {
    schemaVersion, algorithm, planId, isDigest, isEnvelope, known, payload, digest, key, signs, plan, planDigest, planKey,
    planSignature, verified
    digested := contentDigest_ok.mpr ⟨text, written, digested.symm⟩ }⟩

/-- Nothing but the current time depends on the times of a plan. -/
theorem IsSigned.congr {host : PlanHost} {first second : JsValue} {payloadDigest keyId signature : String}
    (agree : ∀ name, name ≠ "issuedAt" → name ≠ "expiresAt" → first.get name = second.get name)
    (signed : IsSigned host first envelope payloadDigest keyId signature) :
    IsSigned host second envelope payloadDigest keyId signature :=
  { signed with
    schemaVersion := (agree _ (by decide) (by decide)).symm.trans signed.schemaVersion
    algorithm := (agree _ (by decide) (by decide)).symm.trans signed.algorithm
    planId := by
      rw [← agree "planId" (by decide) (by decide)]
      exact signed.planId
    isEnvelope := (agree _ (by decide) (by decide)).symm.trans signed.isEnvelope
    digest := (agree _ (by decide) (by decide)).symm.trans signed.digest
    key := (agree _ (by decide) (by decide)).symm.trans signed.key
    signs := (agree _ (by decide) (by decide)).symm.trans signed.signs }

/-! ## What a signature covers -/

theorem eq_object_of_get {value : JsValue} (present : value.get name ≠ .undefined) : value = .object value.members := by
  cases value with
  | object members => rfl
  | _ => exact absurd rfl present

theorem lookup_of_get {value found : JsValue} (read : value.get name = found)
    (present : found ≠ .undefined) : value.members.lookup name = some found := by
  cases value with
  | object members =>
    simp only [JsValue.get, JsValue.members] at read ⊢
    cases stored : members.lookup name with
    | none =>
      rw [stored] at read
      exact absurd read.symm present
    | some other =>
      rw [stored] at read
      exact congrArg some read
  | _ => exact absurd read.symm present

theorem lookup_withoutPlan (other : name ≠ "plan") : (withoutPlan envelope).lookup name = envelope.lookup name := by
  induction envelope with
  | nil => rfl
  | cons entry rest ih =>
    obtain ⟨key, value⟩ := entry
    by_cases dropped : key = "plan"
    · have elsewhere : name ≠ key := by
        rw [dropped]
        exact other
      rw [lookup_member, if_neg elsewhere, ← ih]
      simp [withoutPlan, dropped]
    · have kept : withoutPlan ((key, value) :: rest) = (key, value) :: withoutPlan rest := by
        simp [withoutPlan, dropped]
      rw [kept, lookup_member, lookup_member, ih]

theorem distinct_withoutPlan (distinct : JsValue.Distinct envelope) : JsValue.Distinct (withoutPlan envelope) :=
  distinct.sublist (List.filter_sublist.map Prod.fst)

/-- The plan metadata inside the envelope of a plan. -/
def metadata (value : JsValue) : Members := ((value.get "envelope").get "plan").members

/-- An object has every name once; three objects of a plan matter here. -/
structure NamesDistinct (value : JsValue) : Prop where
  around : JsValue.Distinct value.members
  envelope : JsValue.Distinct (value.get "envelope").members
  metadata : JsValue.Distinct (metadata value)

/-- The text whose digest is signed. -/
def payloadText (value : JsValue) : Except String String :=
  canonicalJson (.object (withoutPlan (value.get "envelope").members))

/-- Names of a plan that are fixed, compared, or digested. -/
def coveredNames : List String := ["schemaVersion", "algorithm", "keyId", "signature", "payloadDigest", "envelope"]

/-- Names of the plan metadata that are compared with the plan. -/
def comparedNames : List String := ["digest", "signature", "keyId"]

/-- Two plans agree on what no signature covers: their `planId`, `issuedAt` and `expiresAt`,
and whatever else stands beside them or in the plan metadata. -/
structure AgreeUncovered (first second : JsValue) : Prop where
  around : ∀ name ∉ coveredNames, Option.Rel JsValue.Equal (first.members.lookup name) (second.members.lookup name)
  metadata : ∀ name ∉ comparedNames,
    Option.Rel JsValue.Equal ((metadata first).lookup name) ((metadata second).lookup name)

theorem rel_of_get {first second found : JsValue} (read : first.get name = found)
    (reads : second.get name = found) (present : found ≠ .undefined) :
    Option.Rel JsValue.Equal (first.members.lookup name) (second.members.lookup name) := by
  rw [lookup_of_get read present, lookup_of_get reads present]
  exact .some (.refl found)

/-- Payloads with one digest are equal. -/
theorem payloads_equal {host : PlanHost} {left right : Members} {digest : String}
    (one : contentDigest host.sha256 (.object (withoutPlan left)) = .ok digest)
    (other : contentDigest host.sha256 (.object (withoutPlan right)) = .ok digest)
    (collisionFree : ∀ written writes, canonicalJson (.object (withoutPlan left)) = .ok written →
      canonicalJson (.object (withoutPlan right)) = .ok writes →
      host.sha256 written = host.sha256 writes → written = writes) :
    JsValue.Equal (.object (withoutPlan left)) (.object (withoutPlan right)) := by
  obtain ⟨written, canonical, rfl⟩ := contentDigest_ok.mp one
  obtain ⟨writes, normal, same⟩ := contentDigest_ok.mp other
  have digests : host.sha256 written = host.sha256 writes := by
    have texts := congrArg String.toList same
    rw [String.toList_append, String.toList_append] at texts
    exact String.toList_inj.mp (List.append_cancel_left texts)
  obtain rfl := collisionFree written writes canonical normal digests
  exact canonicalJson_inj canonical normal

/-- Of two accepted plans with one signature, the signature makes everything equal but
what it does not cover. -/
theorem verified_equal_iff {first second : JsValue} {now later : Timestamp}
    (accepted : verifySignedExecutionPlan host first now = .ok first)
    (accepts : verifySignedExecutionPlan host second later = .ok second)
    (firstNames : NamesDistinct first) (secondNames : NamesDistinct second)
    (sameKey : first.get "keyId" = second.get "keyId") (sameSignature : first.get "signature" = second.get "signature")
    (unforged : ∀ keyId signature digest other, host.verify keyId digest signature = true →
      host.verify keyId other signature = true → digest = other)
    (collisionFree : ∀ written writes, payloadText first = .ok written →
      payloadText second = .ok writes → host.sha256 written = host.sha256 writes → written = writes) :
    JsValue.Equal first second ↔ AgreeUncovered first second := by
  obtain ⟨_, _, envelope, digest, keyId, signature, signed⟩ := (verifySignedExecutionPlan_ok host).mp accepted
  obtain ⟨_, _, envelope', digest', keyId', signature', signed'⟩ := (verifySignedExecutionPlan_ok host).mp accepts
  obtain rfl : keyId = keyId' := JsValue.string.inj (signed.key.symm.trans (sameKey.trans signed'.key))
  obtain rfl : signature = signature' :=
    JsValue.string.inj (signed.signs.symm.trans (sameSignature.trans signed'.signs))
  obtain rfl : digest = digest' := unforged keyId signature digest digest' signed.verified signed'.verified
  -- The two plans and their envelopes are objects with distinct names.
  have isFirst : first = .object first.members := eq_object_of_get (by rw [signed.schemaVersion]; nofun)
  have isSecond : second = .object second.members := eq_object_of_get (by rw [signed'.schemaVersion]; nofun)
  have firstEnvelope : JsValue.Distinct envelope := by
    have distinct := firstNames.envelope
    rwa [signed.isEnvelope] at distinct
  have secondEnvelope : JsValue.Distinct envelope' := by
    have distinct := secondNames.envelope
    rwa [signed'.isEnvelope] at distinct
  have firstPlan : metadata first = (member envelope "plan").members := by
    rw [metadata, signed.isEnvelope]
    rfl
  have secondPlan : metadata second = (member envelope' "plan").members := by
    rw [metadata, signed'.isEnvelope]
    rfl
  have isPlan : member envelope "plan" = .object (metadata first) := by
    rw [firstPlan]
    exact eq_object_of_get (by rw [signed.planKey]; nofun)
  have isPlan' : member envelope' "plan" = .object (metadata second) := by
    rw [secondPlan]
    exact eq_object_of_get (by rw [signed'.planKey]; nofun)
  have lookupPlan : envelope.lookup "plan" = some (.object (metadata first)) :=
    @lookup_of_get _ (.object envelope) _ isPlan nofun
  have lookupPlan' : envelope'.lookup "plan" = some (.object (metadata second)) :=
    @lookup_of_get _ (.object envelope') _ isPlan' nofun
  have payloads := payloads_equal signed.digested signed'.digested fun written writes one other =>
    collisionFree written writes (by rw [payloadText, signed.isEnvelope]; exact one)
      (by rw [payloadText, signed'.isEnvelope]; exact other)
  rw [JsValue.equal_object_iff (distinct_withoutPlan firstEnvelope)
    (distinct_withoutPlan secondEnvelope)] at payloads
  -- So the envelopes are equal exactly when the plan metadata is.
  have envelopes : JsValue.Equal (.object envelope) (.object envelope') ↔
      ∀ name ∉ comparedNames, Option.Rel JsValue.Equal ((metadata first).lookup name)
        ((metadata second).lookup name) := by
    rw [JsValue.equal_object_iff firstEnvelope secondEnvelope]
    constructor
    · intro agree name _
      have plans := agree "plan"
      rw [lookupPlan, lookupPlan'] at plans
      cases plans with
      | some equal => exact (JsValue.equal_object_iff firstNames.metadata secondNames.metadata).mp equal name
    · intro agree name
      by_cases planned : name = "plan"
      · rw [planned, lookupPlan, lookupPlan']
        refine .some ((JsValue.equal_object_iff firstNames.metadata secondNames.metadata).mpr ?_)
        intro field
        by_cases compared : field ∈ comparedNames
        · rw [firstPlan, secondPlan]
          rcases List.mem_cons.mp compared with rfl | compared
          · exact rel_of_get signed.planDigest signed'.planDigest nofun
          · rcases List.mem_cons.mp compared with rfl | compared
            · exact rel_of_get signed.planSignature signed'.planSignature nofun
            · rw [List.mem_singleton.mp compared]
              exact rel_of_get signed.planKey signed'.planKey nofun
        · exact agree field compared
      · have rest := payloads name
        rwa [lookup_withoutPlan planned, lookup_withoutPlan planned] at rest
  have inFirst : first.members.lookup "envelope" = some (.object envelope) := lookup_of_get signed.isEnvelope nofun
  have inSecond : second.members.lookup "envelope" = some (.object envelope') := lookup_of_get signed'.isEnvelope nofun
  constructor
  · intro equal
    rw [isFirst, isSecond, JsValue.equal_object_iff firstNames.around secondNames.around] at equal
    have inside := equal "envelope"
    rw [inFirst, inSecond] at inside
    cases inside with
    | some same => exact ⟨fun name _ => equal name, envelopes.mp same⟩
  · intro agree
    rw [isFirst, isSecond, JsValue.equal_object_iff firstNames.around secondNames.around]
    intro name
    by_cases covered : name ∈ coveredNames
    · rcases List.mem_cons.mp covered with rfl | covered
      · exact rel_of_get signed.schemaVersion signed'.schemaVersion nofun
      · rcases List.mem_cons.mp covered with rfl | covered
        · exact rel_of_get signed.algorithm signed'.algorithm nofun
        · rcases List.mem_cons.mp covered with rfl | covered
          · exact rel_of_get signed.key signed'.key nofun
          · rcases List.mem_cons.mp covered with rfl | covered
            · exact rel_of_get signed.signs signed'.signs nofun
            · rcases List.mem_cons.mp covered with rfl | covered
              · exact rel_of_get signed.digest signed'.digest nofun
              · rw [List.mem_singleton.mp covered, inFirst, inSecond]
                exact .some (envelopes.mpr agree.metadata)
    · exact agree.around name covered

/-! ## A signed plan -/

def sampleDigest : String := "sha256:dfd8e56cb2e79d28f087cc9fde4f36012e0f5cec139b0f5027903ad5915e4349"

def sampleSignature : String := "signed:sha256:dfd8e56cb2e79d28f087cc9fde4f36012e0f5cec139b0f5027903ad5915e4349"

def sampleBlueprint : JsValue :=
  .object [("id", .string "agent.demo"), ("version", .string "1.0.0"),
    ("digest", .string "sha256:aaaaaaaaaaaaaaaaaaaaaaaaaaaaaaaaaaaaaaaaaaaaaaaaaaaaaaaaaaaaaaaa")]

def sampleProgram : JsValue :=
  .object [("role", .string "worker"), ("goals", .array [.string "Complete the fixture"]),
    ("graph", .object [("nodes", .array []), ("edges", .array [])]),
    ("modelPolicy", .object [("allowed", .array [.string "provider-neutral"]), ("preferred", .null)])]

def samplePayload : Members :=
  [("schemaVersion", .number 1), ("tenantId", .string "test.alpha"), ("userId", .string "user.owner"),
    ("deviceId", .string "device.owner"), ("agentId", .string "agent.demo"), ("runId", .string "run.one"),
    ("actionId", .string "action.one"), ("blueprint", sampleBlueprint), ("program", sampleProgram),
    ("capabilities", .array []), ("context", .array []), ("workspaceGrants", .array []),
    ("approvalGrants", .array []), ("idempotencyKey", .string "run.one/action.one"),
    ("deadline", .string "2026-09-06T01:00:00.000Z"),
    ("budget", .object [("tokens", .number 1), ("durationMs", .number 1000), ("costMinorUnits", .number 0)]),
    ("dataClasses", .array [.string "public"]), ("allowedEffects", .array []),
    ("executorRequirement", .object [("protocolVersions", .array [.string "envelope.v1"]),
      ("capabilities", .array []), ("allowedExecutors", .array [.string "executor-a"]),
      ("preferredExecutors", .array [.string "executor-a"])]),
    ("continuity", .object [("sessionId", .null), ("continuationToken", .null),
      ("fallbackAllowed", .bool true), ("midActionSwitchAllowed", .bool false)])]

/-- The canonical text of the payload. -/
def sampleText : String := (canonicalJson (.object samplePayload)).toOption.getD ""

/-- The signer and the clock texts of a small plan; the digest is that of its payload. -/
def sampleHost : PlanHost where
  parse text := [("2026-09-06T00:00:00.000Z", 1788652800000), ("2026-09-06T01:00:00.000Z", 1788656400000),
    ("2036-09-06T01:00:00.000Z", 2104189200000)].lookup text
  sha256 := tabled [(sampleText, "dfd8e56cb2e79d28f087cc9fde4f36012e0f5cec139b0f5027903ad5915e4349")]
  verify keyId digest signature := keyId = "test-key" ∧ signature = "signed:" ++ digest

def sampleEnvelope : Members :=
  samplePayload ++ [("plan", .object [("digest", .string sampleDigest),
    ("signature", .string sampleSignature), ("keyId", .string "test-key")])]

/-- The plan with the end of its time as given. -/
def samplePlan (expiresAt : String) : JsValue :=
  .object [("schemaVersion", .number 1), ("planId", .string "plan.one"),
    ("issuedAt", .string "2026-09-06T00:00:00.000Z"), ("expiresAt", .string expiresAt),
    ("keyId", .string "test-key"), ("algorithm", .string "ed25519"),
    ("payloadDigest", .string sampleDigest), ("signature", .string sampleSignature),
    ("envelope", .object sampleEnvelope)]

theorem sampleEnvelope_valid : validateExecutionEnvelope sampleHost.parse (.object sampleEnvelope) = .ok sampleEnvelope := by
  decide +kernel

theorem samplePlan_verified : verifySignedExecutionPlan sampleHost
    (samplePlan "2026-09-06T01:00:00.000Z") 1788652800000 = .ok (samplePlan "2026-09-06T01:00:00.000Z") := by
  have written : canonicalJson (.object (withoutPlan sampleEnvelope)) = .ok sampleText := by
    have plain : withoutPlan sampleEnvelope = samplePayload := rfl
    rw [plain]
    exact ok_of_isSome (by decide +kernel)
  have digested : "sha256:" ++ sampleHost.sha256 sampleText = sampleDigest := by
    simp only [sampleHost, tabled_head]
    decide +kernel
  exact verify_of_valid sampleHost ⟨1788652800000, 1788656400000, rfl, rfl, le_rfl, by decide⟩ sampleEnvelope_valid
    written digested (by decide +kernel) rfl

/-- The plan is accepted until its time ends, whenever that is. -/
theorem samplePlan_accepted {expiresAt : String} {ends now : Timestamp}
    (read : sampleHost.parse expiresAt = some ends) (started : 1788652800000 ≤ now) (later : now < ends) :
    verifySignedExecutionPlan sampleHost (samplePlan expiresAt) now = .ok (samplePlan expiresAt) := by
  obtain ⟨_, _, envelope, payloadDigest, keyId, signature, signed⟩ :=
    (verifySignedExecutionPlan_ok sampleHost).mp samplePlan_verified
  have agree : ∀ name, name ≠ "issuedAt" → name ≠ "expiresAt" →
      (samplePlan "2026-09-06T01:00:00.000Z").get name = (samplePlan expiresAt).get name := by
    intro name _ elsewhere
    simp only [samplePlan, JsValue.get, lookup_member, if_neg elsewhere]
  exact (verifySignedExecutionPlan_ok sampleHost).mpr ⟨rfl, ⟨1788652800000, ends, rfl, read, started, later⟩,
    envelope, payloadDigest, keyId, signature, signed.congr agree⟩

theorem sampleHost_injective : Function.Injective sampleHost.sha256 := tabled_injective (by decide +kernel) (by decide)

theorem sampleHost_unforged : ∀ keyId signature digest other,
    sampleHost.verify keyId digest signature = true → sampleHost.verify keyId other signature = true →
      digest = other := by
  intro keyId signature digest other one two
  have first : signature = "signed:" ++ digest := (of_decide_eq_true one).2
  have second : signature = "signed:" ++ other := (of_decide_eq_true two).2
  have texts := congrArg String.toList (first.symm.trans second)
  rw [String.toList_append, String.toList_append] at texts
  exact String.toList_inj.mp (List.append_cancel_left texts)

theorem samplePlan_names (expiresAt : String) : NamesDistinct (samplePlan expiresAt) where
  around := by
    show List.Nodup ["schemaVersion", "planId", "issuedAt", "expiresAt", "keyId", "algorithm",
      "payloadDigest", "signature", "envelope"]
    decide
  envelope := by
    show List.Nodup (sampleEnvelope.map Prod.fst)
    decide
  metadata := by
    show List.Nodup ["digest", "signature", "keyId"]
    decide

/-- The same signature holds for a plan whose time ends ten years later. -/
theorem expiry_uncovered : ∃ (host : PlanHost) (first second : JsValue) (now : Timestamp),
    verifySignedExecutionPlan host first now = .ok first ∧
      verifySignedExecutionPlan host second now = .ok second ∧ NamesDistinct first ∧
      NamesDistinct second ∧ first.get "keyId" = second.get "keyId" ∧
      first.get "signature" = second.get "signature" ∧
      (∀ keyId signature digest other, host.verify keyId digest signature = true →
        host.verify keyId other signature = true → digest = other) ∧
      Function.Injective host.sha256 ∧ ¬ JsValue.Equal first second := by
  refine ⟨sampleHost, samplePlan "2026-09-06T01:00:00.000Z", samplePlan "2036-09-06T01:00:00.000Z",
    1788652800000, samplePlan_verified,
    @samplePlan_accepted "2036-09-06T01:00:00.000Z" 2104189200000 _ rfl le_rfl (by decide), samplePlan_names _,
    samplePlan_names _, rfl, rfl, sampleHost_unforged, sampleHost_injective, ?_⟩
  intro equal
  have ends := (JsValue.equal_object_iff (samplePlan_names _).around (samplePlan_names _).around).mp equal
    "expiresAt"
  have differ : Option.Rel JsValue.Equal (some (.string "2026-09-06T01:00:00.000Z"))
      (some (.string "2036-09-06T01:00:00.000Z")) := ends
  cases differ with
  | some same => exact absurd (JsValue.equal_string same) (by decide)

theorem samplePlan_equal_iff : JsValue.Equal (samplePlan "2026-09-06T01:00:00.000Z")
    (samplePlan "2036-09-06T01:00:00.000Z") ↔ AgreeUncovered (samplePlan "2026-09-06T01:00:00.000Z")
      (samplePlan "2036-09-06T01:00:00.000Z") :=
  @verified_equal_iff sampleHost _ _ 1788652800000 1788652800000
    samplePlan_verified (@samplePlan_accepted "2036-09-06T01:00:00.000Z" 2104189200000 _ rfl le_rfl (by decide))
    (samplePlan_names _) (samplePlan_names _) rfl rfl sampleHost_unforged
    fun _ _ _ _ same => sampleHost_injective same

end QuarkSelfAI.ClientRuntime

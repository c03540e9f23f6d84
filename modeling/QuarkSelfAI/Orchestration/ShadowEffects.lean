import QuarkSelfAI.CapabilityPlatform.ContentDigest
import QuarkSelfAI.ClientRuntime.DeviceMessages
import QuarkSelfAI.ClientRuntime.Verify
import QuarkSelfAI.Foundation.Transition

/-!
# The shadow effect sink

A sink is opened on a verified plan and records effects that are attempted, without executing them. A record needs a grant
of the plan for its effect and scope that is active; the first that is found decides whether a second record of that
effect and scope is refused.
-/

namespace QuarkSelfAI.Orchestration

open Foundation CapabilityPlatform ClientRuntime

structure ShadowEffectAttempt where
  effectKind : String
  scope : String
  inputDigest : String
  idempotencyKey : String

/-- A record, without its constant members. -/
structure ShadowEffectRecord where
  recordId : String
  planId : JsValue
  actionId : JsValue
  effectKind : String
  scopeDigest : String
  inputDigest : String
  idempotencyKey : String
  recordedAt : Timestamp

section Sink

variable (host : PlanHost) (plan : JsValue)

def itemsOf : JsValue → List JsValue
  | .array items => items
  | _ => []

def allowedEffects : List JsValue := itemsOf ((plan.get "envelope").get "allowedEffects")

def approvalGrants : List JsValue := itemsOf ((plan.get "envelope").get "approvalGrants")

/-- The grant is for the effect and the scope of an attempt, and of the scope of the plan. -/
def isExactGrant (attempt : ShadowEffectAttempt) (grant : JsValue) : Bool :=
  (scopeMembers.all fun name => strictEquals (grant.get name) ((plan.get "envelope").get name)) &&
    strictEquals (grant.get "effectKind") (.string attempt.effectKind) &&
      strictEquals (grant.get "scope") (.string attempt.scope)

/-- `Date.parse(grant.expiresAt) > now`. -/
def isUnexpired (now : Timestamp) (grant : JsValue) : Bool :=
  (host.parse (grant.get "expiresAt").toText).any fun expiresAt => now < expiresAt

/-- The first grant that is active for an attempt. -/
def findGrant (attempt : ShadowEffectAttempt) (now : Timestamp) : Option JsValue :=
  (approvalGrants plan).find? fun grant => isExactGrant plan attempt grant && isUnexpired host now grant

def activeGrant (attempt : ShadowEffectAttempt) (now : Timestamp) : Except String JsValue :=
  match findGrant host plan attempt now with
  | some grant => .ok grant
  | none => .error "shadow effect requires an exact active approval grant"

/-- What the id of a record is the digest of. -/
def recordKey (attempt : ShadowEffectAttempt) : JsValue :=
  .object [("planId", plan.get "planId"), ("actionId", (plan.get "envelope").get "actionId"),
    ("effectKind", .string attempt.effectKind), ("scope", .string attempt.scope),
    ("inputDigest", .string attempt.inputDigest), ("idempotencyKey", .string attempt.idempotencyKey)]

def isSingleUse (grant : JsValue) : Bool := isTruthy (grant.get "singleUse")

/-- `record`: the record, and what is stored. -/
def recordEffect (attempt : ShadowEffectAttempt) (now : Timestamp) (records : List ShadowEffectRecord) :
    Except String (ShadowEffectRecord × List ShadowEffectRecord) := do
  throwIf (digestPattern attempt.inputDigest = false) "shadow effect input digest is invalid"
  throwIf (isBlank attempt.effectKind = true ∨ isBlank attempt.scope = true ∨ isBlank attempt.idempotencyKey = true)
    "shadow effect attempt is incomplete"
  throwIf (.string attempt.effectKind ∉ allowedEffects plan) "effect is outside the signed plan"
  let grant ← activeGrant host plan attempt now
  let scopeDigest ← contentDigest host.sha256 (.string attempt.scope)
  let recordId ← contentDigest host.sha256 (recordKey plan attempt)
  match records.find? fun record => record.recordId = recordId with
  | some existing => .ok (existing, records)
  | none => do
    throwIf (isSingleUse grant = true ∧
        records.any fun record => record.effectKind = attempt.effectKind && record.scopeDigest = scopeDigest)
      "single-use approval is already represented by another effect attempt"
    let record : ShadowEffectRecord :=
      { recordId, planId := plan.get "planId", actionId := (plan.get "envelope").get "actionId"
        effectKind := attempt.effectKind, scopeDigest, inputDigest := attempt.inputDigest
        idempotencyKey := attempt.idempotencyKey, recordedAt := now }
    .ok (record, records ++ [record])

/-- A call that throws stores nothing. -/
def sink : Machine (List ShadowEffectRecord) (ShadowEffectAttempt × Timestamp) (Except String ShadowEffectRecord) where
  initial := []
  perform call records :=
    match recordEffect host plan call.1 call.2 records with
    | .error message => (.error message, records)
    | .ok (record, stored) => (.ok record, stored)

end Sink

/-! ## One call -/

section Spec

variable {host : PlanHost} {plan : JsValue} {attempt : ShadowEffectAttempt} {now : Timestamp}
  {records stored : List ShadowEffectRecord} {record : ShadowEffectRecord}

/-- The text of the scope is always canonical. -/
theorem scopeDigest_ok (scope : String) : ∃ digest, contentDigest host.sha256 (.string scope) = .ok digest :=
  ⟨_, contentDigest_ok.mpr ⟨_, rfl, rfl⟩⟩

theorem activeGrant_ok {grant : JsValue} :
    activeGrant host plan attempt now = .ok grant ↔ findGrant host plan attempt now = some grant := by
  rw [activeGrant]
  cases findGrant host plan attempt now <;> simp

/-- An attempt that is complete, of a declared effect and with an active grant. -/
structure Granted (host : PlanHost) (plan : JsValue) (attempt : ShadowEffectAttempt) (now : Timestamp)
    (grant : JsValue) (scopeDigest recordId : String) : Prop where
  input : digestPattern attempt.inputDigest = true
  complete : isBlank attempt.effectKind = false ∧ isBlank attempt.scope = false ∧ isBlank attempt.idempotencyKey = false
  declared : .string attempt.effectKind ∈ allowedEffects plan
  found : findGrant host plan attempt now = some grant
  digested : contentDigest host.sha256 (.string attempt.scope) = .ok scopeDigest
  named : contentDigest host.sha256 (recordKey plan attempt) = .ok recordId

/-- The record of an attempt. -/
def newRecord (plan : JsValue) (attempt : ShadowEffectAttempt) (now : Timestamp) (scopeDigest recordId : String) :
    ShadowEffectRecord :=
  { recordId, planId := plan.get "planId", actionId := (plan.get "envelope").get "actionId"
    effectKind := attempt.effectKind, scopeDigest, inputDigest := attempt.inputDigest
    idempotencyKey := attempt.idempotencyKey, recordedAt := now }

/-- A record of the effect and the scope is stored. -/
def Represented (records : List ShadowEffectRecord) (effectKind scopeDigest : String) : Prop :=
  ∃ record ∈ records, record.effectKind = effectKind ∧ record.scopeDigest = scopeDigest

theorem recordEffect_ok : recordEffect host plan attempt now records = .ok (record, stored) ↔
    ∃ grant scopeDigest recordId, Granted host plan attempt now grant scopeDigest recordId ∧
      ((records.find? (fun record => record.recordId = recordId) = some record ∧ stored = records) ∨
        (records.find? (fun record => record.recordId = recordId) = none ∧
          (isSingleUse grant = true → ¬ Represented records attempt.effectKind scopeDigest) ∧
            record = newRecord plan attempt now scopeDigest recordId ∧ stored = records ++ [record])) := by
  simp only [recordEffect, bind_ok, throwIf_ok, exists_const, activeGrant_ok]
  constructor
  · rintro ⟨input, complete, declared, grant, found, scopeDigest, digested, recordId, named, later⟩
    have blank : ∀ {text : String}, ¬ isBlank text = true → isBlank text = false := fun other => Bool.not_eq_true _ ▸ other
    rw [not_or, not_or] at complete
    refine ⟨grant, scopeDigest, recordId, ⟨by simpa using input, ⟨blank complete.1, blank complete.2.1, blank complete.2.2⟩,
      not_not.mp declared, found, digested, named⟩, ?_⟩
    cases existing : records.find? fun record => record.recordId = recordId with
    | some other =>
      rw [existing] at later
      cases later
      exact .inl ⟨rfl, rfl⟩
    | none =>
      rw [existing] at later
      obtain ⟨_, unused, later⟩ := bind_ok.mp later
      cases later
      refine .inr ⟨rfl, fun single => ?_, rfl, rfl⟩
      rintro ⟨other, listed, same⟩
      refine throwIf_ok.mp unused ⟨single, List.any_eq_true.mpr ⟨other, listed, ?_⟩⟩
      simpa using same
  · rintro ⟨grant, scopeDigest, recordId, granted, later⟩
    refine ⟨by simp [granted.input], by simp [granted.complete], not_not.mpr granted.declared, grant,
      granted.found, scopeDigest, granted.digested, recordId, granted.named, ?_⟩
    rcases later with ⟨existing, rfl⟩ | ⟨missing, unused, rfl, rfl⟩
    · rw [existing]
    · rw [missing]
      refine bind_ok.mpr ⟨(), throwIf_ok.mpr ?_, rfl⟩
      rintro ⟨single, used⟩
      obtain ⟨other, listed, same⟩ := List.any_eq_true.mp used
      exact unused single ⟨other, listed, by simpa using same⟩

end Spec

/-! ## What the sink keeps -/

section Kept

variable (host : PlanHost) (plan : JsValue)

/-- When a grant expires. -/
def expiry (grant : JsValue) : Option Timestamp := host.parse (grant.get "expiresAt").toText

/-- The record names a declared effect, and a grant for its effect and scope was unexpired when it was stored. -/
def Backed (record : ShadowEffectRecord) : Prop :=
  .string record.effectKind ∈ allowedEffects plan ∧ ∃ grant ∈ approvalGrants plan,
    grant.get "effectKind" = .string record.effectKind ∧ (∃ scope, grant.get "scope" = .string scope ∧
        contentDigest host.sha256 (.string scope) = .ok record.scopeDigest) ∧
      ∃ expiresAt ∈ expiry host grant, record.recordedAt < expiresAt

/-- A grant for the attempt is active. -/
def Active (attempt : ShadowEffectAttempt) (now : Timestamp) : Prop :=
  ∃ grant ∈ approvalGrants plan, isExactGrant plan attempt grant = true ∧ isUnexpired host now grant = true

/-- The stored records of an effect and a scope. -/
def recordsOf (records : List ShadowEffectRecord) (effectKind scopeDigest : String) : List ShadowEffectRecord :=
  records.filter fun record => record.effectKind = effectKind ∧ record.scopeDigest = scopeDigest

/-- A single-use grant has one record of its effect and scope at most. -/
def Once (records : List ShadowEffectRecord) : Prop :=
  ∀ grant ∈ approvalGrants plan, isSingleUse grant = true → ∀ effectKind scope scopeDigest,
    grant.get "effectKind" = .string effectKind → grant.get "scope" = .string scope →
      contentDigest host.sha256 (.string scope) = .ok scopeDigest →
        (recordsOf records effectKind scopeDigest).length ≤ 1

/-- What is promised of a run: every record is backed, an attempt that was recorded is answered with its record as long as
a grant is active, and a single-use grant has one record of its effect and scope at most. -/
structure Kept (labels : List ((ShadowEffectAttempt × Timestamp) × Except String ShadowEffectRecord))
    (records : List ShadowEffectRecord) : Prop where
  backed : ∀ record ∈ records, Backed host plan record
  repeats : ∀ attempt recorded record, ((attempt, recorded), .ok record) ∈ labels → ∀ now, Active host plan attempt now →
    (sink host plan).perform (attempt, now) records = (.ok record, records)
  once : Once host plan records

/-- The grants are for one effect and scope. -/
def SameTarget (one other : JsValue) : Prop :=
  one.get "effectKind" = other.get "effectKind" ∧ one.get "scope" = other.get "scope"

/-- A grant that is not for single use, but has the target of one that is, comes after a grant of that target which
expires no earlier. -/
def SingleUseFirst : Prop :=
  ∀ before grant after, approvalGrants plan = before ++ grant :: after → isSingleUse grant = false →
    (∃ scope, grant.get "scope" = .string scope ∧ isBlank scope = false) →
      (∃ single ∈ approvalGrants plan, isSingleUse single = true ∧ SameTarget single grant) →
        ∃ earlier ∈ before, SameTarget earlier grant ∧
          ∃ expiresAt ∈ expiry host earlier, ∀ mine ∈ expiry host grant, mine ≤ expiresAt

variable {host plan} {opened : Timestamp} {attempt : ShadowEffectAttempt} {now : Timestamp} {grant : JsValue}
  {scopeDigest recordId : String}

/-- What verification says of the grants of a plan. -/
structure Checked (host : PlanHost) (plan : JsValue) (grant : JsValue) : Prop where
  ids : ∀ name ∈ scopeMembers, ∃ text, grant.get name = .string text ∧ (plan.get "envelope").get name = .string text
  effect : ∃ effectKind, grant.get "effectKind" = .string effectKind ∧ isBlank effectKind = false ∧
    .string effectKind ∈ allowedEffects plan
  expires : ∃ expiresAt, expiry host grant = some expiresAt

theorem checked (verified : verifySignedExecutionPlan host plan opened = .ok plan) :
    ∀ grant ∈ approvalGrants plan, Checked host plan grant := by
  obtain ⟨-, -, envelope, payloadDigest, keyId, signature, signed⟩ := (verifySignedExecutionPlan_ok host).mp verified
  obtain ⟨grants, listed, effects, ⟨declared, texts⟩, each⟩ := signed.payload.approvalGrants
  have envelopeGet (name : String) : (plan.get "envelope").get name = member envelope name := by
    rw [signed.isEnvelope]
    rfl
  have granted : approvalGrants plan = grants := by
    rw [approvalGrants, envelopeGet, listed]
    rfl
  have effectsOf : allowedEffects plan = effects.map .string := by
    rw [allowedEffects, envelopeGet, declared]
    rfl
  rw [granted]
  intro grant there
  obtain ⟨members, rfl, ids, effectKind, ⟨kind, text⟩, effect, _, _, expiresAt, ⟨expires, read⟩, _⟩ := each grant there
  refine ⟨fun name named => ?_, ⟨effectKind, kind, text.1, ?_⟩, ?_⟩
  · obtain ⟨text, same, -⟩ := signed.payload.scope name (by
      simp only [scopeMembers, List.mem_cons, List.not_mem_nil, or_false] at named ⊢
      tauto)
    have own : member members name = member envelope name := by
      by_contra other
      exact ids ⟨name, named, other⟩
    exact ⟨text, own.trans same, (envelopeGet name).trans same⟩
  · rw [effectsOf]
    exact List.mem_map_of_mem effect
  · obtain ⟨instant, parsed⟩ := Option.isSome_iff_exists.mp read.2
    refine ⟨instant, ?_⟩
    have text : (JsValue.object members).get "expiresAt" = .string expiresAt := expires
    rw [expiry, text]
    exact parsed

theorem isExactGrant_iff (checked : Checked host plan grant) : isExactGrant plan attempt grant = true ↔
    grant.get "effectKind" = .string attempt.effectKind ∧ grant.get "scope" = .string attempt.scope := by
  have ids : (scopeMembers.all fun name => strictEquals (grant.get name) ((plan.get "envelope").get name)) = true := by
    refine List.all_eq_true.mpr fun name named => ?_
    obtain ⟨text, own, same⟩ := checked.ids name named
    rw [own, same, strictEquals_string]
  rw [isExactGrant, ids, Bool.true_and, Bool.and_eq_true, strictEquals_string, strictEquals_string]

theorem isUnexpired_iff {expiresAt : Timestamp} (expires : expiry host grant = some expiresAt) :
    isUnexpired host now grant = true ↔ now < expiresAt := by
  rw [isUnexpired, ← expiry, expires, Option.any_some, decide_eq_true_iff]

theorem findGrant_isSome : (findGrant host plan attempt now).isSome = true ↔ Active host plan attempt now := by
  rw [findGrant, List.find?_isSome]
  simp only [Active, Bool.and_eq_true]

/-- A record that is stored is backed by the grant that was found. -/
theorem Granted.backed (granted : Granted host plan attempt now grant scopeDigest recordId)
    (each : ∀ grant ∈ approvalGrants plan, Checked host plan grant) :
    Backed host plan (newRecord plan attempt now scopeDigest recordId) := by
  have listed := List.mem_of_find?_eq_some granted.found
  have holds := List.find?_some granted.found
  obtain ⟨exact', unexpired⟩ := Bool.and_eq_true_iff.mp holds
  obtain ⟨effectKind, scope⟩ := (isExactGrant_iff (each grant listed)).mp exact'
  obtain ⟨expiresAt, expires⟩ := (each grant listed).expires
  exact ⟨granted.declared, grant, listed, effectKind, ⟨attempt.scope, scope, granted.digested⟩, expiresAt, expires,
    (isUnexpired_iff expires).mp unexpired⟩

/-- Where the rule holds, a grant that is found for the target of a single-use grant is for single use. -/
theorem SingleUseFirst.found (rule : SingleUseFirst host plan) (each : ∀ grant ∈ approvalGrants plan, Checked host plan grant)
    (found : findGrant host plan attempt now = some grant) (nonblank : isBlank attempt.scope = false) {single : JsValue}
    (listed : single ∈ approvalGrants plan) (singleUse : isSingleUse single = true)
    (effectKind : single.get "effectKind" = .string attempt.effectKind) (scope : single.get "scope" = .string attempt.scope) :
    isSingleUse grant = true := by
  by_contra several
  obtain ⟨holds, before, after, split, earlier⟩ := List.find?_eq_some_iff_append.mp found
  have own : grant ∈ approvalGrants plan := List.mem_of_find?_eq_some found
  obtain ⟨exact', unexpired⟩ := Bool.and_eq_true_iff.mp holds
  obtain ⟨kind, target⟩ := (isExactGrant_iff (each grant own)).mp exact'
  obtain ⟨other, there, ⟨sameKind, sameScope⟩, expiresAt, expires, later⟩ :=
    rule before grant after split (Bool.not_eq_true _ ▸ several) ⟨attempt.scope, target, nonblank⟩
      ⟨single, listed, singleUse, effectKind.trans kind.symm, scope.trans target.symm⟩
  have member : other ∈ approvalGrants plan := by
    rw [split]
    exact List.mem_append_left _ there
  obtain ⟨mine, ends⟩ := (each grant own).expires
  have first := (isUnexpired_iff ends).mp unexpired
  have also : isExactGrant plan attempt other = true ∧ isUnexpired host now other = true :=
    ⟨(isExactGrant_iff (each other member)).mpr ⟨sameKind.trans kind, sameScope.trans target⟩,
      (isUnexpired_iff expires).mpr (lt_of_lt_of_le first (later mine ends))⟩
  have passed := earlier other there
  rw [also.1, also.2] at passed
  cases passed

/-! ## Runs -/

/-- An attempt that was recorded passes the checks again, and its id finds its record. -/
def Remembered (host : PlanHost) (plan : JsValue) (records : List ShadowEffectRecord) (attempt : ShadowEffectAttempt)
    (record : ShadowEffectRecord) : Prop :=
  digestPattern attempt.inputDigest = true ∧
    (isBlank attempt.effectKind = false ∧ isBlank attempt.scope = false ∧ isBlank attempt.idempotencyKey = false) ∧
      .string attempt.effectKind ∈ allowedEffects plan ∧
        ∃ recordId, contentDigest host.sha256 (recordKey plan attempt) = .ok recordId ∧
          records.find? (fun record => record.recordId = recordId) = some record

variable {records stored : List ShadowEffectRecord} {record : ShadowEffectRecord}
  {labels : List ((ShadowEffectAttempt × Timestamp) × Except String ShadowEffectRecord)}
  {reply : Except String ShadowEffectRecord} {call : ShadowEffectAttempt × Timestamp}

theorem Remembered.append (remembered : Remembered host plan records attempt record)
    (more : List ShadowEffectRecord) : Remembered host plan (records ++ more) attempt record := by
  obtain ⟨input, complete, declared, recordId, named, found⟩ := remembered
  exact ⟨input, complete, declared, recordId, named, by rw [List.find?_append, found, Option.some_or]⟩

/-- An attempt that is remembered is answered with its record, and nothing is stored. -/
theorem Remembered.again (remembered : Remembered host plan records attempt record)
    (active : Active host plan attempt now) : (sink host plan).perform (attempt, now) records = (.ok record, records) := by
  obtain ⟨input, complete, declared, recordId, named, found⟩ := remembered
  obtain ⟨grant, chosen⟩ := Option.isSome_iff_exists.mp (findGrant_isSome.mpr active)
  obtain ⟨scopeDigest, digested⟩ := scopeDigest_ok attempt.scope
  have answered : recordEffect host plan attempt now records = .ok (record, records) :=
    recordEffect_ok.mpr ⟨grant, scopeDigest, recordId, ⟨input, complete, declared, chosen, digested, named⟩,
      .inl ⟨found, rfl⟩⟩
  rw [sink]
  dsimp only
  rw [answered]

/-- What a run keeps, with the attempts it remembers. -/
structure Standing (host : PlanHost) (plan : JsValue)
    (labels : List ((ShadowEffectAttempt × Timestamp) × Except String ShadowEffectRecord))
    (records : List ShadowEffectRecord) : Prop where
  backed : ∀ record ∈ records, Backed host plan record
  remembers : ∀ attempt recorded record, ((attempt, recorded), .ok record) ∈ labels →
    Remembered host plan records attempt record

theorem Standing.step
    (each : ∀ grant ∈ approvalGrants plan, Checked host plan grant) (standing : Standing host plan labels records)
    (performed : (sink host plan).perform call records = (reply, stored)) :
    Standing host plan (labels ++ [(call, reply)]) stored := by
  rw [sink] at performed
  dsimp only at performed
  cases answered : recordEffect host plan call.1 call.2 records with
  | error message =>
    rw [answered] at performed
    cases performed
    refine ⟨standing.backed, fun attempt recorded record listed => ?_⟩
    rcases List.mem_append.mp listed with before | last
    · exact standing.remembers attempt recorded record before
    · cases List.mem_singleton.mp last
  | ok result =>
    obtain ⟨record, result⟩ := result
    rw [answered] at performed
    cases performed
    obtain ⟨grant, scopeDigest, recordId, granted, outcome⟩ := recordEffect_ok.mp answered
    have later : ∃ more, stored = records ++ more ∧ (∀ other ∈ more, Backed host plan other) ∧
        stored.find? (fun record => record.recordId = recordId) = some record := by
      rcases outcome with ⟨existing, rfl⟩ | ⟨missing, -, rfl, rfl⟩
      · exact ⟨[], by simp, by simp, existing⟩
      · refine ⟨_, rfl, by simpa using granted.backed each, ?_⟩
        rw [List.find?_append, missing, Option.none_or]
        simp [newRecord]
    obtain ⟨more, rfl, backed, found⟩ := later
    refine ⟨fun other listed => ?_, fun attempt recorded other listed => ?_⟩
    · rcases List.mem_append.mp listed with before | after
      · exact standing.backed other before
      · exact backed other after
    · rcases List.mem_append.mp listed with before | last
      · exact (standing.remembers attempt recorded other before).append more
      · cases List.mem_singleton.mp last
        exact ⟨granted.input, granted.complete, granted.declared, recordId, granted.named, found⟩

theorem run_standing
    (each : ∀ grant ∈ approvalGrants plan, Checked host plan grant) (run : (sink host plan).system.Run labels records) :
    Standing host plan labels records := by
  refine run.history ?_ ?_
  · rintro _ rfl
    exact ⟨nofun, nofun⟩
  · rintro labels ⟨call, reply⟩ before after _ standing performed
    exact standing.step each performed

theorem contentDigest_text_inj (collisionFree : Function.Injective host.sha256) {one other digest : String}
    (first : contentDigest host.sha256 (.string one) = .ok digest)
    (second : contentDigest host.sha256 (.string other) = .ok digest) : one = other := by
  obtain ⟨text, canonical, same⟩ := contentDigest_ok.mp first
  obtain ⟨text', canonical', same'⟩ := contentDigest_ok.mp second
  have texts : text = text' := collisionFree (String.append_right_inj _ |>.mp (same.symm.trans same'))
  exact JsValue.equal_string (canonicalJson_inj canonical (texts ▸ canonical'))

theorem Once.step (collisionFree : Function.Injective host.sha256) (rule : SingleUseFirst host plan)
    (each : ∀ grant ∈ approvalGrants plan, Checked host plan grant) (once : Once host plan records)
    (performed : (sink host plan).perform call records = (reply, stored)) : Once host plan stored := by
  rw [sink] at performed
  dsimp only at performed
  cases answered : recordEffect host plan call.1 call.2 records with
  | error message =>
    rw [answered] at performed
    cases performed
    exact once
  | ok result =>
    obtain ⟨record, result⟩ := result
    rw [answered] at performed
    cases performed
    obtain ⟨grant, scopeDigest, recordId, granted, outcome⟩ := recordEffect_ok.mp answered
    rcases outcome with ⟨-, rfl⟩ | ⟨-, unused, rfl, rfl⟩
    · exact once
    intro single listed singleUse effectKind scope digest kind target digested
    have before := once single listed singleUse effectKind scope digest kind target digested
    by_cases own : call.1.effectKind = effectKind ∧ scopeDigest = digest
    · obtain ⟨rfl, rfl⟩ := own
      obtain rfl : call.1.scope = scope := contentDigest_text_inj collisionFree granted.digested digested
      have absent := unused (rule.found each granted.found granted.complete.2.1 listed singleUse kind target)
      have none : recordsOf records call.1.effectKind scopeDigest = [] := by
        refine List.filter_eq_nil_iff.mpr fun other there same => absent ⟨other, there, ?_⟩
        simpa using same
      rw [recordsOf, List.filter_append, ← recordsOf, none, List.nil_append]
      exact List.length_filter_le _ _
    · have other : recordsOf [newRecord plan call.1 call.2 scopeDigest recordId] effectKind digest = [] := by
        refine List.filter_eq_nil_iff.mpr fun other there same => own ?_
        rw [List.mem_singleton.mp there] at same
        exact of_decide_eq_true same
      rw [recordsOf, List.filter_append, List.length_append]
      change (recordsOf records effectKind digest).length + (recordsOf _ effectKind digest).length ≤ 1
      rw [other]
      exact before

/-! ## Plans with a grant that is found before a single-use grant -/

theorem recordKey_json {planId : String} (named : plan.get "planId" = .string planId)
    (each : ∀ grant ∈ approvalGrants plan, Checked host plan grant) (listed : grant ∈ approvalGrants plan)
    (attempt : ShadowEffectAttempt) : (recordKey plan attempt).IsJson := by
  obtain ⟨actionId, -, action⟩ := (each grant listed).ids "actionId" (by decide)
  rw [recordKey, named, action]
  exact ⟨by simp [JsValue.Distinct], trivial, trivial, trivial, trivial, trivial, trivial, trivial⟩

theorem recordId_ok {planId : String} (named : plan.get "planId" = .string planId)
    (each : ∀ grant ∈ approvalGrants plan, Checked host plan grant) (listed : grant ∈ approvalGrants plan)
    (attempt : ShadowEffectAttempt) :
    ∃ recordId, contentDigest host.sha256 (recordKey plan attempt) = .ok recordId := by
  obtain ⟨text, canonical, -⟩ := canonicalJson_sorted (recordKey_json named each listed attempt)
  exact ⟨_, contentDigest_ok.mpr ⟨text, canonical, rfl⟩⟩

/-- Attempts with different keys have different records. -/
theorem recordId_inj {planId recordId : String} {other : ShadowEffectAttempt}
    (collisionFree : Function.Injective host.sha256) (named : plan.get "planId" = .string planId)
    (each : ∀ grant ∈ approvalGrants plan, Checked host plan grant) (listed : grant ∈ approvalGrants plan)
    (first : contentDigest host.sha256 (recordKey plan attempt) = .ok recordId)
    (second : contentDigest host.sha256 (recordKey plan other) = .ok recordId) :
    attempt.idempotencyKey = other.idempotencyKey := by
  obtain ⟨text, canonical, same⟩ := contentDigest_ok.mp first
  obtain ⟨text', canonical', same'⟩ := contentDigest_ok.mp second
  have texts : text = text' := collisionFree (String.append_right_inj _ |>.mp (same.symm.trans same'))
  have equal := canonicalJson_inj canonical (texts ▸ canonical')
  have json := recordKey_json named each listed attempt
  have json' := recordKey_json named each listed other
  have keys := (JsValue.equal_object_iff json.1 json'.1).mp equal "idempotencyKey"
  have values : Option.Rel JsValue.Equal (some (.string attempt.idempotencyKey)) (some (.string other.idempotencyKey)) :=
    keys
  cases values with
  | some same => exact JsValue.equal_string same

/-- An attempt under a grant that is not for single use is stored unless its id is there. -/
theorem stores_new (granted : Granted host plan attempt now grant scopeDigest recordId)
    (several : isSingleUse grant = false) (missing : records.find? (fun record => record.recordId = recordId) = none) :
    (sink host plan).perform (attempt, now) records = (.ok (newRecord plan attempt now scopeDigest recordId),
        records ++ [newRecord plan attempt now scopeDigest recordId]) := by
  have answered : recordEffect host plan attempt now records = .ok (newRecord plan attempt now scopeDigest recordId,
        records ++ [newRecord plan attempt now scopeDigest recordId]) :=
    recordEffect_ok.mpr ⟨grant, scopeDigest, recordId, granted,
      .inr ⟨missing, fun single => absurd single (by simp [several]), rfl, rfl⟩⟩
  rw [sink]
  dsimp only
  rw [answered]

/-- An attempt of an effect and a scope, told from others by its key. -/
def keyedAttempt (effectKind scope key : String) : ShadowEffectAttempt where
  effectKind
  scope
  inputDigest := "sha256:0000000000000000000000000000000000000000000000000000000000000000"
  idempotencyKey := key

theorem recordsOf_all {effectKind scopeDigest : String}
    (all : ∀ record ∈ records, record.effectKind = effectKind ∧ record.scopeDigest = scopeDigest) :
    recordsOf records effectKind scopeDigest = records :=
  List.filter_eq_self.mpr fun record there => decide_eq_true (all record there)

/-- Two attempts of one effect and scope, while a grant that is not for single use is found, are both stored. -/
theorem two_records {planId effectKind scope : String} (collisionFree : Function.Injective host.sha256)
    (named : plan.get "planId" = .string planId) (each : ∀ grant ∈ approvalGrants plan, Checked host plan grant)
    (listed : grant ∈ approvalGrants plan) (several : isSingleUse grant = false)
    (kind : grant.get "effectKind" = .string effectKind) (nonblank : isBlank scope = false)
    (found : ∀ key, findGrant host plan (keyedAttempt effectKind scope key) now = some grant) :
    ∃ labels records scopeDigest, (sink host plan).system.Run labels records ∧
      contentDigest host.sha256 (.string scope) = .ok scopeDigest ∧
        (recordsOf records effectKind scopeDigest).length = 2 := by
  obtain ⟨effect, own, complete, declared⟩ := (each grant listed).effect
  obtain rfl : effectKind = effect := JsValue.string.inj (kind.symm.trans own)
  obtain ⟨scopeDigest, digested⟩ := scopeDigest_ok scope
  obtain ⟨one, first⟩ := recordId_ok named each listed (keyedAttempt effectKind scope "a")
  obtain ⟨other, second⟩ := recordId_ok named each listed (keyedAttempt effectKind scope "b")
  have apart : one ≠ other := by
    rintro rfl
    exact absurd (recordId_inj collisionFree named each listed first second) (show ¬ "a" = "b" by decide)
  have pattern : ∀ key, digestPattern (keyedAttempt effectKind scope key).inputDigest = true := by
    intro key
    have same : digestPattern "sha256:0000000000000000000000000000000000000000000000000000000000000000" = true := by
      decide
    exact same
  have keys : isBlank "a" = false ∧ isBlank "b" = false := by decide
  have granted (key recordId : String) (filled : isBlank key = false)
      (id : contentDigest host.sha256 (recordKey plan (keyedAttempt effectKind scope key)) = .ok recordId) :
      Granted host plan (keyedAttempt effectKind scope key) now grant scopeDigest recordId :=
    ⟨pattern key, ⟨complete, nonblank, filled⟩, declared, found key, digested, id⟩
  have stored := stores_new (granted "a" one keys.1 first) several (List.find?_nil)
  have missing : ([] ++ [newRecord plan (keyedAttempt effectKind scope "a") now scopeDigest one]).find?
      (fun record : ShadowEffectRecord => record.recordId = other) = none := by
    simp [newRecord, apart]
  have also := stores_new (granted "b" other keys.2 second) several missing
  have run : (sink host plan).system.Run
      [((keyedAttempt effectKind scope "a", now),
          .ok (newRecord plan (keyedAttempt effectKind scope "a") now scopeDigest one)),
        ((keyedAttempt effectKind scope "b", now),
          .ok (newRecord plan (keyedAttempt effectKind scope "b") now scopeDigest other))] _ :=
    ⟨[], rfl, .next stored (.next also .done)⟩
  refine ⟨_, _, scopeDigest, run, digested, ?_⟩
  rw [recordsOf_all]
  · rfl
  · rintro record there
    rcases List.mem_append.mp there with first | second
    · rw [List.nil_append, List.mem_singleton] at first
      exact first ▸ ⟨rfl, rfl⟩
    · rw [List.mem_singleton] at second
      exact second ▸ ⟨rfl, rfl⟩

end Kept

/-! ## A plan with two grants of one effect and scope -/

def effectGrant (grantId : String) (singleUse : Bool) : JsValue :=
  .object [("grantId", .string grantId), ("tenantId", .string "test.alpha"), ("userId", .string "user.owner"),
    ("deviceId", .string "device.owner"), ("agentId", .string "agent.demo"), ("actionId", .string "action.one"),
    ("releaseDigest", .string "sha256:aaaaaaaaaaaaaaaaaaaaaaaaaaaaaaaaaaaaaaaaaaaaaaaaaaaaaaaaaaaaaaaa"),
    ("effectKind", .string "message.send"), ("scope", .string "owner-dm"),
    ("grantedAt", .string "2026-09-06T00:00:00.000Z"), ("expiresAt", .string "2026-09-06T01:00:00.000Z"),
    ("singleUse", .bool singleUse)]

def effectPayload (grants : List JsValue) : Members :=
  samplePayload.map fun entry =>
    if entry.1 = "allowedEffects" then ("allowedEffects", .array [.string "message.send"])
    else if entry.1 = "approvalGrants" then ("approvalGrants", .array grants)
    else entry

/-- The hexadecimal digest is that of the payload. -/
def effectPlan (grants : List JsValue) (digest : String) : JsValue :=
  .object [("schemaVersion", .number 1), ("planId", .string "plan.one"),
    ("issuedAt", .string "2026-09-06T00:00:00.000Z"), ("expiresAt", .string "2026-09-06T01:00:00.000Z"),
    ("keyId", .string "test-key"), ("algorithm", .string "ed25519"),
    ("payloadDigest", .string ("sha256:" ++ digest)), ("signature", .string ("signed:sha256:" ++ digest)),
    ("envelope", .object (effectPayload grants ++ [("plan", .object [("digest", .string ("sha256:" ++ digest)),
      ("signature", .string ("signed:sha256:" ++ digest)), ("keyId", .string "test-key")])]))]

def payloadTextOf (grants : List JsValue) : String := (canonicalJson (.object (effectPayload grants))).toOption.getD ""

def effectHost (grants : List JsValue) (digest : String) : PlanHost :=
  { sampleHost with sha256 := tabled [(payloadTextOf grants, digest)] }

def singleLast : List JsValue := [effectGrant "grant.several" false, effectGrant "grant.single" true]

def singleLastDigest : String := "efe2ea1cce65e6390b489325db06c9f69a76ed85f73e05ae1f4fab901bb349a6"

theorem singleLast_verified : verifySignedExecutionPlan (effectHost singleLast singleLastDigest)
    (effectPlan singleLast singleLastDigest) 1788652800000 = .ok (effectPlan singleLast singleLastDigest) := by
  let envelope := ((effectPlan singleLast singleLastDigest).get "envelope").members
  have valid : validateExecutionEnvelope sampleHost.parse (.object envelope) = .ok envelope := by decide +kernel
  have written : canonicalJson (.object (withoutPlan envelope)) = .ok (payloadTextOf singleLast) := by
    have plain : withoutPlan envelope = effectPayload singleLast := rfl
    rw [plain]
    exact ok_of_isSome (by decide)
  have digested : "sha256:" ++ (effectHost singleLast singleLastDigest).sha256 (payloadTextOf singleLast) =
      "sha256:" ++ singleLastDigest := by
    simp only [effectHost, tabled_head]
  exact verify_of_valid _ ⟨1788652800000, 1788656400000, rfl, rfl, le_rfl, by decide⟩ valid written digested
    (by decide) rfl

theorem singleLast_injective : Function.Injective (effectHost singleLast singleLastDigest).sha256 :=
  tabled_injective (by decide) (by decide)

end QuarkSelfAI.Orchestration

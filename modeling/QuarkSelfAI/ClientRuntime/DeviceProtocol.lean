import QuarkSelfAI.ClientRuntime.DeviceMessages
import QuarkSelfAI.Foundation.Shape

/-!
# The typed device protocol

The shapes that the types of the protocol declare for each payload, and the scope its objects carry. The validator reads
some fields and passes over the others; a message that it accepts is one of the protocol exactly when the fields that it
passes over are there and of their types.
-/

namespace QuarkSelfAI.ClientRuntime

open Foundation CapabilityPlatform

/-! ## Declared types -/

def schemaOne : String × Shape := ("schemaVersion", .oneOf [.number 1])

def texts : Shape := .array .text

def deviceSessionChallenge : Shape := .record [schemaOne, ("challengeId", .text), ("tenantId", .text), ("userId", .text),
  ("deviceId", .text), ("nonce", .text), ("issuedAt", .text), ("expiresAt", .text)]

def deviceSessionProof : Shape := .record [schemaOne, ("challengeId", .text), ("deviceId", .text), ("keyId", .text),
  ("algorithm", .oneOf [.string "ed25519"]), ("signature", .text)]

def deviceSession : Shape := .record [schemaOne, ("sessionId", .text), ("tenantId", .text), ("userId", .text),
  ("deviceId", .text), ("issuedAt", .text), ("expiresAt", .text),
  ("state", .oneOf [.string "active", .string "superseded", .string "expired", .string "revoked"])]

def executionAgentProgram : Shape := .record [("role", .text), ("goals", texts), ("graph", .record [
    ("nodes", .array (.record [("id", .text), ("capabilityId", .text), ("interfaceId", .text),
      ("configuration", .dictionary)])),
    ("edges", .array (.record [("from", .text), ("to", .text), ("output", .text), ("input", .text)]))]),
  ("modelPolicy", .record [("allowed", texts), ("preferred", .nullable .text)])]

def workspaceGrant : Shape := .record [("handle", .text), ("access", .oneOf [.string "read", .string "read-write"]),
  ("expiresAt", .text), ("grantId", .text)]

def approvalGrant : Shape := .record [("grantId", .text), ("tenantId", .text), ("userId", .text), ("deviceId", .text),
  ("agentId", .text), ("releaseDigest", .text), ("actionId", .text), ("effectKind", .text), ("scope", .text),
  ("grantedAt", .text), ("expiresAt", .text), ("singleUse", .truth)]

def executionEnvelope : Shape := .record [schemaOne, ("tenantId", .text), ("userId", .text), ("deviceId", .text),
  ("agentId", .text), ("runId", .text), ("actionId", .text),
  ("blueprint", .record [("id", .text), ("version", .text), ("digest", .text)]), ("program", executionAgentProgram),
  ("capabilities", .array (.record [("id", .text), ("version", .text), ("artifactDigest", .text)])),
  ("context", .array (.record [("id", .text), ("kind", .text), ("dataClass", .text),
    ("location", .oneOf [.string "local", .string "cloud"]), ("opaqueReference", .text)])),
  ("workspaceGrants", .array workspaceGrant), ("approvalGrants", .array approvalGrant), ("idempotencyKey", .text),
  ("deadline", .text), ("budget", .record [("tokens", .number), ("durationMs", .number), ("costMinorUnits", .number)]),
  ("dataClasses", texts), ("allowedEffects", texts),
  ("executorRequirement", .record [("protocolVersions", texts), ("capabilities", texts), ("allowedExecutors", texts),
    ("preferredExecutors", texts)]),
  ("continuity", .record [("sessionId", .nullable .text), ("continuationToken", .nullable .text),
    ("fallbackAllowed", .truth), ("midActionSwitchAllowed", .oneOf [.bool false])]),
  ("plan", .record [("digest", .text), ("signature", .text), ("keyId", .text)])]

/-- A signed plan, of an envelope of the shape. -/
def signedExecutionPlan (envelope : Shape) : Shape := .record [schemaOne, ("planId", .text), ("issuedAt", .text),
  ("expiresAt", .text), ("keyId", .text), ("algorithm", .oneOf [.string "ed25519"]), ("payloadDigest", .text),
  ("signature", .text), ("envelope", envelope)]

/-- A lease, of a plan of the shape. -/
def deviceTaskLease (plan : Shape) : Shape := .record [schemaOne, ("taskId", .text), ("planId", .text), ("plan", plan),
  ("deviceId", .text), ("leaseToken", .text), ("attempt", .number), ("leasedAt", .text), ("expiresAt", .text),
  ("externalWritesEnabled", .oneOf [.bool false])]

def deviceTaskLeaseAcknowledgement : Shape := .record [schemaOne, ("taskId", .text), ("planId", .text),
  ("deviceId", .text), ("state", .oneOf [.string "accepted"]), ("acceptedAt", .text)]

def deviceRedactedResult : Shape := .record [("tenantId", .text), ("userId", .text), ("deviceId", .text),
  ("taskId", .text), ("planId", .text), ("outcome", .oneOf [.string "succeeded", .string "failed", .string "cancelled"]),
  ("summaryCode", .text), ("artifactDigests", texts), ("completedAt", .text)]

namespace PayloadKind

/-- The fields of a payload besides its kind. -/
def fields : PayloadKind → List (String × Shape)
  | clientHello => [("protocol", .oneOf [.string "quark-device-sync.v1"]),
      ("transport", .oneOf [.string "direct-tls", .string "ssh-subsystem"]), ("executorReportDigests", texts)]
  | serverChallenge => [("challenge", deviceSessionChallenge)]
  | clientProof => [("proof", deviceSessionProof)]
  | serverSession => [("session", deviceSession)]
  | clientPoll | clientHeartbeat => [("sessionId", .text)]
  | serverLease => [("lease", .nullable (deviceTaskLease (signedExecutionPlan executionEnvelope)))]
  | clientAckRequest => [("sessionId", .text), ("leaseToken", .text), ("taskId", .text)]
  | serverAck => [("acknowledgement", deviceTaskLeaseAcknowledgement)]
  | clientResultSubmit => [("sessionId", .text), ("result", deviceRedactedResult.without ["tenantId", "userId"])]
  | serverResult => [("result", deviceRedactedResult)]
  | serverError => [("code", .oneOf [.string "request-rejected", .string "temporarily-unavailable"])]

/-- The fields that the validator passes over: it compares the tenant of an object that names one, and the device of a
proof, an acknowledgement, a result or a lease. -/
def unread : PayloadKind → List (String × Shape)
  | clientHello | serverError => []
  | serverChallenge => [("challenge", deviceSessionChallenge.without ["tenantId"])]
  | clientProof => [("proof", deviceSessionProof.without ["deviceId"])]
  | serverSession => [("session", deviceSession.without ["tenantId"])]
  | clientPoll | clientHeartbeat => [("sessionId", .text)]
  | serverLease => [("lease", .nullable ((deviceTaskLease ((signedExecutionPlan
      (executionEnvelope.without ["tenantId"])).without ["planId"])).without ["deviceId"]))]
  | clientAckRequest => [("sessionId", .text), ("leaseToken", .text), ("taskId", .text)]
  | serverAck => [("acknowledgement", deviceTaskLeaseAcknowledgement.without ["deviceId"])]
  | clientResultSubmit =>
    [("sessionId", .text), ("result", (deviceRedactedResult.without ["tenantId", "userId"]).without ["deviceId"])]
  | serverResult => [("result", deviceRedactedResult.without ["tenantId"])]

end PayloadKind

/-- The object names what the message names. -/
def Carries (value : JsValue) (names : List String) (message : Members) : Prop :=
  ∀ name ∈ names, value.get name = member message name

/-- The scope that an object of the payload has by its type is that of the message. -/
def Scoped (kind : PayloadKind) (payload message : Members) : Prop :=
  match kind with
  | .serverChallenge => Carries (member payload "challenge") ["tenantId", "userId", "deviceId"] message
  | .serverSession => Carries (member payload "session") ["tenantId", "userId", "deviceId"] message
  | .serverResult => Carries (member payload "result") ["tenantId", "userId", "deviceId"] message
  | .clientProof => Carries (member payload "proof") ["deviceId"] message
  | .serverAck => Carries (member payload "acknowledgement") ["deviceId"] message
  | .clientResultSubmit => Carries (member payload "result") ["deviceId"] message
  | .serverLease => member payload "lease" = .null ∨ Carries (member payload "lease") ["deviceId"] message ∧
      Carries (((member payload "lease").get "plan").get "envelope") ["tenantId", "userId", "deviceId"] message
  | .clientHello | .clientPoll | .clientHeartbeat | .clientAckRequest | .serverError => True

/-- The payload is of its type and within the scope of the message. -/
def FollowsProtocol (value : JsValue) : Prop :=
  ∃ message kind payload, value = .object message ∧ payloadOf (member message "payload") = .ok (kind, payload) ∧
    Shape.conformFields (("kind", .oneOf [.string kind.text]) :: kind.fields) (.object payload) = true ∧
      Scoped kind payload message

/-- What the validator passes over is of its type. -/
def UnreadTyped (value : JsValue) : Prop :=
  ∃ message kind payload, value = .object message ∧ payloadOf (member message "payload") = .ok (kind, payload) ∧
    Shape.conformFields kind.unread (.object payload) = true

/-! ## What is read and what is not -/

section Objects

variable {value : JsValue} {message : Members} {fields : List (String × Shape)} {name : String}

/-- The message names its tenant, user and device. -/
def Identified (message : Members) : Prop :=
  ∀ name ∈ ["tenantId", "userId", "deviceId"], ∃ text, member message name = .string text

theorem Identified.equal (named : Identified message) (listed : name ∈ ["tenantId", "userId", "deviceId"]) :
    strictEquals value (member message name) = true ↔ value = member message name := by
  obtain ⟨text, same⟩ := named name listed
  rw [same, strictEquals_string]

theorem Identified.text (named : Identified message)
    (listed : name ∈ ["tenantId", "userId", "deviceId"]) (same : value = member message name) :
    Shape.conforms .text value = true := by
  obtain ⟨text, given⟩ := named name listed
  exact Shape.conforms_text.mpr ⟨text, same.trans given⟩

theorem hasMember_of_text (given : Shape.conforms .text (value.get name) = true) : hasMember value name = true := by
  obtain ⟨text, same⟩ := Shape.conforms_text.mp given
  cases value with
  | object members =>
    rw [JsValue.get] at same
    cases found : members.lookup name with
    | none =>
      rw [found] at same
      cases same
    | some other =>
      obtain ⟨before, after, split, -⟩ := List.lookup_eq_some_iff.mp found
      simp [hasMember, JsValue.members, split]
  | _ => cases same

/-- An object that does not stray names its scope where it has the fields. -/
theorem carries_of_own (named : Identified message) (own : ¬ strays value message)
    (object : ∃ members, value = .object members) (user : Shape.conforms .text (value.get "userId") = true)
    (device : Shape.conforms .text (value.get "deviceId") = true) :
    Carries value ["tenantId", "userId", "deviceId"] message := by
  have truthy : isTruthy value = true := by
    obtain ⟨members, rfl⟩ := object
    rfl
  rw [strays, not_and, not_or, not_or, Bool.not_eq_false, not_and, Bool.not_eq_false, not_and, Bool.not_eq_false] at own
  obtain ⟨tenant, ofUser, ofDevice⟩ := own truthy
  intro name listed
  refine (named.equal listed).mp ?_
  simp only [List.mem_cons, List.not_mem_nil, or_false] at listed
  rcases listed with rfl | rfl | rfl
  · exact tenant
  · exact ofUser (hasMember_of_text user)
  · exact ofDevice (hasMember_of_text device)

/-- An object with a tenant, a user and a device. -/
def ScopedRecord (fields : List (String × Shape)) : Prop :=
  (∀ field ∈ fields, field.1 ∈ ["tenantId"] → field.2 = .text) ∧ ("userId", .text) ∈ fields ∧ ("deviceId", .text) ∈ fields

theorem conforms_scoped (declared : ScopedRecord fields) (named : Identified message) (own : ¬ strays value message) :
    (Shape.conforms (.record fields) value = true ∧ Carries value ["tenantId", "userId", "deviceId"] message) ↔
      Shape.conforms ((Shape.record fields).without ["tenantId"]) value = true := by
  rw [Shape.conforms_without ["tenantId"]]
  constructor
  · rintro ⟨⟨others, -⟩, -⟩
    exact others
  · intro others
    obtain ⟨object, each⟩ := Shape.conforms_record.mp others
    have text (name : String) (listed : (name, Shape.text) ∈ fields) (other : name ∉ ["tenantId"]) :
        Shape.conforms .text (value.get name) = true :=
      each (name, .text) (List.mem_filter.mpr ⟨listed, by simpa using other⟩)
    have carried := carries_of_own named own object (text "userId" declared.2.1 (by decide))
      (text "deviceId" declared.2.2 (by decide))
    refine ⟨⟨others, fun field listed tenant => ?_⟩, carried⟩
    rw [declared.1 field listed tenant, List.mem_singleton.mp tenant]
    exact named.text (by decide) (carried "tenantId" (by decide))

theorem conforms_device {error : String} (declared : ∀ field ∈ fields, field.1 ∈ ["deviceId"] → field.2 = .text)
    (named : Identified message) (own : checkDevice value message error = .ok ()) :
    (Shape.conforms (.record fields) value = true ∧ Carries value ["deviceId"] message) ↔
      Shape.conforms ((Shape.record fields).without ["deviceId"]) value = true := by
  have same : value.get "deviceId" = member message "deviceId" :=
    (named.equal (by decide)).mp (checkDevice_ok.mp own).2.2
  rw [Shape.conforms_without ["deviceId"]]
  constructor
  · rintro ⟨⟨others, -⟩, -⟩
    exact others
  · intro others
    refine ⟨⟨others, fun field listed device => ?_⟩, fun name listed => ?_⟩
    · rw [declared field listed device, List.mem_singleton.mp device]
      exact named.text (by decide) same
    · rw [List.mem_singleton.mp listed]
      exact same

/-- A plan is what it is without its id and its envelope, and these two. -/
theorem conforms_plan {envelope : Shape} : Shape.conforms (signedExecutionPlan envelope) value = true ↔
    Shape.conforms ((signedExecutionPlan envelope).without ["planId"]) value = true ∧
      Shape.conforms .text (value.get "planId") = true := by
  rw [signedExecutionPlan, Shape.conforms_without ["planId"]]
  simp [schemaOne]

theorem conforms_plan_envelope {envelope other : Shape}
    (given : Shape.conforms ((signedExecutionPlan envelope).without ["planId"]) value = true) :
    Shape.conforms envelope (value.get "envelope") = true ∧ (Shape.conforms other (value.get "envelope") = true →
        Shape.conforms ((signedExecutionPlan other).without ["planId"]) value = true) := by
  simp only [signedExecutionPlan, Shape.without, schemaOne, Shape.conforms_record, List.mem_cons, List.not_mem_nil,
    or_false] at given ⊢
  simp at given ⊢
  tauto

theorem conforms_lease {plan : Shape} : Shape.conforms (deviceTaskLease plan) value = true ↔
    Shape.conforms ((deviceTaskLease plan).without ["deviceId"]) value = true ∧
      Shape.conforms .text (value.get "deviceId") = true := by
  rw [deviceTaskLease, Shape.conforms_without ["deviceId"]]
  simp [schemaOne]

theorem conforms_lease_plan {plan other : Shape}
    (given : Shape.conforms ((deviceTaskLease plan).without ["deviceId"]) value = true) :
    Shape.conforms plan (value.get "plan") = true ∧ Shape.conforms .text (value.get "planId") = true ∧
      (Shape.conforms other (value.get "plan") = true →
        Shape.conforms ((deviceTaskLease other).without ["deviceId"]) value = true) := by
  simp only [deviceTaskLease, Shape.without, schemaOne, Shape.conforms_record, List.mem_cons, List.not_mem_nil,
    or_false] at given ⊢
  simp at given ⊢
  tauto

theorem scopedRecord_envelope : ∃ fields, executionEnvelope = .record fields ∧ ScopedRecord fields := by
  refine ⟨_, rfl, ?_⟩
  simp [ScopedRecord, schemaOne]

/-- A lease that is accepted is of its type and in scope when what is not read of it is. -/
theorem conforms_read_lease {payload : Members} (named : Identified message)
    (valid : ValidPayload .serverLease payload message) :
    (Shape.conforms (.nullable (deviceTaskLease (signedExecutionPlan executionEnvelope))) (member payload "lease") = true ∧
        Scoped .serverLease payload message) ↔
      Shape.conforms (.nullable ((deviceTaskLease ((signedExecutionPlan
        (executionEnvelope.without ["tenantId"])).without ["planId"])).without ["deviceId"])) (member payload "lease") =
          true := by
  obtain ⟨⟨bearer, read, own⟩, checked⟩ := valid
  rw [bearerOf_lease] at read
  rw [Scoped, Shape.conforms_nullable, Shape.conforms_nullable]
  by_cases none : member payload "lease" = .null
  · exact iff_of_true ⟨.inl none, .inl none⟩ (.inl none)
  rw [or_iff_right none, or_iff_right none, or_iff_right none]
  obtain ⟨fields, envelope, declared⟩ := scopedRecord_envelope
  rw [conforms_lease]
  have objects {plan : Shape} (given : Shape.conforms ((deviceTaskLease plan).without ["deviceId"])
      (member payload "lease") = true) : ∃ members, member payload "lease" = .object members :=
    (Shape.conforms_record.mp given).1
  have facts : (∃ members, member payload "lease" = .object members) →
      ¬ strays (((member payload "lease").get "plan").get "envelope") message ∧
        (member payload "lease").get "deviceId" = member message "deviceId" ∧
          strictEquals ((member payload "lease").get "planId") (((member payload "lease").get "plan").get "planId") =
            true := by
    rintro ⟨members, object⟩
    rcases read with ⟨missing | missing, -⟩ | ⟨-, -, read⟩
    · rw [object] at missing
      cases missing
    · exact absurd missing none
    · rw [(readProperty_ok.mp read).2.2] at own
      have truthy : isTruthy (member payload "lease") = true := by
        rw [object]
        rfl
      obtain ⟨device, -, -, plan⟩ := checkLease_ok.mp checked truthy
      exact ⟨own, (named.equal (by decide)).mp device, plan⟩
  constructor
  · rintro ⟨⟨typed, -⟩, -, carried⟩
    obtain ⟨plan, -, replace⟩ := conforms_lease_plan typed
    have others := (conforms_plan.mp plan).1
    obtain ⟨whole, inner⟩ := conforms_plan_envelope others
    refine replace (inner ?_)
    rw [envelope] at whole ⊢
    exact (conforms_scoped declared named (facts (objects typed)).1).mp ⟨whole, carried⟩
  · intro typed
    obtain ⟨own, device, ids⟩ := facts (objects typed)
    obtain ⟨plan, id, replace⟩ := conforms_lease_plan typed
    obtain ⟨part, inner⟩ := conforms_plan_envelope plan
    rw [envelope] at part
    obtain ⟨whole, carried⟩ := (conforms_scoped declared named own).mpr part
    rw [← envelope] at whole
    obtain ⟨text, same⟩ := Shape.conforms_text.mp id
    have planId : ((member payload "lease").get "plan").get "planId" = .string text := by
      rw [same] at ids
      cases found : ((member payload "lease").get "plan").get "planId" <;> rw [found] at ids <;> simp [strictEquals] at ids
      rw [ids]
    refine ⟨⟨replace (conforms_plan.mpr ⟨inner whole, Shape.conforms_text.mpr ⟨text, planId⟩⟩), ?_⟩, ?_, carried⟩
    · exact named.text (by decide) device
    · intro name listed
      rw [List.mem_singleton.mp listed]
      exact device

end Objects

/-! ## The accepted messages of the protocol -/

section Host

/- `parse` stands for `Date.parse`. -/
variable {parse : String → Option Timestamp}

theorem isReportDigests_texts {value : JsValue} (digests : isReportDigests value = true) :
    Shape.conforms texts value = true := by
  cases value with
  | array items =>
    refine List.all_eq_true.mpr fun item listed => ?_
    have digest := List.all_eq_true.mp digests item listed
    cases item with
    | string text => rfl
    | _ => cases digest
  | _ => cases digests

/-- An accepted payload is of its type and in scope exactly when what is not read of it is of its type. -/
theorem Accepted.conforms_iff {message payload : Members} {kind : PayloadKind}
    (accepted : Accepted parse message kind payload) :
    (Shape.conformFields (("kind", .oneOf [.string kind.text]) :: kind.fields) (.object payload) = true ∧
        Scoped kind payload message) ↔ Shape.conformFields kind.unread (.object payload) = true := by
  have named : Identified message := fun name listed =>
    isDeviceId_text (accepted.framed.ids name (List.mem_cons_of_mem _ listed))
  have kinds : Shape.conforms (.oneOf [.string kind.text]) (member payload "kind") = true := by
    rw [accepted.named, Shape.conforms_oneOf]
    exact List.mem_singleton.mpr rfl
  have read (name : String) : (JsValue.object payload).get name = member payload name := rfl
  have valid := accepted.valid
  rw [Shape.conformFields_iff, Shape.conformFields_iff, List.forall_mem_cons, read, and_iff_right kinds]
  cases kind with
  | clientHello =>
    obtain ⟨protocol, transport, digests⟩ := valid
    simp only [PayloadKind.fields, PayloadKind.unread, List.forall_mem_cons, read, Scoped, protocol,
      Shape.conforms_oneOf, isReportDigests_texts digests]
    simp [transport]
  | serverError =>
    simp only [PayloadKind.fields, PayloadKind.unread, List.forall_mem_singleton, read, Scoped, Shape.conforms_oneOf]
    simpa [ValidPayload] using valid
  | clientPoll | clientHeartbeat | clientAckRequest =>
    simp only [PayloadKind.fields, PayloadKind.unread, Scoped, and_true]
  | serverChallenge =>
    simp only [PayloadKind.fields, PayloadKind.unread, List.forall_mem_singleton, read, Scoped]
    exact conforms_scoped (by simp [ScopedRecord, schemaOne]) named valid
  | serverSession =>
    simp only [PayloadKind.fields, PayloadKind.unread, List.forall_mem_singleton, read, Scoped]
    exact conforms_scoped (by simp [ScopedRecord, schemaOne]) named valid
  | serverResult =>
    simp only [PayloadKind.fields, PayloadKind.unread, List.forall_mem_singleton, read, Scoped]
    exact conforms_scoped (by simp [ScopedRecord]) named valid
  | clientProof =>
    simp only [PayloadKind.fields, PayloadKind.unread, List.forall_mem_singleton, read, Scoped]
    exact conforms_device (by simp [schemaOne]) named valid
  | serverAck =>
    simp only [PayloadKind.fields, PayloadKind.unread, List.forall_mem_singleton, read, Scoped]
    exact conforms_device (by simp [schemaOne]) named valid
  | clientResultSubmit =>
    simp only [PayloadKind.fields, PayloadKind.unread, List.forall_mem_cons, List.not_mem_nil, IsEmpty.forall_iff,
      implies_true, and_true, read, Scoped, and_assoc]
    exact and_congr_right fun _ => conforms_device (by simp) named valid
  | serverLease =>
    simp only [PayloadKind.fields, PayloadKind.unread, List.forall_mem_singleton, read]
    exact conforms_read_lease named valid

/-- An accepted message follows the protocol exactly when the fields that the validator passes over are of their types. -/
theorem followsProtocol_iff {value accepted : JsValue}
    (valid : validateDeviceProtocolMessage parse value = .ok accepted) : FollowsProtocol value ↔ UnreadTyped value := by
  obtain ⟨-, message, kind, payload, rfl, accepts⟩ := validateDeviceProtocolMessage_ok.mp valid
  have carried : payloadOf (member message "payload") = .ok (kind, payload) :=
    payloadOf_ok.mpr ⟨accepts.carried, PayloadKind.ofValue_eq.mpr accepts.named⟩
  constructor
  · rintro ⟨_, kind, payload, ⟨⟩, found, typed, own⟩
    cases carried.symm.trans found
    exact ⟨_, _, _, rfl, found, accepts.conforms_iff.mp ⟨typed, own⟩⟩
  · rintro ⟨_, kind, payload, ⟨⟩, found, typed⟩
    cases carried.symm.trans found
    obtain ⟨typed, own⟩ := accepts.conforms_iff.mpr typed
    exact ⟨_, _, _, rfl, found, typed, own⟩

end Host

/-- A poll of a client, with a session or without. -/
def pollMessage (session : Members) : JsValue :=
  .object [("schemaVersion", .number 1), ("frameId", .string "frame.c.1"), ("causationId", .null),
    ("tenantId", .string "test.alpha"), ("userId", .string "user.owner"), ("deviceId", .string "device.owner"),
    ("sentAt", .string "2026-01-01"), ("payload", .object (("kind", .string "client.poll") :: session))]

theorem followsProtocol_poll :
    validateDeviceProtocolMessage parseNewYear (pollMessage [("sessionId", .string "session.1")]) =
      .ok (pollMessage [("sessionId", .string "session.1")]) ∧
    (FollowsProtocol (pollMessage [("sessionId", .string "session.1")]) ↔
      UnreadTyped (pollMessage [("sessionId", .string "session.1")])) := by
  have valid : validateDeviceProtocolMessage parseNewYear (pollMessage [("sessionId", .string "session.1")]) =
      .ok (pollMessage [("sessionId", .string "session.1")]) := by decide
  exact ⟨valid, followsProtocol_iff valid⟩

/-- A poll without a session is accepted. -/
theorem poll_without_session : ¬ (validateDeviceProtocolMessage parseNewYear (pollMessage []) = .ok (pollMessage []) →
      FollowsProtocol (pollMessage [])) := by
  intro claimed
  obtain ⟨message, kind, payload, same, found, typed, -⟩ := claimed (by decide)
  cases same
  have carried : payloadOf (.object [("kind", .string "client.poll")]) =
      .ok (.clientPoll, [("kind", .string "client.poll")]) := by decide
  cases carried.symm.trans found
  exact absurd typed (by decide)

end QuarkSelfAI.ClientRuntime

import QuarkSelfAI.ClientRuntime.DeviceCodec
import QuarkSelfAI.Foundation.LooseJson

/-!
# Accepted device messages

What the validator of the device protocol accepts, said once for all kinds of payload, and that it still accepts a message
without its undefined members, as it arrives when it was written as JSON.
-/

namespace QuarkSelfAI.ClientRuntime

open Foundation CapabilityPlatform

/-! ## What is accepted -/

variable {kind : PayloadKind}

theorem payloadOf_ok {value : JsValue} {payload : Members} : payloadOf value = .ok (kind, payload) ↔
      value = .object payload ∧ PayloadKind.ofValue (member payload "kind") = some kind := by
  cases value with
  | object members =>
    rw [payloadOf]
    cases found : PayloadKind.ofValue (member members "kind") with
    | none =>
      refine iff_of_false nofun ?_
      rintro ⟨same, named⟩
      cases same
      rw [found] at named
      cases named
    | some other =>
      constructor
      · intro same
        cases same
        exact ⟨rfl, found⟩
      · rintro ⟨same, named⟩
        cases same
        cases found.symm.trans named
        rfl
  | _ => exact iff_of_false nofun fun both => by cases both.1

theorem PayloadKind.ofValue_eq {value : JsValue} :
    PayloadKind.ofValue value = some kind ↔ value = .string kind.text := by
  constructor
  · intro found
    simpa using List.find?_some found
  · rintro rfl
    cases kind <;> decide

/-- What is checked of the payload of one kind, its names apart. -/
def ValidPayload (kind : PayloadKind) (payload message : Members) : Prop :=
  match kind with
  | .clientHello =>
    member payload "protocol" = .string "quark-device-sync.v1" ∧
      member payload "transport" ∈ [JsValue.string "direct-tls", .string "ssh-subsystem"] ∧
      isReportDigests (member payload "executorReportDigests") = true
  | .serverChallenge => ¬ strays (member payload "challenge") message
  | .serverSession => ¬ strays (member payload "session") message
  | .serverResult => ¬ strays (member payload "result") message
  | .clientProof => checkDevice (member payload "proof") message "device proof scope differs from message scope" = .ok ()
  | .serverAck =>
    checkDevice (member payload "acknowledgement") message "device acknowledgement scope differs from message scope" =
      .ok ()
  | .clientResultSubmit =>
    checkDevice (member payload "result") message "device result scope differs from message scope" = .ok ()
  | .serverLease =>
    (∃ bearer, bearerOf .serverLease payload = .ok bearer ∧ ¬ strays bearer message) ∧
      checkLease (member payload "lease") message = .ok ()
  | .serverError => member payload "code" ∈ [JsValue.string "request-rejected", .string "temporarily-unavailable"]
  | .clientPoll | .clientHeartbeat | .clientAckRequest => True

theorem strays_undefined {message : Members} : ¬ strays .undefined message := fun found => by cases found.1

theorem validatePayload_ok {payload message : Members} {done : Unit} : validatePayload kind payload message = .ok done ↔
      KnownKeys payload kind.keys ∧ ValidPayload kind payload message := by
  cases done
  cases kind with
  | clientHello => simp [validatePayload, checkHello, bind_ok, ValidPayload, exactKeys_ok, or_iff_not_imp_left]
  | serverLease =>
    simp only [validatePayload, reduceCtorEq, if_false, if_true, bind_ok, throwIf_ok, exactKeys_ok, pure, Except.pure,
      ValidPayload]
    constructor
    · rintro ⟨bearer, read, ⟨⟩, own, ⟨⟩, lease, ⟨⟩, known, -⟩
      exact ⟨known, ⟨bearer, read, own⟩, lease⟩
    · rintro ⟨known, ⟨bearer, read, own⟩, lease⟩
      exact ⟨bearer, read, (), own, (), lease, (), known, trivial⟩
  | serverError =>
    simp [validatePayload, bearerOf, bind_ok, ValidPayload, exactKeys_ok, strays_undefined, or_iff_not_imp_left]
  | _ =>
    simp [validatePayload, bearerOf, bind_ok, ValidPayload, exactKeys_ok, strays_undefined, Unique.exists_iff, and_comm]

section Host

/- `parse` stands for `Date.parse`. -/
variable (parse : String → Option Timestamp)

/-- What is checked of a message outside its payload. -/
structure Framed (message : Members) : Prop where
  known : KnownKeys message messageKeys
  schema : member message "schemaVersion" = .number 1
  ids : ∀ key ∈ ["frameId", "tenantId", "userId", "deviceId"], isDeviceId (member message key) = true
  cause : member message "causationId" = .null ∨ isDeviceId (member message "causationId") = true
  sent : isSentAt parse (member message "sentAt") = true

/-- A message of one kind that is accepted. -/
structure Accepted (message : Members) (kind : PayloadKind) (payload : Members) : Prop where
  framed : Framed parse message
  carried : member message "payload" = .object payload
  named : member payload "kind" = .string kind.text
  known : KnownKeys payload kind.keys
  valid : ValidPayload kind payload message
  harmless : isSensitive (.object message) = false

variable {parse}

theorem validateDeviceProtocolMessage_ok {value accepted : JsValue} :
    validateDeviceProtocolMessage parse value = .ok accepted ↔
      accepted = value ∧ ∃ message kind payload, value = .object message ∧ Accepted parse message kind payload := by
  cases value with
  | object message =>
    simp only [validateDeviceProtocolMessage, bind_ok, throwIf_ok, exactKeys_ok, Except.ok.injEq]
    constructor
    · rintro ⟨_, rfl, ⟨⟩, known, ⟨⟩, schema, ⟨⟩, ids, ⟨⟩, cause, ⟨⟩, sent, ⟨kind, payload⟩, carried, ⟨⟩, checked, ⟨⟩,
        harmless, rfl⟩
      rw [forM_ok] at ids
      obtain ⟨carried, named⟩ := payloadOf_ok.mp carried
      obtain ⟨known', valid⟩ := validatePayload_ok.mp checked
      refine ⟨rfl, message, kind, payload, rfl, ⟨known, not_not.mp schema, fun key listed => ?_, ?_, by simpa using sent⟩,
        carried, PayloadKind.ofValue_eq.mp named, known', valid, by simpa using harmless⟩
      · have checked := ids key listed
        rw [throwIf_ok] at checked
        simpa using checked
      · by_contra other
        rw [not_or] at other
        exact cause ⟨other.1, by simpa using other.2⟩
    · rintro ⟨rfl, _, kind, payload, ⟨⟩, ⟨known, schema, ids, cause, sent⟩, carried, named, known', valid, harmless⟩
      refine ⟨message, rfl, (), known, (), not_not.mpr schema, (), forM_ok.mpr fun key listed => ?_, (), ?_, (),
        by simpa using sent, (kind, payload), payloadOf_ok.mpr ⟨carried, PayloadKind.ofValue_eq.mpr named⟩, (),
        validatePayload_ok.mpr ⟨known', valid⟩, (), by simpa using harmless, rfl⟩
      · rw [throwIf_ok, ids key listed]
        decide
      · rintro ⟨other, wrong⟩
        rcases cause with none | right
        · exact other none
        · rw [wrong] at right
          cases right
  | _ =>
    refine iff_of_false ?_ ?_
    · simp [validateDeviceProtocolMessage, bind_ok]
    · rintro ⟨-, _, _, _, same, -⟩
      cases same

end Host

/-! ## Without undefined members -/

section Kept

variable {value other : JsValue} {members payload message arrived : Members} {text : String}

/-- What is read off JSON but for undefined members. -/
def Readable (value : JsValue) : Prop := value = .undefined ∨ value.Loose

theorem member_stringified (distinct : JsValue.Distinct members) (name : String) :
    member (JsValue.stringifiedMembers members) name = (member members name).kept :=
  JsValue.lookup_stringified distinct name

theorem readable_member (loose : (JsValue.object members).Loose) (name : String) : Readable (member members name) := by
  cases loose with
  | object distinct each =>
    rw [member]
    cases found : members.lookup name with
    | none => exact .inl rfl
    | some value =>
      rw [Option.getD_some]
      by_cases missing : value = .undefined
      · exact .inl missing
      · exact .inr (each (name, value) ((JsValue.lookup_eq_some_iff distinct).mp found) missing)

theorem Readable.get (readable : Readable value) (name : String) : Readable (value.get name) := by
  rcases readable with rfl | loose
  · exact .inl rfl
  · cases loose with
    | object distinct each => exact readable_member (.object distinct each) name
    | _ => exact .inl rfl

theorem get_kept (readable : Readable value) (name : String) : value.kept.get name = (value.get name).kept := by
  rcases readable with rfl | loose
  · rfl
  · rw [loose.kept]
    cases loose with
    | object distinct each => exact member_stringified distinct name
    | _ => rfl

theorem isDeviceId_kept : isDeviceId value.kept = isDeviceId value := by cases value <;> rfl

theorem isTruthy_kept : isTruthy value.kept = isTruthy value := by cases value <;> rfl

theorem strictEquals_string : strictEquals value (.string text) = true ↔ value = .string text := by
  cases value <;> simp [strictEquals]

theorem strictEquals_text : strictEquals value.kept (.string text) = strictEquals value (.string text) := by
  cases value <;> rfl

theorem strictEquals_kept (same : strictEquals value other = true) : strictEquals value.kept other.kept = true := by
  cases value <;> cases other <;> first | exact same | cases same

theorem kept_missing (readable : Readable value) (given : value ≠ .undefined) (filled : value ≠ .null) :
    value.kept ≠ .undefined ∧ value.kept ≠ .null := by
  rcases readable with missing | loose
  · exact absurd missing given
  · cases loose with
    | null => exact absurd rfl filled
    | _ => exact ⟨nofun, nofun⟩

theorem hasMember_kept {name : String} (has : hasMember value.kept name = true) : hasMember value name = true := by
  cases value with
  | object members =>
    have names : (JsValue.object members).kept.members = JsValue.stringifiedMembers members := rfl
    rw [hasMember, names, JsValue.stringifiedMembers_eq, List.any_eq_true] at has
    obtain ⟨member, listed, named⟩ := has
    obtain ⟨own, there, rfl⟩ := List.mem_map.mp listed
    exact List.any_eq_true.mpr ⟨own, (List.mem_filter.mp there).1, named⟩
  | _ => cases has

theorem readProperty_ok {name : String} :
    readProperty value name = .ok other ↔ value ≠ .undefined ∧ value ≠ .null ∧ other = value.get name := by
  cases value <;> simp [readProperty, eq_comm]

/-- Both messages name one tenant, user and device. -/
def SameScope (message arrived : Members) : Prop :=
  ∀ key ∈ ["tenantId", "userId", "deviceId"], ∃ text, member message key = .string text ∧ member arrived key = .string text

theorem SameScope.strays (scope : SameScope message arrived) (readable : Readable value)
    (own : ¬ strays value message) : ¬ strays value.kept arrived := by
  obtain ⟨tenant, sent, came⟩ := scope "tenantId" (by decide)
  obtain ⟨user, sent', came'⟩ := scope "userId" (by decide)
  obtain ⟨device, sent'', came''⟩ := scope "deviceId" (by decide)
  rintro ⟨truthy, differs⟩
  refine own ⟨by rwa [isTruthy_kept] at truthy, ?_⟩
  rw [came, came', came'', get_kept readable, get_kept readable, get_kept readable, strictEquals_text,
    strictEquals_text, strictEquals_text] at differs
  rw [sent, sent', sent'']
  rcases differs with tenant | ⟨has, user⟩ | ⟨has, device⟩
  · exact .inl tenant
  · exact .inr (.inl ⟨hasMember_kept has, user⟩)
  · exact .inr (.inr ⟨hasMember_kept has, device⟩)

theorem checkDevice_ok {error : String} :
    checkDevice value message error = .ok () ↔ value ≠ .undefined ∧ value ≠ .null ∧
      strictEquals (value.get "deviceId") (member message "deviceId") = true := by
  simp only [checkDevice, bind_ok, readProperty_ok, throwIf_ok, Bool.not_eq_false]
  constructor
  · rintro ⟨_, ⟨given, filled, rfl⟩, same⟩
    exact ⟨given, filled, same⟩
  · rintro ⟨given, filled, same⟩
    exact ⟨_, ⟨given, filled, rfl⟩, same⟩

theorem SameScope.checkDevice {error : String} (scope : SameScope message arrived) (readable : Readable value)
    (own : checkDevice value message error = .ok ()) : checkDevice value.kept arrived error = .ok () := by
  obtain ⟨given, filled, same⟩ := checkDevice_ok.mp own
  obtain ⟨device, sent, came⟩ := scope "deviceId" (by decide)
  have missing := kept_missing readable given filled
  refine checkDevice_ok.mpr ⟨missing.1, missing.2, ?_⟩
  rw [came, get_kept readable, strictEquals_text, ← sent]
  exact same

theorem bearerOf_lease : bearerOf .serverLease payload = .ok value ↔
    ((member payload "lease" = .undefined ∨ member payload "lease" = .null) ∧ value = .undefined) ∨
      (member payload "lease" ≠ .undefined ∧ member payload "lease" ≠ .null ∧
        readProperty ((member payload "lease").get "plan") "envelope" = .ok value) := by
  rw [bearerOf]
  cases member payload "lease" <;> simp [eq_comm]

theorem checkLease_ok : checkLease value message = .ok () ↔
    (isTruthy value = true → strictEquals (value.get "deviceId") (member message "deviceId") = true ∧
      (value.get "plan") ≠ .undefined ∧ (value.get "plan") ≠ .null ∧
        strictEquals (value.get "planId") ((value.get "plan").get "planId") = true) := by
  rw [checkLease]
  by_cases truthy : isTruthy value = true
  · rw [if_pos truthy, imp_iff_right truthy]
    by_cases own : strictEquals (value.get "deviceId") (member message "deviceId") = true
    · rw [if_pos own, and_iff_right own]
      simp only [bind_ok, readProperty_ok, throwIf_ok, Bool.not_eq_false]
      constructor
      · rintro ⟨_, ⟨given, filled, rfl⟩, same⟩
        exact ⟨given, filled, same⟩
      · rintro ⟨given, filled, same⟩
        exact ⟨_, ⟨given, filled, rfl⟩, same⟩
    · rw [if_neg own]
      exact iff_of_false (fun same => by cases same) fun both => own both.1
  · rw [if_neg truthy]
    exact iff_of_true rfl fun other => absurd other truthy

theorem SameScope.checkLease (scope : SameScope message arrived) (readable : Readable value)
    (own : checkLease value message = .ok ()) : checkLease value.kept arrived = .ok () := by
  obtain ⟨device, sent, came⟩ := scope "deviceId" (by decide)
  refine checkLease_ok.mpr fun truthy => ?_
  rw [isTruthy_kept] at truthy
  obtain ⟨same, given, filled, plan⟩ := checkLease_ok.mp own truthy
  have missing := kept_missing (readable.get "plan") given filled
  rw [came, get_kept readable, get_kept readable, get_kept readable, get_kept (readable.get "plan"), strictEquals_text,
    ← sent]
  exact ⟨same, missing.1, missing.2, strictEquals_kept plan⟩

theorem kept_text (same : value = .string text) : value.kept = .string text := by
  subst same
  rfl

theorem isReportDigests_kept (digests : isReportDigests value = true) : isReportDigests value.kept = true := by
  cases value with
  | array items =>
    have each : ∀ item ∈ items, isReportDigest item = true := List.all_eq_true.mp digests
    have written : (JsValue.array items).kept = .array (JsValue.stringifiedItems items) := rfl
    rw [written, JsValue.stringifiedItems_eq]
    refine List.all_eq_true.mpr fun item listed => ?_
    obtain ⟨own, there, rfl⟩ := List.mem_map.mp listed
    have digest := each own there
    cases own with
    | string text => exact digest
    | _ => cases digest
  | _ => cases digests

theorem ValidPayload.kept (scope : SameScope message arrived)
    (loose : (JsValue.object payload).Loose) (valid : ValidPayload kind payload message) :
    ValidPayload kind (JsValue.stringifiedMembers payload) arrived := by
  have distinct : JsValue.Distinct payload := by
    cases loose
    assumption
  have readable := readable_member loose
  cases kind with
  | clientHello =>
    obtain ⟨protocol, transport, digests⟩ := valid
    simp only [ValidPayload, member_stringified distinct]
    refine ⟨kept_text protocol, ?_, isReportDigests_kept digests⟩
    simp only [List.mem_cons, List.not_mem_nil, or_false] at transport ⊢
    exact transport.imp kept_text kept_text
  | serverError =>
    simp only [ValidPayload, member_stringified distinct, List.mem_cons, List.not_mem_nil, or_false] at valid ⊢
    exact valid.imp kept_text kept_text
  | serverChallenge | serverSession | serverResult =>
    simp only [ValidPayload, member_stringified distinct] at valid ⊢
    exact scope.strays (readable _) valid
  | clientProof | serverAck | clientResultSubmit =>
    simp only [ValidPayload, member_stringified distinct] at valid ⊢
    exact scope.checkDevice (readable _) valid
  | serverLease =>
    obtain ⟨⟨bearer, read, own⟩, lease⟩ := valid
    have readable := readable "lease"
    refine ⟨⟨bearer.kept, ?_, ?_⟩, ?_⟩
    · rw [bearerOf_lease] at read ⊢
      rw [member_stringified distinct]
      rcases read with ⟨missing | none, same⟩ | ⟨given, filled, read⟩
      · rw [missing, same]
        exact .inl ⟨.inl rfl, rfl⟩
      · rw [none, same]
        exact .inl ⟨.inr rfl, rfl⟩
      · have missing := kept_missing readable given filled
        obtain ⟨given', filled', same⟩ := readProperty_ok.mp read
        have plan := kept_missing (readable.get "plan") given' filled'
        refine .inr ⟨missing.1, missing.2, ?_⟩
        rw [get_kept readable, readProperty_ok, get_kept (readable.get "plan"), same]
        exact ⟨plan.1, plan.2, rfl⟩
    · refine scope.strays ?_ own
      rcases bearerOf_lease.mp read with ⟨-, same⟩ | ⟨-, -, read⟩
      · exact .inl same
      · rw [(readProperty_ok.mp read).2.2]
        exact (readable.get "plan").get "envelope"
    · rw [member_stringified distinct]
      exact scope.checkLease readable lease
  | clientPoll | clientHeartbeat | clientAckRequest => trivial

theorem areSensitive_iff {items : List JsValue} :
    areSensitive items = false ↔ ∀ item ∈ items, isSensitive item = false := by
  induction items with
  | nil => simp [areSensitive]
  | cons item items ih => simp [areSensitive, ih]

theorem haveSensitive_iff : haveSensitive members = false ↔ ∀ member ∈ members, isSensitive member.2 = false := by
  induction members with
  | nil => simp [haveSensitive]
  | cons member members ih => simp [haveSensitive, ih]

theorem isSensitive_stringified (harmless : isSensitive value = false) : isSensitive value.stringified = false := by
  induction value using JsValue.induct with
  | array items ih =>
    rw [isSensitive, areSensitive_iff] at harmless
    rw [JsValue.stringified, isSensitive, areSensitive_iff, JsValue.stringifiedItems_eq]
    intro item listed
    obtain ⟨own, there, rfl⟩ := List.mem_map.mp listed
    exact ih own there (harmless own there)
  | object members ih =>
    rw [isSensitive, haveSensitive_iff] at harmless
    rw [JsValue.stringified, isSensitive, haveSensitive_iff, JsValue.stringifiedMembers_eq]
    intro member listed
    obtain ⟨own, there, rfl⟩ := List.mem_map.mp listed
    have there := (List.mem_filter.mp there).1
    exact ih own there (harmless own there)
  | string text => exact harmless
  | _ => rfl

theorem knownKeys_stringified {allowed : List String} (known : KnownKeys members allowed) :
    KnownKeys (JsValue.stringifiedMembers members) allowed := by
  intro name listed
  rw [JsValue.stringifiedMembers_eq, List.map_map] at listed
  obtain ⟨member, there, rfl⟩ := List.mem_map.mp listed
  exact known (List.mem_map.mpr ⟨member, (List.mem_filter.mp there).1, rfl⟩)

theorem isDeviceId_text (accepted : isDeviceId value = true) : ∃ text, value = .string text := by
  cases value with
  | string text => exact ⟨text, rfl⟩
  | _ => cases accepted

variable {parse : String → Option Timestamp}

theorem isSentAt_kept (sent : isSentAt parse value = true) : isSentAt parse value.kept = true := by
  cases value with
  | string text => exact sent
  | _ => cases sent

theorem Accepted.kept (loose : (JsValue.object message).Loose) (accepted : Accepted parse message kind payload) :
    Accepted parse (JsValue.stringifiedMembers message) kind (JsValue.stringifiedMembers payload) := by
  have distinct : JsValue.Distinct message := by
    cases loose
    assumption
  have inner : (JsValue.object payload).Loose := by
    rcases readable_member loose "payload" with missing | carried
    · rw [accepted.carried] at missing
      cases missing
    · rwa [accepted.carried] at carried
  have distinct' : JsValue.Distinct payload := by
    cases inner
    assumption
  have ids := accepted.framed.ids
  have scope : SameScope message (JsValue.stringifiedMembers message) := by
    intro key listed
    obtain ⟨text, same⟩ := isDeviceId_text (ids key (List.mem_cons_of_mem _ listed))
    exact ⟨text, same, by rw [member_stringified distinct, kept_text same]⟩
  have framed : Framed parse (JsValue.stringifiedMembers message) := by
    refine ⟨knownKeys_stringified accepted.framed.known, ?_, fun key listed => ?_, ?_, ?_⟩
    · rw [member_stringified distinct, accepted.framed.schema]
      rfl
    · rw [member_stringified distinct, isDeviceId_kept]
      exact ids key listed
    · rw [member_stringified distinct, isDeviceId_kept]
      exact accepted.framed.cause.imp_left fun none => by rw [none]; rfl
    · rw [member_stringified distinct]
      exact isSentAt_kept accepted.framed.sent
  refine ⟨framed, ?_, ?_, knownKeys_stringified accepted.known, accepted.valid.kept scope inner, ?_⟩
  · rw [member_stringified distinct, accepted.carried]
    rfl
  · rw [member_stringified distinct', kept_text accepted.named]
  · exact isSensitive_stringified accepted.harmless

/-- A message is accepted without its undefined members. -/
theorem validate_stringified (loose : value.Loose) (accepted : validateDeviceProtocolMessage parse value = .ok value) :
    validateDeviceProtocolMessage parse value.stringified = .ok value.stringified := by
  obtain ⟨-, message, kind, payload, rfl, accepts⟩ := validateDeviceProtocolMessage_ok.mp accepted
  exact validateDeviceProtocolMessage_ok.mpr ⟨rfl, _, kind, _, rfl, accepts.kept loose⟩

end Kept

/-- `Date.parse` on one text. -/
def parseNewYear (text : String) : Option Timestamp := if text = "2026-01-01" then some 1767225600000 else none

end QuarkSelfAI.ClientRuntime

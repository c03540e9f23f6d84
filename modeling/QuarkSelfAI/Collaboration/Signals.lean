import QuarkSelfAI.Collaboration.Workflow
import QuarkSelfAI.Foundation.WriteOnce

/-!
# Recorded signals

`observe`, `recordOwnerMessage` and `recordPolicyDecision` append one signal each. Its id is a digest of the message or of
the decision, while its content has the time of the call and what was derived from the arguments, and the store refuses
another content under an id. The scope of a signal follows from its data and is left out.
-/

namespace QuarkSelfAI.Collaboration

open Foundation Workflow

/-! ## Messages and decisions -/

inductive AttentionTier where
  | silent
  | today
  | realtime
deriving DecidableEq

inductive NotificationDecision where
  | silent
  | notify
deriving DecidableEq

inductive Difference where
  | aligned
  | possibleNoise
  | couldBatch
  | possibleMiss
deriving DecidableEq

inductive TaskAction where
  | created
  | updated
  | unchanged
  | ignored
deriving DecidableEq

inductive ResearchDecision where
  | start
  | confirm
  | skip
deriving DecidableEq

structure Observation where
  observedAt : Timestamp
  messageId : String
  chatId : Option String
  senderId : Option String
  intakeReasons : List String
  attentionTier : AttentionTier
  actualNotification : NotificationDecision
  difference : Difference
  taskAction : TaskAction
  approvalRequired : Bool
  researchDecision : ResearchDecision
  signalType : Option String
  emojiType : Option String
  ownerOperated : Option Bool
deriving DecidableEq

structure MessageSignal where
  type : String
  operation : Option String
  emojiType : Option String
  ownerOperated : Option Bool

structure CollaborationMessage where
  messageId : String
  chatId : Option String
  senderId : Option String
  intakeReasons : List String
  signal : Option MessageSignal

inductive ActionOwner where
  | changdongxu
  | shared
  | other
  | unknown
deriving DecidableEq

/-- What was decided about a message. An absent flag is `false`. -/
structure CollaborationTaskDecision where
  priority : Option Rat
  dueDate : Option String
  notificationDecision : Option NotificationDecision
  needsClarification : Bool
  actionRequired : Bool
  actionOwner : Option ActionOwner
  researchDecision : Option ResearchDecision
  approvalRequired : Bool
  taskAction : Option TaskAction
  materialChangeSummary : Option String

/-- A text that is there and not empty. -/
def present (text : Option String) : Option String := text.filter (· ≠ "")

def unique (values : List String) : List String := distinct (values.filter (· ≠ ""))

def isDueSoon (host : Host) (task : CollaborationTaskDecision) (now : Timestamp) : Bool :=
  ((present task.dueDate).bind host.parseDate).any (· ≤ now + 86400000)

def classifyAttention (host : Host) (task : CollaborationTaskDecision) (now : Timestamp) : AttentionTier :=
  let priority := task.priority.getD 0
  if priority = 5 ∨ (3 ≤ priority ∧ isDueSoon host task now) then .realtime
  else if task.notificationDecision = some .notify ∨ 3 ≤ priority ∨ task.needsClarification ∨
      task.researchDecision = some .start ∨ task.researchDecision = some .confirm ∨
      (task.actionRequired ∧ (task.actionOwner = some .changdongxu ∨ task.actionOwner = some .shared)) then .today
  else .silent

def difference (actualNotification : NotificationDecision) (attentionTier : AttentionTier) : Difference :=
  match actualNotification, attentionTier with
  | .notify, .silent => .possibleNoise
  | .notify, .today => .couldBatch
  | .silent, .realtime => .possibleMiss
  | _, _ => .aligned

/-! ## Signals -/

def signalId (host : Host) (tag : String) (parts : List String) : String :=
  tag ++ ":" ++ host.digest 64 (Host.joined parts)

/-- An observation as it is stored, with the members that no review reads. -/
structure ObservationRecord extends Observation where
  actionOwner : ActionOwner
  materialChange : Bool
  signalOperation : Option String
deriving DecidableEq

/-- What is kept of the text of a message of the owner. -/
structure MessageCues where
  shortMessage : Bool
  continuationCue : Bool
  correctionCue : Bool
  approvalCue : Bool
  rejectionCue : Bool
deriving DecidableEq

inductive RecordedData where
  | observation (observation : ObservationRecord)
  | directMessage (messageId : String) (explicitReply : Bool) (cues : MessageCues)
  | policyDecision (policyId : String) (decision : PolicyDecision)
  /-- A signal that something else appends, with its texts. -/
  | other (kind scope data : String)
deriving DecidableEq

structure RecordedSignal where
  id : String
  occurredAt : Timestamp
  data : RecordedData
deriving DecidableEq

abbrev SignalTable := Table RecordedSignal.id

def appendSignal (input : RecordedSignal) (signals : SignalTable) : Except String Bool × SignalTable :=
  signals.append (fun refused => s!"signal {refused.id} already exists with different durable content") input

def observationOf (host : Host) (message : CollaborationMessage) (task : CollaborationTaskDecision) (now : Timestamp) :
    ObservationRecord :=
  let attentionTier := classifyAttention host task now
  let actualNotification := task.notificationDecision.getD .silent
  { observedAt := now
    messageId := message.messageId
    chatId := present message.chatId
    senderId := present message.senderId
    intakeReasons := (unique message.intakeReasons).take 5
    attentionTier
    actualNotification
    difference := difference actualNotification attentionTier
    taskAction := task.taskAction.getD .ignored
    approvalRequired := task.approvalRequired
    researchDecision := task.researchDecision.getD .skip
    actionOwner := task.actionOwner.getD .unknown
    materialChange := (present task.materialChangeSummary).isSome
    signalType := present (message.signal.map (·.type))
    signalOperation := present (message.signal.bind (·.operation))
    emojiType := present (message.signal.bind (·.emojiType))
    ownerOperated := message.signal.bind (·.ownerOperated) }

def cuesOf (text : String) : MessageCues :=
  let normalized := trim text
  { shortMessage := utf16Length normalized ≤ 20
    continuationCue := ["继续", "就这个", "按这个", "可以", "好的", "处理吧", "执行吧", "改一下", "再补充", "另外"].any
      (startsWith normalized)
    correctionCue := ["不对", "不是", "应该", "改为", "改成", "纠正", "补充"].any (includes normalized)
    approvalCue := ["同意", "批准", "确认", "可以执行", "执行吧"].any (includes normalized)
    rejectionCue := ["不同意", "不批准", "先不", "暂不", "不要", "取消"].any (includes normalized) }

def observationSignal (host : Host) (message : CollaborationMessage) (task : CollaborationTaskDecision)
    (now : Timestamp) : RecordedSignal :=
  ⟨signalId host "collaboration-observation" [message.messageId], now, .observation (observationOf host message task now)⟩

def ownerMessageSignal (host : Host) (messageId text : String) (explicitReply : Bool) (now : Timestamp) :
    RecordedSignal :=
  ⟨signalId host "collaboration-owner-message" [messageId], now, .directMessage messageId explicitReply (cuesOf text)⟩

def policyDecisionSignal (host : Host) (policyId : String) (decision : PolicyDecision) (now : Timestamp) :
    RecordedSignal :=
  ⟨signalId host "collaboration-policy-decision" [policyId, decision.text], now, .policyDecision policyId decision⟩

def observe (host : Host) (message : CollaborationMessage) (task : CollaborationTaskDecision) (now : Timestamp) :
    SignalTable → Except String Bool × SignalTable :=
  appendSignal (observationSignal host message task now)

def recordOwnerMessage (host : Host) (messageId text : String) (explicitReply : Bool) (now : Timestamp) :
    SignalTable → Except String Bool × SignalTable :=
  appendSignal (ownerMessageSignal host messageId text explicitReply now)

def recordPolicyDecision (host : Host) (policyId : String) (decision : PolicyDecision) (now : Timestamp) :
    SignalTable → Except String Bool × SignalTable :=
  appendSignal (policyDecisionSignal host policyId decision now)

/-! ## Calls -/

def recordingTags : List String :=
  ["collaboration-observation", "collaboration-owner-message", "collaboration-policy-decision"]

/-- A signal under an id that has none of the three tags. -/
structure OtherSignal where
  id : String
  occurredAt : Timestamp
  kind : String
  scope : String
  data : String
  elsewhere : ∀ tag ∈ recordingTags, ∀ rest, id ≠ tag ++ ":" ++ rest

inductive SignalCall where
  | observe (message : CollaborationMessage) (task : CollaborationTaskDecision) (now : Timestamp)
  | recordOwnerMessage (messageId text : String) (explicitReply : Bool) (now : Timestamp)
  | recordPolicyDecision (policyId : String) (decision : PolicyDecision) (now : Timestamp)
  | append (signal : OtherSignal)

/-- The calls of a process, in the order in which the store answers them. -/
def signalLog (host : Host) : Machine SignalTable SignalCall (Except String Bool) where
  initial := .empty
  perform
    | .observe message task now => observe host message task now
    | .recordOwnerMessage messageId text explicitReply now => recordOwnerMessage host messageId text explicitReply now
    | .recordPolicyDecision policyId decision now => recordPolicyDecision host policyId decision now
    | .append signal => appendSignal ⟨signal.id, signal.occurredAt, .other signal.kind signal.scope signal.data⟩

/-- The signal that a call appends. -/
def SignalCall.signal (host : Host) : SignalCall → RecordedSignal
  | .observe message task now => observationSignal host message task now
  | .recordOwnerMessage messageId text explicitReply now => ownerMessageSignal host messageId text explicitReply now
  | .recordPolicyDecision policyId decision now => policyDecisionSignal host policyId decision now
  | .append signal => ⟨signal.id, signal.occurredAt, .other signal.kind signal.scope signal.data⟩

/-- What a call records: an observed message, a message of the owner, or a decision about a policy. -/
inductive Subject where
  | observed (messageId : String)
  | ownerMessage (messageId : String)
  | policyDecision (policyId : String) (decision : PolicyDecision)
deriving DecidableEq

def SignalCall.subject : SignalCall → Option Subject
  | .observe message _ _ => some (.observed message.messageId)
  | .recordOwnerMessage messageId _ _ _ => some (.ownerMessage messageId)
  | .recordPolicyDecision policyId decision _ => some (.policyDecision policyId decision)
  | .append _ => none

/-- The second call is answered with `false`, and the signal of the first one is stored. -/
def Idempotent (host : Host) (signals : SignalTable) (first second : SignalCall × Except String Bool) : Prop :=
  first.1.subject.isSome → first.1.subject = second.1.subject →
    second.2 = .ok false ∧ signals.find? (first.1.signal host).id = some (first.1.signal host)

/-- Two messages and decisions that are observed alike at one time. -/
structure ObservedAlike (host : Host) (now : Timestamp) (message other : CollaborationMessage)
    (task later : CollaborationTaskDecision) : Prop where
  chatId : present message.chatId = present other.chatId
  senderId : present message.senderId = present other.senderId
  intakeReasons : (unique message.intakeReasons).take 5 = (unique other.intakeReasons).take 5
  attentionTier : classifyAttention host task now = classifyAttention host later now
  notificationDecision : task.notificationDecision.getD .silent = later.notificationDecision.getD .silent
  taskAction : task.taskAction.getD .ignored = later.taskAction.getD .ignored
  approvalRequired : task.approvalRequired = later.approvalRequired
  researchDecision : task.researchDecision.getD .skip = later.researchDecision.getD .skip
  actionOwner : task.actionOwner.getD .unknown = later.actionOwner.getD .unknown
  materialChange : (present task.materialChangeSummary).isSome = (present later.materialChangeSummary).isSome
  signalType : present (message.signal.map (·.type)) = present (other.signal.map (·.type))
  signalOperation : present (message.signal.bind (·.operation)) = present (other.signal.bind (·.operation))
  emojiType : present (message.signal.bind (·.emojiType)) = present (other.signal.bind (·.emojiType))
  ownerOperated : message.signal.bind (·.ownerOperated) = other.signal.bind (·.ownerOperated)

/-- Two calls for one subject are made at one time, with arguments that are recorded alike. -/
def RepeatedAlike (host : Host) : SignalCall → SignalCall → Prop
  | .observe message task now, .observe other later again =>
    message.messageId = other.messageId → now = again ∧ ObservedAlike host now message other task later
  | .recordOwnerMessage messageId text explicitReply now, .recordOwnerMessage other another alsoReply again =>
    messageId = other → now = again ∧ explicitReply = alsoReply ∧ cuesOf text = cuesOf another
  | .recordPolicyDecision policyId decision now, .recordPolicyDecision other same again =>
    policyId = other → decision = same → now = again
  | _, _ => True

/-! ## Ids and contents -/

section Calls

variable {host : Host} {call later : SignalCall} {subject : Subject}

/-- The store is a table that is written once. -/
theorem signalLog_eq : signalLog host = writeOnce (SignalCall.signal host) fun refused =>
    s!"signal {refused.id} already exists with different durable content" := by
  rw [signalLog, writeOnce]
  congr
  funext call
  cases call <;> rfl

theorem signalId_inj (collisionFree : Function.Injective (host.digest 64)) {tag other : String}
    {parts others : List String} (inTag : ':' ∉ tag.toList) (inOther : ':' ∉ other.toList) :
    signalId host tag parts = signalId host other others ↔ tag = other ∧ Host.joined parts = Host.joined others := by
  have colon : (":" : String) = ':'.toString := rfl
  rw [signalId, signalId, String.append_assoc, String.append_assoc, colon, tagged_inj inTag inOther, collisionFree.eq_iff]

theorem decision_text_inj {one other : PolicyDecision} : one.text = other.text ↔ one = other := by
  cases one <;> cases other <;> decide

theorem nul_not_in_decision (decision : PolicyDecision) : '\x00' ∉ decision.text.toList := by
  cases decision <;> decide

/-- The tag and the joined parts of the id of a subject. -/
def Subject.key : Subject → String × List String
  | .observed messageId => ("collaboration-observation", [messageId])
  | .ownerMessage messageId => ("collaboration-owner-message", [messageId])
  | .policyDecision policyId decision => ("collaboration-policy-decision", [policyId, decision.text])

theorem Subject.key_tag (subject : Subject) : subject.key.1 ∈ recordingTags := by
  cases subject <;> simp [Subject.key, recordingTags]

theorem colon_not_in_tag : ∀ tag ∈ recordingTags, ':' ∉ tag.toList := by
  decide

theorem Subject.key_inj {one other : Subject} (tags : one.key.1 = other.key.1)
    (parts : Host.joined one.key.2 = Host.joined other.key.2) : one = other := by
  cases one with
  | observed messageId =>
    cases other with
    | observed other => simpa [Subject.key] using parts
    | ownerMessage | policyDecision => exact absurd tags (by simp [Subject.key])
  | ownerMessage messageId =>
    cases other with
    | observed | policyDecision => exact absurd tags (by simp [Subject.key])
    | ownerMessage other => simpa [Subject.key] using parts
  | policyDecision policyId decision =>
    cases other with
    | observed | ownerMessage => exact absurd tags (by simp [Subject.key])
    | policyDecision other later =>
      simp only [Subject.key, Host.joined_two] at parts
      obtain ⟨same, decided⟩ := (suffixed_inj (nul_not_in_decision decision) (nul_not_in_decision later)).mp parts
      rw [same, decision_text_inj.mp decided]

/-- The id of the signal of a subject. -/
theorem signal_id (named : call.subject = some subject) :
    (call.signal host).id = signalId host subject.key.1 subject.key.2 := by
  cases call with
  | append signal => cases named
  | observe | recordOwnerMessage | recordPolicyDecision => cases named; rfl

/-- Calls for a subject append under one id exactly when they are for one subject. -/
theorem signal_id_iff (collisionFree : Function.Injective (host.digest 64)) (named : call.subject = some subject) :
    (call.signal host).id = (later.signal host).id ↔ later.subject = some subject := by
  rw [signal_id named]
  cases also : later.subject with
  | none =>
    cases later with
    | append signal =>
      refine ⟨fun same => absurd same.symm ?_, nofun⟩
      exact signal.elsewhere _ subject.key_tag _
    | _ => cases also
  | some other =>
    rw [signal_id also, signalId_inj collisionFree (colon_not_in_tag _ subject.key_tag) (colon_not_in_tag _ other.key_tag)]
    constructor
    · rintro ⟨tags, parts⟩
      rw [Subject.key_inj tags parts]
    · intro same
      cases same
      exact ⟨rfl, rfl⟩

/-- Observations are stored alike exactly when they are made alike. -/
theorem observationSignal_inj {message other : CollaborationMessage} {task decided : CollaborationTaskDecision}
    {now again : Timestamp} (sameMessage : message.messageId = other.messageId) :
    observationSignal host message task now = observationSignal host other decided again ↔
      now = again ∧ ObservedAlike host now message other task decided := by
  constructor
  · intro same
    obtain ⟨-, rfl, data⟩ := RecordedSignal.mk.inj same
    have record := RecordedData.observation.inj data
    have field {α : Type} (read : ObservationRecord → α) := congrArg read record
    exact ⟨rfl, {
      chatId := field (·.chatId)
      senderId := field (·.senderId)
      intakeReasons := field (·.intakeReasons)
      attentionTier := field (·.attentionTier)
      notificationDecision := field (·.actualNotification)
      taskAction := field (·.taskAction)
      approvalRequired := field (·.approvalRequired)
      researchDecision := field (·.researchDecision)
      actionOwner := field (·.actionOwner)
      materialChange := field (·.materialChange)
      signalType := field (·.signalType)
      signalOperation := field (·.signalOperation)
      emojiType := field (·.emojiType)
      ownerOperated := field (·.ownerOperated) }⟩
  · rintro ⟨rfl, alike⟩
    rw [observationSignal, observationSignal, observationOf, observationOf, sameMessage, alike.chatId, alike.senderId,
      alike.intakeReasons, alike.attentionTier, alike.notificationDecision, alike.taskAction, alike.approvalRequired,
      alike.researchDecision, alike.actionOwner, alike.materialChange, alike.signalType, alike.signalOperation,
      alike.emojiType, alike.ownerOperated]

/-- Calls for one subject append one signal exactly when they are alike. -/
theorem signal_iff_alike (named : call.subject = some subject) (also : later.subject = some subject) :
    call.signal host = later.signal host ↔ RepeatedAlike host call later := by
  cases call with
  | append signal => cases named
  | observe message task now =>
    cases later with
    | observe other decided again =>
      have same : message.messageId = other.messageId := Subject.observed.inj (Option.some.inj (named.trans also.symm))
      exact (observationSignal_inj same).trans ⟨fun alike _ => alike, fun alike => alike same⟩
    | _ => cases named.trans also.symm
  | recordOwnerMessage messageId text explicitReply now =>
    cases later with
    | recordOwnerMessage other another alsoReply again =>
      obtain rfl : messageId = other := Subject.ownerMessage.inj (Option.some.inj (named.trans also.symm))
      simp [SignalCall.signal, ownerMessageSignal, RepeatedAlike]
    | _ => cases named.trans also.symm
  | recordPolicyDecision policyId decision now =>
    cases later with
    | recordPolicyDecision other same again =>
      obtain ⟨rfl, rfl⟩ := Subject.policyDecision.inj (Option.some.inj (named.trans also.symm))
      simp [SignalCall.signal, policyDecisionSignal, RepeatedAlike]
    | _ => cases named.trans also.symm

/-- Nothing is asked of calls for two subjects. -/
theorem alike_of_apart (apart : ∀ subject, call.subject = some subject → later.subject ≠ some subject) :
    RepeatedAlike host call later := by
  cases call with
  | append signal => trivial
  | observe message task now =>
    cases later with
    | observe other decided again => exact fun same => (apart _ rfl (by rw [SignalCall.subject, same])).elim
    | _ => trivial
  | recordOwnerMessage messageId text explicitReply now =>
    cases later with
    | recordOwnerMessage other another alsoReply again => exact fun same => (apart _ rfl (by rw [SignalCall.subject, same])).elim
    | _ => trivial
  | recordPolicyDecision policyId decision now =>
    cases later with
    | recordPolicyDecision other same again =>
      rintro rfl rfl
      exact absurd rfl (apart _ rfl)
    | _ => trivial

/-- The ids under which subjects are recorded. -/
def IsRecorded (host : Host) (id : String) : Prop := ∃ subject : Subject, id = signalId host subject.key.1 subject.key.2

theorem isRecorded_iff : IsRecorded host (call.signal host).id ↔ ∃ subject, call.subject = some subject := by
  constructor
  · rintro ⟨subject, same⟩
    cases named : call.subject with
    | some other => exact ⟨other, rfl⟩
    | none =>
      cases call with
      | append signal => exact absurd same (signal.elsewhere _ subject.key_tag _)
      | _ => cases named
  · rintro ⟨subject, named⟩
    exact ⟨subject, signal_id named⟩

end Calls

section Runs

variable {host : Host} {signals : SignalTable} {first second : SignalCall × Except String Bool}

theorem idempotent_iff_writtenOnce (collisionFree : Function.Injective (host.digest 64)) :
    Idempotent host signals first second ↔
      WrittenOnce RecordedSignal.id (SignalCall.signal host) (IsRecorded host) signals first second := by
  constructor
  · intro idempotent recorded same
    obtain ⟨subject, named⟩ := isRecorded_iff.mp recorded
    have also := (signal_id_iff collisionFree named).mp same
    exact idempotent (by rw [named]; rfl) (named.trans also.symm)
  · intro settled some same
    obtain ⟨subject, named⟩ := Option.isSome_iff_exists.mp some
    exact settled (isRecorded_iff.mpr ⟨subject, named⟩)
      ((signal_id_iff collisionFree named).mpr (same.symm.trans named))

theorem repeatedAlike_iff_alike (collisionFree : Function.Injective (host.digest 64)) :
    RepeatedAlike host first.1 second.1 ↔
      Alike RecordedSignal.id (SignalCall.signal host) (IsRecorded host) first second := by
  constructor
  · intro repeated recorded same
    obtain ⟨subject, named⟩ := isRecorded_iff.mp recorded
    exact (signal_iff_alike named ((signal_id_iff collisionFree named).mp same)).mpr repeated
  · intro alike
    by_cases shared : ∃ subject, first.1.subject = some subject ∧ second.1.subject = some subject
    · obtain ⟨subject, named, also⟩ := shared
      exact (signal_iff_alike named also).mp
        (alike (isRecorded_iff.mpr ⟨subject, named⟩) ((signal_id_iff collisionFree named).mpr also))
    · exact alike_of_apart fun subject named also => shared ⟨subject, named, also⟩

/-- In every run the calls for one subject are answered as repeats, and store what the first one recorded, exactly when
they are made at one time and are recorded alike. -/
theorem idempotent_iff (collisionFree : Function.Injective (host.digest 64))
    {labels : List (SignalCall × Except String Bool)} (run : (signalLog host).system.Run labels signals) :
    labels.Pairwise (Idempotent host signals) ↔
      labels.Pairwise fun first second => RepeatedAlike host first.1 second.1 := by
  rw [signalLog_eq] at run
  have settled : labels.Pairwise (WrittenOnce RecordedSignal.id (SignalCall.signal host) (IsRecorded host) signals) ↔
      labels.Pairwise (Alike RecordedSignal.id (SignalCall.signal host) (IsRecorded host)) := writtenOnce_iff run
  constructor
  · intro idempotent
    refine (settled.mp (idempotent.imp (idempotent_iff_writtenOnce collisionFree).mp)).imp ?_
    exact (repeatedAlike_iff_alike collisionFree).mpr
  · intro repeated
    refine (settled.mpr (repeated.imp (repeatedAlike_iff_alike collisionFree).mp)).imp ?_
    exact (idempotent_iff_writtenOnce collisionFree).mpr

end Runs

/-! ## A message that is delivered twice -/

def plainHost : Host := .tabulated "Asia/Shanghai" 28800000 [] []

theorem plainHost_injective : Function.Injective (plainHost.digest 64) := by
  change Function.Injective (tabled [])
  exact tabled_injective (by decide) (by decide)

def deliveredMessage : CollaborationMessage where
  messageId := "om_1"
  chatId := some "oc_team"
  senderId := some "ou_li"
  intakeReasons := ["特别关注"]
  signal := none

def ordinaryTask : CollaborationTaskDecision where
  priority := some 1
  dueDate := none
  notificationDecision := some .notify
  needsClarification := false
  actionRequired := false
  actionOwner := some .other
  researchDecision := some .skip
  approvalRequired := false
  taskAction := some .ignored
  materialChangeSummary := none

def deliveries (first second : Timestamp) : List SignalCall :=
  [.observe deliveredMessage ordinaryTask first, .recordOwnerMessage "om_1" "好的" true first,
    .observe deliveredMessage ordinaryTask second]

theorem idempotent_deliveries : ((signalLog plainHost).replay (deliveries 0 0) .empty).1.Pairwise
      (Idempotent plainHost ((signalLog plainHost).replay (deliveries 0 0) .empty).2) ↔
    ((signalLog plainHost).replay (deliveries 0 0) .empty).1.Pairwise fun first second =>
      RepeatedAlike plainHost first.1 second.1 :=
  idempotent_iff plainHost_injective ((signalLog plainHost).replay_run _)

/-- A millisecond later the delivered message is refused. -/
theorem later_delivery_refused : ∃ (host : Host) (labels : List (SignalCall × Except String Bool)) (signals : SignalTable),
    Function.Injective (host.digest 64) ∧ (signalLog host).system.Run labels signals ∧
      ¬ labels.Pairwise (Idempotent host signals) := by
  refine ⟨plainHost, _, _, plainHost_injective, (signalLog plainHost).replay_run (deliveries 0 1), fun idempotent => ?_⟩
  have repeated := List.pairwise_iff_getElem.mp idempotent 0 2 (by decide) (by decide) (by decide)
  exact absurd (repeated rfl rfl).1 (by decide)

end QuarkSelfAI.Collaboration

import QuarkSelfAI.ControlPlane.Enrollment

/-!
# The enrollment window

Whether a device may still be registered depends on when the approval of its request
first began. A request whose approval began in time stays open while that approval is
unfinished, also after its time has run out; every other one expires.
-/

namespace QuarkSelfAI.ControlPlane

open Foundation

/-- What a request asks for, until when. -/
structure Requested where
  requestId : String
  userCode : String
  tenantId : String
  userId : String
  deviceId : String
  publicKey : String
  expiresAt : Timestamp

def EnrollmentRow.requested (row : EnrollmentRow) : Requested :=
  ⟨row.requestId, row.userCode, row.tenantHint, row.userHint, row.deviceId, row.publicKey, row.expiresAt⟩

/-- The tenant and user of a request began to approve it before its time ran out. -/
def BegunInTime (labels : List (EnrollmentCall × EnrollmentReply)) (requested : Requested) : Prop :=
  ∃ first ticket, (.approve requested.tenantId requested.userId requested.userCode first,
      .registering ticket requested.deviceId requested.publicKey) ∈ labels ∧
    first < requested.expiresAt

theorem BegunInTime.extend {labels : List (EnrollmentCall × EnrollmentReply)} {requested : Requested}
    (begun : BegunInTime labels requested) (label : EnrollmentCall × EnrollmentReply) :
    BegunInTime (labels ++ [label]) requested := by
  obtain ⟨first, ticket, listed, before⟩ := begun
  exact ⟨first, ticket, List.mem_append_left _ listed, before⟩

/-- A registration on behalf of a request. -/
structure Serves (requested : Requested) (tenantId userId deviceId publicKey : String) : Prop where
  tenant : requested.tenantId = tenantId
  user : requested.userId = userId
  device : requested.deviceId = deviceId
  key : requested.publicKey = publicKey

/-- Where every unfinished approval and every registered device comes from. -/
structure Tracked (labels : List (EnrollmentCall × EnrollmentReply)) (world : EnrollmentWorld) : Prop where
  approving : ∀ row ∈ world.enrollments, row.state = .approving → BegunInTime labels row.requested
  waiting : ∀ ticket approval, world.calls.find? ticket = some approval →
    ∃ row, world.enrollments.find? approval.requestId = some row ∧
      Serves row.requested approval.tenantId approval.userId approval.deviceId approval.publicKey ∧
      BegunInTime labels row.requested
  devices : ∀ device ∈ world.devices, ∃ row ∈ world.enrollments,
    Serves row.requested device.tenantId device.userId device.deviceId device.publicKey ∧
      BegunInTime labels row.requested

/-! ## Steps -/

/-- Requests are only added, and none of them is changed in what it asks for. -/
def KeepsRequests (before after : EnrollmentWorld) : Prop :=
  ∀ requestId requested, (before.enrollments.find? requestId).map EnrollmentRow.requested = some requested →
    (after.enrollments.find? requestId).map EnrollmentRow.requested = some requested

variable {before after : EnrollmentWorld} {host : EnrollmentHost} {now : Timestamp} {row : EnrollmentRow}
  {change : EnrollmentRow → EnrollmentRow}

theorem KeepsRequests.found (keeps : KeepsRequests before after)
    {requestId : String} (found : before.enrollments.find? requestId = some row) :
    ∃ later, after.enrollments.find? requestId = some later ∧ later.requested = row.requested :=
  Option.map_eq_some_iff.mp (keeps requestId row.requested (by rw [found, Option.map_some]))

theorem KeepsRequests.stored (keeps : KeepsRequests before after) (stored : row ∈ before.enrollments) :
    ∃ later ∈ after.enrollments, later.requested = row.requested := by
  obtain ⟨later, found, same⟩ := keeps.found (Table.find?_self stored)
  exact ⟨later, Table.find?_mem found, same⟩

theorem expire_requested (now : Timestamp) (row : EnrollmentRow) : (row.expire now).requested = row.requested := by
  unfold EnrollmentRow.expire
  split
  · rfl
  · rfl

theorem takeBack_requested (row : EnrollmentRow) : row.takeBack.requested = row.requested := by
  unfold EnrollmentRow.takeBack
  split
  · rfl
  · rfl

theorem keeps_expire (now : Timestamp) (world : EnrollmentWorld) : KeepsRequests world (world.expire now) := by
  intro requestId requested known
  have same : EnrollmentRow.requested ∘ EnrollmentRow.expire now = EnrollmentRow.requested :=
    funext (expire_requested now)
  rw [EnrollmentWorld.expire, Table.find?_mapRows, Option.map_map, same]
  exact known

theorem keeps_update {changed : String} (keeps : ∀ row, (change row).requestId = row.requestId)
    (updated : after.enrollments = before.enrollments.update changed change keeps)
    (same : ∀ row, (change row).requested = row.requested) : KeepsRequests before after := by
  intro requestId requested known
  rw [Table.map_find?_updated updated same]
  exact known

theorem Tracked.extend {labels : List (EnrollmentCall × EnrollmentReply)} {world : EnrollmentWorld}
    (tracked : Tracked labels world) (label : EnrollmentCall × EnrollmentReply) :
    Tracked (labels ++ [label]) world where
  approving := fun row stored state => (tracked.approving row stored state).extend label
  waiting := by
    intro ticket approval found
    obtain ⟨row, stored, serves, begun⟩ := tracked.waiting ticket approval found
    exact ⟨row, stored, serves, begun.extend label⟩
  devices := by
    intro device listed
    obtain ⟨row, stored, serves, begun⟩ := tracked.devices device listed
    exact ⟨row, stored, serves, begun.extend label⟩

/-- What has to be shown of a change that keeps the requests: of the requests it marks,
and of the approvals and devices it adds. -/
theorem Tracked.changed {labels : List (EnrollmentCall × EnrollmentReply)} (tracked : Tracked labels before)
    (keeps : KeepsRequests before after)
    (approving : ∀ row ∈ after.enrollments, row.state = .approving → BegunInTime labels row.requested)
    (waiting : ∀ ticket approval, after.calls.find? ticket = some approval → before.calls.find? ticket = some approval ∨
        ∃ row, after.enrollments.find? approval.requestId = some row ∧
          Serves row.requested approval.tenantId approval.userId approval.deviceId approval.publicKey ∧
          BegunInTime labels row.requested)
    (devices : ∀ device ∈ after.devices, device ∈ before.devices ∨ ∃ row ∈ after.enrollments,
      Serves row.requested device.tenantId device.userId device.deviceId device.publicKey ∧
        BegunInTime labels row.requested) : Tracked labels after where
  approving := approving
  waiting := by
    intro ticket approval found
    rcases waiting ticket approval found with older | newer
    · obtain ⟨row, stored, serves, begun⟩ := tracked.waiting ticket approval older
      obtain ⟨later, kept, same⟩ := keeps.found stored
      exact ⟨later, kept, same ▸ serves, same ▸ begun⟩
    · exact newer
  devices := by
    intro device listed
    rcases devices device listed with older | newer
    · obtain ⟨row, stored, serves, begun⟩ := tracked.devices device older
      obtain ⟨later, kept, same⟩ := keeps.stored stored
      exact ⟨later, kept, same ▸ serves, same ▸ begun⟩
    · exact newer

section Steps

variable {labels : List (EnrollmentCall × EnrollmentReply)} {world : EnrollmentWorld}

theorem tracked_expire (tracked : Tracked labels world) (now : Timestamp) : Tracked labels (world.expire now) := by
  refine tracked.changed (keeps_expire now world) ?_ (fun _ _ found => .inl found) fun _ listed => .inl listed
  intro row stored state
  obtain ⟨old, older, rfl⟩ := (Table.mem_mapRows (EnrollmentRow.expire_requestId now)).mp stored
  have approving : old.state = .approving := by
    unfold EnrollmentRow.expire at state
    split at state
    · cases state
    · exact state
  rw [expire_requested]
  exact tracked.approving old older approving

theorem tracked_request {input : EnrollmentInput} {draw : EnrollmentDraw}
    {next : EnrollmentWorld} (tracked : Tracked labels world)
    (requested : world.request host input draw now = .ok next) : Tracked labels next := by
  simp only [EnrollmentWorld.request, bind_ok, throwIf_ok, exists_const] at requested
  obtain ⟨_, _, _, stored⟩ := requested
  cases inserted : world.enrollments.insert? (EnrollmentWorld.requestedRow host input draw now) with
  | none =>
    rw [inserted] at stored
    cases stored
  | some enrollments =>
    rw [inserted] at stored
    cases stored
    refine tracked.changed ?_ ?_ (fun _ _ found => .inl found) fun _ listed => .inl listed
    · intro requestId requested known
      obtain ⟨row, found, same⟩ := Option.map_eq_some_iff.mp known
      exact Option.map_eq_some_iff.mpr ⟨row, Table.find?_kept inserted found, same⟩
    · intro row stored state
      rcases (Table.mem_insert inserted).mp stored with older | rfl
      · exact tracked.approving row older state
      · cases state

/-- A change of one request that keeps what it asks for and does not mark it. -/
theorem tracked_update {changed : String} (keeps : ∀ row, (change row).requestId = row.requestId)
    (tracked : Tracked labels world) (updated : after.enrollments = world.enrollments.update changed change keeps)
    (same : ∀ row, (change row).requested = row.requested)
    (unmarked : ∀ row, (change row).state ≠ .approving) (calls : ∀ ticket approval,
      after.calls.find? ticket = some approval → world.calls.find? ticket = some approval)
    (devices : after.devices = world.devices) : Tracked labels after := by
  refine tracked.changed (keeps_update keeps updated same) ?_ (fun ticket approval found =>
    .inl (calls ticket approval found)) fun device listed => .inl (devices ▸ listed)
  intro row stored state
  rw [updated] at stored
  rcases Table.mem_update.mp stored with ⟨old, _, _, rfl⟩ | ⟨older, _⟩
  · exact absurd state (unmarked old)
  · exact tracked.approving row older state

theorem resume_found {calls : Suspension Approval} {taken ticket : Nat} {approval : Approval}
    (found : (calls.resume taken).find? ticket = some approval) : calls.find? ticket = some approval := by
  rw [Suspension.find?_resume] at found
  split at found
  · cases found
  · exact found

theorem tracked_settle (approval : Approval) (rejected : Option String) (ticket : Nat)
    (tracked : Tracked labels world) : Tracked labels
      (EnrollmentWorld.settle approval rejected { world with calls := world.calls.resume ticket }).2 := by
  have resumed : Tracked labels { world with calls := world.calls.resume ticket } :=
    tracked.changed (fun _ _ known => known) tracked.approving
      (fun _ _ found => .inl (resume_found found)) fun _ listed => .inl listed
  unfold EnrollmentWorld.settle
  split
  · refine tracked_update EnrollmentRow.takeBack_requestId resumed rfl takeBack_requested ?_ (fun _ _ found => found) rfl
    intro row
    unfold EnrollmentRow.takeBack
    split
    · nofun
    · assumption
  · dsimp only
    split
    · exact resumed
    · split
      · exact tracked_update (EnrollmentRow.complete_requestId approval.now) resumed rfl (fun _ => rfl)
          (fun _ => by simp [EnrollmentRow.complete]) (fun _ _ found => found) rfl
      · exact resumed

theorem tracked_register {approval : Approval} {ticket : Nat} (tracked : Tracked labels world)
    (waiting : world.calls.find? ticket = some approval) : Tracked labels (world.register approval).2 := by
  unfold EnrollmentWorld.register
  dsimp only
  split
  · exact tracked
  · refine tracked.changed (fun _ _ known => known) tracked.approving (fun _ _ found => .inl found) ?_
    intro device listed
    rcases Table.mem_put listed with rfl | older
    · obtain ⟨row, found, serves, begun⟩ := tracked.waiting ticket approval waiting
      exact .inr ⟨row, Table.find?_mem found, serves, begun⟩
    · exact .inl older

/-- An approval that begins marks a request whose approval began in time. -/
theorem begun_of_approvable {tenantId userId : String} {done : Unit} {ticket : Nat} (tracked : Tracked labels world)
    (stored : row ∈ (world.expire now).enrollments)
    (approvable : EnrollmentWorld.approvable tenantId userId now row = .ok done) (unapproved : row.state ≠ .approved) :
    row.tenantHint = tenantId ∧ row.userHint = userId ∧
      BegunInTime (labels ++ [(.approve tenantId userId row.userCode now,
        .registering ticket row.deviceId row.publicKey)]) row.requested := by
  simp only [EnrollmentWorld.approvable, bind_ok, throwIf_ok, exists_const, not_or, ne_eq, not_not]
    at approvable
  obtain ⟨⟨rfl, rfl⟩, unexpired, _⟩ := approvable
  refine ⟨rfl, rfl, ?_⟩
  cases state : row.state with
  | approving => exact ((tracked_expire tracked now).approving row stored state).extend _
  | pending =>
    -- A pending request that outlives the marking of expired ones has time left.
    refine ⟨now, ticket, List.mem_append_right _ (List.mem_singleton.mpr rfl), ?_⟩
    obtain ⟨old, _, rfl⟩ := (Table.mem_mapRows (EnrollmentRow.expire_requestId now)).mp stored
    unfold EnrollmentRow.expire at state ⊢
    split at state
    · cases state
    · rename_i running
      rw [if_neg running]
      exact Int.not_le.mp fun past => running ⟨state, past⟩
  | approved => exact absurd state unapproved
  | expired => exact absurd state unexpired

theorem tracked_approve {tenantId userId userCode : String} {reply : EnrollmentReply} (tracked : Tracked labels world)
    (answered : world.approveSerial tenantId userId userCode now = (reply, after)) :
    Tracked (labels ++ [(.approve tenantId userId userCode now, reply)]) after := by
  have marked := (tracked_expire tracked now).extend (.approve tenantId userId userCode now, reply)
  unfold EnrollmentWorld.approveSerial at answered
  split at answered
  · cases answered
    exact tracked.extend _
  · dsimp only at answered
    cases found : (world.expire now).enrollments.rows.find? fun row => row.userCode = userCode with
    | none =>
      rw [found] at answered
      cases answered
      exact marked
    | some row =>
      rw [found] at answered
      have stored : row ∈ (world.expire now).enrollments := List.mem_of_find?_eq_some found
      have code : row.userCode = userCode := by simpa using List.find?_some found
      subst code
      cases approvable : EnrollmentWorld.approvable tenantId userId now row with
      | error message =>
        simp only [approvable] at answered
        cases answered
        exact marked
      | ok done =>
        simp only [approvable] at answered
        split at answered
        · cases answered
          exact marked
        · rename_i unapproved
          cases answered
          obtain ⟨tenant, user, begun⟩ := begun_of_approvable tracked stored approvable unapproved
          have keeps := EnrollmentRow.begin_requestId now
          have updated : ((world.expire now).enrollments.update row.requestId (EnrollmentRow.begin now)
              keeps).find? row.requestId = some (row.begin now) :=
            Table.find?_rewritten rfl (Table.find?_self stored)
          refine marked.changed (keeps_update keeps rfl fun _ => rfl) ?_ ?_ fun _ listed => .inl listed
          · intro other listed state
            have changed : other ∈ (world.expire now).enrollments.update row.requestId
              (EnrollmentRow.begin now) keeps := listed
            rcases Table.mem_update.mp changed with ⟨old, older, same, rfl⟩ | ⟨older, _⟩
            · rw [Table.eq_of_key older stored same]
              exact begun
            · exact marked.approving other older state
          · intro sought approval waiting
            rw [Suspension.find?_suspend] at waiting
            split at waiting
            · cases waiting
              exact .inr ⟨_, updated, ⟨tenant, user, rfl, rfl⟩, begun⟩
            · exact .inl waiting

theorem tracked_answer {call : EnrollmentCall} {reply : EnrollmentReply} (tracked : Tracked labels world)
    (answered : EnrollmentWorld.answer host call world = (reply, after)) :
    Tracked (labels ++ [(call, reply)]) after := by
  cases call with
  | begins input draw now =>
    apply Tracked.extend
    simp only [EnrollmentWorld.answer, EnrollmentWorld.requestDevice] at answered
    split at answered
    · cases answered
      exact tracked
    · split at answered
      · rename_i next requested
        cases answered
        exact tracked_request (tracked_expire tracked now) requested
      · cases answered
        exact tracked_expire tracked now
  | approve tenantId userId userCode now => exact tracked_approve tracked answered
  | register ticket =>
    apply Tracked.extend
    simp only [EnrollmentWorld.answer] at answered
    split at answered
    · cases answered
      exact tracked
    · rename_i approval waiting
      have registered := tracked_register tracked waiting
      rwa [answered] at registered
  | settle ticket rejected =>
    apply Tracked.extend
    simp only [EnrollmentWorld.answer] at answered
    split at answered
    · cases answered
      exact tracked
    · rename_i approval waiting
      have settled := tracked_settle approval rejected ticket tracked
      rwa [answered] at settled
  | poll requestId pollToken now =>
    apply Tracked.extend
    simp only [EnrollmentWorld.answer, EnrollmentWorld.poll] at answered
    split at answered
    · cases answered
      exact tracked
    · have marked := tracked_expire tracked now
      split at answered
      · cases answered
        exact marked
      · split at answered
        all_goals
          cases answered
          exact marked
  | crash =>
    apply Tracked.extend
    cases answered
    exact tracked.changed (fun _ _ known => known) tracked.approving
      (fun _ _ found => by cases found) fun _ listed => .inl listed

end Steps

/-! ## Runs -/

/-- Three identifiers that are well formed and not in use. -/
structure FreshDraw (draw : EnrollmentDraw) (world : EnrollmentWorld) : Prop where
  request : requestPattern draw.requestId = true
  code : userCodePattern draw.userCode = true
  token : pollTokenPattern draw.pollToken = true
  unused : ∀ row ∈ world.enrollments, row.requestId ≠ draw.requestId ∧ row.userCode ≠ draw.userCode

/-- What the time of a request decides, where an approval may be interrupted. -/
structure Windowed (host : EnrollmentHost) (labels : List (EnrollmentCall × EnrollmentReply))
    (world : EnrollmentWorld) : Prop where
  /-- A device is registered for a request whose tenant and user began to approve it in
  time. -/
  registers : ∀ device ∈ world.devices, ∃ row ∈ world.enrollments,
    Serves row.requested device.tenantId device.userId device.deviceId device.publicKey ∧
      BegunInTime labels row.requested
  /-- A request whose time is over is approved or expired, or its approval began in time
  and is unfinished. -/
  polls : ∀ requestId pollToken now row value after,
    world.enrollments.find? requestId = some row → row.expiresAt ≤ now →
    EnrollmentWorld.answer host (.poll requestId pollToken now) world = (.status value, after) →
    value.state = .approved ∨ value.state = .expired ∨
      value.state = .pending ∧ row.state = .approving ∧ BegunInTime labels row.requested
  /-- A device whose requests are all over, with no approval unfinished, may begin again. -/
  begins : ∀ input draw now, validateInput host input = .ok () → FreshDraw draw world →
    (∀ row ∈ world.enrollments, row.isOf input = true →
      row.state ≠ .approving ∧ (row.state = .pending → row.expiresAt ≤ now)) →
    (EnrollmentWorld.answer host (.begins input draw now) world).1 = .begun draw (now + EnrollmentWorld.lifetimeMs)

theorem poll_of_over {labels : List (EnrollmentCall × EnrollmentReply)} {world after : EnrollmentWorld}
    (tracked : Tracked labels world) {requestId pollToken : String} {value : EnrollmentStatus}
    (found : world.enrollments.find? requestId = some row) (past : row.expiresAt ≤ now)
    (answered : EnrollmentWorld.answer host (.poll requestId pollToken now) world = (.status value, after)) :
    value.state = .approved ∨ value.state = .expired ∨
      value.state = .pending ∧ row.state = .approving ∧ BegunInTime labels row.requested := by
  have current : (world.expire now).enrollments.find? requestId = some (row.expire now) := by
    rw [EnrollmentWorld.expire, Table.find?_mapRows, found, Option.map_some]
  simp only [EnrollmentWorld.answer, EnrollmentWorld.poll, current] at answered
  split at answered
  · cases answered
  · split at answered
    · cases answered
      cases state : row.state with
      | pending => simp [EnrollmentRow.expire, EnrollmentRow.status, state, past]
      | approving =>
        have begun := tracked.approving row (Table.find?_mem found) state
        simp [EnrollmentRow.expire, EnrollmentRow.status, state, begun]
      | approved | expired => simp [EnrollmentRow.expire, EnrollmentRow.status, state]
    · cases answered

theorem expire_isOf (now : Timestamp) (input : EnrollmentInput) (row : EnrollmentRow) :
    (row.expire now).isOf input = row.isOf input := by
  unfold EnrollmentRow.expire
  split
  · rfl
  · rfl

theorem begins_of_over {world : EnrollmentWorld} {input : EnrollmentInput}
    {draw : EnrollmentDraw} (valid : validateInput host input = .ok ())
    (fresh : FreshDraw draw world)
    (past : ∀ row ∈ world.enrollments, row.isOf input = true →
      row.state ≠ .approving ∧ (row.state = .pending → row.expiresAt ≤ now)) :
    (EnrollmentWorld.answer host (.begins input draw now) world).1 =
      .begun draw (now + EnrollmentWorld.lifetimeMs) := by
  have closed : (world.expire now).enrollments.rows.any (fun row => row.isOf input && row.isOpen) = false := by
    rw [List.any_eq_false]
    intro row listed both
    obtain ⟨old, stored, rfl⟩ := (Table.mem_mapRows (EnrollmentRow.expire_requestId now)).mp listed
    rw [expire_isOf] at both
    obtain ⟨own, isOpen⟩ := Bool.and_eq_true_iff.mp both
    obtain ⟨unmarked, ended⟩ := past old stored own
    cases state : old.state with
    | pending => simp [EnrollmentRow.expire, EnrollmentRow.isOpen, state, ended state] at isOpen
    | approving => exact unmarked state
    | approved | expired => simp [EnrollmentRow.expire, EnrollmentRow.isOpen, state] at isOpen
  have unused : (world.expire now).enrollments.rows.any (fun row => row.userCode = draw.userCode) = false := by
    rw [List.any_eq_false]
    intro row listed same
    obtain ⟨old, stored, rfl⟩ := (Table.mem_mapRows (EnrollmentRow.expire_requestId now)).mp listed
    have code : (old.expire now).userCode = old.userCode := congrArg Requested.userCode (expire_requested now old)
    rw [code, decide_eq_true_eq] at same
    exact (fresh.unused old stored).2 same
  have untaken : (world.expire now).enrollments.find?
      (EnrollmentWorld.requestedRow host input draw now).requestId = none := by
    rw [EnrollmentWorld.expire, Table.find?_mapRows, Option.map_eq_none_iff, Table.find?_eq_none_iff]
    exact fun row stored => (fresh.unused row stored).1
  obtain ⟨enrollments, inserted⟩ := Table.exists_insert untaken
  have requested : (world.expire now).request host input draw now = .ok { world.expire now with enrollments } := by
    simp [EnrollmentWorld.request, throwIf, closed, unused, inserted, fresh.request, fresh.code,
      fresh.token, bind, Except.bind]
  simp only [EnrollmentWorld.answer, EnrollmentWorld.requestDevice, valid, requested]

/-- In every run, with approvals interrupted anywhere, the time of a request decides when
its approval may begin and how long it is open. -/
theorem enrollment_windowed {host : EnrollmentHost} {labels : List (EnrollmentCall × EnrollmentReply)}
    {world : EnrollmentWorld} (run : (EnrollmentWorld.machine host).system.Run labels world) :
    Windowed host labels world := by
  have tracked : Tracked labels world := by
    refine run.history ?_ ?_
    · intro initial valid
      cases valid
      exact ⟨nofun, nofun, nofun⟩
    · intro labels label before after _ tracked transition
      exact tracked_answer tracked transition
  exact ⟨tracked.devices, fun _ _ _ _ _ _ found past answered => poll_of_over tracked found past answered,
    fun _ _ _ valid fresh past => begins_of_over valid fresh past⟩

/-! ## A sample run -/

def sampleEnrollmentHost : EnrollmentHost where
  sha256 text := text
  isEd25519Key text := text = "key"

def sampleEnrollment : EnrollmentInput := ⟨"tenant", "user", "laptop", "ed25519-spki:key"⟩

def sampleDraw : EnrollmentDraw where
  requestId := "enrollment.00000000000000000000000000000000"
  userCode := "0000-0000-0000-0000"
  pollToken := "0000000000000000000000000000000000000000000"

/-- The provider crashes while the approval of a request waits, a second before the time
of the request is over. -/
def interruptedEnrollment : List EnrollmentCall :=
  [ .begins sampleEnrollment sampleDraw 0
  , .approve "tenant" "user" "0000-0000-0000-0000" 599000
  , .crash ]

def sampleEnrollments : Machine EnrollmentWorld EnrollmentCall EnrollmentReply :=
  EnrollmentWorld.machine sampleEnrollmentHost

theorem interrupted_enrollment_windowed : Windowed sampleEnrollmentHost
    (sampleEnrollments.replay interruptedEnrollment sampleEnrollments.initial).1
    (sampleEnrollments.replay interruptedEnrollment sampleEnrollments.initial).2 :=
  enrollment_windowed (Machine.replay_run sampleEnrollments interruptedEnrollment)

/-- After its time, the request is shown as pending, the device may not begin again, and
a new approval registers it. -/
theorem interrupted_enrollment_open : ∃ labels world,
    (EnrollmentWorld.machine sampleEnrollmentHost).system.Run labels world ∧
      (world.enrollments.rows.map fun row => (row.expiresAt, row.state)) = [(600000, .approving)] ∧
      world.devices.rows = [] ∧
      (EnrollmentWorld.answer sampleEnrollmentHost
        (.poll sampleDraw.requestId sampleDraw.pollToken 700000) world).1 =
          .status ⟨sampleDraw.requestId, "laptop", .pending, 600000⟩ ∧
      (EnrollmentWorld.answer sampleEnrollmentHost (.begins sampleEnrollment sampleDraw 700000) world).1 =
        .refused "device enrollment request already pending" ∧
      ((EnrollmentWorld.machine sampleEnrollmentHost).replay
        [.approve "tenant" "user" "0000-0000-0000-0000" 700000, .register 1] world).2.devices.rows =
          [⟨"tenant", "laptop", "user", "ed25519-spki:key", .registered⟩] := by
  refine ⟨_, _, Machine.replay_run sampleEnrollments interruptedEnrollment, ?_⟩
  decide

end QuarkSelfAI.ControlPlane

import QuarkSelfAI.ControlPlane.DeviceLeases

/-!
# Revocation of devices

The state of a device and of its user is read when a session is asked for, and not when
it is opened or used. So revocation is honoured where it finds no session to revoke.
-/

namespace QuarkSelfAI.ControlPlane

open Foundation ClientRuntime

/-- The device is registered, and its user active. -/
def Directory.available (directory : Directory) (scope : Scope) : Bool :=
  (directory.devices.find? (scope.tenantId, scope.deviceId)).any (fun device => device.state = .registered) &&
    directory.userActive scope.tenantId scope.userId

/-- Whom a call that waits will serve. -/
def Pending.scope? : Pending → Option Scope
  | .opening proof _ _ row _ => some ⟨row.tenantId, row.userId, proof.deviceId⟩
  | .polling session _ _ _ => some session.scope
  | .enqueuing _ _ => none

namespace DeviceWorld

variable {host : DeviceHost} {users : Table UserRow.key} {devices : Table DeviceRow.key} {world : DeviceWorld}
  {before after : DeviceWorld} {reply : DeviceReply} {scope : Scope} {call : DeviceCall} {session : SessionRow}

/-- Whom an answer serves: the scope of the session that it opens or is an answer on. -/
def servedOf (world : DeviceWorld) (entry : DeviceCall × DeviceReply) : Option Scope :=
  match entry.2, entry.1 with
  | .session session, .resume _ _ => some session.scope
  | .lease _, .resume ticket _ => (world.calls.find? ticket).bind Pending.scope?
  | .empty, .resume ticket _ => (world.calls.find? ticket).bind Pending.scope?
  | .empty, .poll sessionId _ _ => world.directory.scope? sessionId
  | .accepted _ _ _ _, .acknowledge sessionId _ _ _ => world.directory.scope? sessionId
  | .result _, .submitResult sessionId _ _ => world.directory.scope? sessionId
  | _, _ => none

/-- Who has an active session, or a call that waits. -/
def engaged (world : DeviceWorld) : List Scope :=
  (world.directory.sessions.rows.filter fun session => session.state = .active).map SessionRow.scope ++
    world.calls.waiting.filterMap fun entry => entry.2.scope?

/-- A change of users and devices leaves those available who are engaged. -/
def sparesEngaged (world : DeviceWorld) (entry : DeviceCall × DeviceReply) : Prop :=
  match entry.1 with
  | .roster change => ∀ scope ∈ engaged world,
      (world.directory.apply change.inDirectory).available scope = true
  | _ => True

instance (world : DeviceWorld) (entry : DeviceCall × DeviceReply) : Decidable (sparesEngaged world entry) := by
  unfold sparesEngaged
  split
  · infer_instance
  · infer_instance

theorem mem_engaged : scope ∈ engaged world ↔
    (∃ session ∈ world.directory.sessions, session.state = .active ∧ session.scope = scope) ∨
      ∃ entry ∈ world.calls.waiting, entry.2.scope? = some scope := by
  simp only [engaged, List.mem_append, List.mem_map, List.mem_filter, decide_eq_true_eq,
    List.mem_filterMap, Table.mem_rows, and_assoc]

theorem engaged_of_waiting {ticket : Nat} {pending : Pending}
    (waiting : world.calls.find? ticket = some pending) (serves : pending.scope? = some scope) :
    scope ∈ engaged world :=
  mem_engaged.mpr (.inr ⟨(ticket, pending), Suspension.find?_mem waiting, serves⟩)

theorem engaged_of_inUse {sessionId : String} {now : Timestamp}
    (inUse : InUse world.directory sessionId now session) : session.scope ∈ engaged world :=
  mem_engaged.mpr (.inl ⟨session, Table.find?_mem inUse.1, inUse.2.1, rfl⟩)

theorem scope?_of_inUse {sessionId : String} {now : Timestamp} (inUse : InUse world.directory sessionId now session) :
    world.directory.scope? sessionId = some session.scope := by
  rw [Directory.scope?, inUse.1, Option.map_some]

/-- An answer serves someone who is engaged. -/
theorem engaged_of_served (effect : Effect host before call reply after)
    (served : servedOf before (call, reply) = some scope) : scope ∈ engaged before := by
  cases effect with
  | opened waiting verified same =>
    cases served
    rw [same]
    exact engaged_of_waiting waiting rfl
  | returned waiting | nothing waiting | leased waiting =>
    refine engaged_of_waiting waiting ?_
    simpa only [servedOf, waiting, Option.bind_some] using served
  | idle inUse | accepted inUse | resulted inUse | known inUse =>
    cases (scope?_of_inUse inUse).symm.trans served
    exact engaged_of_inUse inUse
  | _ => cases served

/-- A session that is active after a step was stored before it, or its opening waited. -/
theorem active_step (effect : Effect host before call reply after)
    (listed : session ∈ after.directory.sessions) (active : session.state = .active) :
    session.scope ∈ engaged before := by
  have known : ∀ {row : SessionRow}, row ∈ before.directory.sessions → row.state = .active →
      row.scope ∈ engaged before := fun stored active => mem_engaged.mpr (.inl ⟨_, stored, active, rfl⟩)
  cases effect with
  | opened waiting verified same isActive found unconsumed inserted =>
    rcases (Table.mem_insert inserted).mp listed with older | rfl
    · obtain ⟨old, stored, rfl⟩ := (Table.mem_mapRows (supersede_sessionId _ _)).mp older
      obtain ⟨kept, _⟩ := supersede_active active
      rw [kept] at active ⊢
      exact known stored active
    · rw [same]
      exact engaged_of_waiting waiting rfl
  | lapsed named =>
    rcases Directory.mem_setSession.mp listed with ⟨old, _, _, rfl⟩ | ⟨stored, _⟩
    · cases active
    · exact known stored active
  | roster change =>
    rw [sessions_roster] at listed
    exact known listed active
  | _ => exact known listed active

/-- Whoever is engaged after a step was engaged before it, or was found available in it. -/
theorem engaged_step (transition : (machine host users devices).system.Step before (call, reply) after)
    (engages : scope ∈ engaged after) : scope ∈ engaged before ∨
      before.directory.available scope = true ∧ after.directory = before.directory := by
  have effect : Effect host before call reply after := effect_of_step transition
  rcases mem_engaged.mp engages with ⟨session, listed, active, rfl⟩ | ⟨⟨ticket, pending⟩, waits, serves⟩
  · exact .inl (active_step effect listed active)
  · rcases (moves_step transition).mem waits with older | suspended
    · exact .inl (mem_engaged.mpr (.inr ⟨_, older, serves⟩))
    · have grown := congrArg Suspension.next suspended
      cases effect with
      | opening requested =>
        obtain ⟨row, device, _, known, same, _, registered, active, _, rfl⟩ := requestSession_ok requested
        cases Suspension.suspend_inj suspended
        cases serves
        refine .inr ⟨?_, rfl⟩
        rw [Directory.available, ← same, known, Option.any_some, registered, active]
        rfl
      | enqueuing =>
        cases Suspension.suspend_inj suspended
        cases serves
      | polling inUse =>
        cases Suspension.suspend_inj suspended
        cases serves
        exact .inl (engaged_of_inUse inUse)
      | _ => exact absurd grown (Nat.ne_of_lt (Nat.lt_succ_self _))

theorem available_step (effect : Effect host before call reply after) (quiet : ∀ change, call ≠ .roster change) :
    after.directory.available scope = before.directory.available scope := by
  cases effect with
  | roster change => exact absurd rfl (quiet change)
  | _ => rfl

/-! ## Revocation -/

/-- No answer serves a device that is not registered, or whose user is not active. -/
def HonoursRevocation (host : DeviceHost) (system : TransitionSystem DeviceWorld (DeviceCall × DeviceReply)) : Prop :=
  ∀ {labels world call scope}, system.Run labels world →
    servedOf world (call, (answer host call world).1) = some scope → world.directory.available scope = true

/-- The runs in which users and devices change under nobody who is engaged. -/
abbrev Sparing (host : DeviceHost) (users : Table UserRow.key) (devices : Table DeviceRow.key) :
    TransitionSystem DeviceWorld (DeviceCall × DeviceReply) :=
  (machine host users devices).system.restricted sparesEngaged

theorem engaged_available {labels : List (DeviceCall × DeviceReply)}
    (run : (Sparing host users devices).Run labels world) :
    ∀ scope ∈ engaged world, world.directory.available scope = true := by
  refine run.history (motive := fun _ world => ∀ scope ∈ engaged world, world.directory.available scope = true) ?_ ?_
  · intro initial valid
    cases valid
    nofun
  · rintro _ ⟨call, reply⟩ before after _ available ⟨transition, spares⟩ scope engages
    have effect : Effect host before call reply after := effect_of_step transition
    by_cases changes : ∃ change, call = .roster change
    · obtain ⟨change, rfl⟩ := changes
      rcases engaged_step transition engages with older | ⟨here, same⟩
      · cases effect with
        | roster => exact spares scope older
        | refused => exact available scope older
        | lapsed named => cases named
      · rw [same]
        exact here
    · have quiet : ∀ change, call ≠ .roster change := fun change same => changes ⟨change, same⟩
      rw [available_step effect quiet]
      rcases engaged_step transition engages with older | ⟨here, _⟩
      · exact available scope older
      · exact here

/-- Revocation is honoured where it finds nobody engaged. -/
theorem revocation_honoured (host : DeviceHost) (users : Table UserRow.key) (devices : Table DeviceRow.key) :
    HonoursRevocation host (Sparing host users devices) := by
  intro labels world call scope run served
  exact engaged_available run scope (engaged_of_served (effect_of_answer (Prod.ext rfl rfl)) served)

/-- Another device is revoked while a session is open. -/
def sparingCalls : List DeviceCall :=
  openingCalls ++ [.roster (.addDevice ⟨"test.alpha", "device.other", "user.owner", "public", .registered⟩),
    .roster (.deviceState ("test.alpha", "device.other") .revoked)]

theorem spared_honoured : (sampleMachine.replay sparingCalls sampleMachine.initial).2.directory.available
      ⟨"test.alpha", "user.owner", "device.other"⟩ = false ∧
    (sampleMachine.replay sparingCalls sampleMachine.initial).2.directory.available sampleScope = true :=
  ⟨by decide, revocation_honoured sampleDeviceHost sampleUsers sampleDevices
      (sampleMachine.replay_restricted (by decide))
      (by decide : servedOf _ (.poll "session.one" sampleStart 60000, (answer sampleDeviceHost _ _).1) =
          some sampleScope)⟩

/-- The device of an open session is revoked. -/
def revokedCalls : List DeviceCall := openingCalls ++ [.roster (.deviceState ("test.alpha", "device.owner") .revoked)]

/-- The device is revoked while a proof is verified. -/
def overtakenCalls : List DeviceCall :=
  openingCalls.take 2 ++ [.roster (.deviceState ("test.alpha", "device.owner") .revoked)]

/-- A poll on the open session succeeds all the same, and so does the opening that waits. -/
theorem revoked_served : ∀ attempt ∈ [(revokedCalls, DeviceCall.poll "session.one" sampleStart 60000),
    (overtakenCalls, .resume 0 "session.one")],
      let world := (sampleMachine.replay attempt.1 sampleMachine.initial).2
      world.directory.available sampleScope = false ∧
        servedOf world (attempt.2, (answer sampleDeviceHost attempt.2 world).1) = some sampleScope := by
  decide

theorem revocation_not_honoured : ¬ HonoursRevocation sampleDeviceHost sampleMachine.system := by
  intro honours
  obtain ⟨revoked, served⟩ := revoked_served _ List.mem_cons_self
  have available := honours (sampleMachine.replay_run revokedCalls) served
  rw [revoked] at available
  cases available

end DeviceWorld

end QuarkSelfAI.ControlPlane

import QuarkSelfAI.ControlPlane.DeviceSteps

/-!
# Safety of device sessions

Challenges are used up, devices have one active session, acknowledged tasks keep their
lease, leases follow one another, and results stay.
-/

namespace QuarkSelfAI.ControlPlane

open Foundation ClientRuntime

namespace DeviceWorld

variable {host : DeviceHost} {users : Table UserRow.key} {devices : Table DeviceRow.key}
  {labels : List (DeviceCall × DeviceReply)}

/-! ## Challenges -/

/-- The sessions that a challenge opens. -/
def opensOf (challengeId : String) (world : DeviceWorld) (entry : DeviceCall × DeviceReply) : List String :=
  match entry.2, entry.1 with
  | .session session, .resume ticket _ =>
    match world.calls.find? ticket with
    | some (.opening proof _ _ _ _) => if proof.challengeId = challengeId then [session.sessionId] else []
    | _ => []
  | _, _ => []

def Consumed (challengeId : String) (world : DeviceWorld) : Prop :=
  ∃ row, world.challenges.find? challengeId = some row ∧ row.consumedAt ≠ none

theorem consumed_step {before after : DeviceWorld} {call : DeviceCall} {reply : DeviceReply}
    {challengeId : String} (consumed : Consumed challengeId before)
    (effect : Effect host before call reply after) : Consumed challengeId after := by
  obtain ⟨row, found, used⟩ := consumed
  cases effect with
  | challenged fresh inserted => exact ⟨row, Table.find?_kept inserted found, used⟩
  | opened waiting verified scope active here unconsumed inserted updated =>
    obtain ⟨next, stored, rfl | ⟨_, rfl⟩⟩ := Table.find?_changed updated found
    · exact ⟨_, stored, used⟩
    · exact ⟨_, stored, nofun⟩
  | _ => exact ⟨row, found, used⟩

/-- A challenge opens nothing, or it opens one session and is used up. -/
theorem opens_step {before after : DeviceWorld} {call : DeviceCall} {reply : DeviceReply}
    (challengeId : String) (effect : Effect host before call reply after) :
    opensOf challengeId before (call, reply) = [] ∨
      (opensOf challengeId before (call, reply)).length = 1 ∧ ¬ Consumed challengeId before ∧
        Consumed challengeId after := by
  cases effect with
  | @opened ticket _ proof _ _ _ current _ session _ _ waiting verified scope active found unconsumed
      inserted updated =>
    unfold opensOf
    dsimp only
    rw [waiting]
    by_cases own : proof.challengeId = challengeId
    · subst own
      refine .inr ⟨by simp, ?_, _, Table.find?_rewritten updated found, nofun⟩
      rintro ⟨row, here, used⟩
      rw [found] at here
      cases here
      exact used unconsumed
    · exact .inl (by simp [own])
  | _ => exact .inl rfl

theorem opens_once {world : DeviceWorld}
    (run : (machine host users devices).system.Run labels world) (challengeId : String) :
    ((machine host users devices).seen (opensOf challengeId) labels).length ≤ 1 := by
  have counted : ((machine host users devices).seen (opensOf challengeId) labels = [] ∨
      ((machine host users devices).seen (opensOf challengeId) labels).length = 1 ∧ Consumed challengeId world) := by
    refine run.history (motive := fun labels world =>
      (machine host users devices).seen (opensOf challengeId) labels = [] ∨
        ((machine host users devices).seen (opensOf challengeId) labels).length = 1 ∧ Consumed challengeId world) ?_ ?_
    · intro _ _
      exact .inl rfl
    · intro labels label before after prior counted transition
      have effect := effect_of_step transition
      rw [Machine.seen_step prior]
      rcases opens_step challengeId effect with none | ⟨one, unused, used⟩
      · rw [none, List.append_nil]
        rcases counted with empty | ⟨single, consumed⟩
        · exact .inl empty
        · exact .inr ⟨single, consumed_step consumed effect⟩
      · rcases counted with empty | ⟨_, consumed⟩
        · rw [empty, List.nil_append]
          exact .inr ⟨one, used⟩
        · exact absurd consumed unused
  rcases counted with empty | ⟨single, _⟩
  · rw [empty]
    exact Nat.zero_le 1
  · exact Nat.le_of_eq single

/-! ## Sessions -/

/-- A device has one active session at most. -/
def OneActive (sessions : Table SessionRow.sessionId) : Prop :=
  ∀ first ∈ sessions, ∀ second ∈ sessions, first.state = .active → second.state = .active →
    first.tenantId = second.tenantId → first.deviceId = second.deviceId → first = second

theorem supersede_active {tenantId deviceId : String} {row : SessionRow}
    (active : (supersede tenantId deviceId row).state = .active) :
    supersede tenantId deviceId row = row ∧ ¬ (row.tenantId = tenantId ∧ row.deviceId = deviceId) := by
  unfold supersede at active ⊢
  split
  · rename_i all
    rw [if_pos all] at active
    cases active
  · rename_i other
    rw [if_neg other] at active
    exact ⟨rfl, fun both => other ⟨both.1, both.2, active⟩⟩

theorem oneActive_opened {before after : Table SessionRow.sessionId} {session : SessionRow} (one : OneActive before)
    (inserted : (before.mapRows (supersede session.tenantId session.deviceId)
      (supersede_sessionId session.tenantId session.deviceId)).insert? session = some after) : OneActive after := by
  have kept : ∀ row ∈ after, row.state = .active →
      row = session ∨ row ∈ before ∧ ¬ (row.tenantId = session.tenantId ∧ row.deviceId = session.deviceId) := by
    intro row listed active
    rcases (Table.mem_insert inserted).mp listed with older | rfl
    · obtain ⟨old, stored, rfl⟩ := (Table.mem_mapRows (supersede_sessionId _ _)).mp older
      obtain ⟨same, other⟩ := supersede_active active
      rw [same]
      exact .inr ⟨stored, other⟩
    · exact .inl rfl
  intro first listed second listed' active active' tenant device
  rcases kept first listed active with rfl | ⟨stored, other⟩
  · rcases kept second listed' active' with rfl | ⟨_, other'⟩
    · rfl
    · exact absurd ⟨tenant.symm, device.symm⟩ other'
  · rcases kept second listed' active' with rfl | ⟨stored', _⟩
    · exact absurd ⟨tenant, device⟩ other
    · exact one first stored second stored' active active' tenant device

theorem oneActive_lapsed {sessions : Table SessionRow.sessionId} (one : OneActive sessions)
    (sessionId : String) : OneActive (Directory.setSession sessionId .expired sessions) := by
  have kept : ∀ row ∈ Directory.setSession sessionId .expired sessions, row.state = .active → row ∈ sessions := by
    intro row listed active
    rcases Directory.mem_setSession.mp listed with ⟨old, _, _, rfl⟩ | ⟨older, _⟩
    · cases active
    · exact older
  intro first listed second listed' active active'
  exact one first (kept first listed active) second (kept second listed' active') active active'

theorem sessions_roster (directory : Directory) (change : RosterChange) :
    (directory.apply change.inDirectory).sessions = directory.sessions := by
  cases change with
  | addUser | addDevice | userState | deviceState => rfl

theorem oneActive_run {world : DeviceWorld}
    (run : (machine host users devices).system.Run labels world) : OneActive world.directory.sessions := by
  refine run.history (motive := fun _ world => OneActive world.directory.sessions) ?_ ?_
  · intro initial valid
    cases valid
    nofun
  · rintro _ ⟨call, reply⟩ before after _ one transition
    cases effect_of_answer transition with
    | opened waiting verified scope active found unconsumed inserted updated => exact oneActive_opened one inserted
    | @lapsed _ _ sessionId _ => exact oneActive_lapsed one sessionId
    | roster change =>
      rw [sessions_roster]
      exact one
    | _ => exact one

end DeviceWorld

end QuarkSelfAI.ControlPlane

import QuarkSelfAI.ControlPlane.InstalledServer

/-!
# Recovery after use

When the operations of the lifecycle still find the bootstrapped owner: as long as nobody has logged in
and no user was added, no process was cut off between renaming a dead lease and removing it, and none
between the creation of a socket that others may open and its `chmod`. Each of these stays for good,
so each has an invariant that counts it in the history.
-/

namespace QuarkSelfAI.ControlPlane

open Foundation

variable {Devices : Type} {host : ServerHost} {configuration : ServerConfiguration} {input : FirstOwnerInput}
  {password salt : String} {now : Timestamp} {devices : Devices} {server before after : InstalledServer Devices}
  {labels : List (ServerCall Devices × ServerReply)} {call : ServerCall Devices} {reply : ServerReply}
  {database changed : ControlDatabase}

namespace InstalledServer

/-! ## The rows -/

/-- What an operation does to the rows that the recovery counts. -/
structure RowsStep (before after : ControlDatabase) (reply : ServerReply) : Prop where
  tenants : after.tenants = before.tenants
  sessions : after.sessions.rows = [] ↔ before.sessions.rows = [] ∧ ∀ session expiresAt,
    reply ≠ .login (.authenticated session expiresAt)
  people : reply ≠ .provisioned ∧ after.users = before.users ∧ after.accounts = before.accounts ∨
    reply = .provisioned ∧ after.users.rows.length = before.users.rows.length + 1

theorem RowsStep.same (unlogged : ∀ session expiresAt, reply ≠ .login (.authenticated session expiresAt))
    (unprovisioned : reply ≠ .provisioned) : RowsStep database database reply :=
  ⟨rfl, ⟨fun none => ⟨none, unlogged⟩, fun both => both.1⟩, .inl ⟨unprovisioned, rfl, rfl⟩⟩

theorem endLogin_sessions (host : IdentityHost) (login : Login) (reference : String) (world : LoginWorld) :
    (LoginWorld.endLogin host login reference world).2.sessions.rows = [] ↔ world.sessions.rows = [] ∧
      ∀ session expiresAt, (LoginWorld.endLogin host login reference world).1 ≠ .authenticated session expiresAt := by
  unfold LoginWorld.endLogin
  split
  · exact ⟨fun none => ⟨none, nofun⟩, fun both => both.1⟩
  · split
    · dsimp only
      split
      · rename_i sessions inserted
        rw [Table.rows_insert (Table.insertOrThrow_ok.mp inserted)]
        constructor
        · intro none
          simp at none
        · rintro ⟨_, unlogged⟩
          exact absurd rfl (unlogged _ _)
      · exact ⟨fun none => ⟨none, nofun⟩, fun both => both.1⟩
    · exact ⟨fun none => ⟨none, nofun⟩, fun both => both.1⟩

theorem answer_sessions (host : IdentityHost) (call : LoginCall) (world : LoginWorld) :
    (LoginWorld.answer host call world).2.sessions.rows = [] ↔ world.sessions.rows = [] ∧
      ∀ session expiresAt, (LoginWorld.answer host call world).1 ≠ .authenticated session expiresAt := by
  cases call with
  | authenticate tenantId userId password now =>
    unfold LoginWorld.answer
    dsimp only
    split <;> exact ⟨fun none => ⟨none, nofun⟩, fun both => both.1⟩
  | derived ticket reference =>
    unfold LoginWorld.answer
    dsimp only
    split
    · exact ⟨fun none => ⟨none, nofun⟩, fun both => both.1⟩
    · exact endLogin_sessions host _ reference _
  | administer people => exact ⟨fun none => ⟨none, nofun⟩, fun both => both.1⟩

theorem logged_rows (host : IdentityHost) (call : LoginCall) (database : ControlDatabase) (calls : Suspension Login) :
    RowsStep database (database.logged (LoginWorld.answer host call (database.login calls)).2)
      (.login (LoginWorld.answer host call (database.login calls)).1) := by
  refine ⟨rfl, ?_, .inl ⟨nofun, rfl, rfl⟩⟩
  refine (answer_sessions host call (database.login calls)).trans (and_congr_right fun _ => ?_)
  exact forall_congr' fun session => forall_congr' fun expiresAt => not_congr (ServerReply.login.injEq _ _).symm.to_iff

theorem endSession_rows (digest : String) (state : BrowserSessionState) (database : ControlDatabase)
    (unlogged : ∀ session expiresAt, reply ≠ .login (.authenticated session expiresAt))
    (unprovisioned : reply ≠ .provisioned) : RowsStep database (database.endSession digest state) reply := by
  refine ⟨rfl, ?_, .inl ⟨unprovisioned, rfl, rfl⟩⟩
  rw [ControlDatabase.endSession, Table.update, List.map_eq_nil_iff]
  exact ⟨fun none => ⟨none, unlogged⟩, fun both => both.1⟩

theorem resolveSession_rows (reference : String) (now : Timestamp) (database : ControlDatabase)
    (unlogged : ∀ session expiresAt, reply ≠ .login (.authenticated session expiresAt))
    (unprovisioned : reply ≠ .provisioned) :
    RowsStep database (database.resolveSession host reference now).2 reply := by
  have same : RowsStep database database reply := .same unlogged unprovisioned
  unfold ControlDatabase.resolveSession
  dsimp only
  split
  · exact same
  · split
    · exact same
    · split
      · split
        · exact same
        · split
          · exact endSession_rows _ _ _ unlogged unprovisioned
          · exact same
      · exact same

theorem revoke_rows (reference : String) (database : ControlDatabase)
    (unlogged : ∀ session expiresAt, reply ≠ .login (.authenticated session expiresAt))
    (unprovisioned : reply ≠ .provisioned) : RowsStep database (database.revoke host reference).2 reply := by
  unfold ControlDatabase.revoke
  split
  · exact .same unlogged unprovisioned
  · exact endSession_rows _ _ _ unlogged unprovisioned

theorem provisionUser_rows (context : TenantContext) (input : UserProvision) (database : ControlDatabase) :
    RowsStep database (database.provisionUser host context input salt now).2
      (match (database.provisionUser host context input salt now).1 with
        | .ok () => .provisioned
        | .error message => .refused message) := by
  unfold ControlDatabase.provisionUser
  dsimp only
  split
  · exact .same nofun nofun
  · split
    · rename_i kept failed
      rw [(transaction_error.mp failed).2]
      exact .same nofun nofun
    · rename_i next inserted
      have body := transaction_ok.mp inserted
      unfold ControlDatabase.insertUser at body
      obtain ⟨_, _, rest⟩ := bind_ok.mp body
      obtain ⟨users, userInserted, rest⟩ := bind_ok.mp rest
      obtain ⟨accounts, _, stored⟩ := bind_ok.mp rest
      cases stored
      refine ⟨rfl, ⟨fun none => ⟨none, nofun⟩, fun both => both.1⟩, .inr ⟨rfl, ?_⟩⟩
      rw [Table.rows_insert (Table.insertOrThrow_ok.mp userInserted), List.length_append, List.length_singleton]

/-- A step of the process answers nothing that an operation answers. -/
theorem advance_reply (host : ServerHost) (uuid : String) (server : InstalledServer Devices) :
    (server.advance host uuid).1 = .done ∨ ∃ message, (server.advance host uuid).1 = .refused message := by
  unfold advance
  dsimp only
  split
  · split
    · exact .inl rfl
    · exact .inl rfl
    · exact .inr ⟨_, rfl⟩
  · exact .inl rfl
  · exact .inl rfl
  · split
    · exact .inl rfl
    · exact .inr ⟨_, rfl⟩
  · split
    · split
      · exact .inr ⟨_, rfl⟩
      · exact .inl rfl
      · exact .inl rfl
    · exact .inl rfl
  · split
    · exact .inr ⟨_, rfl⟩
    · exact .inl rfl
  all_goals exact .inl rfl

/-- What a step of the process leaves alone. -/
structure Untouched (before after : InstalledServer Devices) : Prop where
  configuration : after.configuration = before.configuration
  receipt : after.receipt = before.receipt
  database : after.database = before.database

theorem advance_untouched (host : ServerHost) (uuid : String) (server : InstalledServer Devices) :
    Untouched server (server.advance host uuid).2 := by
  unfold advance
  dsimp only
  split
  · split <;> exact ⟨rfl, rfl, rfl⟩
  · exact ⟨rfl, rfl, rfl⟩
  · exact ⟨rfl, rfl, rfl⟩
  · split <;> exact ⟨rfl, rfl, rfl⟩
  · split
    · split <;> exact ⟨rfl, rfl, rfl⟩
    · exact ⟨rfl, rfl, rfl⟩
  · split <;> exact ⟨rfl, rfl, rfl⟩
  all_goals exact ⟨rfl, rfl, rfl⟩

/-- What an operation does to an installation: its rows, and nothing of its files. -/
structure Operated (before after : InstalledServer Devices) (reply : ServerReply) : Prop where
  configuration : after.configuration = before.configuration
  receipt : after.receipt = before.receipt
  rows : RowsStep before.database after.database reply
  entries : after.stateEntries = before.stateEntries
  runtime : after.runtime = before.runtime
  phase : after.phase = before.phase
  uncut : ∀ phase, reply ≠ .cut phase

theorem Operated.whileRunning {result : ServerReply × InstalledServer Devices}
    (operated : Operated server result.2 result.1) :
    Operated server (server.whileRunning result).2 (server.whileRunning result).1 := by
  unfold InstalledServer.whileRunning
  split
  · exact operated
  · exact ⟨rfl, rfl, .same nofun nofun, rfl, rfl, rfl, nofun⟩

/-- A call is an operation, or moves the process. -/
inductive ServerCall.Moves : ServerCall Devices → Prop where
  | start : Moves .start
  | advance (uuid : String) : Moves (.advance uuid)
  | stop : Moves .stop
  | crash : Moves .crash

theorem perform_operates (host : ServerHost) (call : ServerCall Devices) (server : InstalledServer Devices) :
    ServerCall.Moves call ∨ Operated server (perform host call server).2 (perform host call server).1 := by
  cases call with
  | start => exact .inl .start
  | advance uuid => exact .inl (.advance uuid)
  | stop => exact .inl .stop
  | crash => exact .inl .crash
  | authenticate | derived => exact .inr (Operated.whileRunning ⟨rfl, rfl, logged_rows _ _ _ _, rfl, rfl, rfl, nofun⟩)
  | resolveSession reference now =>
    exact .inr (Operated.whileRunning ⟨rfl, rfl, resolveSession_rows _ _ _ nofun nofun, rfl, rfl, rfl, nofun⟩)
  | revoke reference =>
    refine .inr (Operated.whileRunning ⟨rfl, rfl, revoke_rows _ _ ?_ ?_, rfl, rfl, rfl, ?_⟩)
    all_goals
      dsimp only
      split <;> nofun
  | provisionUser context input salt now =>
    refine .inr (Operated.whileRunning ⟨rfl, rfl, provisionUser_rows _ _ _, rfl, rfl, rfl, ?_⟩)
    intro phase
    dsimp only
    split <;> nofun
  | device change => exact .inr (Operated.whileRunning ⟨rfl, rfl, .same nofun nofun, rfl, rfl, rfl, nofun⟩)

theorem moves_rows (moves : ServerCall.Moves call) (host : ServerHost) (server : InstalledServer Devices) :
    Untouched server (perform host call server).2 ∧
      (∀ session expiresAt, (perform host call server).1 ≠ .login (.authenticated session expiresAt)) ∧
      (perform host call server).1 ≠ .provisioned := by
  cases moves with
  | start =>
    unfold perform
    dsimp only
    split <;> exact ⟨⟨rfl, rfl, rfl⟩, nofun, nofun⟩
  | advance uuid =>
    refine ⟨advance_untouched host uuid server, ?_⟩
    have answered : (perform host (.advance uuid) server).1 = (server.advance host uuid).1 := rfl
    rw [answered]
    rcases advance_reply host uuid server with done | ⟨message, refused⟩
    · rw [done]
      exact ⟨nofun, nofun⟩
    · rw [refused]
      exact ⟨nofun, nofun⟩
  | stop =>
    unfold perform whileRunning
    dsimp only
    split <;> exact ⟨⟨rfl, rfl, rfl⟩, nofun, nofun⟩
  | crash => exact ⟨⟨rfl, rfl, rfl⟩, nofun, nofun⟩

/-- Every call keeps the configuration and the receipt, and does to the rows what it answers. -/
theorem perform_rows (host : ServerHost) (call : ServerCall Devices) (server : InstalledServer Devices) :
    (perform host call server).2.configuration = server.configuration ∧
      (perform host call server).2.receipt = server.receipt ∧
      RowsStep server.database (perform host call server).2.database (perform host call server).1 := by
  rcases perform_operates host call server with moves | operated
  · obtain ⟨untouched, unlogged, unprovisioned⟩ := moves_rows moves host server
    refine ⟨untouched.configuration, untouched.receipt, ?_⟩
    rw [untouched.database]
    exact .same unlogged unprovisioned
  · exact ⟨operated.configuration, operated.receipt, operated.rows⟩

/-! ## The files -/

theorem opened_entries (server : InstalledServer Devices) (name : String) :
    name ∈ server.opened.stateEntries ↔ name ∈ server.stateEntries ∨ name ∈ walEntries := by
  unfold opened
  simp only [List.mem_append, List.mem_filter, decide_eq_true_eq]
  constructor
  · rintro (listed | ⟨listed, _⟩)
    · exact .inl listed
    · exact .inr listed
  · rintro (listed | wal)
    · exact .inl listed
    · by_cases listed : name ∈ server.stateEntries
      · exact .inl listed
      · exact .inr ⟨wal, listed⟩

theorem closed_entries (server : InstalledServer Devices) (name : String) :
    name ∈ server.closed.stateEntries ↔ name ∈ server.stateEntries ∧ name ∉ walEntries := by
  unfold closed
  simp only [List.mem_filter, decide_eq_true_eq]

/-- The entries of the state directory. -/
structure EntriesOk (server : InstalledServer Devices) : Prop where
  database : "control.sqlite3" ∈ server.stateEntries
  receipt : "owner-bootstrap-receipt.json" ∈ server.stateEntries
  allowed : ∀ name ∈ server.stateEntries, name ∈ stateAllowed

theorem EntriesOk.opened (ok : EntriesOk server) : EntriesOk server.opened where
  database := (opened_entries server _).mpr (.inl ok.database)
  receipt := (opened_entries server _).mpr (.inl ok.receipt)
  allowed name listed := by
    rcases (opened_entries server name).mp listed with before | wal
    · exact ok.allowed name before
    · exact List.mem_cons_of_mem _ (List.mem_cons_of_mem _ wal)

theorem EntriesOk.closed (ok : EntriesOk server) : EntriesOk server.closed where
  database := (closed_entries server _).mpr ⟨ok.database, by decide⟩
  receipt := (closed_entries server _).mpr ⟨ok.receipt, by decide⟩
  allowed name listed := ok.allowed name ((closed_entries server name).mp listed).1

theorem EntriesOk.same (ok : EntriesOk before) (same : after.stateEntries = before.stateEntries) : EntriesOk after where
  database := same ▸ ok.database
  receipt := same ▸ ok.receipt
  allowed := same ▸ ok.allowed

end InstalledServer

/-- A lease is renamed and not yet removed. -/
def ServerPhase.isReclaiming : ServerPhase → Bool
  | .discarding _ | .removing _ => true
  | _ => false

/-- A crash that leaves a renamed lease. -/
def ServerReply.leavesLease : ServerReply → Bool
  | .cut phase => phase.isReclaiming
  | _ => false

/-- A crash that leaves a socket that others may open. -/
def ServerReply.leavesSocket (host : ServerHost) (reply : ServerReply) : Bool :=
  decide (reply = .cut .guarding) && !host.privateUmask

namespace InstalledServer

/-- The lease in hand, if one is renamed. -/
def inHand (server : InstalledServer Devices) : Nat := if server.phase.isReclaiming = true then 1 else 0

/-- What is known of the files, with the number of renamed leases that were left, and whether a socket was
left that others may open. -/
structure FilesOk (host : ServerHost) (left : Nat) (spoiled : Bool) (server : InstalledServer Devices) : Prop where
  entries : EntriesOk server
  stale : server.runtime.stale.length = left + server.inHand
  exposed : spoiled = true → server.runtime.socket = some false ∧ server.phase ≠ .guarding ∧ server.phase ≠ .running
  covered : server.runtime.socket = some false → spoiled = true ∨ server.phase = .guarding ∧ host.privateUmask = false
  guarding : server.phase = .guarding → server.runtime.socket = some host.privateUmask

variable {left : Nat} {spoiled : Bool}

/-- A step that leaves the socket alone. -/
theorem FilesOk.beside (ok : FilesOk host left spoiled before) (entries : EntriesOk after)
    (stale : after.runtime.stale.length + before.inHand = before.runtime.stale.length + after.inHand)
    (socket : after.runtime.socket = before.runtime.socket) (unguarded : before.phase ≠ .guarding)
    (guarding : after.phase ≠ .guarding) (running : after.phase ≠ .running) : FilesOk host left spoiled after where
  entries := entries
  stale := by
    have counted := ok.stale
    omega
  exposed cut := ⟨socket.trans (ok.exposed cut).1, guarding, running⟩
  covered open_ := (ok.covered (socket.symm.trans open_)).imp_right fun guards => absurd guards.1 unguarded
  guarding reached := absurd reached guarding

/-- Where no socket is in the way, none was left. -/
theorem FilesOk.unspoiled (ok : FilesOk host left spoiled server) (socket : server.runtime.socket ≠ some false) :
    spoiled = false := by
  cases spoiled with
  | false => rfl
  | true => exact absurd (ok.exposed rfl).1 socket

/-- A step that makes or removes the socket. -/
theorem FilesOk.withSocket (ok : FilesOk host left spoiled before) (clean : spoiled = false) (entries : EntriesOk after)
    (stale : after.runtime.stale.length + before.inHand = before.runtime.stale.length + after.inHand)
    (covered : after.runtime.socket = some false → after.phase = .guarding ∧ host.privateUmask = false)
    (guarding : after.phase = .guarding → after.runtime.socket = some host.privateUmask) :
    FilesOk host left spoiled after where
  entries := entries
  stale := by
    have counted := ok.stale
    omega
  exposed cut := absurd cut (by simp [clean])
  covered open_ := .inr (covered open_)
  guarding := guarding

theorem inHand_one (reclaiming : server.phase.isReclaiming = true) : server.inHand = 1 := if_pos reclaiming

theorem inHand_zero (settled : server.phase.isReclaiming = false) : server.inHand = 0 := if_neg (by simp [settled])

/-- A step that has nothing to do with a renamed lease or with the socket. -/
theorem FilesOk.plainly (ok : FilesOk host left spoiled before) (entries : EntriesOk after)
    (stale : after.runtime.stale = before.runtime.stale) (socket : after.runtime.socket = before.runtime.socket)
    (settled : before.phase.isReclaiming = false) (settles : after.phase.isReclaiming = false)
    (unguarded : before.phase ≠ .guarding) (guarding : after.phase ≠ .guarding) (running : after.phase ≠ .running) :
    FilesOk host left spoiled after := by
  refine ok.beside entries ?_ socket unguarded guarding running
  rw [stale, inHand_zero settled, inHand_zero settles]

theorem FilesOk.advance (ok : FilesOk host left spoiled server) (uuid : String) :
    FilesOk host left spoiled (server.advance host uuid).2 := by
  have counted := ok.stale
  unfold InstalledServer.advance
  dsimp only
  cases phase : server.phase with
  | making attempt reclaimed =>
    have settled : server.phase.isReclaiming = false := by rw [phase]; rfl
    have unguarded : server.phase ≠ .guarding := by rw [phase]; nofun
    cases server.runtime.lease with
    | none => exact ok.plainly (ok.entries.same rfl) rfl rfl settled rfl unguarded nofun nofun
    | some owned =>
      cases owned with
      | false => exact ok.plainly (ok.entries.same rfl) rfl rfl settled rfl unguarded nofun nofun
      | true =>
        refine ok.beside (ok.entries.same rfl) ?_ rfl unguarded nofun nofun
        rw [inHand_zero settled, inHand_one rfl]
        exact List.length_append
  | writing | closing | releasing =>
    have settled : server.phase.isReclaiming = false := by rw [phase]; rfl
    exact ok.plainly (ok.entries.same rfl) rfl rfl settled rfl (by rw [phase]; nofun) nofun nofun
  | discarding attempt =>
    have reclaiming : server.phase.isReclaiming = true := by rw [phase]; rfl
    rw [inHand_one reclaiming] at counted
    refine ok.beside (ok.entries.same rfl) ?_ rfl (by rw [phase]; nofun) nofun nofun
    rw [inHand_one reclaiming, inHand_one rfl]
    cases last : server.runtime.stale.getLast? with
    | none =>
      rw [List.getLast?_eq_none_iff] at last
      simp [last] at counted
    | some lease =>
      rw [List.length_append, List.length_dropLast]
      simp only [Option.map_some, Option.toList_some, List.length_singleton]
      omega
  | removing attempt =>
    have reclaiming : server.phase.isReclaiming = true := by rw [phase]; rfl
    have unguarded : server.phase ≠ .guarding := by rw [phase]; nofun
    rw [inHand_one reclaiming] at counted
    have fewer : server.runtime.stale.dropLast.length + 1 = server.runtime.stale.length + 0 := by
      rw [List.length_dropLast]
      omega
    dsimp only
    split
    all_goals
      refine ok.beside (ok.entries.same rfl) ?_ rfl unguarded nofun nofun
      rw [inHand_one reclaiming, inHand_zero rfl]
      exact fewer
  | reconciling reclaimed =>
    have settled : server.phase.isReclaiming = false := by rw [phase]; rfl
    have unguarded : server.phase ≠ .guarding := by rw [phase]; nofun
    cases reclaimed with
    | false => exact ok.plainly (ok.entries.same rfl) rfl rfl settled rfl unguarded nofun nofun
    | true =>
      dsimp only
      rw [if_pos rfl]
      cases socket : server.runtime.socket with
      | none => exact ok.plainly (ok.entries.same rfl) rfl rfl settled rfl unguarded nofun nofun
      | some guarded =>
        cases guarded with
        | false => exact ok.plainly ok.entries.closed rfl rfl settled rfl unguarded nofun nofun
        | true =>
          refine ok.withSocket (ok.unspoiled (by simp [socket])) (ok.entries.same rfl) ?_ nofun nofun
          rw [inHand_zero settled, inHand_zero rfl]
  | listening =>
    have settled : server.phase.isReclaiming = false := by rw [phase]; rfl
    cases socket : server.runtime.socket with
    | some guarded => exact ok.plainly ok.entries.closed rfl rfl settled rfl (by rw [phase]; nofun) nofun nofun
    | none =>
      refine ok.withSocket (ok.unspoiled (by simp [socket])) (ok.entries.opened.same rfl) ?_ ?_ ?_
      · rw [inHand_zero settled, inHand_zero rfl]
      · exact fun open_ => ⟨rfl, Option.some.inj open_⟩
      · exact fun _ => rfl
  | guarding =>
    have settled : server.phase.isReclaiming = false := by rw [phase]; rfl
    have clean : spoiled = false := by
      cases spoiled with
      | false => rfl
      | true => exact absurd phase (ok.exposed rfl).2.1
    refine ok.withSocket clean (ok.entries.same rfl) ?_ nofun nofun
    rw [inHand_zero settled, inHand_zero rfl]
  | stopped | running => exact ok

/-- What every call does to the files. -/
theorem FilesOk.still (ok : FilesOk host left spoiled before) (entries : after.stateEntries = before.stateEntries)
    (runtime : after.runtime = before.runtime) (phase : after.phase = before.phase) :
    FilesOk host left spoiled after where
  entries := ok.entries.same entries
  stale := by
    rw [runtime, inHand, phase]
    exact ok.stale
  exposed cut := by
    rw [runtime, phase]
    exact ok.exposed cut
  covered := by
    rw [runtime, phase]
    exact ok.covered
  guarding := by
    rw [runtime, phase]
    exact ok.guarding

/-- A crash leaves what the process had in hand. -/
theorem FilesOk.crash (ok : FilesOk host left spoiled server) :
    FilesOk host (left + if (ServerReply.cut server.phase).leavesLease = true then 1 else 0)
      (spoiled || (ServerReply.cut server.phase).leavesSocket host)
      { server with phase := .stopped, calls := server.calls.clear } where
  entries := ok.entries.same rfl
  stale := ok.stale
  exposed cut := by
    refine ⟨?_, nofun, nofun⟩
    rcases Bool.or_eq_true_iff.mp cut with before | now
    · exact (ok.exposed before).1
    · simp only [ServerReply.leavesSocket, Bool.and_eq_true, decide_eq_true_eq, Bool.not_eq_true'] at now
      have socket := ok.guarding (ServerReply.cut.inj now.1)
      rwa [now.2] at socket
  covered open_ := by
    refine .inl ?_
    rcases ok.covered open_ with before | ⟨phase, shared⟩
    · rw [before, Bool.true_or]
    · simp [ServerReply.leavesSocket, phase, shared]
  guarding := nofun

theorem FilesOk.quiet (ok : FilesOk host left spoiled after) (uncut : ∀ phase, reply ≠ .cut phase) :
    FilesOk host (left + if reply.leavesLease = true then 1 else 0) (spoiled || reply.leavesSocket host) after := by
  have lease : reply.leavesLease = false := by
    cases reply with
    | cut phase => exact absurd rfl (uncut phase)
    | _ => rfl
  have socket : reply.leavesSocket host = false := by
    rw [ServerReply.leavesSocket, decide_eq_false (uncut .guarding), Bool.false_and]
  rw [lease, socket, Bool.or_false]
  exact ok

theorem FilesOk.step (ok : FilesOk host left spoiled server) (call : ServerCall Devices) :
    FilesOk host (left + if (perform host call server).1.leavesLease = true then 1 else 0)
      (spoiled || (perform host call server).1.leavesSocket host) (perform host call server).2 := by
  rcases perform_operates host call server with moves | operated
  · cases moves with
    | start =>
      unfold perform
      dsimp only
      split
      · rename_i stopped
        have settled : server.phase.isReclaiming = false := by rw [stopped]; rfl
        refine FilesOk.quiet ?_ nofun
        exact ok.plainly (ok.entries.same rfl) rfl rfl settled rfl (by rw [stopped]; nofun) nofun nofun
      · exact ok.quiet nofun
    | advance uuid =>
      refine (ok.advance uuid).quiet fun phase => ?_
      rcases advance_reply host uuid server with done | ⟨message, refused⟩
      · exact fun same => nomatch done.symm.trans same
      · exact fun same => nomatch refused.symm.trans same
    | stop =>
      unfold perform whileRunning
      dsimp only
      split
      · rename_i running
        have settled : server.phase.isReclaiming = false := by rw [running]; rfl
        have clean : spoiled = false := by
          cases spoiled with
          | false => rfl
          | true => exact absurd running (ok.exposed rfl).2.2
        refine FilesOk.quiet (ok.withSocket clean (ok.entries.closed.same rfl) ?_ nofun nofun) nofun
        rw [inHand_zero settled, inHand_zero rfl]
      · exact ok.quiet nofun
    | crash => exact ok.crash
  · exact (ok.still operated.entries operated.runtime operated.phase).quiet operated.uncut

/-! ## What the recovery reads -/

theorem rows_singleton {Key Row : Type} [DecidableEq Key] {key : Row → Key} (row : Row) :
    ((Table.empty : Table key).insertOrIgnore row).rows = [row] := by
  simp [Table.insertOrIgnore, Table.insert?, Table.empty]

/-- The people are those of the bootstrap. -/
structure Bootstrapped (start : InstalledServer Devices) (database : ControlDatabase) : Prop where
  tenants : database.tenants = start.database.tenants
  users : database.users = start.database.users
  accounts : database.accounts = start.database.accounts

theorem inspect_bootstrapped
    (same : Bootstrapped (bootstrapped host configuration input password salt now devices) database)
    (sessions : database.sessions.rows = []) :
    inspectInstalledFirstOwnerDatabase database = .ok ⟨input.tenantId, input.userId, now⟩ := by
  have tenants : database.tenants.rows = [⟨input.tenantId, input.tenantName, .active, now⟩] := by
    rw [same.tenants]
    exact rows_singleton _
  have users : database.users.rows = [⟨input.tenantId, input.userId, input.displayName, .active, now⟩] := by
    rw [same.users]
    exact rows_singleton _
  have accounts : database.accounts.rows =
      [⟨input.tenantId, input.userId, salt, host.derive password salt, [.owner], .active, now⟩] := by
    rw [same.accounts]
    exact rows_singleton _
  have joined : database.joined = [(⟨input.tenantId, input.tenantName, .active, now⟩,
      ⟨input.tenantId, input.userId, input.displayName, .active, now⟩,
      ⟨input.tenantId, input.userId, salt, host.derive password salt, [.owner], .active, now⟩)] := by
    simp [ControlDatabase.joined, tenants, users, accounts, AccountRecord.key, UserRecord.key]
  simp [inspectInstalledFirstOwnerDatabase, joined, tenants, users, accounts, sessions, throwIf, bind, Except.bind]

theorem inspect_counts {owner : DatabaseOwner} (inspected : inspectInstalledFirstOwnerDatabase database = .ok owner) :
    database.users.rows.length = 1 ∧ database.sessions.rows = [] := by
  unfold inspectInstalledFirstOwnerDatabase at inspected
  split at inspected
  · cases inspected
  · obtain ⟨_, accepted, _⟩ := bind_ok.mp inspected
    simp only [throwIf_ok, not_or, not_not] at accepted
    exact ⟨accepted.2.2.2.2.2.2.2.1, List.length_eq_zero_iff.mp accepted.2.2.2.2.2.2.2.2.2⟩

/-- The name of a renamed lease is not one that the runtime directory may hold. -/
theorem stale_name (uuid : String) : s!"instance.stale.{uuid}" ∉ runtimeAllowed := by
  have text : s!"instance.stale.{uuid}" = "instance.stale." ++ uuid := by simp [toString]
  have start : ("instance.stale." ++ uuid).toList.take 9 = "instance.".toList := by
    rw [String.toList_append, List.take_append_of_le_length (by decide)]
    decide
  intro listed
  rw [text] at listed
  simp only [runtimeAllowed, List.mem_cons, List.not_mem_nil, or_false] at listed
  rcases listed with same | same | same
  all_goals
    rw [same] at start
    exact absurd start (by decide)

theorem entries_allowed_iff (runtime : RuntimeDirectory) :
    ¬ runtime.entries.any (fun name => name ∉ runtimeAllowed) = true ↔ runtime.stale = [] := by
  rw [List.any_eq_true]
  constructor
  · intro allowed
    refine List.eq_nil_iff_forall_not_mem.mpr fun lease listed => allowed ⟨s!"instance.stale.{lease.uuid}", ?_, ?_⟩
    · exact List.mem_append_left _ (List.mem_append_right _ (List.mem_map.mpr ⟨lease, listed, rfl⟩))
    · exact decide_eq_true (stale_name lease.uuid)
  · rintro none ⟨name, listed, refused⟩
    refine of_decide_eq_true refused ?_
    simp only [RuntimeDirectory.entries, none, List.map_nil, List.append_nil, List.mem_append, Option.mem_toList,
      Option.map_eq_some_iff] at listed
    rcases listed with ⟨_, _, rfl⟩ | ⟨_, _, rfl⟩ <;> decide

/-- The files are as the recovery expects them, and the database still shows the owner of the receipt. -/
theorem recover_iff (entries : EntriesOk server)
    (lineage : server.receipt.installationId = server.configuration.installationId ∧
      server.receipt.configurationDigest = server.configuration.configDigest) :
    server.recoverInstalledFirstOwner = .ok server.receipt ↔
      server.runtime.stale = [] ∧ server.runtime.socket ≠ some false ∧
      inspectInstalledFirstOwnerDatabase server.database =
        .ok ⟨server.receipt.tenantId, server.receipt.userId, server.receipt.createdAt⟩ := by
  have allowed : ¬ server.stateEntries.any (fun name => name ∉ stateAllowed) = true := by
    rw [List.any_eq_true]
    rintro ⟨name, listed, refused⟩
    exact of_decide_eq_true refused (entries.allowed name listed)
  unfold recoverInstalledFirstOwner
  simp only [bind_ok, throwIf_ok]
  constructor
  · rintro ⟨_, layout, _, sidecars, _, _, owner, inspected, _, matched, _⟩
    refine ⟨(entries_allowed_iff _).mp fun refused => layout (.inl refused), sidecars, ?_⟩
    simp only [not_or, not_not] at matched
    rw [inspected, ← matched.1, ← matched.2.1, ← matched.2.2]
  · rintro ⟨stale, socket, inspected⟩
    refine ⟨(), ?_, (), socket, (), ?_, _, inspected, (), ?_, trivial⟩
    · rintro (refused | missing | missing | refused)
      · exact (entries_allowed_iff _).mpr stale refused
      · exact missing entries.database
      · exact missing entries.receipt
      · exact allowed refused
    · rintro (drifted | drifted)
      · exact drifted lineage.1
      · exact drifted lineage.2
    · simp

end InstalledServer

/-! ## Runs -/

/-- A login that starts a session. -/
def ServerReply.isLogin : ServerReply → Bool
  | .login (.authenticated ..) => true
  | _ => false

/-- The installation is still recovered after a step. -/
def ServerReply.harmless (host : ServerHost) (reply : ServerReply) : Bool :=
  !reply.isLogin && decide (reply ≠ .provisioned) && !reply.leavesLease && !reply.leavesSocket host

/-- The process is between two steps that belong together. -/
def ServerPhase.isMidway (host : ServerHost) (phase : ServerPhase) : Bool :=
  phase.isReclaiming || (decide (phase = .guarding) && !host.privateUmask)

namespace InstalledServer

variable {Devices : Type} {host : ServerHost} {configuration : ServerConfiguration} {input : FirstOwnerInput}
  {password salt : String} {now : Timestamp} {devices : Devices} {server start before after : InstalledServer Devices}
  {labels : List (ServerCall Devices × ServerReply)} {reply : ServerReply}

theorem not_isLogin_iff : reply.isLogin = false ↔ ∀ session expiresAt, reply ≠ .login (.authenticated session expiresAt) := by
  constructor
  · rintro unlogged session expiresAt rfl
    cases unlogged
  · intro unlogged
    unfold ServerReply.isLogin
    split
    · exact absurd rfl (unlogged _ _)
    · rfl

/-- What is known after a run, of the installation that it started from. -/
structure Used (host : ServerHost) (start : InstalledServer Devices) (labels : List (ServerCall Devices × ServerReply))
    (server : InstalledServer Devices) : Prop where
  configuration : server.configuration = start.configuration
  receipt : server.receipt = start.receipt
  tenants : server.database.tenants = start.database.tenants
  sessions : server.database.sessions.rows = [] ↔ labels.any (fun label => label.2.isLogin) = false
  users : labels.any (fun label => label.2 = .provisioned) = false ∧ server.database.users = start.database.users ∧
      server.database.accounts = start.database.accounts ∨
    labels.any (fun label => label.2 = .provisioned) = true ∧
      start.database.users.rows.length < server.database.users.rows.length
  files : FilesOk host (labels.countP fun label => label.2.leavesLease) (labels.any fun label => label.2.leavesSocket host) server

theorem Used.initial : Used host (bootstrapped host configuration input password salt now devices) []
    (bootstrapped host configuration input password salt now devices) where
  configuration := rfl
  receipt := rfl
  tenants := rfl
  sessions := ⟨fun _ => rfl, fun _ => rfl⟩
  users := .inl ⟨rfl, rfl, rfl⟩
  files :=
    { entries := ⟨by simp [bootstrapped], by simp [bootstrapped], by simp [bootstrapped, stateAllowed]⟩
      stale := rfl
      exposed := nofun
      covered := nofun
      guarding := nofun }

theorem Used.step (used : Used host start labels before) (call : ServerCall Devices) :
    Used host start (labels ++ [(call, (perform host call before).1)]) (perform host call before).2 := by
  obtain ⟨configured, received, rows⟩ := perform_rows host call before
  constructor
  · exact configured.trans used.configuration
  · exact received.trans used.receipt
  · exact rows.tenants.trans used.tenants
  · rw [rows.sessions, used.sessions, ← not_isLogin_iff]
    simp
  · rcases rows.people with ⟨unprovisioned, users, accounts⟩ | ⟨provisioned, longer⟩
    · rw [users, accounts]
      simpa [unprovisioned] using used.users
    · refine .inr ⟨by simp [provisioned], ?_⟩
      rw [longer]
      rcases used.users with ⟨_, same, _⟩ | ⟨_, more⟩
      · rw [same]
        exact Nat.lt_succ_self _
      · exact Nat.lt_succ_of_lt more
  · have files := used.files.step call
    simpa [List.countP_append, List.countP_singleton] using files

theorem run_used (run : (machine host configuration input password salt now devices).system.Run labels server) :
    Used host (bootstrapped host configuration input password salt now devices) labels server := by
  refine run.history (motive := fun labels state => Used host _ labels state) ?_ ?_
  · intro state initially
    cases initially
    exact .initial
  · rintro labels ⟨call, reply⟩ before after _ used performed
    have same : perform host call before = (reply, after) := performed
    have next := used.step call
    rwa [same] at next

theorem any_harmless_iff : (∀ label ∈ labels, label.2.harmless host = true) ↔
    labels.any (fun label => label.2.isLogin) = false ∧ labels.any (fun label => label.2 = .provisioned) = false ∧
      (labels.countP fun label => label.2.leavesLease) = 0 ∧ labels.any (fun label => label.2.leavesSocket host) = false := by
  simp only [List.any_eq_false, List.countP_eq_zero, ServerReply.harmless, Bool.and_eq_true, Bool.not_eq_true',
    decide_eq_true_eq, ne_eq, Bool.not_eq_true]
  constructor
  · intro all
    exact ⟨fun label listed => (all label listed).1.1.1, fun label listed => (all label listed).1.1.2,
      fun label listed => (all label listed).1.2, fun label listed => (all label listed).2⟩
  · rintro ⟨logins, provisions, leases, sockets⟩ label listed
    exact ⟨⟨⟨logins label listed, provisions label listed⟩, leases label listed⟩, sockets label listed⟩

/-- The owner is recovered exactly as long as nobody has logged in or was added, and no crash and no step
in between has left a renamed lease or an open socket. -/
theorem Used.recover_iff
    (used : Used host (bootstrapped host configuration input password salt now devices) labels server) :
    server.recoverInstalledFirstOwner = .ok server.receipt ↔
      (∀ label ∈ labels, label.2.harmless host = true) ∧ server.phase.isMidway host = false := by
  have lineage : server.receipt.installationId = server.configuration.installationId ∧
      server.receipt.configurationDigest = server.configuration.configDigest := by
    rw [used.receipt, used.configuration]
    exact ⟨rfl, rfl⟩
  have counted := used.files.stale
  rw [InstalledServer.recover_iff used.files.entries lineage, any_harmless_iff]
  constructor
  · rintro ⟨stale, socket, inspected⟩
    obtain ⟨single, sessions⟩ := inspect_counts inspected
    rw [stale, List.length_nil] at counted
    have unspoiled := used.files.unspoiled socket
    refine ⟨⟨used.sessions.mp sessions, ?_, by omega, unspoiled⟩, ?_⟩
    · rcases used.users with ⟨unprovisioned, _⟩ | ⟨_, more⟩
      · exact unprovisioned
      · have one : (bootstrapped host configuration input password salt now devices).database.users.rows.length = 1 := by
          rw [bootstrapped, rows_singleton, List.length_singleton]
        omega
    · rw [ServerPhase.isMidway, Bool.or_eq_false_iff]
      constructor
      · cases reclaiming : server.phase.isReclaiming with
        | false => rfl
        | true =>
          rw [inHand_one reclaiming] at counted
          omega
      · rw [Bool.and_eq_false_iff, decide_eq_false_iff_not, Bool.not_eq_false']
        by_cases guards : server.phase = .guarding
        · refine .inr ?_
          have made := used.files.guarding guards
          cases umask : host.privateUmask with
          | true => rfl
          | false => exact absurd (umask ▸ made) socket
        · exact .inl guards
  · rintro ⟨⟨unlogged, unprovisioned, leases, unspoiled⟩, settled⟩
    rw [ServerPhase.isMidway, Bool.or_eq_false_iff] at settled
    rw [leases, inHand_zero settled.1] at counted
    refine ⟨List.length_eq_zero_iff.mp counted, ?_, ?_⟩
    · intro open_
      rcases used.files.covered open_ with spoiled | ⟨guards, shared⟩
      · rw [unspoiled] at spoiled
        cases spoiled
      · simp [guards, shared] at settled
    · have people : Bootstrapped (bootstrapped host configuration input password salt now devices) server.database := by
        rcases used.users with ⟨_, users, accounts⟩ | ⟨provisioned, _⟩
        · exact ⟨used.tenants, users, accounts⟩
        · rw [unprovisioned] at provisioned
          cases provisioned
      rw [inspect_bootstrapped people (used.sessions.mpr unlogged), used.receipt]
      rfl

/-- The owner that is recovered is the one that the database shows. -/
theorem recover_inspects {receipt : OwnerReceipt} (recovered : server.recoverInstalledFirstOwner = .ok receipt) :
    inspectInstalledFirstOwnerDatabase server.database = .ok ⟨receipt.tenantId, receipt.userId, receipt.createdAt⟩ := by
  unfold recoverInstalledFirstOwner at recovered
  obtain ⟨_, _, rest⟩ := bind_ok.mp recovered
  obtain ⟨_, _, rest⟩ := bind_ok.mp rest
  obtain ⟨_, _, rest⟩ := bind_ok.mp rest
  obtain ⟨owner, inspected, rest⟩ := bind_ok.mp rest
  obtain ⟨_, matched, same⟩ := bind_ok.mp rest
  cases same
  simp only [throwIf_ok, not_or, not_not] at matched
  rw [inspected, ← matched.1, ← matched.2.1, ← matched.2.2]

/-- Beside what use does not change, an operation of the lifecycle needs the owner alone. -/
theorem lifecycle_iff (unchanged : LifecycleOperation → Except String Unit) (operation : LifecycleOperation)
    (server : InstalledServer Devices) : lifecycle unchanged operation server = .ok server.receipt ↔
      unchanged operation = .ok () ∧ server.recoverInstalledFirstOwner = .ok server.receipt := by
  unfold lifecycle
  simp only [bind_ok]
  constructor
  · rintro ⟨receipt, recovered, rest⟩
    split at rest
    · obtain ⟨_, _, rest⟩ := bind_ok.mp rest
      obtain ⟨_, _, rest⟩ := bind_ok.mp rest
      obtain ⟨_, checked, same⟩ := bind_ok.mp rest
      cases same
      exact ⟨checked, recovered⟩
    · obtain ⟨_, checked, same⟩ := bind_ok.mp rest
      cases same
      exact ⟨checked, recovered⟩
  · rintro ⟨checked, recovered⟩
    refine ⟨server.receipt, recovered, ?_⟩
    split
    · refine bind_ok.mpr ⟨_, recover_inspects recovered, bind_ok.mpr ⟨(), ?_, bind_ok.mpr ⟨(), checked, rfl⟩⟩⟩
      rw [throwIf_ok]
      simp
    · exact bind_ok.mpr ⟨(), checked, rfl⟩

/-- After any use, every operation of the lifecycle succeeds exactly where its other checks do, nobody has
logged in, no user was added, no process was cut off between the renaming and the removal of a lease or
before the `chmod` of an open socket, and none is there now. -/
theorem lifecycle_usable_iff (run : (machine host configuration input password salt now devices).system.Run labels server)
    (unchanged : LifecycleOperation → Except String Unit) (operation : LifecycleOperation) :
    lifecycle unchanged operation server = .ok server.receipt ↔ unchanged operation = .ok () ∧
      (∀ label ∈ labels, label.2.harmless host = true) ∧ server.phase.isMidway host = false := by
  rw [lifecycle_iff, (run_used run).recover_iff]

def plainHost : ServerHost where
  derive password salt := password ++ salt
  sessionDigest := id
  authorize _ _ _ := true
  privateUmask := false

/-- The server of a first owner whose password is twelve letters. -/
def firstOwner : Machine (InstalledServer Unit) (ServerCall Unit) ServerReply :=
  machine plainHost ⟨"server-installation.0", "sha256:0"⟩ ⟨"tenant", "Tenant", "owner", "Owner"⟩ "correct-horse" "salt" 0 ()

/-- The process starts, up to where it runs. -/
def started : List (ServerCall Unit) := [.start, .advance "1", .advance "1", .advance "1", .advance "1", .advance "1"]

/-- A failed login and a crash of the running server leave the installation as it was. -/
theorem crashed_usable : ∃ labels server, firstOwner.system.Run labels server ∧
    lifecycle (fun _ => .ok ()) .backup server = .ok server.receipt := by
  have run := firstOwner.replay_run
    (started ++ [.authenticate "tenant" "owner" "wrong-password" 1, .derived 0 "session:0", .crash])
  refine ⟨_, _, run, (lifecycle_usable_iff run _ .backup).mpr ⟨rfl, ?_, ?_⟩⟩ <;> decide

/-- One login, or one more user, and no operation succeeds any more; neither does any when the next start
is cut off while it removes the lease of a server that crashed. -/
theorem used_unusable : (∃ labels server, firstOwner.system.Run labels server ∧ server.phase = .running ∧
      lifecycle (fun _ => .ok ()) .deactivate server = .error "installed owner bootstrap database is invalid") ∧
    (∃ labels server, firstOwner.system.Run labels server ∧ server.phase = .running ∧
      lifecycle (fun _ => .ok ()) .backup server = .error "installed owner bootstrap database is invalid") ∧
    ∃ labels server, firstOwner.system.Run labels server ∧ server.phase = .stopped ∧
      lifecycle (fun _ => .ok ()) .status server = .error "installed owner bootstrap layout is invalid" := by
  refine ⟨?_, ?_, ?_⟩
  · refine ⟨_, _, firstOwner.replay_run
      (started ++ [.authenticate "tenant" "owner" "correct-horse" 1, .derived 0 "session:0"]), ?_⟩
    decide
  · refine ⟨_, _, firstOwner.replay_run (started ++
      [.provisionUser ⟨"tenant", "owner", [.owner]⟩ ⟨"member", "Member", "battery-staple", [.member]⟩ "salt" 1]), ?_⟩
    decide
  · refine ⟨_, _, firstOwner.replay_run (started ++ [.crash, .start, .advance "2", .crash]), ?_⟩
    decide

end InstalledServer

end QuarkSelfAI.ControlPlane

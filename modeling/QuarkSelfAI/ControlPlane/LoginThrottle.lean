import QuarkSelfAI.ControlPlane.Login

/-!
# The login throttle

Five failures within fifteen minutes of the first block an account, provided that each
is counted on top of the failures before it. A login counts on top of what it has
read before it waited for its password, so of logins that wait together only one is
counted. A login that starts while its account is blocked fails in any case.
-/

namespace QuarkSelfAI.ControlPlane

open Foundation

/-! ## What is to hold -/

/-- When and how the logins of an account ended that were not blocked when they started:
the time of each, and whether its password was accepted. -/
def attemptAt (host : IdentityHost) (account : Account) (world : LoginWorld) : LoginCall → List (Timestamp × Bool)
  | .derived ticket _ =>
    match world.calls.find? ticket with
    | some login =>
      if login.account = account ∧ login.blocked = false then [(login.timestamp, login.accepted host)] else []
    | none => []
  | _ => []

def attempts (host : IdentityHost) (account : Account) :
    LoginWorld → List (LoginCall × LoginReply) → List (Timestamp × Bool)
  | _, [] => []
  | world, entry :: rest =>
    attemptAt host account world entry.1 ++ attempts host account (LoginWorld.answer host entry.1 world).2 rest

/-- From one state of a run to a later one, the throttle does what it is for. -/
structure Throttled (host : IdentityHost) (before : LoginWorld) (labels : List (LoginCall × LoginReply))
    (after : LoginWorld) : Prop where
  /-- Where no login succeeds and five fail within a window that the first of them opens,
  the account is blocked for fifteen minutes from the last. -/
  blocks : ∀ account first times, attempts host account before labels =
      (first :: times).map (fun time => (time, false)) →
    openWindow? (before.throttles.find? account) first = none →
    (∀ time ∈ times, time - first < throttleWindow) → 4 ≤ times.length →
    ∃ row, after.throttles.find? account = some row ∧ row.blockedUntil = some (times.getLastD first + throttleWindow)
  /-- A login that starts while its account is blocked does not succeed. -/
  refuses : ∀ tenantId userId password now ticket between sessionReference reply rest,
    labels = (.authenticate tenantId userId password now, .pending ticket) ::
      (between ++ (.derived ticket sessionReference, reply) :: rest) →
    isBlocked (before.throttles.find? (tenantId, userId)) now = true →
    ∀ session expiresAt, reply ≠ .authenticated session expiresAt

/-- A login that fails without being blocked counts in the window it has read: the one
that is open when it ends. -/
def countsOn (host : IdentityHost) (world : LoginWorld) (entry : LoginCall × LoginReply) : Bool :=
  match entry.1 with
  | .derived ticket _ =>
    (world.calls.find? ticket).all fun login => login.blocked || login.accepted host ||
      openWindow? login.throttle login.timestamp =
        openWindow? (world.throttles.find? login.account) login.timestamp
  | _ => true

/-! ## Counting -/

/-- The row after some failures in a row: the first opens its window, the last decides
how long the account is blocked. -/
structure Counted (row : ThrottleRow) (first : Timestamp) (failures : Nat) (last : Timestamp) : Prop where
  start : row.windowStartedAt = first
  count : row.failureCount = failures
  blocks : 5 ≤ failures → row.blockedUntil = some (last + throttleWindow)

theorem counted_first (account : Account) {timestamp : Timestamp} {existing : Option ThrottleRow}
    (unopened : openWindow? existing timestamp = none) :
    Counted (failureRow account timestamp existing) timestamp 1 timestamp := by
  constructor
  · simp [failureRow, unopened]
  · simp [failureRow, unopened]
  · omega

theorem counted_next (account : Account) {row : ThrottleRow} {first last timestamp : Timestamp} {failures : Nat}
    (counted : Counted row first failures last) (within : timestamp - first < throttleWindow) :
    Counted (failureRow account timestamp (some row)) first (failures + 1) timestamp := by
  have opened : openWindow? (some row) timestamp = some (first, failures) := by
    rw [openWindow?, Option.bind_some, counted.start, counted.count, if_pos within]
  constructor
  · simp [failureRow, opened]
  · simp [failureRow, opened]
  · intro enough
    simp [failureRow, opened, enough]

variable {account : Account}

/-- The row that is written depends on the window that is open alone. -/
theorem failureRow_congr {timestamp : Timestamp} {read present : Option ThrottleRow}
    (same : openWindow? read timestamp = openWindow? present timestamp) :
    failureRow account timestamp read = failureRow account timestamp present := by
  rw [failureRow, failureRow, same]

/-! ## Steps -/

/-- What a call does to the throttle of an account. -/
inductive ThrottleEffect (host : IdentityHost) (account : Account) (before after : LoginWorld) :
    List (Timestamp × Bool) → Prop where
  | kept (same : after.throttles.find? account = before.throttles.find? account) :
      ThrottleEffect host account before after []
  | failed {read : Option ThrottleRow} {timestamp : Timestamp}
      (counts : openWindow? read timestamp = openWindow? (before.throttles.find? account) timestamp)
      (written : after.throttles.find? account = some (failureRow account timestamp read)) :
      ThrottleEffect host account before after [(timestamp, false)]
  | succeeded {timestamp : Timestamp} : ThrottleEffect host account before after [(timestamp, true)]

theorem endLogin_throttles (host : IdentityHost) (login : Login) (sessionReference : String)
    (world : LoginWorld) : (LoginWorld.endLogin host login sessionReference world).2.throttles =
      if login.blocked then world.throttles
      else if login.accepted host then world.throttles.delete login.account
      else world.throttles.put (failureRow login.account login.timestamp login.throttle) := by
  unfold LoginWorld.endLogin
  split
  · rfl
  · split
    · dsimp only
      split
      · rfl
      · rfl
    · rfl

theorem throttle_effect {host : IdentityHost} {before : LoginWorld} {call : LoginCall}
    {reply : LoginReply} (met : countsOn host before (call, reply) = true) (account : Account) :
    ThrottleEffect host account before (LoginWorld.answer host call before).2
      (attemptAt host account before call) := by
  cases call with
  | authenticate tenantId userId password now =>
    refine .kept ?_
    unfold LoginWorld.answer
    dsimp only
    split
    · rfl
    · rfl
  | administer people => exact .kept rfl
  | derived ticket sessionReference =>
    unfold LoginWorld.answer attemptAt
    dsimp only
    cases waiting : before.calls.find? ticket with
    | none => exact .kept rfl
    | some login =>
      dsimp only
      have after := endLogin_throttles host login sessionReference
        { before with calls := before.calls.resume ticket }
      have keyed : (failureRow login.account login.timestamp login.throttle).key = login.account := rfl
      cases blocked : login.blocked with
      | true =>
        rw [blocked, if_pos rfl] at after
        rw [if_neg (by simp)]
        exact .kept (by rw [after])
      | false =>
        rw [blocked, if_neg Bool.false_ne_true] at after
        by_cases own : login.account = account
        · subst own
          rw [if_pos ⟨rfl, rfl⟩]
          cases accepted : login.accepted host with
          | true => exact .succeeded
          | false =>
            rw [accepted, if_neg Bool.false_ne_true] at after
            have counts : openWindow? login.throttle login.timestamp =
                openWindow? (before.throttles.find? login.account) login.timestamp := by
              simpa [countsOn, waiting, blocked, accepted] using met
            refine .failed counts ?_
            rw [after, Table.find?_put, keyed, if_pos rfl]
        · rw [if_neg (fun both => own both.1)]
          refine .kept ?_
          rw [after]
          split
          · rw [Table.find?_delete, if_neg (Ne.symm own)]
          · rw [Table.find?_put, keyed, if_neg (Ne.symm own)]

/-! ## Runs -/

section Runs

variable {host : IdentityHost} {people : People} {before after : LoginWorld} {labels : List (LoginCall × LoginReply)}
  {entry : LoginCall × LoginReply}

/-- The runs in which every failure counts on top of those before it. -/
def Counting (host : IdentityHost) (people : People) : TransitionSystem LoginWorld (LoginCall × LoginReply) :=
  (LoginWorld.machine host people).system.restricted fun world entry => countsOn host world entry = true

theorem attempts_step {rest : List (LoginCall × LoginReply)} (account : Account)
    (transition : (LoginWorld.machine host people).system.Step before entry after) :
    attempts host account before (entry :: rest) =
      attemptAt host account before entry.1 ++ attempts host account after rest := by
  have answered : LoginWorld.answer host entry.1 before = (entry.2, after) := transition
  rw [attempts, answered]

theorem effect_of_transition (transition : (Counting host people).Step before entry after) (account : Account) :
    ThrottleEffect host account before after (attemptAt host account before entry.1) := by
  have answered : LoginWorld.answer host entry.1 before = (entry.2, after) := transition.1
  have effect : ThrottleEffect host account before (LoginWorld.answer host entry.1 before).2
      (attemptAt host account before entry.1) := throttle_effect transition.2 account
  rwa [answered] at effect

/-- Failures within an open window are counted. -/
theorem counted_steps (steps : (Counting host people).Steps before labels after)
    {first last : Timestamp} {failures : Nat} {times : List Timestamp} {row : ThrottleRow}
    (ended : attempts host account before labels = times.map fun time => (time, false))
    (within : ∀ time ∈ times, time - first < throttleWindow)
    (found : before.throttles.find? account = some row) (counted : Counted row first failures last) :
    ∃ later, after.throttles.find? account = some later ∧
      Counted later first (failures + times.length) (times.getLastD last) := by
  induction steps generalizing failures last times row with
  | done =>
    rw [attempts, eq_comm, List.map_eq_nil_iff] at ended
    subst ended
    exact ⟨row, found, counted⟩
  | next transition _ ih =>
    rw [attempts_step account transition.1] at ended
    have effect := effect_of_transition transition account
    revert effect ended
    generalize attemptAt host account _ _ = here
    intro ended effect
    cases effect with
    | kept same => exact ih ended within (same.trans found) counted
    | @failed read timestamp counts written =>
      cases times with
      | nil => cases ended
      | cons time rest =>
        obtain ⟨head, tail⟩ := List.cons.inj ended
        cases head
        rw [failureRow_congr counts, found] at written
        have next := counted_next account counted (within timestamp List.mem_cons_self)
        obtain ⟨later, stored, final⟩ :=
          ih tail (fun time listed => within time (List.mem_cons_of_mem _ listed)) written next
        refine ⟨later, stored, ?_⟩
        rw [List.length_cons, List.getLastD_cons]
        have sum : failures + (rest.length + 1) = failures + 1 + rest.length := by omega
        rw [sum]
        exact final
    | succeeded =>
      cases times with
      | nil => cases ended
      | cons time rest => cases (List.cons.inj ended).1

/-- The first failure opens a window, and the others count in it. -/
theorem counted_from_first (steps : (Counting host people).Steps before labels after)
    {first : Timestamp} {times : List Timestamp}
    (ended : attempts host account before labels = (first :: times).map fun time => (time, false))
    (unopened : openWindow? (before.throttles.find? account) first = none)
    (within : ∀ time ∈ times, time - first < throttleWindow) :
    ∃ later, after.throttles.find? account = some later ∧
      Counted later first (times.length + 1) (times.getLastD first) := by
  induction steps with
  | done => cases ended
  | next transition rest ih =>
    rw [attempts_step account transition.1] at ended
    have effect := effect_of_transition transition account
    revert effect ended
    generalize attemptAt host account _ _ = here
    intro ended effect
    cases effect with
    | kept same => exact ih ended (by rw [same]; exact unopened)
    | failed counts written =>
      obtain ⟨head, tail⟩ := List.cons.inj ended
      cases head
      have opened := counted_first account (counts.trans unopened)
      obtain ⟨later, stored, final⟩ := counted_steps rest tail within written opened
      refine ⟨later, stored, ?_⟩
      rw [Nat.add_comm]
      exact final
    | succeeded => cases (List.cons.inj ended).1

theorem endLogin_calls (login : Login) (sessionReference : String) (world : LoginWorld) :
    (LoginWorld.endLogin host login sessionReference world).2.calls = world.calls := by
  unfold LoginWorld.endLogin
  split
  · rfl
  · split
    · dsimp only
      split
      · rfl
      · rfl
    · rfl

theorem login_moves (transition : (LoginWorld.machine host people).system.Step before entry after) :
    Suspension.Moves before.calls after.calls := by
  have answered : LoginWorld.answer host entry.1 before = (entry.2, after) := transition
  have reached : (LoginWorld.answer host entry.1 before).2 = after := by rw [answered]
  subst reached
  unfold LoginWorld.answer
  split
  · split
    · exact .suspend _ _
    · exact .stay _
  · split
    · exact .stay _
    · rw [endLogin_calls]
      exact .resume _ _
  · exact .stay _

/-- A login that starts is put under the next ticket, with the throttle it has read. -/
theorem pending_login {tenantId userId password : String}
    {now : Timestamp} {ticket : Nat}
    (transition : (LoginWorld.machine host people).system.Step before
      (.authenticate tenantId userId password now, .pending ticket) after) :
    ∃ login, after.calls.find? ticket = some login ∧ ticket < after.calls.next ∧
      login.blocked = isBlocked (before.throttles.find? (tenantId, userId)) now := by
  have answered : LoginWorld.answer host (.authenticate tenantId userId password now) before =
      (.pending ticket, after) := transition
  simp only [LoginWorld.answer] at answered
  split at answered
  · rename_i login started
    obtain ⟨same, rfl⟩ := Prod.mk.inj answered
    cases same
    simp only [LoginWorld.startLogin, bind_ok, validateIdentity, passwordBytes, throwIf_ok,
      exists_const, Except.ok.injEq] at started
    obtain ⟨_, _, read⟩ := started
    refine ⟨login, ?_, Nat.lt_succ_self _, ?_⟩
    · rw [Suspension.find?_suspend, if_pos rfl]
    · rw [← read]
      rfl
  · cases (Prod.mk.inj answered).1

theorem blocked_refused (steps : (LoginWorld.machine host people).system.Steps before labels after)
    {tenantId userId password sessionReference : String} {now : Timestamp} {ticket : Nat}
    {between rest : List (LoginCall × LoginReply)} {reply : LoginReply}
    (ended : labels = (.authenticate tenantId userId password now, .pending ticket) ::
      (between ++ (.derived ticket sessionReference, reply) :: rest))
    (blocked : isBlocked (before.throttles.find? (tenantId, userId)) now = true)
    (session : String) (expiresAt : Timestamp) : reply ≠ .authenticated session expiresAt := by
  subst ended
  cases steps with
  | next start others =>
    obtain ⟨login, waits, given, read⟩ := pending_login start
    obtain ⟨ending, waited, last⟩ := TransitionSystem.steps_append_iff.mp others
    cases last with
    | @next _ _ final _ _ transition _ =>
      have answered : LoginWorld.answer host (.derived ticket sessionReference) ending = (reply, final) := transition
      simp only [LoginWorld.answer] at answered
      cases found : ending.calls.find? ticket with
      | none =>
        rw [found] at answered
        cases answered
        simp
      | some other =>
        have first := Suspension.found_steps LoginWorld.calls login_moves waited given found
        rw [waits] at first
        cases first
        rw [found] at answered
        simp only [LoginWorld.endLogin, read, blocked, if_true] at answered
        cases answered
        simp

end Runs

/-- In every run in which each failure counts on top of those before it, the throttle
blocks after five failures in a window, and no login that starts while it blocks succeeds. -/
theorem login_throttled {host : IdentityHost} {people : People}
    {labels : List (LoginCall × LoginReply)} {before after : LoginWorld}
    (steps : (Counting host people).Steps before labels after) : Throttled host before labels after where
  blocks := by
    intro account first times ended unopened within enough
    obtain ⟨row, found, counted⟩ := counted_from_first steps ended unopened within
    exact ⟨row, found, counted.blocks (by omega)⟩
  refuses := by
    intro tenantId userId password now ticket between sessionReference reply rest ended blocked
    exact blocked_refused (TransitionSystem.Steps.unrestricted steps) ended blocked

/-! ## Sample runs -/

def sampleIdentityHost : IdentityHost where
  derive password salt := password ++ salt
  sessionDigest reference := reference

def samplePeople : People where
  tenants := Table.empty.put ⟨"tenant", .active⟩
  users := Table.empty.put ⟨"tenant", "user", .active⟩
  accounts := Table.empty.put ⟨"tenant", "user", "salt", "right-password" ++ "salt", .active⟩

def wrongLogin (index : Nat) : LoginCall := .authenticate "tenant" "user" "wrong-password" (1000 * index)

/-- Five wrong passwords, one after the other. -/
def wrongInTurn : List LoginCall := (List.range 5).flatMap fun index => [wrongLogin index, .derived index "session"]

/-- Five wrong passwords that are derived together. -/
def wrongTogether : List LoginCall :=
  (List.range 5).map wrongLogin ++ (List.range 5).map fun index => .derived index "session"

def sampleLogins : Machine LoginWorld LoginCall LoginReply := LoginWorld.machine sampleIdentityHost samplePeople

theorem wrong_in_turn_throttled : Throttled sampleIdentityHost sampleLogins.initial
    (sampleLogins.replay wrongInTurn sampleLogins.initial).1
    (sampleLogins.replay wrongInTurn sampleLogins.initial).2 := by
  have run : (Counting sampleIdentityHost samplePeople).Run
      (sampleLogins.replay wrongInTurn sampleLogins.initial).1
      (sampleLogins.replay wrongInTurn sampleLogins.initial).2 :=
    Machine.replay_restricted sampleLogins (by decide)
  obtain ⟨_, rfl, steps⟩ := run
  exact login_throttled steps

theorem wrong_together_unthrottled : ∃ labels after,
    (LoginWorld.machine sampleIdentityHost samplePeople).system.Run labels after ∧
      ¬ Throttled sampleIdentityHost sampleLogins.initial labels after := by
  refine ⟨_, _, Machine.replay_run sampleLogins wrongTogether, fun throttled => ?_⟩
  obtain ⟨row, found, blocked⟩ := throttled.blocks ("tenant", "user") 0 [1000, 2000, 3000, 4000]
    (by decide) (by decide) (by decide) (by decide)
  have counted : (sampleLogins.replay wrongTogether sampleLogins.initial).2.throttles.find?
      ("tenant", "user") = some ⟨"tenant", "user", 4000, 1, none⟩ := by decide
  rw [counted] at found
  cases found
  cases blocked

end QuarkSelfAI.ControlPlane

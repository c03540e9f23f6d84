import QuarkSelfAI.ControlPlane.ServiceActivation

/-!
# Recovery of the service activation

When the service directory is left as a recovery understands it: no file is cut off half written, the
commit of the receipt is not cut off, and an active service keeps answering as its receipt records it.
The invariant gives the transaction files of every phase.
-/

namespace QuarkSelfAI.ControlPlane

open Foundation

namespace UserService

variable {variant : ServiceVariant} {service : UserService} {operation : ServiceOperation} {pid : Nat}

/-! ## The layouts -/

/-- No transaction file is there. -/
structure Untouched (service : UserService) : Prop where
  intent : service.intent = none
  receipt : service.receipt = none
  temporary : service.temporary = none
  deactivation : service.deactivation = none
  definition : service.definition ≠ some false

/-- The intent of an activation alone. -/
structure Begun (service : UserService) : Prop where
  intent : service.intent = some true
  receipt : service.receipt = none
  temporary : service.temporary = none
  deactivation : service.deactivation = none
  definition : service.definition ≠ some false

/-- A receipt alone. -/
structure Active (service : UserService) : Prop where
  intent : service.intent = none
  receipt : service.receipt ≠ none
  temporary : service.temporary = none
  deactivation : service.deactivation = none
  definition : service.definition ≠ some false

/-- The intent of a deactivation alone. -/
structure Ending (service : UserService) : Prop where
  intent : service.intent = none
  receipt : service.receipt = none
  temporary : service.temporary = none
  deactivation : service.deactivation ≠ none
  definition : service.definition ≠ some false

/-- What an operation undoes. -/
def Undone : ServiceOperation → UserService → Prop
  | .deactivate, service => service.Ending
  | _, service => service.Begun

/-- A receipt may be committed only over the intent of an activation. -/
def Committing (operation : ServiceOperation) (service : UserService) : Prop := operation ≠ .deactivate ∧ service.Begun

/-- A service with a receipt answers as the receipt records it. -/
def Answers (variant : ServiceVariant) (service : UserService) : Prop :=
  ∀ pid, service.receipt = some pid →
    service.running ≠ none ∧ (variant = .client → service.running = some pid ∧ service.health = some pid)

instance : Decidable (Answers variant service) :=
  match receipt : service.receipt with
  | none => .isTrue fun _ same => nomatch receipt.symm.trans same
  | some pid => decidable_of_iff
      (service.running ≠ none ∧ (variant = .client → service.running = some pid ∧ service.health = some pid))
      ⟨fun answers _ same => Option.some.inj (receipt.symm.trans same) ▸ answers, fun answers => answers pid receipt⟩

/-- The transaction files in each phase. -/
def Fits (variant : ServiceVariant) (service : UserService) : Prop :=
  match service.phase with
  | .idle => service.Untouched ∨ service.Begun ∨ service.Active ∧ service.Answers variant ∨ service.Ending
  | .creatingIntent => service.Untouched
  | .fillingIntent => Begun { service with intent := some true }
  | .creatingDefinition | .registering | .starting | .confirming => service.Begun
  | .fillingDefinition => Begun { service with definition := some true }
  | .creatingReceipt operation _ => Committing operation service
  | .fillingReceipt operation _ | .clearing operation => Committing operation { service with temporary := none }
  | .renamingReceipt operation => Committing operation { service with temporary := none } ∧ service.temporary.join ≠ none
  | .unlinkingIntent _ => Active { service with intent := none }
  | .retiring => service.Active
  | .stopping operation => Undone operation service
  | .removingHealth operation | .removingDefinition operation _ => Undone operation service ∧ service.registered = false
  | .forgetting operation => Undone operation service ∧ service.registered = false ∧ service.definition = none

/-- Something of an activation or of a deactivation is left. -/
def Left (service : UserService) : Prop := service.intent ≠ none ∨ service.receipt ≠ none ∨ service.deactivation ≠ none

instance : Decidable (Left service) := inferInstanceAs (Decidable (_ ∨ _))

/-! ## The recovery of a layout -/

theorem Begun.recoverPrepared (begun : service.Begun) : service.recoverPrepared = .ok () := by
  simp [UserService.recoverPrepared, extras, begun.intent, begun.receipt, begun.temporary, begun.deactivation,
    allowedExtras]

theorem Active.recoverPrepared (active : service.Active) : service.recoverPrepared = .ok () := by
  obtain ⟨pid, receipt⟩ := Option.ne_none_iff_exists'.mp active.receipt
  simp [UserService.recoverPrepared, extras, active.intent, receipt, active.temporary, active.deactivation,
    allowedExtras]

theorem Ending.recoverPrepared (ending : service.Ending) : service.recoverPrepared = .ok () := by
  obtain ⟨pid, deactivation⟩ := Option.ne_none_iff_exists'.mp ending.deactivation
  simp [UserService.recoverPrepared, extras, ending.intent, ending.receipt, ending.temporary, deactivation,
    allowedExtras]

theorem Begun.loadReceipt (begun : service.Begun) : service.loadReceipt service.receipt = .error missing := by
  unfold UserService.loadReceipt
  rw [begun.recoverPrepared, begun.receipt]
  rfl

theorem Begun.reconcile (begun : service.Begun) : service.reconcile variant =
      match service.confirmed variant with
      | some pid => service.goOn (.creatingReceipt .reconcile pid)
      | none => service.goOn (.stopping .reconcile) := by
  have missed : service.recoverActivation variant = .error missing := by
    rw [recoverActivation, begun.loadReceipt]
    rfl
  rw [UserService.reconcile, missed, begun.intent, begun.recoverPrepared]
  exact if_neg (not_not.mpr rfl)

/-- What a recovery is to reach. -/
def Reaches (reached : ServiceReply × UserService) : Prop :=
  (∃ receipt, reached.1 = .returned receipt) ∧ reached.2.Settled

theorem recovers_iff : service.Recovers variant ↔ Reaches (recovery variant service) := Iff.rfl

theorem recovery_idle (idle : service.phase = .idle) : recovery variant service =
      follow variant 6 (if service.deactivation ≠ none then service.deactivate else service.reconcile variant) := by
  have same : { service with phase := .idle } = service := by rw [← idle]
  unfold recovery
  rw [same]

/-- The steps that end a reconciliation without a receipt. -/
theorem Begun.undone (begun : service.Begun) : Reaches (follow variant 6 (service.goOn (.stopping .reconcile))) := by
  cases variant <;>
    simp [Reaches, Settled, follow, goOn, advance, finish, begun.definition, begun.receipt, begun.temporary,
      begun.deactivation]

theorem Ending.undone (ending : service.Ending) :
    Reaches (follow variant 6 (service.goOn (.stopping .deactivate))) := by
  cases variant <;>
    simp [Reaches, Settled, follow, goOn, advance, finish, ending.definition, ending.receipt, ending.temporary,
      ending.intent]

theorem confirmed_eq_some : service.confirmed variant = some pid ↔
    service.registered = true ∧ service.process = some pid ∧ service.isHealthy variant pid = true := by
  rw [confirmed, Option.filter_eq_some_iff, running]
  by_cases registered : service.registered = true
  · simp [registered]
  · simp [registered]

/-- The steps that commit a receipt. -/
theorem Begun.committed (begun : service.Begun) (confirmed : service.confirmed variant = some pid) :
    Reaches (follow variant 6 (service.goOn (.creatingReceipt .reconcile pid))) := by
  obtain ⟨registered, process, -⟩ := confirmed_eq_some.mp confirmed
  simp [Reaches, Settled, follow, goOn, advance, finish, begun.receipt, begun.temporary, begun.deactivation,
    registered, process]

theorem Begun.recovers (begun : service.Begun) (idle : service.phase = .idle) : service.Recovers variant := by
  rw [recovers_iff, recovery_idle idle, if_neg (not_not.mpr begun.deactivation), begun.reconcile]
  cases confirmed : service.confirmed variant with
  | some pid => exact begun.committed confirmed
  | none => exact begun.undone

theorem Active.recovers (active : service.Active) (answers : service.Answers variant) (idle : service.phase = .idle) :
    service.Recovers variant := by
  obtain ⟨pid, receipt⟩ := Option.ne_none_iff_exists'.mp active.receipt
  obtain ⟨running, lineage⟩ := answers pid receipt
  have loaded : service.loadReceipt service.receipt = .ok pid := by
    unfold loadReceipt
    rw [active.recoverPrepared, receipt]
    rfl
  have recovered : service.recoverActivation variant = .ok pid := by
    refine bind_ok.mpr ⟨pid, loaded, bind_ok.mpr ⟨(), throwIf_ok.mpr ?_, bind_ok.mpr ⟨(), throwIf_ok.mpr ?_, rfl⟩⟩⟩
    · rintro (none | ⟨client, other⟩)
      · exact running none
      · exact other (lineage client).1
    · rintro ⟨client, other⟩
      exact other (lineage client).2
  have serves : service.registered = true ∧ service.process ≠ none := by
    unfold UserService.running at running
    split at running
    · rename_i registered
      exact ⟨registered, running⟩
    · exact absurd rfl running
  rw [recovers_iff, recovery_idle idle, if_neg (not_not.mpr active.deactivation), reconcile, recovered]
  simp [follow, finish, Reaches, Settled, active.intent, active.temporary, active.deactivation, receipt, serves]

theorem Ending.recovers (ending : service.Ending) (idle : service.phase = .idle) : service.Recovers variant := by
  obtain ⟨pid, deactivation⟩ := Option.ne_none_iff_exists'.mp ending.deactivation
  have loaded : service.loadReceipt service.deactivation = .ok pid := by
    unfold loadReceipt
    rw [ending.recoverPrepared, deactivation]
    rfl
  rw [recovers_iff, recovery_idle idle, if_pos ending.deactivation, deactivate, loaded]
  exact ending.undone

/-- A layout that the invariant allows recovers, if there is anything to recover. -/
theorem Fits.recovers (fits : service.Fits variant) (idle : service.phase = .idle) (left : service.Left) :
    service.Recovers variant := by
  rw [Fits, idle] at fits
  obtain untouched | begun | ⟨active, answers⟩ | ending := fits
  · obtain intent | receipt | deactivation := left
    · exact absurd untouched.intent intent
    · exact absurd untouched.receipt receipt
    · exact absurd untouched.deactivation deactivation
  · exact begun.recovers idle
  · exact active.recovers answers idle
  · exact ending.recovers idle

/-! ## The steps -/

section Frames

variable {definition : Option Bool} {registered : Bool} {process health : Option Nat} {phase : ServicePhase}

theorem Untouched.frame (untouched : service.Untouched) (whole : definition ≠ some false) :
    Untouched { service with definition, registered, process, health, phase } :=
  ⟨untouched.intent, untouched.receipt, untouched.temporary, untouched.deactivation, whole⟩

theorem Begun.frame (begun : service.Begun) (whole : definition ≠ some false) :
    Begun { service with definition, registered, process, health, phase } :=
  ⟨begun.intent, begun.receipt, begun.temporary, begun.deactivation, whole⟩

theorem Active.frame (active : service.Active) (whole : definition ≠ some false) :
    Active { service with definition, registered, process, health, phase } :=
  ⟨active.intent, active.receipt, active.temporary, active.deactivation, whole⟩

theorem Ending.frame (ending : service.Ending) (whole : definition ≠ some false) :
    Ending { service with definition, registered, process, health, phase } :=
  ⟨ending.intent, ending.receipt, ending.temporary, ending.deactivation, whole⟩

theorem Undone.frame (undone : Undone operation service) (whole : definition ≠ some false) :
    Undone operation { service with definition, registered, process, health, phase } := by
  cases operation with
  | activate | reconcile => exact Begun.frame undone whole
  | deactivate => exact Ending.frame undone whole

theorem Undone.whole (undone : Undone operation service) : service.definition ≠ some false := by
  cases operation with
  | activate | reconcile => exact Begun.definition undone
  | deactivate => exact Ending.definition undone

theorem Committing.undone (committing : Committing operation service) : Undone operation service := by
  cases operation with
  | activate | reconcile => exact committing.2
  | deactivate => exact absurd rfl committing.1

/-- An operation that is given up leaves what it was to undo. -/
theorem Undone.fits (undone : Undone operation service) : Fits variant { service with phase := .idle } := by
  cases operation with
  | activate | reconcile => exact .inr (.inl (Begun.frame undone (Begun.definition undone)))
  | deactivate => exact .inr (.inr (.inr (Ending.frame undone (Ending.definition undone))))

theorem Answers.unreceipted (receipt : service.receipt = none) : service.Answers variant :=
  fun _ same => nomatch receipt.symm.trans same

theorem Fits.answers (fits : service.Fits variant) (idle : service.phase = .idle) : service.Answers variant := by
  rw [Fits, idle] at fits
  obtain untouched | begun | ⟨_, answers⟩ | ending := fits
  · exact .unreceipted untouched.receipt
  · exact .unreceipted begun.receipt
  · exact answers
  · exact .unreceipted ending.receipt

/-- The process and the health of the service change on their own. -/
theorem Fits.moved (fits : service.Fits variant)
    (answers : service.phase = .idle → Answers variant { service with process, health }) :
    Fits variant { service with process, health } := by
  unfold Fits at fits ⊢
  cases phase : service.phase with rw [phase] at fits
  | idle =>
    obtain untouched | begun | ⟨active, _⟩ | ending := fits
    · exact .inl (untouched.frame untouched.definition)
    · exact .inr (.inl (begun.frame begun.definition))
    · exact .inr (.inr (.inl ⟨active.frame active.definition, phase ▸ answers phase⟩))
    · exact .inr (.inr (.inr (ending.frame ending.definition)))
  | creatingIntent => exact Untouched.frame fits fits.definition
  | fillingDefinition => exact Begun.mk fits.intent fits.receipt fits.temporary fits.deactivation fits.definition
  | fillingIntent | creatingDefinition | registering | starting | confirming => exact Begun.frame fits fits.definition
  | creatingReceipt | fillingReceipt | clearing => exact ⟨fits.1, Begun.frame fits.2 fits.2.definition⟩
  | renamingReceipt => exact ⟨⟨fits.1.1, Begun.frame fits.1.2 fits.1.2.definition⟩, fits.2⟩
  | unlinkingIntent | retiring => exact Active.frame fits fits.definition
  | stopping => exact Undone.frame fits fits.whole
  | removingHealth | removingDefinition | forgetting => exact ⟨Undone.frame fits.1 fits.1.whole, fits.2⟩

end Frames

/-- The phases that leave a file half written, or a receipt beside its intent, when they are cut off. -/
def torn : ServicePhase → Bool
  | .fillingIntent | .fillingDefinition | .fillingReceipt _ _ | .unlinkingIntent _ | .clearing _ => true
  | _ => false

/-- The receipt is written, and not yet renamed. -/
def writing : ServicePhase → Bool
  | .renamingReceipt _ => true
  | _ => false

/-- The receipt is renamed, and its intent is still there. -/
def unlinking : ServicePhase → Bool
  | .unlinkingIntent _ => true
  | _ => false

/-- The steps that a recovery survives: no activation over an unfinished deactivation, no cut or failure
that leaves a torn layout, no cut between the writing and the renaming of the receipt, and no change of
an active service that its receipt does not know. -/
def Survivable (variant : ServiceVariant) (service : UserService) : ServiceCall × ServiceReply → Prop
  | (.activate, _) => service.deactivation = none
  | (.advance _, _) => unlinking service.phase = true → service.Answers variant
  | (.fail _, _) => torn service.phase = false ∧ (service.phase = .retiring → service.Answers variant)
  | (.crash, _) =>
    torn service.phase = false ∧ writing service.phase = false ∧ (service.phase = .retiring → service.Answers variant)
  | (.exit, _) => service.phase = .idle → Answers variant { service with process := none }
  | (.publish health, _) => service.phase = .idle → Answers variant { service with health := health }
  | _ => True

instance (service : UserService) (label : ServiceCall × ServiceReply) : Decidable (Survivable variant service label) :=
  match label with
  | (.activate, _) => inferInstanceAs (Decidable (_ = _))
  | (.advance _, _) => inferInstanceAs (Decidable (unlinking service.phase = true → service.Answers variant))
  | (.fail _, _) => inferInstanceAs (Decidable (_ ∧ _))
  | (.crash, _) => inferInstanceAs (Decidable (_ ∧ _))
  | (.exit, _) => inferInstanceAs (Decidable (service.phase = .idle → Answers variant { service with process := none }))
  | (.publish health, _) =>
    inferInstanceAs (Decidable (service.phase = .idle → Answers variant { service with health := health }))
  | (.reconcile, _) => .isTrue trivial
  | (.deactivate, _) => .isTrue trivial
  | (.spawn _, _) => .isTrue trivial

theorem Active.fits (active : service.Active) (answers : service.Answers variant) :
    Fits variant { service with phase := .idle } :=
  .inr (.inr (.inl ⟨active.frame active.definition, answers⟩))

theorem Fits.activate (fits : service.Fits variant) (idle : service.phase = .idle)
    (undeactivated : service.deactivation = none) : Fits variant service.activate.2 := by
  unfold UserService.activate
  split
  · simpa only [finish, ← idle] using fits
  · rename_i checked
    obtain ⟨_, _, rest⟩ := bind_ok.mp checked
    obtain ⟨_, unbegun, rest⟩ := bind_ok.mp rest
    have unbegun := throwIf_ok.mp unbegun
    have inactive := throwIf_ok.mp rest
    rw [Fits, idle] at fits
    obtain untouched | begun | ⟨active, _⟩ | ending := fits
    · exact untouched.frame untouched.definition
    · exact absurd (by rw [begun.intent]; nofun) unbegun
    · exact absurd active.receipt inactive
    · exact absurd undeactivated ending.deactivation

theorem Fits.reconcile (fits : service.Fits variant) (idle : service.phase = .idle) :
    Fits variant (service.reconcile variant).2 := by
  have still : ∀ reply, Fits variant (service.finish reply).2 := by
    intro reply
    simpa only [finish, ← idle] using fits
  unfold UserService.reconcile
  split
  · exact still _
  · split
    · exact still _
    · split
      · exact still _
      · exact still _
      · exact still _
      · rename_i intent _
        rw [Fits, idle] at fits
        have begun : service.Begun := by
          obtain untouched | begun | ⟨active, _⟩ | ending := fits
          · exact absurd (untouched.intent.symm.trans intent) nofun
          · exact begun
          · exact absurd (active.intent.symm.trans intent) nofun
          · exact absurd (ending.intent.symm.trans intent) nofun
        split
        · exact ⟨nofun, begun.frame begun.definition⟩
        · exact begun.frame begun.definition

theorem loadReceipt_ok {file : Option Nat} (loaded : service.loadReceipt file = .ok pid) : file = some pid := by
  obtain ⟨_, _, found⟩ := bind_ok.mp loaded
  cases file with
  | none => cases found
  | some other =>
    cases found
    rfl

theorem Fits.deactivate (fits : service.Fits variant) (idle : service.phase = .idle) :
    Fits variant service.deactivate.2 := by
  have still : ∀ reply, Fits variant (service.finish reply).2 := by
    intro reply
    simpa only [finish, ← idle] using fits
  unfold UserService.deactivate
  split
  · rename_i loaded
    have deactivation := loadReceipt_ok loaded
    rw [Fits, idle] at fits
    obtain untouched | begun | ⟨active, _⟩ | ending := fits
    · exact absurd (untouched.deactivation.symm.trans deactivation) nofun
    · exact absurd (begun.deactivation.symm.trans deactivation) nofun
    · exact absurd (active.deactivation.symm.trans deactivation) nofun
    · exact ending.frame ending.definition
  · split
    · exact still _
    · split
      · exact still _
      · rename_i loaded
        have receipt := loadReceipt_ok loaded
        split
        · exact still _
        · rw [Fits, idle] at fits
          obtain untouched | begun | ⟨active, _⟩ | ending := fits
          · exact absurd (untouched.receipt.symm.trans receipt) nofun
          · exact absurd (begun.receipt.symm.trans receipt) nofun
          · exact active.frame active.definition
          · exact absurd (ending.receipt.symm.trans receipt) nofun

theorem Undone.giveUp (undone : Undone operation service) (message : String) :
    Fits variant (service.giveUp operation message).2 :=
  undone.fits

theorem Fits.advance (fits : service.Fits variant) (pid : Nat)
    (answers : unlinking service.phase = true → service.Answers variant) :
    Fits variant (service.advance variant pid).2 := by
  unfold Fits at fits
  unfold UserService.advance
  cases phase : service.phase with rw [phase] at fits
  | idle =>
    unfold Fits
    rw [phase]
    exact fits
  | creatingIntent | fillingIntent => exact Begun.mk rfl fits.receipt fits.temporary fits.deactivation fits.definition
  | creatingDefinition =>
    dsimp only
    split
    · exact Begun.mk fits.intent fits.receipt fits.temporary fits.deactivation nofun
    · exact Begun.frame fits fits.definition
    · rename_i partially
      exact absurd partially fits.definition
  | fillingDefinition => exact Begun.mk fits.intent fits.receipt fits.temporary fits.deactivation nofun
  | registering | starting =>
    have begun : service.Begun := fits
    exact begun.frame begun.definition
  | confirming =>
    dsimp only
    split
    · exact ⟨nofun, Begun.frame fits fits.definition⟩
    · exact Begun.frame fits fits.definition
  | creatingReceipt operation _ =>
    dsimp only
    split
    · exact Undone.frame fits.undone fits.2.definition
    · exact ⟨fits.1, fits.2.intent, fits.2.receipt, rfl, fits.2.deactivation, fits.2.definition⟩
  | fillingReceipt operation _ =>
    exact ⟨⟨fits.1, fits.2.intent, fits.2.receipt, rfl, fits.2.deactivation, fits.2.definition⟩, nofun⟩
  | renamingReceipt operation => exact Active.mk rfl fits.2 rfl fits.1.2.deactivation fits.1.2.definition
  | unlinkingIntent operation =>
    exact .inr (.inr (.inl ⟨⟨rfl, fits.receipt, fits.temporary, fits.deactivation, fits.definition⟩,
      answers (by rw [phase]; rfl)⟩))
  | clearing operation => exact Undone.frame fits.undone fits.2.definition
  | retiring => exact Ending.mk fits.intent rfl fits.temporary fits.receipt fits.definition
  | stopping operation =>
    have stopped : Undone operation { service with registered := false, process := none } :=
      Undone.frame fits fits.whole
    cases variant with
    | server | client => exact ⟨stopped.frame stopped.whole, rfl⟩
  | removingHealth operation => exact ⟨fits.1.frame fits.1.whole, fits.2⟩
  | removingDefinition operation clean =>
    dsimp only
    rw [if_neg fits.1.whole]
    have removed : Undone operation { service with definition := none } := fits.1.frame nofun
    split
    · exact ⟨removed.frame nofun, fits.2, rfl⟩
    · exact Undone.giveUp (phase ▸ removed) _
  | forgetting operation =>
    obtain ⟨undone, unregistered, removed⟩ := fits
    cases operation with
    | activate | reconcile => exact .inl ⟨rfl, undone.receipt, undone.temporary, undone.deactivation, undone.definition⟩
    | deactivate => exact .inl ⟨undone.intent, undone.receipt, undone.temporary, rfl, undone.definition⟩

theorem Fits.fail (fits : service.Fits variant) (effect : Bool) (whole : torn service.phase = false)
    (answers : service.phase = .retiring → service.Answers variant) : Fits variant (service.fail effect).2 := by
  unfold Fits at fits
  unfold UserService.fail
  cases phase : service.phase with rw [phase] at fits whole
  | idle =>
    unfold Fits
    rw [phase]
    exact fits
  | creatingIntent => exact .inl (Untouched.frame fits fits.definition)
  | creatingDefinition | registering | starting | confirming =>
    have begun : service.Begun := fits
    exact begun.frame begun.definition
  | creatingReceipt => exact Undone.frame fits.undone fits.2.definition
  | renamingReceipt => exact ⟨fits.1.1, fits.1.2.frame fits.1.2.definition⟩
  | retiring => exact Active.fits fits (answers phase)
  | stopping =>
    dsimp only
    split
    · exact Undone.giveUp (Undone.frame fits fits.whole) _
    · exact Undone.giveUp fits _
  | removingHealth operation =>
    cases operation with
    | activate => exact ⟨fits.1.frame fits.1.whole, fits.2⟩
    | reconcile | deactivate => exact fits.1.giveUp _
  | removingDefinition | forgetting => exact fits.1.giveUp _
  | fillingIntent | fillingDefinition | fillingReceipt | unlinkingIntent | clearing => cases whole

theorem Fits.crash (fits : service.Fits variant) (whole : torn service.phase = false)
    (unwritten : writing service.phase = false) (answers : service.phase = .retiring → service.Answers variant) :
    Fits variant { service with phase := .idle } := by
  unfold Fits at fits
  cases phase : service.phase with rw [phase] at fits whole unwritten
  | idle =>
    obtain untouched | begun | ⟨active, answers⟩ | ending := fits
    · exact .inl (untouched.frame untouched.definition)
    · exact .inr (.inl (begun.frame begun.definition))
    · exact active.fits answers
    · exact .inr (.inr (.inr (ending.frame ending.definition)))
  | creatingIntent => exact .inl (Untouched.frame fits fits.definition)
  | creatingDefinition | registering | starting | confirming => exact .inr (.inl (Begun.frame fits fits.definition))
  | creatingReceipt => exact fits.undone.fits
  | retiring => exact Active.fits fits (answers phase)
  | stopping => exact Undone.fits fits
  | removingHealth | removingDefinition | forgetting => exact fits.1.fits
  | renamingReceipt => cases unwritten
  | fillingIntent | fillingDefinition | fillingReceipt | unlinkingIntent | clearing => cases whole

/-- Every step that meets the condition keeps the layout. -/
theorem Fits.perform {call : ServiceCall} (fits : service.Fits variant)
    (survives : Survivable variant service (call, (service.perform variant call).1)) :
    Fits variant (service.perform variant call).2 := by
  cases call with
  | activate =>
    by_cases idle : service.phase = .idle
    · simpa only [UserService.perform, if_pos idle] using fits.activate idle survives
    · simpa only [UserService.perform, if_neg idle] using fits
  | reconcile =>
    by_cases idle : service.phase = .idle
    · simpa only [UserService.perform, if_pos idle] using fits.reconcile idle
    · simpa only [UserService.perform, if_neg idle] using fits
  | deactivate =>
    by_cases idle : service.phase = .idle
    · simpa only [UserService.perform, if_pos idle] using fits.deactivate idle
    · simpa only [UserService.perform, if_neg idle] using fits
  | advance pid => exact fits.advance pid survives
  | fail effect => exact fits.fail effect survives.1 survives.2
  | crash => exact fits.crash survives.1 survives.2.1 survives.2.2
  | spawn pid =>
    unfold UserService.perform
    dsimp only
    split
    · rename_i starts
      refine fits.moved fun idle receipt same => ?_
      -- An active service has a process, so that the manager starts none.
      refine absurd ?_ ((fits.answers idle) receipt same).1
      rw [running, if_pos starts.1, starts.2]
    · exact fits
  | exit | publish => exact fits.moved survives

/-! ## A reported failure -/

/-- The phases in which an activation undoes what it did. -/
def unwinding : ServicePhase → Bool
  | .stopping .activate | .removingDefinition .activate _ | .forgetting .activate => true
  | _ => false

/-- Whatever reports failure was undoing an activation, and the receipt is as it was. -/
def Honest (service : UserService) (reached : ServiceReply × UserService) : Prop :=
  ∀ message, reached.1 = .failed message → unwinding service.phase = true ∧ reached.2.receipt = service.receipt

theorem activate_honest : Honest service service.activate := by
  unfold activate
  intro message failed
  split at failed <;> cases failed

theorem reconcile_honest : Honest service (service.reconcile variant) := by
  intro message failed
  unfold reconcile at failed
  repeat' split at failed
  all_goals cases failed

theorem deactivate_honest : Honest service service.deactivate := by
  intro message failed
  unfold deactivate at failed
  repeat' split at failed
  all_goals cases failed

theorem giveUp_honest {message : String} {reached : UserService}
    (unwinds : operation = .activate → unwinding service.phase = true) (same : reached.receipt = service.receipt) :
    Honest service (reached.giveUp operation message) := by
  intro reported failed
  cases operation with
  | activate => exact ⟨unwinds rfl, same⟩
  | reconcile | deactivate => cases failed

theorem going_honest {phase : ServicePhase} {reached : UserService} : Honest service (reached.goOn phase) := nofun

theorem advance_honest (pid : Nat) : Honest service (service.advance variant pid) := by
  unfold advance
  cases phase : service.phase with
  | idle | unlinkingIntent => exact nofun
  | creatingDefinition | confirming | creatingReceipt => dsimp only; split <;> exact going_honest
  | stopping operation => cases variant <;> exact going_honest
  | removingDefinition operation clean =>
    have unwinds : operation = .activate → unwinding service.phase = true := by
      rintro rfl
      rw [phase]
      rfl
    dsimp only
    split
    · exact giveUp_honest unwinds rfl
    · split
      · exact going_honest
      · exact giveUp_honest unwinds rfl
  | forgetting operation =>
    cases operation with
    | activate => exact fun _ _ => ⟨by rw [phase]; rfl, rfl⟩
    | reconcile | deactivate => exact nofun
  | _ => exact going_honest

theorem fail_honest (effect : Bool) : Honest service (service.fail effect) := by
  have unwinds : ∀ (stage : ServiceOperation → ServicePhase) {operation : ServiceOperation},
      unwinding (stage .activate) = true → service.phase = stage operation → operation = .activate →
        unwinding service.phase = true := by
    rintro stage operation undoes phase rfl
    rw [phase, undoes]
  unfold fail
  cases phase : service.phase with
  | stopping operation =>
    dsimp only
    split
    all_goals exact giveUp_honest (unwinds .stopping rfl phase) rfl
  | removingHealth operation =>
    cases operation with
    | activate => exact going_honest
    | reconcile | deactivate => exact giveUp_honest nofun rfl
  | removingDefinition operation clean => exact giveUp_honest (unwinds (.removingDefinition · clean) rfl phase) rfl
  | forgetting operation => exact giveUp_honest (unwinds .forgetting rfl phase) rfl
  | idle | creatingIntent | fillingIntent | retiring => exact nofun
  | _ => exact going_honest

theorem perform_honest (call : ServiceCall) : Honest service (service.perform variant call) := by
  unfold perform
  cases call with
  | activate => dsimp only; split; exacts [activate_honest, nofun]
  | reconcile => dsimp only; split; exacts [reconcile_honest, nofun]
  | deactivate => dsimp only; split; exacts [deactivate_honest, nofun]
  | advance pid => exact advance_honest pid
  | fail effect => exact fail_honest effect
  | _ => exact nofun

/-- What an activation leaves that reports failure. -/
theorem Fits.failed {call : ServiceCall} {message : String} (fits : service.Fits variant)
    (failed : (service.perform variant call).1 = .failed message) : (service.perform variant call).2.receipt = none := by
  obtain ⟨unwinds, same⟩ := perform_honest call message failed
  rw [same]
  unfold Fits at fits
  cases phase : service.phase with
  | stopping operation =>
    cases operation with
    | activate => rw [phase] at fits; exact Begun.receipt fits
    | reconcile | deactivate => rw [phase] at unwinds; cases unwinds
  | removingDefinition operation clean | forgetting operation =>
    cases operation with
    | activate => rw [phase] at fits; exact Begun.receipt fits.1
    | reconcile | deactivate => rw [phase] at unwinds; cases unwinds
  | _ => rw [phase] at unwinds; cases unwinds

/-! ## Runs -/

theorem machine_fits {labels : List (ServiceCall × ServiceReply)}
    (run : ((machine variant).system.restricted (Survivable variant)).Run labels service) : service.Fits variant := by
  refine run.invariant ?_ ?_
  · rintro _ rfl
    exact .inl ⟨rfl, rfl, rfl, rfl, nofun⟩
  · rintro before ⟨call, reply⟩ after fits ⟨performed, survives⟩
    have performed : before.perform variant call = (reply, after) := performed
    rw [show after = (before.perform variant call).2 by rw [performed]]
    exact fits.perform (by rw [performed]; exact survives)

/-- After every run whose steps a recovery survives, what is left of an activation or a deactivation
recovers, and no activation that reported failure left a receipt. -/
theorem activation_recovers {labels : List (ServiceCall × ServiceReply)}
    (run : ((machine variant).system.restricted (Survivable variant)).Run labels service) :
    (service.phase = .idle → service.Left → service.Recovers variant) ∧
      ∀ call message, labels.getLast? = some (call, .failed message) → service.receipt = none := by
  refine ⟨(machine_fits run).recovers, ?_⟩
  intro call message reported
  obtain ⟨before, rfl⟩ := List.getLast?_eq_some_iff.mp reported
  obtain ⟨start, initial, steps⟩ := run
  obtain ⟨middle, prior, last⟩ := TransitionSystem.steps_append_iff.mp steps
  obtain ⟨performed, -⟩ := TransitionSystem.steps_singleton_iff.mp last
  have performed : middle.perform variant call = (.failed message, service) := performed
  have left := (machine_fits ⟨start, initial, prior⟩).failed (by rw [performed])
  rwa [performed] at left

/-- An activation up to the renaming of its receipt. -/
def renamed : List ServiceCall :=
  [.activate, .advance 7, .advance 7, .advance 7, .advance 7, .advance 7, .advance 7, .publish (some 7), .advance 7,
    .advance 7, .advance 7, .advance 7]

/-- An activation that is cut off once its service answers. -/
def interrupted : List ServiceCall := renamed.take 8 ++ [.crash]

theorem activation_recovers_interrupted : ((machine .client).replay interrupted prepared).2.Recovers .client :=
  (activation_recovers ((machine .client).replay_restricted (by decide))).1 (by decide)
    (by decide)

/-- A cut between the renaming of the receipt and the unlinking of the intent leaves both, and no operation
accepts the layout any more; when the unlinking fails, the activation reports failure and leaves the receipt
of a service that it has stopped. -/
theorem activation_unrecovered :
    (∃ labels service, (machine .server).system.Run labels service ∧ service.phase = .idle ∧ service.Left ∧
      ¬ service.Recovers .server) ∧ ∃ labels service call message, (machine .server).system.Run labels service ∧
      labels.getLast? = some (call, .failed message) ∧ service.receipt ≠ none ∧ ¬ service.Recovers .server := by
  refine ⟨⟨_, _, (machine .server).replay_run (renamed ++ [.crash]), by decide, by decide, ?_⟩,
    ⟨_, _, .advance 7, "service activation failed", (machine .server).replay_run
      (renamed ++ [.fail false, .advance 7, .advance 7, .advance 7, .advance 7]), by decide, by decide, ?_⟩⟩
  · rintro ⟨⟨receipt, returned⟩, -⟩
    have threw : (recovery .server ((machine .server).replay (renamed ++ [.crash]) prepared).2).1 =
        .threw "service preparation layout is invalid" := by decide
    exact nomatch threw.symm.trans returned
  · rintro ⟨⟨receipt, returned⟩, -⟩
    have threw : (recovery .server ((machine .server).replay
        (renamed ++ [.fail false, .advance 7, .advance 7, .advance 7, .advance 7]) prepared).2).1 =
        .threw "service activation is not running" := by decide
    exact nomatch threw.symm.trans returned

end UserService

end QuarkSelfAI.ControlPlane

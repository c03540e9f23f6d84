import QuarkSelfAI.BridgeCompat.Clarification

/-!
# One question per confirmation

An approve click that finds its confirmation while nobody else is about to ask leads to one
question and one entry at most. A confirmation that was declined is never found again, so
that nothing is asked after the owner was told, unless an approve click was still waiting for
the interaction policy then.
-/

namespace QuarkSelfAI.BridgeCompat

open Foundation

/-- The call waits for the interaction policy of a confirmation. -/
def SuspendedDecision.checks (index : Nat) : SuspendedDecision → Bool
  | .checking other => other = index
  | _ => false

/-- The call waits for the reply to the question of a confirmation. -/
def SuspendedDecision.replies (index : Nat) : SuspendedDecision → Bool
  | .replying other _ => other = index
  | _ => false

/-- The confirmations whose questions were asked, in order. -/
def askedIn (labels : List (ClarificationCall × ClarificationReply)) : List Nat :=
  labels.filterMap fun label => label.2.asked

/-- The confirmations for which clarifications were entered, in order. -/
def enteredIn (labels : List (ClarificationCall × ClarificationReply)) : List Nat :=
  labels.filterMap fun label => label.2.entered

theorem askedIn_append (labels : List (ClarificationCall × ClarificationReply))
    (label : ClarificationCall × ClarificationReply) :
    askedIn (labels ++ [label]) = askedIn labels ++ label.2.asked.toList := by
  rw [askedIn, askedIn, filterMap_snoc]

theorem enteredIn_append (labels : List (ClarificationCall × ClarificationReply))
    (label : ClarificationCall × ClarificationReply) :
    enteredIn (labels ++ [label]) = enteredIn labels ++ label.2.entered.toList := by
  rw [enteredIn, enteredIn, filterMap_snoc]

namespace Clarifications

open SuspendedDecision (checks replies)

/-- An approve click finds a confirmation only while no other one waits for its interaction
policy and its question was not asked; a decline is not acknowledged while an approve click
waits for the interaction policy. -/
def Undisturbed (world : Clarifications) (label : ClarificationCall × ClarificationReply) : Prop :=
  match label.1 with
  | .apply action _ => action.decision = some "approve" →
      ∀ index ∈ world.confirmations.findIdx? (·.meets action),
        world.calls.count (checks index) = 0 ∧ index ∉ world.asked.map Prod.fst
  | .saved ticket _ =>
    match world.calls.find? ticket with
    | some (.declining index) => world.calls.count (checks index) = 0
    | _ => True
  | _ => True

instance (world : Clarifications) (label : ClarificationCall × ClarificationReply) :
    Decidable (Undisturbed world label) := by
  unfold Undisturbed
  split
  · infer_instance
  · split <;> infer_instance
  · infer_instance

/-- The confirmation at a place is pending no more. -/
def Decided (world : Clarifications) (index : Nat) : Prop :=
  ∃ item, world.confirmations[index]? = some item ∧ item.status ≠ .pending

/-! ## What a step does -/

/-- What a step does to the confirmations, the calls and the questions. -/
inductive ClarificationStep (before : Clarifications) :
    ClarificationCall × ClarificationReply → Clarifications → Prop where
  | stay {label} (unasked : label.2.asked = none) (unentered : label.2.entered = none)
      (untold : label.2.declined = none) : ClarificationStep before label before
  | requested {label} (confirmation : ClarificationConfirmation) (unasked : label.2.asked = none)
      (unentered : label.2.entered = none) (untold : label.2.declined = none) :
      ClarificationStep before label
        { before with confirmations := before.confirmations ++ [confirmation] }
  | declines {label} {index : Nat} {item : ClarificationConfirmation} (now : Timestamp)
      (found : before.confirmations[index]? = some item) (unasked : label.2.asked = none)
      (unentered : label.2.entered = none) (untold : label.2.declined = none) :
      ClarificationStep before label
        { before with
          confirmations := before.confirmations.modify index (·.decide .declined now)
          calls := before.calls.suspend (.declining index) }
  | approves {action now reply} {index : Nat} {item : ClarificationConfirmation}
      (approve : action.decision = some "approve")
      (selected : before.confirmations.findIdx? (·.meets action) = some index)
      (found : before.confirmations[index]? = some item) (pending : item.status = .pending)
      (unasked : reply.asked = none) (unentered : reply.entered = none) (untold : reply.declined = none) :
      ClarificationStep before (.apply action now, reply)
        { before with calls := before.calls.suspend (.checking index) }
  | asks {label} {ticket index : Nat} (now : Timestamp) (question : OwnerReply)
      (waits : before.calls.find? ticket = some (.checking index)) (asked : label.2.asked = some index)
      (unentered : label.2.entered = none) (untold : label.2.declined = none) :
      ClarificationStep before label
        { before with
          calls := (before.calls.resume ticket).suspend (.replying index now)
          asked := before.asked ++ [(index, question)] }
  | enters {label} {ticket index : Nat} {approvedAt : Timestamp} (entry : MentionClarification)
      (waits : before.calls.find? ticket = some (.replying index approvedAt)) (unasked : label.2.asked = none)
      (entered : label.2.entered = some index) (untold : label.2.declined = none) :
      ClarificationStep before label
        { before with
          clarifications := before.clarifications ++ [entry]
          confirmations := before.confirmations.modify index (·.decide .sent approvedAt)
          calls := (before.calls.resume ticket).suspend (.confirming index) }
  | told {ticket index : Nat} {outcome reply} (waits : before.calls.find? ticket = some (.declining index))
      (unasked : reply.asked = none) (unentered : reply.entered = none) (told : reply.declined = some index) :
      ClarificationStep before (.saved ticket outcome, reply)
        { before with calls := before.calls.resume ticket }
  | ended {label} (ticket : Nat) (unasked : label.2.asked = none) (unentered : label.2.entered = none)
      (untold : label.2.declined = none) :
      ClarificationStep before label { before with calls := before.calls.resume ticket }

variable {before after world : Clarifications} {label : ClarificationCall × ClarificationReply} {index : Nat}

theorem apply_spec (action : ClarificationAction) (now : Timestamp) (before : Clarifications) :
    ClarificationStep before (.apply action now, (before.applyClarificationDecision action now).1)
      (before.applyClarificationDecision action now).2 := by
  unfold applyClarificationDecision
  split
  · exact .stay rfl rfl rfl
  · rename_i index selected
    obtain ⟨bound, meets, _⟩ := List.findIdx?_eq_some_iff_getElem.mp selected
    have found : before.confirmations[index]? = some before.confirmations[index] := List.getElem?_eq_getElem bound
    split
    · rename_i approve
      have met : action.sourceMessageId = some before.confirmations[index].sourceMessageId ∧
          action.approvalId = some before.confirmations[index].approvalId ∧
          before.confirmations[index].status = .pending := by
        simpa [ClarificationConfirmation.meets] using meets
      exact .approves approve selected found met.2.2 rfl rfl rfl
    · exact .declines now found rfl rfl rfl

theorem step_spec (step : machine.system.Step before label after) : ClarificationStep before label after := by
  obtain ⟨call, reply⟩ := label
  have performed : perform call before = (reply, after) := step
  cases call with
  | request confirmation =>
    cases performed
    exact .requested _ rfl rfl rfl
  | apply action now =>
    have spec := apply_spec action now before
    rw [show before.applyClarificationDecision action now = (reply, after) from performed] at spec
    exact spec
  | checked ticket chat now =>
    simp only [perform] at performed
    split at performed
    · rename_i index waits
      split at performed
      · unfold onChecked at performed
        dsimp only at performed
        split at performed
        · cases performed
          exact .asks now _ waits rfl rfl rfl
        · cases performed
          exact .ended ticket rfl rfl rfl
      · cases performed
        exact .stay rfl rfl rfl
    · cases performed
      exact .stay rfl rfl rfl
  | replied ticket outcome =>
    simp only [perform] at performed
    split at performed
    · rename_i index approvedAt waits
      split at performed
      · cases outcome with
        | error message =>
          cases performed
          exact .ended ticket rfl rfl rfl
        | ok question =>
          cases performed
          exact .enters _ waits rfl rfl rfl
      · cases performed
        exact .stay rfl rfl rfl
    · cases performed
      exact .stay rfl rfl rfl
  | saved ticket outcome =>
    simp only [perform] at performed
    split at performed
    · rename_i index waits
      split at performed
      · cases outcome with
        | ok =>
          cases performed
          exact .told waits rfl rfl rfl
        | error message =>
          cases performed
          exact .ended ticket rfl rfl rfl
      · cases performed
        exact .stay rfl rfl rfl
    · split at performed
      · cases outcome with
        | ok | error =>
          cases performed
          exact .ended ticket rfl rfl rfl
      · cases performed
        exact .stay rfl rfl rfl
    · cases performed
      exact .stay rfl rfl rfl

/-! ## Decisions stay -/

theorem Decided.modify {index other : Nat} {status : ConfirmationStatus} {now : Timestamp}
    (decided : before.Decided index) (settles : status ≠ .pending)
    (same : after.confirmations = before.confirmations.modify other (·.decide status now)) : after.Decided index := by
  obtain ⟨item, found, settled⟩ := decided
  by_cases here : other = index
  · refine ⟨item.decide status now, ?_, settles⟩
    rw [same, here, List.getElem?_modify_eq, found]
    rfl
  · refine ⟨item, ?_, settled⟩
    rw [same, List.getElem?_modify_ne _ _ here, found]

/-- What is decided stays decided. -/
theorem Decided.step (decided : before.Decided index) (step : ClarificationStep before label after) :
    after.Decided index := by
  cases step with
  | stay | approves | asks | told | ended => exact decided
  | requested confirmation =>
    obtain ⟨item, found, settled⟩ := decided
    refine ⟨item, ?_, settled⟩
    obtain ⟨bound, _⟩ := List.getElem?_eq_some_iff.mp found
    rw [List.getElem?_append_left bound, found]
  | declines now => exact decided.modify (by simp) rfl
  | @enters _ _ _ approvedAt _ _ => exact @Decided.modify _ _ _ _ _ approvedAt decided (by simp) rfl

theorem decided_declines {item : ClarificationConfirmation} (now : Timestamp)
    (found : before.confirmations[index]? = some item)
    (same : after.confirmations = before.confirmations.modify index (·.decide .declined now)) :
    after.Decided index := by
  refine ⟨item.decide .declined now, ?_, by simp [ClarificationConfirmation.decide]⟩
  rw [same, List.getElem?_modify_eq, found]
  rfl

/-! ## One question -/

/-- How the questions stand to the calls that are suspended. -/
structure Single (labels : List (ClarificationCall × ClarificationReply)) (world : Clarifications) : Prop where
  asked_eq : world.asked.map Prod.fst = askedIn labels
  once : ∀ index, world.calls.count (checks index) + (askedIn labels).count index ≤ 1
  entered : ∀ index, (enteredIn labels).count index + world.calls.count (replies index) ≤
    (askedIn labels).count index
  decided : ∀ {ticket index}, world.calls.find? ticket = some (.declining index) → world.Decided index

variable {labels : List (ClarificationCall × ClarificationReply)} {calls : Suspension SuspendedDecision}

theorem Single.start : Single [] empty := ⟨rfl, fun _ => Nat.zero_le _, fun _ => Nat.le_refl _, nofun⟩

theorem declining_resume {ticket sought index : Nat}
    (found : (calls.resume ticket).find? sought = some (.declining index)) :
    calls.find? sought = some (.declining index) := by
  rw [Suspension.find?_resume] at found
  split at found
  · cases found
  · exact found

theorem declining_suspend {call : SuspendedDecision} {sought index : Nat}
    (found : (calls.suspend call).find? sought = some (.declining index)) :
    call = .declining index ∨ calls.find? sought = some (.declining index) := by
  rw [Suspension.find?_suspend] at found
  split at found
  · exact .inl (Option.some.inj found)
  · exact .inr found

/-- A step that asks and enters nothing keeps the account, if no call starts to wait. -/
theorem Single.quiet (single : Single labels before) (unasked : label.2.asked = none)
    (unentered : label.2.entered = none) (same : after.asked = before.asked)
    (checks : ∀ index, after.calls.count (checks index) ≤
      before.calls.count (checks index))
    (replies : ∀ index, after.calls.count (replies index) ≤
      before.calls.count (replies index))
    (decided : ∀ {ticket index}, after.calls.find? ticket = some (.declining index) → after.Decided index) :
    Single (labels ++ [label]) after := by
  have asked : askedIn (labels ++ [label]) = askedIn labels := by simp [askedIn_append, unasked]
  have entered : enteredIn (labels ++ [label]) = enteredIn labels := by simp [enteredIn_append, unentered]
  refine ⟨?_, fun index => ?_, fun index => ?_, decided⟩
  · rw [same, asked]
    exact single.asked_eq
  · rw [asked]
    exact Nat.le_trans (Nat.add_le_add_right (checks index) _) (single.once index)
  · rw [asked, entered]
    exact Nat.le_trans (Nat.add_le_add_left (replies index) _) (single.entered index)

/-- Every undisturbed step keeps the account of the questions. -/
theorem Single.step (single : Single labels before) (step : ClarificationStep before label after)
    (undisturbed : before.Undisturbed label) : Single (labels ++ [label]) after := by
  have decided : ∀ {ticket index}, before.calls.find? ticket = some (.declining index) → after.Decided index :=
    fun found => (single.decided found).step step
  cases step with
  | stay unasked unentered | requested confirmation unasked unentered =>
    exact single.quiet unasked unentered rfl (fun _ => Nat.le_refl _) (fun _ => Nat.le_refl _) decided
  | @declines _ place item now found unasked unentered =>
    refine single.quiet unasked unentered rfl (fun index => ?_) (fun index => ?_) fun waits => ?_
    · simp [Suspension.count_suspend, checks]
    · simp [Suspension.count_suspend, replies]
    · rcases declining_suspend waits with same | older
      · cases same
        exact decided_declines now found rfl
      · exact decided older
  | told waits unasked unentered | ended ticket unasked unentered =>
    exact single.quiet unasked unentered rfl (fun _ => Suspension.count_resume_le _ _ _)
      (fun _ => Suspension.count_resume_le _ _ _) fun found => decided (declining_resume found)
  | @approves action now reply place item approve selected found pending unasked unentered =>
    -- The click is the first one for this question.
    obtain ⟨alone, unasked_yet⟩ := undisturbed approve place selected
    rw [single.asked_eq] at unasked_yet
    refine ⟨?_, fun index => ?_, fun index => ?_, fun waits => ?_⟩
    · simpa [askedIn_append, unasked] using single.asked_eq
    · have once := single.once index
      simp only [askedIn_append, unasked, Option.toList_none, List.append_nil, Suspension.count_suspend,
        checks, decide_eq_true_eq]
      split
      · rename_i same
        subst same
        rw [alone, List.count_eq_zero.mpr unasked_yet]
      · omega
    · simpa [askedIn_append, enteredIn_append, unasked, unentered, Suspension.count_suspend,
        replies] using single.entered index
    · rcases declining_suspend waits with same | older
      · cases same
      · exact decided older
  | @asks _ ticket place now question waits asked unentered =>
    refine ⟨?_, fun index => ?_, fun index => ?_, fun found => ?_⟩
    · simp [askedIn_append, asked, single.asked_eq]
    · have once := single.once index
      have fewer := Suspension.count_resume_le before.calls ticket (checks index)
      simp only [askedIn_append, asked, Option.toList_some, List.count_append, List.count_singleton, beq_iff_eq,
        Suspension.count_suspend, checks, Bool.false_eq_true, if_false]
      split
      · rename_i same
        subst same
        have counted : checks place (.checking place) = true := by
          simp [checks]
        have taken := Suspension.count_resume_lt waits counted
        omega
      · omega
    · have entered := single.entered index
      have fewer := Suspension.count_resume_le before.calls ticket (replies index)
      simp only [askedIn_append, enteredIn_append, asked, unentered, Option.toList_none, Option.toList_some,
        List.append_nil, List.count_append, List.count_singleton, beq_iff_eq, Suspension.count_suspend,
        replies, decide_eq_true_eq] at entered fewer ⊢
      omega
    · rcases declining_suspend found with same | older
      · cases same
      · exact decided (declining_resume older)
  | @enters _ ticket place approvedAt entry waits unasked entered untold =>
    refine ⟨?_, fun index => ?_, fun index => ?_, fun found => ?_⟩
    · simpa [askedIn_append, unasked] using single.asked_eq
    · have once := single.once index
      have fewer := Suspension.count_resume_le before.calls ticket (checks index)
      simp only [askedIn_append, unasked, Option.toList_none, List.append_nil, Suspension.count_suspend,
        checks, Bool.false_eq_true, if_false] at once fewer ⊢
      omega
    · have balance := single.entered index
      have fewer := Suspension.count_resume_le before.calls ticket (replies index)
      simp only [askedIn_append, enteredIn_append, unasked, entered, Option.toList_none, Option.toList_some,
        List.append_nil, List.count_append, List.count_singleton, beq_iff_eq, Suspension.count_suspend,
        replies, Bool.false_eq_true, if_false]
      split
      · rename_i same
        subst same
        have counted : replies place (.replying place approvedAt) = true := by
          simp [replies]
        have taken := Suspension.count_resume_lt waits counted
        omega
      · omega
    · rcases declining_suspend found with same | older
      · cases same
      · exact decided (declining_resume older)

/-! ## A decline that was told -/

/-- Nothing was or will be asked for a confirmation. -/
structure Closed (labels : List (ClarificationCall × ClarificationReply)) (world : Clarifications)
    (index : Nat) : Prop where
  decided : world.Decided index
  unchecked : world.calls.count (checks index) = 0
  unasked : index ∉ askedIn labels

theorem Closed.step (closed : Closed labels before index)
    (step : ClarificationStep before label after) : Closed (labels ++ [label]) after index := by
  have decided := closed.decided.step step
  have unchecked := closed.unchecked
  have quiet : label.2.asked = none → index ∉ askedIn (labels ++ [label]) := by
    intro unasked
    rw [askedIn_append, unasked, Option.toList_none, List.append_nil]
    exact closed.unasked
  cases step with
  | stay unasked | requested _ unasked => exact ⟨decided, unchecked, quiet unasked⟩
  | declines _ _ unasked =>
    exact ⟨decided, by simpa [Suspension.count_suspend, checks] using unchecked, quiet unasked⟩
  | @approves _ _ _ place item _ _ found pending unasked =>
    refine ⟨decided, ?_, quiet unasked⟩
    have elsewhere : place ≠ index := by
      rintro rfl
      obtain ⟨other, same, settled⟩ := closed.decided
      rw [found] at same
      obtain rfl := Option.some.inj same
      exact settled pending
    simpa [Suspension.count_suspend, checks, elsewhere] using unchecked
  | @asks _ ticket place now question waits asked =>
    have elsewhere : place ≠ index := by
      rintro rfl
      have counted : checks place (.checking place) = true := by
        simp [checks]
      have waiting := Suspension.count_pos waits counted
      omega
    have fewer := Suspension.count_resume_le before.calls ticket (checks index)
    refine ⟨decided, ?_, ?_⟩
    · simp only [Suspension.count_suspend, checks, Bool.false_eq_true, if_false] at fewer ⊢
      omega
    · rw [askedIn_append, asked, Option.toList_some, List.mem_append, List.mem_singleton]
      rintro (earlier | now)
      · exact closed.unasked earlier
      · exact elsewhere now.symm
  | @enters _ ticket _ _ _ _ unasked =>
    have fewer := Suspension.count_resume_le before.calls ticket (checks index)
    refine ⟨decided, ?_, quiet unasked⟩
    simp only [Suspension.count_suspend, checks, Bool.false_eq_true, if_false] at fewer ⊢
    omega
  | told _ unasked | ended _ unasked =>
    exact ⟨decided, Nat.le_zero.mp (unchecked ▸ Suspension.count_resume_le _ _ _), quiet unasked⟩

/-- The owner is told of a decline, and no question of it was asked. -/
theorem closed_told (single : Single labels before) (step : ClarificationStep before label after)
    (undisturbed : before.Undisturbed label) (told : label.2.declined = some index)
    (unasked : index ∉ askedIn labels) : Closed (labels ++ [label]) after index := by
  cases step with
  | stay _ _ untold | requested _ _ _ untold | declines _ _ _ _ untold | asks _ _ _ _ _ untold
  | enters _ _ _ _ untold | ended _ _ _ untold => simp [untold] at told
  | approves _ _ _ _ _ _ untold => simp [show _ = none from untold] at told
  | @told ticket place outcome reply waits unasked_now _ told_now =>
    obtain rfl : place = index := Option.some.inj (told_now.symm.trans told)
    have unchecked : before.calls.count (checks place) = 0 := by
      simpa [Undisturbed, waits] using undisturbed
    refine ⟨single.decided waits, ?_, ?_⟩
    · exact Nat.le_zero.mp (unchecked ▸ Suspension.count_resume_le _ _ _)
    · rw [askedIn_append, show reply.asked = none from unasked_now, Option.toList_none, List.append_nil]
      exact unasked

/-! ## Runs -/

/-- A run in which no click disturbs another. -/
abbrev UndisturbedRun (labels : List (ClarificationCall × ClarificationReply)) (world : Clarifications) : Prop :=
  (machine.system.restricted Undisturbed).Run labels world

theorem undisturbed_single (run : UndisturbedRun labels world) : Single labels world := by
  refine run.history (motive := fun labels world => Single labels world) ?_ ?_
  · rintro _ rfl
    exact .start
  · rintro labels label before after _ single ⟨step, undisturbed⟩
    exact single.step (step_spec step) undisturbed

theorem closed_steps {start finish : Clarifications}
    {earlier : List (ClarificationCall × ClarificationReply)} (closed : Closed earlier start index)
    (steps : machine.system.Steps start labels finish) : Closed (earlier ++ labels) finish index := by
  induction steps generalizing earlier with
  | done => simpa using closed
  | @next start label middle labels finish transition rest ih =>
    have later := ih (closed.step (step_spec transition))
    rwa [List.append_assoc] at later

/-- One question is asked and one clarification entered for a confirmation at most, and
none is asked once the owner was told that it is declined. -/
theorem one_question (run : UndisturbedRun labels world) (index : Nat) :
    (askedIn labels).count index ≤ 1 ∧ (enteredIn labels).count index ≤ 1 ∧
      ∀ before label after, labels = before ++ label :: after → label.2.declined = some index →
        index ∉ askedIn before → index ∉ askedIn labels := by
  have single := undisturbed_single run
  have once := single.once index
  have entered := single.entered index
  refine ⟨by omega, by omega, ?_⟩
  rintro before label after rfl told unasked
  obtain ⟨state, next, prior, ⟨step, undisturbed⟩, steps⟩ := run.cut
  have closed := closed_told (undisturbed_single prior) (step_spec step) undisturbed told unasked
  have later := (closed_steps closed steps.unrestricted).unasked
  rwa [List.append_assoc] at later

/-- A question about a message in a private chat. -/
def privateQuestion : ClarificationConfirmation where
  sourceMessageId := "om_1"
  taskId := "task-1"
  approvalId := "clarification:om_1:task-1"
  clarificationQuestion := "Which factory?"
  message := ⟨"om_1", "oc_1", "p2p", some "ou_2", some "Li"⟩
  status := .pending
  decidedAt := none

def clicked (decision : String) : ClarificationAction := ⟨some "om_1", some "clarification:om_1:task-1", some decision⟩

/-- The question is approved, sent and saved, and declined too late. -/
def approvedOnce : List ClarificationCall :=
  [.request privateQuestion, .apply (clicked "approve") 10, .checked 0 (.ok none) 11,
    .replied 1 (.ok (some "om_2")), .saved 2 (.ok ()), .apply (clicked "decline") 20]

theorem approvedOnce_asked : (askedIn (machine.replay approvedOnce empty).1).count 0 ≤ 1 := by
  have run : UndisturbedRun (machine.replay approvedOnce empty).1 (machine.replay approvedOnce empty).2 :=
    machine.replay_restricted (by decide)
  exact (one_question run 0).1

/-- Two approve clicks ask twice, and a decline that the owner was told of does not keep an
earlier approve click from asking. -/
theorem clicks_overlap : (∃ labels world, machine.system.Run labels world ∧ (askedIn labels).count 0 = 2 ∧
      (enteredIn labels).count 0 = 2) ∧
      ∃ before label after world, machine.system.Run (before ++ label :: after) world ∧
        label.2.declined = some 0 ∧ 0 ∉ askedIn before ∧ 0 ∈ askedIn after := by
  constructor
  · refine ⟨_, _, machine.replay_run [.request privateQuestion, .apply (clicked "approve") 10,
      .apply (clicked "approve") 11, .checked 0 (.ok none) 12, .checked 1 (.ok none) 13,
      .replied 2 (.ok none), .replied 3 (.ok none)], ?_, ?_⟩
    · decide
    · decide
  · have run := machine.replay_run [.request privateQuestion, .apply (clicked "approve") 10,
      .apply (clicked "decline") 11, .saved 1 (.ok ()), .checked 0 (.ok none) 12]
    refine ⟨[_, _, _], _, [_], _, run, ?_, ?_, ?_⟩
    all_goals decide

end Clarifications

end QuarkSelfAI.BridgeCompat

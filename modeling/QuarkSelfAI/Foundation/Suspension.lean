import QuarkSelfAI.Foundation.Transition

/-!
# Suspended calls

A call that waits for an answer from outside reads the state before it waits and
writes after it. While it waits it stands under a ticket that is given once, so what
is found under a ticket at the end was found under it all along.
-/

namespace QuarkSelfAI.Foundation

universe u v w

/-- The calls that wait, and the next ticket. -/
structure Suspension (Call : Type u) where
  next : Nat
  waiting : List (Nat × Call)
  given : ∀ entry ∈ waiting, entry.1 < next

namespace Suspension

variable {Call : Type u} {calls : Suspension Call} {ticket : Nat} {call : Call} {before after : Suspension Call}

def empty : Suspension Call := ⟨0, [], by simp⟩

/-- The call that waits under a ticket. -/
def find? (calls : Suspension Call) (ticket : Nat) : Option Call := calls.waiting.lookup ticket

/-- Let a call wait under the next ticket. -/
def suspend (calls : Suspension Call) (call : Call) : Suspension Call where
  next := calls.next + 1
  waiting := (calls.next, call) :: calls.waiting
  given := by
    intro entry listed
    rcases List.mem_cons.mp listed with rfl | listed
    · exact Nat.lt_succ_self _
    · exact Nat.lt_succ_of_lt (calls.given entry listed)

/-- Take the call of a ticket out. -/
def resume (calls : Suspension Call) (ticket : Nat) : Suspension Call where
  next := calls.next
  waiting := calls.waiting.filter fun entry => entry.1 ≠ ticket
  given entry listed := calls.given entry (List.mem_filter.mp listed).1

/-- Take out every call. -/
def clear (calls : Suspension Call) : Suspension Call := ⟨calls.next, [], by simp⟩

@[simp] theorem find?_clear (calls : Suspension Call) (ticket : Nat) : calls.clear.find? ticket = none := rfl

@[simp] theorem find?_empty (ticket : Nat) : (empty : Suspension Call).find? ticket = none := rfl

theorem find?_mem (found : calls.find? ticket = some call) : (ticket, call) ∈ calls.waiting := by
  obtain ⟨before, after, split, _⟩ := List.lookup_eq_some_iff.mp found
  rw [split]
  simp

theorem find?_lt (found : calls.find? ticket = some call) : ticket < calls.next :=
  calls.given (ticket, call) (find?_mem found)

theorem find?_suspend (calls : Suspension Call) (call : Call) (ticket : Nat) : (calls.suspend call).find? ticket =
      if ticket = calls.next then some call else calls.find? ticket := by
  unfold find? suspend
  rw [List.lookup_cons]
  split
  · rename_i same
    rw [if_pos (by simpa using same)]
  · rename_i other
    rw [if_neg (by simpa using other)]

/-- Under a ticket that was not given before, the call that now waits is found. -/
theorem found_new {call found : Call}
    (new : ¬ ticket < calls.next) (waits : (calls.suspend call).find? ticket = some found) : found = call := by
  rw [find?_suspend] at waits
  split at waits
  · exact (Option.some.inj waits).symm
  · exact absurd (find?_lt waits) new

theorem find?_resume (calls : Suspension Call) (ticket sought : Nat) :
    (calls.resume ticket).find? sought = if sought = ticket then none else calls.find? sought := by
  unfold find? resume
  dsimp only
  generalize calls.waiting = waiting
  induction waiting with
  | nil => simp
  | cons entry rest ih =>
    obtain ⟨other, call⟩ := entry
    by_cases taken : other = ticket
    · subst taken
      rw [List.filter_cons_of_neg (by simp), ih]
      by_cases same : sought = other
      · rw [if_pos same, if_pos same]
      · have apart : (sought == other) = false := by simpa using same
        rw [if_neg same, if_neg same, List.lookup_cons, apart]
    · rw [List.filter_cons_of_pos (by simpa using taken), List.lookup_cons, List.lookup_cons, ih]
      by_cases here : sought = other
      · subst here
        simp [taken]
      · have apart : (sought == other) = false := by simpa using here
        rw [apart]

/-- How many calls of a kind wait. -/
def count (calls : Suspension Call) (kind : Call → Bool) : Nat := calls.waiting.countP fun entry => kind entry.2

theorem count_suspend (calls : Suspension Call) (call : Call) (kind : Call → Bool) :
    (calls.suspend call).count kind = calls.count kind + if kind call = true then 1 else 0 :=
  List.countP_cons

theorem count_resume_le (calls : Suspension Call) (ticket : Nat) (kind : Call → Bool) :
    (calls.resume ticket).count kind ≤ calls.count kind :=
  List.filter_sublist.countP_le

/-- A call that is taken out waits no more. -/
theorem count_resume_lt {kind : Call → Bool} (found : calls.find? ticket = some call) (counted : kind call = true) :
    (calls.resume ticket).count kind < calls.count kind := by
  have waits := find?_mem found
  unfold count resume
  dsimp only
  rw [List.countP_eq_countP_filter_add calls.waiting _ fun entry => decide (entry.1 ≠ ticket)]
  have taken : 0 < (calls.waiting.filter fun entry => !decide (entry.1 ≠ ticket)).countP
      fun entry => kind entry.2 := by
    refine List.countP_pos_iff.mpr ⟨(ticket, call), List.mem_filter.mpr ⟨waits, by simp⟩, counted⟩
  omega

theorem count_pos {kind : Call → Bool}
    (found : calls.find? ticket = some call) (counted : kind call = true) : 0 < calls.count kind :=
  List.countP_pos_iff.mpr ⟨(ticket, call), find?_mem found, counted⟩

/-- What one step does to the calls that wait. -/
inductive Moves : Suspension Call → Suspension Call → Prop where
  | stay (calls : Suspension Call) : Moves calls calls
  | suspend (calls : Suspension Call) (call : Call) : Moves calls (calls.suspend call)
  | resume (calls : Suspension Call) (ticket : Nat) : Moves calls (calls.resume ticket)

theorem Moves.next_le (moves : Moves before after) : before.next ≤ after.next := by
  cases moves with
  | stay | resume => exact Nat.le_refl _
  | suspend => exact Nat.le_succ _

/-- Under a ticket that was given, nothing new is found. -/
theorem Moves.found (moves : Moves before after) (old : ticket < before.next)
    (found : after.find? ticket = some call) : before.find? ticket = some call := by
  cases moves with
  | stay => exact found
  | suspend call =>
    rw [find?_suspend, if_neg (Nat.ne_of_lt old)] at found
    exact found
  | resume taken =>
    rw [find?_resume] at found
    split at found
    · cases found
    · exact found

theorem suspend_inj {call other : Call} (same : calls.suspend call = calls.suspend other) : call = other :=
  (Prod.mk.inj (List.cons.inj (congrArg waiting same)).1).2

/-- A call that waits has waited before, or is the one that a step suspends. -/
theorem Moves.mem {entry : Nat × Call} (moves : Moves before after)
    (waits : entry ∈ after.waiting) : entry ∈ before.waiting ∨ after = before.suspend entry.2 := by
  cases moves with
  | stay => exact .inl waits
  | suspend call =>
    rcases List.mem_cons.mp waits with rfl | older
    · exact .inr rfl
    · exact .inl older
  | resume ticket => exact .inl (List.mem_filter.mp waits).1

variable {State : Type v} {Label : Type w} {system : TransitionSystem State Label} {start finish : State}
  {labels : List Label}

theorem next_le_steps (calls : State → Suspension Call)
    (moves : ∀ {before label after}, system.Step before label after →
      Moves (calls before) (calls after)) (steps : system.Steps start labels finish) :
    (calls start).next ≤ (calls finish).next := by
  induction steps with
  | done => exact Nat.le_refl _
  | next transition _ ih => exact Nat.le_trans (moves transition).next_le ih

/-- What is found under a ticket was found there since the ticket was given. -/
theorem found_steps (calls : State → Suspension Call) (moves : ∀ {before label after}, system.Step before label after →
      Moves (calls before) (calls after))
    (steps : system.Steps start labels finish) (given : ticket < (calls start).next)
    (found : (calls finish).find? ticket = some call) : (calls start).find? ticket = some call := by
  induction steps with
  | done => exact found
  | next transition _ ih =>
    have middle := ih (Nat.lt_of_lt_of_le given (moves transition).next_le) found
    exact (moves transition).found given middle

/-- While a call waits, a property of the state that its own steps and those of others
keep is kept. -/
theorem waiting_steps (calls : State → Suspension Call)
    (moves : ∀ {before label after}, system.Step before label after → Moves (calls before) (calls after))
    {holds : List Label → State → Prop}
    (steps : system.Steps start labels finish)
    (given : ticket < (calls start).next) (initially : holds [] start)
    (preserved : ∀ {taken before label after}, holds taken before →
      system.Step before label after → (calls before).find? ticket = some call →
      (calls after).find? ticket = some call → holds (taken ++ [label]) after)
    (found : (calls finish).find? ticket = some call) : holds labels finish := by
  induction labels using List.reverseRecOn generalizing finish with
  | nil =>
    cases steps
    exact initially
  | append_singleton labels label ih =>
    obtain ⟨middle, prior, last⟩ := TransitionSystem.steps_append_iff.mp steps
    have transition := TransitionSystem.steps_singleton_iff.mp last
    have older : ticket < (calls middle).next := Nat.lt_of_lt_of_le given (next_le_steps calls moves prior)
    have before := (moves transition).found older found
    exact preserved (ih prior before) transition before found

end Suspension

end QuarkSelfAI.Foundation

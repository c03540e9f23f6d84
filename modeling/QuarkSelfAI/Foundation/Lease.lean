import QuarkSelfAI.Foundation.Transition

/-!
# Fenced leases

A piece of work is free, held by one owner, or closed for good. A holder that
does not come back may lose the work to a later acquirer, so several processes
can believe they hold it at once; the moves below are the ones a lease table
accepts, and the results say which process can still make one.
-/

namespace QuarkSelfAI.Foundation

inductive LeasePhase (Owner : Type*) where
  | free
  | held (owner : Owner)
  | closed
deriving DecidableEq

/-- The phase of a piece of work and how often it has been acquired. -/
structure Lease (Owner : Type*) where
  phase : LeasePhase Owner
  attempt : Nat

inductive LeaseMove (Owner : Type*) where
  /-- Take free work, or take over work whose holder is presumed lost. -/
  | acquire (owner : Owner)
  /-- Hand held work back for another attempt. -/
  | surrender (owner : Owner)
  /-- End held work for good. -/
  | finish (owner : Owner)
  /-- End free work for good; held work and other work are not affected. -/
  | cancel
deriving DecidableEq

namespace Lease

variable {Owner : Type*} {moves : List (LeaseMove Owner)} {lease : Lease Owner}

def fresh : Lease Owner := ⟨.free, 0⟩

inductive Step : Lease Owner → LeaseMove Owner → Lease Owner → Prop where
  | acquire {lease : Lease Owner} (owner : Owner) (opened : lease.phase ≠ .closed) :
      Step lease (.acquire owner) ⟨.held owner, lease.attempt + 1⟩
  | surrender {lease : Lease Owner} {owner : Owner} (held : lease.phase = .held owner) :
      Step lease (.surrender owner) ⟨.free, lease.attempt⟩
  | finish {lease : Lease Owner} {owner : Owner} (held : lease.phase = .held owner) :
      Step lease (.finish owner) ⟨.closed, lease.attempt⟩
  | cancel {lease : Lease Owner} (free : lease.phase = .free) :
      Step lease .cancel ⟨.closed, lease.attempt⟩
  | overlook {lease : Lease Owner} : Step lease .cancel lease

def system (Owner : Type*) : TransitionSystem (Lease Owner) (LeaseMove Owner) where
  Initial lease := lease = fresh
  Step := Step

/-- The owners that acquired the work, in order. -/
def acquirers (moves : List (LeaseMove Owner)) : List Owner :=
  moves.filterMap fun
    | .acquire owner => some owner
    | _ => none

@[simp] theorem acquirers_nil : acquirers ([] : List (LeaseMove Owner)) = [] := rfl

@[simp] theorem acquirers_append (before after : List (LeaseMove Owner)) :
    acquirers (before ++ after) = acquirers before ++ acquirers after :=
  List.filterMap_append

@[simp] theorem acquirers_acquire (owner : Owner) : acquirers [LeaseMove.acquire owner] = [owner] := rfl

@[simp] theorem acquirers_surrender (owner : Owner) : acquirers [LeaseMove.surrender owner] = [] := rfl

@[simp] theorem acquirers_finish (owner : Owner) : acquirers [LeaseMove.finish owner] = [] := rfl

@[simp] theorem acquirers_cancel : acquirers [(LeaseMove.cancel : LeaseMove Owner)] = [] := rfl

/-- The attempt counter counts acquisitions, and a holder is the last acquirer. -/
theorem run_accounting (run : (system Owner).Run moves lease) : lease.attempt = (acquirers moves).length ∧
      ∀ owner, lease.phase = .held owner → (acquirers moves).getLast? = some owner := by
  refine run.history (motive := fun moves lease => lease.attempt = (acquirers moves).length ∧
    ∀ owner, lease.phase = .held owner → (acquirers moves).getLast? = some owner) ?_ ?_
  · rintro lease rfl
    exact ⟨rfl, fun owner held => by cases held⟩
  · rintro moves move lease next _ ⟨counted, last⟩ step
    cases step with
    | acquire | surrender | finish | cancel => simpa using counted
    | overlook => exact ⟨by simpa using counted, by simpa using last⟩

theorem attempt_eq (run : (system Owner).Run moves lease) : lease.attempt = (acquirers moves).length :=
  (run_accounting run).1

theorem holder_last {owner : Owner} (run : (system Owner).Run moves lease) (held : lease.phase = .held owner) :
    (acquirers moves).getLast? = some owner :=
  (run_accounting run).2 owner held

/-- Only cancellations that change nothing are accepted once the work is closed. -/
theorem closed_stuck {lease next : Lease Owner} {move : LeaseMove Owner}
    (step : Step lease move next) (closed : lease.phase = .closed) : move = .cancel ∧ next = lease := by
  cases step with
  | acquire _ opened => exact (opened closed).elim
  | surrender held | finish held => simp [closed] at held
  | cancel free => simp [closed] at free
  | overlook => exact ⟨rfl, rfl⟩

theorem closed_forever {start finish : Lease Owner}
    (steps : (system Owner).Steps start moves finish) (closed : start.phase = .closed) :
    ∀ move ∈ moves, move = .cancel := by
  induction steps with
  | done => simp
  | next step _ ih =>
    obtain ⟨rfl, rfl⟩ := closed_stuck step closed
    simpa using ih closed

/-- Finished work is not acquired, handed back or finished again. -/
theorem finished_forever {before after : List (LeaseMove Owner)} {owner : Owner}
    (run : (system Owner).Run (before ++ .finish owner :: after) lease) : ∀ move ∈ after, move = .cancel := by
  obtain ⟨here, next, _, step, rest⟩ := run.cut
  cases step with
  | finish _ => exact closed_forever rest rfl

/-- Only the last acquirer can hand the work back or finish it. -/
theorem mover_last {before after : List (LeaseMove Owner)} {move : LeaseMove Owner} {owner : Owner}
    (run : (system Owner).Run (before ++ move :: after) lease)
    (moved : move = .surrender owner ∨ move = .finish owner) : (acquirers before).getLast? = some owner := by
  obtain ⟨here, next, prior, step, _⟩ := run.cut
  rcases moved with rfl | rfl
  · cases step with
    | surrender held => exact holder_last prior held
  · cases step with
    | finish held => exact holder_last prior held

/-! ## Leases seen in a larger system -/

section Projected

variable {State Label : Type*} {larger : TransitionSystem State Label}
  (projection : TransitionSystem.Projection larger (system Owner)) {before after : List Label}
  {label : Label} {state : State} {owner : Owner} {move : LeaseMove Owner}

/-- Only the last acquirer makes a label that hands the work back or finishes it. -/
theorem projected_mover_last (run : larger.Run (before ++ label :: after) state)
    (made : projection.move label = some move) (moved : move = .surrender owner ∨ move = .finish owner) :
    (acquirers (before.filterMap projection.move)).getLast? = some owner := by
  have projected := projection.run run
  rw [List.filterMap_append, List.filterMap_cons_some made] at projected
  exact mover_last projected moved

/-- Behind a label that finishes the work, no label moves it. -/
theorem projected_finished_forever (run : larger.Run (before ++ label :: after) state)
    (made : projection.move label = some (.finish owner)) :
    ∀ later ∈ after, ∀ move, projection.move later = some move → move = .cancel := by
  have projected := projection.run run
  rw [List.filterMap_append, List.filterMap_cons_some made] at projected
  intro later listed move moves
  exact finished_forever projected move (List.mem_filterMap.mpr ⟨later, listed, moves⟩)

end Projected

end Lease

end QuarkSelfAI.Foundation

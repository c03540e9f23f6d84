import QuarkSelfAI.Foundation.Table

/-!
# Programs that are interrupted and run again

A program reads a store and writes to it, one write after the other, and may be cut off
before any of its writes. A plan is a list of writes; a plan is repeatable if a write that
was made is absorbed and no later write of the plan changes that. Whoever
carries out a repeatable plan again, from wherever it was cut off, ends where one
undisturbed run of it ends.
-/

namespace QuarkSelfAI.Foundation

universe u v w

/-- What ends a program before its result. -/
inductive Stop (ε : Type u) where
  | threw (error : ε)
  | interrupted

/-- A store in use, with the number of writes until the user of it is cut off. -/
structure WriteSession (State : Type u) where
  state : State
  left : Option Nat

def Program (State : Type) (ε : Type) (α : Type) : Type := WriteSession State → Except (Stop ε) α × WriteSession State

namespace Program

variable {State ε α β Write : Type}

def pure (value : α) : Program State ε α := fun session => (.ok value, session)

def bind (first : Program State ε α) (next : α → Program State ε β) : Program State ε β := fun session =>
  match first session with
  | (.ok value, session) => next value session
  | (.error stop, session) => (.error stop, session)

instance : Monad (Program State ε) where
  pure := Program.pure
  bind := Program.bind

/-- The store as it is. -/
def read : Program State ε State := fun session => (.ok session.state, session)

def throwing (error : ε) : Program State ε α := fun session => (.error (.threw error), session)

/-- One write, which answers. -/
def update (change : State → Except ε (α × State)) : Program State ε α := fun session =>
  if session.left = some 0 then (.error .interrupted, session)
  else
    match change session.state with
    | .error error => (.error (.threw error), session)
    | .ok (value, state) => (.ok value, ⟨state, session.left.map (· - 1)⟩)

def write (change : State → Except ε State) : Program State ε Unit :=
  update fun state => (change state).map fun next => ((), next)

/-- The writes of a plan, one after the other, with the number of those that answer `true`. -/
def tally (change : Write → State → Except ε (Bool × State)) : List Write → Program State ε Nat
  | [] => Pure.pure 0
  | first :: rest => do
    let inserted ← update (change first)
    let count ← tally change rest
    Pure.pure ((if inserted then 1 else 0) + count)

theorem pure_apply (value : α) (session : WriteSession State) :
    (Pure.pure value : Program State ε α) session = (.ok value, session) := rfl

theorem bind_apply (first : Program State ε α) (next : α → Program State ε β) (session : WriteSession State) :
    (first >>= next) session = match first session with
      | (.ok value, session) => next value session
      | (.error stop, session) => (.error stop, session) := rfl

theorem read_bind (next : State → Program State ε β) (session : WriteSession State) :
    (read >>= next) session = next session.state session := rfl

end Program

section Plans

variable {State ε Write : Type} {apply : Write → State → Except ε State}

/-- A plan, as one step of the store. -/
def carryOut (apply : Write → State → Except ε State) : List Write → State → Except ε State
  | [], state => .ok state
  | first :: rest, state =>
    match apply first state with
    | .error error => .error error
    | .ok next => carryOut apply rest next

theorem carryOut_cons_ok {first : Write} {rest : List Write} {state finish : State} :
    carryOut apply (first :: rest) state = .ok finish ↔
      ∃ next, apply first state = .ok next ∧ carryOut apply rest next = .ok finish := by
  rw [carryOut]
  cases apply first state with
  | error | ok => simp

theorem carryOut_append_ok {before after : List Write} {state finish : State} :
    carryOut apply (before ++ after) state = .ok finish ↔
      ∃ middle, carryOut apply before state = .ok middle ∧ carryOut apply after middle = .ok finish := by
  induction before generalizing state with
  | nil => simp [carryOut]
  | cons first rest ih =>
    simp only [List.cons_append, carryOut_cons_ok, ih]
    constructor
    · rintro ⟨next, applied, middle, carried, finished⟩
      exact ⟨middle, ⟨next, applied, carried⟩, finished⟩
    · rintro ⟨middle, ⟨next, applied, carried⟩, finished⟩
      exact ⟨next, applied, middle, carried, finished⟩

/-- What no write of a plan changes is as it was. -/
theorem carryOut_view {View : Type} {plan : List Write} {state finish : State} (view : State → View)
    (kept : ∀ write ∈ plan, ∀ state next, apply write state = .ok next → view next = view state)
    (carried : carryOut apply plan state = .ok finish) : view finish = view state := by
  induction plan generalizing state with
  | nil =>
    cases carried
    rfl
  | cons first rest ih =>
    obtain ⟨next, applied, later⟩ := carryOut_cons_ok.mp carried
    obtain ⟨here, others⟩ := List.forall_mem_cons.mp kept
    rw [ih others later, here state next applied]

/-- A plan of writes of another kind. -/
theorem carryOut_map {Other : Type} {embed : Other → Write} (plan : List Other) (state : State) :
    carryOut apply (plan.map embed) state = carryOut (fun other => apply (embed other)) plan state := by
  induction plan generalizing state with
  | nil => rfl
  | cons first rest ih =>
    rw [List.map_cons, carryOut, carryOut]
    cases apply (embed first) state with
    | error error => rfl
    | ok next => exact ih next

section Tally

variable {change : Write → State → Except ε (Bool × State)} {plan : List Write} {state finish : State}

/-- A change, without its answer. -/
def silently (change : Write → State → Except ε (Bool × State)) (write : Write) (state : State) : Except ε State :=
  (change write state).map Prod.snd

theorem silently_ok {write : Write} {next : State} (applied : silently change write state = .ok next) :
    ∃ inserted, change write state = .ok (inserted, next) := by
  unfold silently at applied
  cases outcome : change write state with
  | error error =>
    rw [outcome] at applied
    cases applied
  | ok answer =>
    rw [outcome] at applied
    cases applied
    exact ⟨answer.1, rfl⟩

/-- A tally that is not cut off counts the writes that answer `true`. -/
theorem tally_whole {left : Option Nat} (enough : ∀ count, left = some count → plan.length ≤ count)
    (carried : carryOut (silently change) plan state = .ok finish) :
    ∃ count, Program.tally change plan ⟨state, left⟩ = (.ok count, ⟨finish, left.map (· - plan.length)⟩) ∧
      ∀ measure : State → Nat, (∀ write ∈ plan, ∀ state inserted next, change write state = .ok (inserted, next) →
        measure next = measure state + if inserted then 1 else 0) → measure finish = measure state + count := by
  induction plan generalizing state left with
  | nil =>
    cases carried
    refine ⟨0, ?_, fun _ _ => rfl⟩
    cases left <;> rfl
  | cons first rest ih =>
    obtain ⟨next, applied, later⟩ := carryOut_cons_ok.mp carried
    obtain ⟨inserted, changed⟩ := silently_ok applied
    have open_ : left ≠ some 0 := by
      rintro rfl
      have more := enough 0 rfl
      simp at more
    obtain ⟨count, run, counted⟩ := @ih next (left.map (· - 1)) (by
      intro fewer same
      obtain ⟨number, rfl, rfl⟩ := Option.map_eq_some_iff.mp same
      have more := enough number rfl
      rw [List.length_cons] at more
      omega) later
    refine ⟨(if inserted then 1 else 0) + count, ?_, fun measure grows => ?_⟩
    · simp only [Program.tally, Program.bind_apply, Program.update, if_neg open_, changed, run, Option.map_map]
      cases left with
      | none => rfl
      | some number =>
        simp only [Option.map_some, Function.comp_apply, List.length_cons, Nat.sub_sub, Nat.add_comm 1]
        rfl
    · obtain ⟨here, others⟩ := List.forall_mem_cons.mp grows
      rw [counted measure others, here state inserted next changed]
      omega

/-- A tally that is cut off has made the first writes. -/
theorem tally_cut {count : Nat} {middle : State} (short : count < plan.length)
    (carried : carryOut (silently change) (plan.take count) state = .ok middle) :
    Program.tally change plan ⟨state, some count⟩ = (.error .interrupted, ⟨middle, some 0⟩) := by
  induction plan generalizing state count with
  | nil => simp at short
  | cons first rest ih =>
    cases count with
    | zero =>
      cases carried
      rfl
    | succ count =>
      rw [List.take_succ_cons] at carried
      obtain ⟨next, applied, later⟩ := carryOut_cons_ok.mp carried
      obtain ⟨inserted, changed⟩ := silently_ok applied
      have cut := ih (by simpa using short) later
      simp only [Program.tally, Program.bind_apply, Program.update, changed]
      rw [if_neg (by simp)]
      simp only [Option.map_some, Nat.add_sub_cancel, cut]

/-- A write that is refused ends the tally. -/
theorem tally_refused {error : ε} (refused : carryOut (silently change) plan state = .error error) :
    ∃ session, Program.tally change plan ⟨state, none⟩ = (.error (.threw error), session) := by
  induction plan generalizing state with
  | nil => cases refused
  | cons first rest ih =>
    rw [carryOut] at refused
    simp only [Program.tally, Program.bind_apply, Program.update]
    cases applied : change first state with
    | error other =>
      simp only [silently, applied, Except.map] at refused
      cases refused
      exact ⟨_, rfl⟩
    | ok answer =>
      simp only [silently, applied, Except.map] at refused
      obtain ⟨session, ended⟩ := ih refused
      exact ⟨session, by simp [ended]⟩

end Tally

/-- A write that has nothing to do. -/
def Absorbed (apply : Write → State → Except ε State) (write : Write) (state : State) : Prop :=
  apply write state = .ok state

/-- A write that was made is absorbed, and stays so under the later writes of the plan. -/
structure Repeatable (apply : Write → State → Except ε State) (plan : List Write) : Prop where
  absorbs : ∀ write ∈ plan, ∀ state next, apply write state = .ok next → Absorbed apply write next
  stays : plan.Pairwise fun write later => ∀ state next, Absorbed apply write state →
    apply later state = .ok next → Absorbed apply write next

theorem carryOut_stays {write : Write} {plan : List Write} {state finish : State}
    (stays : ∀ later ∈ plan, ∀ state next, Absorbed apply write state → apply later state = .ok next →
      Absorbed apply write next)
    (absorbed : Absorbed apply write state) (carried : carryOut apply plan state = .ok finish) :
    Absorbed apply write finish := by
  induction plan generalizing state with
  | nil =>
    cases carried
    exact absorbed
  | cons first rest ih =>
    obtain ⟨next, applied, later⟩ := carryOut_cons_ok.mp carried
    obtain ⟨here, others⟩ := List.forall_mem_cons.mp stays
    exact ih others (here state next absorbed applied) later

theorem carryOut_absorbs {plan : List Write} {state finish : State} (repeatable : Repeatable apply plan)
    (carried : carryOut apply plan state = .ok finish) : ∀ write ∈ plan, Absorbed apply write finish := by
  induction plan generalizing state with
  | nil => exact fun _ listed => absurd listed List.not_mem_nil
  | cons first rest ih =>
    obtain ⟨next, applied, later⟩ := carryOut_cons_ok.mp carried
    obtain ⟨here, others⟩ := List.pairwise_cons.mp repeatable.stays
    refine List.forall_mem_cons.mpr ⟨?_, ?_⟩
    · exact carryOut_stays here (repeatable.absorbs first List.mem_cons_self state next applied) later
    · exact ih ⟨fun write listed => repeatable.absorbs write (List.mem_cons_of_mem _ listed), others⟩ later

theorem carryOut_absorbed {plan : List Write} {state : State}
    (absorbed : ∀ write ∈ plan, Absorbed apply write state) : carryOut apply plan state = .ok state := by
  induction plan with
  | nil => rfl
  | cons first rest ih =>
    obtain ⟨here, others⟩ := List.forall_mem_cons.mp absorbed
    exact carryOut_cons_ok.mpr ⟨state, here, ih others⟩

theorem Repeatable.take {plan : List Write} (repeatable : Repeatable apply plan) (count : Nat) :
    Repeatable apply (plan.take count) :=
  ⟨fun write listed => repeatable.absorbs write (List.mem_of_mem_take listed),
    repeatable.stays.sublist (List.take_sublist _ _)⟩

/-- The first writes of a repeatable plan, made after others of its first writes, leave what the longer of the two
leaves. -/
theorem carryOut_again {plan : List Write} {state middle finish : State} (repeatable : Repeatable apply plan)
    (carried : carryOut apply plan state = .ok finish) {made : Nat}
    (begun : carryOut apply (plan.take made) state = .ok middle) (count : Nat) :
    ∃ next, carryOut apply (plan.take count) middle = .ok next ∧
      carryOut apply (plan.take (max made count)) state = .ok next := by
  have absorbed := carryOut_absorbs (repeatable.take made) begun
  rcases le_total count made with fewer | more
  · refine ⟨middle, carryOut_absorbed fun write listed => absorbed write ?_, by rwa [max_eq_left fewer]⟩
    exact (List.take_prefix_take_left fewer).subset listed
  · have split : plan.take count = plan.take made ++ (plan.take count).drop made := by
      have whole := List.take_append_drop made (plan.take count)
      rw [List.take_take, min_eq_left more] at whole
      exact whole.symm
    obtain ⟨next, early, -⟩ : ∃ next, carryOut apply (plan.take count) state = .ok next ∧
        carryOut apply (plan.drop count) next = .ok finish := by
      rw [← List.take_append_drop count plan] at carried
      exact carryOut_append_ok.mp carried
    refine ⟨next, ?_, by rwa [max_eq_right more]⟩
    rw [split] at early ⊢
    obtain ⟨same, first, rest⟩ := carryOut_append_ok.mp early
    cases begun.symm.trans first
    exact carryOut_append_ok.mpr ⟨middle, carryOut_absorbed absorbed, rest⟩

end Plans

end QuarkSelfAI.Foundation

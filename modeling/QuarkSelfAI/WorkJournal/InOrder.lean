import Mathlib.Data.List.Chain
import QuarkSelfAI.WorkJournal.Service

/-!
# The days are closed in order

A day is closed by two writes, its signal and the checkpoint. While a checkpoint names the last closed day, the
target is the day after it, whatever the clock shows. Without one the target is yesterday, so a first signal
whose checkpoint was lost is found again only until the day after it is closed.
-/

namespace QuarkSelfAI.WorkJournal

open Foundation

variable {Content : Type} {store : JournalStore Content} {polledAt : Option Timestamp} {day : Int} {now : Timestamp}
  {signal : JournalSignal Content} {phase : Phase Content} {days : List Int}

/-! ## Consecutive days -/

def Consecutive (days : List Int) : Prop := days.IsChain fun day next => next = day + 1

instance (days : List Int) : Decidable (Consecutive days) := inferInstanceAs (Decidable (days.IsChain _))

theorem Consecutive.increasing (consecutive : Consecutive days) : days.Pairwise (· < ·) := by
  refine List.IsChain.pairwise (List.IsChain.imp ?_ consecutive)
  intro day next following
  omega

theorem Consecutive.le_last {newest : Int} (consecutive : Consecutive days)
    (last : days.getLast? = some newest) (listed : day ∈ days) : day ≤ newest := by
  obtain ⟨earlier, rfl⟩ := List.getLast?_eq_some_iff.mp last
  have increasing := (List.pairwise_append.mp consecutive.increasing).2.2
  rcases List.mem_append.mp listed with before | here
  · exact (increasing day before newest (List.mem_singleton_self _)).le
  · exact (List.mem_singleton.mp here).le

theorem Consecutive.snoc (consecutive : Consecutive days)
    (next : ∀ newest ∈ days.getLast?, day = newest + 1) : Consecutive (days ++ [day]) := by
  refine List.isChain_append.mpr ⟨consecutive, List.isChain_singleton day, ?_⟩
  intro newest last first only
  cases only
  exact next newest last

/-! ## What is to hold -/

/-- The state of the journal. -/
structure InOrder [DecidableEq Content] (service : JournalService Content) : Prop where
  consecutive : Consecutive service.store.days
  once : service.store.days.Nodup
  ended : ∀ day ∈ service.store.days, ∃ now ∈ service.polledAt, day < localDay now
  accepted : ∀ attempt record, service.phase = .appending attempt record →
    ∃ signals, appendSignal ⟨record⟩ service.store.signals = .ok signals
  behind : ∀ closed ∈ service.store.lastClosedDay, closed ∈ service.store.days

/-- The last closed day does not go back. -/
def Advances (before after : JournalStore Content) : Prop :=
  ∀ closed ∈ before.lastClosedDay, ∃ later ∈ after.lastClosedDay, closed ≤ later

theorem Advances.refl (store : JournalStore Content) : Advances store store :=
  fun closed named => ⟨closed, named, le_rfl⟩

theorem Advances.trans {first second third : JournalStore Content} (left : Advances first second)
    (right : Advances second third) : Advances first third := by
  intro closed named
  obtain ⟨later, known, ordered⟩ := left closed named
  obtain ⟨last, found, after⟩ := right later known
  exact ⟨last, found, ordered.trans after⟩

/-- A poll that takes yesterday for the first day to close although an earlier signal is stored and the day after
it has not been closed. -/
def Skips (config : WorkJournalConfig) (store : JournalStore Content) (now : Timestamp) : Prop :=
  delayed store.readCheckpoint now = false ∧ config.closeHour ≤ localHour now ∧ store.lastClosedDay = none ∧
    ∃ newest ∈ store.days.getLast?, newest + 1 < shiftDay (localDay now) (-1)

instance (config : WorkJournalConfig) (store : JournalStore Content) (now : Timestamp) :
    Decidable (Skips config store now) :=
  inferInstanceAs (Decidable (_ ∧ _))

/-- The condition on one step. -/
def Orderly (config : WorkJournalConfig) : JournalService Content → JournalLabel Content → Prop
  | service, .poll now => ¬ Skips config service.store now
  | _, _ => True

instance (config : WorkJournalConfig) (service : JournalService Content) (label : JournalLabel Content) :
    Decidable (Orderly config service label) :=
  match label with
  | .poll now => inferInstanceAs (Decidable (¬ Skips config service.store now))
  | .unread _ | .written | .thrown _ | .compiled _ | .stop | .crash => .isTrue trivial

/-! ## The invariant -/

/-- What holds of the store between any two writes. -/
structure Settled (store : JournalStore Content) (polledAt : Option Timestamp) : Prop where
  consecutive : Consecutive store.days
  ended : ∀ day ∈ store.days, ∃ now ∈ polledAt, day < localDay now
  behind : ∀ closed ∈ store.lastClosedDay, closed ∈ store.days ∧ ∀ newest ∈ store.days.getLast?, newest ≤ closed + 1

/-- A day that can be closed next, and whose signal is missing. -/
structure Due (store : JournalStore Content) (polledAt : Option Timestamp) (day : Int) : Prop where
  follows : ∀ newest ∈ store.days.getLast?, day = newest + 1
  next : ∀ closed ∈ store.lastClosedDay, day = closed + 1
  ended : ∃ now ∈ polledAt, day < localDay now

/-- A day whose signal was the last one to be stored, and that the checkpoint does not name. -/
structure Unmarked (store : JournalStore Content) (day : Int) : Prop where
  newest : store.days.getLast? = some day
  next : ∀ closed ∈ store.lastClosedDay, day = closed + 1

def Attempt.Continues (attempt : Attempt) (store : JournalStore Content) : Prop :=
  attempt.attempted.lastClosedDay = store.lastClosedDay

/-- What a phase knows of the store. -/
def Fits (store : JournalStore Content) (polledAt : Option Timestamp) : Phase Content → Prop
  | .idle => True
  | .repairing day _ => Unmarked store day
  | .attempting attempt => Due store polledAt attempt.day ∧ attempt.Continues store
  | .compiling attempt => Due store polledAt attempt.day ∧ attempt.Continues store
  | .appending attempt record => (Due store polledAt attempt.day ∧ attempt.Continues store) ∧ record.day = attempt.day
  | .closing attempt => Unmarked store attempt.day ∧ attempt.Continues store
  | .retaining attempt _ => attempt.Continues store

structure Sound (service : JournalService Content) : Prop where
  settled : Settled service.store service.polledAt
  fits : Fits service.store service.polledAt service.phase

/-! ## Reading the store -/

theorem Due.missing (due : Due store polledAt day) (settled : Settled store polledAt) : day ∉ store.days := by
  intro listed
  cases last : store.days.getLast? with
  | none =>
    rw [List.getLast?_eq_none_iff.mp last] at listed
    exact absurd listed List.not_mem_nil
  | some newest =>
    have bound := settled.consecutive.le_last last listed
    have following := due.follows newest last
    omega

theorem occurredAt_lt {left right : JournalSignal Content} (earlier : left.day < right.day) :
    (left.occurredAt : Int) < right.occurredAt := by
  have following : left.day + 1 < right.day + 1 := by omega
  exact Int.sub_lt_sub_right (Int.sub_lt_sub_right (Int.mul_lt_mul_of_pos_right following (by decide)) _) _

/-- The newest signal is among the recent ones. -/
theorem newest_recent {limit : Nat} (positive : 0 < limit) (increasing : store.days.Pairwise (· < ·))
    (last : store.days.getLast? = some day) : (recentSignals limit store.signals).any (·.day = day) := by
  obtain ⟨earlier, split⟩ := List.getLast?_eq_some_iff.mp last
  obtain ⟨before, rest, signals, rfl, tail⟩ := List.map_eq_append_iff.mp split
  obtain ⟨newest, rfl, rfl⟩ := List.map_eq_singleton_iff.mp tail
  refine List.any_eq_true.mpr ⟨newest, ?_, decide_eq_true rfl⟩
  by_contra missing
  have late := countP_of_not_recent (signals ▸ List.mem_append_right _ (List.mem_singleton_self newest)) missing
  rw [JournalStore.days, signals, List.map_append, List.pairwise_append] at increasing
  have alone : store.signals.countP (fun other => newest.occurredAt ≤ other.occurredAt) = 1 := by
    rw [signals, List.countP_append, List.countP_eq_zero.mpr]
    · simp
    · intro other listed
      rw [decide_eq_true_eq]
      exact (occurredAt_lt (increasing.2.2 other.day (List.mem_map_of_mem listed) newest.day (by simp))).not_ge
  omega

theorem recent_stored {limit : Nat} (found : (recentSignals limit store.signals).any (·.day = day)) :
    day ∈ store.days := by
  obtain ⟨signal, recent, same⟩ := List.any_eq_true.mp found
  have listed := (List.mem_insertionSort _).mp (List.mem_of_mem_take recent)
  exact of_decide_eq_true same ▸ List.mem_map_of_mem listed

/-- The signal of a day that is due is new. -/
theorem Due.append [DecidableEq Content] (due : Due store polledAt signal.day)
    (settled : Settled store polledAt) : appendSignal signal store.signals = .ok (store.signals ++ [signal]) := by
  have absent : store.signals.find? (·.day = signal.day) = none := by
    refine List.find?_eq_none.mpr fun other listed => ?_
    rw [decide_eq_true_eq]
    intro same
    exact due.missing settled (same ▸ List.mem_map_of_mem listed)
  rw [appendSignal, absent]

/-! ## One step -/

theorem Settled.polled (settled : Settled store polledAt)
    (later : ∀ before ∈ polledAt, (before : Int) ≤ now) : Settled store (some now) where
  consecutive := settled.consecutive
  ended day listed := by
    obtain ⟨before, polled, ended⟩ := settled.ended day listed
    exact ⟨now, rfl, ended.trans_le (localDay_le (later before polled))⟩
  behind := settled.behind

/-- What a target tells of the clock and the checkpoint. -/
structure Targeted (checkpoint : Checkpoint) (now : Timestamp) (closeHour day : Int) : Prop where
  hour : closeHour ≤ localHour now
  ended : day < localDay now
  first : checkpoint.lastClosedDay = none → day = shiftDay (localDay now) (-1)
  next : ∀ closed ∈ checkpoint.lastClosedDay, day = closed + 1

theorem targeted {checkpoint : Checkpoint} {closeHour : Int}
    (target : targetWorkJournalDay checkpoint now closeHour = some day) : Targeted checkpoint now closeHour day := by
  unfold targetWorkJournalDay at target
  split at target
  · cases target
  rename_i hour
  cases named : checkpoint.lastClosedDay with
  | none =>
    rw [named] at target
    cases target
    refine ⟨not_lt.mp hour, ?_, fun _ => rfl, fun closed other => by simp [named] at other⟩
    unfold shiftDay
    omega
  | some closed =>
    simp only [named] at target
    by_cases reached : shiftDay closed 1 ≤ shiftDay (localDay now) (-1)
    · rw [if_pos reached] at target
      cases target
      unfold shiftDay at *
      refine ⟨not_lt.mp hour, by omega, fun other => by simp [named] at other, fun other same => ?_⟩
      rw [named] at same
      cases same
      rfl
    · rw [if_neg reached] at target
      cases target

/-- A target that skips no day is due, or its signal was the last one to be stored. -/
theorem Targeted.cases {config : WorkJournalConfig}
    (target : Targeted store.readCheckpoint now config.closeHour day) (settled : Settled store (some now))
    (prompt : delayed store.readCheckpoint now = false) (orderly : ¬ Skips config store now) :
    Unmarked store day ∨ Due store (some now) day := by
  cases last : store.days.getLast? with
  | none => exact .inr ⟨by simp [last], target.next, now, rfl, target.ended⟩
  | some newest =>
    have stored := List.mem_of_getLast? last
    suffices near : day = newest ∨ day = newest + 1 by
      rcases near with rfl | next
      · exact .inl ⟨last, target.next⟩
      · exact .inr ⟨fun other same => Option.some.inj (last.symm.trans same) ▸ next, target.next, now, rfl,
          target.ended⟩
    cases named : store.lastClosedDay with
    | none =>
      obtain ⟨polled, same, ended⟩ := settled.ended newest stored
      cases same
      have yesterday := target.first named
      have close : ¬ newest + 1 < shiftDay (localDay now) (-1) := fun gap =>
        orderly ⟨prompt, target.hour, named, newest, last, gap⟩
      unfold shiftDay at *
      omega
    | some closed =>
      obtain ⟨known, bound⟩ := settled.behind closed named
      have next := target.next closed named
      have ordered := settled.consecutive.le_last last known
      have near := bound newest last
      omega

/-- A poll that skips no day writes what fits. -/
theorem begun_fits {config : WorkJournalConfig} (settled : Settled store (some now))
    (orderly : ¬ Skips config store now) : Fits store (some now) (JournalService.begun config store now) := by
  by_cases late : delayed store.readCheckpoint now
  · simp only [JournalService.begun, late, if_true]
    exact trivial
  have prompt : delayed store.readCheckpoint now = false := by simpa using late
  cases target : targetWorkJournalDay store.readCheckpoint now config.closeHour with
  | none =>
    simp only [JournalService.begun, prompt, target, Bool.false_eq_true, if_false]
    exact trivial
  | some day =>
    have either := (targeted target).cases settled prompt orderly
    by_cases found : (recentSignals 3660 store.signals).any (·.day = day)
    · simp only [JournalService.begun, prompt, target, found, if_true, Bool.false_eq_true, if_false]
      exact either.resolve_right fun due => due.missing settled (recent_stored found)
    · simp only [JournalService.begun, prompt, target, found, Bool.false_eq_true, if_false]
      refine ⟨either.resolve_left fun unmarked => found ?_, rfl⟩
      exact newest_recent (by decide) settled.consecutive.increasing unmarked.newest

/-- Writing a checkpoint that names the same last closed day. -/
theorem Settled.keeping {value : Checkpoint} (settled : Settled store polledAt)
    (same : value.lastClosedDay = store.lastClosedDay) : Settled (store.writeCheckpoint value) polledAt where
  consecutive := settled.consecutive
  ended := settled.ended
  behind closed named := settled.behind closed (same ▸ named)

theorem Unmarked.close (unmarked : Unmarked store day) (settled : Settled store polledAt) :
    Settled (store.writeCheckpoint (closedCheckpoint day now)) polledAt where
  consecutive := settled.consecutive
  ended := settled.ended
  behind closed named := by
    cases named
    refine ⟨List.mem_of_getLast? unmarked.newest, fun newest last => ?_⟩
    cases unmarked.newest.symm.trans last
    omega

theorem Unmarked.advances (unmarked : Unmarked store day) :
    Advances store (store.writeCheckpoint (closedCheckpoint day now)) := by
  intro closed named
  have next := unmarked.next closed named
  exact ⟨day, rfl, by omega⟩

theorem Advances.keeping {value : Checkpoint} (same : value.lastClosedDay = store.lastClosedDay) :
    Advances store (store.writeCheckpoint value) :=
  fun closed named => ⟨closed, same.trans named, le_rfl⟩

/-- Storing the signal of a day that is due. -/
theorem Due.stored (due : Due store polledAt signal.day) (settled : Settled store polledAt) :
    Settled { store with signals := store.signals ++ [signal] } polledAt := by
  have days : ({ store with signals := store.signals ++ [signal] } : JournalStore Content).days =
      store.days ++ [signal.day] := List.map_append
  constructor
  · rw [days]
    exact settled.consecutive.snoc due.follows
  · intro stored listed
    rw [days] at listed
    rcases List.mem_append.mp listed with before | here
    · exact settled.ended stored before
    · exact List.mem_singleton.mp here ▸ due.ended
  · intro closed named
    rw [days, List.getLast?_concat]
    refine ⟨List.mem_append_left _ (settled.behind closed named).1, fun newest last => ?_⟩
    cases last
    exact (due.next closed named).le

theorem Due.unmarked (due : Due store polledAt signal.day) :
    Unmarked { store with signals := store.signals ++ [signal] } signal.day := by
  refine ⟨?_, due.next⟩
  rw [JournalStore.days, List.map_append]
  exact List.getLast?_concat

/-- What a write of a poll makes of the store. -/
structure Progresses (before after : JournalStore Content) (polledAt : Option Timestamp) (phase : Phase Content) :
    Prop where
  settled : Settled after polledAt
  fits : Fits after polledAt phase
  advances : Advances before after

/-- Each write of a poll is accepted and leaves what the next one needs. -/
theorem Fits.write [DecidableEq Content] {outcome : Except String (JournalStore Content)}
    (fits : Fits store polledAt phase) (settled : Settled store polledAt) (next : phase.write store = some outcome) :
    ∃ after, outcome = .ok after ∧ Progresses store after polledAt phase.afterwards := by
  cases phase with
  | idle | compiling => cases next
  | repairing day now =>
    cases next
    exact ⟨_, rfl, fits.close settled, trivial, fits.advances⟩
  | attempting attempt =>
    cases next
    obtain ⟨due, same⟩ := fits
    exact ⟨_, rfl, settled.keeping same, ⟨⟨due.follows, fun closed named => due.next closed (same ▸ named), due.ended⟩,
      rfl⟩, .keeping same⟩
  | appending attempt record =>
    cases next
    obtain ⟨⟨due, same⟩, own⟩ := fits
    have due : Due store polledAt (JournalSignal.mk record).day := by
      change Due store polledAt record.day
      rwa [own]
    rw [due.append settled]
    exact ⟨_, rfl, due.stored settled, ⟨own ▸ due.unmarked, same⟩, .refl _⟩
  | closing attempt =>
    cases next
    exact ⟨_, rfl, fits.1.close settled, trivial, fits.1.advances⟩
  | retaining attempt error =>
    cases next
    exact ⟨_, rfl, settled.keeping fits, trivial, .keeping fits⟩

theorem Attempt.Continues.caught {attempt : Attempt} (same : attempt.Continues store) (error : String) :
    Fits store polledAt (.caught attempt error) := by
  unfold Phase.caught
  split
  · exact trivial
  · exact same

/-- A write that throws leaves the store, and the poll is over or retains the failure. -/
theorem Fits.failing (fits : Fits store polledAt phase) (error : String) :
    Fits store polledAt (phase.failing error) := by
  cases phase with
  | appending attempt record => exact fits.1.2.caught error
  | closing attempt => exact fits.2.caught error
  | idle | repairing | attempting | compiling | retaining => exact trivial

theorem Fits.abort (fits : Fits store polledAt phase) : Fits store polledAt phase.abort := by
  cases phase with
  | compiling | appending | closing | idle | repairing | attempting | retaining => exact fits

section

variable [DecidableEq Content] {config : WorkJournalConfig} {service next : JournalService Content}
  {label : JournalLabel Content}

open JournalService

theorem Sound.initial : Sound (machine config : GuardedMachine (JournalService Content) _).initial where
  settled := ⟨List.isChain_nil, by simp [machine, JournalStore.days], fun _ named => nomatch named⟩
  fits := trivial

/-- One step of the service keeps the invariant and does not take the last closed day back. -/
theorem Sound.step (sound : Sound service) (orderly : Orderly config service label)
    (performed : perform config label service = some next) : Sound next ∧ Advances service.store next.store := by
  obtain ⟨settled, fits⟩ := sound
  cases label with
  | poll now =>
    simp only [perform] at performed
    split at performed
    · rename_i ready
      cases performed
      have settled := settled.polled ready.2
      exact ⟨⟨settled, begun_fits settled orderly⟩, .refl _⟩
    · cases performed
  | unread now =>
    simp only [perform] at performed
    split at performed
    · rename_i ready
      cases performed
      refine ⟨⟨settled.polled ready.2, ?_⟩, .refl _⟩
      rw [ready.1]
      exact trivial
    · cases performed
  | written =>
    simp only [perform] at performed
    cases written : service.phase.write service.store with
    | none => simp [written] at performed
    | some outcome =>
      obtain ⟨after, rfl, progresses⟩ := fits.write settled written
      simp only [written, Option.some.injEq] at performed
      subst performed
      exact ⟨⟨progresses.settled, progresses.fits⟩, progresses.advances⟩
  | thrown error =>
    simp only [perform] at performed
    cases written : service.phase.write service.store with
    | none => simp [written] at performed
    | some outcome =>
      simp only [written, Option.some.injEq] at performed
      subst performed
      exact ⟨⟨settled, fits.failing error⟩, .refl _⟩
  | compiled outcome =>
    cases phase : service.phase with
    | compiling attempt =>
      rw [phase] at fits
      cases outcome with
      | error error =>
        simp only [perform, phase, Option.some.injEq] at performed
        subst performed
        exact ⟨⟨settled, fits.2.caught error⟩, .refl _⟩
      | ok record =>
        simp only [perform, phase] at performed
        split at performed
        · rename_i own
          cases performed
          exact ⟨⟨settled, fits, own⟩, .refl _⟩
        · cases performed
          exact ⟨⟨settled, fits.2.caught _⟩, .refl _⟩
    | idle | repairing | attempting | appending | closing | retaining => simp [perform, phase] at performed
  | stop =>
    cases performed
    exact ⟨⟨settled, fits.abort⟩, .refl _⟩
  | crash =>
    cases performed
    exact ⟨⟨settled, trivial⟩, .refl _⟩

theorem Sound.inOrder (sound : Sound service) : InOrder service where
  consecutive := sound.settled.consecutive
  once := sound.settled.consecutive.increasing.imp fun earlier => earlier.ne
  ended := sound.settled.ended
  accepted attempt record phase := by
    have fits := sound.fits
    rw [phase] at fits
    obtain ⟨⟨due, -⟩, own⟩ := fits
    have due : Due service.store service.polledAt (JournalSignal.mk record).day := by
      change Due service.store service.polledAt record.day
      rwa [own]
    exact ⟨_, due.append sound.settled⟩
  behind closed named := (sound.settled.behind closed named).1

/-- In a run whose polls skip no day, the days are closed in order and the last closed day does not go back. -/
theorem closes_in_order {before after : List (JournalLabel Content)} {earlier : JournalService Content}
    (run : ((machine config).system.restricted (Orderly config)).Run before earlier)
    (steps : ((machine config).system.restricted (Orderly config)).Steps earlier after service) :
    InOrder service ∧ Advances earlier.store service.store := by
  have sound : Sound earlier := by
    refine run.invariant ?_ fun sound taken => (sound.step taken.2 taken.1).1
    rintro state rfl
    exact .initial
  suffices last : Sound service ∧ Advances earlier.store service.store from ⟨last.1.inOrder, last.2⟩
  refine steps.preserves (fun state => Sound state ∧ Advances earlier.store state.store) ?_ ⟨sound, .refl _⟩
  rintro middle label next ⟨sound, advances⟩ taken
  obtain ⟨kept, ahead⟩ := sound.step taken.2 taken.1
  exact ⟨kept, advances.trans ahead⟩

/-- Wherever a poll skips a day, evidence and compiler need only do their work for the gap to be stored. -/
theorem Skips.leaves_gap (skips : Skips config service.store now) (ready : service.ready now)
    (consecutive : Consecutive service.store.days) (content : Content) :
    ∃ after final, (machine config).system.Steps service after final ∧ ¬ Consecutive final.store.days := by
  obtain ⟨prompt, hour, unnamed, newest, last, gap⟩ := skips
  generalize aimed : shiftDay (localDay now) (-1) = day at *
  have target : targetWorkJournalDay service.store.readCheckpoint now config.closeHour = some day := by
    have unnamed : service.store.readCheckpoint.lastClosedDay = none := unnamed
    rw [targetWorkJournalDay, if_neg (not_lt.mpr hour), unnamed, aimed]
  have missing : ¬ (recentSignals 3660 service.store.signals).any (·.day = day) := by
    intro found
    have bound := consecutive.le_last last (recent_stored found)
    omega
  have absent : service.store.signals.find? (·.day = day) = none := by
    refine List.find?_eq_none.mpr fun other listed => ?_
    have bound := consecutive.le_last last (List.mem_map_of_mem listed)
    rw [decide_eq_true_eq]
    omega
  let attempt : Attempt := ⟨day, { service.store.readCheckpoint with lastAttemptAt := some now }, now, false⟩
  let record : DailyRecord Content := ⟨day, content⟩
  let attempting : JournalService Content :=
    { service with phase := .attempting attempt, polledAt := some now }
  let compiling : JournalService Content :=
    { attempting with store := service.store.writeCheckpoint attempt.attempted, phase := .compiling attempt }
  let appending : JournalService Content := { compiling with phase := .appending attempt record }
  let closing : JournalService Content :=
    { compiling with
      store := { compiling.store with signals := service.store.signals ++ [⟨record⟩] }
      phase := .closing attempt }
  have begins : (machine config).system.Step service (.poll now) attempting := by
    change perform config (.poll now) service = some attempting
    simp only [perform, if_pos ready, begun, prompt, target, missing, Bool.false_eq_true, if_false]
    rfl
  have attempted : (machine config).system.Step attempting .written compiling := rfl
  have compiled : (machine config).system.Step compiling (.compiled (.ok record)) appending := if_pos rfl
  have appended : (machine config).system.Step appending .written closing := by
    have signals : appendSignal ⟨record⟩ appending.store.signals = .ok (service.store.signals ++ [⟨record⟩]) := by
      rw [appendSignal, show appending.store.signals.find? (·.day = (JournalSignal.mk record).day) = none from absent]
      rfl
    change perform config .written appending = some closing
    simp only [perform, appending, Phase.write] at signals ⊢
    rw [signals]
    rfl
  refine ⟨_, closing, .next begins (.next attempted (.next compiled (.next appended .done))), ?_⟩
  intro kept
  have days : closing.store.days = service.store.days ++ [day] := List.map_append
  rw [days] at kept
  have next := (List.isChain_append.mp kept).2.2 newest last day rfl
  omega

end

/-! ## One journal -/

/-- A day is closed at eight in the morning; the next closing loses its checkpoint. -/
def closingTwice : List (JournalLabel String) :=
  [.poll 1788393600000, .written, .compiled (.ok ⟨20698, "demo"⟩), .written, .written,
    .poll 1788480000000, .written, .compiled (.ok ⟨20699, "review"⟩), .written, .thrown "disk full", .written,
    .poll 1788483600000, .written]

/-- Both days are closed. -/
def closedTwice : JournalService String where
  store := ⟨[⟨⟨20698, "demo"⟩⟩, ⟨⟨20699, "review"⟩⟩], some (closedCheckpoint 20699 1788483600000)⟩
  polledAt := some 1788483600000

theorem closes_twice : InOrder closedTwice ∧ Advances {} closedTwice.store :=
  @closes_in_order String _ ⟨5⟩ closedTwice [] closingTwice {} (.initial rfl)
    ((JournalService.machine ⟨5⟩).guarded_steps
      (GuardedMachine.replay_steps _ (show ((JournalService.machine ⟨5⟩).guarded (Orderly ⟨5⟩)).replay closingTwice {} =
        some closedTwice by decide +kernel)))

/-- The checkpoint of the first closing is lost, and the service is away for a day. -/
def closingApart : List (JournalLabel String) :=
  [.poll 1788393600000, .written, .compiled (.ok ⟨20698, "demo"⟩), .written, .thrown "disk full", .written,
    .poll 1788566400000, .written, .compiled (.ok ⟨20700, "review"⟩), .written, .written]

/-- The day between the two is never closed. -/
theorem closes_apart : ∃ service, (JournalService.machine ⟨5⟩).system.Run closingApart service ∧
      service.store.days = [20698, 20700] ∧ service.store.lastClosedDay = some 20700 ∧ ¬ InOrder service :=
  ⟨_, GuardedMachine.replay_run _ (Option.some_get (by decide +kernel)).symm, by decide +kernel, by decide +kernel,
    fun kept => absurd kept.consecutive (by decide +kernel)⟩

end QuarkSelfAI.WorkJournal

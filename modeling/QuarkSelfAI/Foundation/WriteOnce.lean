import QuarkSelfAI.Foundation.Table
import QuarkSelfAI.Foundation.Transition

/-!
# Tables that are written once

A row is appended unless its key is taken: the same row again is answered without a write, and
another row of the key is refused. So the first row of a key stays, and whether the calls of a run
are answered alike depends on the rows they bring, not on what stands between them.
-/

namespace QuarkSelfAI.Foundation

universe u v w z

section Append

variable {Key : Type u} {Row : Type v} {Error : Type w} {key : Row → Key} [DecidableEq Key] [DecidableEq Row]

/-- Append a row, and answer whether it is new. -/
def Table.append (refusal : Row → Error) (row : Row) (table : Table key) : Except Error Bool × Table key :=
  match table.insert? row with
  | some next => (.ok true, next)
  | none => (if table.find? (key row) = some row then .ok false else .error (refusal row), table)

variable {refusal : Row → Error} {row : Row} {table : Table key}

theorem append_fresh (fresh : table.find? (key row) = none) :
    ∃ next, table.insert? row = some next ∧ table.append refusal row = (.ok true, next) := by
  obtain ⟨next, inserted⟩ := Table.exists_insert fresh
  exact ⟨next, inserted, by rw [Table.append, inserted]⟩

theorem append_taken {stored : Row} (found : table.find? (key row) = some stored) :
    table.append refusal row = (if stored = row then .ok false else .error (refusal row), table) := by
  have taken : table.insert? row = none := Table.insert?_eq_none_iff.mpr ⟨stored, found⟩
  rw [Table.append, taken, found]
  simp

end Append

section Log

variable {Key : Type u} {Row : Type v} {Call : Type w} {Error : Type z} {key : Row → Key} [DecidableEq Key]
  [DecidableEq Row]

/-- A service that appends the row of each call. -/
def writeOnce (row : Call → Row) (refusal : Row → Error) : Machine (Table key) Call (Except Error Bool) where
  initial := .empty
  perform call := Table.append refusal (row call)

variable {row : Call → Row} {refusal : Row → Error} {watched : Key → Prop}
  {labels : List (Call × Except Error Bool)} {table next : Table key} {label : Call × Except Error Bool}

/-- The second of two calls for a watched key is answered without a write, and the row of the first one is stored. -/
def WrittenOnce (key : Row → Key) (row : Call → Row) (watched : Key → Prop) (table : Table key)
    (first second : Call × Except Error Bool) : Prop :=
  watched (key (row first.1)) → key (row first.1) = key (row second.1) →
    second.2 = .ok false ∧ table.find? (key (row first.1)) = some (row first.1)

/-- Two calls for a watched key bring one row. -/
def Alike (key : Row → Key) (row : Call → Row) (watched : Key → Prop) (first second : Call × Except Error Bool) : Prop :=
  watched (key (row first.1)) → key (row first.1) = key (row second.1) → row first.1 = row second.1

/-- The first row of a key is what is stored of it. -/
def FirstStored (row : Call → Row) (labels : List (Call × Except Error Bool)) (table : Table key) : Prop :=
  ∀ sought, table.find? sought = (labels.map fun label => row label.1).find? fun brought => key brought = sought

theorem FirstStored.append (first : FirstStored row labels table)
    (performed : (writeOnce row refusal).perform label.1 table = (label.2, next)) :
    FirstStored row (labels ++ [label]) next := by
  intro sought
  rw [List.map_append, List.map_singleton, List.find?_append, ← first sought, List.find?_singleton]
  cases found : table.find? (key (row label.1)) with
  | none =>
    have appended : ∃ grown, table.insert? (row label.1) = some grown ∧
        (writeOnce row refusal).perform label.1 table = (.ok true, grown) := append_fresh found
    obtain ⟨_, inserted, appended⟩ := appended
    obtain rfl := (Prod.mk.inj (appended.symm.trans performed)).2
    rw [Table.find?_insert inserted]
    split
    · rename_i same
      subst same
      simp [found]
    · rename_i other
      simp [other]
  | some stored =>
    obtain rfl := (Prod.mk.inj ((append_taken found).symm.trans performed)).2
    by_cases same : key (row label.1) = sought
    · rw [← same, found, Option.some_or]
    · simp [same]

omit [DecidableEq Row] in
/-- What a key stores was brought by a call. -/
theorem FirstStored.brought {sought : Key} {stored : Row} (first : FirstStored row labels table)
    (found : table.find? sought = some stored) : ∃ label ∈ labels, row label.1 = stored ∧ key stored = sought := by
  rw [first sought] at found
  obtain ⟨label, listed, same⟩ := List.mem_map.mp (List.mem_of_find?_eq_some found)
  exact ⟨label, listed, same, by simpa using List.find?_some found⟩

omit [DecidableEq Row] in
theorem FirstStored.found (first : FirstStored row labels table)
    (listed : label ∈ labels) : ∃ stored, table.find? (key (row label.1)) = some stored := by
  rw [first, ← Option.isSome_iff_exists, List.find?_isSome]
  exact ⟨_, List.mem_map_of_mem listed, by simp⟩

/-- Appending keeps what is settled among the calls before. -/
theorem pairwise_writtenOnce_append (first : FirstStored row labels table)
    (performed : (writeOnce row refusal).perform label.1 table = (label.2, next)) :
    labels.Pairwise (WrittenOnce key row watched next) ↔ labels.Pairwise (WrittenOnce key row watched table) := by
  have kept : ∀ one ∈ labels, next.find? (key (row one.1)) = table.find? (key (row one.1)) := by
    intro one listed
    obtain ⟨stored, found⟩ := first.found listed
    rw [found]
    cases inserted : table.insert? (row label.1) with
    | none =>
      obtain ⟨taken, there⟩ := Table.insert?_eq_none_iff.mp inserted
      obtain rfl := (Prod.mk.inj ((append_taken there).symm.trans performed)).2
      exact found
    | some grown =>
      rw [writeOnce] at performed
      dsimp only at performed
      rw [Table.append, inserted] at performed
      obtain rfl := (Prod.mk.inj performed).2
      exact Table.find?_kept inserted found
  refine List.Pairwise.iff_of_mem fun {one other} listed _ => ?_
  rw [WrittenOnce, WrittenOnce, kept one listed]

/-- The same for the last call and those before it. -/
theorem writtenOnce_last_iff (first : FirstStored row labels table)
    (performed : (writeOnce row refusal).perform label.1 table = (label.2, next)) :
    (∀ one ∈ labels, WrittenOnce key row watched next one label) ↔ ∀ one ∈ labels, Alike key row watched one label := by
  cases found : table.find? (key (row label.1)) with
  | none =>
    have fresh : ∀ one ∈ labels, key (row one.1) ≠ key (row label.1) := by
      intro one listed same
      obtain ⟨stored, there⟩ := first.found listed
      rw [same, found] at there
      cases there
    constructor
    all_goals
      intro _ one listed _ same
      exact absurd same (fresh one listed)
  | some stored =>
    obtain ⟨answer, rfl⟩ := Prod.mk.inj ((append_taken found).symm.trans performed)
    constructor
    · intro settled one listed seen same
      obtain ⟨kept, there⟩ := settled one listed seen same
      rw [same, found] at there
      by_cases equal : stored = row label.1
      · exact (Option.some.inj there).symm.trans equal
      · rw [if_neg equal, kept] at answer
        cases answer
    · intro alike one listed seen same
      obtain ⟨origin, before, rfl, keyed⟩ := first.brought found
      have equal : row origin.1 = row label.1 := alike origin before (by rwa [keyed, ← same]) keyed
      refine ⟨by rw [← answer, if_pos equal], ?_⟩
      rw [same, found, equal, alike one listed seen same]

/-- In every run the later calls for a watched key are answered without a write, and store what the first one brought,
exactly when the calls for the key bring one row. -/
theorem writtenOnce_iff (run : (writeOnce row refusal : Machine (Table key) Call (Except Error Bool)).system.Run labels table) :
    labels.Pairwise (WrittenOnce key row watched table) ↔ labels.Pairwise (Alike key row watched) := by
  refine (run.history (motive := fun labels table => FirstStored row labels table ∧
    (labels.Pairwise (WrittenOnce key row watched table) ↔ labels.Pairwise (Alike key row watched))) ?_ ?_).2
  · rintro _ rfl
    exact ⟨fun _ => rfl, by simp⟩
  · rintro labels label before after _ ⟨first, same⟩ performed
    refine ⟨first.append performed, ?_⟩
    rw [List.pairwise_append, List.pairwise_append, pairwise_writtenOnce_append first performed, same]
    refine and_congr_right fun _ => and_congr (by simp) ?_
    simp only [List.mem_singleton, forall_eq]
    exact writtenOnce_last_iff first performed

end Log

end QuarkSelfAI.Foundation

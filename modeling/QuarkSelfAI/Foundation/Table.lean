import Mathlib.Data.List.Nodup
import Mathlib.Data.List.Sort

/-!
# Tables with a primary key, and transactions

A `Table key` is a list of rows in insertion order whose keys are distinct, so a
duplicate key is not a value. `insert?` refuses a row whose key is taken and
`update` rewrites the row of one key; the lemmas say what either does to every
lookup and to every row. A `transaction` commits the state its body returns or
rolls back to the state it started from.
-/

namespace QuarkSelfAI.Foundation

universe u v w

/-- The first success of a sequence of fallible steps. -/
theorem bind_ok {ε : Type u} {α β : Type v} {first : Except ε α} {next : α → Except ε β} {result : β} :
    (first >>= next) = .ok result ↔ ∃ value, first = .ok value ∧ next value = .ok result := by
  cases first with
  | error | ok => simp [bind, Except.bind]

/-- Rows in insertion order under a primary key. -/
structure Table {Key : Type u} {Row : Type v} (key : Row → Key) where
  rows : List Row
  unique : (rows.map key).Nodup

namespace Table

variable {Key : Type u} {Row : Type v} {key : Row → Key} {row : Row}

@[ext] theorem ext {left right : Table key} (rows : left.rows = right.rows) : left = right := by
  cases left
  cases right
  cases rows
  rfl

instance [DecidableEq Row] : DecidableEq (Table key) := fun left right =>
  decidable_of_iff (left.rows = right.rows) ⟨Table.ext, fun equal => congrArg rows equal⟩

instance : Membership Row (Table key) := ⟨fun table row => row ∈ table.rows⟩

@[simp] theorem mem_rows {table : Table key} : row ∈ table.rows ↔ row ∈ table := Iff.rfl

def empty : Table key := ⟨[], List.nodup_nil⟩

@[simp] theorem rows_empty : (empty : Table key).rows = [] := rfl

@[simp] theorem not_mem_empty (row : Row) : row ∉ (empty : Table key) := List.not_mem_nil

/-- Two stored rows of one key are one row. -/
theorem eq_of_key {table : Table key} {left right : Row} (inLeft : left ∈ table)
    (inRight : right ∈ table) (same : key left = key right) : left = right :=
  List.inj_on_of_nodup_map table.unique inLeft inRight same

variable [DecidableEq Key]

/-- The row of a key. -/
def find? (table : Table key) (sought : Key) : Option Row := table.rows.find? fun row => key row = sought

@[simp] theorem find?_empty (sought : Key) : (empty : Table key).find? sought = none := rfl

theorem find?_eq_some_iff {table : Table key} {sought : Key} :
    table.find? sought = some row ↔ row ∈ table ∧ key row = sought := by
  constructor
  · intro found
    exact ⟨List.mem_of_find?_eq_some found, by simpa using List.find?_some found⟩
  · rintro ⟨stored, rfl⟩
    obtain ⟨other, found⟩ : ∃ other, table.find? (key row) = some other := by
      rw [find?, ← Option.isSome_iff_exists, List.find?_isSome]
      exact ⟨row, stored, by simp⟩
    have keyed : key other = key row := by simpa using List.find?_some found
    rw [found, eq_of_key (List.mem_of_find?_eq_some found) stored keyed]

theorem find?_key {table : Table key} {sought : Key} (found : table.find? sought = some row) : key row = sought :=
  (find?_eq_some_iff.mp found).2

theorem find?_mem {table : Table key} {sought : Key} (found : table.find? sought = some row) : row ∈ table :=
  (find?_eq_some_iff.mp found).1

theorem find?_self {table : Table key} (stored : row ∈ table) : table.find? (key row) = some row :=
  find?_eq_some_iff.mpr ⟨stored, rfl⟩

theorem find?_eq_none_iff {table : Table key} {sought : Key} :
    table.find? sought = none ↔ ∀ row ∈ table, key row ≠ sought := by
  simp [find?]

/-- Append a row unless its key is taken. -/
def insert? (table : Table key) (row : Row) : Option (Table key) :=
  if fresh : key row ∈ table.rows.map key then none
  else some ⟨table.rows ++ [row], by
    rw [List.map_append, List.map_singleton]
    exact List.Nodup.append table.unique (List.nodup_singleton _) (by simpa using fresh)⟩

theorem insert?_eq_some_iff {table next : Table key} : table.insert? row = some next ↔
      table.find? (key row) = none ∧ next.rows = table.rows ++ [row] := by
  rw [find?_eq_none_iff, insert?]
  split
  · rename_i taken
    obtain ⟨other, stored, same⟩ := List.mem_map.mp taken
    constructor
    · intro impossible
      cases impossible
    · rintro ⟨fresh, _⟩
      exact absurd same (fresh other stored)
  · rename_i fresh
    constructor
    · intro inserted
      cases inserted
      exact ⟨fun other stored same => fresh (List.mem_map.mpr ⟨other, stored, same⟩), rfl⟩
    · rintro ⟨_, rows⟩
      exact congrArg some (Table.ext rows.symm)

theorem insert?_eq_none_iff {table : Table key} :
    table.insert? row = none ↔ ∃ stored, table.find? (key row) = some stored := by
  rw [← Option.isSome_iff_exists, find?, List.find?_isSome, insert?]
  split
  · rename_i taken
    simpa using List.mem_map.mp taken
  · rename_i fresh
    simpa using fun other stored same => fresh (List.mem_map.mpr ⟨other, stored, same⟩)

theorem exists_insert {table : Table key} (fresh : table.find? (key row) = none) :
    ∃ next, table.insert? row = some next := by
  cases inserted : table.insert? row with
  | none =>
    obtain ⟨stored, found⟩ := insert?_eq_none_iff.mp inserted
    rw [fresh] at found
    cases found
  | some next => exact ⟨next, rfl⟩

theorem mem_insert {table next : Table key} {row other : Row}
    (inserted : table.insert? row = some next) : other ∈ next ↔ other ∈ table ∨ other = row := by
  rw [← mem_rows, (insert?_eq_some_iff.mp inserted).2]
  simp

theorem rows_insert {table next : Table key}
    (inserted : table.insert? row = some next) : next.rows = table.rows ++ [row] :=
  (insert?_eq_some_iff.mp inserted).2

theorem find?_fresh {table next : Table key}
    (inserted : table.insert? row = some next) : table.find? (key row) = none :=
  (insert?_eq_some_iff.mp inserted).1

/-- Inserting a row answers its own key and leaves every other lookup alone. -/
theorem find?_insert {table next : Table key} (inserted : table.insert? row = some next) (sought : Key) :
    next.find? sought = if key row = sought then some row else table.find? sought := by
  split
  · rename_i same
    exact find?_eq_some_iff.mpr ⟨(mem_insert inserted).mpr (.inr rfl), same⟩
  · rename_i different
    rw [find?, rows_insert inserted, List.find?_append]
    simp [find?, different]

theorem find?_inserted {table next : Table key} (inserted : table.insert? row = some next) (sought : Key) :
    next.find? sought = if sought = key row then some row else table.find? sought := by
  rw [find?_insert inserted]
  simp only [eq_comm]

theorem find?_new {table next : Table key} (inserted : table.insert? row = some next) :
    next.find? (key row) = some row := by
  rw [find?_insert inserted, if_pos rfl]

/-- Inserting a row keeps every row that is found. -/
theorem find?_kept {table next : Table key} {row stored : Row} {sought : Key}
    (inserted : table.insert? row = some next) (found : table.find? sought = some stored) :
    next.find? sought = some stored := by
  rw [find?_inserted inserted, if_neg]
  · exact found
  · rintro rfl
    rw [find?_fresh inserted] at found
    cases found

/-- Append the row, or keep the table when the key is taken. -/
def insertOrIgnore (table : Table key) (row : Row) : Table key := (table.insert? row).getD table

/-- Rewrite the row of one key, keeping its key. -/
def update (table : Table key) (sought : Key) (change : Row → Row)
    (keeps : ∀ row, key (change row) = key row) : Table key where
  rows := table.rows.map fun row => if key row = sought then change row else row
  unique := by
    rw [List.map_map]
    have same : (key ∘ fun row => if key row = sought then change row else row) = key := by
      funext row
      simp only [Function.comp_apply]
      split
      · exact keeps row
      · rfl
    rw [same]
    exact table.unique

section Update

variable {table : Table key} {sought : Key} {change : Row → Row}
  {keeps : ∀ row, key (change row) = key row} {next : Table key} {select : Row → Bool}

theorem mem_update : row ∈ table.update sought change keeps ↔
      (∃ old ∈ table, key old = sought ∧ row = change old) ∨ (row ∈ table ∧ key row ≠ sought) := by
  rw [← mem_rows, update, List.mem_map]
  constructor
  · rintro ⟨old, stored, rfl⟩
    by_cases selected : key old = sought
    · exact .inl ⟨old, stored, selected, if_pos selected⟩
    · exact .inr ⟨by rwa [if_neg selected], by rwa [if_neg selected]⟩
  · rintro (⟨old, stored, selected, rfl⟩ | ⟨stored, other⟩)
    · exact ⟨old, stored, if_pos selected⟩
    · exact ⟨row, stored, if_neg other⟩

/-- Updating one key changes that lookup alone. -/
theorem find?_update (other : Key) : (table.update sought change keeps).find? other =
      if other = sought then (table.find? other).map change else table.find? other := by
  have keyed : ∀ row, key (if key row = sought then change row else row) = key row := by
    intro row
    split
    · exact keeps row
    · rfl
  rw [find?, update, List.find?_map]
  simp only [Function.comp_def, keyed]
  cases found : table.rows.find? (fun row => decide (key row = other)) with
  | none => simp [find?, found]
  | some row =>
    have same : key row = other := by simpa using List.find?_some found
    have here : table.find? other = some row := found
    rw [here, Option.map_some, same]
    split <;> rfl

@[simp] theorem find?_update_self :
    (table.update sought change keeps).find? sought = (table.find? sought).map change := by
  simp [find?_update]

theorem find?_update_of_ne {other : Key} (different : other ≠ sought) :
    (table.update sought change keeps).find? other = table.find? other := by
  simp [find?_update, different]

/-- A view that the change keeps is the same in every lookup. -/
theorem map_find?_updated {View : Type w} {view : Row → View} (updated : next = table.update sought change keeps)
    (same : ∀ row, view (change row) = view row) (other : Key) :
    (next.find? other).map view = (table.find? other).map view := by
  rw [updated, find?_update]
  split
  · simp [Function.comp_def, same]
  · rfl

/-- Updating a stored row answers its key with the changed row. -/
theorem find?_updated (updated : next = table.update sought change keeps) (found : table.find? sought = some row)
    (other : Key) : next.find? other = if other = sought then some (change row) else table.find? other := by
  subst updated
  rw [find?_update]
  split
  · rename_i same
    rw [same, found, Option.map_some]
  · rfl

theorem find?_rewritten (updated : next = table.update sought change keeps) (found : table.find? sought = some row) :
    next.find? sought = some (change row) := by
  rw [find?_updated updated found, if_pos rfl]

/-- An update keeps a row that is found, or changes it. -/
theorem find?_changed {other : Key}
    (updated : next = table.update sought change keeps) (found : table.find? other = some row) :
    ∃ later, next.find? other = some later ∧ (later = row ∨ other = sought ∧ later = change row) := by
  subst updated
  by_cases same : other = sought
  · refine ⟨change row, ?_, .inr ⟨same, rfl⟩⟩
    rw [find?_update, if_pos same, found, Option.map_some]
  · refine ⟨row, ?_, .inl rfl⟩
    rw [find?_update, if_neg same, found]

/-- What is selected of an updated table. -/
theorem filter_update (updated : next = table.update sought change keeps)
    (selected : ∀ row, select (change row) = select row) : next.rows.filter select =
      (table.rows.filter select).map fun row => if key row = sought then change row else row := by
  subst updated
  have picks : (select ∘ fun row => if key row = sought then change row else row) = select := by
    funext row
    simp only [Function.comp_apply]
    split
    · exact selected row
    · rfl
  rw [update, List.filter_map, picks]

/-- An update that keeps what is selected and what is seen of it keeps the view of
the whole table. -/
theorem view_update {View : Type w} {view : Row → View} (keeps : ∀ row, key (change row) = key row)
    (selected : ∀ row, select (change row) = select row) (same : ∀ row, view (change row) = view row) :
    ((table.update sought change keeps).rows.filter select).map view = (table.rows.filter select).map view := by
  have sees : (view ∘ fun row => if key row = sought then change row else row) = view := by
    funext row
    simp only [Function.comp_apply]
    split
    · exact same row
    · rfl
  rw [filter_update rfl selected, List.map_map, sees]

/-- What does not select the row that an update changes selects what it did. -/
theorem filter_update_apart (updated : next = table.update sought change keeps)
    (selected : ∀ row, select (change row) = select row) (found : table.find? sought = some row)
    (apart : select row = false) : next.rows.filter select = table.rows.filter select := by
  rw [filter_update updated selected]
  refine (List.map_congr_left fun other listed => ?_).trans (List.map_id _)
  refine if_neg fun same => ?_
  obtain ⟨stored, selects⟩ := List.mem_filter.mp listed
  rw [eq_of_key stored (find?_mem found) (same.trans (find?_key found).symm), apart] at selects
  cases selects

end Update

/-- Rewrite every row, keeping its key. -/
def mapRows (table : Table key) (change : Row → Row) (keeps : ∀ row, key (change row) = key row) : Table key where
  rows := table.rows.map change
  unique := by
    have same : key ∘ change = key := funext keeps
    rw [List.map_map, same]
    exact table.unique

omit [DecidableEq Key] in
theorem mem_mapRows {table : Table key} {change : Row → Row} (keeps : ∀ row, key (change row) = key row)
    : row ∈ table.mapRows change keeps ↔ ∃ old ∈ table, change old = row :=
  List.mem_map

theorem find?_mapRows (table : Table key) (change : Row → Row)
    (keeps : ∀ row, key (change row) = key row) (sought : Key) :
    (table.mapRows change keeps).find? sought = (table.find? sought).map change := by
  rw [find?, mapRows, List.find?_map]
  simp only [Function.comp_def, keeps]
  rfl

/-- Write a row under its key, in the place of the row it replaces. -/
def put (table : Table key) (row : Row) : Table key :=
  match table.insert? row with
  | some next => next
  | none => table.update (key row) (fun old => if key old = key row then row else old) fun old => by
      split
      · rename_i same
        exact same.symm
      · rfl

theorem find?_put (table : Table key) (row : Row) (sought : Key) :
    (table.put row).find? sought = if sought = key row then some row else table.find? sought := by
  unfold put
  split
  · rename_i next inserted
    exact find?_inserted inserted sought
  · rename_i taken
    obtain ⟨stored, found⟩ := insert?_eq_none_iff.mp taken
    rw [find?_updated rfl found, if_pos (find?_key found)]

theorem mem_put {table : Table key} {row other : Row} (stored : other ∈ table.put row) :
    other = row ∨ other ∈ table := by
  have found := find?_self stored
  rw [find?_put] at found
  split at found
  · exact .inl (Option.some.inj found).symm
  · exact .inr (find?_mem found)

/-- Delete the row of a key. -/
def delete (table : Table key) (gone : Key) : Table key where
  rows := table.rows.filter fun row => key row ≠ gone
  unique := (List.filter_sublist.map key).nodup table.unique

theorem find?_delete (table : Table key) (gone sought : Key) :
    (table.delete gone).find? sought = if sought = gone then none else table.find? sought := by
  unfold find? delete
  rw [List.find?_filter]
  split
  · rename_i same
    rw [List.find?_eq_none]
    intro row _
    simp [same]
  · rename_i other
    refine congrArg (fun picks => table.rows.find? picks) (funext fun row => ?_)
    by_cases here : key row = sought
    · simp [here, other]
    · simp [here]

/-- Insert a row, or throw the constraint that refuses it. -/
def insertOrThrow (table : Table key) (row : Row) (constraint : String) : Except String (Table key) :=
  match table.insert? row with
  | some next => .ok next
  | none => .error s!"UNIQUE constraint failed: {constraint}"

theorem insertOrThrow_ok {table next : Table key} {constraint : String} :
    table.insertOrThrow row constraint = .ok next ↔ table.insert? row = some next := by
  unfold insertOrThrow
  split <;> simp_all

end Table

/-- Commit the state a body returns, or roll back when it throws. -/
def transaction {State α : Type*} (body : State → Except String (α × State)) (state : State) :
    Except String α × State :=
  match body state with
  | .ok (result, next) => (.ok result, next)
  | .error message => (.error message, state)

theorem transaction_ok {State α : Type*} {body : State → Except String (α × State)} {state next : State} {result : α} :
    transaction body state = (.ok result, next) ↔ body state = .ok (result, next) := by
  unfold transaction
  split <;> simp_all

theorem transaction_error {State α : Type*} {body : State → Except String (α × State)}
    {state next : State} {message : String} :
    transaction body state = (.error message, next) ↔ body state = .error message ∧ next = state := by
  unfold transaction
  split
  · simp_all
  · simp_all [eq_comm]

end QuarkSelfAI.Foundation

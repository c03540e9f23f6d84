import Mathlib.Data.Rat.Floor
import QuarkSelfAI.Foundation.Checking
import QuarkSelfAI.Foundation.Trim

/-!
# Records of the work journal

`dailyWorkJournalRecord` compacts the white space of every text and cuts it, and keeps the first entries of every list.
A text is a list of UTF-16 code units, so that a cut may leave half of a surrogate pair; a value is what JSON can hold.
-/

namespace QuarkSelfAI.WorkJournal

open Foundation

abbrev CodeUnits := List Nat

def units (text : String) : CodeUnits := text.toList.map Char.toNat

def isSpaceUnit (unit : Nat) : Bool := isSpace (Char.ofNat unit)

inductive JournalValue where
  | null
  | bool (value : Bool)
  | number (value : Rat)
  | text (value : CodeUnits)
  | array (items : List JournalValue)
  | object (members : List (String × JournalValue))

namespace JournalValue

def get : JournalValue → String → Option JournalValue
  | .object members, name => members.lookup name
  | _, _ => none

def isRecord : JournalValue → Bool
  | .object _ => true
  | _ => false

/-- The items of an array. -/
def items? : Option JournalValue → Option (List JournalValue)
  | some (.array items) => some items
  | _ => none

def texts (values : List CodeUnits) : JournalValue := .array (values.map .text)

end JournalValue

/-- `Number(value)`, with no value where it is not finite; whether `new Date(day + 'T12:00:00Z')` is a date; and the
length in bytes of `JSON.stringify(value)`. -/
structure JournalHost where
  toNumber : Option JournalValue → Option Rat
  isNoon : CodeUnits → Bool
  byteLength : JournalValue → Nat

/-- A number is its own number. -/
def JournalHost.Lawful (host : JournalHost) : Prop := ∀ value, host.toNumber (some (.number value)) = some value

/-! ## Texts -/

/-- `value.replace(/\s+/gu, ' ')`; the flag tells that white space came before. -/
def collapse : Bool → CodeUnits → CodeUnits
  | _, [] => []
  | after, unit :: rest =>
    if isSpaceUnit unit then if after then collapse true rest else 0x20 :: collapse true rest
    else unit :: collapse false rest

/-- A text before it is cut. -/
def compacted : Option JournalValue → CodeUnits
  | some (.text value) => trimmed isSpaceUnit (collapse false value)
  | _ => []

def compactText (value : Option JournalValue) (maximum : Nat) : CodeUnits := (compacted value).take maximum

def textList (value : Option JournalValue) (limit maximum : Nat) : List CodeUnits :=
  match JournalValue.items? value with
  | none => []
  | some items => ((items.map fun item => compactText (some item) maximum).filter (· ≠ [])).take limit

def oneOf (listed : List String) (fallback : String) (text : CodeUnits) : CodeUnits :=
  if text ∈ listed.map units then text else units fallback

/-! ## Highlights and sources -/

structure Highlight where
  title : CodeUnits
  summary : CodeUnits
  status : CodeUnits
  outcomes : List CodeUnits
  sourceRefs : List CodeUnits
  confidence : CodeUnits
deriving DecidableEq

structure Source where
  kind : CodeUnits
  status : CodeUnits
  evidenceCount : Nat
  note : CodeUnits
deriving DecidableEq

def highlightStatuses : List String := ["completed", "progressed", "blocked", "decision", "observed"]

def confidenceLevels : List String := ["high", "medium", "low"]

def sourceKinds : List String := ["feishu", "calendar", "dida", "codex", "claude", "dsh", "jira", "gitlab", "local-git"]

def sourceStatuses : List String := ["available", "partial", "unavailable", "not-configured"]

def highlight (item : JournalValue) : Option Highlight :=
  let title := compactText (item.get "title") 200
  if item.isRecord = false ∨ title = [] then none
  else some
    { title
      summary := compactText (item.get "summary") 1000
      status := oneOf highlightStatuses "observed" (compactText (item.get "status") 32)
      outcomes := textList (item.get "outcomes") 12 500
      sourceRefs := textList (item.get "sourceRefs") 12 500
      confidence := oneOf confidenceLevels "low" (compactText (item.get "confidence") 16) }

def evidenceCount (value : Option Rat) : Nat :=
  match value with
  | none => 0
  | some value => (max 0 (min 10000 ⌊value⌋)).toNat

def source (host : JournalHost) (item : JournalValue) : Option Source :=
  let kind := compactText (item.get "kind") 32
  if item.isRecord = false ∨ kind ∉ sourceKinds.map units then none
  else some
    { kind
      status := oneOf sourceStatuses "partial" (compactText (item.get "status") 32)
      evidenceCount := evidenceCount (host.toNumber (item.get "evidenceCount"))
      note := compactText (item.get "note") 500 }

/-- `value.slice(0, 20).flatMap(..)`. -/
def entries {Entry : Type} (read : JournalValue → Option Entry) (value : Option JournalValue) : List Entry :=
  (((JournalValue.items? value).getD []).take 20).filterMap read

/-! ## Records -/

structure DailyWorkJournalRecord where
  day : CodeUnits
  headline : CodeUnits
  highlights : List Highlight
  decisions : List CodeUnits
  deliverables : List CodeUnits
  collaboration : List CodeUnits
  nextSteps : List CodeUnits
  sources : List Source
  gaps : List CodeUnits
deriving DecidableEq

def Highlight.value (entry : Highlight) : JournalValue :=
  .object [("title", .text entry.title), ("summary", .text entry.summary), ("status", .text entry.status),
    ("outcomes", .texts entry.outcomes), ("sourceRefs", .texts entry.sourceRefs), ("confidence", .text entry.confidence)]

def Source.value (entry : Source) : JournalValue :=
  .object [("kind", .text entry.kind), ("status", .text entry.status), ("evidenceCount", .number entry.evidenceCount),
    ("note", .text entry.note)]

/-- The record as JSON has it. -/
def DailyWorkJournalRecord.value (record : DailyWorkJournalRecord) : JournalValue :=
  .object [("version", .number 1), ("day", .text record.day), ("headline", .text record.headline),
    ("highlights", .array (record.highlights.map Highlight.value)), ("decisions", .texts record.decisions),
    ("deliverables", .texts record.deliverables), ("collaboration", .texts record.collaboration),
    ("nextSteps", .texts record.nextSteps), ("sources", .array (record.sources.map Source.value)),
    ("gaps", .texts record.gaps)]

def isDigitUnit (unit : Nat) : Bool := 0x30 ≤ unit && unit ≤ 0x39

/-- `/^\d{4}-\d{2}-\d{2}$/u`. -/
def dayPattern : CodeUnits → Bool
  | [y₁, y₂, y₃, y₄, 0x2D, m₁, m₂, 0x2D, d₁, d₂] => [y₁, y₂, y₃, y₄, m₁, m₂, d₁, d₂].all isDigitUnit
  | _ => false

def workJournalDay (host : JournalHost) (value : Option JournalValue) (name : String) : Except String CodeUnits :=
  match value with
  | some (.text day) =>
    if dayPattern day && host.isNoon day then .ok day
    else .error s!"{name} must be a calendar date in YYYY-MM-DD format"
  | _ => .error s!"{name} must be a calendar date in YYYY-MM-DD format"

def isFirstVersion : Option JournalValue → Bool
  | some (.number value) => value = 1
  | _ => false

/-- A text that `trim` leaves something of. -/
def isHeadline : Option JournalValue → Bool
  | some (.text value) => trimmed isSpaceUnit value ≠ []
  | _ => false

def arrayFields : List String :=
  ["highlights", "decisions", "deliverables", "collaboration", "nextSteps", "sources", "gaps"]

def normalized (host : JournalHost) (value : JournalValue) (day : CodeUnits) : DailyWorkJournalRecord where
  day
  headline := compactText (value.get "headline") 300
  highlights := entries highlight (value.get "highlights")
  decisions := textList (value.get "decisions") 20 500
  deliverables := textList (value.get "deliverables") 20 500
  collaboration := textList (value.get "collaboration") 20 500
  nextSteps := textList (value.get "nextSteps") 20 500
  sources := entries (source host) (value.get "sources")
  gaps := textList (value.get "gaps") 20 500

def dailyWorkJournalRecord (host : JournalHost) (value : JournalValue) : Except String DailyWorkJournalRecord := do
  throwIf (value.isRecord = false) "record must be an object"
  let day ← workJournalDay host (value.get "day") "day"
  throwIf (isFirstVersion (value.get "version") = false ∨ isHeadline (value.get "headline") = false)
    "record version and headline are required"
  arrayFields.forM fun field =>
    throwIf (JournalValue.items? (value.get field) = none) s!"record.{field} must be an array"
  let record := normalized host value day
  throwIf (128 * 1024 < host.byteLength record.value) "record exceeds the 128 KiB limit"
  return record

/-! ## Texts that are cut again -/

theorem length_collapse_le (after : Bool) (text : CodeUnits) : (collapse after text).length ≤ text.length := by
  fun_induction collapse after text with
  | case1 => exact Nat.le_refl 0
  | case2 unit rest space ih => exact ih.trans (Nat.le_succ _)
  | case3 after unit rest space fresh ih | case4 after unit rest visible ih => exact Nat.succ_le_succ ih

theorem collapse_collapse (after : Bool) (text : CodeUnits) : collapse after (collapse after text) = collapse after text := by
  have space : isSpaceUnit 0x20 = true := by decide
  fun_induction collapse after text with
  | case1 => rfl
  | case2 unit rest blank ih => exact ih
  | case3 after unit rest blank fresh ih => simp [collapse, space, fresh, ih]
  | case4 after unit rest visible ih => simp [collapse, visible, ih]

theorem mem_collapse {after : Bool} {unit : Nat} {text : CodeUnits} (visible : isSpaceUnit unit = false)
    (listed : unit ∈ text) : unit ∈ collapse after text := by
  fun_induction collapse after text with
  | case1 => exact listed
  | case2 first rest blank ih =>
    rcases List.mem_cons.mp listed with rfl | later
    · rw [blank] at visible
      cases visible
    · exact ih later
  | case3 after first rest blank fresh ih =>
    rcases List.mem_cons.mp listed with rfl | later
    · rw [blank] at visible
      cases visible
    · exact List.mem_cons_of_mem _ (ih later)
  | case4 after first rest visible ih =>
    rcases List.mem_cons.mp listed with rfl | later
    · exact List.mem_cons_self
    · exact List.mem_cons_of_mem _ (ih later)

/-- What stays when it is collapsed begins with no white space after some. -/
theorem collapse_cons {after : Bool} {unit : Nat} {rest : CodeUnits} (stays : collapse after (unit :: rest) = unit :: rest) :
    if isSpaceUnit unit then after = false ∧ collapse true rest = rest else collapse false rest = rest := by
  rw [collapse] at stays
  split
  · rename_i blank
    rw [if_pos blank] at stays
    split at stays
    · have bound := length_collapse_le true rest
      rw [stays, List.length_cons] at bound
      omega
    · rename_i fresh
      exact ⟨by simpa using fresh, (List.cons.inj stays).2⟩
  · rename_i visible
    rw [if_neg visible] at stays
    exact (List.cons.inj stays).2

theorem collapse_take {after : Bool} {text : CodeUnits} (stays : collapse after text = text) (count : Nat) :
    collapse after (text.take count) = text.take count := by
  induction text generalizing after count with
  | nil => simp [collapse]
  | cons unit rest ih =>
    cases count with
    | zero => rfl
    | succ count =>
      have later := collapse_cons stays
      split at later
      · rename_i blank
        have same : unit = 0x20 := by
          rw [collapse, if_pos blank, later.1] at stays
          exact (List.cons.inj stays).1.symm
        rw [List.take_succ_cons, collapse, if_pos blank, later.1, ih later.2, same]
        rfl
      · rename_i visible
        rw [List.take_succ_cons, collapse, if_neg visible, ih later]

theorem collapse_dropWhile {text : CodeUnits} (stays : collapse false text = text) :
    collapse false (text.dropWhile isSpaceUnit) = text.dropWhile isSpaceUnit := by
  cases text with
  | nil => rfl
  | cons unit rest =>
    rw [List.dropWhile_cons]
    split
    · rename_i blank
      have later := collapse_cons stays
      rw [if_pos blank] at later
      cases rest with
      | nil => rfl
      | cons next others =>
        have beyond := collapse_cons later.2
        split at beyond
        · cases beyond.1
        · rename_i visible
          rw [List.dropWhile_cons_of_neg visible, collapse, if_neg visible, beyond]
    · exact stays

theorem collapse_compacted (value : Option JournalValue) : collapse false (compacted value) = compacted value := by
  unfold compacted
  split
  · rename_i text
    obtain ⟨rest, whole⟩ : trimmed isSpaceUnit (collapse false text) <+: _ := trimmed_start _
    have front := collapse_take (collapse_dropWhile (collapse_collapse false text))
      (trimmed isSpaceUnit (collapse false text)).length
    rwa [← whole, List.take_left] at front
  · rfl

theorem compacted_isTrimmed (value : Option JournalValue) : IsTrimmed isSpaceUnit (compacted value) := by
  unfold compacted
  split
  · exact isTrimmed_trimmed _
  · exact ⟨by simp, by simp⟩

/-- The cut does not end behind white space. -/
def Whole (maximum : Nat) (value : Option JournalValue) : Prop :=
  ∀ unit ∈ (compacted value)[maximum - 1]?, isSpaceUnit unit = false

/-- The text that is stored of a value, read again. -/
def again (maximum : Nat) (text : CodeUnits) : CodeUnits := compactText (some (.text text)) maximum

variable {maximum : Nat}

theorem again_compactText (positive : maximum ≠ 0) (value : Option JournalValue) :
    again maximum (compactText value maximum) = compactText value maximum ↔ Whole maximum value := by
  have kept : collapse false (compactText value maximum) = compactText value maximum :=
    collapse_take (collapse_compacted value) maximum
  have short : (compactText value maximum).length ≤ maximum := List.length_take_le _ _
  have head : ∀ unit ∈ (compactText value maximum).head?, isSpaceUnit unit = false := by
    intro unit first
    rw [compactText, List.head?_take, if_neg positive] at first
    exact (compacted_isTrimmed value).first unit first
  have last : (∀ unit ∈ (compactText value maximum).getLast?, isSpaceUnit unit = false) ↔ Whole maximum value := by
    have ends := (compacted_isTrimmed value).last
    rw [compactText, List.getLast?_take, if_neg positive, Whole]
    cases (compacted value)[maximum - 1]? with
    | none => simpa using ends
    | some unit => simp
  rw [← last, again, compactText, compacted, kept]
  constructor
  · intro same
    have longer := congrArg List.length same
    rw [List.length_take] at longer
    have whole : trimmed isSpaceUnit (compactText value maximum) = compactText value maximum := by
      have front : trimmed isSpaceUnit (compactText value maximum) <+: _ := trimmed_start _
      rw [dropWhile_of_head head] at front
      refine front.eq_of_length ?_
      have bound := front.length_le
      omega
    rw [← whole]
    exact (isTrimmed_trimmed _).last
  · intro visible
    have ends : IsTrimmed isSpaceUnit (compactText value maximum) := ⟨head, visible⟩
    rw [ends.trimmed_eq, List.take_of_length_le short]

/-- What is left of a text is not empty when it is read again. -/
theorem again_ne_nil {value : Option JournalValue} (some : compactText value maximum ≠ []) :
    again maximum (compactText value maximum) ≠ [] := by
  have positive : maximum ≠ 0 := by
    rintro rfl
    exact some (List.take_zero)
  have kept : collapse false (compactText value maximum) = compactText value maximum :=
    collapse_take (collapse_compacted value) maximum
  rw [again, compactText, compacted, kept, Ne, List.take_eq_nil_iff, not_or]
  refine ⟨positive, fun none => ?_⟩
  obtain ⟨unit, rest, first⟩ := List.exists_cons_of_ne_nil some
  have blank := trimmed_eq_nil.mp none unit (by rw [first]; exact List.mem_cons_self)
  have visible : isSpaceUnit unit = false := by
    refine (compacted_isTrimmed value).first unit ?_
    have head : (compactText value maximum).head? = .some unit := by rw [first]; rfl
    rwa [compactText, List.head?_take, if_neg positive] at head
  rw [visible] at blank
  cases blank

/-! ## Lists that are cut again -/

/-- The items of a list that are kept. -/
def keptItems (value : Option JournalValue) (limit maximum : Nat) : List JournalValue :=
  (((JournalValue.items? value).getD []).filter fun item => compactText (some item) maximum ≠ []).take limit

theorem textList_eq (value : Option JournalValue) (limit maximum : Nat) :
    textList value limit maximum = (keptItems value limit maximum).map fun item => compactText (some item) maximum := by
  rw [textList, keptItems]
  cases JournalValue.items? value with
  | none => simp
  | some items =>
    simp only [Option.getD_some, List.filter_map, List.map_take]
    rfl

theorem map_eq_self {α : Type} {change : α → α} {list : List α} :
    list.map change = list ↔ ∀ item ∈ list, change item = item := by
  simpa using (List.map_eq_map_iff (l := list) (f := change) (g := id))

/-- No text of the list is cut behind white space. -/
def WholeList (value : Option JournalValue) (limit maximum : Nat) : Prop :=
  ∀ item ∈ keptItems value limit maximum, Whole maximum (some item)

theorem textList_again (positive : maximum ≠ 0) (value : Option JournalValue) (limit : Nat) :
    textList (some (.texts (textList value limit maximum))) limit maximum = textList value limit maximum ↔
      WholeList value limit maximum := by
  have some : ∀ text ∈ textList value limit maximum, again maximum text ≠ [] := by
    intro text listed
    rw [textList_eq] at listed
    obtain ⟨item, kept, rfl⟩ := List.mem_map.mp listed
    refine again_ne_nil ?_
    simpa using (List.mem_filter.mp (List.mem_of_mem_take kept)).2
  have short : (textList value limit maximum).length ≤ limit := by
    rw [textList_eq, List.length_map]
    exact List.length_take_le _ _
  have once : textList (.some (.texts (textList value limit maximum))) limit maximum =
      (textList value limit maximum).map (again maximum) := by
    rw [textList]
    simp only [JournalValue.texts, JournalValue.items?, List.map_map]
    rw [List.filter_eq_self.mpr, List.take_of_length_le (by simpa using short)]
    · rfl
    · intro text listed
      obtain ⟨before, member, rfl⟩ := List.mem_map.mp listed
      exact decide_eq_true (some before member)
  rw [once, map_eq_self, textList_eq]
  simp only [List.forall_mem_map]
  exact forall₂_congr fun item _ => again_compactText positive _

/-- The entries that are read of entries, when each of them is read as one. -/
theorem entries_again {Entry : Type} (read : JournalValue → Option Entry) (write : Entry → JournalValue)
    (change : Entry → Entry) (value : Option JournalValue)
    (reads : ∀ item entry, read item = some entry → read (write entry) = some (change entry)) :
    entries read (some (.array ((entries read value).map write))) = entries read value ↔
      ∀ item ∈ ((JournalValue.items? value).getD []).take 20, ∀ entry, read item = some entry → change entry = entry := by
  have short : (entries read value).length ≤ 20 := (List.length_filterMap_le _ _).trans (List.length_take_le _ _)
  have once : entries read (some (.array ((entries read value).map write))) = (entries read value).map change := by
    have known : ∀ entry ∈ entries read value, read (write entry) = some (change entry) := by
      intro entry listed
      obtain ⟨item, -, found⟩ := List.mem_filterMap.mp listed
      exact reads item entry found
    rw [entries, JournalValue.items?, Option.getD_some, List.take_of_length_le (by simpa using short), List.filterMap_map]
    generalize entries read value = listed at known
    induction listed with
    | nil => rfl
    | cons entry rest ih =>
      obtain ⟨here, later⟩ := List.forall_mem_cons.mp known
      rw [List.filterMap_cons, Function.comp_apply, here, ih later, List.map_cons]
  rw [once, map_eq_self, entries]
  simp only [List.mem_filterMap, forall_exists_index, and_imp]
  exact ⟨fun all item listed entry found => all entry item listed found,
    fun all entry item listed found => all item listed entry found⟩

theorem oneOf_again {listed : List String} {fallback : String} (known : fallback ∈ listed)
    (short : ∀ text ∈ listed, again maximum (units text) = units text) (text : CodeUnits) :
    oneOf listed fallback (again maximum (oneOf listed fallback text)) = oneOf listed fallback text := by
  have member : ∃ name ∈ listed, units name = oneOf listed fallback text := by
    rw [oneOf]
    split
    · rename_i found
      exact List.mem_map.mp found
    · exact ⟨fallback, known, rfl⟩
  obtain ⟨name, found, same⟩ := member
  rw [← same, short name found, oneOf, if_pos (List.mem_map_of_mem found)]

/-! ## Entries that are read again -/

def Highlight.again (entry : Highlight) : Highlight :=
  { entry with
    title := WorkJournal.again 200 entry.title
    summary := WorkJournal.again 1000 entry.summary
    outcomes := textList (some (.texts entry.outcomes)) 12 500
    sourceRefs := textList (some (.texts entry.sourceRefs)) 12 500 }

def WholeHighlight (item : JournalValue) : Prop :=
  Whole 200 (item.get "title") ∧ Whole 1000 (item.get "summary") ∧ WholeList (item.get "outcomes") 12 500 ∧
    WholeList (item.get "sourceRefs") 12 500

theorem highlight_again {item : JournalValue} {entry : Highlight} (read : highlight item = some entry) :
    highlight entry.value = some entry.again ∧ (entry.again = entry ↔ WholeHighlight item) := by
  have status : ∀ text, oneOf highlightStatuses "observed" (again 32 (oneOf highlightStatuses "observed" text)) = _ :=
    oneOf_again (by decide) (by decide +kernel)
  have confidence : ∀ text, oneOf confidenceLevels "low" (again 16 (oneOf confidenceLevels "low" text)) = _ :=
    oneOf_again (by decide) (by decide +kernel)
  rw [highlight] at read
  split at read
  · cases read
  · rename_i kept
    cases read
    have title := again_ne_nil (not_or.mp kept).2
    constructor
    · rw [highlight, if_neg]
      · rw [Option.some.injEq, Highlight.again, Highlight.mk.injEq]
        exact ⟨rfl, rfl, status _, rfl, rfl, confidence _⟩
      · rw [not_or]
        exact ⟨by simp [Highlight.value, JournalValue.isRecord], title⟩
    · simp only [Highlight.again, Highlight.mk.injEq, true_and, and_true, WholeHighlight,
        again_compactText (by decide : 200 ≠ 0), again_compactText (by decide : 1000 ≠ 0),
        textList_again (by decide : 500 ≠ 0)]

def Source.again (entry : Source) : Source := { entry with note := WorkJournal.again 500 entry.note }

theorem evidenceCount_own {count : Nat} (bounded : count ≤ 10000) : evidenceCount (some (count : Rat)) = count := by
  simp only [evidenceCount, Int.floor_natCast]
  omega

theorem source_again {host : JournalHost} (lawful : host.Lawful) {item : JournalValue} {entry : Source}
    (read : source host item = some entry) :
    source host entry.value = some entry.again ∧ (entry.again = entry ↔ Whole 500 (item.get "note")) := by
  have status : ∀ text, oneOf sourceStatuses "partial" (again 32 (oneOf sourceStatuses "partial" text)) = _ :=
    oneOf_again (by decide) (by decide +kernel)
  have known : ∀ kind ∈ sourceKinds.map units, again 32 kind = kind := by decide +kernel
  rw [source] at read
  split at read
  · cases read
  · rename_i kept
    cases read
    have kind := known _ (not_not.mp (not_or.mp kept).2)
    have bounded : evidenceCount (host.toNumber (item.get "evidenceCount")) ≤ 10000 := by
      unfold evidenceCount
      split
      · exact Nat.zero_le _
      · omega
    constructor
    · rw [source, if_neg]
      · rw [Option.some.injEq, Source.again, Source.mk.injEq]
        exact ⟨kind, status _, (congrArg evidenceCount (lawful _)).trans (evidenceCount_own bounded), rfl⟩
      · rw [not_or, not_not]
        refine ⟨by simp [Source.value, JournalValue.isRecord], ?_⟩
        change again 32 (compactText (item.get "kind") 32) ∈ _
        rw [kind]
        exact not_not.mp (not_or.mp kept).2
    · simp only [Source.again, Source.mk.injEq, true_and, again_compactText (by decide : 500 ≠ 0)]

/-! ## Records that are read again -/

def listFields : List String := ["decisions", "deliverables", "collaboration", "nextSteps", "gaps"]

/-- No text that the record keeps is cut behind white space. -/
structure WholeRecord (host : JournalHost) (value : JournalValue) : Prop where
  headline : Whole 300 (value.get "headline")
  highlights : ∀ item ∈ ((JournalValue.items? (value.get "highlights")).getD []).take 20, ∀ entry,
    highlight item = some entry → WholeHighlight item
  sources : ∀ item ∈ ((JournalValue.items? (value.get "sources")).getD []).take 20, ∀ entry,
    source host item = some entry → Whole 500 (item.get "note")
  lists : ∀ field ∈ listFields, WholeList (value.get field) 20 500

variable {host : JournalHost} {value : JournalValue} {record : DailyWorkJournalRecord}

theorem dailyWorkJournalRecord_ok : dailyWorkJournalRecord host value = .ok record ↔
    value.isRecord = true ∧ ∃ day, workJournalDay host (value.get "day") "day" = .ok day ∧
      isFirstVersion (value.get "version") = true ∧ isHeadline (value.get "headline") = true ∧
      (∀ field ∈ arrayFields, JournalValue.items? (value.get field) ≠ none) ∧
      host.byteLength (normalized host value day).value ≤ 128 * 1024 ∧ normalized host value day = record := by
  have fields : ∀ done : PUnit, (arrayFields.forM fun field => throwIf (JournalValue.items? (value.get field) = none)
      s!"record.{field} must be an array") = .ok done ↔
        ∀ field ∈ arrayFields, ¬ JournalValue.items? (value.get field) = none := by
    rintro ⟨⟩
    simp only [forM_ok, throwIf_ok]
  simp only [dailyWorkJournalRecord, bind_ok, throwIf_ok, fields, exists_const, not_or, Bool.not_eq_false, not_lt, ne_eq,
    pure, Except.pure, Except.ok.injEq, and_assoc]

theorem normalized_again (lawful : host.Lawful) (day : CodeUnits) :
    normalized host (normalized host value day).value day = normalized host value day ↔ WholeRecord host value := by
  have highlights := entries_again highlight Highlight.value Highlight.again (value.get "highlights") fun _ _ read =>
    (highlight_again read).1
  have sources := entries_again (source host) Source.value Source.again (value.get "sources") fun _ _ read =>
    (source_again lawful read).1
  have lists : ∀ field, textList (some (.texts (textList (value.get field) 20 500))) 20 500 = _ ↔ _ :=
    fun field => textList_again (by decide) (value.get field) 20
  have headline : again 300 (compactText (value.get "headline") 300) = _ ↔ _ :=
    again_compactText (by decide) (value.get "headline")
  have fieldwise : normalized host (normalized host value day).value day = normalized host value day ↔
      again 300 (compactText (value.get "headline") 300) = compactText (value.get "headline") 300 ∧
      entries highlight (some (.array ((entries highlight (value.get "highlights")).map Highlight.value))) =
        entries highlight (value.get "highlights") ∧
      entries (source host) (some (.array ((entries (source host) (value.get "sources")).map Source.value))) =
        entries (source host) (value.get "sources") ∧
      ∀ field ∈ listFields, textList (some (.texts (textList (value.get field) 20 500))) 20 500 =
        textList (value.get field) 20 500 := by
    rw [normalized, normalized, DailyWorkJournalRecord.mk.injEq]
    simp only [listFields, List.forall_mem_cons]
    constructor
    · rintro ⟨-, own, entered, one, two, three, four, sourced, five⟩
      exact ⟨own, entered, sourced, one, two, three, four, five, nofun⟩
    · rintro ⟨own, entered, sourced, one, two, three, four, five, -⟩
      exact ⟨trivial, own, entered, one, two, three, four, sourced, five⟩
  rw [fieldwise, headline, highlights, sources]
  simp only [lists]
  constructor
  · rintro ⟨own, entered, sourced, listed⟩
    exact ⟨own, fun item member entry read => (highlight_again read).2.mp (entered item member entry read),
      fun item member entry read => (source_again lawful read).2.mp (sourced item member entry read), listed⟩
  · rintro ⟨own, entered, sourced, listed⟩
    exact ⟨own, fun item member entry read => (highlight_again read).2.mpr (entered item member entry read),
      fun item member entry read => (source_again lawful read).2.mpr (sourced item member entry read), listed⟩

/-- A stored record is read as it was stored exactly if no text that it keeps was cut behind white space. -/
theorem dailyWorkJournalRecord_again_iff (lawful : host.Lawful) (accepted : dailyWorkJournalRecord host value = .ok record) :
    dailyWorkJournalRecord host record.value = .ok record ↔ WholeRecord host value := by
  obtain ⟨-, day, dated, version, headed, -, small, rfl⟩ := dailyWorkJournalRecord_ok.mp accepted
  have own : workJournalDay host (some (.text day)) "day" = .ok day := by
    rw [workJournalDay.eq_def] at dated
    split at dated
    · split at dated
      · cases dated
        rw [workJournalDay, if_pos ‹_›]
      · cases dated
    · cases dated
  have visible : isHeadline (some (.text (compactText (value.get "headline") 300))) = true := by
    rw [isHeadline.eq_def] at headed
    split at headed
    · rename_i text found
      have some : compactText (.some (.text text)) 300 ≠ [] := by
        have visible := mt trimmed_eq_nil.mpr (of_decide_eq_true headed)
        obtain ⟨unit, listed, visible⟩ : ∃ unit ∈ text, isSpaceUnit unit = false := by simpa using visible
        rw [compactText, compacted, Ne, List.take_eq_nil_iff, not_or, trimmed_eq_nil]
        refine ⟨by decide, fun blank => ?_⟩
        rw [blank unit (mem_collapse visible listed)] at visible
        cases visible
      have read := again_ne_nil some
      rw [again, compactText, Ne, List.take_eq_nil_iff, not_or, compacted, compactText,
        collapse_take (collapse_compacted _)] at read
      rw [found]
      exact decide_eq_true read.2
    · cases headed
  have arrays : ∀ field ∈ arrayFields, JournalValue.items? ((normalized host value day).value.get field) ≠ none := by
    simp only [arrayFields, List.forall_mem_cons]
    exact ⟨nofun, nofun, nofun, nofun, nofun, nofun, nofun, by simp⟩
  rw [← normalized_again lawful day, dailyWorkJournalRecord_ok]
  constructor
  · rintro ⟨-, other, dated', -, -, -, -, same⟩
    have same_day : other = day := Except.ok.inj (dated'.symm.trans own)
    rwa [same_day] at same
  · intro same
    refine ⟨rfl, day, own, rfl, visible, arrays, ?_, same⟩
    rwa [same]

/-! ## A headline that is cut behind a space -/

/-- A record with a headline and nothing else. -/
def headlineValue (headline : CodeUnits) : JournalValue :=
  DailyWorkJournalRecord.value ⟨units "2026-07-01", headline, [], [], [], [], [], [], []⟩

/-- The bytes of such a record, with one for every code unit of its headline. -/
def sampleHost : JournalHost where
  toNumber
    | some (.number value) => some value
    | _ => none
  isNoon _ := true
  byteLength value := 152 + (compacted (value.get "headline")).length

def longHeadline : CodeUnits := List.replicate 299 0x61 ++ [0x20, 0x62]

/-- The stored headline ends with a space, which the second reading trims. -/
theorem longHeadline_shortened : dailyWorkJournalRecord sampleHost (headlineValue longHeadline) =
        .ok ⟨units "2026-07-01", longHeadline.take 300, [], [], [], [], [], [], []⟩ ∧
      dailyWorkJournalRecord sampleHost (headlineValue (longHeadline.take 300)) =
        .ok ⟨units "2026-07-01", longHeadline.take 299, [], [], [], [], [], [], []⟩ := by
  decide +kernel

theorem shortHeadline_again : dailyWorkJournalRecord sampleHost (headlineValue (units "review")) =
        .ok ⟨units "2026-07-01", units "review", [], [], [], [], [], [], []⟩ ∧
      (dailyWorkJournalRecord sampleHost (headlineValue (units "review")) =
        .ok ⟨units "2026-07-01", units "review", [], [], [], [], [], [], []⟩ ↔
          WholeRecord sampleHost (headlineValue (units "review"))) := by
  have accepted : dailyWorkJournalRecord sampleHost (headlineValue (units "review")) =
      .ok ⟨units "2026-07-01", units "review", [], [], [], [], [], [], []⟩ := by
    decide +kernel
  exact ⟨accepted, dailyWorkJournalRecord_again_iff (fun _ => rfl) accepted⟩

end QuarkSelfAI.WorkJournal

import QuarkSelfAI.Foundation.Trim

/-!
# The summary of a projected task

Every projection writes the content of a task anew: the summary section in front is replaced and what stands behind it
is kept. The section is taken to end at the first heading that follows it, or at the end of the content, so that free
text of the owner without a heading goes with the summary the next time.
-/

namespace QuarkSelfAI.TaskSystem

open Foundation

def summaryHeading : List Char := "## 当前摘要\n".toList

/-- The lookahead `\n\n### |\n\n## `. -/
def startsHeading (text : List Char) : Bool :=
  ['\n', '\n', '#', '#', '#', ' '].isPrefixOf text || ['\n', '\n', '#', '#', ' '].isPrefixOf text

/-- What a lazy match leaves that ends at a heading or at the end of the text. -/
def fromHeading : List Char → List Char
  | [] => []
  | char :: rest => if startsHeading (char :: rest) then char :: rest else fromHeading rest

/-- `content.replace(/^## 当前摘要\n[\s\S]*?(?=\n\n### |\n\n## |$)/, '')`. -/
def withoutSummary (content : List Char) : List Char :=
  if summaryHeading.isPrefixOf content then fromHeading (content.drop summaryHeading.length) else content

def rewriteSummary (content summary : String) : String :=
  let opening := String.ofList (summaryHeading ++ (utf16Take 600 summary).toList)
  let stripped := trim (String.ofList (withoutSummary content.toList))
  if stripped = "" then opening ++ "\n\n## 进展记录" else opening ++ "\n\n" ++ stripped

/-- The summary has a heading of its own. -/
def holdsHeading (summary : String) : Bool := (fromHeading summary.toList).isEmpty = false

/-- What stands beside the summary begins with a heading, if there is anything. -/
def beginsHeaded (text : List Char) : Bool := text.all isSpace || startsHeading ('\n' :: '\n' :: trimmed isSpace text)

/-! ## What a rewrite keeps -/

def emptyRecord : List Char := "## 进展记录".toList

/-- What a rewrite puts behind the new summary. -/
def kept (content : List Char) : List Char :=
  let stripped := trimmed isSpace (withoutSummary content)
  if stripped = [] then emptyRecord else stripped

theorem rewriteSummary_toList (content summary : String) : (rewriteSummary content summary).toList =
    summaryHeading ++ ((utf16Take 600 summary).toList ++ '\n' :: '\n' :: kept content.toList) := by
  have stripped : (trim (String.ofList (withoutSummary content.toList))).toList =
      trimmed isSpace (withoutSummary content.toList) := by
    rw [toList_trim, String.toList_ofList]
  have empty : trim (String.ofList (withoutSummary content.toList)) = "" ↔
      trimmed isSpace (withoutSummary content.toList) = [] := by
    rw [← String.toList_inj, stripped, String.toList_empty]
  rw [rewriteSummary, kept]
  by_cases none : trimmed isSpace (withoutSummary content.toList) = []
  · have marked : "\n\n## 进展记录".toList = '\n' :: '\n' :: emptyRecord := by decide
    rw [if_pos (empty.mpr none), if_pos none, String.toList_append, String.toList_ofList, marked, List.append_assoc]
  · rw [if_neg (none ∘ empty.mp), if_neg none, String.toList_append, String.toList_append, String.toList_ofList, stripped]
    simp

theorem kept_isTrimmed (content : List Char) : IsTrimmed isSpace (kept content) ∧ kept content ≠ [] := by
  rw [kept]
  split
  · have first : emptyRecord.head? = some '#' := by decide
    have last : emptyRecord.getLast? = some '录' := by decide
    refine ⟨⟨fun char known => ?_, fun char known => ?_⟩, by decide⟩
    · cases first.symm.trans known
      decide
    · cases last.symm.trans known
      decide
  · rename_i some
    exact ⟨isTrimmed_trimmed _, some⟩

theorem kept_headed (content : List Char) :
    startsHeading ('\n' :: '\n' :: kept content) = beginsHeaded (withoutSummary content) := by
  rw [kept, beginsHeaded]
  by_cases none : trimmed isSpace (withoutSummary content) = []
  · have blank : (withoutSummary content).all isSpace = true := List.all_eq_true.mpr (trimmed_eq_nil.mp none)
    rw [if_pos none, blank, Bool.true_or]
    decide
  · have visible : (withoutSummary content).all isSpace = false := by
      rw [← Bool.not_eq_true, List.all_eq_true]
      exact fun blank => none (trimmed_eq_nil.mpr blank)
    rw [if_neg none, visible, Bool.false_or]

/-! ## Where the section ends -/

/-- A blank line and what begins like no heading do not complete one. -/
theorem startsHeading_append (char : Char) (rest ending : List Char) :
    startsHeading (char :: rest ++ '\n' :: '\n' :: ending) = startsHeading (char :: rest) := by
  rcases rest with _ | ⟨second, _ | ⟨third, _ | ⟨fourth, _ | ⟨fifth, _ | ⟨sixth, rest⟩⟩⟩⟩⟩ <;>
    simp [startsHeading, List.isPrefixOf]

/-- A heading in the front ends the section there. -/
theorem fromHeading_front {front : List Char} (ending : List Char) (heading : fromHeading front ≠ []) :
    fromHeading (front ++ '\n' :: '\n' :: ending) = fromHeading front ++ '\n' :: '\n' :: ending := by
  induction front with
  | nil => exact absurd rfl heading
  | cons char rest ih =>
    have same := startsHeading_append char rest ending
    rw [List.cons_append] at same ⊢
    rw [fromHeading] at heading ⊢
    rw [fromHeading, same]
    split
    · rfl
    · rename_i plain
      rw [if_neg plain] at heading
      exact ih heading

/-- Without one the section ends behind the front. -/
theorem fromHeading_behind {front : List Char} (ending : List Char) (plain : fromHeading front = []) :
    fromHeading (front ++ '\n' :: '\n' :: ending) = fromHeading ('\n' :: '\n' :: ending) := by
  induction front with
  | nil => rfl
  | cons char rest ih =>
    have same := startsHeading_append char rest ending
    rw [List.cons_append] at same ⊢
    rw [fromHeading] at plain
    rw [fromHeading, same]
    split
    · rename_i heading
      rw [if_pos heading] at plain
      cases plain
    · rename_i other
      rw [if_neg other] at plain
      exact ih plain

theorem fromHeading_starts (text : List Char) : fromHeading text = [] ∨ startsHeading (fromHeading text) = true := by
  induction text with
  | nil => exact .inl rfl
  | cons char rest ih =>
    rw [fromHeading]
    split
    · rename_i heading
      exact .inr heading
    · exact ih

theorem length_fromHeading_le (text : List Char) : (fromHeading text).length ≤ text.length := by
  induction text with
  | nil => exact Nat.le_refl 0
  | cons char rest ih =>
    rw [fromHeading]
    split
    · exact Nat.le_refl _
    · exact ih.trans (Nat.le_succ _)

/-- What begins with a visible character is cut when it is read on to a heading. -/
theorem length_fromHeading_lt {text : List Char} (ends : IsTrimmed isSpace text) (some : text ≠ []) :
    (fromHeading text).length < text.length := by
  cases text with
  | nil => exact absurd rfl some
  | cons char rest =>
    have visible : char ≠ '\n' := by
      rintro rfl
      exact absurd (ends.first '\n' rfl) (by decide)
    have plain : startsHeading (char :: rest) = false := by
      simp [startsHeading, List.isPrefixOf, Ne.symm visible]
    rw [fromHeading, plain]
    exact Nat.lt_succ_of_le (length_fromHeading_le rest)

/-- A heading is visible. -/
theorem startsHeading_visible {text : List Char} (heading : startsHeading text = true) : trimmed isSpace text ≠ [] := by
  intro none
  have blank := trimmed_eq_nil.mp none
  rcases text with _ | ⟨first, _ | ⟨second, _ | ⟨third, rest⟩⟩⟩ <;>
    simp only [startsHeading, List.isPrefixOf, Bool.or_eq_true, Bool.and_eq_true, beq_iff_eq, Bool.false_eq_true,
      and_false, or_self] at heading
  have mark : third = '#' := by
    rcases heading with ⟨-, -, same, -⟩ | ⟨-, -, same, -⟩ <;> exact same.symm
  have space := blank third (by simp)
  rw [mark] at space
  exact absurd space (by decide)

/-! ## Rewriting twice -/

theorem withoutSummary_section (summary ending : List Char) :
    withoutSummary (summaryHeading ++ (summary ++ '\n' :: '\n' :: ending)) =
      fromHeading (summary ++ '\n' :: '\n' :: ending) := by
  rw [withoutSummary, if_pos (List.isPrefixOf_iff_prefix.mpr (List.prefix_append _ _)), List.drop_left]

/-- A second rewrite keeps what the first one put behind the summary exactly if the section ends there. -/
theorem kept_section {summary ending : List Char} (ends : IsTrimmed isSpace ending) (some : ending ≠ []) :
    kept (summaryHeading ++ (summary ++ '\n' :: '\n' :: ending)) = ending ↔
      startsHeading ('\n' :: '\n' :: ending) = true ∧ fromHeading summary = [] := by
  have newlines : ∀ char ∈ ['\n', '\n'], isSpace char = true := List.all_eq_true.mp (by decide)
  rw [kept, withoutSummary_section]
  by_cases plain : fromHeading summary = []
  · rw [fromHeading_behind ending plain]
    by_cases headed : startsHeading ('\n' :: '\n' :: ending) = true
    · have whole : trimmed isSpace ('\n' :: '\n' :: ending) = ending :=
        (trimmed_space_append newlines ending).trans ends.trimmed_eq
      rw [fromHeading, if_pos headed, whole, if_neg some]
      simp [headed, plain]
    · have single : startsHeading ('\n' :: ending) = false := by
        cases ending with
        | nil => exact absurd rfl some
        | cons char rest =>
          have visible : char ≠ '\n' := by
            rintro rfl
            exact absurd (ends.first '\n' rfl) (by decide)
          simp [startsHeading, List.isPrefixOf, Ne.symm visible]
      have shorter := length_fromHeading_lt ends some
      rw [fromHeading, if_neg headed, fromHeading, single]
      simp only [headed, Bool.false_eq_true, if_false, false_and, iff_false]
      split
      · rintro rfl
        exact headed (by decide)
      · intro same
        have bound : (trimmed isSpace (fromHeading ending)).length ≤ _ := length_trimmed_le _
        rw [same] at bound
        omega
  · have headed := (fromHeading_starts summary).resolve_left plain
    rw [fromHeading_front ending plain]
    simp only [plain, and_false, iff_false]
    have longer : trimmed isSpace (fromHeading summary ++ '\n' :: '\n' :: ending) =
        (fromHeading summary ++ ['\n', '\n']).dropWhile isSpace ++ ending := by
      have split : fromHeading summary ++ '\n' :: '\n' :: ending =
          (fromHeading summary ++ ['\n', '\n']) ++ ending := by simp
      rw [split, trimmed_append _ ends some]
    rw [longer, if_neg (by simp [some])]
    intro same
    have blank : (fromHeading summary ++ ['\n', '\n']).dropWhile isSpace = [] := by
      have lengths := congrArg List.length same
      rw [List.length_append] at lengths
      exact List.eq_nil_of_length_eq_zero (by omega)
    refine startsHeading_visible headed (trimmed_eq_nil.mpr fun char listed => ?_)
    exact List.dropWhile_eq_nil_iff.mp blank char (List.mem_append_left _ listed)

/-- Rewriting the summary twice is rewriting it once exactly if what stands beside the first summary begins with a
heading and the summary between has none. -/
theorem rewriteSummary_twice_iff (content first second : String) :
    rewriteSummary (rewriteSummary content first) second = rewriteSummary content second ↔
      beginsHeaded (withoutSummary content.toList) = true ∧ holdsHeading (utf16Take 600 first) = false := by
  obtain ⟨ends, some⟩ := kept_isTrimmed content.toList
  have again : _ = kept content.toList ↔ _ ∧ fromHeading (utf16Take 600 first).toList = [] := kept_section ends some
  rw [kept_headed] at again
  have plain : holdsHeading (utf16Take 600 first) = false ↔ fromHeading (utf16Take 600 first).toList = [] := by
    simp [holdsHeading]
  rw [plain, ← again, ← String.toList_inj, rewriteSummary_toList, rewriteSummary_toList, rewriteSummary_toList,
    List.append_cancel_left_eq, List.append_cancel_left_eq]
  simp only [List.cons.injEq, true_and]

/-- Free text of the owner is gone after the second projection. -/
theorem freeText_deleted : rewriteSummary (rewriteSummary "milk" "a") "b" ≠ rewriteSummary "milk" "b" := by
  decide +kernel

end QuarkSelfAI.TaskSystem

import QuarkSelfAI.Foundation.Text

/-!
# ISO timestamps

An instant is a number of milliseconds since 1970, and `toISOString` is its
canonical text. The calendar counts years from March, so that the leap day is
the last day of its year; a day determines its date and a date its day.
-/

namespace QuarkSelfAI.Foundation

/-- Milliseconds since 1970-01-01T00:00:00.000Z. -/
abbrev Timestamp := Int

/-- Days from 0000-03-01 to the first of March of a year. -/
def daysBefore (year : Int) : Int := 365 * year + year / 4 - year / 100 + year / 400

/-- The year from March that a day since 0000-03-01 falls in. -/
def marchYear (day : Int) : Int :=
  let guess := day * 400 / 146097
  if daysBefore (guess + 1) ≤ day then guess + 1
  else if day < daysBefore guess then guess - 1
  else guess

theorem marchYear_spec (day : Int) : daysBefore (marchYear day) ≤ day ∧ day < daysBefore (marchYear day + 1) := by
  unfold marchYear
  simp only
  generalize guessed : day * 400 / 146097 = guess
  unfold daysBefore
  split
  · omega
  · split <;> omega

structure CivilDate where
  year : Int
  month : Nat
  day : Nat

/-- The date of a day since 1970-01-01. -/
def civilDate (days : Int) : CivilDate :=
  let day := days + 719468
  let year := marchYear day
  let dayOfYear := (day - daysBefore year).toNat
  let march := (5 * dayOfYear + 2) / 153
  { year := if march < 10 then year else year + 1
    month := if march < 10 then march + 3 else march - 9
    day := dayOfYear - (153 * march + 2) / 5 + 1 }

theorem civilDate_bounds (days : Int) : (civilDate days).month < 100 ∧ (civilDate days).day < 100 := by
  obtain ⟨started, ended⟩ := marchYear_spec (days + 719468)
  simp only [civilDate]
  unfold daysBefore at *
  constructor
  · split <;> omega
  · omega

theorem civilDate_inj {left right : Int} (same : civilDate left = civilDate right) : left = right := by
  obtain ⟨startedLeft, endedLeft⟩ := marchYear_spec (left + 719468)
  obtain ⟨startedRight, endedRight⟩ := marchYear_spec (right + 719468)
  simp only [civilDate, CivilDate.mk.injEq] at same
  obtain ⟨years, months, days⟩ := same
  generalize marchYear (left + 719468) = leftYear at *
  generalize marchYear (right + 719468) = rightYear at *
  have shortLeft : left + 719468 - daysBefore leftYear ≤ 365 := by
    unfold daysBefore at *
    omega
  have shortRight : right + 719468 - daysBefore rightYear ≤ 365 := by
    unfold daysBefore at *
    omega
  generalize leftDay : (left + 719468 - daysBefore leftYear).toNat = dayOfLeft at *
  generalize rightDay : (right + 719468 - daysBefore rightYear).toNat = dayOfRight at *
  -- The month tells the march number, which tells the year and the day.
  have march : (5 * dayOfLeft + 2) / 153 = (5 * dayOfRight + 2) / 153 := by
    split at months <;> split at months <;> omega
  have year : leftYear = rightYear := by
    rw [march] at years
    split at years <;> omega
  have day : dayOfLeft = dayOfRight := by omega
  subst year
  omega

/-! ## Texts -/

/-- Years outside four digits are written with a sign and six. -/
def yearText (year : Int) : List Char :=
  if 0 ≤ year ∧ year < 10000 then pad 4 year.toNat
  else (if 0 ≤ year then '+' else '-') :: pad 6 year.natAbs

/-- What follows the year: twenty characters, whatever the instant. -/
def restText (date : CivilDate) (time : Nat) : List Char :=
  '-' :: (pad 2 date.month ++ '-' :: (pad 2 date.day ++ 'T' :: (pad 2 (time / 3600000) ++
    ':' :: (pad 2 (time / 60000 % 60) ++ ':' :: (pad 2 (time / 1000 % 60) ++ '.' :: (pad 3 (time % 1000) ++ ['Z']))))))

/-- `new Date(instant).toISOString()`, also for instants past the range of `Date`. -/
def toISOString (instant : Int) : String :=
  let date := civilDate (instant / 86400000)
  String.ofList (yearText date.year ++ restText date (instant % 86400000).toNat)

example : toISOString 1709210096789 = "2024-02-29T12:34:56.789Z" := by decide

theorem yearText_inj {left right : Int} (same : yearText left = yearText right) : left = right := by
  have unsigned : ∀ {mark : Char} {value : Nat} {digits : List Char}, mark = '+' ∨ mark = '-' →
      pad 4 value ≠ mark :: digits := by
    intro mark value digits sign equal
    have digit : mark.isDigit := @pad_isDigit 4 value mark (by simp [equal])
    rcases sign with rfl | rfl
    all_goals exact absurd digit (by decide)
  have signs : ∀ year : Int, (if 0 ≤ year then '+' else '-') = '+' ∨ (if 0 ≤ year then '+' else '-') = '-' := by
    intro year
    split
    · exact .inl rfl
    · exact .inr rfl
  unfold yearText at same
  by_cases shortLeft : 0 ≤ left ∧ left < 10000
  · rw [if_pos shortLeft] at same
    by_cases shortRight : 0 ≤ right ∧ right < 10000
    · rw [if_pos shortRight] at same
      have size := pad_inj same
      omega
    · rw [if_neg shortRight] at same
      exact (unsigned (signs right) same).elim
  · rw [if_neg shortLeft] at same
    by_cases shortRight : 0 ≤ right ∧ right < 10000
    · rw [if_pos shortRight] at same
      exact (unsigned (signs left) same.symm).elim
    · rw [if_neg shortRight] at same
      obtain ⟨sign, digits⟩ := List.cons.inj same
      have size := pad_inj digits
      by_cases positive : 0 ≤ left
      · have sameSign : 0 ≤ right := by
          by_contra negative
          simp [positive, negative] at sign
        omega
      · have sameSign : ¬ 0 ≤ right := by
          intro nonnegative
          simp [positive, nonnegative] at sign
        omega

/-- A fixed-width number is read off the front of a text. -/
theorem pad_append_inj {width left right : Nat} {before after : List Char} (positive : 0 < width)
    (fitsLeft : left < 10 ^ width) (fitsRight : right < 10 ^ width)
    (same : pad width left ++ before = pad width right ++ after) : left = right ∧ before = after := by
  have lengths : (pad width left).length = (pad width right).length := by
    rw [length_pad positive fitsLeft, length_pad positive fitsRight]
  obtain ⟨digits, rest⟩ := List.append_inj same lengths
  exact ⟨pad_inj digits, rest⟩

section Rest

variable {left right : CivilDate} {leftTime rightTime : Nat}

theorem restText_length (month : left.month < 100) (day : left.day < 100)
    (time : leftTime < 86400000) : (restText left leftTime).length = 20 := by
  have two : ∀ {value}, value < 100 → (pad 2 value).length = 2 := fun fits => length_pad (by decide) fits
  have three : (pad 3 (leftTime % 1000)).length = 3 := length_pad (by decide) (by omega)
  have hours : leftTime / 3600000 < 100 := by omega
  have minutes : leftTime / 60000 % 60 < 100 := by omega
  have seconds : leftTime / 1000 % 60 < 100 := by omega
  simp [restText, two month, two day, two hours, two minutes, two seconds, three]

theorem restText_inj (month : left.month < 100 ∧ right.month < 100) (day : left.day < 100 ∧ right.day < 100)
    (time : leftTime < 86400000 ∧ rightTime < 86400000) (same : restText left leftTime = restText right rightTime) :
    left.month = right.month ∧ left.day = right.day ∧ leftTime = rightTime := by
  obtain ⟨months, rest⟩ := pad_append_inj (by decide) month.1 month.2 (List.cons.inj same).2
  obtain ⟨days, rest⟩ := pad_append_inj (by decide) day.1 day.2 (List.cons.inj rest).2
  obtain ⟨hours, rest⟩ := pad_append_inj (by decide) (by omega) (by omega) (List.cons.inj rest).2
  obtain ⟨minutes, rest⟩ := pad_append_inj (by decide) (by omega) (by omega) (List.cons.inj rest).2
  obtain ⟨seconds, rest⟩ := pad_append_inj (by decide) (by omega) (by omega) (List.cons.inj rest).2
  obtain ⟨milliseconds, _⟩ := pad_append_inj (by decide) (by omega) (by omega) (List.cons.inj rest).2
  exact ⟨months, days, by omega⟩

end Rest

theorem yearText_chars {year : Int} {char : Char} (listed : char ∈ yearText year) :
    char.isDigit ∨ char = '+' ∨ char = '-' := by
  unfold yearText at listed
  split at listed
  · exact .inl (pad_isDigit listed)
  · rcases List.mem_cons.mp listed with rfl | padded
    · right
      split <;> decide
    · exact .inl (pad_isDigit padded)

/-- The texts of instants hold digits and these marks only. -/
theorem toISOString_chars {instant : Int} {char : Char} (listed : char ∈ (toISOString instant).toList) :
    char.isDigit ∨ char ∈ ['+', '-', 'T', ':', '.', 'Z'] := by
  have digits : ∀ {width value}, char ∈ pad width value → char.isDigit := fun within => pad_isDigit within
  rw [toISOString, String.toList_ofList, List.mem_append] at listed
  rcases listed with year | rest
  · rcases yearText_chars year with digit | rfl | rfl
    · exact .inl digit
    · simp
    · simp
  · simp only [restText, List.mem_cons, List.mem_append, List.not_mem_nil, or_false] at rest ⊢
    rcases rest with rfl | padded | rfl | padded | rfl | padded | rfl | padded | rfl | padded | rfl | padded | rfl
    any_goals exact .inl (digits padded)
    all_goals simp

theorem toISOString_mark (instant : Int) : 'T' ∈ (toISOString instant).toList := by
  simp [toISOString, restText]

/-- Different instants have different texts. -/
theorem toISOString_injective : Function.Injective toISOString := by
  intro left right same
  have boundsLeft := civilDate_bounds (left / 86400000)
  have boundsRight := civilDate_bounds (right / 86400000)
  have timeLeft : (left % 86400000).toNat < 86400000 := by omega
  have timeRight : (right % 86400000).toNat < 86400000 := by omega
  have texts := congrArg String.toList same
  simp only [toISOString, String.toList_ofList] at texts
  have lengths : (restText (civilDate (left / 86400000)) (left % 86400000).toNat).length =
      (restText (civilDate (right / 86400000)) (right % 86400000).toNat).length := by
    rw [restText_length boundsLeft.1 boundsLeft.2 timeLeft, restText_length boundsRight.1 boundsRight.2 timeRight]
  obtain ⟨years, rests⟩ := List.append_inj' texts lengths
  obtain ⟨months, days, times⟩ := restText_inj ⟨boundsLeft.1, boundsRight.1⟩
    ⟨boundsLeft.2, boundsRight.2⟩ ⟨timeLeft, timeRight⟩ rests
  have dates : civilDate (left / 86400000) = civilDate (right / 86400000) := by
    have years := yearText_inj years
    cases leftDate : civilDate (left / 86400000)
    cases rightDate : civilDate (right / 86400000)
    simp_all
  have day : left / 86400000 = right / 86400000 := civilDate_inj dates
  omega

end QuarkSelfAI.Foundation

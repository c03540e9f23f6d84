import Mathlib
import QuarkSelfAI.Foundation.IsoTime

/-!
# The order of ISO timestamps

Texts of the same layout are compared number by number, so the canonical texts of
instants stand in the order of the instants, as long as the years have four
digits. Outside of those years a sign comes first and the order breaks.
-/

namespace QuarkSelfAI.Foundation

/-! ## Numbers of one width -/

theorem digit_bounds {char : Char} (digit : char.isDigit) : 48 ≤ char.toNat ∧ char.toNat ≤ 57 := by
  simp only [Char.isDigit, Bool.and_eq_true, decide_eq_true_eq] at digit
  exact ⟨digit.1, digit.2⟩

theorem ofDigitChars_bound {digits : List Char} (all : ∀ char ∈ digits, char.isDigit) :
    Nat.ofDigitChars 10 digits 0 < 10 ^ digits.length := by
  induction digits with
  | nil => simp
  | cons head rest ih =>
    have bounds := digit_bounds (all head List.mem_cons_self)
    have smaller := ih fun char listed => all char (List.mem_cons_of_mem _ listed)
    have zero : '0'.toNat = 48 := rfl
    have digit : head.toNat - 48 ≤ 9 := by omega
    have scaled : 10 ^ rest.length * (head.toNat - 48) ≤ 10 ^ rest.length * 9 := Nat.mul_le_mul_left _ digit
    rw [Nat.ofDigitChars_cons, Nat.ofDigitChars_eq_ofDigitChars_zero, List.length_cons, pow_succ,
      Nat.mul_zero, Nat.zero_add, zero]
    omega

/-- Digits of one length are compared like the numbers they write. -/
theorem ofDigitChars_lt {left right : List Char} (lengths : left.length = right.length)
    (inLeft : ∀ char ∈ left, char.isDigit) (inRight : ∀ char ∈ right, char.isDigit)
    (less : left < right) : Nat.ofDigitChars 10 left 0 < Nat.ofDigitChars 10 right 0 := by
  induction left generalizing right with
  | nil =>
    cases right with
    | nil => exact absurd less (lt_irrefl _)
    | cons => simp at lengths
  | cons head rest ih =>
    cases right with
    | nil => simp at lengths
    | cons other others =>
      have same : rest.length = others.length := by simpa using lengths
      have restDigits : ∀ char ∈ rest, char.isDigit := fun char listed => inLeft char (List.mem_cons_of_mem _ listed)
      have otherDigits : ∀ char ∈ others, char.isDigit :=
        fun char listed => inRight char (List.mem_cons_of_mem _ listed)
      have zero : '0'.toNat = 48 := rfl
      rw [Nat.ofDigitChars_cons, Nat.ofDigitChars_cons, Nat.ofDigitChars_eq_ofDigitChars_zero,
        @Nat.ofDigitChars_eq_ofDigitChars_zero others, same, zero]
      rcases List.cons_lt_cons_iff.mp less with earlier | ⟨rfl, later⟩
      · have bounds := digit_bounds (inLeft head List.mem_cons_self)
        have order : head.toNat < other.toNat := earlier
        have step : 10 ^ others.length * (head.toNat - 48 + 1) ≤
            10 ^ others.length * (other.toNat - 48) := Nat.mul_le_mul_left _ (by omega)
        have small := ofDigitChars_bound restDigits
        rw [same] at small
        rw [Nat.mul_add, Nat.mul_one] at step
        simp only [Nat.mul_zero, Nat.zero_add]
        omega
      · have smaller := ih same restDigits otherDigits later
        omega

theorem pad_lt {width left right : Nat} (positive : 0 < width) (less : left < right)
    (fits : right < 10 ^ width) : pad width left < pad width right := by
  have read : ∀ value, Nat.ofDigitChars 10 (pad width value) 0 = value := by
    intro value
    rw [pad, Nat.ofDigitChars_append, Nat.ofDigitChars_replicate_zero, Nat.mul_zero, Nat.ofDigitChars_ten_toDigits]
  rcases lt_trichotomy (pad width left) (pad width right) with before | same | behind
  · exact before
  · exact absurd (pad_inj same) (Nat.ne_of_lt less)
  · have lengths : (pad width right).length = (pad width left).length := by
      rw [length_pad positive fits, length_pad positive (less.trans fits)]
    have greater := ofDigitChars_lt lengths (fun _ => pad_isDigit) (fun _ => pad_isDigit) behind
    rw [read, read] at greater
    exact absurd greater (Nat.not_lt_of_gt less)

/-- The first of two numbers of one width that differs decides. -/
theorem pad_append_lt {width left right : Nat} {before after : List Char} (positive : 0 < width)
    (fits : right < 10 ^ width) (less : left < right ∨ left = right ∧ before < after) :
    pad width left ++ before < pad width right ++ after := by
  rcases less with smaller | ⟨rfl, later⟩
  · have lengths : (pad width left).length = (pad width right).length := by
      rw [length_pad positive fits, length_pad positive (smaller.trans fits)]
    have digits := pad_lt positive smaller fits
    generalize pad width left = first at *
    generalize pad width right = second at *
    induction first generalizing second with
    | nil =>
      cases second with
      | nil => exact absurd digits (lt_irrefl _)
      | cons => simp at lengths
    | cons head rest ih =>
      cases second with
      | nil => simp at lengths
      | cons other others =>
        rw [List.cons_append, List.cons_append, List.cons_lt_cons_iff]
        rcases List.cons_lt_cons_iff.mp digits with order | ⟨same, order⟩
        · exact .inl order
        · exact .inr ⟨same, ih _ (by simpa using lengths) order⟩
  · exact List.append_left_lt later

/-! ## Dates -/

/-- A date as one number, in the order of the days. -/
def dateNumber (date : CivilDate) : Int := 10000 * date.year + 100 * date.month + date.day

theorem daysBefore_add_le {year : Int} : daysBefore year + 365 ≤ daysBefore (year + 1) := by
  unfold daysBefore
  omega

theorem daysBefore_add_ge {year : Int} : daysBefore (year + 1) ≤ daysBefore year + 366 := by
  unfold daysBefore
  omega

theorem daysBefore_monotone : Monotone daysBefore :=
  monotone_int_of_le_succ fun year => by
    have grown := @daysBefore_add_le year
    omega

/-- The next day falls in the same year from March or in the next one. -/
theorem marchYear_succ (day : Int) : marchYear (day + 1) = marchYear day ∨ marchYear (day + 1) = marchYear day + 1 := by
  obtain ⟨started, ended⟩ := marchYear_spec day
  obtain ⟨startedNext, endedNext⟩ := marchYear_spec (day + 1)
  rcases lt_trichotomy (marchYear (day + 1)) (marchYear day) with earlier | same | later
  · have bound := daysBefore_monotone (Int.add_one_le_iff.mpr earlier)
    omega
  · exact .inl same
  · right
    by_contra other
    have beyond : marchYear day + 1 + 1 ≤ marchYear (day + 1) := by omega
    have bound := daysBefore_monotone beyond
    have year := @daysBefore_add_le (marchYear day + 1)
    omega

/-- The day of a month number from March, and the year and month it stands for. -/
def marchNumber (year : Int) (march dayOfYear : Nat) : Int :=
  dateNumber
    { year := if march < 10 then year else year + 1
      month := if march < 10 then march + 3 else march - 9
      day := dayOfYear - (153 * march + 2) / 5 + 1 }

/-- Within a year from March, the date number grows with the day. -/
theorem marchNumber_succ (year : Int) (dayOfYear : Nat) : marchNumber year ((5 * dayOfYear + 2) / 153) dayOfYear <
      marchNumber year ((5 * (dayOfYear + 1) + 2) / 153) (dayOfYear + 1) := by
  have months : (5 * (dayOfYear + 1) + 2) / 153 = (5 * dayOfYear + 2) / 153 ∨
      (5 * (dayOfYear + 1) + 2) / 153 = (5 * dayOfYear + 2) / 153 + 1 := by omega
  obtain ⟨low, high⟩ : 153 * ((5 * dayOfYear + 2) / 153) ≤ 5 * dayOfYear + 2 ∧
      5 * dayOfYear + 2 < 153 * ((5 * dayOfYear + 2) / 153) + 153 := by omega
  have next : 153 * ((5 * (dayOfYear + 1) + 2) / 153) ≤ 5 * (dayOfYear + 1) + 2 := by omega
  unfold marchNumber dateNumber
  simp only
  generalize (5 * dayOfYear + 2) / 153 = march at *
  rcases months with same | grown
  · rw [same] at next ⊢
    split <;> omega
  · rw [grown] at next ⊢
    split <;> split <;> omega

theorem dateNumber_strictMono : StrictMono fun days => dateNumber (civilDate days) := by
  refine strictMono_int_of_lt_succ fun days => ?_
  obtain ⟨started, ended⟩ := marchYear_spec (days + 719468)
  obtain ⟨startedNext, endedNext⟩ := marchYear_spec (days + 719468 + 1)
  have years := marchYear_succ (days + 719468)
  have shifted : days + 1 + 719468 = days + 719468 + 1 := by omega
  show marchNumber _ _ _ < marchNumber _ _ _
  simp only [shifted]
  generalize marchYear (days + 719468 + 1) = next at *
  generalize marchYear (days + 719468) = year at *
  obtain ⟨dayOfYear, counted⟩ : ∃ dayOfYear : Nat, days + 719468 - daysBefore year = dayOfYear :=
    Int.eq_ofNat_of_zero_le (by omega)
  rw [counted, Int.toNat_natCast]
  rcases years with rfl | rfl
  · have following : days + 719468 + 1 - daysBefore next = (dayOfYear + 1 : Nat) := by
      push_cast
      omega
    rw [following, Int.toNat_natCast]
    exact marchNumber_succ next dayOfYear
  · -- The last day of February is followed by the first of March.
    have first : days + 719468 + 1 - daysBefore (year + 1) = 0 := by omega
    have last : dayOfYear = 364 ∨ dayOfYear = 365 := by
      have least := @daysBefore_add_le year
      have most := @daysBefore_add_ge year
      omega
    rw [first]
    rcases last with rfl | rfl
    all_goals
      simp [marchNumber, dateNumber]
      omega

/-- An earlier day has the smaller year, month or day of the month. -/
theorem civilDate_lt {left right : Int} (earlier : left < right) : (civilDate left).year < (civilDate right).year ∨
      (civilDate left).year = (civilDate right).year ∧ ((civilDate left).month < (civilDate right).month ∨
          (civilDate left).month = (civilDate right).month ∧ (civilDate left).day < (civilDate right).day) := by
  have numbers := dateNumber_strictMono earlier
  obtain ⟨leftMonth, leftDay⟩ := civilDate_bounds left
  obtain ⟨rightMonth, rightDay⟩ := civilDate_bounds right
  simp only [dateNumber] at numbers
  omega

/-! ## Texts -/

/-- The instants whose year is written with four digits. -/
def FourDigitYear (instant : Int) : Prop :=
  0 ≤ (civilDate (instant / 86400000)).year ∧ (civilDate (instant / 86400000)).year < 10000

instance (instant : Int) : Decidable (FourDigitYear instant) := inferInstanceAs (Decidable (_ ∧ _))

theorem clock_lt {left right : Nat} (earlier : left < right) :
    left / 3600000 < right / 3600000 ∨ left / 3600000 = right / 3600000 ∧
      (left / 60000 % 60 < right / 60000 % 60 ∨ left / 60000 % 60 = right / 60000 % 60 ∧
        (left / 1000 % 60 < right / 1000 % 60 ∨ left / 1000 % 60 = right / 1000 % 60 ∧
          left % 1000 < right % 1000)) := by
  omega

theorem mark_lt {mark : Char} {before after : List Char} (less : before < after) : mark :: before < mark :: after :=
  List.cons_lt_cons_iff.mpr (.inr ⟨rfl, less⟩)

/-- The clock behind the date, of one layout for all instants. -/
theorem clockText_lt {left right : Nat} {date : List Char} (bound : right < 86400000) (earlier : left < right) :
    date ++ 'T' :: (pad 2 (left / 3600000) ++ ':' :: (pad 2 (left / 60000 % 60) ++
        ':' :: (pad 2 (left / 1000 % 60) ++ '.' :: (pad 3 (left % 1000) ++ ['Z'])))) <
      date ++ 'T' :: (pad 2 (right / 3600000) ++ ':' :: (pad 2 (right / 60000 % 60) ++
        ':' :: (pad 2 (right / 1000 % 60) ++ '.' :: (pad 3 (right % 1000) ++ ['Z'])))) := by
  have hours : right / 3600000 < 10 ^ 2 := by omega
  have minutes : right / 60000 % 60 < 10 ^ 2 := by omega
  have seconds : right / 1000 % 60 < 10 ^ 2 := by omega
  have thousandths : right % 1000 < 10 ^ 3 := by omega
  refine List.append_left_lt (mark_lt (pad_append_lt (by decide) hours ?_))
  refine (clock_lt earlier).imp_right fun later => ⟨later.1, mark_lt ?_⟩
  refine pad_append_lt (by decide) minutes (later.2.imp_right fun later => ⟨later.1, mark_lt ?_⟩)
  refine pad_append_lt (by decide) seconds (later.2.imp_right fun later => ⟨later.1, mark_lt ?_⟩)
  exact pad_append_lt (by decide) thousandths (.inl later.2)

theorem restText_lt {left right : CivilDate} {leftTime rightTime : Nat}
    (month : right.month < 100) (day : right.day < 100) (bound : rightTime < 86400000)
    (earlier : left.month < right.month ∨ left.month = right.month ∧
      (left.day < right.day ∨ left.day = right.day ∧ leftTime < rightTime)) :
    restText left leftTime < restText right rightTime := by
  refine mark_lt (pad_append_lt (by decide) month (earlier.imp_right fun later => ⟨later.1, ?_⟩))
  refine mark_lt (pad_append_lt (by decide) day (later.2.imp_right fun later => ⟨later.1, ?_⟩))
  exact @clockText_lt leftTime rightTime [] bound later.2

/-- With years of four digits, canonical texts stand in the order of their instants. -/
theorem toISOString_lt {left right : Int} (leftYear : FourDigitYear left)
    (rightYear : FourDigitYear right) (earlier : left < right) : toISOString left < toISOString right := by
  obtain ⟨month, day⟩ := civilDate_bounds (right / 86400000)
  have bound : (right % 86400000).toNat < 86400000 := by omega
  have parts : left / 86400000 < right / 86400000 ∨ left / 86400000 = right / 86400000 ∧
      (left % 86400000).toNat < (right % 86400000).toNat := by omega
  rw [String.lt_iff_toList_lt]
  obtain ⟨leftLow, leftHigh⟩ := leftYear
  obtain ⟨rightLow, rightHigh⟩ := rightYear
  simp only [toISOString, String.toList_ofList, yearText]
  rw [if_pos ⟨leftLow, leftHigh⟩, if_pos ⟨rightLow, rightHigh⟩]
  refine pad_append_lt (by decide) (by omega) ?_
  rcases parts with days | ⟨sameDay, times⟩
  · rcases civilDate_lt days with years | ⟨sameYear, dates⟩
    · exact .inl (by omega)
    · refine .inr ⟨by rw [sameYear], restText_lt month day bound ?_⟩
      exact dates.imp_right fun later => ⟨later.1, .inl later.2⟩
  · rw [sameDay]
    exact .inr ⟨rfl, restText_lt month day bound (.inr ⟨rfl, .inr ⟨rfl, times⟩⟩)⟩

theorem toISOString_le_iff {left right : Int} (leftYear : FourDigitYear left)
    (rightYear : FourDigitYear right) : toISOString left ≤ toISOString right ↔ left ≤ right := by
  rcases lt_trichotomy left right with earlier | rfl | later
  · exact iff_of_true (toISOString_lt leftYear rightYear earlier).le earlier.le
  · exact iff_of_true le_rfl le_rfl
  · exact iff_of_false (toISOString_lt rightYear leftYear later).not_ge later.not_ge

end QuarkSelfAI.Foundation

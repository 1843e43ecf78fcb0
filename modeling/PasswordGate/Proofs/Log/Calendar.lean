import PasswordGate.Log.Calendar
/-!
# Calendar laws — a day's date counts back to the day

`Calendar.daysBeforeYear` grows by the days of each year, and `Calendar.daysBeforeMonth` by those of each month, so
`Date.toDay` counts days as the calendar does.  `Date.ofDay` is its inverse: the date of a day is one that the calendar
has, and counts back to that day (`regular_ofDay`, `toDay_ofDay`).  Counting days keeps the order of dates, year before
month before day (`toDay_lt_toDay_iff`).
-/
namespace PasswordGate
namespace Calendar

def yearLength (leap : Bool) : Nat := if leap then 366 else 365

/-! ## Years -/

theorem daysBeforeYear_succ (year : Int) :
    daysBeforeYear (year + 1) = daysBeforeYear year + yearLength (isLeap year) := by
  unfold daysBeforeYear yearLength isLeap
  by_cases h4 : year % 4 = 0 <;> by_cases h100 : year % 100 = 0 <;> by_cases h400 : year % 400 = 0 <;>
    simp [h4, h100, h400] <;> omega

theorem daysBeforeYear_mono {year year' : Int} (h : year ≤ year') : daysBeforeYear year ≤ daysBeforeYear year' := by
  unfold daysBeforeYear
  omega

/-- A year by the cycles it lies in: four centuries, a century of them, four years of it, and one year of these. -/
theorem daysBeforeYear_cycles {cycle century four one : Int} (hcentury : 0 ≤ century ∧ century ≤ 3)
    (hfour : 0 ≤ four ∧ four ≤ 24) (hone : 0 ≤ one ∧ one ≤ 3) :
    daysBeforeYear (cycle * 400 + century * 100 + four * 4 + one + 1) =
      cycle * 146097 + century * 36524 + four * 1461 + one * 365 := by
  unfold daysBeforeYear
  omega

/-- **A year of cycles is a leap year** if it is the last of its four, unless these end a century that is not the last. -/
theorem isLeap_cycles {cycle century four one : Int} (hcentury : 0 ≤ century ∧ century ≤ 3)
    (hfour : 0 ≤ four ∧ four ≤ 24) (hone : 0 ≤ one ∧ one ≤ 3) :
    isLeap (cycle * 400 + century * 100 + four * 4 + one + 1) =
      decide (one = 3 ∧ (four = 24 → century = 3)) := by
  have h4 : (cycle * 400 + century * 100 + four * 4 + one + 1) % 4 = 0 ↔ one = 3 := by omega
  have h100 : (cycle * 400 + century * 100 + four * 4 + one + 1) % 100 = 0 ↔ one = 3 ∧ four = 24 := by omega
  have h400 : (cycle * 400 + century * 100 + four * 4 + one + 1) % 400 = 0 ↔ one = 3 ∧ four = 24 ∧ century = 3 := by
    omega
  unfold isLeap
  rw [Bool.eq_iff_iff]
  simp only [Bool.and_eq_true, Bool.or_eq_true, bne_iff_ne, beq_iff_eq, decide_eq_true_eq, ne_eq, h4, h100, h400]
  omega

/-- **The year of a day**: the days before it and the day's number in it make the day, and the number is in the year. -/
theorem yearOf_spec (day : Int) : daysBeforeYear (yearOf day).1 + (yearOf day).2 = day ∧
    (yearOf day).2 < yearLength (isLeap (yearOf day).1) := by
  obtain ⟨rest, hrest⟩ : ∃ rest : Nat, (day % 146097).toNat = rest := ⟨_, rfl⟩
  have hcycle : day = day / 146097 * 146097 + rest ∧ rest < 146097 := by omega
  unfold yearOf
  dsimp only
  rw [hrest]
  generalize hcentury : min (rest / 36524) 3 = century
  generalize hfour : (rest - century * 36524) / 1461 = four
  generalize hone : min ((rest - century * 36524 - four * 1461) / 365) 3 = one
  rw [daysBeforeYear_cycles (by omega) (by omega) (by omega), isLeap_cycles (by omega) (by omega) (by omega)]
  constructor
  · omega
  · unfold yearLength
    simp only [decide_eq_true_eq]
    split <;> omega

/-! ## Months -/

theorem daysBeforeMonth_succ (leap : Bool) {month : Nat} (h : 1 ≤ month) :
    daysBeforeMonth leap (month + 1) = daysBeforeMonth leap month + monthLength leap month := by
  obtain ⟨before, rfl⟩ := Nat.exists_eq_add_of_le' h
  rfl

theorem daysBeforeMonth_year (leap : Bool) : daysBeforeMonth leap 13 = yearLength leap := by
  cases leap <;> rfl

theorem monthLength_le (leap : Bool) (month : Nat) : monthLength leap month ≤ 31 := by
  unfold monthLength
  split
  · split <;> decide
  all_goals decide

theorem daysBeforeMonth_mono (leap : Bool) {month month' : Nat} (h : month ≤ month') :
    daysBeforeMonth leap month ≤ daysBeforeMonth leap month' := by
  induction h with
  | refl => exact Nat.le_refl _
  | @step later h ih =>
    refine Nat.le_trans ih ?_
    cases later with
    | zero => exact Nat.le_refl _
    | succ later => exact Nat.le_add_right _ _

/-- **The month of a day of the year** is one of twelve, and the day lies in it. -/
theorem monthOf_spec (leap : Bool) {dayOfYear : Nat} (h : dayOfYear < yearLength leap) :
    1 ≤ monthOf leap dayOfYear ∧ monthOf leap dayOfYear ≤ 12 ∧
    daysBeforeMonth leap (monthOf leap dayOfYear) ≤ dayOfYear ∧
    dayOfYear < daysBeforeMonth leap (monthOf leap dayOfYear + 1) := by
  have hdays : ∀ leap, ∀ day < yearLength leap, 1 ≤ monthOf leap day ∧ monthOf leap day ≤ 12 ∧
      daysBeforeMonth leap (monthOf leap day) ≤ day ∧ day < daysBeforeMonth leap (monthOf leap day + 1) := by
    decide +kernel
  exact hdays leap dayOfYear h

end Calendar

namespace Date

open Calendar

/-- **A date that the calendar has**: a month of its year, and a day of that month. -/
structure Regular (d : Date) : Prop where
  month : 1 ≤ d.month ∧ d.month ≤ 12
  day : 1 ≤ d.day ∧ d.day ≤ monthLength (isLeap d.year) d.month

variable {d d' : Date}

theorem ofDay_eq (day : Int) : ofDay day =
    { year := (yearOf day).1, month := monthOf (isLeap (yearOf day).1) (yearOf day).2
      day := (yearOf day).2 -
        daysBeforeMonth (isLeap (yearOf day).1) (monthOf (isLeap (yearOf day).1) (yearOf day).2) + 1 } := rfl

theorem regular_ofDay (day : Int) : (ofDay day).Regular := by
  obtain ⟨hfirst, hlast, hle, hlt⟩ := monthOf_spec _ (yearOf_spec day).2
  rw [daysBeforeMonth_succ _ hfirst] at hlt
  rw [ofDay_eq]
  refine ⟨⟨hfirst, hlast⟩, ?_⟩
  dsimp only
  omega

/-- **The date of a day counts back to the day.** -/
theorem toDay_ofDay (day : Int) : (ofDay day).toDay = day := by
  obtain ⟨hday, hyear⟩ := yearOf_spec day
  obtain ⟨-, -, hle, -⟩ := monthOf_spec _ hyear
  rw [ofDay_eq, toDay]
  dsimp only
  omega

/-! ## Order -/

/-- **A date before another one**, by year, by month and by day. -/
def Before (d d' : Date) : Prop :=
  d.year < d'.year ∨ d.year = d'.year ∧ (d.month < d'.month ∨ d.month = d'.month ∧ d.day < d'.day)

theorem before_or_eq_or_before (d d' : Date) : d.Before d' ∨ d = d' ∨ d'.Before d := by
  obtain ⟨year, month, day⟩ := d
  obtain ⟨year', month', day'⟩ := d'
  simp only [Before, Date.mk.injEq]
  omega

/-- A date lies in its year: at or after the first day of it, and before the first of the next. -/
theorem Regular.toDay_bounds (h : d.Regular) :
    daysBeforeYear d.year ≤ d.toDay ∧ d.toDay < daysBeforeYear (d.year + 1) := by
  obtain ⟨⟨hfirst, hlast⟩, hday, hend⟩ := h
  have hmonth := daysBeforeMonth_mono (isLeap d.year) (Nat.succ_le_succ hlast)
  rw [Nat.succ_eq_add_one, daysBeforeMonth_succ _ hfirst, daysBeforeMonth_year] at hmonth
  rw [daysBeforeYear_succ]
  unfold toDay
  omega

/-- **The year of a date is the last that has begun** by its day. -/
theorem Regular.daysBeforeYear_le_iff (h : d.Regular) {year : Int} : daysBeforeYear year ≤ d.toDay ↔ year ≤ d.year := by
  obtain ⟨hfirst, hend⟩ := h.toDay_bounds
  refine ⟨fun hle => Int.not_lt.1 fun hlater => ?_, fun hyear => Int.le_trans (daysBeforeYear_mono hyear) hfirst⟩
  exact Int.not_le.2 hend (Int.le_trans (daysBeforeYear_mono hlater) hle)

/-- **Counting days keeps the order of dates.** -/
theorem Regular.toDay_lt_toDay (h : d.Regular) (h' : d'.Regular) (hbefore : d.Before d') : d.toDay < d'.toDay := by
  rcases hbefore with hyear | ⟨hyear, hmonth | ⟨hmonth, hday⟩⟩
  · calc d.toDay < daysBeforeYear (d.year + 1) := h.toDay_bounds.2
      _ ≤ daysBeforeYear d'.year := daysBeforeYear_mono hyear
      _ ≤ d'.toDay := h'.toDay_bounds.1
  · have hdays := daysBeforeMonth_mono (isLeap d.year) (Nat.succ_le_of_lt hmonth)
    rw [Nat.succ_eq_add_one, daysBeforeMonth_succ _ h.month.1] at hdays
    have hend := h.day.2
    have hfirst := h'.day.1
    unfold toDay
    rw [← hyear]
    omega
  · unfold toDay
    rw [← hyear, ← hmonth]
    omega

theorem Regular.toDay_lt_toDay_iff (h : d.Regular) (h' : d'.Regular) : d.toDay < d'.toDay ↔ d.Before d' := by
  refine ⟨fun hlt => ?_, h.toDay_lt_toDay h'⟩
  rcases before_or_eq_or_before d d' with hbefore | rfl | hafter
  · exact hbefore
  · exact absurd hlt (Int.lt_irrefl _)
  · exact absurd (h'.toDay_lt_toDay h hafter) (Int.lt_asymm hlt)

/-- Different dates are different days. -/
theorem Regular.eq_of_toDay_eq (h : d.Regular) (h' : d'.Regular) (hday : d.toDay = d'.toDay) : d = d' := by
  rcases before_or_eq_or_before d d' with hbefore | heq | hafter
  · exact absurd hday (Int.ne_of_lt (h.toDay_lt_toDay h' hbefore))
  · exact heq
  · exact absurd hday.symm (Int.ne_of_lt (h'.toDay_lt_toDay h hafter))

end Date
end PasswordGate

import Mathlib.Logic.Function.Iterate
import Sahel.Domain.Months
import Sahel.Domain.Pricing

/-!
# One day after another

The calendar's own count of days: a date has a next one, of the same month, the next month or the
next year, and the day number counts them.

* `nextDay` is the next date of the calendar;
* `civil_dayNumber`: the date of a day number is read back, so that the number tells dates apart;
* **`civil_add`**: the date `n` days on is reached by `n` steps;
* `CalendarDate` is a date of a four-digit year, and `parseDate_text` reads its text.
-/

set_option autoImplicit false

namespace Sahel

/-- Year, month and day of a day that there is. -/
structure RealDay (c : ℤ × ℕ × ℕ) : Prop where
  month_ge : 1 ≤ c.2.1
  month_le : c.2.1 ≤ 12
  day_ge : 1 ≤ c.2.2
  day_le : (c.2.2 : ℤ) ≤ daysIn c.2.1 c.1

/-- The day after. -/
def nextDay (c : ℤ × ℕ × ℕ) : ℤ × ℕ × ℕ :=
  if (c.2.2 : ℤ) < daysIn c.2.1 c.1 then (c.1, c.2.1, c.2.2 + 1)
  else if c.2.1 < 12 then (c.1, c.2.1 + 1, 1)
  else (c.1 + 1, 1, 1)

/-- The day number of a date. -/
def dayNumber (c : ℤ × ℕ × ℕ) : ℤ := civilDate c.1 c.2.1 c.2.2

theorem realDay_civil (date : ℤ) : RealDay (civil date) := by
  obtain ⟨hm1, hm12, hd1, -⟩ := civil_bounds date
  exact ⟨hm1, hm12, hd1, (civilDate_civil date).2⟩

/-- Days of a month count from its first. -/
theorem civilDate_day (year : ℤ) (month day : ℕ) :
    civilDate year month day = civilDate year month 1 + (day - 1) := by
  rw [civilDate, civilDate]
  push_cast
  ring

theorem one_le_daysIn (year : ℤ) {month : ℕ} (h1 : 1 ≤ month) (h12 : month ≤ 12) :
    1 ≤ daysIn month year := by
  rw [daysIn_eq year h1 h12]
  split_ifs <;> omega

/-- A later month begins after an earlier one has ended. -/
theorem civilDate_month_le (year : ℤ) {m m' : ℕ} (h1 : 1 ≤ m) (hlt : m < m') (h12 : m' ≤ 12) :
    civilDate year m 1 + daysIn m year ≤ civilDate year m' 1 := by
  induction m', hlt using Nat.le_induction with
  | base => exact (civilDate_succ year h1).ge
  | succ k hk ih =>
    have hstep := civilDate_succ year (show 1 ≤ k by omega)
    have hpos := one_le_daysIn year (show 1 ≤ k by omega) (show k ≤ 12 by omega)
    have hrest := ih (by omega)
    omega

/-- **The day number tells dates apart.** -/
theorem dayNumber_inj {c c' : ℤ × ℕ × ℕ} (hc : RealDay c) (hc' : RealDay c')
    (h : dayNumber c = dayNumber c') : c = c' := by
  obtain ⟨year, month, day⟩ := c
  obtain ⟨year', month', day'⟩ := c'
  obtain ⟨hm1, hm12, hd1, hlast⟩ := hc
  obtain ⟨hm1', hm12', hd1', hlast'⟩ := hc'
  simp only at hm1 hm12 hd1 hlast hm1' hm12' hd1' hlast'
  have hnum : civilDate year month day = civilDate year' month' day' := h
  obtain ⟨hge, hlt, -⟩ := civilDate_bounds hm1 hm12 hd1 hlast
  obtain ⟨hge', hlt', -⟩ := civilDate_bounds hm1' hm12' hd1' hlast'
  have hyear : year = year' := eq_of_yearStart hge hlt (hnum ▸ hge') (hnum ▸ hlt')
  subst hyear
  have hfirst := civilDate_day year month day
  have hfirst' := civilDate_day year month' day'
  have hmonth : month = month' := by
    rcases lt_trichotomy month month' with hmm | hmm | hmm
    · have := civilDate_month_le year hm1 hmm hm12'
      omega
    · exact hmm
    · have := civilDate_month_le year hm1' hmm hm12
      omega
  subst hmonth
  have hday : day = day' := by omega
  rw [hday]

/-- A date is read back from its number. -/
theorem civil_dayNumber {c : ℤ × ℕ × ℕ} (h : RealDay c) : civil (dayNumber c) = c :=
  dayNumber_inj (realDay_civil _) h (civilDate_civil _).1

/-- A year begins when December has ended. -/
theorem civilDate_newYear (year : ℤ) :
    civilDate (year + 1) 1 1 = civilDate year 12 1 + daysIn 12 year := by
  have hsum := yearStart_eq (year + 1)
  have h1970 : daysBeforeYear 1970 = 719528 := by decide
  rw [yearStart] at hsum
  rw [hsum, civilDate, h1970, daysBeforeYear, sum_daysIn year (by omega) le_rfl,
    daysIn_eq year (by omega) le_rfl]
  by_cases hl : isLeap year = true
  · have hleap := isLeap_iff.mp hl
    simp only [hl, if_true]
    norm_num
    omega
  · have hleap : ¬ (year % 4 = 0 ∧ (year % 100 ≠ 0 ∨ year % 400 = 0)) :=
      fun h => hl (isLeap_iff.mpr h)
    simp only [hl, Bool.false_eq_true, if_false]
    norm_num
    omega

/-- **The next day** is a day, and has the next number. -/
theorem nextDay_spec {c : ℤ × ℕ × ℕ} (h : RealDay c) :
    RealDay (nextDay c) ∧ dayNumber (nextDay c) = dayNumber c + 1 := by
  obtain ⟨year, month, day⟩ := c
  obtain ⟨hm1, hm12, hd1, hlast⟩ := h
  simp only at hm1 hm12 hd1 hlast
  have hfirst := civilDate_day year month day
  by_cases hday : (day : ℤ) < daysIn month year
  · have hnext : nextDay (year, month, day) = (year, month, day + 1) := if_pos hday
    have hsecond := civilDate_day year month (day + 1)
    rw [hnext]
    refine ⟨⟨hm1, hm12, Nat.le_add_left 1 day, by push_cast; omega⟩, ?_⟩
    show civilDate year month (day + 1) = civilDate year month day + 1
    push_cast at hsecond
    omega
  · by_cases hmonth : month < 12
    · have hnext : nextDay (year, month, day) = (year, month + 1, 1) := by
        rw [nextDay, if_neg hday, if_pos hmonth]
      have hstep := civilDate_succ year hm1
      rw [hnext]
      refine ⟨⟨Nat.le_add_left 1 month, hmonth, le_rfl, ?_⟩, ?_⟩
      · exact one_le_daysIn year (Nat.le_add_left 1 month) hmonth
      · show civilDate year (month + 1) 1 = civilDate year month day + 1
        omega
    · have hnext : nextDay (year, month, day) = (year + 1, 1, 1) := by
        rw [nextDay, if_neg hday, if_neg hmonth]
      have htwelve : month = 12 := by omega
      subst htwelve
      have hend := civilDate_newYear year
      rw [hnext]
      refine ⟨⟨le_rfl, Nat.one_le_ofNat, le_rfl, one_le_daysIn _ le_rfl Nat.one_le_ofNat⟩, ?_⟩
      show civilDate (year + 1) 1 1 = civilDate year 12 day + 1
      omega

/-- **The calendar counts in day numbers.** -/
theorem civil_succ (date : ℤ) : civil (date + 1) = nextDay (civil date) := by
  obtain ⟨hreal, hnumber⟩ := nextDay_spec (realDay_civil date)
  have hdate : dayNumber (civil date) = date := (civilDate_civil date).1
  rw [← civil_dayNumber hreal, hnumber, hdate]

theorem civil_add (date : ℤ) (n : ℕ) : civil (date + n) = nextDay^[n] (civil date) := by
  induction n with
  | zero => rw [Nat.cast_zero, add_zero, Function.iterate_zero_apply]
  | succ n ih => rw [Function.iterate_succ_apply', ← ih, ← civil_succ, Nat.cast_succ, add_assoc]

/-! ### Dates that are written -/

/-- A date of the years 0000 to 9999. -/
structure CalendarDate where
  year : ℕ
  month : ℕ
  day : ℕ
  year_le : year ≤ 9999
  real : RealDay ((year : ℤ), month, day)

namespace CalendarDate

/-- As year, month and day. -/
def parts (d : CalendarDate) : ℤ × ℕ × ℕ := ((d.year : ℤ), d.month, d.day)

def number (d : CalendarDate) : ℤ := dayNumber d.parts

/-- `YYYY-MM-DD`. -/
def text (d : CalendarDate) : String :=
  padded 4 d.year ++ "-" ++ padded 2 d.month ++ "-" ++ padded 2 d.day

theorem civil_number (d : CalendarDate) : civil d.number = d.parts := civil_dayNumber d.real

/-- **Its text is read** as its number. -/
theorem parseDate_text (d : CalendarDate) : parseDate d.text = some d.number := by
  obtain ⟨hm1, hm12, hd1, hlast⟩ := d.real
  have hyear := d.year_le
  have hlast31 : (d.day : ℤ) ≤ 31 := by
    have hmonth := daysIn_eq d.year hm1 hm12
    simp only at hlast hmonth
    rw [hmonth] at hlast
    split_ifs at hlast <;> omega
  simp only at hm1 hm12 hd1 hlast
  have htext : d.text.toList = digits 4 d.year ++ ('-' :: digits 2 d.month ++ '-' :: digits 2 d.day) := by
    rw [text]
    simp only [String.toList_append, toList_padded (w := 3) (n := d.year) (by omega),
      toList_padded (w := 1) (n := d.month) (by omega), toList_padded (w := 1) (n := d.day) (by omega)]
    simp
  have hy := number?_digits (w := 4) (m := d.year) (by omega)
  have hm := number?_digits (w := 2) (m := d.month) (by omega)
  have hd := number?_digits (w := 2) (m := d.day) (by omega)
  simp only [digits, List.nil_append, List.cons_append] at htext hy hm hd
  rw [parseDate, htext]
  simp only [hy, hm, hd, Option.bind_eq_bind, Option.bind_some]
  exact if_pos ⟨hm1, hm12, hd1, hlast⟩

/-- Steps from one date to another are the difference of their numbers. -/
theorem iterate_nextDay_iff (a b : CalendarDate) (n : ℕ) :
    nextDay^[n] a.parts = b.parts ↔ b.number - a.number = n := by
  rw [← civil_number, ← civil_number, ← civil_add]
  constructor
  · intro h
    have hnumber := congrArg dayNumber h
    have ha := (civilDate_civil (a.number + n)).1
    have hb := (civilDate_civil b.number).1
    have hsame : a.number + n = b.number := ha.symm.trans (hnumber.trans hb)
    omega
  · intro h
    rw [← h, add_sub_cancel]

end CalendarDate

end Sahel

import Sahel.Domain.DateText

/-!
# The months of a year

A year's days are cut into twelve consecutive months, and years follow one another: what makes the
buckets of a report add up.
-/

set_option autoImplicit false

namespace Sahel

theorem yearStart_eq (year : ℤ) : yearStart year
    = 365 * year + (year + 3) / 4 - (year + 99) / 100 + (year + 399) / 400 - 719528 := by
  have h : daysBeforeYear 1970 = 719528 := by decide
  rw [yearStart, civilDate, h, daysBeforeYear]
  simp

/-- The days of the year before a date, and its year's length. -/
theorem civilDate_bounds {year : ℤ} {month day : ℕ} (hm1 : 1 ≤ month) (hm12 : month ≤ 12)
    (hd1 : 1 ≤ day) (hd : (day : ℤ) ≤ daysIn month year) :
    yearStart year ≤ civilDate year month day ∧ civilDate year month day < yearStart (year + 1) ∧
      (2 ≤ month → yearStart year + 31 ≤ civilDate year month day) ∧
      (month = 1 → civilDate year month day = yearStart year + (day - 1)) := by
  have h : daysBeforeYear 1970 = 719528 := by decide
  rw [yearStart_eq, yearStart_eq, civilDate, h, daysBeforeYear, sum_daysIn year hm1 hm12]
  rw [daysIn_eq year hm1 hm12] at hd
  by_cases hl : isLeap year = true
  · have hleap := isLeap_iff.mp hl
    simp only [hl, if_true] at hd ⊢
    split_ifs at hd ⊢ <;> omega
  · have hleap := fun h => hl (isLeap_iff.mpr h)
    simp only [hl, Bool.false_eq_true, if_false] at hd ⊢
    split_ifs at hd ⊢ <;> omega

theorem yearStart_lt {a b : ℤ} (h : a < b) : yearStart a < yearStart b := by
  rw [yearStart_eq, yearStart_eq]
  omega

/-- A date between two New Year's Days is of the first one's year. -/
theorem eq_of_yearStart {y year date : ℤ} (h₁ : yearStart y ≤ date) (h₂ : date < yearStart (y + 1))
    (h₃ : yearStart year ≤ date) (h₄ : date < yearStart (year + 1)) : y = year := by
  rcases lt_trichotomy y year with hlt | heq | hlt
  · rcases (Int.add_one_le_of_lt hlt).lt_or_eq with hlt' | heq'
    · have := yearStart_lt hlt'
      omega
    · rw [heq'] at h₂
      omega
  · exact heq
  · rcases (Int.add_one_le_of_lt hlt).lt_or_eq with hlt' | heq'
    · have := yearStart_lt hlt'
      omega
    · rw [heq'] at h₄
      omega

/-- The first of January is read back as such. -/
theorem civil_yearStart (year : ℤ) : civil (yearStart year) = (year, 1, 1) := by
  obtain ⟨hdate, hlast⟩ := civilDate_civil (yearStart year)
  obtain ⟨hm1, hm12, hd1, -⟩ := civil_bounds (yearStart year)
  obtain ⟨hge, hlt, hlate, hjan⟩ := civilDate_bounds hm1 hm12 hd1 hlast
  rw [hdate] at hge hlt hlate hjan
  have hyear := eq_of_yearStart hge hlt le_rfl (yearStart_lt (Int.lt_succ year))
  rw [hyear] at hlate hjan
  have hm : (civil (yearStart year)).2.1 = 1 := by
    by_contra hne
    have := hlate (by omega)
    omega
  have hd : (civil (yearStart year)).2.2 = 1 := by
    have := hjan hm
    omega
  exact Prod.ext hyear (Prod.ext hm hd)

/-- The first of a year's months, and of the year after it. -/
theorem addMonths_yearStart (year : ℤ) {g : ℕ} (hg : g ≤ 12) :
    addMonths (yearStart year) g = if g = 12 then yearStart (year + 1) else civilDate year (g + 1) 1 := by
  rw [addMonths, civil_yearStart]
  by_cases hl : isLeap year = true
  · interval_cases g <;> simp [yearStart, daysIn, hl]
  · interval_cases g <;> simp [yearStart, daysIn, hl]

/-- The first month begins with its year. -/
theorem addMonths_yearStart_zero (year : ℤ) : addMonths (yearStart year) 0 = yearStart year :=
  (addMonths_yearStart year (Nat.zero_le 12)).trans (if_neg (by omega))

/-- The last month ends with its year. -/
theorem addMonths_yearStart_twelve (year : ℤ) :
    addMonths (yearStart year) 12 = yearStart (year + 1) :=
  (addMonths_yearStart year le_rfl).trans (if_pos rfl)

theorem civilDate_succ (year : ℤ) {month : ℕ} (h : 1 ≤ month) :
    civilDate year (month + 1) 1 = civilDate year month 1 + daysIn month year := by
  obtain ⟨m, rfl⟩ := Nat.exists_eq_add_of_le' h
  simp only [civilDate, Nat.add_sub_cancel, List.range_succ, List.map_append, List.sum_append,
    List.map_singleton, List.sum_singleton]
  ring

/-- **Months follow one another**, from the first of January to the next. -/
theorem addMonths_le (year : ℤ) {g : ℕ} (hg : g < 12) :
    addMonths (yearStart year) g ≤ addMonths (yearStart year) (g + 1) := by
  have hdays : 1 ≤ daysIn (g + 1) year := by
    rw [daysIn_eq year (by omega) (by omega)]
    split_ifs <;> omega
  have hfirst : addMonths (yearStart year) g = civilDate year (g + 1) 1 := by
    rw [addMonths_yearStart year hg.le, if_neg (by omega)]
  have hsucc : g + 1 ≤ 12 := hg
  rw [hfirst, addMonths_yearStart year hsucc]
  by_cases hlast : g + 1 = 12
  · rw [if_pos hlast]
    have hone : ((1 : ℕ) : ℤ) ≤ daysIn (g + 1) year := by exact_mod_cast hdays
    exact (civilDate_bounds (by omega) (by omega) le_rfl hone).2.1.le
  · have hnext := civilDate_succ year (Nat.le_add_left 1 g)
    rw [if_neg hlast]
    omega

/-- The months of a year lie in it. -/
theorem addMonths_within (year : ℤ) {g : ℕ} (hg : g ≤ 12) :
    yearStart year ≤ addMonths (yearStart year) g ∧
      addMonths (yearStart year) g ≤ yearStart (year + 1) := by
  rw [addMonths_yearStart year hg]
  by_cases hlast : g = 12
  · rw [if_pos hlast]
    exact ⟨(yearStart_lt (Int.lt_succ year)).le, le_rfl⟩
  · have hdays : ((1 : ℕ) : ℤ) ≤ daysIn (g + 1) year := by
      rw [daysIn_eq year (by omega) (by omega)]
      split_ifs <;> omega
    have hmonth : 1 ≤ g + 1 ∧ g + 1 ≤ 12 := by omega
    obtain ⟨hge, hlt, -⟩ := civilDate_bounds hmonth.1 hmonth.2 le_rfl hdays
    rw [if_neg hlast]
    exact ⟨hge, hlt.le⟩

/-- The days of a month, in Go's arithmetic. -/
theorem daysBetween_months (year : ℤ) {g : ℕ} (hg : g < 12) :
    daysBetween (addMonths (yearStart year) g) (addMonths (yearStart year) (g + 1))
      = addMonths (yearStart year) (g + 1) - addMonths (yearStart year) g := by
  have hfirst := (addMonths_within year hg.le).1
  have hlast := (addMonths_within year (Nat.succ_le_of_lt hg)).2
  have hyear : yearStart (year + 1) - yearStart year ≤ 366 := by
    rw [yearStart_eq, yearStart_eq]
    omega
  refine daysBetween_eq (addMonths_le year hg) ?_
  have hsucc : g.succ = g + 1 := rfl
  rw [hsucc] at hlast
  omega

end Sahel

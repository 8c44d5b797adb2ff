import Sahel.Safety.Availability
import Sahel.Domain.DateText

/-!
# Advance notice

How far ahead a unit has to be booked: `advance_notice_hours` of the admin API, any int32 from 0 on,
against the check that `Quote` makes in int64 nanoseconds.

* `notice_kept`: a notice that fits its duration is kept by every accepted stay;
* `accepts_short`: one that does not fit wraps, and at any clock there is a stay that `Quote` accepts
  too early;
* **`notice_enforced_iff`**: so the notices that are enforced are those up to `maxNoticeHours`.
-/

set_option autoImplicit false

namespace Sahel

/-- The clock reads a time of the years 2000 to 2200. -/
def ThisCentury (now : ℤ) : Prop :=
  midnightUTC (yearStart 2000) ≤ now ∧ now < midnightUTC (yearStart 2201)

theorem thisCentury_iff {now : ℤ} :
    ThisCentury now ↔ 946684800000000000 ≤ now ∧ now < 7289654400000000000 := by
  have hfirst : midnightUTC (yearStart 2000) = 946684800000000000 := by decide
  have hlast : midnightUTC (yearStart 2201) = 7289654400000000000 := by decide
  rw [ThisCentury, hfirst, hlast]

/-- A notice of so many hours is enforced: whatever unit has it and whatever the clock, an accepted
stay starts no earlier than that many hours from now, and so not in the past. -/
def NoticeEnforced (cairo : Cairo) (hours : ℤ) : Prop :=
  ∀ (u : UnitRow) (now : ℤ) (r : Pricing.Request) (b : Pricing.Breakdown),
    u.advanceNoticeHours = hours → ThisCentury now → FourDigit r.checkIn → FourDigit r.checkOut →
    Pricing.quote cairo (pricingUnit u) r now = .ok b →
    now + hours * hour ≤ cairo.dateIn r.checkIn Pricing.checkInHour ∧
      now ≤ cairo.dateIn r.checkIn Pricing.checkInHour

/-- **A notice that fits its duration is kept**, by any stay at any time. -/
theorem notice_kept {cairo : Cairo} {u : UnitRow} {r : Pricing.Request} {now : ℤ}
    {b : Pricing.Breakdown} (hfits : u.advanceNoticeHours ≤ Pricing.maxNoticeHours)
    (hq : Pricing.quote cairo (pricingUnit u) r now = .ok b) :
    now + u.advanceNoticeHours * hour ≤ cairo.dateIn r.checkIn Pricing.checkInHour ∧
      now ≤ cairo.dateIn r.checkIn Pricing.checkInHour := by
  have hnotice := (Pricing.quote_ok.mp hq).notice
  have hunit : (pricingUnit u).advanceNoticeHours = u.advanceNoticeHours := rfl
  rw [hunit, Pricing.hoursDuration_toInt u.notice_check.1 hfits] at hnotice
  have hahead : 0 ≤ u.advanceNoticeHours * hour := Int.mul_nonneg u.notice_check.1 (by decide)
  exact ⟨hnotice, by omega⟩

theorem oneTurnover : (0 : ℤ) ≤ 1 ∧ (1 : ℤ) < 2 ^ 15 := by decide

theorem farthestAhead : (1 : ℤ) ≤ 2 ^ 31 - 1 ∧ (2 : ℤ) ^ 31 - 1 < 2 ^ 31 := by decide

/-- A unit that asks for `hours` of notice and takes bookings as far ahead as an int32 goes. -/
def noticeUnit (hours : ℤ) (h : 0 ≤ hours ∧ hours < 2 ^ 31) : UnitRow :=
  { seaUnit 1 oneTurnover with
    advanceNoticeHours := hours
    maxAdvanceDays := 2 ^ 31 - 1
    notice_check := h
    advance_check := farthestAhead }

/-- The day after the instant a duration from now. -/
def dayAfter (now duration : ℤ) : ℤ := (now + duration) / (24 * hour) + 1

/-- **A wrapped notice lets a stay through too early.**  At any clock, the night of the day after the
instant the wrapped duration gives is accepted, and starts before the notice is over. -/
theorem accepts_short (cairo : Cairo) {hours : ℤ} (hmin : Pricing.maxNoticeHours < hours)
    (h : 0 ≤ hours ∧ hours < 2 ^ 31) {now : ℤ} (hnow : ThisCentury now) :
    ∃ checkIn b, FourDigit checkIn ∧ FourDigit (checkIn + 1) ∧
      Pricing.quote cairo (pricingUnit (noticeUnit hours h)) ⟨checkIn, checkIn + 1, 2⟩ now = .ok b ∧
      cairo.dateIn checkIn Pricing.checkInHour < now + hours * hour := by
  obtain ⟨hlow, hshort⟩ := Pricing.hoursDuration_wraps hmin h.2
  rw [thisCentury_iff] at hnow
  have hval : hour = 3600000000000 := rfl
  obtain ⟨wrapped, hw⟩ : ∃ wrapped, (Pricing.hoursDuration hours).toInt = wrapped := ⟨_, rfl⟩
  rw [hw] at hlow hshort
  have hhigh : wrapped < 2 ^ 63 := by
    rw [← hw]
    exact Int64.toInt_lt _
  obtain ⟨hstart, hstop⟩ := cairo.dateIn_bounds (dayAfter now wrapped) Pricing.checkInHour
  have htoday := cairo.offset_ge (now / 1000000000)
  rw [hval] at hshort
  simp only [dayAfter, hval, Pricing.checkInHour] at hstart hstop
  have hnights : daysBetween (dayAfter now wrapped) (dayAfter now wrapped + 1) = 1 := by
    rw [daysBetween_eq (by omega) (by omega)]
    omega
  have hearly : cairo.dateIn (dayAfter now wrapped) Pricing.checkInHour < now + hours * hour := by
    rw [hval]
    simp only [dayAfter, hval, Pricing.checkInHour]
    omega
  have haccepted : Pricing.Accepted cairo (pricingUnit (noticeUnit hours h))
      ⟨dayAfter now wrapped, dayAfter now wrapped + 1, 2⟩ now
      ⟨500000, 1, 500000 * Int64.ofInt 1, 500000⟩ := by
    refine ⟨by rw [hnights], ⟨?_, ?_⟩, ?_, ?_, ?_, ?_⟩
    · show (1 : ℤ) ≤ 2
      omega
    · show (2 : ℤ) ≤ 4
      omega
    · show (0 : Int64) < 500000
      decide
    · show now + (Pricing.hoursDuration hours).toInt
        ≤ cairo.dateIn (dayAfter now wrapped) Pricing.checkInHour
      rw [hw]
      simp only [dayAfter, hval, Pricing.checkInHour]
      omega
    · show dayAfter now wrapped ≤ cairo.today now + (2 ^ 31 - 1)
      simp only [dayAfter, hval, Cairo.today]
      omega
    · rw [hnights]
      rfl
  refine ⟨dayAfter now wrapped, _, ?_, ?_, Pricing.quote_ok.mpr haccepted, hearly⟩
  · simp only [FourDigit, dayAfter, hval]
    omega
  · simp only [FourDigit, dayAfter, hval]
    omega

/-- **Which notices are enforced.** -/
theorem notice_enforced_iff (cairo : Cairo) (hours : ℤ) (h : 0 ≤ hours ∧ hours < 2 ^ 31) :
    NoticeEnforced cairo hours ↔ hours ≤ Pricing.maxNoticeHours := by
  constructor
  · intro henforced
    by_contra hmin
    have hnow : ThisCentury (midnightUTC (yearStart 2000)) := by
      rw [thisCentury_iff]
      decide
    obtain ⟨checkIn, b, hin, hout, hq, hearly⟩ := accepts_short cairo (not_le.mp hmin) h hnow
    exact absurd (henforced (noticeUnit hours h) _ _ b rfl hnow hin hout hq).1 (not_le.mpr hearly)
  · rintro hfits u now r b rfl - - - hq
    exact notice_kept hfits hq

/-- A day's notice. -/
theorem notice_enforced_iff_day : NoticeEnforced winterCairo 24 ↔ 24 ≤ Pricing.maxNoticeHours :=
  notice_enforced_iff winterCairo 24 (by decide)

/-- Half past two in the afternoon, in Cairo, of the first of January 2027. -/
def halfPastTwo : ℤ := midnightUTC newYear + 12 * hour + 30 * 60 * 1000000000

/-- **A check-in that has already passed.**  A notice of 5,124,095 hours, 584 years, comes out as
half an hour less than nothing, so at half past two a stay from two o'clock the same day is
accepted. -/
theorem notice_wraps :
    ¬ ∀ (cairo : Cairo) (hours : ℤ), 0 ≤ hours → hours < 2 ^ 31 → NoticeEnforced cairo hours := by
  intro h
  have hq : Pricing.quote winterCairo (pricingUnit (noticeUnit 5124095 (by decide)))
      ⟨newYear, newYear + 1, 2⟩ halfPastTwo = .ok ⟨500000, 1, 500000, 500000⟩ := by decide +kernel
  have hkept := h winterCairo 5124095 (by decide) (by decide) (noticeUnit 5124095 (by decide))
    halfPastTwo ⟨newYear, newYear + 1, 2⟩ _ rfl (by rw [thisCentury_iff]; decide) (by decide)
    (by decide) hq
  exact absurd hkept.2 (by decide +kernel)

end Sahel

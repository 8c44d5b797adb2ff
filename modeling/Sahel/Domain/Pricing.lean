import Sahel.Domain.Calendar

/-!
# Pricing a stay

The pricing package: a unit's nightly price times the nights, with nothing added, and one
night's price as the deposit.

* `Pricing.days` is every date of a closed window at the unit's price; the Go loop counts a date
  up to the end of the window, and `days_getElem?` says what its `i`-th day is;
* `Pricing.quote` checks the rules in order — range and guests, a price, advance notice measured
  to 14:00 in Cairo, the booking horizon — and prices the stay.

Durations are int64 nanoseconds and the total is int64 piasters; both products wrap as in Go.
-/

set_option autoImplicit false

namespace Sahel

namespace Pricing

/-- The local hour a stay starts, for advance-notice checks. -/
def checkInHour : ℤ := 14

/-- What pricing needs of a unit; a price of 0 means not priced yet. -/
structure Unit where
  nightlyPrice : Int64
  maxGuests : ℤ
  advanceNoticeHours : ℤ
  maxAdvanceDays : ℤ

structure Day where
  date : ℤ
  price : Int64
  available : Bool
  deriving DecidableEq

structure Request where
  checkIn : ℤ
  checkOut : ℤ
  guests : ℤ

structure Breakdown where
  nightlyPrice : Int64
  nightCount : ℤ
  total : Int64
  depositDue : Int64
  deriving DecidableEq

/-- A stay that breaks one of the booking rules. -/
structure RuleError where
  code : String
  message : String
  deriving DecidableEq

/-- One date at the unit's price. -/
def day (u : Unit) (date : ℤ) : Day := ⟨date, u.nightlyPrice, decide (u.nightlyPrice > 0)⟩

/-- The loop of `days`: `n` dates are left, from `date` on. -/
def daysLoop (u : Unit) : ℕ → ℤ → List Day
  | 0, _ => []
  | n + 1, date => day u date :: daysLoop u n (date + 1)

/-- Every date in `[fromDate, toDate]` at the unit's price. -/
def days (u : Unit) (fromDate toDate : ℤ) : List Day :=
  daysLoop u (toDate + 1 - fromDate).toNat fromDate

/-- `time.Duration(hours) * time.Hour`. -/
def hoursDuration (hours : ℤ) : Int64 := Int64.ofInt hours * Int64.ofInt hour

/-- Checks the rules in order and prices the stay. -/
def quote (cairo : Cairo) (u : Unit) (r : Request) (now : ℤ) : Except RuleError Breakdown :=
  let nights := daysBetween r.checkIn r.checkOut
  if nights < 1 then .error ⟨"invalid_range", "check-out must be after check-in"⟩
  else if r.guests < 1 ∨ r.guests > u.maxGuests then
    .error ⟨"invalid_range", "guests must be between 1 and " ++ toString u.maxGuests⟩
  else if u.nightlyPrice ≤ 0 then .error ⟨"unavailable", "this unit has no price yet"⟩
  else if cairo.dateIn r.checkIn checkInHour < now + (hoursDuration u.advanceNoticeHours).toInt then
    .error ⟨"too_soon", "book at least " ++ toString u.advanceNoticeHours ++ " hours ahead"⟩
  else if cairo.today now + u.maxAdvanceDays < r.checkIn then
    .error ⟨"too_far", "bookings open " ++ toString u.maxAdvanceDays ++ " days ahead"⟩
  else .ok {
    nightlyPrice := u.nightlyPrice
    nightCount := nights
    total := u.nightlyPrice * Int64.ofInt nights
    depositDue := u.nightlyPrice }

/-! ### The notice -/

/-- The longest notice, in hours, that an int64 of nanoseconds holds. -/
def maxNoticeHours : ℤ := 2562047

/-- The notice is multiplied in 64 bits. -/
theorem hoursDuration_eq {hours : ℤ} (h0 : 0 ≤ hours) (hi : hours < 2 ^ 31) :
    (hoursDuration hours).toInt = (hours * 3600000000000).bmod (2 ^ 64) := by
  have hhours : (Int64.ofInt hours).toInt = hours :=
    Int64.toInt_ofInt_of_le (by omega) (by omega)
  have hhour : (Int64.ofInt hour).toInt = 3600000000000 := by decide
  rw [hoursDuration, Int64.toInt_mul, hhours, hhour]

/-- A notice up to the longest is not wrapped. -/
theorem hoursDuration_toInt {hours : ℤ} (h0 : 0 ≤ hours) (h : hours ≤ maxNoticeHours) :
    (hoursDuration hours).toInt = hours * hour := by
  have hmax : hours ≤ 2562047 := h
  have hval : hour = 3600000000000 := by decide
  rw [hoursDuration_eq h0 (by omega), hval, Int.bmod_def]
  split_ifs <;> omega

/-- A longer notice wraps: it comes out at least 2⁶⁴ nanoseconds short. -/
theorem hoursDuration_wraps {hours : ℤ} (h : maxNoticeHours < hours) (hi : hours < 2 ^ 31) :
    -2 ^ 63 ≤ (hoursDuration hours).toInt ∧ (hoursDuration hours).toInt ≤ hours * hour - 2 ^ 64 := by
  have hmin : 2562047 < hours := h
  have hval : hour = 3600000000000 := by decide
  rw [hoursDuration_eq (by omega) hi, hval, Int.bmod_def]
  split_ifs <;> omega

/-! ### The total -/

/-- A total of up to 120 nights is exact if it fits its column, and wrapped if not. -/
theorem total_exact_iff {price : Int64} {nights : ℤ} (hp : 0 < price) (hpos : 0 < nights)
    (hmax : nights ≤ 120) :
    (price * Int64.ofInt nights).toInt = price.toInt * nights ↔ price.toInt * nights < 2 ^ 63 := by
  have hprice : 0 < price.toInt := Int64.lt_iff_toInt_lt.mp hp
  have hnights : (Int64.ofInt nights).toInt = nights := Int64.toInt_ofInt_of_le (by omega) (by omega)
  have hprod : 0 < price.toInt * nights := Int.mul_pos hprice hpos
  rw [Int64.toInt_mul, hnights, Int.bmod_def]
  constructor
  · intro h
    split_ifs at h <;> omega
  · intro h
    split_ifs <;> omega

/-! ### The window of days -/

theorem daysLoop_length (u : Unit) : ∀ (n : ℕ) (date : ℤ), (daysLoop u n date).length = n := by
  intro n
  induction n with
  | zero => intro date; rfl
  | succ n ih =>
    intro date
    rw [daysLoop, List.length_cons, ih]

/-- After `i` rounds the loop is at date `date + i`. -/
theorem daysLoop_getElem? (u : Unit) : ∀ (n : ℕ) (date : ℤ) (i : ℕ), i < n →
    (daysLoop u n date)[i]? = some (day u (date + i)) := by
  intro n
  induction n with
  | zero => intro date i hi; omega
  | succ n ih =>
    intro date i hi
    cases i with
    | zero => simp [daysLoop]
    | succ i =>
      rw [daysLoop, List.getElem?_cons_succ, ih (date + 1) i (by omega)]
      congr 2
      push_cast
      ring

/-- **The window is its dates, in order.**  Day `d` of the window sits at position
`d - fromDate`. -/
theorem days_getElem? (u : Unit) {fromDate toDate d : ℤ} (hf : fromDate ≤ d) (ht : d ≤ toDate) :
    (days u fromDate toDate)[(d - fromDate).toNat]? = some (day u d) := by
  rw [days, daysLoop_getElem? u _ _ _ (by omega)]
  congr 2
  omega

theorem days_head? (u : Unit) {fromDate toDate : ℤ} (h : fromDate ≤ toDate) :
    (days u fromDate toDate).head? = some (day u fromDate) := by
  have hfirst := days_getElem? u (le_refl fromDate) h
  rw [sub_self] at hfirst
  rw [List.head?_eq_getElem?]
  exact hfirst

theorem days_getLast? (u : Unit) {fromDate toDate : ℤ} (h : fromDate ≤ toDate) :
    (days u fromDate toDate).getLast? = some (day u toDate) := by
  have hlen : (days u fromDate toDate).length - 1 = (toDate - fromDate).toNat := by
    rw [days, daysLoop_length]
    omega
  rw [List.getLast?_eq_getElem?, hlen]
  exact days_getElem? u h (le_refl toDate)

/-! ### The rules a quoted stay has met -/

/-- What `quote` has checked when it accepts, and the price it answers with. -/
structure Accepted (cairo : Cairo) (u : Unit) (r : Request) (now : ℤ) (b : Breakdown) : Prop where
  nights : 1 ≤ daysBetween r.checkIn r.checkOut
  guests : 1 ≤ r.guests ∧ r.guests ≤ u.maxGuests
  priced : 0 < u.nightlyPrice
  notice : now + (hoursDuration u.advanceNoticeHours).toInt ≤ cairo.dateIn r.checkIn checkInHour
  horizon : r.checkIn ≤ cairo.today now + u.maxAdvanceDays
  breakdown : b = ⟨u.nightlyPrice, daysBetween r.checkIn r.checkOut,
    u.nightlyPrice * Int64.ofInt (daysBetween r.checkIn r.checkOut), u.nightlyPrice⟩

/-- **Acceptance is meeting every rule.** -/
theorem quote_ok {cairo : Cairo} {u : Unit} {r : Request} {now : ℤ} {b : Breakdown} :
    quote cairo u r now = .ok b ↔ Accepted cairo u r now b := by
  simp only [quote]
  constructor
  · intro h
    split_ifs at h with hn hg hp hs hf
    cases h
    refine ⟨by omega, by omega, ?_, by omega, by omega, rfl⟩
    exact Int64.not_le.mp hp
  · rintro ⟨hn, hg, hp, hs, hf, rfl⟩
    rw [if_neg (by omega), if_neg (by omega), if_neg (Int64.not_le.mpr hp), if_neg (by omega),
      if_neg (by omega)]

end Pricing

end Sahel

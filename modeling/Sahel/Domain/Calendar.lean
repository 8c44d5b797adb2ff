import Mathlib.Algebra.Order.Ring.Int
import Mathlib.Data.List.Basic
import Mathlib.Tactic.Ring

/-!
# Calendar dates, instants and Africa/Cairo

The API carries a calendar date as midnight UTC, so a date is a day number here (0 is
1970-01-01) and Go's date comparisons are comparisons of integers.  An instant is a number of
nanoseconds since the Unix epoch.

* `parseDate` reads `YYYY-MM-DD` as Go's `time.Parse` does: four, two and two digits, a real
  month and a day that month has; `formatDate` prints a date in the same layout;
* `parseRange` is the API's from/to check, with Go's saturating `Sub` under the day count;
* `Cairo` is the zone the booking rules are measured in.  Its table of offsets comes with Go
  and is not part of the repository, so it is a parameter; what is known of it is that Egypt's
  clocks have always been between two and three hours ahead of UTC.
-/

set_option autoImplicit false

namespace Sahel

/-! ### The civil calendar -/

def isLeap (year : ℤ) : Bool := year % 4 == 0 && (year % 100 != 0 || year % 400 == 0)

def daysIn (month : ℕ) (year : ℤ) : ℤ :=
  if month = 2 ∧ isLeap year then 29
  else [31, 28, 31, 30, 31, 30, 31, 31, 30, 31, 30, 31].getD (month - 1) 0

/-- Days from the first of January of year 0 to the first of January of `year`. -/
def daysBeforeYear (year : ℤ) : ℤ :=
  365 * year + (year + 3) / 4 - (year + 99) / 100 + (year + 399) / 400

/-- The date of a year, month and day. -/
def civilDate (year : ℤ) (month day : ℕ) : ℤ :=
  daysBeforeYear year - daysBeforeYear 1970
    + ((List.range (month - 1)).map (fun m => daysIn (m + 1) year)).sum + (day - 1)

def digit? (c : Char) : Option ℕ := if c.isDigit then some (c.toNat - '0'.toNat) else none

/-- A run of decimal digits as a number. -/
def number? (cs : List Char) : Option ℕ :=
  cs.foldlM (fun n c => (digit? c).map (fun d => 10 * n + d)) 0

/-- `time.Parse("2006-01-02", s)`. -/
def parseDate (s : String) : Option ℤ :=
  match s.toList with
  | [y₁, y₂, y₃, y₄, '-', m₁, m₂, '-', d₁, d₂] => do
    let y ← number? [y₁, y₂, y₃, y₄]
    let m ← number? [m₁, m₂]
    let d ← number? [d₁, d₂]
    if 1 ≤ m ∧ m ≤ 12 ∧ 1 ≤ d ∧ (d : ℤ) ≤ daysIn m y then some (civilDate y m d) else none
  | _ => none

/-- Year, month and day of a date, counting years from March. -/
def civil (date : ℤ) : ℤ × ℕ × ℕ :=
  let z := date + 719468
  let era := z / 146097
  let doe := z - era * 146097
  let yoe := (doe - doe / 1460 + doe / 36524 - doe / 146096) / 365
  let doy := doe - (365 * yoe + yoe / 4 - yoe / 100)
  let mp := (5 * doy + 2) / 153
  let day := doy - (153 * mp + 2) / 5 + 1
  let month := if mp < 10 then mp + 3 else mp - 9
  (yoe + era * 400 + (if month ≤ 2 then 1 else 0), month.toNat, day.toNat)

/-- `(date + make_interval(months => n))::date`: the same day `n` months on, or that month's last. -/
def addMonths (date : ℤ) (n : ℕ) : ℤ :=
  let c := civil date
  let k := c.2.1 - 1 + n
  let year := c.1 + (k / 12 : ℕ)
  let month := k % 12 + 1
  civilDate year month (min c.2.2 (daysIn month year).toNat)

/-- The first of January. -/
def yearStart (year : ℤ) : ℤ := civilDate year 1 1

/-- A number with leading zeros. -/
def padded (width n : ℕ) : String := String.ofList ((Nat.toDigits 10 n).leftpad width '0')

/-- `Format("2006-01-02")`, for dates of year 0 on. -/
def formatDate (date : ℤ) : String :=
  let c := civil date
  padded 4 c.1.toNat ++ "-" ++ padded 2 c.2.1 ++ "-" ++ padded 2 c.2.2

example : parseDate "2027-02-28" = some 20877 ∧ parseDate "2027-02-29" = none
    ∧ formatDate 20877 = "2027-02-28" := by decide

/-! ### Durations and ranges -/

def hour : ℤ := 3600 * 1000000000

/-- Go's `Sub`: a duration is an int64 number of nanoseconds, and a difference that does not fit
saturates. -/
def goSub (t u : ℤ) : ℤ := max (-2 ^ 63) (min (2 ^ 63 - 1) (t - u))

/-- The instant a date is carried as. -/
def midnightUTC (date : ℤ) : ℤ := date * (24 * hour)

/-- `int(t.Sub(f).Hours() / 24)`: the hours of a whole number of days are exact in a float64. -/
def daysBetween (f t : ℤ) : ℤ := (goSub (midnightUTC t) (midnightUTC f)).tdiv (24 * hour)

/-- What `parseRange` refuses. -/
inductive RangeError where
  | notADate (s : String)
  | reversed
  | tooLong (maxDays : ℤ)
  deriving DecidableEq

def RangeError.message : RangeError → String
  | .notADate s => "\"" ++ s ++ "\" is not a YYYY-MM-DD date"
  | .reversed => "to must not be before from"
  | .tooLong maxDays => "a range can span at most " ++ toString maxDays ++ " days"

/-- Reads from/to dates, requiring from ≤ to and a bounded span. -/
def parseRange (fromText toText : String) (maxDays : ℤ) : Except RangeError (ℤ × ℤ) :=
  match parseDate fromText, parseDate toText with
  | none, _ => .error (.notADate fromText)
  | some _, none => .error (.notADate toText)
  | some f, some t =>
    if t < f then .error .reversed
    else if maxDays < daysBetween f t then .error (.tooLong maxDays)
    else .ok (f, t)

theorem parseRange_ok {s t : String} {m : ℤ} {f u : ℤ} (h : parseRange s t m = .ok (f, u)) :
    f ≤ u ∧ daysBetween f u ≤ m := by
  unfold parseRange at h
  split at h
  · cases h
  · cases h
  · split_ifs at h with hr hl
    cases h
    exact ⟨not_lt.mp hr, not_lt.mp hl⟩

/-- A difference of dates below 292 years is exact. -/
theorem goSub_midnight {f t : ℤ} (hft : f ≤ t) (h : t - f ≤ 106751) :
    goSub (midnightUTC t) (midnightUTC f) = (t - f) * (24 * hour) := by
  have hb : (t - f) * (24 * hour) < 2 ^ 63 := by
    calc (t - f) * (24 * hour) ≤ 106751 * (24 * hour) :=
          Int.mul_le_mul_of_nonneg_right h (by decide)
      _ < 2 ^ 63 := by decide
  have h0 : 0 ≤ (t - f) * (24 * hour) := Int.mul_nonneg (by omega) (by decide)
  rw [goSub, midnightUTC, midnightUTC, ← Int.sub_mul, min_eq_right (by omega), max_eq_right (by omega)]

/-- A longer one is the longest duration. -/
theorem goSub_midnight_max {f t : ℤ} (h : 106751 < t - f) :
    goSub (midnightUTC t) (midnightUTC f) = 2 ^ 63 - 1 := by
  have hb : 2 ^ 63 ≤ (t - f) * (24 * hour) := by
    calc (2 : ℤ) ^ 63 ≤ 106752 * (24 * hour) := by decide
      _ ≤ (t - f) * (24 * hour) := Int.mul_le_mul_of_nonneg_right (by omega) (by decide)
  rw [goSub, midnightUTC, midnightUTC, ← Int.sub_mul, min_eq_left (by omega), max_eq_right (by decide)]

/-- The saturation of a difference that is a whole number of days is out of reach below 292
years. -/
theorem daysBetween_eq {f t : ℤ} (hft : f ≤ t) (h : t - f < 106751) :
    daysBetween f t = t - f := by
  rw [daysBetween, goSub_midnight hft (le_of_lt h), Int.mul_tdiv_cancel _ (by decide)]

/-- A range that counts as short is short: a saturated difference is 292 years. -/
theorem daysBetween_eq_of_le {f t m : ℤ} (hft : f ≤ t) (h : daysBetween f t ≤ m) (hm : m < 106751) :
    daysBetween f t = t - f := by
  by_cases hlong : 106751 < t - f
  · have hmax : daysBetween f t = (2 ^ 63 - 1 : ℤ).tdiv (24 * hour) := by
      rw [daysBetween, goSub_midnight_max hlong]
    have hdays : (2 ^ 63 - 1 : ℤ).tdiv (24 * hour) = 106751 := by decide
    omega
  · rw [daysBetween, goSub_midnight hft (not_lt.mp hlong), Int.mul_tdiv_cancel _ (by decide)]

/-! ### Africa/Cairo -/

/-- One stretch of a zone's table: the offset in seconds and the Unix seconds it is valid for. -/
structure ZonePeriod where
  offset : ℤ
  start : ℤ
  stop : ℤ

/-- The Africa/Cairo table: which period a Unix second falls in.  Cairo has been two hours ahead
of UTC in winter, three in summer time, and 2:05:09 before 1900. -/
structure Cairo where
  lookup : ℤ → ZonePeriod
  offset_ge : ∀ t, 2 * 3600 ≤ (lookup t).offset
  offset_le : ∀ t, (lookup t).offset ≤ 3 * 3600

namespace Cairo

variable (cairo : Cairo)

/-- The calendar date of `t.In(Cairo)`. -/
def today (t : ℤ) : ℤ :=
  (t / 1000000000 + (cairo.lookup (t / 1000000000)).offset) / 86400

/-- `time.Date(y, m, d, hour, 0, 0, 0, Cairo)`: the offset is looked up at the local time read as
UTC, then again if the second it gives lies outside that period. -/
def dateIn (date : ℤ) (hours : ℤ) : ℤ :=
  let unix := date * 86400 + hours * 3600
  let p := cairo.lookup unix
  let utc := unix - p.offset
  let offset := if utc < p.start ∨ p.stop ≤ utc then (cairo.lookup utc).offset else p.offset
  (unix - offset) * 1000000000

/-- A local time of day is two to three hours behind the same clock reading in UTC. -/
theorem dateIn_bounds (date : ℤ) (hours : ℤ) :
    (date * 86400 + hours * 3600 - 3 * 3600) * 1000000000 ≤ cairo.dateIn date hours ∧
      cairo.dateIn date hours ≤ (date * 86400 + hours * 3600 - 2 * 3600) * 1000000000 := by
  have hge := cairo.offset_ge
  have hle := cairo.offset_le
  simp only [Cairo.dateIn]
  split
  · have h₁ := hge (date * 86400 + hours * 3600
      - (cairo.lookup (date * 86400 + hours * 3600)).offset)
    have h₂ := hle (date * 86400 + hours * 3600
      - (cairo.lookup (date * 86400 + hours * 3600)).offset)
    constructor <;> omega
  · have h₁ := hge (date * 86400 + hours * 3600)
    have h₂ := hle (date * 86400 + hours * 3600)
    constructor <;> omega

/-- **Afternoon check-in is past once the day is over.**  Whatever the clock changes, 14:00 of a
date before today's lies before now. -/
theorem dateIn_lt_of_lt_today {date : ℤ} {t : ℤ} (h : date < cairo.today t) :
    cairo.dateIn date 14 < t := by
  have hin := (cairo.dateIn_bounds date 14).2
  have hoff := cairo.offset_le (t / 1000000000)
  have hsec : (date + 1) * 86400 ≤ t / 1000000000 + (cairo.lookup (t / 1000000000)).offset := by
    have hq : date + 1 ≤ (t / 1000000000 + (cairo.lookup (t / 1000000000)).offset) / 86400 := h
    exact (Int.le_ediv_iff_mul_le (by decide)).mp hq
  have ht : t / 1000000000 * 1000000000 ≤ t := Int.ediv_mul_le t (by decide)
  omega

end Cairo

end Sahel

import Sahel.Library.FifteenDigits
import Sahel.Domain.Days
import Sahel.Model.References

/-!
# Date ranges

How the API counts days: as a difference of instants that may saturate, divided by hours, and as a
loop that goes on by one day.

* `Doubles` is what rounding to doubles keeps, and `Doubles.nearest` the rounding itself;
* `wholeDays` is `int(d.Hours() / 24)` in doubles, `wholeDays_iff` compares it with a bound, and
  `parseRange_eq` has the check of a range decide by it;
* `daysWhile` is the loop of `Days` with its own test, one `AddDate(0, 0, 1)` a turn;
* **`ranges_counted`**: both count the steps of the calendar from one date to the other.
-/

set_option autoImplicit false

namespace Sahel

open ReadCommitted ReadCommitted.Prog

/-! ### Days as hours -/

/-- What rounding to doubles keeps: order, and whole numbers of up to 53 binary digits. -/
structure Doubles where
  round : ℚ → ℚ
  mono : Monotone round
  whole : ∀ n : ℤ, -2 ^ 53 < n → n < 2 ^ 53 → round n = n

namespace Doubles

/-- The double nearest to a number, either side of zero alike. -/
def nearest : Doubles where
  round q := if 0 ≤ q then Binary64.nearest q else -Binary64.nearest (-q)
  mono p q h := by
    dsimp only
    by_cases hp : 0 ≤ p
    · rw [if_pos hp, if_pos (hp.trans h)]
      rcases hp.eq_or_lt with rfl | hpos
      · rw [Binary64.nearest_zero]
        exact Binary64.nearest_nonneg h
      · exact Binary64.nearest_mono hpos h
    · rw [if_neg hp]
      have hneg : 0 < -p := neg_pos.mpr (not_le.mp hp)
      by_cases hq : 0 ≤ q
      · rw [if_pos hq]
        exact (neg_nonpos.mpr (Binary64.nearest_nonneg hneg.le)).trans (Binary64.nearest_nonneg hq)
      · rw [if_neg hq]
        exact neg_le_neg (Binary64.nearest_mono (neg_pos.mpr (not_le.mp hq)) (neg_le_neg h))
  whole n hlow hhigh := by
    have hwhole : ∀ k : ℕ, k < 2 ^ 53 → Binary64.nearest k = k := by
      intro k hk
      rcases k.eq_zero_or_pos with rfl | hpos
      · exact_mod_cast Binary64.nearest_zero
      · exact Binary64.nearest_natCast hpos hk
    obtain ⟨k, rfl | rfl⟩ := n.eq_nat_or_neg
    · rw [if_pos (by exact_mod_cast Nat.zero_le k)]
      exact_mod_cast hwhole k (by omega)
    · by_cases hk : k = 0
      · subst hk
        simp [Binary64.nearest_zero]
      · have hneg : ¬ (0 : ℚ) ≤ ((-(k : ℤ) : ℤ) : ℚ) := by
          push_cast
          rw [not_le, neg_lt_zero]
          exact_mod_cast Nat.pos_of_ne_zero hk
        rw [if_neg hneg]
        push_cast
        rw [neg_neg, hwhole k (by omega)]

variable (D : Doubles)

/-- `d.Hours()`: the whole hours, and the nanoseconds beyond them as a part of one. -/
def hours (d : ℤ) : ℚ := D.round ((d.tdiv hour : ℤ) + D.round ((d.tmod hour : ℤ) / (hour : ℤ)))

/-- `int(x)`. -/
def truncate (x : ℚ) : ℤ := if 0 ≤ x then ⌊x⌋ else ⌈x⌉

/-- `int(d.Hours() / 24)`. -/
def wholeDays (d : ℤ) : ℤ := truncate (D.round (D.hours d / 24))

/-- Whole days that fit are counted exactly. -/
theorem wholeDays_mul {n : ℤ} (h0 : 0 ≤ n) (h : n < 2 ^ 40) : D.wholeDays (n * (24 * hour)) = n := by
  have hhour : (0 : ℤ) < hour := by decide
  have hdiv : (n * (24 * hour)).tdiv hour = n * 24 := by
    rw [← Int.mul_assoc, Int.mul_tdiv_cancel _ (by decide)]
  have hmod : (n * (24 * hour)).tmod hour = 0 := by
    rw [← Int.mul_assoc, Int.mul_tmod_left]
  have hhours : D.hours (n * (24 * hour)) = ((n * 24 : ℤ) : ℚ) := by
    have hzero : D.round (((0 : ℤ) : ℚ) / (hour : ℤ)) = 0 := by
      rw [Int.cast_zero, zero_div]
      exact_mod_cast D.whole 0 (by decide) (by decide)
    rw [hours, hdiv, hmod, hzero, add_zero]
    exact D.whole _ (by omega) (by omega)
  have hquot : D.round (D.hours (n * (24 * hour)) / 24) = (n : ℚ) := by
    rw [hhours]
    push_cast
    rw [mul_div_cancel_right₀ _ (by norm_num)]
    exact D.whole n (by omega) (by omega)
  rw [wholeDays, hquot, truncate, if_pos (by exact_mod_cast h0), Int.floor_intCast]

/-- The longest duration is counted as 292 years and more. -/
theorem le_wholeDays_max : 106751 ≤ D.wholeDays (2 ^ 63 - 1) := by
  have hdiv : ((2 ^ 63 - 1 : ℤ)).tdiv hour = 2562047 := by decide
  have hmod : 0 ≤ ((2 ^ 63 - 1 : ℤ)).tmod hour := by decide
  have hpart : 0 ≤ D.round ((((2 ^ 63 - 1 : ℤ)).tmod hour : ℤ) / (hour : ℤ)) := by
    have hzero : D.round 0 = 0 := by exact_mod_cast D.whole 0 (by decide) (by decide)
    rw [← hzero]
    refine D.mono (div_nonneg (by exact_mod_cast hmod) ?_)
    exact_mod_cast (by decide : (0 : ℤ) ≤ hour)
  have hhours : (2562047 : ℚ) ≤ D.hours (2 ^ 63 - 1) := by
    have hround : D.round ((2562047 : ℤ) : ℚ) = ((2562047 : ℤ) : ℚ) := D.whole _ (by decide) (by decide)
    rw [hours, hdiv]
    calc (2562047 : ℚ) = D.round ((2562047 : ℤ) : ℚ) := by rw [hround]; norm_num
      _ ≤ _ := D.mono (le_add_of_nonneg_right hpart)
  have hquot : (106751 : ℚ) ≤ D.round (D.hours (2 ^ 63 - 1) / 24) := by
    have hround : D.round ((106751 : ℤ) : ℚ) = ((106751 : ℤ) : ℚ) := D.whole _ (by decide) (by decide)
    have hdays : (106751 : ℚ) ≤ D.hours (2 ^ 63 - 1) / 24 := by
      generalize D.hours (2 ^ 63 - 1) = h at hhours
      linarith
    calc (106751 : ℚ) = D.round ((106751 : ℤ) : ℚ) := by rw [hround]; norm_num
      _ ≤ _ := D.mono (by exact_mod_cast hdays)
  rw [wholeDays, truncate, if_pos (by linarith)]
  exact Int.le_floor.mpr (by exact_mod_cast hquot)

/-- **A bound holds of the days as counted** exactly when it holds of the days. -/
theorem wholeDays_iff {f t m : ℤ} (hft : f ≤ t) (hm : m < 106751) :
    D.wholeDays (goSub (midnightUTC t) (midnightUTC f)) ≤ m ↔ t - f ≤ m := by
  by_cases hlong : 106751 < t - f
  · have hmax := D.le_wholeDays_max
    rw [goSub_midnight_max hlong]
    exact iff_of_false (by omega) (by omega)
  · rw [goSub_midnight hft (not_lt.mp hlong), D.wholeDays_mul (by omega) (by omega)]

/-- `parseRange` with its day count in doubles. -/
def parseRange (fromText toText : String) (maxDays : ℤ) : Except RangeError (ℤ × ℤ) :=
  match parseDate fromText, parseDate toText with
  | none, _ => .error (.notADate fromText)
  | some _, none => .error (.notADate toText)
  | some f, some t =>
    if t < f then .error .reversed
    else if maxDays < D.wholeDays (goSub (midnightUTC t) (midnightUTC f)) then .error (.tooLong maxDays)
    else .ok (f, t)

/-- **Doubles decide nothing else** than whole numbers do. -/
theorem parseRange_eq (s t : String) {m : ℤ} (hm : m < 100000) :
    D.parseRange s t m = Sahel.parseRange s t m := by
  rw [parseRange, Sahel.parseRange]
  cases parseDate s with
  | none => rfl
  | some f =>
    cases parseDate t with
    | none => rfl
    | some u =>
      simp only
      by_cases hrev : u < f
      · rw [if_pos hrev, if_pos hrev]
      · have hfu : f ≤ u := not_lt.mp hrev
        have hcount := D.wholeDays_iff hfu (show m < 106751 by omega)
        have hdays : daysBetween f u ≤ m ↔ u - f ≤ m := by
          constructor
          · intro h
            have hexact := daysBetween_eq_of_le hfu h (by omega)
            omega
          · intro h
            have hexact := daysBetween_eq hfu (by omega)
            omega
        rw [if_neg hrev, if_neg hrev]
        simp only [← not_le, hcount, hdays]

end Doubles

/-! ### The loop of days -/

namespace Pricing

/-- `date.AddDate(0, 0, 1)`: a day past the end of its month is counted on from there. -/
def addDay (date : ℤ) : ℤ := civilDate (civil date).1 (civil date).2.1 ((civil date).2.2 + 1)

/-- The loop of `Days`, at most `fuel` turns of it; none while it still runs. -/
def daysWhile (u : Unit) (toDate : ℤ) : ℕ → ℤ → Option (List Day)
  | 0, _ => none
  | fuel + 1, date =>
    if toDate < date then some [] else (daysWhile u toDate fuel (addDay date)).map (day u date :: ·)

theorem addDay_eq (date : ℤ) : addDay date = date + 1 := by
  have hdate : civilDate (civil date).1 (civil date).2.1 (civil date).2.2 = date := (civilDate_civil date).1
  rw [civilDate_day] at hdate
  rw [addDay, civilDate_day]
  push_cast
  omega

/-- **The loop ends**, with the days of the window. -/
theorem daysWhile_eq (u : Unit) (toDate : ℤ) : ∀ (fuel : ℕ) (date : ℤ), (toDate + 1 - date).toNat < fuel →
    daysWhile u toDate fuel date = some (days u date toDate) := by
  intro fuel
  induction fuel with
  | zero => exact fun _ h => absurd h (Nat.not_lt_zero _)
  | succ fuel ih =>
    intro date h
    rw [daysWhile]
    by_cases hend : toDate < date
    · have hnone : (toDate + 1 - date).toNat = 0 := by omega
      rw [if_pos hend, days, hnone]
      rfl
    · have hmore : (toDate + 1 - date).toNat = (toDate + 1 - (date + 1)).toNat + 1 := by omega
      rw [if_neg hend, addDay_eq, ih (date + 1) (by omega), days, days, hmore]
      rfl

theorem daysLoop_dates (u : Unit) : ∀ (n : ℕ) (date : ℤ),
    (daysLoop u n date).map Day.date = (List.range n).map (fun i : ℕ => date + i) := by
  intro n
  induction n with
  | zero => exact fun _ => rfl
  | succ n ih =>
    intro date
    rw [daysLoop, List.map_cons, ih, List.range_succ_eq_map, List.map_cons, List.map_map]
    refine congrArg₂ List.cons (by simp [day]) (List.map_congr_left (fun i _ => ?_))
    show date + 1 + (i : ℤ) = date + ((i + 1 : ℕ) : ℤ)
    push_cast
    ring

end Pricing

/-! ### Ranges -/

/-- What a range is accepted for: not reversed, and not longer than the bound. -/
theorem parseRange_iff {s t : String} {f u : ℤ} (hs : parseDate s = some f) (ht : parseDate t = some u)
    {m : ℤ} (hm : m < 100000) (r : ℤ × ℤ) :
    parseRange s t m = .ok r ↔ r = (f, u) ∧ f ≤ u ∧ u - f ≤ m := by
  rw [parseRange, hs, ht]
  simp only
  by_cases hrev : u < f
  · rw [if_pos hrev]
    exact iff_of_false (fun h => by cases h) (fun h => by omega)
  · have hfu : f ≤ u := not_lt.mp hrev
    rw [if_neg hrev]
    by_cases hlong : m < daysBetween f u
    · rw [if_pos hlong]
      refine iff_of_false (fun h => by cases h) (fun h => ?_)
      have hdays := daysBetween_eq hfu (by omega)
      omega
    · have hdays := daysBetween_eq_of_le hfu (not_lt.mp hlong) (by omega)
      rw [if_neg hlong]
      constructor
      · intro h
        cases h
        exact ⟨rfl, hfu, by omega⟩
      · rintro ⟨rfl, -, -⟩
        rfl

/-- A statement that books a stay of so many nights. -/
def BooksNights (n : ℤ) : Stmt → Prop
  | .createBooking arg => arg.total = arg.nightlyPrice * Int64.ofInt n
  | _ => True

theorem only_adminCreateBooking {req : ManualBookingRequest} {n : ℤ}
    (h : ∀ range, parseRange req.checkIn req.checkOut maxAvailabilitySpan = .ok range →
      daysBetween range.1 range.2 = n) : (adminCreateBooking req).Only (BooksNights n) := by
  refine only_bind (only_require _ _) (fun unitId => only_check_bind (fun range hrange => ?_))
  refine only_bind (only_refuse _ _) (fun _ => only_bind (only_require _ _) (fun phone => ?_))
  refine only_bind (only_refuse _ _) (fun _ => only_bind (only_mapErr _ ?_) (fun u => ?_))
  · exact only_bind (only_query _ trivial) (fun _ => only_require _ _)
  · refine only_bind (only_refuse _ _) (fun _ => only_bind (only_refuse _ _) (fun _ => ?_))
    refine only_bind (only_refuse _ _) (fun _ => only_mapErr _ ?_)
    refine only_bind (only_bind (only_query _ trivial) (fun _ => only_require _ _)) (fun _ => ?_)
    refine only_bind (only_query _ trivial) (fun _ => only_bind (only_refuse _ _) (fun _ => ?_))
    refine only_bind (only_query _ trivial) (fun c => only_insertRounds ?_ 5)
    refine only_bind (only_query _ trivial) (fun buf => only_attempt ?_)
    show _ * Int64.ofInt (daysBetween range.1 range.2) = _ * Int64.ofInt n
    rw [h range hrange]

/-- **The loop over the days** of a range: it ends, with every date on the way, once and in order. -/
theorem daysWhile_dates {a b : CalendarDate} {n : ℕ} (hn : b.number - a.number = n) (u : Pricing.Unit)
    {fuel : ℕ} (hfuel : n + 1 < fuel) : ∃ days, Pricing.daysWhile u b.number fuel a.number = some days ∧
      days = Pricing.days u a.number b.number ∧ (days.map Pricing.Day.date).Pairwise (· < ·) ∧
      days.map (fun d => civil d.date) = (List.range (n + 1)).map (fun i => nextDay^[i] a.parts) := by
  have hlen : (b.number + 1 - a.number).toNat = n + 1 := by omega
  have hdates : (Pricing.days u a.number b.number).map Pricing.Day.date
      = (List.range (n + 1)).map (fun i : ℕ => a.number + i) := by
    rw [Pricing.days, Pricing.daysLoop_dates, hlen]
  refine ⟨_, Pricing.daysWhile_eq u b.number fuel a.number (by omega), rfl, ?_, ?_⟩
  · rw [hdates, List.pairwise_map]
    exact List.pairwise_lt_range.imp (fun h => by omega)
  · show (Pricing.days u a.number b.number).map (civil ∘ Pricing.Day.date) = _
    rw [← List.map_map, hdates, List.map_map]
    refine List.map_congr_left (fun i _ => ?_)
    show civil (a.number + i) = nextDay^[i] a.parts
    rw [civil_add, a.civil_number]

/-! ### Ranges of dates -/

/-- **Date ranges are counted exactly**: two dates are a range exactly when so many steps of the
calendar, within the bound, lead from the first to the second; hours divided by 24, the nights of a
quote and of an admin's booking are that many; and the loop over the days ends, with every date on the
way, once and in order. -/
theorem ranges_counted (a b : CalendarDate) {m : ℤ} (hm : m < 100000) :
    (∀ D : Doubles, D.parseRange a.text b.text m = parseRange a.text b.text m) ∧
    ((∃ r, parseRange a.text b.text m = .ok r) ↔ ∃ n : ℕ, nextDay^[n] a.parts = b.parts ∧ n ≤ m) ∧
    ∀ f t, parseRange a.text b.text m = .ok (f, t) → ∃ n : ℕ, nextDay^[n] a.parts = b.parts ∧
      (∀ D : Doubles, D.wholeDays (goSub (midnightUTC t) (midnightUTC f)) = n) ∧
      (∀ cairo u guests now q, Pricing.quote cairo u ⟨f, t, guests⟩ now = .ok q → q.nightCount = n) ∧
      (∀ req : ManualBookingRequest, req.checkIn = a.text → req.checkOut = b.text →
        (adminCreateBooking req).Only (BooksNights n)) ∧
      ∀ u fuel, n + 1 < fuel → ∃ days, Pricing.daysWhile u t fuel f = some days ∧
        days = Pricing.days u f t ∧ (days.map Pricing.Day.date).Pairwise (· < ·) ∧
        days.map (fun d => civil d.date) = (List.range (n + 1)).map (fun i => nextDay^[i] a.parts) := by
  have hrange := parseRange_iff a.parseDate_text b.parseDate_text hm
  refine ⟨fun D => D.parseRange_eq a.text b.text hm, ?_, ?_⟩
  · constructor
    · rintro ⟨r, hr⟩
      obtain ⟨-, hle, hspan⟩ := (hrange r).mp hr
      refine ⟨(b.number - a.number).toNat, (a.iterate_nextDay_iff b _).mpr ?_, ?_⟩ <;> omega
    · rintro ⟨n, hn, hspan⟩
      have hnumber := (a.iterate_nextDay_iff b n).mp hn
      exact ⟨_, (hrange _).mpr ⟨rfl, by omega, by omega⟩⟩
  · intro f t hok
    obtain ⟨hft, hle, hspan⟩ := (hrange _).mp hok
    cases hft
    obtain ⟨n, hn⟩ : ∃ n : ℕ, b.number - a.number = n := ⟨(b.number - a.number).toNat, by omega⟩
    have hdays : daysBetween a.number b.number = n := by
      rw [daysBetween_eq hle (by omega), hn]
    refine ⟨n, (a.iterate_nextDay_iff b n).mpr hn, fun D => ?_, fun cairo u guests now q hq => ?_,
      fun req hin hout => only_adminCreateBooking (fun range hreq => ?_),
      fun u fuel hfuel => daysWhile_dates hn u hfuel⟩
    · rw [goSub_midnight hle (by omega), D.wholeDays_mul (by omega) (by omega), hn]
    · rw [(Pricing.quote_ok.mp hq).breakdown]
      exact hdays
    · rw [hin, hout] at hreq
      obtain ⟨rfl, -, -⟩ := (parseRange_iff a.parseDate_text b.parseDate_text (by decide) range).mp hreq
      exact hdays

/-- The end of a leap February is two days off, with three dates on the way; the calendar's ten
thousand years are no range. -/
theorem ranges_counted_leap :
    (∃ f t, parseRange "2028-02-28" "2028-03-01" 120 = .ok (f, t) ∧
      Doubles.nearest.parseRange "2028-02-28" "2028-03-01" 120 = .ok (f, t) ∧
      Doubles.nearest.wholeDays (goSub (midnightUTC t) (midnightUTC f)) = 2 ∧
      (∀ cairo u guests now q, Pricing.quote cairo u ⟨f, t, guests⟩ now = .ok q → q.nightCount = 2) ∧
      ∀ u, ∃ days, Pricing.daysWhile u t 4 f = some days ∧
        days.map (fun d => civil d.date) = [(2028, 2, 28), (2028, 2, 29), (2028, 3, 1)]) ∧
      ¬ ∃ r, parseRange "0000-01-01" "9999-12-31" 99999 = .ok r := by
  let february : CalendarDate := ⟨2028, 2, 28, by decide, by decide, by decide, by decide, by decide⟩
  let march : CalendarDate := ⟨2028, 3, 1, by decide, by decide, by decide, by decide, by decide⟩
  let first : CalendarDate := ⟨0, 1, 1, by decide, by decide, by decide, by decide, by decide⟩
  let last : CalendarDate := ⟨9999, 12, 31, by decide, by decide, by decide, by decide, by decide⟩
  have htexts : february.text = "2028-02-28" ∧ march.text = "2028-03-01" ∧
      first.text = "0000-01-01" ∧ last.text = "9999-12-31" := by decide +kernel
  rw [← htexts.1, ← htexts.2.1, ← htexts.2.2.1, ← htexts.2.2.2]
  constructor
  · obtain ⟨hdoubles, hrange, hcount⟩ := ranges_counted february march (m := 120) (by decide)
    obtain ⟨⟨f, t⟩, hok⟩ := hrange.mpr ⟨2, by decide, by decide⟩
    obtain ⟨n, hn, hdays, hquote, -, hloop⟩ := hcount f t hok
    obtain rfl : n = 2 := by
      have hnumber := (february.iterate_nextDay_iff march n).mp hn
      have hspan : march.number - february.number = 2 := by decide
      omega
    refine ⟨f, t, hok, (hdoubles _).trans hok, hdays _, hquote, fun u => ?_⟩
    obtain ⟨days, hdone, -, -, hdates⟩ := hloop u 4 (by omega)
    exact ⟨days, hdone, hdates.trans (by decide)⟩
  · intro h
    obtain ⟨n, hn, hle⟩ := (ranges_counted first last (by decide)).2.1.mp h
    have hnumber := (first.iterate_nextDay_iff last n).mp hn
    have hspan : last.number - first.number = 3652424 := by decide
    omega

end Sahel

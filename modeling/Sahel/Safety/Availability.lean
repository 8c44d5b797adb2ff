import Sahel.Http.Requests

/-!
# The calendar and the booking check

A guest sees a calendar and then asks for a stay; the two are computed by separate code.

* `Taken` is what both are about: whether somebody has a night of a unit.  The overlap count of a
  stay is zero exactly when none of its nights is taken, and a day of the calendar is available
  exactly when the unit is priced and the night is not taken;
* **`availability_agrees`**: so the two agree about every stay inside the calendar's window;
* **`quoted_nights_open`**: the nights of an accepted stay are free in the calendar up to the
  unit's booking horizon.  The quote measures the horizon to the check-in only, so a stay may
  run past it, onto nights the calendar closes (`quoted_nights_closed`);
* **`free_day_quoted`**: a day that is shown free is sold for one night, unless the unit sleeps nobody or
  asks for more notice (`free_day_refused`).
-/

set_option autoImplicit false

namespace Sahel

open KeyedTable HalfOpen ReadCommitted

/-! ### Taken nights -/

/-- Somebody has the night: an occupying booking of the unit or its turnover days, or a block. -/
def Taken (db : Db) (u : UnitRow) (night : ℤ) : Prop :=
  (∃ b ∈ db.bookings, b.unitId = u.id ∧ b.Occupies
    ∧ b.checkIn ≤ night ∧ night < b.checkOut + u.bufferDays)
  ∨ ∃ k ∈ db.blocks, k.unitId = u.id ∧ k.startDate ≤ night ∧ night < k.endDate

/-- **The overlap count is about nights.** -/
theorem countOverlappingStays_eq_zero_iff {db : Db} {u : UnitRow} {checkIn checkOut : ℤ} :
    Queries.countOverlappingStays u.id u.bufferDays checkIn checkOut db = 0 ↔
      ∀ night, checkIn ≤ night → night < checkOut → ¬ Taken db u night := by
  rw [Queries.countOverlappingStays_eq_zero]
  constructor
  · rintro ⟨hstays, hblocks⟩ night hci hco (⟨b, hb, hu, ho, hs, he⟩ | ⟨k, hk, hu, hs, he⟩)
    · exact hstays b hb hu ho (overlaps_iff.mpr ⟨night, ⟨hs, he⟩, hci, hco⟩)
    · exact hblocks k hk hu (overlaps_iff.mpr ⟨night, ⟨hs, he⟩, hci, hco⟩)
  · intro h
    constructor
    · intro b hb hu ho hov
      obtain ⟨night, ⟨hs, he⟩, hci, hco⟩ := overlaps_iff.mp hov
      exact h night hci hco (Or.inl ⟨b, hb, hu, ho, hs, he⟩)
    · intro k hk hu hov
      obtain ⟨night, ⟨hs, he⟩, hci, hco⟩ := overlaps_iff.mp hov
      exact h night hci hco (Or.inr ⟨k, hk, hu, hs, he⟩)

/-- **The stays listed for a window are about its nights.** -/
theorem mem_listOccupiedStays_iff {db : Db} {u : UnitRow} {fromDate toDate night : ℤ}
    (hf : fromDate ≤ night) (ht : night ≤ toDate) :
    (∃ s ∈ Queries.listOccupiedStays u.id u.bufferDays fromDate toDate db,
      s.checkIn ≤ night ∧ night < s.blockedUntil) ↔ Taken db u night := by
  constructor
  · rintro ⟨s, hs, hin⟩
    rcases Queries.mem_listOccupiedStays.mp hs with ⟨b, hb, ⟨hu, ho, -, -⟩, rfl⟩ | ⟨k, hk, ⟨hu, -, -⟩, rfl⟩
    · exact Or.inl ⟨b, hb, hu, ho, hin⟩
    · exact Or.inr ⟨k, hk, hu, hin⟩
  · -- A stay with a night of the window reaches into it from both sides.
    rintro (⟨b, hb, hu, ho, hs, he⟩ | ⟨k, hk, hu, hs, he⟩)
    · exact ⟨⟨b.checkIn, b.checkOut + u.bufferDays⟩, Queries.mem_listOccupiedStays.mpr
        (Or.inl ⟨b, hb, ⟨hu, ho, by omega, by omega⟩, rfl⟩), hs, he⟩
    · exact ⟨⟨k.startDate, k.endDate⟩, Queries.mem_listOccupiedStays.mpr
        (Or.inr ⟨k, hk, ⟨hu, by omega, by omega⟩, rfl⟩), hs, he⟩

/-! ### The loop over the stays -/

@[simp] theorem markDay_date (stays : List OccupiedStay) (d : Pricing.Day) :
    (markDay stays d).date = d.date := by
  induction stays generalizing d with
  | nil => rfl
  | cons st stays ih =>
    rw [markDay, List.foldl_cons, ← markDay, ih]
    split <;> rfl

/-- A day stays available exactly when no stay of the list has it. -/
theorem markDay_available (stays : List OccupiedStay) (d : Pricing.Day) :
    (markDay stays d).available = true ↔
      d.available = true ∧ ¬ ∃ s ∈ stays, s.checkIn ≤ d.date ∧ d.date < s.blockedUntil := by
  induction stays generalizing d with
  | nil => simp [markDay]
  | cons st stays ih =>
    rw [markDay, List.foldl_cons, ← markDay, ih]
    split
    · rename_i hin
      constructor
      · rintro ⟨h, -⟩
        cases h
      · rintro ⟨-, hno⟩
        exact absurd ⟨st, List.mem_cons_self, hin⟩ hno
    · rename_i hout
      simp [hout]

/-! ### What the handlers answer -/

/-- The days of a window with the taken nights marked. -/
def markedDays (db : Db) (u : UnitRow) (fromDate toDate : ℤ) : List Pricing.Day :=
  (Pricing.days (pricingUnit u) fromDate toDate).map
    (markDay (Queries.listOccupiedStays u.id u.bufferDays fromDate toDate db))

/-- `markBooked` marks the days of its window against the stays listed for it. -/
theorem markBooked_reads (o : Oracle) (now : ℤ) (db : Db) (u : UnitRow) {fromDate toDate : ℤ}
    (h : fromDate ≤ toDate) :
    Reads postgres o now db (markBooked u (Pricing.days (pricingUnit u) fromDate toDate))
      (markedDays db u fromDate toDate) := by
  rw [markBooked, Pricing.days_head? _ h, Pricing.days_getLast? _ h]
  exact (Reads.query rfl).bind (.pure _)

/-- **A marked day.** -/
theorem markedDays_getElem? (db : Db) (u : UnitRow) {fromDate toDate night : ℤ}
    (hf : fromDate ≤ night) (ht : night ≤ toDate) :
    ∃ day, (markedDays db u fromDate toDate)[(night - fromDate).toNat]? = some day ∧
      day.date = night ∧
      (day.available = true ↔ 0 < (pricingUnit u).nightlyPrice ∧ ¬ Taken db u night) := by
  refine ⟨markDay (Queries.listOccupiedStays u.id u.bufferDays fromDate toDate db)
    (Pricing.day (pricingUnit u) night), ?_, ?_, ?_⟩
  · rw [markedDays, List.getElem?_map, Pricing.days_getElem? _ hf ht]
    rfl
  · rw [markDay_date]
    rfl
  · rw [markDay_available, ← mem_listOccupiedStays_iff hf ht]
    simp [Pricing.day]

theorem pricingUnitBySlug_reads (o : Oracle) (now : ℤ) {db : Db} {slug : String} {u : UnitRow}
    (hu : Queries.getPricingUnit (some slug) none true db = some u) :
    Reads postgres o now db (pricingUnitBySlug slug) u := by
  refine Reads.mapErr _ (Reads.bind (a := some u) (Reads.query ?_) (.pure u))
  rw [← hu]
  rfl

theorem getAvailability_answer (srv : Server) (o : Oracle) (now : ℤ) {db : Db} {slug : String}
    {u : UnitRow} (hu : Queries.getPricingUnit (some slug) none true db = some u)
    {fromText toText : String} {fromDate toDate : ℤ}
    (hr : parseRange fromText toText maxAvailabilitySpan = .ok (fromDate, toDate)) :
    answer postgres o now db (getAvailability srv slug fromText toText)
      = .ok (toCalendar (markedDays db u fromDate toDate) (srv.cairo.today o.clock)
          u.maxAdvanceDays) := by
  have hft := (parseRange_ok hr).1
  have htoday : Reads postgres o now db (cairoToday srv) (srv.cairo.today o.clock) :=
    (Reads.query rfl).bind (.pure _)
  rw [getAvailability, hr]
  exact ((pricingUnitBySlug_reads o now hu).bind (((markBooked_reads o now db u hft).mapErr _).bind
    ((htoday.mapErr _).bind (.pure (toCalendar _ _ _))))).answer

theorem quoteStay_answer (srv : Server) (o : Oracle) (now : ℤ) (db : Db) (u : UnitRow)
    (req : Pricing.Request) :
    answer postgres o now db (quoteStay srv u req)
      = match Pricing.quote srv.cairo (pricingUnit u) req o.clock with
        | .error e => .error (.rule e)
        | .ok b =>
          if Queries.countOverlappingStays u.id u.bufferDays req.checkIn req.checkOut db > 0 then
            .error (.rule ⟨"unavailable", "some of these nights are already booked"⟩)
          else .ok b := by
  have hclock : Reads postgres o now db Tx.now o.clock := Reads.query rfl
  rw [quoteStay, hclock.answer_bind]
  cases Pricing.quote srv.cairo (pricingUnit u) req o.clock with
  | error e => rfl
  | ok b =>
    have hcount : Reads postgres o now db
        (Tx.query (.countOverlappingStays u.id u.bufferDays req.checkIn req.checkOut))
        (Queries.countOverlappingStays u.id u.bufferDays req.checkIn req.checkOut db) :=
      Reads.query rfl
    refine hcount.answer_bind.trans ?_
    simp only [Prog.refuse]
    split <;> rfl

/-! ### The two agree -/

/-- The night is available in the days of a window that starts at `fromDate`. -/
def NightAvailable (days : List Pricing.Day) (fromDate night : ℤ) : Prop :=
  ∃ day, days[(night - fromDate).toNat]? = some day ∧ day.date = night ∧ day.available = true

theorem priced_of_isSome {u : UnitRow} (h : u.nightlyPrice.isSome) :
    0 < (pricingUnit u).nightlyPrice := by
  obtain ⟨p, hp⟩ := Option.isSome_iff_exists.mp h
  have hpos := u.price_pos p hp
  simpa [pricingUnit, hp] using hpos

/-- **The calendar and the booking check agree.**  For a priced unit and any stay inside a window,
no stay is counted against it exactly when every one of its nights is available once the window's
days are marked. -/
theorem availability_agrees (o : Oracle) (now : ℤ) (db : Db) {u : UnitRow}
    (hp : u.nightlyPrice.isSome) {checkIn checkOut fromDate toDate : ℤ} (hs : checkIn < checkOut)
    (hf : fromDate ≤ checkIn) (ht : checkOut - 1 ≤ toDate) :
    ∃ days, answer postgres o now db (markBooked u (Pricing.days (pricingUnit u) fromDate toDate))
        = .ok days ∧
      (Queries.countOverlappingStays u.id u.bufferDays checkIn checkOut db = 0 ↔
        ∀ night, checkIn ≤ night → night < checkOut → NightAvailable days fromDate night) := by
  refine ⟨_, (markBooked_reads o now db u (by omega)).answer, ?_⟩
  rw [countOverlappingStays_eq_zero_iff]
  constructor
  · intro hfree night hci hco
    obtain ⟨day, hday, hdate, havail⟩ :=
      markedDays_getElem? db u (show fromDate ≤ night by omega) (show night ≤ toDate by omega)
    exact ⟨day, hday, hdate, havail.mpr ⟨priced_of_isSome hp, hfree night hci hco⟩⟩
  · intro hopen night hci hco
    obtain ⟨day, hday, -, hav⟩ := hopen night hci hco
    obtain ⟨day', hday', -, havail⟩ :=
      markedDays_getElem? db u (show fromDate ≤ night by omega) (show night ≤ toDate by omega)
    rw [hday] at hday'
    cases hday'
    exact (havail.mp hav).2

/-- The tenth to the twelfth, booked. -/
def midMonth : Db :=
  served turnoverWorld [call 1 (noonOf newYear) (guestBooks "2027-01-10" "2027-01-12")]

/-- The day after the turnover day is the first one free again. -/
theorem availability_agrees_midMonth :
    (∃ days, answer postgres (oracleAt 2 (noonOf newYear)) 0 midMonth
        (markBooked (seaUnit 1 (by decide))
          (Pricing.days (pricingUnit (seaUnit 1 (by decide))) newYear (newYear + 30))) = .ok days ∧
      (Queries.countOverlappingStays 1 1 (newYear + 12) (newYear + 14) midMonth = 0 ↔
        ∀ night, newYear + 12 ≤ night → night < newYear + 14 → NightAvailable days newYear night)) ∧
    Queries.countOverlappingStays 1 1 (newYear + 12) (newYear + 14) midMonth = 0 ∧
    Queries.countOverlappingStays 1 1 (newYear + 11) (newYear + 14) midMonth = 1 :=
  ⟨availability_agrees (oracleAt 2 (noonOf newYear)) 0 midMonth (u := seaUnit 1 (by decide)) rfl
    (by decide) (by decide) (by decide), by decide +kernel, by decide +kernel⟩

/-! ### Accepted stays -/

/-- What an accepted stay has passed. -/
theorem quoteStay_ok {srv : Server} {o : Oracle} {now : ℤ} {db : Db} {u : UnitRow}
    {req : Pricing.Request} {b : Pricing.Breakdown}
    (h : answer postgres o now db (quoteStay srv u req) = .ok b) :
    Pricing.Accepted srv.cairo (pricingUnit u) req o.clock b ∧
      ∀ night, req.checkIn ≤ night → night < req.checkOut → ¬ Taken db u night := by
  rw [quoteStay_answer] at h
  cases hq : Pricing.quote srv.cairo (pricingUnit u) req o.clock with
  | error e =>
    rw [hq] at h
    cases h
  | ok c =>
    rw [hq] at h
    simp only at h
    split_ifs at h with hn
    cases h
    exact ⟨Pricing.quote_ok.mp hq,
      countOverlappingStays_eq_zero_iff.mp (Nat.eq_zero_of_not_pos hn)⟩

/-- With a notice that fits its duration, a stay starts today at the earliest. -/
theorem Pricing.Accepted.today_le {cairo : Cairo} {u : Pricing.Unit} {r : Pricing.Request} {t : ℤ}
    {b : Pricing.Breakdown} (h : Pricing.Accepted cairo u r t b) (h0 : 0 ≤ u.advanceNoticeHours)
    (hmax : u.advanceNoticeHours ≤ Pricing.maxNoticeHours) : cairo.today t ≤ r.checkIn := by
  by_contra hlt
  have hpast : cairo.dateIn r.checkIn Pricing.checkInHour < t :=
    cairo.dateIn_lt_of_lt_today (not_le.mp hlt)
  have hnotice := h.notice
  have hdur : 0 ≤ u.advanceNoticeHours * hour := Int.mul_nonneg h0 (by decide)
  rw [Pricing.hoursDuration_toInt h0 hmax] at hnotice
  omega

/-- The night's state in a calendar that starts at `fromDate`. -/
def NightState (days : List CalendarDay) (fromDate night : ℤ) (state : String) : Prop :=
  ∃ day, days[(night - fromDate).toNat]? = some day ∧ day.date = formatDate night ∧
    day.state = state

/-- **The nights of an accepted stay.**  It starts today at the earliest, unless the unit's notice
does not fit its duration; and in every window each of its nights from today on is free up to the
unit's booking horizon, and blocked after it. -/
theorem quoted_nights_open (srv : Server) (o : Oracle) (now : ℤ) {db : Db} {slug : String}
    {u : UnitRow} (hu : Queries.getPricingUnit (some slug) none true db = some u)
    {req : Pricing.Request} {b : Pricing.Breakdown}
    (hq : answer postgres o now db (quoteStay srv u req) = .ok b) :
    (u.advanceNoticeHours ≤ Pricing.maxNoticeHours → srv.cairo.today o.clock ≤ req.checkIn) ∧
    ∀ fromText toText fromDate toDate,
      parseRange fromText toText maxAvailabilitySpan = .ok (fromDate, toDate) →
      ∃ days, answer postgres o now db (getAvailability srv slug fromText toText) = .ok days ∧
        ∀ night, req.checkIn ≤ night → night < req.checkOut → fromDate ≤ night → night ≤ toDate →
          srv.cairo.today o.clock ≤ night →
          NightState days fromDate night
            (if night ≤ srv.cairo.today o.clock + u.maxAdvanceDays then "free" else "blocked") := by
  obtain ⟨hacc, hfree⟩ := quoteStay_ok hq
  refine ⟨fun hmax => hacc.today_le u.notice_check.1 hmax, ?_⟩
  intro fromText toText fromDate toDate hr
  refine ⟨_, getAvailability_answer srv o now hu hr, ?_⟩
  intro night hci hco hf ht htoday
  obtain ⟨day, hday, hdate, havail⟩ := markedDays_getElem? db u hf ht
  have hav : day.available = true := havail.mpr ⟨hacc.priced, hfree night hci hco⟩
  refine ⟨calendarDay (srv.cairo.today o.clock) u.maxAdvanceDays day, ?_, ?_, ?_⟩
  · rw [toCalendar, List.getElem?_map, hday]
    rfl
  · rw [calendarDay, hdate]
  · simp only [calendarDay, hdate, hav, if_neg (not_lt.mpr htoday), true_and]

/-- A stay inside the horizon. -/
theorem quoted_nights_open_nextWeek :
    ∃ days, answer postgres (oracleAt 1 (noonOf newYear)) 0 turnoverWorld
        (getAvailability winterServer "sea-view" "2027-01-01" "2027-01-31") = .ok days ∧
      NightState days newYear (newYear + 7) "free" := by
  have hu : Queries.getPricingUnit (some "sea-view") none true turnoverWorld
      = some (seaUnit 1 (by decide)) := rfl
  have hq : answer postgres (oracleAt 1 (noonOf newYear)) 0 turnoverWorld
      (quoteStay winterServer (seaUnit 1 (by decide)) ⟨newYear + 7, newYear + 9, 2⟩)
        = .ok ⟨500000, 2, 1000000, 500000⟩ := by decide +kernel
  obtain ⟨days, hdays, hstate⟩ := (quoted_nights_open winterServer (oracleAt 1 (noonOf newYear)) 0 hu
    hq).2 "2027-01-01" "2027-01-31" newYear (newYear + 30) (by decide +kernel)
  exact ⟨days, hdays, hstate (newYear + 7) (by decide) (by decide) (by decide) (by decide)
    (by decide +kernel)⟩

/-- **A stay runs past the horizon.**  Sixty days ahead, a stay of two nights is accepted; the
calendar closes the second. -/
theorem quoted_nights_closed :
    ¬ ∀ (srv : Server) (o : Oracle) (now : ℤ) (db : Db) (slug : String) (u : UnitRow)
        (inText outText : String) (checkIn checkOut guests : ℤ) (b : Pricing.Breakdown),
      Queries.getPricingUnit (some slug) none true db = some u →
      parseRange inText outText maxAvailabilitySpan = .ok (checkIn, checkOut) →
      answer postgres o now db (quoteStay srv u ⟨checkIn, checkOut, guests⟩) = .ok b →
      ∀ fromText toText fromDate toDate days,
        parseRange fromText toText maxAvailabilitySpan = .ok (fromDate, toDate) →
        answer postgres o now db (getAvailability srv slug fromText toText) = .ok days →
        ∀ night, checkIn ≤ night → night < checkOut → fromDate ≤ night → night ≤ toDate →
          NightState days fromDate night "free" := by
  intro h
  have hu : Queries.getPricingUnit (some "sea-view") none true turnoverWorld
      = some (seaUnit 1 (by decide)) := rfl
  have hr : parseRange "2027-03-01" "2027-03-31" maxAvailabilitySpan
      = .ok (newYear + 59, newYear + 89) := by decide +kernel
  obtain ⟨day, hday, -, hstate⟩ := h winterServer (oracleAt 1 (noonOf newYear)) 0 _ _ _
    "2027-03-02" "2027-03-04" (newYear + 60) (newYear + 62) 2 ⟨500000, 2, 1000000, 500000⟩ hu
    (by decide +kernel) (by decide +kernel) "2027-03-01" "2027-03-31" _ _ _ hr
    (getAvailability_answer winterServer (oracleAt 1 (noonOf newYear)) 0 hu hr)
    (newYear + 61) (by decide) (by decide) (by decide) (by decide)
  have hblocked : (toCalendar (markedDays turnoverWorld (seaUnit 1 (by decide))
      (newYear + 59) (newYear + 89)) (winterServer.cairo.today (noonOf newYear)) 60)[
        (newYear + 61 - (newYear + 59)).toNat]?.map CalendarDay.state = some "blocked" := by
    decide +kernel
  have hfree := congrArg (Option.map CalendarDay.state) hday
  rw [Option.map_some, hstate] at hfree
  exact absurd (hblocked.symm.trans hfree) (by decide)

/-! ### Free days -/

/-- **What a free label says.**  The day is not past, not beyond the horizon, priced and not
taken. -/
theorem nightState_free {db : Db} {u : UnitRow} {fromDate toDate today night : ℤ}
    (hf : fromDate ≤ night) (ht : night ≤ toDate)
    (h : NightState (toCalendar (markedDays db u fromDate toDate) today u.maxAdvanceDays) fromDate
      night "free") :
    today ≤ night ∧ night ≤ today + u.maxAdvanceDays ∧ 0 < (pricingUnit u).nightlyPrice ∧
      ¬ Taken db u night := by
  obtain ⟨day, hday, hdate, havail⟩ := markedDays_getElem? db u hf ht
  obtain ⟨c, hc, -, hstate⟩ := h
  rw [toCalendar, List.getElem?_map, hday] at hc
  cases hc
  simp only [calendarDay, hdate] at hstate
  by_cases hpast : night < today
  · rw [if_pos hpast] at hstate
    exact absurd hstate (by decide)
  · by_cases hopen : day.available = true ∧ night ≤ today + u.maxAdvanceDays
    · obtain ⟨hprice, hfree⟩ := havail.mp hopen.1
      exact ⟨not_lt.mp hpast, hopen.2, hprice, hfree⟩
    · rw [if_neg hpast, if_neg hopen] at hstate
      exact absurd hstate (by decide)

/-- **A free day, quoted.**  The calendar's label leaves two rules of the quote out: a day labelled
free is refused when the unit sleeps nobody, or when 14:00 in Cairo on that day comes before the
unit's notice has run; every other free day is sold for one night at the unit's price. -/
theorem free_day_quoted (srv : Server) (o : Oracle) (now : ℤ) {db : Db} {slug : String}
    {u : UnitRow} (hu : Queries.getPricingUnit (some slug) none true db = some u)
    {fromText toText : String} {fromDate toDate : ℤ}
    (hr : parseRange fromText toText maxAvailabilitySpan = .ok (fromDate, toDate))
    {days : List CalendarDay}
    (hdays : answer postgres o now db (getAvailability srv slug fromText toText) = .ok days)
    {d : ℤ} (hf : fromDate ≤ d) (ht : d ≤ toDate) (hd : NightState days fromDate d "free") :
    answer postgres o now db (quoteStay srv u ⟨d, d + 1, 1⟩) =
      if u.maxGuests < 1 then
        .error (.rule ⟨"invalid_range", "guests must be between 1 and " ++ toString u.maxGuests⟩)
      else if srv.cairo.dateIn d Pricing.checkInHour
          < o.clock + (Pricing.hoursDuration u.advanceNoticeHours).toInt then
        .error (.rule ⟨"too_soon",
          "book at least " ++ toString u.advanceNoticeHours ++ " hours ahead"⟩)
      else .ok ⟨(pricingUnit u).nightlyPrice, 1, (pricingUnit u).nightlyPrice,
        (pricingUnit u).nightlyPrice⟩ := by
  rw [getAvailability_answer srv o now hu hr] at hdays
  cases hdays
  obtain ⟨-, hhorizon, hprice, hfree⟩ := nightState_free hf ht hd
  have hnights : daysBetween d (d + 1) = 1 := by
    rw [daysBetween_eq (by omega) (by omega)]
    omega
  have hcount : Queries.countOverlappingStays u.id u.bufferDays d (d + 1) db = 0 := by
    rw [countOverlappingStays_eq_zero_iff]
    intro night hci hco
    rw [show night = d by omega]
    exact hfree
  have hguests : (pricingUnit u).maxGuests = u.maxGuests := rfl
  have hnotice : (pricingUnit u).advanceNoticeHours = u.advanceNoticeHours := rfl
  have hadvance : (pricingUnit u).maxAdvanceDays = u.maxAdvanceDays := rfl
  rw [quoteStay_answer, hcount, Pricing.quote]
  simp only [hnights, hguests, hnotice, hadvance]
  rw [if_neg (by omega)]
  by_cases hsleeps : u.maxGuests < 1
  · rw [if_pos (Or.inr hsleeps), if_pos hsleeps]
  · rw [if_neg (by omega), if_neg hsleeps, if_neg (Int64.not_le.mpr hprice)]
    by_cases hsoon : srv.cairo.dateIn d Pricing.checkInHour
        < o.clock + (Pricing.hoursDuration u.advanceNoticeHours).toInt
    · rw [if_pos hsoon, if_pos hsoon]
    · rw [if_neg hsoon, if_neg hsoon, if_neg (by omega)]
      simp

/-- A day next week is sold. -/
theorem free_day_quoted_nextWeek :
    answer postgres (oracleAt 1 (noonOf newYear)) 0 turnoverWorld
      (quoteStay winterServer (seaUnit 1 (by decide)) ⟨newYear + 7, newYear + 7 + 1, 1⟩)
      = .ok ⟨500000, 1, 500000, 500000⟩ := by
  have hu : Queries.getPricingUnit (some "sea-view") none true turnoverWorld
      = some (seaUnit 1 (by decide)) := rfl
  have hr : parseRange "2027-01-01" "2027-01-31" maxAvailabilitySpan
      = .ok (newYear, newYear + 30) := by decide +kernel
  rw [free_day_quoted winterServer (oracleAt 1 (noonOf newYear)) 0 hu hr
    (getAvailability_answer winterServer (oracleAt 1 (noonOf newYear)) 0 hu hr) (d := newYear + 7)
    (by decide) (by decide) ⟨⟨"2027-01-08", some 500000, "free"⟩, by decide +kernel,
      by decide +kernel, rfl⟩]
  decide +kernel

/-- **A free day nobody can book.**  At noon of New Year's Day the calendar shows the day free; the
unit asks for a day's notice, so the night is refused. -/
theorem free_day_refused :
    ¬ ∀ (srv : Server) (o : Oracle) (now : ℤ) (db : Db) (slug : String) (u : UnitRow)
      (fromText toText : String) (fromDate toDate : ℤ) (days : List CalendarDay) (d : ℤ),
      Queries.getPricingUnit (some slug) none true db = some u →
      parseRange fromText toText maxAvailabilitySpan = .ok (fromDate, toDate) →
      answer postgres o now db (getAvailability srv slug fromText toText) = .ok days →
      fromDate ≤ d → d ≤ toDate → NightState days fromDate d "free" →
      ∃ b, answer postgres o now db (quoteStay srv u ⟨d, d + 1, 1⟩) = .ok b := by
  intro h
  have hu : Queries.getPricingUnit (some "sea-view") none true turnoverWorld
      = some (seaUnit 1 (by decide)) := rfl
  have hr : parseRange "2027-01-01" "2027-01-31" maxAvailabilitySpan
      = .ok (newYear, newYear + 30) := by decide +kernel
  obtain ⟨b, hb⟩ := h winterServer (oracleAt 1 (noonOf newYear)) 0 _ _ _ "2027-01-01" "2027-01-31"
    newYear (newYear + 30) _ newYear hu hr
    (getAvailability_answer winterServer (oracleAt 1 (noonOf newYear)) 0 hu hr) (by decide)
    (by decide) ⟨⟨"2027-01-01", some 500000, "free"⟩, by decide +kernel, by decide +kernel, rfl⟩
  have hrefused : answer postgres (oracleAt 1 (noonOf newYear)) 0 turnoverWorld
      (quoteStay winterServer (seaUnit 1 (by decide)) ⟨newYear, newYear + 1, 1⟩)
      = .error (.rule ⟨"too_soon", "book at least 24 hours ahead"⟩) := by decide +kernel
  rw [hrefused] at hb
  cases hb

end Sahel

import Sahel.Web.Timeline
import Sahel.Domain.DateText
import Sahel.Model.References
import Sahel.Safety.Availability
import Sahel.Safety.Nights

/-!
# The timeline shows the truth, once

From the rows to the columns of the dashboard's timeline: the invariant that no night of a unit has
two owners, the window the queries read, and texts counted in milliseconds in the browser.

* `place_formatDate`: on dates of four-digit years, `place` is arithmetic on the dates;
* `timelineStays`: a unit's row lists, once each, the stays on it that reach into the window;
* **`timeline_truth`**: so in every reachable state the bars of each unit lie inside the columns,
  no column has two, and a column has one exactly when its night is held.
-/

set_option autoImplicit false

namespace Sahel

open KeyedTable HalfOpen ReadCommitted

namespace Web

/-! ### Dates in the browser -/

theorem dateParse_formatDate {d : ℤ} (h : FourDigit d) :
    dateParse (formatDate d) = some (d * dayMs) := by
  rw [dateParse, parseDate_formatDate h]
  rfl

/-- A day's first millisecond prints as the day. -/
theorem isoDay_mul {d : ℤ} (h : FourDigit d) : isoDay (d * dayMs) = some (formatDate d) := by
  have hbound : (d * dayMs).natAbs ≤ 8640000000000000 := by
    have h₁ := h.1
    have h₂ := h.2
    unfold dayMs
    omega
  have hday : d * dayMs / dayMs = d := Int.mul_ediv_cancel d (by decide)
  have hlen : (formatDate d).toList.length = 10 := by
    rw [toList_formatDate h]
    simp [digits]
  rw [isoDay, if_pos hbound]
  simp only [hday, isoYear, if_pos h.year]
  rw [← formatDate, List.take_of_length_le (by omega), String.ofList_toList]

theorem addDays_formatDate {d n : ℤ} (h : FourDigit d) (hn : FourDigit (d + n)) :
    addDays (formatDate d) n = some (formatDate (d + n)) := by
  rw [addDays, dateParse_formatDate h]
  show isoDay (d * dayMs + n * dayMs) = _
  rw [← add_mul, isoDay_mul hn]

theorem roundDays_sub (a b : ℤ) : roundDays (a * dayMs - b * dayMs) = a - b := by
  unfold roundDays dayMs
  omega

/-- The bar of a stay, from its dates. -/
def placed (fromDate count : ℤ) (stay : ℤ × ℤ) : Placement where
  col := max stay.1 fromDate - fromDate
  span := min stay.2 (fromDate + count) - max stay.1 fromDate
  clippedStart := decide (stay.1 < fromDate)
  clippedEnd := decide (fromDate + count < stay.2)

/-- **`place` on dates.** -/
theorem place_formatDate {start stop fromDate count : ℤ} (hs : FourDigit start) (he : FourDigit stop)
    (hf : FourDigit fromDate) (ht : FourDigit (fromDate + count)) (hse : start < stop) :
    place (formatDate start) (formatDate stop) (formatDate fromDate) count =
      some (if stop ≤ fromDate ∨ fromDate + count ≤ start then none
        else some (placed fromDate count (start, stop))) := by
  have hfirst : (if start < fromDate then formatDate fromDate else formatDate start)
      = formatDate (max start fromDate) := by
    by_cases hlt : start < fromDate
    · rw [if_pos hlt, max_eq_right hlt.le]
    · rw [if_neg hlt, max_eq_left (not_lt.mp hlt)]
  have hlast : (if fromDate + count < stop then formatDate (fromDate + count) else formatDate stop)
      = formatDate (min stop (fromDate + count)) := by
    by_cases hlt : fromDate + count < stop
    · rw [if_pos hlt, min_eq_right hlt.le]
    · rw [if_neg hlt, min_eq_left (not_lt.mp hlt)]
  have hmax : FourDigit (max start fromDate) := by
    rcases max_choice start fromDate with h | h <;> rw [h] <;> assumption
  have hmin : FourDigit (min stop (fromDate + count)) := by
    rcases min_choice stop (fromDate + count) with h | h <;> rw [h] <;> assumption
  rw [place, addDays_formatDate hf ht]
  simp only [Option.bind_eq_bind, Option.bind_some, formatDate_le_iff he hf, formatDate_le_iff ht hs,
    formatDate_le_iff he hs, formatDate_lt_iff hs hf, formatDate_lt_iff ht he, not_le.mpr hse,
    or_false]
  rw [hfirst, hlast, dateParse_formatDate hmax, dateParse_formatDate hmin, dateParse_formatDate hf]
  simp only [Option.bind_some, roundDays_sub]
  split <;> rfl

/-- A bar covers the columns of the nights its stay has in the window. -/
theorem covers_placed {start stop fromDate count i : ℤ} (h0 : 0 ≤ i) (hi : i < count) :
    (placed fromDate count (start, stop)).Covers i ↔
      start ≤ fromDate + i ∧ fromDate + i < stop := by
  simp only [Placement.Covers, placed]
  omega

/-- A stay that reaches into the window has its bar inside the columns. -/
theorem placed_inside {start stop fromDate count : ℤ} (h : Overlaps start stop fromDate (fromDate + count)) :
    0 ≤ (placed fromDate count (start, stop)).col ∧ 0 < (placed fromDate count (start, stop)).span ∧
      (placed fromDate count (start, stop)).col + (placed fromDate count (start, stop)).span ≤ count := by
  obtain ⟨hse, hft, hst, hfe⟩ := h
  simp only [placed]
  omega

end Web

/-! ### The stays of a row -/

theorem mem_timelineBookings {db : Db} {f t : ℤ} {x : TimelineBookingsRow} :
    x ∈ Queries.timelineBookings f t db ↔ ∃ b ∈ db.bookings,
      (b.Occupies ∧ Overlaps b.checkIn b.checkOut f t) ∧ ∃ c, db.customers.find? b.customerId = some c ∧
        ⟨b.id, b.ref, b.unitId, b.status, b.checkIn, b.checkOut, c.name⟩ = x := by
  simp only [Queries.timelineBookings, List.mem_insertionSort, List.mem_filterMap, List.mem_filter,
    decide_eq_true_eq, Option.map_eq_some_iff, Table.mem_def, and_assoc]

theorem mem_timelineBlocks {db : Db} {f t : ℤ} {k : BlockRow} :
    k ∈ Queries.timelineBlocks f t db ↔ k ∈ db.blocks ∧ Overlaps k.startDate k.endDate f t := by
  simp only [Queries.timelineBlocks, List.mem_insertionSort, List.mem_filter, decide_eq_true_eq,
    Table.mem_def]

/-- The stays the timeline lists for a unit, from their dates. -/
def timelineStays (db : Db) (u : UnitRow) (f t : ℤ) : List (ℤ × ℤ) :=
  ((Queries.timelineBookings f t db).filter (fun b => b.unitId = u.id)).map
    (fun b => (b.checkIn, b.checkOut))
  ++ ((Queries.timelineBlocks f t db).filter (fun k => k.unitId = u.id)).map
    (fun k => (k.startDate, k.endDate))

/-- An occupying booking or a block of the unit has the night. -/
def Held (db : Db) (u : UnitRow) (night : ℤ) : Prop :=
  (∃ b ∈ db.bookings, b.unitId = u.id ∧ b.Occupies ∧ b.checkIn ≤ night ∧ night < b.checkOut)
  ∨ ∃ k ∈ db.blocks, k.unitId = u.id ∧ k.startDate ≤ night ∧ night < k.endDate

/-- Every date is of a four-digit year. -/
structure FourDigitDates (db : Db) : Prop where
  bookings : ∀ b ∈ db.bookings, FourDigit b.checkIn ∧ FourDigit b.checkOut
  blocks : ∀ k ∈ db.blocks, FourDigit k.startDate ∧ FourDigit k.endDate

/-- The stays listed reach into the window. -/
theorem overlaps_of_mem_timelineStays {db : Db} {u : UnitRow} {f t : ℤ} {x : ℤ × ℤ}
    (hx : x ∈ timelineStays db u f t) : Overlaps x.1 x.2 f t := by
  rcases List.mem_append.mp hx with hx | hx
  · obtain ⟨y, hy, rfl⟩ := List.mem_map.mp hx
    obtain ⟨b, -, ⟨-, hov⟩, c, -, rfl⟩ := mem_timelineBookings.mp (List.mem_filter.mp hy).1
    exact hov
  · obtain ⟨k, hk, rfl⟩ := List.mem_map.mp hx
    exact (mem_timelineBlocks.mp (List.mem_filter.mp hk).1).2

theorem fourDigit_of_mem_timelineStays {db : Db} (h : FourDigitDates db) {u : UnitRow} {f t : ℤ}
    {x : ℤ × ℤ} (hx : x ∈ timelineStays db u f t) : FourDigit x.1 ∧ FourDigit x.2 := by
  rcases List.mem_append.mp hx with hx | hx
  · obtain ⟨y, hy, rfl⟩ := List.mem_map.mp hx
    obtain ⟨b, hb, -, c, -, rfl⟩ := mem_timelineBookings.mp (List.mem_filter.mp hy).1
    exact h.bookings b hb
  · obtain ⟨k, hk, rfl⟩ := List.mem_map.mp hx
    exact h.blocks k (mem_timelineBlocks.mp (List.mem_filter.mp hk).1).1

/-- A night of the window, counted over the listed stays, is counted over the rows. -/
theorem countP_timelineStays {db : Db} (hr : Referential db) (u : UnitRow) {f t night : ℤ}
    (hf : f ≤ night) (ht : night < t) :
    (timelineStays db u f t).countP (fun x => decide (x.1 ≤ night ∧ night < x.2)) =
      db.bookings.rows.countP (fun b => decide (b.unitId = u.id ∧ b.Occupies ∧ b.checkIn ≤ night
        ∧ night < b.checkOut)) +
      db.blocks.rows.countP (fun k => decide (k.unitId = u.id ∧ k.startDate ≤ night
        ∧ night < k.endDate)) := by
  rw [timelineStays, List.countP_append, List.countP_map, List.countP_map, List.countP_filter,
    List.countP_filter]
  congr 1
  · rw [Queries.timelineBookings, (List.perm_insertionSort _ _).countP_eq, List.countP_filterMap,
      List.countP_filter]
    refine List.countP_congr (fun b hb => ?_)
    obtain ⟨c, hc, hid⟩ := hr.customer b hb
    have hfind : db.customers.find? b.customerId = some c := by
      rw [← hid]
      exact Table.find?_of_mem hc
    simp only [hfind, Option.map_some, Option.getD_some, Function.comp_apply, Bool.and_eq_true,
      decide_eq_true_eq]
    constructor
    · rintro ⟨⟨hin, hu⟩, ho, -⟩
      exact ⟨hu, ho, hin⟩
    · rintro ⟨hu, ho, hin⟩
      exact ⟨⟨hin, hu⟩, ho, overlaps_iff.mpr ⟨night, hin, hf, ht⟩⟩
  · rw [Queries.timelineBlocks, (List.perm_insertionSort _ _).countP_eq, List.countP_filter]
    refine List.countP_congr (fun k hk => ?_)
    simp only [Function.comp_apply, Bool.and_eq_true, decide_eq_true_eq]
    constructor
    · rintro ⟨⟨hin, hu⟩, -⟩
      exact ⟨hu, hin⟩
    · rintro ⟨hu, hin⟩
      exact ⟨⟨hin, hu⟩, overlaps_iff.mpr ⟨night, hin, hf, ht⟩⟩

/-- **Each held night is listed once, and no other night is.** -/
theorem countP_timelineStays_le_one {db : Db} (hn : NightsApart db) (hr : Referential db)
    (u : UnitRow) {f t night : ℤ} (hf : f ≤ night) (ht : night < t) :
    (timelineStays db u f t).countP (fun x => decide (x.1 ≤ night ∧ night < x.2)) ≤ 1 ∧
      (0 < (timelineStays db u f t).countP (fun x => decide (x.1 ≤ night ∧ night < x.2)) ↔
        Held db u night) := by
  rw [countP_timelineStays hr u hf ht]
  refine ⟨hn.countP_le_one u.id night, ?_⟩
  rw [Nat.add_pos_iff_pos_or_pos, List.countP_pos_iff, List.countP_pos_iff]
  simp only [decide_eq_true_eq]
  exact Iff.rfl

/-! ### The bars of a row -/

theorem mapM_eq_some_map {α β : Type} {l : List α} {f : α → Option β} {g : α → β}
    (h : ∀ a ∈ l, f a = some (g a)) : l.mapM f = some (l.map g) := by
  induction l with
  | nil => rfl
  | cons a l ih =>
    obtain ⟨ha, hl⟩ := List.forall_mem_cons.mp h
    rw [List.mapM_cons, ha, ih hl]
    rfl

/-- **A row, drawn.**  Every stay of the row gets its bar. -/
theorem rowBars_timelineUnit {db : Db} (hy : FourDigitDates db) (u : UnitRow) {f count : ℤ}
    (hf : FourDigit f) (ht : FourDigit (f + count)) {view : TimelineView}
    (hfrom : view.fromText = formatDate f) (hdays : view.days = count) :
    Web.rowBars view (timelineUnit (Queries.timelineBookings f (f + count) db)
        (Queries.timelineBlocks f (f + count) db) u)
      = some ((timelineStays db u f (f + count)).map (Web.placed f count)) := by
  have hplace : ∀ x ∈ timelineStays db u f (f + count),
      Web.place (formatDate x.1) (formatDate x.2) (formatDate f) count
        = some (some (Web.placed f count x)) := by
    intro x hx
    obtain ⟨hse, -, hst, hfe⟩ := overlaps_of_mem_timelineStays hx
    obtain ⟨hs, he⟩ := fourDigit_of_mem_timelineStays hy hx
    rw [Web.place_formatDate hs he hf ht hse, if_neg (by omega)]
  have hbookings : ((timelineUnit (Queries.timelineBookings f (f + count) db)
      (Queries.timelineBlocks f (f + count) db) u).bookings.mapM
        (fun b => Web.place b.checkIn b.checkOut view.fromText view.days))
      = some (((Queries.timelineBookings f (f + count) db).filter (fun b => b.unitId = u.id)).map
          (fun b => some (Web.placed f count (b.checkIn, b.checkOut)))) := by
    rw [timelineUnit, List.mapM_map, hfrom, hdays]
    refine mapM_eq_some_map (fun b hb => hplace (b.checkIn, b.checkOut) ?_)
    exact List.mem_append_left _ (List.mem_map_of_mem hb)
  have hblocks : ((timelineUnit (Queries.timelineBookings f (f + count) db)
      (Queries.timelineBlocks f (f + count) db) u).blocks.mapM
        (fun k => Web.place k.start k.stop view.fromText view.days))
      = some (((Queries.timelineBlocks f (f + count) db).filter (fun k => k.unitId = u.id)).map
          (fun k => some (Web.placed f count (k.startDate, k.endDate)))) := by
    rw [timelineUnit, List.mapM_map, hfrom, hdays]
    refine mapM_eq_some_map (fun k hk => hplace (k.startDate, k.endDate) ?_)
    exact List.mem_append_right _ (List.mem_map_of_mem hk)
  rw [Web.rowBars, hbookings, hblocks]
  simp [timelineStays, List.filterMap_append, List.filterMap_map, Function.comp_def]

/-- What a row of bars says about the unit's nights from `fromDate` on. -/
structure RowTrue (db : Db) (u : UnitRow) (fromDate count : ℤ) (bars : List Web.Placement) : Prop where
  inside : ∀ p ∈ bars, 0 ≤ p.col ∧ 0 < p.span ∧ p.col + p.span ≤ count
  once : ∀ i, 0 ≤ i → i < count → bars.countP (fun p => decide (p.Covers i)) ≤ 1
  held : ∀ i, 0 ≤ i → i < count → ((∃ p ∈ bars, p.Covers i) ↔ Held db u (fromDate + i))

theorem rowTrue {db : Db} (hn : NightsApart db) (hr : Referential db) (u : UnitRow) (f count : ℤ) :
    RowTrue db u f count ((timelineStays db u f (f + count)).map (Web.placed f count)) := by
  have hcount : ∀ i, 0 ≤ i → i < count →
      ((timelineStays db u f (f + count)).map (Web.placed f count)).countP
          (fun p => decide (p.Covers i))
        = (timelineStays db u f (f + count)).countP
          (fun x => decide (x.1 ≤ f + i ∧ f + i < x.2)) := by
    intro i h0 hi
    rw [List.countP_map]
    refine List.countP_congr (fun x _ => ?_)
    simp only [Function.comp_apply, decide_eq_true_eq]
    exact Web.covers_placed h0 hi
  constructor
  · intro p hp
    obtain ⟨x, hx, rfl⟩ := List.mem_map.mp hp
    exact Web.placed_inside (overlaps_of_mem_timelineStays hx)
  · intro i h0 hi
    rw [hcount i h0 hi]
    exact (countP_timelineStays_le_one hn hr u (by omega) (by omega)).1
  · intro i h0 hi
    have hpos := (countP_timelineStays_le_one hn hr u (show f ≤ f + i by omega)
      (show f + i < f + count by omega)).2
    rw [← hpos, ← hcount i h0 hi, List.countP_pos_iff]
    simp only [decide_eq_true_eq]

/-! ### The timeline -/

/-- The answer to a timeline request. -/
def timelineView (srv : Server) (t : ℤ) (db : Db) (fromDate count : ℤ) : TimelineView where
  fromText := formatDate fromDate
  days := count
  today := formatDate (srv.cairo.today t)
  units := (Queries.timelineUnits db).map (timelineUnit
    (Queries.timelineBookings fromDate (fromDate + count) db)
    (Queries.timelineBlocks fromDate (fromDate + count) db))

theorem adminTimeline_answer (srv : Server) (o : Oracle) (now : ℤ) (db : Db)
    {fromText daysText : String} {fromDate count : ℤ} (hf : parseDate fromText = some fromDate)
    (hc : timelineDays daysText = some count) :
    answer postgres o now db (adminTimeline srv fromText daysText)
      = .ok (timelineView srv o.clock db fromDate count) := by
  have htoday : Reads postgres o now db (cairoToday srv) (srv.cairo.today o.clock) :=
    (Reads.query rfl).bind (.pure _)
  have hunits : Reads postgres o now db (Tx.query .timelineUnits) (Queries.timelineUnits db) :=
    Reads.query rfl
  have hbookings : Reads postgres o now db
      (Tx.query (.timelineBookings fromDate (fromDate + count)))
      (Queries.timelineBookings fromDate (fromDate + count) db) := Reads.query rfl
  have hblocks : Reads postgres o now db (Tx.query (.timelineBlocks fromDate (fromDate + count)))
      (Queries.timelineBlocks fromDate (fromDate + count) db) := Reads.query rfl
  rw [adminTimeline, hf, hc]
  exact ((hunits.mapErr _).bind ((hbookings.mapErr _).bind ((hblocks.mapErr _).bind
    ((htoday.mapErr _).bind (.pure (timelineView srv o.clock db fromDate count)))))).answer

/-- What `place` says of a stay against a window. -/
def PlaceTrue (fromDate count start stop : ℤ) (bar : Option Web.Placement) : Prop :=
  (bar = none ↔ ¬ ∃ night, (start ≤ night ∧ night < stop) ∧ fromDate ≤ night ∧ night < fromDate + count) ∧
  ∀ p ∈ bar,
    (p.clippedStart = true ↔ ∃ night, (start ≤ night ∧ night < stop) ∧ night < fromDate) ∧
    (p.clippedEnd = true ↔ ∃ night, (start ≤ night ∧ night < stop) ∧ fromDate + count ≤ night)

theorem timelineDays_pos {text : String} {count : ℤ} (h : timelineDays text = some count) :
    1 ≤ count := by
  unfold timelineDays at h
  split_ifs at h
  · cases h
    decide
  · split at h
    · split_ifs at h with hr
      cases h
      omega
    · cases h

/-- **Every stay has its place.** -/
theorem exists_placeTrue {start stop fromDate count : ℤ} (hs : FourDigit start)
    (he : FourDigit stop) (hf : FourDigit fromDate) (ht : FourDigit (fromDate + count))
    (hpos : 1 ≤ count) (hse : start < stop) :
    ∃ bar, Web.place (formatDate start) (formatDate stop) (formatDate fromDate) count = some bar ∧
      PlaceTrue fromDate count start stop bar := by
  refine ⟨_, Web.place_formatDate hs he hf ht hse, ?_⟩
  split_ifs with hout
  · refine ⟨⟨fun _ => ?_, fun _ => rfl⟩, fun p hp => absurd hp (by simp)⟩
    rintro ⟨night, hin, hwin⟩
    omega
  · refine ⟨⟨fun hn => absurd hn (by simp), fun hno => absurd ?_ hno⟩, ?_⟩
    · exact ⟨max start fromDate, by omega, by omega⟩
    · intro p hp
      cases hp
      simp only [Web.placed, decide_eq_true_eq]
      constructor
      · constructor
        · intro hlt
          exact ⟨start, ⟨le_rfl, hse⟩, hlt⟩
        · rintro ⟨night, hin, hlt⟩
          omega
      · constructor
        · intro hlt
          exact ⟨stop - 1, by omega, by omega⟩
        · rintro ⟨night, hin, hle⟩
          omega

/-- **The timeline shows the truth, once.**  In every reachable state, for every window the server
accepts with dates of four-digit years: each unit that is not archived has its row, whose bars lie
inside the columns, share none, and cover a column exactly when the unit's night is held; and
`place` leaves out exactly the stays without a night in the window, and marks those that go on
before or after it. -/
theorem timeline_truth (srv : Server) {db₀ : Db} (h₀ : db₀.Unbooked) {s : Sys}
    (h : Reaches srv anyCommit db₀ s) (o : Oracle) (now : ℤ) {fromText daysText : String}
    {fromDate count : ℤ} (hf : parseDate fromText = some fromDate)
    (hc : timelineDays daysText = some count) (ht : FourDigit (fromDate + count))
    (hy : FourDigitDates s.db) :
    ∃ view, answer postgres o now s.db (adminTimeline srv fromText daysText) = .ok view ∧
      (∀ u ∈ s.db.units, u.status ≠ .archived → ∃ row ∈ view.units, row.id = u.id ∧
        ∃ bars, Web.rowBars view row = some bars ∧ RowTrue s.db u fromDate count bars) ∧
      ∀ start stop, FourDigit start → FourDigit stop → start < stop →
        ∃ bar, Web.place (formatDate start) (formatDate stop) view.fromText view.days = some bar ∧
          PlaceTrue fromDate count start stop bar := by
  have hfd : FourDigit fromDate := fourDigit_of_parseDate hf
  refine ⟨_, adminTimeline_answer srv o now s.db hf hc, ?_, ?_⟩
  · intro u hu hs
    have hlisted : u ∈ Queries.timelineUnits s.db :=
      List.mem_filter.mpr ⟨hu, decide_eq_true hs⟩
    refine ⟨_, List.mem_map_of_mem hlisted, rfl, _, rowBars_timelineUnit hy u hfd ht rfl rfl, ?_⟩
    exact rowTrue (no_double_booking srv h₀ h).1 (reaches_referential h₀ h) u fromDate count
  · intro start stop hs he hse
    exact exists_placeTrue hs he hfd ht (timelineDays_pos hc) hse

/-- A week with the booked nights of the middle of the month. -/
theorem timeline_truth_midMonth :
    ∃ view, answer postgres (oracleAt 2 (noonOf newYear)) 0 midMonth
        (adminTimeline winterServer "2027-01-08" "7") = .ok view ∧
      ∃ row ∈ view.units, row.id = 1 ∧
        ∃ bars, Web.rowBars view row = some bars ∧
          RowTrue midMonth (seaUnit 1 (by decide)) (newYear + 7) 7 bars := by
  have hy : FourDigitDates midMonth := ⟨by decide +kernel, by decide +kernel⟩
  have h : Reaches winterServer anyCommit turnoverWorld (State.quiet midMonth) :=
    reaches_served_any turnoverWorld [call 1 (noonOf newYear) (guestBooks "2027-01-10" "2027-01-12")]
  have hf : parseDate "2027-01-08" = some (newYear + 7) := by decide +kernel
  have hc : timelineDays "7" = some 7 := by decide +kernel
  have hu : seaUnit 1 (by decide) ∈ midMonth.units := Table.mem_def.mpr (by decide +kernel)
  have htrue := timeline_truth winterServer turnoverWorld_unbooked h
    (oracleAt 2 (noonOf newYear)) 0 hf hc (by decide)
  rw [State.quiet_db] at htrue
  obtain ⟨view, hview, hrows, -⟩ := htrue hy
  exact ⟨view, hview, hrows _ hu (by decide)⟩

end Sahel

import Sahel.Library.RangeCount
import Sahel.Domain.Months
import Sahel.Http.Reports
import Sahel.Safety.Payments
import Sahel.Model.World

/-!
# What the reports add up to

The two tables of a year's report are two ways to cut the same nights: month by month over all
units, and unit by unit over the whole year.

* `monthRow` and `unitRow` are the rows with integers for sums: what the queries answer when these
  are in range, and else they fail (`reportMonths_eq`, `reportUnits_eq`);
* `soldPairs` is what both count: each sold booking with each of its nights in the window;
* `sum_weighed_months` and `sum_weighed_units` are the two cuts, and **`reports_add_up`** the
  result;
* **`reports_collected`**: over years that hold every verification, the payments collected are the
  paid totals of all bookings, unless a sum is out of range.
-/

set_option autoImplicit false

namespace Sahel

open KeyedTable HalfOpen ReadCommitted Queries

/-! ### The rows -/

/-- A month's row, with integers for sums. -/
def monthRow (cairo : Cairo) (monthStart monthEnd : ℤ) (db : Db) : ReportMonthsRow where
  monthStart := monthStart
  monthEnd := monthEnd
  nights := (soldNights monthStart monthEnd (soldIn monthStart monthEnd db)).sum
  revenue := (soldRevenue monthStart monthEnd (soldIn monthStart monthEnd db)).sum
  blockedNights := (blockNights monthStart monthEnd (monthBlocks monthStart monthEnd db)).sum
  collected := ((monthPayments cairo monthStart monthEnd db).map (fun p => p.amount.toInt)).sum

def monthRows (cairo : Cairo) (fromDate : ℤ) (months : ℕ) (db : Db) : List ReportMonthsRow :=
  (List.range months).map (fun g =>
    monthRow cairo (addMonths fromDate g) (addMonths fromDate (g + 1)) db)

/-- A unit's row, likewise. -/
def unitRow (fromDate toDate : ℤ) (db : Db) (u : UnitRow) : ReportUnitsRow :=
  let stays := (soldIn fromDate toDate db).filter (fun b => b.unitId = u.id)
  { id := u.id
    status := u.status
    nights := (soldNights fromDate toDate stays).sum
    revenue := (soldRevenue fromDate toDate stays).sum
    blockedNights := (blockNights fromDate toDate
      ((blocksIn fromDate toDate db).filter (fun k => k.unitId = u.id))).sum }

def unitRows (fromDate toDate : ℤ) (db : Db) : List ReportUnitsRow :=
  ((timelineUnits db).map (unitRow fromDate toDate db)).insertionSort
    (fun x y => y.revenue ≤ x.revenue)

/-- The sums of a month's row are in range. -/
def MonthFits (cairo : Cairo) (monthStart monthEnd : ℤ) (db : Db) : Prop :=
  SumFits (soldNights monthStart monthEnd (soldIn monthStart monthEnd db)) ∧
    SumFits (soldRevenue monthStart monthEnd (soldIn monthStart monthEnd db)) ∧
    SumFits (blockNights monthStart monthEnd (monthBlocks monthStart monthEnd db)) ∧
    SumFits ((monthPayments cairo monthStart monthEnd db).map (fun p => p.amount.toInt))

instance (cairo : Cairo) (monthStart monthEnd : ℤ) (db : Db) :
    Decidable (MonthFits cairo monthStart monthEnd db) := inferInstanceAs (Decidable (_ ∧ _))

/-- The sums of a unit's row are in range. -/
def UnitFits (fromDate toDate : ℤ) (db : Db) (u : UnitRow) : Prop :=
  let stays := (soldIn fromDate toDate db).filter (fun b => b.unitId = u.id)
  SumFits (soldNights fromDate toDate stays) ∧ SumFits (soldRevenue fromDate toDate stays) ∧
    SumFits (blockNights fromDate toDate
      ((blocksIn fromDate toDate db).filter (fun k => k.unitId = u.id)))

instance (fromDate toDate : ℤ) (db : Db) (u : UnitRow) : Decidable (UnitFits fromDate toDate db u) :=
  inferInstanceAs (Decidable (_ ∧ _))

/-- The sums of each month of a year. -/
def MonthsFit (cairo : Cairo) (year : ℤ) (db : Db) : Prop :=
  ∀ g ∈ List.range 12, MonthFits cairo (addMonths (yearStart year) (g : ℕ))
    (addMonths (yearStart year) (g + 1)) db

instance (cairo : Cairo) (year : ℤ) (db : Db) : Decidable (MonthsFit cairo year db) :=
  inferInstanceAs (Decidable (∀ g ∈ List.range 12, MonthFits _ _ _ _))

/-- And of each unit. -/
def UnitsFit (year : ℤ) (db : Db) : Prop :=
  ∀ u ∈ timelineUnits db, UnitFits (yearStart year) (yearStart (year + 1)) db u

instance (year : ℤ) (db : Db) : Decidable (UnitsFit year db) :=
  inferInstanceAs (Decidable (∀ u ∈ timelineUnits db, UnitFits _ _ _ u))

theorem reportMonth_eq (cairo : Cairo) (monthStart monthEnd : ℤ) (db : Db) :
    reportMonth cairo monthStart monthEnd db = if MonthFits cairo monthStart monthEnd db
      then .ok (monthRow cairo monthStart monthEnd db) else .error .numericOutOfRange := by
  simp only [reportMonth, sumBigint, MonthFits]
  by_cases hn : SumFits (soldNights monthStart monthEnd (soldIn monthStart monthEnd db))
  · by_cases hr : SumFits (soldRevenue monthStart monthEnd (soldIn monthStart monthEnd db))
    · by_cases hb : SumFits (blockNights monthStart monthEnd (monthBlocks monthStart monthEnd db))
      · by_cases hc : SumFits ((monthPayments cairo monthStart monthEnd db).map
          (fun p => p.amount.toInt))
        · simp only [hn, hr, hb, hc, if_true, and_self]
          rfl
        · simp only [hn, hr, hb, hc, if_true, if_false, and_false]
          rfl
      · simp only [hn, hr, hb, if_true, if_false, and_false, false_and]
        rfl
    · simp only [hn, hr, if_true, if_false, and_false, false_and]
      rfl
  · simp only [hn, if_false, false_and]
    rfl

theorem reportUnit_eq (fromDate toDate : ℤ) (db : Db) (u : UnitRow) :
    reportUnit fromDate toDate db u = if UnitFits fromDate toDate db u
      then .ok (unitRow fromDate toDate db u) else .error .numericOutOfRange := by
  simp only [reportUnit, sumBigint, UnitFits]
  by_cases hn : SumFits (soldNights fromDate toDate
    ((soldIn fromDate toDate db).filter (fun b => b.unitId = u.id)))
  · by_cases hr : SumFits (soldRevenue fromDate toDate
      ((soldIn fromDate toDate db).filter (fun b => b.unitId = u.id)))
    · by_cases hb : SumFits (blockNights fromDate toDate
        ((blocksIn fromDate toDate db).filter (fun k => k.unitId = u.id)))
      · simp only [hn, hr, hb, if_true, and_self]
        rfl
      · simp only [hn, hr, hb, if_true, if_false, and_false]
        rfl
    · simp only [hn, hr, if_true, if_false, and_false, false_and]
      rfl
  · simp only [hn, if_false, false_and]
    rfl

/-- Rows read one after the other, up to the first that fails. -/
theorem mapM_checked {α β ε : Type} {f : α → Except ε β} {g : α → β} {P : α → Prop}
    [DecidablePred P] {e : ε} (hf : ∀ x, f x = if P x then .ok (g x) else .error e) (l : List α) :
    l.mapM f = if ∀ x ∈ l, P x then .ok (l.map g) else .error e := by
  induction l with
  | nil => simp [pure, Except.pure]
  | cons x l ih =>
    rw [List.mapM_cons, hf, ih]
    by_cases hx : P x
    · by_cases hl : ∀ y ∈ l, P y
      · rw [if_pos hx, if_pos hl, if_pos (List.forall_mem_cons.mpr ⟨hx, hl⟩)]
        rfl
      · rw [if_pos hx, if_neg hl, if_neg (fun h => hl (List.forall_mem_cons.mp h).2)]
        rfl
    · rw [if_neg hx, if_neg (fun h => hx (List.forall_mem_cons.mp h).1)]
      rfl

theorem reportMonths_eq (cairo : Cairo) (year : ℤ) (db : Db) :
    reportMonths cairo (yearStart year) 12 db = if MonthsFit cairo year db
      then .ok (monthRows cairo (yearStart year) 12 db) else .error .numericOutOfRange :=
  mapM_checked (fun g : ℕ => reportMonth_eq cairo (addMonths (yearStart year) g)
    (addMonths (yearStart year) (g + 1)) db) (List.range 12)

theorem reportUnits_eq (year : ℤ) (db : Db) :
    reportUnits (yearStart year) (yearStart (year + 1)) db = if UnitsFit year db
      then .ok (unitRows (yearStart year) (yearStart (year + 1)) db)
      else .error .numericOutOfRange := by
  rw [reportUnits, mapM_checked (reportUnit_eq (yearStart year) (yearStart (year + 1)) db)]
  by_cases h : ∀ u ∈ timelineUnits db, UnitFits (yearStart year) (yearStart (year + 1)) db u
  · rw [if_pos h, if_pos (show UnitsFit year db from h)]
    rfl
  · rw [if_neg h, if_neg (show ¬ UnitsFit year db from h)]
    rfl

/-! ### Sold nights -/

/-- Confirmed, checked in or completed. -/
def sold (db : Db) : List BookingRow :=
  db.bookings.rows.filter (fun b => decide (b.status ∈ soldStatuses))

/-- The nights of a stay. -/
def BookingRow.nights (b : BookingRow) : List ℤ :=
  (List.range (b.checkOut - b.checkIn).toNat).map (fun i : ℕ => b.checkIn + i)

/-- Each sold booking with each of its nights in the window. -/
def soldPairs (db : Db) (fromDate toDate : ℤ) : List (BookingRow × ℤ) :=
  (sold db).flatMap (fun b =>
    (b.nights.filter (fun n => decide (fromDate ≤ n ∧ n < toDate))).map (fun n => (b, n)))

/-- The nights sold in the window, each weighed by its booking. -/
def weighed (w : BookingRow → ℤ) (db : Db) (fromDate toDate : ℤ) : ℤ :=
  ((sold db).map (fun b => (shared b.checkIn b.checkOut fromDate toDate : ℤ) * w b)).sum

theorem length_nights (b : BookingRow) (fromDate toDate : ℤ) :
    (b.nights.filter (fun n => decide (fromDate ≤ n ∧ n < toDate))).length
      = shared b.checkIn b.checkOut fromDate toDate := rfl

theorem sum_soldPairs (w : BookingRow → ℤ) (db : Db) (fromDate toDate : ℤ) :
    ((soldPairs db fromDate toDate).map (fun p => w p.1)).sum = weighed w db fromDate toDate := by
  rw [soldPairs, weighed]
  induction sold db with
  | nil => rfl
  | cons b l ih =>
    rw [List.flatMap_cons, List.map_append, List.sum_append, ih, List.map_cons, List.sum_cons,
      List.map_map]
    congr 1
    show ((b.nights.filter _).map (fun _ => w b)).sum = _
    rw [List.map_const', List.sum_replicate, length_nights, nsmul_eq_mul]

theorem length_soldPairs (db : Db) (fromDate toDate : ℤ) :
    ((soldPairs db fromDate toDate).length : ℤ) = weighed (fun _ => 1) db fromDate toDate := by
  rw [← sum_soldPairs, List.map_const', List.sum_replicate, nsmul_eq_mul, mul_one]

/-- The queries' sums, over the sold bookings that touch the window. -/
theorem sum_soldIn (w : BookingRow → ℤ) (db : Db) (fromDate toDate : ℤ) :
    ((soldIn fromDate toDate db).map (fun b =>
      overlapNights b.checkIn b.checkOut fromDate toDate * w b)).sum
      = weighed w db fromDate toDate := by
  have hsplit : soldIn fromDate toDate db = (sold db).filter (fun b =>
      decide (Overlaps b.checkIn b.checkOut fromDate toDate)) := by
    rw [soldIn, sold, List.filter_filter]
    refine List.filter_congr (fun b _ => ?_)
    rw [Bool.decide_and, Bool.and_comm]
  have hoverlap : ∀ b ∈ (sold db).filter (fun b =>
      decide (Overlaps b.checkIn b.checkOut fromDate toDate)),
      overlapNights b.checkIn b.checkOut fromDate toDate * w b
        = (shared b.checkIn b.checkOut fromDate toDate : ℤ) * w b := by
    intro b hb
    have ho : Overlaps b.checkIn b.checkOut fromDate toDate := by
      simpa using (List.mem_filter.mp hb).2
    rw [shared_of_overlaps ho]
    rfl
  rw [hsplit, List.map_congr_left hoverlap, weighed]
  refine sum_map_filter (fun b _ hb => ?_)
  rw [shared_of_not_overlaps (by simpa using hb), Nat.cast_zero, zero_mul]

/-! ### Month by month -/

/-- **The months of a year cut its nights.** -/
theorem sum_weighed_months (w : BookingRow → ℤ) (db : Db) (year : ℤ) :
    ((List.range 12).map (fun g => weighed w db (addMonths (yearStart year) g)
      (addMonths (yearStart year) (g + 1)))).sum
      = weighed w db (yearStart year) (yearStart (year + 1)) := by
  simp only [weighed]
  rw [sum_sum_comm]
  congr 1
  refine List.map_congr_left (fun b _ => ?_)
  have hsteps := (sum_shared_steps b.checkIn b.checkOut (t := addMonths (yearStart year))
    (n := 12) (fun g hg => addMonths_le year hg)).1
  rw [List.sum_map_mul_right, hsteps, addMonths_yearStart_zero, addMonths_yearStart_twelve]

theorem sum_nights_monthRows (cairo : Cairo) (db : Db) (year : ℤ) :
    ((monthRows cairo (yearStart year) 12 db).map ReportMonthsRow.nights).sum
      = weighed (fun _ => 1) db (yearStart year) (yearStart (year + 1)) := by
  rw [← sum_weighed_months, monthRows, List.map_map]
  congr 1
  refine List.map_congr_left (fun g _ => ?_)
  rw [← sum_soldIn]
  simp only [mul_one]
  rfl

theorem sum_revenue_monthRows (cairo : Cairo) (db : Db) (year : ℤ) :
    ((monthRows cairo (yearStart year) 12 db).map ReportMonthsRow.revenue).sum
      = weighed (fun b => b.nightlyPrice.toInt) db (yearStart year) (yearStart (year + 1)) := by
  rw [← sum_weighed_months, monthRows, List.map_map]
  congr 1
  refine List.map_congr_left (fun g _ => ?_)
  rw [← sum_soldIn]
  rfl

/-! ### Unit by unit -/

/-- No archived unit has a sold booking that touches the window. -/
def NoneArchived (db : Db) (fromDate toDate : ℤ) : Prop :=
  ∀ u ∈ db.units, u.status = .archived → ∀ b ∈ soldIn fromDate toDate db, b.unitId ≠ u.id

/-- **The units cut the year's nights**, when the archived ones have none. -/
theorem sum_weighed_units (w : BookingRow → ℤ) {db : Db} (hr : Referential db) {fromDate toDate : ℤ}
    (ha : NoneArchived db fromDate toDate) :
    ((timelineUnits db).map (fun u => (((soldIn fromDate toDate db).filter
      (fun b => decide (b.unitId = u.id))).map (fun b =>
        overlapNights b.checkIn b.checkOut fromDate toDate * w b)).sum)).sum
      = weighed w db fromDate toDate := by
  rw [← sum_soldIn]
  refine sum_groups ?_ ?_ _
  · exact db.units.nodup.sublist (List.Sublist.map _ List.filter_sublist)
  · intro b hb
    obtain ⟨u, hu, hid⟩ := hr.unit b (List.mem_filter.mp hb).1
    refine List.mem_map.mpr ⟨u, List.mem_filter.mpr ⟨hu, decide_eq_true ?_⟩, hid⟩
    intro hs
    exact ha u hu hs b hb hid.symm

theorem sum_unitRows (f : ReportUnitsRow → ℤ) (db : Db) (fromDate toDate : ℤ) :
    ((unitRows fromDate toDate db).map f).sum
      = ((timelineUnits db).map (fun u => f (unitRow fromDate toDate db u))).sum := by
  rw [unitRows, (List.Perm.map f (List.perm_insertionSort _ _)).sum_eq, List.map_map]
  rfl

theorem sum_nights_unitRows {db : Db} (hr : Referential db) {fromDate toDate : ℤ}
    (ha : NoneArchived db fromDate toDate) :
    ((unitRows fromDate toDate db).map ReportUnitsRow.nights).sum
      = weighed (fun _ => 1) db fromDate toDate := by
  rw [sum_unitRows, ← sum_weighed_units _ hr ha]
  simp only [mul_one]
  rfl

theorem sum_revenue_unitRows {db : Db} (hr : Referential db) {fromDate toDate : ℤ}
    (ha : NoneArchived db fromDate toDate) :
    ((unitRows fromDate toDate db).map ReportUnitsRow.revenue).sum
      = weighed (fun b => b.nightlyPrice.toInt) db fromDate toDate := by
  rw [sum_unitRows, ← sum_weighed_units _ hr ha]
  rfl

/-! ### The report -/

/-- What the report of a year shows. -/
def reportsView (srv : Server) (clock : ℤ) (db : Db) (year : ℤ) : ReportsView :=
  let units := unitRows (yearStart year) (yearStart (year + 1)) db
  let active : ℤ := (units.filter (fun u => u.status = .active)).length
  { year := year
    today := formatDate (srv.cairo.today clock)
    activeUnits := active
    months := (monthRows srv.cairo (yearStart year) 12 db).map (toReportMonth active)
    units := units.map (toReportUnit (daysBetween (yearStart year) (yearStart (year + 1)))) }

/-- The report of a year it accepts: its rows, unless a sum is out of range. -/
theorem adminReports_answer (srv : Server) (o : Oracle) (now : ℤ) (db : Db) {yearText : String}
    {year : ℤ} (hy : reportYear yearText (civil (srv.cairo.today o.clock)).1 = some year) :
    answer postgres o now db (adminReports srv yearText)
      = if UnitsFit year db then
          if MonthsFit srv.cairo year db then .ok (reportsView srv o.clock db year)
          else .error (internalError "report months")
        else .error (internalError "report units") := by
  have htoday : Reads postgres o now db (cairoToday srv) (srv.cairo.today o.clock) :=
    (Reads.query rfl).bind (.pure _)
  have heval : ∀ {α : Type} (x : Except PgError α) (v : α), x = .ok v →
      x.map (fun rows => (rows, ([] : List Write))) = .ok (v, []) := by
    intro α x v hx
    rw [hx]
    rfl
  rw [adminReports, (htoday.mapErr _).answer_bind, hy]
  by_cases hu : UnitsFit year db
  · have hunits : Reads postgres o now db
        (Tx.query (.reportUnits (yearStart year) (yearStart (year + 1))))
        (unitRows (yearStart year) (yearStart (year + 1)) db) :=
      Reads.query (heval _ _ ((reportUnits_eq year db).trans (if_pos hu)))
    rw [if_pos hu]
    refine ((hunits.mapErr _).answer_bind).trans ?_
    by_cases hm : MonthsFit srv.cairo year db
    · have hmonths : Reads postgres o now db (Tx.query (.reportMonths srv.cairo (yearStart year) 12))
          (monthRows srv.cairo (yearStart year) 12 db) :=
        Reads.query (heval _ _ ((reportMonths_eq srv.cairo year db).trans (if_pos hm)))
      rw [if_pos hm]
      exact ((hmonths.mapErr _).bind (.pure (reportsView srv o.clock db year))).answer
    · rw [if_neg hm]
      refine answer_failed (e := .numericOutOfRange) ?_ _ _
      show (reportMonths srv.cairo (yearStart year) 12 db).map _ = _
      rw [reportMonths_eq, if_neg hm]
      rfl
  · rw [if_neg hu]
    refine answer_failed (e := .numericOutOfRange) ?_ _ _
    show (reportUnits (yearStart year) (yearStart (year + 1)) db).map _ = _
    rw [reportUnits_eq, if_neg hu]
    rfl

/-- The sums of a year's report, next to the nights it is about. -/
structure AddsUp (db : Db) (year : ℤ) (months : List (ℤ × ℤ)) (units : List (ℤ × ℤ)) : Prop where
  monthNights : (months.map Prod.fst).sum
    = ((soldPairs db (yearStart year) (yearStart (year + 1))).length : ℤ)
  unitNights : (units.map Prod.fst).sum
    = ((soldPairs db (yearStart year) (yearStart (year + 1))).length : ℤ)
  monthRevenue : (months.map Prod.snd).sum = ((soldPairs db (yearStart year)
    (yearStart (year + 1))).map (fun p => p.1.nightlyPrice.toInt)).sum
  unitRevenue : (units.map Prod.snd).sum = ((soldPairs db (yearStart year)
    (yearStart (year + 1))).map (fun p => p.1.nightlyPrice.toInt)).sum

/-- The exact rows add up. -/
theorem rows_addUp (cairo : Cairo) {db : Db} (hr : Referential db) {year : ℤ}
    (ha : NoneArchived db (yearStart year) (yearStart (year + 1))) :
    AddsUp db year
      ((monthRows cairo (yearStart year) 12 db).map (fun m => (m.nights, m.revenue)))
      ((unitRows (yearStart year) (yearStart (year + 1)) db).map (fun u => (u.nights, u.revenue))) := by
  constructor
  · rw [length_soldPairs, ← sum_nights_monthRows cairo, List.map_map]
    rfl
  · rw [length_soldPairs, ← sum_nights_unitRows hr ha, List.map_map]
    rfl
  · rw [sum_soldPairs (fun b => b.nightlyPrice.toInt), ← sum_revenue_monthRows cairo,
      List.map_map]
    rfl
  · rw [sum_soldPairs (fun b => b.nightlyPrice.toInt), ← sum_revenue_unitRows hr ha,
      List.map_map]
    rfl

theorem length_monthRows (cairo : Cairo) (fromDate : ℤ) (months : ℕ) (db : Db) :
    (monthRows cairo fromDate months db).length = months := by
  rw [monthRows, List.length_map, List.length_range]

/-- **The two tables add up.**  In every reachable state of the whole system, for every year in which
no archived unit has a sold stay and whose sums are in range, both queries answer: the nights of the
twelve months and those of the units are both the pairs of a sold booking and a night of it in the
year, and so are their revenues; and the report shows these rows. -/
theorem reports_add_up (srv : Server) (texts : Texts) {d₀ : Rows} (h₀ : d₀.1.Unbooked) {s : FullSys}
    (h : FullReaches srv texts d₀ s) (year : ℤ)
    (ha : NoneArchived s.db.1 (yearStart year) (yearStart (year + 1))) (hu : UnitsFit year s.db.1) :
    (∀ cairo, MonthsFit cairo year s.db.1 → ∃ months units,
      reportMonths cairo (yearStart year) 12 s.db.1 = .ok months ∧
      reportUnits (yearStart year) (yearStart (year + 1)) s.db.1 = .ok units ∧
      months.length = 12 ∧
      AddsUp s.db.1 year (months.map (fun m => (m.nights, m.revenue)))
        (units.map (fun u => (u.nights, u.revenue)))) ∧
    (MonthsFit srv.cairo year s.db.1 →
      ∀ o now yearText, reportYear yearText (civil (srv.cairo.today o.clock)).1 = some year →
        ∃ view, answer postgres o now s.db.1 (adminReports srv yearText) = .ok view ∧
          view.months.length = 12 ∧
          AddsUp s.db.1 year (view.months.map (fun m => (m.nights, m.revenue)))
            (view.units.map (fun u => (u.nights, u.revenue)))) := by
  have hr := full_referential h₀ h
  constructor
  · intro cairo hm
    exact ⟨_, _, (reportMonths_eq cairo year s.db.1).trans (if_pos hm),
      (reportUnits_eq year s.db.1).trans (if_pos hu), length_monthRows _ _ _ _,
      rows_addUp cairo hr ha⟩
  · intro hm o now yearText hy
    refine ⟨reportsView srv o.clock s.db.1 year, ?_, ?_, ?_⟩
    · rw [adminReports_answer srv o now s.db.1 hy, if_pos hu, if_pos hm]
    · rw [reportsView, List.length_map, length_monthRows]
    · have hview := rows_addUp srv.cairo hr ha
      rw [reportsView]
      simp only [List.map_map]
      exact hview

/-- A confirmed stay over New Year's Eve, in a unit paused since. -/
def overNewYear : List (AllReq × Oracle × ℤ) :=
  [fullCall 1 (noonOf (newYear - 30)) (.inl (.adminCreateBooking
      ⟨some 1, "2026-12-30", "2027-01-03", 2, "01012345678", "Mona", 400000⟩)),
    fullCall 2 (noonOf (newYear - 29)) (editUnit { status := .value (.known .paused) })]

/-- Two of its four nights are in 2027, with their revenue, in both tables. -/
theorem reports_add_up_overNewYear :
    (∃ months units,
      reportMonths winterCairo (yearStart 2027) 12 (fullServed coast overNewYear).1 = .ok months ∧
      reportUnits (yearStart 2027) (yearStart (2027 + 1)) (fullServed coast overNewYear).1 = .ok units ∧
      months.length = 12 ∧ AddsUp (fullServed coast overNewYear).1 2027
        (months.map (fun m => (m.nights, m.revenue))) (units.map (fun u => (u.nights, u.revenue)))) ∧
    (unitRows (yearStart 2027) (yearStart (2027 + 1)) (fullServed coast overNewYear).1).map
      (fun u => (u.status, u.nights, u.revenue)) = [(.paused, 2, 800000)] := by
  have h := reports_add_up winterServer plainTexts coast_unbooked
    (fullReaches_served coast overNewYear) 2027
  rw [State.quiet_db] at h
  have ha : NoneArchived (fullServed coast overNewYear).1 (yearStart 2027) (yearStart (2027 + 1)) := by
    have hactive : ∀ u ∈ (fullServed coast overNewYear).1.units, u.status ≠ .archived := by
      decide +kernel
    exact fun u hu hs => absurd hs (hactive u hu)
  exact ⟨(h ha (by decide +kernel)).1 winterCairo (by decide +kernel), by decide +kernel⟩

/-! ### Collected -/

/-- The verified payments whose Cairo day lies in the window. -/
def collectedIn (cairo : Cairo) (db : Db) (fromDate toDate : ℤ) : ℤ :=
  ((db.payments.rows.filter (fun p => decide (p.status = .verified
    ∧ ∃ t ∈ p.verifiedAt, fromDate ≤ cairo.today t ∧ cairo.today t < toDate))).map (fun p =>
      p.amount.toInt)).sum

/-- How often a payment counts in the window: once when its day lies there. -/
def timesCounted (cairo : Cairo) (p : PaymentRow) (fromDate toDate : ℤ) : ℕ :=
  match p.verifiedAt with
  | some t => shared (cairo.today t) (cairo.today t + 1) fromDate toDate
  | none => 0

theorem shared_day_of_mem {day fromDate toDate : ℤ} (h : fromDate ≤ day ∧ day < toDate) :
    shared day (day + 1) fromDate toDate = 1 := by
  have := shared_eq_max day (day + 1) fromDate toDate
  omega

theorem shared_day_of_not_mem {day fromDate toDate : ℤ} (h : ¬ (fromDate ≤ day ∧ day < toDate)) :
    shared day (day + 1) fromDate toDate = 0 := by
  have := shared_eq_max day (day + 1) fromDate toDate
  omega

theorem collectedIn_eq (cairo : Cairo) (db : Db) (fromDate toDate : ℤ) :
    collectedIn cairo db fromDate toDate
      = ((db.payments.rows.filter (fun p => decide (p.status = .verified))).map (fun p =>
        (timesCounted cairo p fromDate toDate : ℤ) * p.amount.toInt)).sum := by
  have hin : ∀ p : PaymentRow, (timesCounted cairo p fromDate toDate : ℤ) * p.amount.toInt
      = if ∃ t ∈ p.verifiedAt, fromDate ≤ cairo.today t ∧ cairo.today t < toDate
        then p.amount.toInt else 0 := by
    intro p
    unfold timesCounted
    cases hp : p.verifiedAt with
    | none => simp
    | some t =>
      by_cases ht : fromDate ≤ cairo.today t ∧ cairo.today t < toDate
      · rw [if_pos ⟨t, rfl, ht⟩]
        simp only [shared_day_of_mem ht, Nat.cast_one, one_mul]
      · have hno : ¬ ∃ x ∈ some t, fromDate ≤ cairo.today x ∧ cairo.today x < toDate := by
          intro h
          obtain ⟨x, hx, hin⟩ := h
          cases hx
          exact ht hin
        rw [if_neg hno]
        simp only [shared_day_of_not_mem ht, Nat.cast_zero, zero_mul]
  have hsplit : db.payments.rows.filter (fun p => decide (p.status = .verified
      ∧ ∃ t ∈ p.verifiedAt, fromDate ≤ cairo.today t ∧ cairo.today t < toDate))
      = (db.payments.rows.filter (fun p => decide (p.status = .verified))).filter (fun p =>
        decide (∃ t ∈ p.verifiedAt, fromDate ≤ cairo.today t ∧ cairo.today t < toDate)) := by
    rw [List.filter_filter]
    refine List.filter_congr (fun p _ => ?_)
    rw [Bool.decide_and, Bool.and_comm]
  simp only [hin]
  rw [collectedIn, hsplit, ← sum_map_filter (p := fun p : PaymentRow =>
    decide (∃ t ∈ p.verifiedAt, fromDate ≤ cairo.today t ∧ cairo.today t < toDate))
    (fun p _ hp => if_neg (by simpa using hp))]
  congr 1
  refine List.map_congr_left (fun p hp => ?_)
  rw [if_pos (by simpa using (List.mem_filter.mp hp).2)]

/-- Consecutive windows share no payment and miss none. -/
theorem sum_collectedIn_steps (cairo : Cairo) (db : Db) {t : ℕ → ℤ} {n : ℕ}
    (h : ∀ g < n, t g ≤ t (g + 1)) :
    ((List.range n).map (fun g => collectedIn cairo db (t g) (t (g + 1)))).sum
      = collectedIn cairo db (t 0) (t n) := by
  simp only [collectedIn_eq]
  rw [sum_sum_comm]
  congr 1
  refine List.map_congr_left (fun p _ => ?_)
  rw [List.sum_map_mul_right]
  congr 1
  unfold timesCounted
  cases p.verifiedAt with
  | none => simp
  | some time => exact (sum_shared_steps _ _ h).1

theorem sum_collected_monthRows (cairo : Cairo) (db : Db) (year : ℤ) :
    ((monthRows cairo (yearStart year) 12 db).map ReportMonthsRow.collected).sum
      = collectedIn cairo db (yearStart year) (yearStart (year + 1)) := by
  have hsteps := sum_collectedIn_steps cairo db (t := addMonths (yearStart year)) (n := 12)
    (fun g hg => addMonths_le year hg)
  rw [addMonths_yearStart_zero, addMonths_yearStart_twelve] at hsteps
  rw [← hsteps, monthRows, List.map_map]
  rfl

/-- The payments verified at all. -/
theorem collectedIn_of_all {cairo : Cairo} {db : Db} {fromDate toDate : ℤ}
    (hs : ∀ p ∈ db.payments, p.status = .verified → p.verifiedAt.isSome)
    (h : ∀ p ∈ db.payments, p.status = .verified → ∀ t ∈ p.verifiedAt,
      fromDate ≤ cairo.today t ∧ cairo.today t < toDate) :
    collectedIn cairo db fromDate toDate
      = ((db.payments.rows.filter (fun p => decide (p.status = .verified))).map (fun p =>
        p.amount.toInt)).sum := by
  rw [collectedIn]
  congr 2
  refine List.filter_congr (fun p hp => ?_)
  by_cases hv : p.status = .verified
  · obtain ⟨t, ht⟩ := Option.isSome_iff_exists.mp (hs p hp hv)
    have hin : ∃ x ∈ p.verifiedAt, fromDate ≤ cairo.today x ∧ cairo.today x < toDate :=
      ⟨t, ht, h p hp hv t ht⟩
    rw [decide_eq_true hv, decide_eq_true ⟨hv, hin⟩]
  · rw [decide_eq_false hv, decide_eq_false (fun hc => hv hc.1)]

/-- **Paid totals are verified payments**, each booking's own. -/
theorem sum_paidTotal {db : Db} (hl : Ledger db) :
    (db.bookings.rows.map (fun b => b.paidTotal.toInt)).sum
      = ((db.payments.rows.filter (fun p => decide (p.status = .verified))).map (fun p =>
        p.amount.toInt)).sum := by
  rw [← sum_groups db.bookings.nodup (l := db.payments.rows.filter (fun p =>
    decide (p.status = .verified))) (f := PaymentRow.bookingId)]
  · congr 1
    refine List.map_congr_left (fun b hb => ?_)
    rw [(hl.booked b hb).paid, verifiedTotal, Table.total, List.filter_filter]
    rw [← sum_map_filter (p := fun p : PaymentRow =>
      decide (p.bookingId = b.id) && decide (p.status = .verified))]
    · congr 1
      refine List.map_congr_left (fun p hp => ?_)
      exact if_pos (by simpa using (List.mem_filter.mp hp).2)
    · intro p _ hp
      exact if_neg (by simpa using hp)
  · intro p hp
    obtain ⟨b, hb, hid⟩ := hl.owned p (List.mem_filter.mp hp).1
    exact List.mem_map.mpr ⟨b, hb, hid⟩

/-- What the months of `n` years from `first` collect together, as the query answers them. -/
def collectedOver (cairo : Cairo) (first : ℤ) (n : ℕ) (db : Db) : Except PgError ℤ := do
  let years ← (List.range n).mapM (fun k : ℕ => reportMonths cairo (yearStart (first + k)) 12 db)
  return (years.map (fun months => (months.map ReportMonthsRow.collected).sum)).sum

/-- Every month of these years has its sums in range. -/
def YearsFit (cairo : Cairo) (first : ℤ) (n : ℕ) (db : Db) : Prop :=
  ∀ k ∈ List.range n, MonthsFit cairo (first + (k : ℕ)) db

instance (cairo : Cairo) (first : ℤ) (n : ℕ) (db : Db) : Decidable (YearsFit cairo first n db) :=
  inferInstanceAs (Decidable (∀ k ∈ List.range n, MonthsFit _ _ _))

theorem collectedOver_eq (cairo : Cairo) (first : ℤ) (n : ℕ) (db : Db) :
    collectedOver cairo first n db = if YearsFit cairo first n db
      then .ok (collectedIn cairo db (yearStart first) (yearStart (first + n)))
      else .error .numericOutOfRange := by
  have hyears := sum_collectedIn_steps cairo db (t := fun k : ℕ => yearStart (first + k)) (n := n)
    (fun g _ => (yearStart_lt (by push_cast; omega)).le)
  rw [collectedOver, mapM_checked (fun k : ℕ => reportMonths_eq cairo (first + k) db)]
  by_cases h : ∀ k ∈ List.range n, MonthsFit cairo (first + (k : ℕ)) db
  · rw [if_pos h, if_pos (show YearsFit cairo first n db from h)]
    show Except.ok (((List.range n).map (fun k : ℕ =>
      monthRows cairo (yearStart (first + k)) 12 db)).map (fun months =>
        (months.map ReportMonthsRow.collected).sum)).sum = _
    rw [List.map_map]
    simp only [Function.comp_def, sum_collected_monthRows, add_assoc]
    simpa using hyears
  · rw [if_neg h, if_neg (show ¬ YearsFit cairo first n db from h)]
    rfl

/-- **Every collected pound is reported in exactly one month.**  In every reachable state a verified
payment says when it was verified, and over consecutive years whose Cairo days hold every
verification the months' sums are the paid totals of all bookings; only when a month has a sum out of
range does the query fail. -/
theorem reports_collected (srv : Server) {db₀ : Db} (h₀ : db₀.Unbooked) {s : Sys}
    (h : Reaches srv anyCommit db₀ s) :
    (∀ p ∈ s.db.payments, p.status = .verified → p.verifiedAt.isSome) ∧
    ∀ (cairo : Cairo) (first : ℤ) (n : ℕ),
      (∀ p ∈ s.db.payments, p.status = .verified → ∀ t ∈ p.verifiedAt,
        yearStart first ≤ cairo.today t ∧ cairo.today t < yearStart (first + n)) →
      collectedOver cairo first n s.db = if YearsFit cairo first n s.db
        then .ok (s.db.bookings.rows.map (fun b => b.paidTotal.toInt)).sum
        else .error .numericOutOfRange := by
  have hs := (reaches_referential h₀ h).stamped
  refine ⟨hs, ?_⟩
  intro cairo first n hall
  rw [sum_paidTotal (ledger_reaches h₀ h), ← collectedIn_of_all hs hall, collectedOver_eq]

/-- Two payments of a booking, both verified on New Year's Day. -/
theorem reports_collected_paidInParts :
    collectedOver winterCairo 2027 1 (served plainWorld paidInParts)
      = .ok ((served plainWorld paidInParts).bookings.rows.map (fun b => b.paidTotal.toInt)).sum ∧
    (served plainWorld paidInParts).bookings.rows.map (fun b => b.paidTotal.toInt) = [500000] := by
  have h := (reports_collected winterServer plainWorld_unbooked
    (reaches_served_any _ paidInParts)).2 winterCairo 2027 1
  rw [State.quiet_db] at h
  have hfits : YearsFit winterCairo 2027 1 (served plainWorld paidInParts) := by decide +kernel
  exact ⟨(h (by decide +kernel)).trans (if_pos hfits), by decide +kernel⟩

/-- The most a payment can be, twice: on two bookings, verified on the same day. -/
def paidTwiceTheMost : List (Req × Oracle × ℤ) :=
  [call 1 (noonOf newYear) (guestBooks "2027-01-10" "2027-01-12"),
    call 2 (noonOf newYear) (guestBooks "2027-01-20" "2027-01-22"),
    call 3 (noonOf newYear) (.adminRecordPayment (some 1) ⟨9223372036854775807, "Mona", none⟩),
    call 4 (noonOf newYear) (.adminRecordPayment (some 2) ⟨9223372036854775807, "Mona", none⟩)]

/-- **A month can collect more than a `bigint` holds**, and then the query fails. -/
theorem reports_uncollected :
    ¬ ∀ (srv : Server) (db₀ : Db) (s : Sys), db₀.Unbooked → Reaches srv anyCommit db₀ s →
      ∀ (cairo : Cairo) (first : ℤ) (n : ℕ),
        (∀ p ∈ s.db.payments, p.status = .verified → ∀ t ∈ p.verifiedAt,
          yearStart first ≤ cairo.today t ∧ cairo.today t < yearStart (first + n)) →
        collectedOver cairo first n s.db
          = .ok (s.db.bookings.rows.map (fun b => b.paidTotal.toInt)).sum := by
  intro h
  have hrun := h winterServer _ _ plainWorld_unbooked (reaches_served_any _ paidTwiceTheMost)
    winterCairo 2027 1
  rw [State.quiet_db, collectedOver_eq] at hrun
  have hover : ¬ YearsFit winterCairo 2027 1 (served plainWorld paidTwiceTheMost) := by
    decide +kernel
  rw [if_neg hover] at hrun
  exact absurd (hrun (by decide +kernel)) (by simp)

end Sahel

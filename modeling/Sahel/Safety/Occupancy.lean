import Mathlib.Algebra.BigOperators.Ring.Finset
import Sahel.Safety.Reports

/-!
# Occupancy

What a report month counts against the nights on offer.  A unit's stays and blocks share no night,
so they fit into the month; the nights on offer are those of the units that are active today, and
the nights sold are those of all units.

* `activeNights` and `otherNights` are the two parts of a month's sold nights;
* **`occupancy_active`**: the active units sell no more than is on offer;
* **`occupancy_exceeded`**: with a unit paused after it was booked, a month shows more nights than
  are on offer.
-/

set_option autoImplicit false

namespace Sahel

open KeyedTable HalfOpen ReadCommitted Queries

/-- The units on offer today. -/
def activeUnits (db : Db) : List UnitRow :=
  db.units.rows.filter (fun u => decide (u.status = .active))

/-- The unit is on offer today. -/
def onOffer (db : Db) (unitId : ℕ) : Bool :=
  db.units.rows.any (fun u => decide (u.id = unitId ∧ u.status = .active))

/-- The nights in the window that are sold in units on offer. -/
def activeNights (db : Db) (fromDate toDate : ℤ) : ℕ :=
  ((soldPairs db fromDate toDate).filter (fun p => onOffer db p.1.unitId)).length

/-- The nights in the window that are sold in units not on offer. -/
def otherNights (db : Db) (fromDate toDate : ℤ) : ℕ :=
  ((soldPairs db fromDate toDate).filter (fun p => ! onOffer db p.1.unitId)).length

theorem onOffer_iff {db : Db} {unitId : ℕ} :
    onOffer db unitId = true ↔ unitId ∈ (activeUnits db).map UnitRow.id := by
  rw [onOffer, List.any_eq_true, List.mem_map]
  constructor
  · intro h
    obtain ⟨u, hu, hb⟩ := h
    obtain ⟨hid, hs⟩ := of_decide_eq_true hb
    exact ⟨u, List.mem_filter.mpr ⟨hu, decide_eq_true hs⟩, hid⟩
  · intro h
    obtain ⟨u, hu, hid⟩ := h
    obtain ⟨hmem, hs⟩ := List.mem_filter.mp hu
    exact ⟨u, hmem, decide_eq_true ⟨hid, of_decide_eq_true hs⟩⟩

theorem nodup_activeUnits (db : Db) : ((activeUnits db).map UnitRow.id).Nodup :=
  db.units.nodup.sublist (List.Sublist.map _ List.filter_sublist)

/-- The two parts are all of it. -/
theorem activeNights_add_otherNights (db : Db) (fromDate toDate : ℤ) :
    activeNights db fromDate toDate + otherNights db fromDate toDate
      = (soldPairs db fromDate toDate).length := by
  rw [activeNights, otherNights, ← List.countP_eq_length_filter, ← List.countP_eq_length_filter]
  have hsplit := List.length_eq_countP_add_countP
    (fun p : BookingRow × ℤ => onOffer db p.1.unitId) (l := soldPairs db fromDate toDate)
  rw [hsplit]
  congr 2
  funext p
  cases onOffer db p.1.unitId <;> rfl

theorem activeNights_eq (db : Db) (fromDate toDate : ℤ) :
    (activeNights db fromDate toDate : ℤ)
      = (((sold db).filter (fun b => onOffer db b.unitId)).map (fun b =>
        (shared b.checkIn b.checkOut fromDate toDate : ℤ))).sum := by
  rw [activeNights, soldPairs]
  induction sold db with
  | nil => rfl
  | cons b l ih =>
    rw [List.flatMap_cons, List.filter_append, List.length_append, Nat.cast_add, ih,
      List.filter_map, List.length_map]
    cases hb : onOffer db b.unitId with
    | true =>
      simp only [Function.comp_def, hb, List.filter_true, List.filter_cons, if_true, List.map_cons,
        List.sum_cons, length_nights]
    | false =>
      simp only [Function.comp_def, hb, List.filter_false, List.filter_cons, Bool.false_eq_true,
        if_false, List.length_nil, Nat.cast_zero, zero_add]

/-! ### One unit -/

/-- The dates a unit's sold stays and blocks hold. -/
def held (db : Db) (unitId : ℕ) : List (ℤ × ℤ) :=
  ((sold db).filter (fun b => decide (b.unitId = unitId))).map (fun b => (b.checkIn, b.checkOut)) ++
    (db.blocks.rows.filter (fun k => decide (k.unitId = unitId))).map (fun k =>
      (k.startDate, k.endDate))

theorem occupies_of_sold {b : BookingRow} (h : b.status ∈ soldStatuses) : b.Occupies := by
  refine occupies_of_mem (l := soldStatuses) ?_ h
  decide

/-- No night is held twice. -/
theorem countP_held {db : Db} (hn : NightsApart db) (unitId : ℕ) (night : ℤ) :
    (held db unitId).countP (fun r => decide (r.1 ≤ night ∧ night < r.2)) ≤ 1 := by
  refine le_trans ?_ (hn.countP_le_one unitId night)
  rw [held, sold, List.countP_append, List.countP_map, List.countP_map, List.filter_filter,
    List.countP_filter, List.countP_filter]
  apply Nat.add_le_add
  · refine List.countP_mono_left (fun b _ hb => ?_)
    simp only [Function.comp_apply, Bool.and_eq_true, decide_eq_true_eq] at hb ⊢
    exact ⟨hb.2.1, occupies_of_sold hb.2.2, hb.1⟩
  · refine List.countP_mono_left (fun k _ hk => ?_)
    simp only [Function.comp_apply, Bool.and_eq_true, decide_eq_true_eq] at hk ⊢
    exact ⟨hk.2, hk.1⟩

/-- **A unit's stays and blocks fit into the window.** -/
theorem sum_held_le {db : Db} (hn : NightsApart db) (unitId : ℕ) {fromDate toDate : ℤ}
    (hle : fromDate ≤ toDate) :
    (((sold db).filter (fun b => decide (b.unitId = unitId))).map (fun b =>
        (shared b.checkIn b.checkOut fromDate toDate : ℤ))).sum
      + ((db.blocks.rows.filter (fun k => decide (k.unitId = unitId))).map (fun k =>
        (shared k.startDate k.endDate fromDate toDate : ℤ))).sum ≤ toDate - fromDate := by
  have hfit := sum_shared_le (held db unitId) Prod.fst Prod.snd hle
    (fun night _ _ => countP_held hn unitId night)
  rw [held, List.map_append, List.sum_append, List.map_map, List.map_map, Nat.cast_add,
    Nat.cast_list_sum, Nat.cast_list_sum, List.map_map, List.map_map] at hfit
  exact hfit

/-! ### All units -/

/-- The blocked nights of a report month. -/
theorem blockedNights_eq (cairo : Cairo) (db : Db) (monthStart monthEnd : ℤ) :
    (monthRow cairo monthStart monthEnd db).blockedNights
      = ((db.blocks.rows.filter (fun k => onOffer db k.unitId)).map (fun k =>
        (shared k.startDate k.endDate monthStart monthEnd : ℤ))).sum := by
  have hoverlap : ∀ k ∈ (blocksIn monthStart monthEnd db).filter (fun k => onOffer db k.unitId),
      overlapNights k.startDate k.endDate monthStart monthEnd
        = (shared k.startDate k.endDate monthStart monthEnd : ℤ) := by
    intro k hk
    have ho : Overlaps k.startDate k.endDate monthStart monthEnd := by
      simpa using (List.mem_filter.mp (List.mem_filter.mp hk).1).2
    rw [shared_of_overlaps ho]
    rfl
  show (((blocksIn monthStart monthEnd db).filter (fun k => onOffer db k.unitId)).map (fun k =>
    overlapNights k.startDate k.endDate monthStart monthEnd)).sum = _
  rw [List.map_congr_left hoverlap, blocksIn, List.filter_comm]
  refine sum_map_filter (fun k _ hk => ?_)
  rw [shared_of_not_overlaps (by simpa using hk), Nat.cast_zero]

/-- **What active units sell and block fits into their nights.** -/
theorem activeNights_add_blocked_le (cairo : Cairo) {db : Db} (hn : NightsApart db)
    {monthStart monthEnd : ℤ} (hle : monthStart ≤ monthEnd) :
    activeNights db monthStart monthEnd + (monthRow cairo monthStart monthEnd db).blockedNights
      ≤ (activeUnits db).length * (monthEnd - monthStart) := by
  have hstays := sum_groups (nodup_activeUnits db)
    (l := (sold db).filter (fun b => onOffer db b.unitId)) (f := BookingRow.unitId)
    (fun b hb => onOffer_iff.mp (List.mem_filter.mp hb).2)
    (fun b => (shared b.checkIn b.checkOut monthStart monthEnd : ℤ))
  have hblocks := sum_groups (nodup_activeUnits db)
    (l := db.blocks.rows.filter (fun k => onOffer db k.unitId)) (f := BlockRow.unitId)
    (fun k hk => onOffer_iff.mp (List.mem_filter.mp hk).2)
    (fun k => (shared k.startDate k.endDate monthStart monthEnd : ℤ))
  rw [activeNights_eq, blockedNights_eq, ← hstays, ← hblocks, ← List.sum_map_add]
  refine le_trans (List.sum_le_card_nsmul _ (monthEnd - monthStart) ?_) ?_
  · intro x hx
    obtain ⟨u, hu, rfl⟩ := List.mem_map.mp hx
    have hon : onOffer db u.id = true := onOffer_iff.mpr (List.mem_map_of_mem hu)
    have honly : ∀ {β : Type} (l : List β) (f : β → ℕ),
        (l.filter (fun b => onOffer db (f b))).filter (fun b => decide (f b = u.id))
          = l.filter (fun b => decide (f b = u.id)) := by
      intro β l f
      rw [List.filter_filter]
      refine List.filter_congr (fun b _ => ?_)
      by_cases hb : f b = u.id
      · rw [hb, hon, Bool.and_true]
      · rw [decide_eq_false hb, Bool.false_and]
    rw [honly, honly]
    exact sum_held_le hn u.id hle
  · rw [List.length_map, nsmul_eq_mul]

/-! ### The report -/

/-- A report that is answered is that of a year it accepts. -/
theorem adminReports_ok {srv : Server} {o : Oracle} {now : ℤ} {db : Db} {yearText : String}
    {view : ReportsView} (h : answer postgres o now db (adminReports srv yearText) = .ok view) :
    ∃ year, reportYear yearText (civil (srv.cairo.today o.clock)).1 = some year ∧
      view = reportsView srv o.clock db year := by
  have htoday : Reads postgres o now db (cairoToday srv) (srv.cairo.today o.clock) :=
    (Reads.query rfl).bind (.pure _)
  cases hy : reportYear yearText (civil (srv.cairo.today o.clock)).1 with
  | none =>
    rw [adminReports, (htoday.mapErr _).answer_bind, hy] at h
    cases h
  | some year =>
    rw [adminReports_answer srv o now db hy] at h
    split_ifs at h
    cases h
    exact ⟨year, rfl, rfl⟩

/-- The units the report calls active. -/
theorem length_unitRows_active (fromDate toDate : ℤ) (db : Db) :
    ((unitRows fromDate toDate db).filter (fun u => u.status = .active)).length
      = (activeUnits db).length := by
  rw [unitRows, ((List.perm_insertionSort _ _).filter _).length_eq, List.filter_map,
    List.length_map, timelineUnits, List.filter_filter, activeUnits]
  congr 1
  refine List.filter_congr (fun u _ => ?_)
  show (decide (u.status = .active) && decide (u.status ≠ .archived)) = _
  cases u.status <;> rfl

/-- **Occupancy of the units on offer.**  In every reachable state of the whole system and for every
year asked for, each month row shows the nights sold in units on offer today and those sold in the
others; the former are no more than the nights on offer. -/
theorem occupancy_active (srv : Server) (texts : Texts) {d₀ : Rows} (h₀ : d₀.1.Unbooked) {s : FullSys}
    (h : FullReaches srv texts d₀ s) (o : Oracle) (now : ℤ) (yearText : String) {view : ReportsView}
    (hv : answer postgres o now s.db.1 (adminReports srv yearText) = .ok view) :
    ∀ g m, view.months[g]? = some m →
      let monthStart := addMonths (yearStart view.year) g
      let monthEnd := addMonths (yearStart view.year) (g + 1)
      m.nights = activeNights s.db.1 monthStart monthEnd + otherNights s.db.1 monthStart monthEnd ∧
        activeNights s.db.1 monthStart monthEnd ≤ m.availableNights := by
  have hn := full_nightsApart h₀ h
  obtain ⟨year, -, rfl⟩ := adminReports_ok hv
  intro g m hm monthStart monthEnd
  have hg : g < 12 := by
    have hlt := (List.getElem?_eq_some_iff.mp hm).1
    rwa [reportsView, List.length_map, length_monthRows] at hlt
  have hrow : m = toReportMonth (activeUnits s.db.1).length
      (monthRow srv.cairo monthStart monthEnd s.db.1) := by
    simp only [reportsView, monthRows, List.map_map, List.getElem?_map,
      List.getElem?_range hg, length_unitRows_active] at hm
    exact (Option.some.inj hm).symm
  have hle : monthStart ≤ monthEnd := addMonths_le year hg
  constructor
  · have hnights : m.nights = weighed (fun _ => 1) s.db.1 monthStart monthEnd := by
      rw [hrow, ← sum_soldIn]
      simp only [mul_one]
      rfl
    rw [hnights, ← length_soldPairs, ← activeNights_add_otherNights]
    push_cast
    rfl
  · have hfit := activeNights_add_blocked_le srv.cairo hn hle
    have hdays : daysBetween monthStart monthEnd = monthEnd - monthStart :=
      daysBetween_months year hg
    rw [hrow]
    show (activeNights s.db.1 monthStart monthEnd : ℤ)
      ≤ max ((activeUnits s.db.1).length * daysBetween monthStart monthEnd
        - (monthRow srv.cairo monthStart monthEnd s.db.1).blockedNights) 0
    rw [hdays]
    omega

/-- January of an only unit: ten nights sold, twenty-one blocked. -/
def fullJanuary : List (AllReq × Oracle × ℤ) :=
  [fullCall 1 (noonOf (newYear - 30)) (.inl (.adminCreateBooking
      ⟨some 1, "2027-01-01", "2027-01-11", 2, "01012345678", "Mona", 400000⟩)),
    fullCall 2 (noonOf (newYear - 29)) (.inl (.adminCreateBlock (some 1)
      ⟨"2027-01-11", "2027-02-01", ""⟩))]

/-- The report of 2027, after some requests. -/
def reportAfter (cs : List (AllReq × Oracle × ℤ)) : ReportsView :=
  reportsView winterServer (noonOf newYear) (fullServed coast cs).1 2027

theorem reportAfter_answer (cs : List (AllReq × Oracle × ℤ)) (hu : UnitsFit 2027 (fullServed coast cs).1)
    (hm : MonthsFit winterCairo 2027 (fullServed coast cs).1) :
    answer postgres (oracleAt 9 (noonOf newYear)) (noonOf newYear) (fullServed coast cs).1
      (adminReports winterServer "2027") = .ok (reportAfter cs) := by
  rw [@adminReports_answer winterServer _ _ _ "2027" 2027 (by decide +kernel), if_pos hu]
  exact if_pos hm

theorem occupancy_active_fullJanuary : ∃ m, (reportAfter fullJanuary).months[0]? = some m ∧
    m.nights = 10 ∧ m.availableNights = 10 ∧ (activeNights (fullServed coast fullJanuary).1
      (addMonths (yearStart 2027) 0) (addMonths (yearStart 2027) 1) : ℤ) ≤ m.availableNights := by
  have h := @occupancy_active winterServer plainTexts _ coast_unbooked _
    (fullReaches_served coast fullJanuary) (oracleAt 9 (noonOf newYear)) (noonOf newYear) "2027"
    (reportAfter fullJanuary)
  rw [State.quiet_db] at h
  have hm : (reportAfter fullJanuary).months[0]? = some _ := rfl
  have hv := reportAfter_answer fullJanuary (by decide +kernel) (by decide +kernel)
  exact ⟨_, hm, by decide +kernel, by decide +kernel, (h hv 0 _ hm).2⟩

/-- **More nights than are on offer.**  The unit is paused after its stay is confirmed: January shows
two nights sold, none on offer. -/
theorem occupancy_exceeded :
    ¬ ∀ (srv : Server) (texts : Texts) (d₀ : Rows) (s : FullSys), d₀.1.Unbooked →
      FullReaches srv texts d₀ s → ∀ o now yearText view,
        answer postgres o now s.db.1 (adminReports srv yearText) = .ok view →
          ∀ m ∈ view.months, m.nights ≤ m.availableNights := by
  intro h
  have hmonths := h winterServer plainTexts _ _ coast_unbooked (fullReaches_served coast overNewYear)
    (oracleAt 9 (noonOf newYear)) (noonOf newYear) "2027"
  rw [State.quiet_db] at hmonths
  have hv := reportAfter_answer overNewYear (by decide +kernel) (by decide +kernel)
  exact absurd (hmonths _ hv) (by decide +kernel)

end Sahel

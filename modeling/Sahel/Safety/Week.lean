import Sahel.Http.Dashboard
import Sahel.Safety.Occupancy

/-!
# The week's occupancy

What the dashboard shows as occupied nights out of the nights on offer.  The query adds booked
nights to blocked nights, each range clipped to the week; no two of the ranges share a night of a
unit, so the sum counts the nights that are held.

* `heldNights` is the set of them: a unit on offer and a night of the week;
* **`occupied_nights`**: the sum is their number, and no more than the nights on offer.
-/

set_option autoImplicit false

namespace Sahel

open KeyedTable HalfOpen ReadCommitted Queries

/-- An occupying booking or a block holds the unit's night. -/
def NightHeld (db : Db) (unitId : ℕ) (night : ℤ) : Prop :=
  (∃ b ∈ db.bookings.rows, b.unitId = unitId ∧ b.Occupies ∧ b.checkIn ≤ night
    ∧ night < b.checkOut) ∨
  ∃ k ∈ db.blocks.rows, k.unitId = unitId ∧ k.startDate ≤ night ∧ night < k.endDate

instance (db : Db) (unitId : ℕ) (night : ℤ) : Decidable (NightHeld db unitId night) :=
  inferInstanceAs (Decidable (_ ∨ _))

/-- The units on offer, by id. -/
def offeredIds (db : Db) : Finset ℕ := ((activeUnits db).map UnitRow.id).toFinset

/-- The nights of the week from `day` that are held in units on offer. -/
def heldNights (db : Db) (day : ℤ) : Finset (ℕ × ℤ) :=
  (offeredIds db ×ˢ points day (day + 7)).filter (fun p => NightHeld db p.1 p.2)

theorem card_offeredIds (db : Db) : (offeredIds db).card = (activeUnits db).length := by
  rw [offeredIds, List.toFinset_card_of_nodup (nodup_activeUnits db), List.length_map]

theorem card_heldNights_le (db : Db) (day : ℤ) :
    (heldNights db day).card ≤ (activeUnits db).length * 7 := by
  refine (Finset.card_filter_le _ _).trans (le_of_eq ?_)
  rw [Finset.card_product, card_offeredIds, card_points]
  congr 1
  omega

/-! ### The ranges the query adds -/

/-- The stays and blocks of units on offer: unit, start and end. -/
def takenRanges (db : Db) : List (ℕ × ℤ × ℤ) :=
  ((db.bookings.rows.filter (fun b => decide b.Occupies)).filter (fun b => onOffer db b.unitId)).map
      (fun b => (b.unitId, b.checkIn, b.checkOut)) ++
    (db.blocks.rows.filter (fun k => onOffer db k.unitId)).map
      (fun k => (k.unitId, k.startDate, k.endDate))

theorem mem_takenRanges {db : Db} {r : ℕ × ℤ × ℤ} :
    r ∈ takenRanges db ↔ onOffer db r.1 = true ∧
      ((∃ b ∈ db.bookings.rows, b.Occupies ∧ (b.unitId, b.checkIn, b.checkOut) = r) ∨
        ∃ k ∈ db.blocks.rows, (k.unitId, k.startDate, k.endDate) = r) := by
  simp only [takenRanges, List.mem_append, List.mem_map, List.mem_filter, decide_eq_true_eq]
  constructor
  · intro h
    rcases h with ⟨b, ⟨⟨hb, ho⟩, hon⟩, rfl⟩ | ⟨k, ⟨hk, hon⟩, rfl⟩
    · exact ⟨hon, Or.inl ⟨b, hb, ho, rfl⟩⟩
    · exact ⟨hon, Or.inr ⟨k, hk, rfl⟩⟩
  · intro h
    obtain ⟨hon, ⟨b, hb, ho, rfl⟩ | ⟨k, hk, rfl⟩⟩ := h
    · exact Or.inl ⟨b, ⟨⟨hb, ho⟩, hon⟩, rfl⟩
    · exact Or.inr ⟨k, ⟨hk, hon⟩, rfl⟩

/-- Ranges that miss the week have nothing in it. -/
theorem sum_overlapNights {β : Type} (l : List β) (lo hi : β → ℤ) (c d : ℤ) :
    ((l.filter (fun x => decide (Overlaps (lo x) (hi x) c d))).map (fun x =>
      overlapNights (lo x) (hi x) c d)).sum = (l.map (fun x => (shared (lo x) (hi x) c d : ℤ))).sum := by
  have hoverlap : ∀ x ∈ l.filter (fun x => decide (Overlaps (lo x) (hi x) c d)),
      overlapNights (lo x) (hi x) c d = (shared (lo x) (hi x) c d : ℤ) := by
    intro x hx
    rw [shared_of_overlaps (by simpa using (List.mem_filter.mp hx).2)]
    rfl
  rw [List.map_congr_left hoverlap]
  refine sum_map_filter (fun x _ hx => ?_)
  rw [shared_of_not_overlaps (by simpa using hx), Nat.cast_zero]

/-- **The sum is over the ranges.** -/
theorem occupiedNights_eq (now day : ℤ) (db : Db) :
    (todayCounts now day db).occupiedNights
      = (((takenRanges db).map (fun r => shared r.2.1 r.2.2 day (day + 7))).sum : ℕ) := by
  have hstays : (db.bookings.rows.filter (fun b => decide (b.Occupies
      ∧ Overlaps b.checkIn b.checkOut day (day + 7)))).filter (fun b => joinsActive b.unitId db)
      = ((db.bookings.rows.filter (fun b => decide b.Occupies)).filter (fun b =>
        onOffer db b.unitId)).filter (fun b => decide (Overlaps b.checkIn b.checkOut day (day + 7))) := by
    rw [List.filter_filter, List.filter_filter, List.filter_filter]
    refine List.filter_congr (fun b _ => ?_)
    show (onOffer db b.unitId && decide _) = _
    rw [Bool.decide_and]
    cases onOffer db b.unitId <;> cases decide b.Occupies <;> simp
  have hblocks : (db.blocks.rows.filter (fun k => decide (Overlaps k.startDate k.endDate day
      (day + 7)))).filter (fun k => joinsActive k.unitId db)
      = (db.blocks.rows.filter (fun k => onOffer db k.unitId)).filter (fun k =>
        decide (Overlaps k.startDate k.endDate day (day + 7))) :=
    List.filter_comm (fun k : BlockRow => onOffer db k.unitId) _ _
  rw [todayCounts, hstays, hblocks, sum_overlapNights, sum_overlapNights, takenRanges,
    List.map_append, List.sum_append, List.map_map, List.map_map, Nat.cast_add, Nat.cast_list_sum,
    Nat.cast_list_sum, List.map_map, List.map_map]
  rfl

/-- No cell is covered twice. -/
theorem countP_takenRanges {db : Db} (hn : NightsApart db) (unitId : ℕ) (night : ℤ) :
    (takenRanges db).countP (fun r => decide (r.1 = unitId ∧ r.2.1 ≤ night ∧ night < r.2.2)) ≤ 1 := by
  refine le_trans ?_ (hn.countP_le_one unitId night)
  rw [takenRanges, List.countP_append, List.countP_map, List.countP_map, List.countP_filter,
    List.countP_filter, List.countP_filter]
  apply Nat.add_le_add
  · refine List.countP_mono_left (fun b _ hb => ?_)
    simp only [Function.comp_apply, Bool.and_eq_true, decide_eq_true_eq] at hb ⊢
    exact ⟨hb.1.1.1, hb.2, hb.1.1.2⟩
  · refine List.countP_mono_left (fun k _ hk => ?_)
    simp only [Function.comp_apply, Bool.and_eq_true, decide_eq_true_eq] at hk ⊢
    exact hk.1

/-- In a unit on offer, a night is held when a range covers it. -/
theorem nightHeld_iff {db : Db} {unitId : ℕ} (hon : onOffer db unitId = true) (night : ℤ) :
    NightHeld db unitId night ↔
      ∃ r ∈ takenRanges db, r.1 = unitId ∧ r.2.1 ≤ night ∧ night < r.2.2 := by
  constructor
  · intro h
    rcases h with ⟨b, hb, rfl, ho, hin⟩ | ⟨k, hk, rfl, hin⟩
    · exact ⟨(b.unitId, b.checkIn, b.checkOut),
        mem_takenRanges.mpr ⟨hon, Or.inl ⟨b, hb, ho, rfl⟩⟩, rfl, hin⟩
    · exact ⟨(k.unitId, k.startDate, k.endDate), mem_takenRanges.mpr ⟨hon, Or.inr ⟨k, hk, rfl⟩⟩,
        rfl, hin⟩
  · intro h
    obtain ⟨r, hr, rfl, hin⟩ := h
    obtain ⟨-, ⟨b, hb, ho, rfl⟩ | ⟨k, hk, rfl⟩⟩ := mem_takenRanges.mp hr
    · exact Or.inl ⟨b, hb, rfl, ho, hin⟩
    · exact Or.inr ⟨k, hk, rfl, hin⟩

/-- **Each held night is counted once.** -/
theorem occupiedNights_eq_card {db : Db} (hn : NightsApart db) (now day : ℤ) :
    (todayCounts now day db).occupiedNights = (heldNights db day).card := by
  rw [occupiedNights_eq, heldNights]
  congr 1
  refine sum_shared_card (takenRanges db) Prod.fst (fun r => r.2.1) (fun r => r.2.2) day (day + 7)
    ?_ (fun p _ => countP_takenRanges hn p.1 p.2) _ ?_
  · intro r hr
    rw [offeredIds, List.mem_toFinset]
    exact onOffer_iff.mp (mem_takenRanges.mp hr).1
  · intro p hp
    rw [Finset.mem_product, offeredIds, List.mem_toFinset] at hp
    exact nightHeld_iff (onOffer_iff.mpr hp.1) p.2

/-! ### The dashboard -/

/-- What the first screen shows. -/
def todayView (srv : Server) (clock now : ℤ) (db : Db) : TodayView :=
  let today := srv.cairo.today clock
  let rows := todayMovements today db
  let counts := todayCounts now today db
  { today := formatDate today
    arrivals := (rows.filter (fun b => b.checkIn = today)).map toMovement
    departures := (rows.filter (fun b => b.checkOut = today)).map toMovement
    stayingTonight := counts.stayingTonight
    holdsExpiring := counts.holdsExpiring
    activeUnits := counts.activeUnits
    occupiedNights := counts.occupiedNights
    weekNights := counts.activeUnits * 7 }

theorem adminToday_answer (srv : Server) (o : Oracle) (now : ℤ) (db : Db) :
    answer postgres o now db (adminToday srv) = .ok (todayView srv o.clock now db) := by
  have htoday : Reads postgres o now db (cairoToday srv) (srv.cairo.today o.clock) :=
    (Reads.query rfl).bind (.pure _)
  have hrows : Reads postgres o now db (Tx.query (.todayMovements (srv.cairo.today o.clock)))
      (todayMovements (srv.cairo.today o.clock) db) := Reads.query rfl
  have hcounts : Reads postgres o now db (Tx.query (.todayCounts (srv.cairo.today o.clock)))
      (todayCounts now (srv.cairo.today o.clock) db) := Reads.query rfl
  rw [adminToday, (htoday.mapErr _).answer_bind]
  exact ((hrows.mapErr _).bind ((hcounts.mapErr _).bind
    (.pure (todayView srv o.clock now db)))).answer

/-- **The week's occupancy is a fraction.**  In every reachable state of the whole system and for
every day, the occupied nights are the nights of the week held in units on offer, each counted once,
and no more than the nights on offer; the dashboard shows these numbers. -/
theorem occupied_nights (srv : Server) (texts : Texts) {d₀ : Rows} (h₀ : d₀.1.Unbooked) {s : FullSys}
    (h : FullReaches srv texts d₀ s) (now day : ℤ) :
    (todayCounts now day s.db.1).occupiedNights = (heldNights s.db.1 day).card ∧
      (todayCounts now day s.db.1).occupiedNights ≤ (todayCounts now day s.db.1).activeUnits * 7 ∧
      ∀ o : Oracle, ∃ view, answer postgres o now s.db.1 (adminToday srv) = .ok view ∧
        view.occupiedNights = (heldNights s.db.1 (srv.cairo.today o.clock)).card ∧
        view.occupiedNights ≤ view.weekNights := by
  have hn := full_nightsApart h₀ h
  have hle : ∀ day, (todayCounts now day s.db.1).occupiedNights
      ≤ (todayCounts now day s.db.1).activeUnits * 7 := by
    intro day
    rw [occupiedNights_eq_card hn]
    show ((heldNights s.db.1 day).card : ℤ) ≤ ((activeUnits s.db.1).length : ℤ) * 7
    exact_mod_cast card_heldNights_le s.db.1 day
  exact ⟨occupiedNights_eq_card hn now day, hle day, fun o =>
    ⟨_, adminToday_answer srv o now s.db.1, occupiedNights_eq_card hn now _, hle _⟩⟩

/-- A week of the full January: three nights of a stay that began before it, four of a block that
goes on after it. -/
theorem occupied_nights_fullJanuary :
    (todayCounts 0 (newYear + 7) (fullServed coast fullJanuary).1).occupiedNights = 7 ∧
      (todayCounts 0 (newYear + 7) (fullServed coast fullJanuary).1).occupiedNights
        ≤ (todayCounts 0 (newYear + 7) (fullServed coast fullJanuary).1).activeUnits * 7 := by
  have h := (occupied_nights winterServer plainTexts coast_unbooked
    (fullReaches_served coast fullJanuary) 0 (newYear + 7)).2.1
  rw [State.quiet_db] at h
  exact ⟨by decide +kernel, h⟩

end Sahel

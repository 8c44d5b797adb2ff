import Sahel.Web.StayPicker
import Sahel.Domain.DateText
import Sahel.Safety.Availability

/-!
# The stay picker and the booking check

The browser looks for the first taken night in a list of ranges of texts; the server counts the
stays that overlap.

* `picks_iff`: on texts, a stay can be picked exactly when no range overlaps it;
* **`picker_agrees`**: with the ranges that `adminUnitTaken` sends for a window, the picker allows a
  stay inside the window exactly when the server counts nothing against it, as long as the dates
  have years of four digits;
* `picker_forgets`: a turnover day in the year 10000 is written with five, sorts before its own
  stay, and the picker no longer sees the stay.
-/

set_option autoImplicit false

namespace Sahel

open HalfOpen ReadCommitted

namespace Web

/-! ### The loop over the ranges -/

theorem upTo_some {l d : String} (hl : l ≠ "") : upTo (some l) d = true ↔ d ≤ l := by
  simp [upTo, hl]

theorem hit_ne {day : String} (hday : day ≠ "") {r : TakenRange} {h : String}
    (hh : hit day r = some h) : h ≠ "" := by
  have hle : day ≤ h := by
    unfold hit at hh
    split_ifs at hh with hstop hstart
    · cases hh
      exact hstart.le
    · cases hh
      exact le_rfl
  intro he
  rw [he] at hle
  exact hday (le_antisymm hle (not_lt.mp (fun h => List.not_lt_nil _ (String.lt_iff.mp h))))

/-- A later day is up to where a range meets the nights from `day` on, exactly when the range ends
by `day` or starts no earlier than the later day. -/
theorem upTo_hit {day d : String} (hday : day ≠ "") (hd : day < d) (r : TakenRange) :
    upTo (hit day r) d = true ↔ (day < r.stop → d ≤ r.start) := by
  cases hh : hit day r with
  | none =>
    unfold hit at hh
    split_ifs at hh with hstop
    exact ⟨fun _ h => absurd h hstop, fun _ => rfl⟩
  | some h =>
    rw [upTo_some (hit_ne hday hh)]
    unfold hit at hh
    split_ifs at hh with hstop hstart
    · cases hh
      exact ⟨fun hle _ => hle, fun hle => hle hstop⟩
    · cases hh
      constructor
      · intro hle
        exact absurd hd (not_lt.mpr hle)
      · intro hle
        exact absurd ((hle hstop).trans (not_lt.mp hstart)) (not_le.mpr hd)

/-- **One turn of the loop.** -/
theorem upTo_nextTakenStep {day d : String} (hday : day ≠ "") (first : Option String)
    (r : TakenRange) :
    upTo (nextTakenStep day first r) d = true ↔
      upTo first d = true ∧ upTo (hit day r) d = true := by
  unfold nextTakenStep
  cases hh : hit day r with
  | none => simp [upTo]
  | some h =>
    have hne := hit_ne hday hh
    cases first with
    | none => simp [upTo, hne]
    | some f =>
      by_cases hf : f = ""
      · simp [upTo, hf, hne]
      · rw [upTo_some hf, upTo_some hne]
        by_cases hlt : h < f
        · simp only [hne, hlt, ne_eq, not_false_eq_true, or_true, and_self, if_true, upTo_some hne]
          exact ⟨fun hd => ⟨hd.trans hlt.le, hd⟩, fun hd => hd.2⟩
        · simp only [hf, hlt, or_self, and_false, if_false, upTo_some hf]
          exact ⟨fun hd => ⟨hd, hd.trans (not_lt.mp hlt)⟩, fun hd => hd.1⟩

/-- **The loop.** -/
theorem upTo_nextTaken {day d : String} (hday : day ≠ "") (taken : List TakenRange) :
    upTo (nextTaken day taken) d = true ↔ ∀ r ∈ taken, upTo (hit day r) d = true := by
  have hloop : ∀ (taken : List TakenRange) (first : Option String),
      upTo (taken.foldl (nextTakenStep day) first) d = true ↔
        upTo first d = true ∧ ∀ r ∈ taken, upTo (hit day r) d = true := by
    intro taken
    induction taken with
    | nil => simp
    | cons r rest ih =>
      intro first
      rw [List.foldl_cons, ih, upTo_nextTakenStep hday, List.forall_mem_cons, and_assoc]
  rw [nextTaken, hloop]
  exact and_iff_right rfl

/-- **What the picker allows.**  A stay can be picked exactly when it overlaps no range. -/
theorem picks_iff {ci co : String} (hci : ci ≠ "") (hs : ci < co) {taken : List TakenRange}
    (hr : ∀ r ∈ taken, r.start < r.stop) :
    isTaken ci taken = false ∧ canPick co (some ci) none taken = true ↔
      ∀ r ∈ taken, ¬ Overlaps r.start r.stop ci co := by
  have hpick : canPick co (some ci) none taken = upTo (nextTaken ci taken) co := by
    simp [canPick, truthy, hci, not_le.mpr hs]
  rw [hpick, upTo_nextTaken hci, isTaken, List.any_eq_false]
  simp only [decide_eq_true_eq]
  constructor
  · rintro ⟨hfree, hnext⟩ r hrt hov
    exact absurd ((upTo_hit hci hs r).mp (hnext r hrt) hov.2.2.2) (not_le.mpr hov.2.2.1)
  · intro h
    constructor
    · rintro r hrt ⟨hstart, hstop⟩
      exact h r hrt ⟨hr r hrt, hs, hstart.trans_lt hs, hstop⟩
    · intro r hrt
      rw [upTo_hit hci hs]
      intro hstop
      by_contra hlt
      exact h r hrt ⟨hr r hrt, hs, not_le.mp hlt, hstop⟩

end Web

/-! ### The two agree -/

theorem FourDigit.formatDate_ne {date : ℤ} (h : FourDigit date) : formatDate date ≠ "" := by
  intro he
  have hparse := parseDate_formatDate h
  rw [he] at hparse
  cases hparse

/-- Dates print in order, so their ranges overlap as they do. -/
theorem overlaps_formatDate_iff {a b c d : ℤ} (ha : FourDigit a) (hb : FourDigit b)
    (hc : FourDigit c) (hd : FourDigit d) :
    Overlaps (formatDate a) (formatDate b) (formatDate c) (formatDate d) ↔ Overlaps a b c d := by
  unfold Overlaps
  rw [formatDate_lt_iff ha hb, formatDate_lt_iff hc hd, formatDate_lt_iff ha hd,
    formatDate_lt_iff hc hb]

/-- The ranges as the API sends them. -/
def sentRanges (stays : List OccupiedStay) : List TakenRange :=
  stays.map (fun st => ⟨formatDate st.checkIn, formatDate st.blockedUntil⟩)

theorem adminUnitTaken_answer (o : Oracle) (now : ℤ) {db : Db} {u : UnitRow}
    (hu : Queries.getPricingUnit none (some u.id) false db = some u)
    {fromText toText : String} {fromDate toDate : ℤ}
    (hr : parseRange fromText toText 500 = .ok (fromDate, toDate)) :
    answer postgres o now db (adminUnitTaken (some u.id) fromText toText)
      = .ok (sentRanges (Queries.listOccupiedStays u.id u.bufferDays fromDate toDate db)) := by
  have hunit : Reads postgres o now db (Tx.getPricingUnit none (some u.id) false) u := by
    refine Reads.bind (a := some u) (Reads.query ?_) (.pure u)
    rw [← hu]
    rfl
  have hstays : Reads postgres o now db
      (Tx.query (.listOccupiedStays u.id u.bufferDays fromDate toDate))
      (Queries.listOccupiedStays u.id u.bufferDays fromDate toDate db) := Reads.query rfl
  rw [adminUnitTaken, hr]
  exact ((hunit.mapErr _).bind ((hstays.mapErr _).bind (.pure (sentRanges _)))).answer

/-- The stays listed for a unit are never empty. -/
theorem listOccupiedStays_nonempty {db : Db} {u : UnitRow} {fromDate toDate : ℤ} {s : OccupiedStay}
    (hs : s ∈ Queries.listOccupiedStays u.id u.bufferDays fromDate toDate db) :
    s.checkIn < s.blockedUntil := by
  rcases Queries.mem_listOccupiedStays.mp hs with ⟨b, -, -, rfl⟩ | ⟨k, -, -, rfl⟩
  · exact lt_add_of_lt_of_nonneg b.stay_check u.buffer_check.1
  · exact k.span_check

/-- The stays listed for a window decide whether a stay inside it overlaps anything. -/
theorem countOverlappingStays_window {db : Db} {u : UnitRow} {fromDate toDate checkIn checkOut : ℤ}
    (hf : fromDate ≤ checkIn) (ht : checkOut - 1 ≤ toDate) :
    Queries.countOverlappingStays u.id u.bufferDays checkIn checkOut db = 0 ↔
      ∀ s ∈ Queries.listOccupiedStays u.id u.bufferDays fromDate toDate db,
        ¬ Overlaps s.checkIn s.blockedUntil checkIn checkOut := by
  rw [countOverlappingStays_eq_zero_iff]
  constructor
  · intro hfree s hs hov
    obtain ⟨night, hin, hci, hco⟩ := overlaps_iff.mp hov
    exact hfree night hci hco ((mem_listOccupiedStays_iff (by omega) (by omega)).mp ⟨s, hs, hin⟩)
  · intro hno night hci hco htaken
    obtain ⟨s, hs, hin⟩ := (mem_listOccupiedStays_iff (show fromDate ≤ night by omega)
      (show night ≤ toDate by omega)).mpr htaken
    exact hno s hs (overlaps_iff.mpr ⟨night, hin, hci, hco⟩)

/-- **The picker allows what the server accepts.**  For a window that `adminUnitTaken` answers and
a stay with all its nights inside, where every date has a year of four digits. -/
theorem picker_agrees (o : Oracle) (now : ℤ) {db : Db} {u : UnitRow}
    (hu : Queries.getPricingUnit none (some u.id) false db = some u)
    {fromText toText : String} {fromDate toDate : ℤ}
    (hr : parseRange fromText toText 500 = .ok (fromDate, toDate))
    {taken : List TakenRange}
    (htaken : answer postgres o now db (adminUnitTaken (some u.id) fromText toText) = .ok taken)
    {ci co : ℤ} (hs : ci < co) (hf : fromDate ≤ ci) (ht : co - 1 ≤ toDate) (hco : FourDigit co)
    (hyears : ∀ s ∈ Queries.listOccupiedStays u.id u.bufferDays fromDate toDate db,
      FourDigit s.checkIn ∧ FourDigit s.blockedUntil) :
    Web.isTaken (formatDate ci) taken = false ∧
        Web.canPick (formatDate co) (some (formatDate ci)) none taken = true ↔
      Queries.countOverlappingStays u.id u.bufferDays ci co db = 0 := by
  rw [adminUnitTaken_answer o now hu hr] at htaken
  cases htaken
  have hci : FourDigit ci := ⟨(fourDigit_of_parseRange hr).1.1.trans hf, hs.le.trans hco.2⟩
  have hranges : ∀ r ∈ sentRanges (Queries.listOccupiedStays u.id u.bufferDays fromDate toDate db),
      r.start < r.stop := by
    intro r hr
    obtain ⟨s, hs, rfl⟩ := List.mem_map.mp hr
    exact (formatDate_lt_iff (hyears s hs).1 (hyears s hs).2).mpr (listOccupiedStays_nonempty hs)
  rw [Web.picks_iff hci.formatDate_ne ((formatDate_lt_iff hci hco).mpr hs) hranges,
    countOverlappingStays_window hf ht, sentRanges, List.forall_mem_map]
  refine forall₂_congr ?_
  intro s hs
  rw [overlaps_formatDate_iff (hyears s hs).1 (hyears s hs).2 hci hco]

/-- A stay up to the booked nights can be picked. -/
theorem picker_agrees_midMonth :
    Web.isTaken (formatDate (newYear + 6)) [⟨"2027-01-10", "2027-01-13"⟩] = false ∧
      Web.canPick (formatDate (newYear + 9)) (some (formatDate (newYear + 6))) none
        [⟨"2027-01-10", "2027-01-13"⟩] = true := by
  have hu : Queries.getPricingUnit none (some 1) false midMonth = some (seaUnit 1 (by decide)) := by
    decide +kernel
  have hr : parseRange "2027-01-01" "2027-01-31" 500 = .ok (newYear, newYear + 30) := by
    decide +kernel
  have htaken : answer postgres (oracleAt 2 (noonOf newYear)) 0 midMonth
      (adminUnitTaken (some 1) "2027-01-01" "2027-01-31")
        = .ok [⟨"2027-01-10", "2027-01-13"⟩] := by decide +kernel
  have hyears : ∀ s ∈ Queries.listOccupiedStays 1 1 newYear (newYear + 30) midMonth,
      FourDigit s.checkIn ∧ FourDigit s.blockedUntil := by decide +kernel
  have hfree : Queries.countOverlappingStays 1 1 (newYear + 6) (newYear + 9) midMonth = 0 := by
    decide +kernel
  exact (picker_agrees (oracleAt 2 (noonOf newYear)) 0 (u := seaUnit 1 (by decide)) hu hr htaken
    (by decide) (by decide) (by decide) (by decide) hyears).mpr hfree

/-- The last nights of 9999, booked by an admin. -/
def lastNights : Db :=
  served turnoverWorld [call 1 (noonOf newYear)
    (.adminCreateBooking ⟨some 1, "9999-12-29", "9999-12-31", 2, "01012345678", "Mona", 500000⟩)]

/-- **A stay the picker forgets.**  Its turnover day ends on the first of January 10000, which as a
text comes before all of its nights, so the picker allows a night the server refuses. -/
theorem picker_forgets :
    ¬ ∀ (o : Oracle) (now : ℤ) (db : Db) (u : UnitRow) (fromText toText : String)
      (fromDate toDate : ℤ) (taken : List TakenRange) (ci co : ℤ),
      Queries.getPricingUnit none (some u.id) false db = some u →
      parseRange fromText toText 500 = .ok (fromDate, toDate) →
      answer postgres o now db (adminUnitTaken (some u.id) fromText toText) = .ok taken →
      ci < co → fromDate ≤ ci → co - 1 ≤ toDate →
      (Web.isTaken (formatDate ci) taken = false ∧
          Web.canPick (formatDate co) (some (formatDate ci)) none taken = true ↔
        Queries.countOverlappingStays u.id u.bufferDays ci co db = 0) := by
  intro h
  have hpicked := (h (oracleAt 2 (noonOf newYear)) 0 lastNights (seaUnit 1 (by decide))
    "9999-12-01" "9999-12-31" 2932866 2932896 [⟨"9999-12-29", "10000-01-01"⟩] 2932894 2932895
    (by decide +kernel) (by decide +kernel) (by decide +kernel) (by decide) (by decide)
    (by decide)).mp (by decide +kernel)
  exact absurd hpicked (by decide +kernel)

end Sahel

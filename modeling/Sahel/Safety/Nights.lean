import Sahel.Model.Refinement

/-!
# No night is sold twice

What the locks and constraints are for, over every interleaving:

* **`no_double_booking`**: occupying bookings of a unit share no night with each other or with its
  blocks, blocks of a unit do not overlap, and no transaction brings a booking back to its dates.
* **`turnover_gap`**: the turnover days after each stay.  The overlap count adds them to the stays
  already stored and not to the one being booked, so a stay booked in front of a later one may end
  on the day that one starts (`turnover_gap_broken`); every run that books no such stay keeps the
  gap.
-/

set_option autoImplicit false

namespace Sahel

open KeyedTable HalfOpen ReadCommitted RelyGuarantee

/-- Two half-open stays have a night in common. -/
def ShareNight (a b c d : ℤ) : Prop := ∃ night, (a ≤ night ∧ night < b) ∧ c ≤ night ∧ night < d

theorem shareNight_iff {a b c d : ℤ} : ShareNight a b c d ↔ Overlaps a b c d :=
  overlaps_iff.symm

/-! ### Nights apart -/

/-- No night of a unit has two owners. -/
structure NightsApart (db : Db) : Prop where
  stays : ∀ a ∈ db.bookings, ∀ b ∈ db.bookings, a.id ≠ b.id → a.unitId = b.unitId →
    a.Occupies → b.Occupies → ¬ ShareNight a.checkIn a.checkOut b.checkIn b.checkOut
  blocked : ∀ b ∈ db.bookings, ∀ k ∈ db.blocks, b.unitId = k.unitId → b.Occupies →
    ¬ ShareNight b.checkIn b.checkOut k.startDate k.endDate
  blocks : ∀ j ∈ db.blocks, ∀ k ∈ db.blocks, j.id ≠ k.id → j.unitId = k.unitId →
    ¬ ShareNight j.startDate j.endDate k.startDate k.endDate

/-- **A night is held at most once.** -/
theorem NightsApart.countP_le_one {db : Db} (hn : NightsApart db) (u : ℕ) (night : ℤ) :
    db.bookings.rows.countP (fun b => decide (b.unitId = u ∧ b.Occupies ∧ b.checkIn ≤ night
      ∧ night < b.checkOut)) +
    db.blocks.rows.countP (fun k => decide (k.unitId = u ∧ k.startDate ≤ night
      ∧ night < k.endDate)) ≤ 1 := by
  rw [Table.countP_rows (t := db.bookings), Table.countP_rows (t := db.blocks)]
  · by_cases hb : ∃ b ∈ db.bookings.rows, b.unitId = u ∧ b.Occupies ∧ b.checkIn ≤ night
        ∧ night < b.checkOut
    · have hk : ¬ ∃ k ∈ db.blocks.rows, k.unitId = u ∧ k.startDate ≤ night ∧ night < k.endDate := by
        rintro ⟨k, hk, hku, hkin⟩
        obtain ⟨b, hb, hbu, hbo, hbin⟩ := hb
        exact hn.blocked b hb k hk (hbu.trans hku.symm) hbo ⟨night, hbin, hkin⟩
      rw [if_pos hb, if_neg hk]
    · rw [if_neg hb]
      split_ifs <;> omega
  · rintro x hx y hy ⟨hxu, hxin⟩ ⟨hyu, hyin⟩
    by_contra hne
    exact hn.blocks x hx y hy hne (hxu.trans hyu.symm) ⟨night, hxin, hyin⟩
  · rintro x hx y hy ⟨hxu, hxo, hxin⟩ ⟨hyu, hyo, hyin⟩
    by_contra hne
    exact hn.stays x hx y hy hne (hxu.trans hyu.symm) hxo hyo ⟨night, hxin, hyin⟩

theorem nightsApart_of_unbooked {db : Db} (h : db.Unbooked) : NightsApart db where
  stays a ha := absurd ha (h.no_booking a)
  blocked b hb := absurd hb (h.no_booking b)
  blocks k hk := absurd hk (h.no_block k)

/-- A booked stay is clear of what is stored, turnover days or not. -/
theorem Books.clear_stay {r : Req} {L : List Lock} {db : Db} {u : UnitRow} {b x : BookingRow}
    (h : Books r L db u b) (hx : x ∈ db.bookings) (hu : x.unitId = b.unitId) (ho : x.Occupies) :
    ¬ Overlaps x.checkIn x.checkOut b.checkIn b.checkOut := by
  intro hov
  have hk : x.checkOut ≤ x.checkOut + u.bufferDays := by
    have := u.buffer_check.1
    omega
  exact h.clear.stays x hx (hu.trans h.unit) ho (hov.mono hk)

/-- A new booking is clear of every occupying booking and block when it is stored. -/
theorem NightsApart.book {r : Req} {L : List Lock} {db db' : Db} {u : UnitRow} {b : BookingRow}
    (hn : NightsApart db) (h : Books r L db u b) (hb : db'.bookings = db.bookings.insert b)
    (hk : db'.blocks = db.blocks) : NightsApart db' := by
  constructor
  · rw [hb]
    refine Table.forall_pairs_insert h.idFree hn.stays ?_ ?_ (fun hne => absurd rfl hne)
    · intro x hx _ hu hox _
      rw [shareNight_iff]
      exact h.clear_stay hx hu hox
    · intro y hy _ hu _ hoy
      rw [shareNight_iff, Overlaps.comm]
      exact h.clear_stay hy hu.symm hoy
  · intro x hx k hkm hu ho
    rw [hk] at hkm
    rw [hb] at hx
    rcases (Table.mem_insert h.idFree).mp hx with hx | rfl
    · exact hn.blocked x hx k hkm hu ho
    · rw [shareNight_iff, Overlaps.comm]
      exact h.clear.blocks k hkm (hu.symm.trans h.unit)
  · rw [hk]
    exact hn.blocks

/-- So is a new block. -/
theorem NightsApart.close {L : List Lock} {db db' : Db} {k : BlockRow} (hn : NightsApart db)
    (h : Closes L db k) (hb : db'.bookings = db.bookings) (hk : db'.blocks = db.blocks.insert k) :
    NightsApart db' := by
  constructor
  · rw [hb]
    exact hn.stays
  · intro x hx j hj hu ho
    rw [hb] at hx
    rw [hk] at hj
    rcases (Table.mem_insert h.idFree).mp hj with hj | rfl
    · exact hn.blocked x hx j hj hu ho
    · rw [shareNight_iff]
      exact h.stays x hx hu ho
  · rw [hk]
    refine Table.forall_pairs_insert h.idFree hn.blocks ?_ ?_ (fun hne => absurd rfl hne)
    · intro i hi _ hu
      rw [shareNight_iff]
      exact h.blocks i hi hu
    · intro j hj _ hu
      rw [shareNight_iff, Overlaps.comm]
      exact h.blocks j hj hu.symm

/-- Revised bookings keep their nights and are not revived; blocks are at most deleted. -/
theorem NightsApart.revise {db db' : Db} (hn : NightsApart db)
    (hb : ∀ b' ∈ db'.bookings, ∃ b ∈ db.bookings, Revises b b')
    (hk : ∀ k ∈ db'.blocks, k ∈ db.blocks) : NightsApart db' := by
  constructor
  · intro x hx y hy hne hu hox hoy
    obtain ⟨x₀, hx₀, hrx⟩ := hb x hx
    obtain ⟨y₀, hy₀, hry⟩ := hb y hy
    rw [hrx.checkIn, hrx.checkOut, hry.checkIn, hry.checkOut]
    refine hn.stays x₀ hx₀ y₀ hy₀ ?_ ?_ (hrx.occupies hox) (hry.occupies hoy)
    · rw [← hrx.id, ← hry.id]
      exact hne
    · rw [← hrx.unitId, ← hry.unitId]
      exact hu
  · intro x hx k hkm hu ho
    obtain ⟨x₀, hx₀, hrx⟩ := hb x hx
    rw [hrx.checkIn, hrx.checkOut]
    exact hn.blocked x₀ hx₀ k (hk k hkm) (hrx.unitId.symm.trans hu) (hrx.occupies ho)
  · intro i hi j hj
    exact hn.blocks i (hk i hi) j (hk j hj)

/-- **One operation keeps nights apart.** -/
theorem NightsApart.op {r : Req} {L : List Lock} {db db' : Db} (hn : NightsApart db)
    (h : Op r L db db') : NightsApart db' := by
  rcases h.nights with ⟨u, b, hr, h, hb, hk⟩ | ⟨k, hr, h, hb, hk⟩ | ⟨hr, hb, hk⟩
  · exact hn.book h hb hk
  · exact hn.close h hb hk
  · exact hn.revise hb hk

/-- A booking that has let its dates go never takes them back. -/
def NeverRevives (db db' : Db) : Prop :=
  ∀ b ∈ db.bookings, ¬ b.Occupies → ∀ b' ∈ db'.bookings, b'.id = b.id → ¬ b'.Occupies

theorem Op.neverRevives {r : Req} {L : List Lock} {db db' : Db} (h : Op r L db db') :
    NeverRevives db db' := by
  intro b hb hno b' hb' hid
  have same : ∀ x ∈ db.bookings, x.id = b.id → ¬ x.Occupies := by
    intro x hx he
    rw [Table.eq_of_key_eq hx hb he]
    exact hno
  rcases h.nights with ⟨u, c, hr, h, hbk, -⟩ | ⟨k, hr, h, hbk, -⟩ | ⟨hr, hbk, -⟩
  · rw [hbk, Table.mem_insert h.idFree] at hb'
    rcases hb' with hb' | rfl
    · exact same b' hb' hid
    · exact absurd hid.symm (Table.find?_eq_none_iff.mp h.idFree b hb)
  · rw [hbk] at hb'
    exact same b' hb' hid
  · obtain ⟨x, hx, hr⟩ := hbk b' hb'
    exact fun ho => same x hx (hr.id.symm.trans hid) (hr.occupies ho)

/-- **No double booking.**  Whatever the interleaving, in every reachable state the nights of a
unit are apart, and no step brings a booking back to dates it has let go. -/
theorem no_double_booking (srv : Server) {db₀ : Db} (h₀ : db₀.Unbooked) {s : Sys}
    (h : Reaches srv anyCommit db₀ s) :
    NightsApart s.db ∧
      ∀ lab s', Step postgres (program srv) s lab s' → NeverRevives s.db s'.db := by
  refine ⟨reaches_invariant h (nightsApart_of_unbooked h₀) (fun hn _ hop => hn.op hop), ?_⟩
  intro lab s' hstep
  cases lab with
  | none =>
    rw [hstep.db_eq]
    intro b hb hno b' hb' hid
    rw [Table.eq_of_key_eq hb' hb hid]
    exact hno
  | some r =>
    obtain ⟨L, hop⟩ := commit_op h hstep
    exact hop.neverRevives

/-- Stays and a block, requested one after the other. -/
def busyWeek : List (Req × Oracle × ℤ) :=
  [call 1 (noonOf newYear) (guestBooks "2027-01-10" "2027-01-12"),
    call 2 (noonOf newYear) (.adminCreateBlock (some 1) ⟨"2027-01-12", "2027-01-14", ""⟩),
    call 3 (noonOf newYear) (guestBooks "2027-01-11" "2027-01-13"),
    call 4 (noonOf newYear) (guestBooks "2027-01-14" "2027-01-15")]

theorem no_double_booking_busyWeek :
    NightsApart (served turnoverWorld busyWeek)
      ∧ (served turnoverWorld busyWeek).bookings.rows.map BookingRow.id = [1, 4]
      ∧ (served turnoverWorld busyWeek).blocks.rows.map BlockRow.id = [2] := by
  have h := (no_double_booking winterServer turnoverWorld_unbooked
    (reaches_served_any _ busyWeek)).1
  rw [State.quiet_db] at h
  exact ⟨h, by decide +kernel, by decide +kernel⟩

/-! ### The turnover gap -/

/-- Every occupying booking leaves its unit's turnover days free before the next one. -/
def TurnoverGap (db : Db) : Prop :=
  ∀ u ∈ db.units, ∀ a ∈ db.bookings, ∀ b ∈ db.bookings, a.unitId = u.id → b.unitId = u.id →
    a.Occupies → b.Occupies → a.checkIn < b.checkIn → a.checkOut + u.bufferDays ≤ b.checkIn

instance (db : Db) : Decidable (TurnoverGap db) := by
  unfold TurnoverGap
  infer_instance

/-- The stay a request asks for ends, turnover days included, before any later stay that is
already stored. -/
def LeavesTurnover (db : Db) (r : Req) : Prop :=
  ∀ stay ∈ r.stay? db, ∀ b ∈ db.bookings, b.unitId = stay.unit.id → b.Occupies →
    stay.checkIn < b.checkIn → stay.checkOut + stay.unit.bufferDays ≤ b.checkIn

instance (db : Db) (r : Req) : Decidable (LeavesTurnover db r) := by
  unfold LeavesTurnover
  infer_instance

theorem turnoverGap_of_unbooked {db : Db} (h : db.Unbooked) : TurnoverGap db := by
  intro u _ a ha
  exact absurd ha (h.no_booking a)

/-- A stay before the new one leaves the turnover days: that is what the overlap count checks. -/
theorem Books.gap_before {r : Req} {L : List Lock} {db : Db} {u : UnitRow} {b x : BookingRow}
    (h : Books r L db u b) (hx : x ∈ db.bookings) (hu : x.unitId = u.id) (ho : x.Occupies)
    (hlt : x.checkIn < b.checkIn) : x.checkOut + u.bufferDays ≤ b.checkIn := by
  have hxs := x.stay_check
  have hk := u.buffer_check.1
  have hclear := h.clear.stays x hx hu ho
  rw [not_overlaps_iff (by omega) b.stay_check] at hclear
  have hbs := b.stay_check
  omega

/-- **What one operation does to the gap.**  It is kept exactly when the stay asked for leaves it
to the stays after it. -/
theorem turnoverGap_op {r : Req} {L : List Lock} {db db' : Db} (hg : TurnoverGap db)
    (h : Op r L db db') : TurnoverGap db' ↔ LeavesTurnover db r := by
  have hunits := h.units
  rcases h.nights with ⟨u, b, hr, h, hb, -⟩ | ⟨k, hr, h, hb, -⟩ | ⟨hr, hb, -⟩
  · have hmem : ∀ x, x ∈ db'.bookings ↔ x ∈ db.bookings ∨ x = b := by
      intro x
      rw [hb, Table.mem_insert h.idFree]
    have hu := mem_of_stay? h.asked
    constructor
    · -- The new booking's own gap is the condition.
      intro hg' stay hasked x hx hxu hox hlt
      rw [h.asked] at hasked
      cases hasked
      have hob : b.Occupies := by
        rcases h.origin with ⟨-, hs, -⟩ | ⟨-, hs⟩
        · exact occupies_of_mem (l := [.pendingPayment]) (by decide) (by simp [hs])
        · exact occupies_of_mem (l := [.confirmed]) (by decide) (by simp [hs])
      exact hg' u (by rw [hunits]; exact hu) b ((hmem b).mpr (Or.inr rfl)) x
        ((hmem x).mpr (Or.inl hx)) h.unit hxu hob hox hlt
    · intro hleave v hv
      rw [hunits] at hv
      rw [hb]
      refine Table.forall_pairs_insert h.idFree (hg v hv) ?_ ?_ ?_
      · intro x hx hxu hyu hox _ hlt
        have hvu : v = u := Table.eq_of_key_eq hv hu (hyu.symm.trans h.unit)
        subst hvu
        exact h.gap_before hx hxu hox hlt
      · intro y hy hxu hyu _ hoy hlt
        have hvu : v = u := Table.eq_of_key_eq hv hu (hxu.symm.trans h.unit)
        subst hvu
        exact hleave _ h.asked y hy hyu hoy hlt
      · intro _ _ _ _ hlt
        exact absurd hlt (lt_irrefl _)
  · have hgap : TurnoverGap db' := by
      intro v hv
      rw [hunits] at hv
      rw [hb]
      exact hg v hv
    refine ⟨fun _ stay hasked => ?_, fun _ => hgap⟩
    rw [stay?_of_not_booking db hr] at hasked
    cases hasked
  · have hgap : TurnoverGap db' := by
      intro v hv x hx y hy hxu hyu hox hoy hlt
      rw [hunits] at hv
      obtain ⟨x₀, hx₀, hrx⟩ := hb x hx
      obtain ⟨y₀, hy₀, hry⟩ := hb y hy
      rw [hrx.checkIn, hry.checkIn] at hlt
      rw [hrx.checkOut, hry.checkIn]
      exact hg v hv x₀ hx₀ y₀ hy₀ (hrx.unitId.symm.trans hxu) (hry.unitId.symm.trans hyu)
        (hrx.occupies hox) (hry.occupies hoy) hlt
    refine ⟨fun _ stay hasked => ?_, fun _ => hgap⟩
    rw [stay?_of_not_booking db hr] at hasked
    cases hasked

/-- **The turnover gap, where it holds.**  Every run whose bookings leave the turnover days to the
stays after them keeps the gap in every state; and from a state with the gap, a commit keeps it
exactly when its booking does. -/
theorem turnover_gap (srv : Server) {db₀ : Db} (h₀ : db₀.Unbooked) :
    (∀ s, Reaches srv LeavesTurnover db₀ s → TurnoverGap s.db) ∧
      ∀ s r s', Reaches srv anyCommit db₀ s → TurnoverGap s.db → Commits srv s r s' →
        (TurnoverGap s'.db ↔ LeavesTurnover s.db r) := by
  constructor
  · intro s h
    exact reaches_invariant h (turnoverGap_of_unbooked h₀)
      (fun hg hok hop => (turnoverGap_op hg hop).mpr hok)
  · intro s r s' h hg hstep
    obtain ⟨L, hop⟩ := commit_op h hstep
    exact turnoverGap_op hg hop

/-- A later stay, then one in front of it that leaves a day. -/
def stayWithGap : List (Req × Oracle × ℤ) :=
  [call 1 (noonOf newYear) (guestBooks "2027-01-10" "2027-01-12"),
    call 2 (noonOf newYear) (guestBooks "2027-01-07" "2027-01-09")]

theorem turnover_gap_stayWithGap :
    TurnoverGap (served turnoverWorld stayWithGap)
      ∧ (served turnoverWorld stayWithGap).bookings.rows.map BookingRow.id = [1, 2] := by
  have h := (turnover_gap winterServer turnoverWorld_unbooked).1 _
    (reaches_served _ stayWithGap (by decide +kernel))
  rw [State.quiet_db] at h
  exact ⟨h, by decide +kernel⟩

/-- A stay requested in front of a later one. -/
def stayInFront : List (Req × Oracle × ℤ) :=
  [call 1 (noonOf newYear) (guestBooks "2027-01-10" "2027-01-12"),
    call 2 (noonOf newYear) (guestBooks "2027-01-08" "2027-01-10")]

/-- **The gap breaks.**  A guest books the tenth to the twelfth, another the eighth to the tenth:
both stand, with no day in between. -/
theorem turnover_gap_broken :
    ¬ ∀ (srv : Server) (db₀ : Db) (s : Sys), db₀.Unbooked → Reaches srv anyCommit db₀ s →
      TurnoverGap s.db := by
  intro h
  have hg := h winterServer _ _ turnoverWorld_unbooked (reaches_served_any _ stayInFront)
  rw [State.quiet_db] at hg
  exact absurd hg (by decide +kernel)

end Sahel

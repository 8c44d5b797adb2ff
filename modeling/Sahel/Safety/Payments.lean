import Sahel.Safety.Ledger

/-!
# Money, receipts and deposits over every run

The ledger read off in every reachable state:

* **`money_conservation`**: nothing is lost, counted twice or wrapped;
* **`receipt_protects_dates`**: a receipt to check keeps the dates;
* **`deposit_decides`**: the deposit, and nothing else, confirms a website booking.
-/

set_option autoImplicit false

namespace Sahel

open KeyedTable ReadCommitted RelyGuarantee

/-! ### Payments settle once -/

/-- What may become of a payment: nothing, or a waiting one is verified or rejected. -/
def Settles (p p' : PaymentRow) : Prop :=
  p' = p ∨ (p'.id = p.id ∧ p.status = .pending ∧ (p'.status = .verified ∨ p'.status = .rejected))

theorem Settles.trans {p p' p'' : PaymentRow} (h : Settles p p') (h' : Settles p' p'') :
    Settles p p'' := by
  rcases h with rfl | ⟨hid, hp, hs⟩
  · exact h'
  · rcases h' with rfl | ⟨-, hp', -⟩
    · exact Or.inr ⟨hid, hp, hs⟩
    · rcases hs with hs | hs <;> rw [hs] at hp' <;> cases hp'

/-- A payment replaced by a settled one. -/
theorem settles_set {ps : Payments} {q : PaymentRow} (hq : q ∈ ps) (q' : PaymentRow)
    (h : Settles q q') (hid : q'.id = q.id) : ∀ p ∈ ps, ∃ p' ∈ ps.set q', Settles p p' := by
  intro p hp
  by_cases hpq : p.id = q.id
  · refine ⟨q', (Table.mem_set_of_mem hq hid.symm).mpr (Or.inr rfl), ?_⟩
    rw [Table.eq_of_key_eq hp hq hpq]
    exact h
  · refine ⟨p, (Table.mem_set_of_mem hq hid.symm).mpr (Or.inl ⟨hp, ?_⟩), Or.inl rfl⟩
    rw [hid]
    exact hpq

/-- **One operation settles payments at most once.** -/
theorem Op.settles {r : Req} {L : List Lock} {db db' : Db} (h : Op r L db db') :
    ∀ p ∈ db.payments, ∃ p' ∈ db'.payments, Settles p p' := by
  have same : ∀ p ∈ db.payments, ∃ p' ∈ db.payments, Settles p p' :=
    fun p hp => ⟨p, hp, Or.inl rfl⟩
  cases h with
  | upload b q next now h hnext hq =>
    exact fun p hp => ⟨p, (Table.mem_insert h.idFree).mpr (Or.inl hp), Or.inl rfl⟩
  | record b q now h hs hpos hq paid =>
    exact fun p hp => ⟨p, (Table.mem_insert h.idFree).mpr (Or.inl hp), Or.inl rfl⟩
  | verify b q now h ha hpos paid =>
    exact settles_set h.payment (q.verified _ _ now ha)
      (Or.inr ⟨rfl, h.waiting, Or.inl rfl⟩) rfl
  | reject b q reason others hold now h hothers hhold =>
    exact settles_set h.payment (q.rejected _) (Or.inr ⟨rfl, h.waiting, Or.inr rfl⟩) rfl
  | _ => exact same

/-- Along any run. -/
theorem runs_settles {srv : Server} {ok ok' : Db → Req → Prop} {db₀ : Db} {s s' : Sys}
    (h : Reaches srv ok db₀ s) (hrun : Runs srv ok' s s') :
    ∀ p ∈ s.db.payments, ∃ p' ∈ s'.db.payments, Settles p p' := by
  intro p hp
  refine runs_invariant h hrun (P := fun db => ∃ p' ∈ db.payments, Settles p p')
    ⟨p, hp, Or.inl rfl⟩ ?_
  rintro r L db db' ⟨q, hq, hs⟩ _ hop
  obtain ⟨q', hq', hs'⟩ := hop.settles q hq
  exact ⟨q', hq', hs.trans hs'⟩

/-! ### Additions that would wrap -/

/-- The update of an addition that does not fit is refused by its CHECK. -/
theorem setBookingPayment_wrap {db : Db} {b : BookingRow} {amount : Int64} (now : ℤ)
    (hb : db.bookings.find? b.id = some b) (h : 2 ^ 63 ≤ b.paidTotal.toInt + amount.toInt) :
    Queries.setBookingPayment (settleParams b amount) now db
      = .error (.checkViolation "bookings" "bookings_paid_total_check") := by
  have hneg : ¬ 0 ≤ (settleParams b amount).paidTotal := by
    rw [settleParams_paidTotal]
    exact not_nonneg_of_wrap h
  have hfind : db.bookings.find? (settleParams b amount).id = some b := hb
  simp only [Queries.setBookingPayment, hfind, dif_neg hneg]

/-- A settled sum has fitted. -/
theorem fits_of_settled {b : BookingRow} {amount : Int64}
    (paid : 0 ≤ (settleParams b amount).paidTotal) :
    b.paidTotal.toInt + amount.toInt < 2 ^ 63 := by
  by_contra hle
  rw [settleParams_paidTotal] at paid
  exact not_nonneg_of_wrap (not_lt.mp hle) paid

/-- The requests that add `amount` to the booking `b`. -/
def Adds (db : Db) (r : Req) (b : BookingRow) (amount : Int64) : Prop :=
  (∃ p ∈ db.payments, p.bookingId = b.id ∧ ∃ notes, r = .adminVerifyPayment (some p.id) amount notes)
    ∨ ∃ name notes, r = .adminRecordPayment (some b.id) ⟨amount, name, notes⟩

theorem Op.fits {r : Req} {L : List Lock} {db db' : Db} {b : BookingRow} {amount : Int64}
    (h : Op r L db db') (hb : b ∈ db.bookings) (ha : Adds db r b amount) :
    b.paidTotal.toInt + amount.toInt < 2 ^ 63 := by
  rcases ha with ⟨p, hp, hpb, notes, rfl⟩ | ⟨name, notes, rfl⟩
  · obtain ⟨-, now, paid, -⟩ := h.verify_row hp rfl hb hpb.symm
    exact fits_of_settled paid
  · obtain ⟨-, now, paid, -⟩ := h.record_row hb rfl
    exact fits_of_settled paid

/-! ### Money -/

/-- **Money conservation.**  In every reachable state each booking's `paid_total` is the sum of its
verified payments over the integers; from then on a payment stays as it is, or is verified or
rejected once.  An addition that does not fit an int64 is refused by the CHECK on `paid_total`, so
it never commits, and a step that is no commit changes no row. -/
theorem money_conservation (srv : Server) {db₀ : Db} (h₀ : db₀.Unbooked) {s : Sys}
    (h : Reaches srv anyCommit db₀ s) :
    (∀ b ∈ s.db.bookings, b.paidTotal.toInt = verifiedTotal s.db.payments b.id) ∧
    (∀ s', Runs srv anyCommit s s' → ∀ p ∈ s.db.payments, ∃ p' ∈ s'.db.payments, Settles p p') ∧
    (∀ r s', Commits srv s r s' → ∀ b ∈ s.db.bookings, ∀ amount, Adds s.db r b amount →
      b.paidTotal.toInt + amount.toInt < 2 ^ 63) ∧
    (∀ db b (amount : Int64) now, db.bookings.find? b.id = some b →
      2 ^ 63 ≤ b.paidTotal.toInt + amount.toInt →
      Queries.setBookingPayment (settleParams b amount) now db
        = .error (.checkViolation "bookings" "bookings_paid_total_check")) ∧
    (∀ s', Step postgres (program srv) s none s' → s'.db = s.db) := by
  refine ⟨fun b hb => ((ledger_reaches h₀ h).booked b hb).paid, fun s' hrun => runs_settles h hrun,
    ?_, fun db b amount now => setBookingPayment_wrap now, fun s' hstep => hstep.db_eq⟩
  intro r s' hstep b hb amount ha
  obtain ⟨L, hop⟩ := commit_op h hstep
  exact hop.fits hb ha

/-- A booking, two receipts, one verified in part and one rejected, then the rest recorded. -/
def paidInParts : List (Req × Oracle × ℤ) :=
  [call 1 (noonOf newYear) (guestBooks "2027-01-10" "2027-01-12"),
    call 2 (noonOf newYear) (receipt "bes-11111" "200000"),
    call 3 (noonOf newYear) (receipt "BES-11111" ""),
    call 4 (noonOf newYear) (.adminVerifyPayment (some 2) 200000 none),
    call 5 (noonOf newYear) (.adminRejectPayment (some 3) "blurred"),
    call 6 (noonOf newYear) (.adminRecordPayment (some 1) ⟨300000, "Mona", none⟩)]

theorem money_conservation_paidInParts :
    (∀ b ∈ (served plainWorld paidInParts).bookings, b.paidTotal.toInt
      = verifiedTotal (served plainWorld paidInParts).payments b.id) ∧
    (served plainWorld paidInParts).bookings.rows.map
      (fun b => (b.paidTotal, b.status)) = [(500000, .confirmed)] := by
  have h := (money_conservation winterServer plainWorld_unbooked
    (reaches_served_any _ paidInParts)).1
  simp only [State.quiet_db] at h
  exact ⟨h, by decide +kernel⟩

/-! ### Receipts -/

/-- What a booking's receipts allow its status and hold to be. -/
structure Protected (payments : Payments) (b : BookingRow) : Prop where
  unpaid : b.source = "web" → b.status = .pendingPayment →
    b.holdExpiresAt ≠ none ∧ NoneWaiting payments b.id ∧ b.paymentRejectionCount < 2
  waiting : b.status = .awaitingVerification →
    b.holdExpiresAt = none ∧ b.paymentRejectionCount < 2
  released : b.status = .expired → NoneWaiting payments b.id

theorem Consistent.protected {ps : Payments} {b : BookingRow} (h : Consistent ps b) :
    Protected ps b where
  unpaid _ hs := by
    obtain ⟨hsome, hnone, hcount⟩ := h.unpaid hs
    exact ⟨Option.isSome_iff_ne_none.mp hsome, hnone, Int16.lt_iff_toInt_lt.mpr hcount⟩
  waiting hs := ⟨(h.waiting hs).1, Int16.lt_iff_toInt_lt.mpr (h.waiting hs).2⟩
  released := h.released

/-- **A waiting receipt protects the dates.**  In every reachable state a website booking that
waits for payment has a hold, nothing to check and fewer than two rejections; one that waits for
the admin has no hold and fewer than two; a released one has nothing to check.  So `ExpireHolds`
releases no booking with a receipt to check, and every website booking that waits for payment is
released once its hold is over. -/
theorem receipt_protects_dates (srv : Server) {db₀ : Db} (h₀ : db₀.Unbooked) {s : Sys}
    (h : Reaches srv anyCommit db₀ s) :
    (∀ b ∈ s.db.bookings, Protected s.db.payments b) ∧
    (∀ s', Commits srv s .expireHolds s' → ∀ b ∈ s.db.bookings, ∀ b' ∈ s'.db.bookings,
      b'.id = b.id → b.status ≠ .expired → b'.status = .expired → NoneWaiting s.db.payments b.id) ∧
    (∀ b ∈ s.db.bookings, b.source = "web" → b.status = .pendingPayment →
      ∃ hold, b.holdExpiresAt = some hold ∧ ∀ now, hold < now → HoldOver now b) := by
  have hl := ledger_reaches h₀ h
  refine ⟨fun b hb => (hl.booked b hb).protected, ?_, ?_⟩
  · intro s' hstep b hb b' hb' hid hne hs
    obtain ⟨L, hop⟩ := commit_op h hstep
    obtain ⟨now, hdue⟩ := hop.expire_moves hb hb' hid hne hs
    exact ((hl.booked b hb).unpaid hdue.1).2.1
  · intro b hb _ hs
    obtain ⟨hold, hhold⟩ := Option.isSome_iff_exists.mp ((hl.booked b hb).unpaid hs).1
    exact ⟨hold, hhold, fun now hlt => ⟨hs, hold, hhold, hlt⟩⟩

/-- A booking left unpaid, and one with a receipt, past the hold. -/
def holdsOver : List (Req × Oracle × ℤ) :=
  [call 1 (noonOf newYear) (guestBooks "2027-01-10" "2027-01-12"),
    call 2 (noonOf newYear) (guestBooks "2027-01-14" "2027-01-16"),
    call 3 (noonOf newYear) (receipt "BES-11111" ""),
    call 4 (noonOf (newYear + 1)) .expireHolds]

theorem receipt_protects_dates_holdsOver :
    (∀ b ∈ (served plainWorld holdsOver).bookings,
      Protected (served plainWorld holdsOver).payments b) ∧
    (served plainWorld holdsOver).bookings.rows.map BookingRow.status
      = [.awaitingVerification, .expired] := by
  have h := (receipt_protects_dates winterServer plainWorld_unbooked
    (reaches_served_any _ holdsOver)).1
  simp only [State.quiet_db] at h
  exact ⟨h, by decide +kernel⟩

/-! ### Deposits -/

/-- **The deposit decides.**  In every reachable state a website booking that is confirmed has its
deposit covered, and one that waits has not. -/
theorem deposit_decides (srv : Server) {db₀ : Db} (h₀ : db₀.Unbooked) {s : Sys}
    (h : Reaches srv anyCommit db₀ s) :
    ∀ b ∈ s.db.bookings, b.source = "web" →
      (b.status = .confirmed → b.paidTotal ≥ b.depositDue) ∧
      (b.status = .pendingPayment ∨ b.status = .awaitingVerification →
        b.paidTotal < b.depositDue) := by
  intro b hb hsrc
  have hc := (ledger_reaches h₀ h).booked b hb
  exact ⟨fun hs => Int64.le_iff_toInt_le.mpr (hc.covered hsrc hs),
    fun hs => Int64.lt_iff_toInt_lt.mpr (hc.short hs)⟩

theorem deposit_decides_paidInParts :
    (∀ b ∈ (served plainWorld paidInParts).bookings, b.source = "web" →
      (b.status = .confirmed → b.paidTotal ≥ b.depositDue) ∧
      (b.status = .pendingPayment ∨ b.status = .awaitingVerification →
        b.paidTotal < b.depositDue)) ∧
    (served plainWorld paidInParts).bookings.rows.map
      (fun b => (b.source, b.status, b.depositDue)) = [("web", .confirmed, 500000)] := by
  have h := deposit_decides winterServer plainWorld_unbooked
    (reaches_served_any _ paidInParts)
  simp only [State.quiet_db] at h
  exact ⟨h, by decide +kernel⟩

end Sahel

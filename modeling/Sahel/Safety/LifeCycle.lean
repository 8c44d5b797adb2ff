import Sahel.Library.History
import Sahel.Safety.Ledger

/-!
# The life of a booking

Three promises about what may become of a booking, and the runs that break them:

* **`life_cycle`**: every commit moves a booking along its life cycle, unless it rejects a second
  receipt of a confirmed booking: the rejection counter cancels before the status is looked at
  (`life_cycle_broken`);
* **`expires_unpaid`**: `ExpireHolds` releases unpaid bookings, unless part of the deposit was
  recorded while the hold ran, or verified before the last waiting receipt was rejected
  (`expires_unpaid_broken`);
* **`cancellation_stays`**: a cancelled booking keeps when and why it was cancelled, unless one of
  its receipts is checked afterwards (`cancellation_stays_broken`).
-/

set_option autoImplicit false

namespace Sahel

open KeyedTable ReadCommitted RelyGuarantee

/-! ### The life cycle -/

/-- The statuses a booking may move to while `r` is served. -/
def successors (r : Req) : Status → List Status
  | .pendingPayment => [.awaitingVerification, .confirmed, .expired, .cancelled]
  | .awaitingVerification => [.pendingPayment, .confirmed, .cancelled]
  | .confirmed => match r with
    | .adminCancelBooking _ _ => [.cancelled]
    | _ => []
  | _ => []

/-- A booking's status stays or moves along its life cycle. -/
def Moves (r : Req) (s s' : Status) : Prop := s' = s ∨ s' ∈ successors r s

instance (r : Req) (s s' : Status) : Decidable (Moves r s s') := inferInstanceAs (Decidable (_ ∨ _))

/-- Every booking is still there, moved along its life cycle or not at all. -/
def LifeCycle (r : Req) (db db' : Db) : Prop :=
  ∀ b ∈ db.bookings, ∃ b' ∈ db'.bookings, b'.id = b.id ∧ Moves r b.status b'.status

instance (r : Req) (db db' : Db) : Decidable (LifeCycle r db db') :=
  inferInstanceAs (Decidable (∀ b ∈ db.bookings.rows, ∃ b' ∈ db'.bookings.rows,
    b'.id = b.id ∧ Moves r b.status b'.status))

/-- The payment a request rejects. -/
def Req.rejects? : Req → Option ℕ
  | .adminRejectPayment id _ => id
  | _ => none

/-- A rejected receipt of a confirmed booking is its first. -/
def SparesConfirmed (db : Db) (r : Req) : Prop :=
  ∀ p ∈ db.payments, r.rejects? = some p.id → ∀ b ∈ db.bookings, b.id = p.bookingId →
    b.status = .confirmed → b.paymentRejectionCount.toInt + 1 < maxPaymentRejections

instance (db : Db) (r : Req) : Decidable (SparesConfirmed db r) := by
  unfold SparesConfirmed
  infer_instance

theorem moves_of_afterUpload {r : Req} {s t : Status} (h : afterUpload s = some t) :
    Moves r s t := by
  obtain ⟨hs | hs, rfl⟩ := afterUpload_eq_some h
  · exact Or.inr (by simp [hs, successors])
  · exact Or.inl hs.symm

theorem moves_cancelled {id : Option ℕ} {text : String} {s : Status} (h : s ∈ cancellable) :
    Moves (.adminCancelBooking id text) s .cancelled := by
  refine Or.inr ?_
  simp only [cancellable, List.mem_cons, List.not_mem_nil, or_false] at h
  rcases h with rfl | rfl | rfl <;> simp [successors]

theorem moves_settled (r : Req) (b : BookingRow) (amount : Int64) :
    Moves r b.status (settleParams b amount).status := by
  rw [settleParams_status]
  split_ifs with hc
  · rcases hc.2 with hs | hs
    · exact Or.inr (by simp [hs, successors])
    · exact Or.inr (by simp [hs, successors])
  · exact Or.inl rfl

/-- The second rejection cancels, whatever the status was. -/
theorem rejection_cancels {b : BookingRow} (others : ℕ)
    (hge : maxPaymentRejections ≤ b.paymentRejectionCount.toInt + 1) :
    (rejection b others).1.status = .cancelled := by
  rcases rejection_cases b others with ⟨-, he⟩ | ⟨hlt, -⟩ | ⟨hlt, -⟩
  · rw [he]
  · exact absurd hlt (not_lt.mpr hge)
  · exact absurd hlt (not_lt.mpr hge)

/-- A rejection keeps to the life cycle when it cancels no confirmed booking. -/
theorem moves_rejected {r : Req} {L : List Lock} {db : Db} {b : BookingRow} {p : PaymentRow}
    (hb : Consistent db.payments b) (h : Checks L db b p) (others : ℕ)
    (hspare : b.status = .confirmed → b.paymentRejectionCount.toInt + 1 < maxPaymentRejections) :
    Moves r b.status (rejection b others).1.status := by
  have hexpired : b.status ≠ .expired :=
    fun hs => hb.released hs p h.payment h.bookingId h.waiting
  rcases rejection_cases b others with ⟨hge, he⟩ | ⟨-, -, hs, he⟩ | ⟨-, -, he⟩
  · -- The second rejection: cancelled from whatever the status was.
    rw [he]
    have hused := hb.used
    simp only [usedStatuses, List.mem_cons, List.not_mem_nil, or_false] at hused
    rcases hused with hs | hs | hs | hs | hs
    · exact Or.inr (by simp [hs, successors])
    · exact Or.inr (by simp [hs, successors])
    · exact absurd hge (not_le.mpr (hspare hs))
    · exact absurd hs hexpired
    · exact Or.inl hs.symm
  · -- Back to waiting for payment.
    rw [he]
    exact Or.inr (by simp [hs, successors])
  · rw [he]
    exact Or.inl rfl

/-- The status of a booking moves with its fate. -/
theorem Fate.moves {r : Req} {L : List Lock} {db : Db} {b b' : BookingRow} (h : Fate r L db b b')
    (hb : b ∈ db.bookings) (hc : Consistent db.payments b) (hok : SparesConfirmed db r) :
    Moves r b.status b'.status := by
  cases h with
  | kept => exact Or.inl rfl
  | cancelled reason now hr hs =>
    rw [hr]
    exact moves_cancelled hs
  | expired now hr h => exact Or.inr (by simp [h.1, successors, BookingRow.expired])
  | received now hr hnext => exact moves_of_afterUpload hnext
  | verified p now hr h paid => exact moves_settled r b _
  | rejected p reason others hold now hr h hothers =>
    exact moves_rejected hc h others
      (hok p h.payment (by rw [hr, Req.rejects?]) b hb h.bookingId.symm)
  | recorded now hr hs hpos paid => exact moves_settled r b _

/-- **What one operation does to the life cycle.**  It keeps to it exactly when it does not reject
the second receipt of a confirmed booking. -/
theorem lifeCycle_op {r : Req} {L : List Lock} {db db' : Db} (hl : Ledger db)
    (h : Op r L db db') : LifeCycle r db db' ↔ SparesConfirmed db r := by
  constructor
  · -- The second rejection moves a confirmed booking to cancelled, which is no move.
    intro hlife p hp hr b hb hbp hs
    by_contra hge
    cases r with
    | adminRejectPayment param typed =>
      obtain ⟨reason, others, hold, now, -, hrow⟩ := h.reject_row hp hr hb hbp
      obtain ⟨b', hb', hid, hmove⟩ := hlife b hb
      rw [Table.eq_of_key_eq hb' hrow hid] at hmove
      replace hmove : Moves (.adminRejectPayment param typed) b.status
        (rejection b others).1.status := hmove
      rw [hs, rejection_cancels others (not_lt.mp hge)] at hmove
      rcases hmove with he | he
      · cases he
      · exact absurd he List.not_mem_nil
    | _ => cases hr
  · intro hok b hb
    obtain ⟨b', hb', hid⟩ := h.keeps hb
    exact ⟨b', hb', hid, (h.fate hb hb' hid).moves hb (hl.booked b hb) hok⟩

/-- **The life cycle, where it holds.**  In every reachable state, a commit moves every booking
along its life cycle exactly when it does not reject the second receipt of a confirmed booking. -/
theorem life_cycle (srv : Server) {db₀ : Db} (h₀ : db₀.Unbooked) {s s' : Sys} {r : Req}
    (h : Reaches srv anyCommit db₀ s) (hstep : Commits srv s r s') :
    LifeCycle r s.db s'.db ↔ SparesConfirmed s.db r := by
  obtain ⟨L, hop⟩ := commit_op h hstep
  exact lifeCycle_op (ledger_reaches h₀ h) hop

/-- A booking with two receipts, one of them verified for the deposit. -/
def confirmedByFirst : List (Req × Oracle × ℤ) :=
  [call 1 (noonOf newYear) (guestBooks "2027-01-10" "2027-01-12"),
    call 2 (noonOf newYear) (receipt "BES-11111" ""),
    call 3 (noonOf newYear) (receipt "BES-11111" ""),
    call 4 (noonOf newYear) (.adminVerifyPayment (some 2) 500000 none)]

/-- The other receipt rejected. -/
def rejectOther : Req × Oracle × ℤ :=
  call 5 (noonOf newYear) (.adminRejectPayment (some 3) "a duplicate")

theorem life_cycle_rejectOther :
    LifeCycle rejectOther.1 (served plainWorld confirmedByFirst)
        (served plainWorld (confirmedByFirst ++ [rejectOther])) ∧
      (served plainWorld (confirmedByFirst ++ [rejectOther])).bookings.rows.map
        (fun b => (b.status, b.paymentRejectionCount)) = [(.confirmed, 1)] := by
  obtain ⟨s, s', hs, hdb, hstep, hdb'⟩ := commits_of_ne
    (d := plainWorld) (L := confirmedByFirst) (c := rejectOther) (allowed_anyCommit _ _ _ _)
    (f := fun db => db.payments.rows.map PaymentRow.status) (by decide +kernel)
  have hlife := (life_cycle winterServer plainWorld_unbooked hs hstep).mpr
    (by rw [hdb]; decide +kernel)
  rw [hdb, hdb'] at hlife
  exact ⟨hlife, by decide +kernel⟩

/-- A booking with three receipts: one rejected, one verified for the deposit. -/
def confirmedWithLeftover : List (Req × Oracle × ℤ) :=
  [call 1 (noonOf newYear) (guestBooks "2027-01-10" "2027-01-12"),
    call 2 (noonOf newYear) (receipt "BES-11111" ""),
    call 3 (noonOf newYear) (receipt "BES-11111" ""),
    call 4 (noonOf newYear) (receipt "BES-11111" ""),
    call 5 (noonOf newYear) (.adminRejectPayment (some 2) "blurred"),
    call 6 (noonOf newYear) (.adminVerifyPayment (some 3) 500000 none)]

/-- The last receipt rejected, too. -/
def rejectLeftover : Req × Oracle × ℤ :=
  call 7 (noonOf newYear) (.adminRejectPayment (some 4) "a duplicate")

/-- **A confirmed booking is cancelled.**  Its deposit verified, the second of its leftover
receipts is rejected: the booking is cancelled and its dates are free. -/
theorem life_cycle_broken :
    ¬ ∀ (srv : Server) (db₀ : Db) (s s' : Sys) (r : Req), db₀.Unbooked →
      Reaches srv anyCommit db₀ s → Commits srv s r s' → LifeCycle r s.db s'.db := by
  intro h
  obtain ⟨s, s', hs, hdb, hstep, hdb'⟩ := commits_of_ne
    (d := plainWorld) (L := confirmedWithLeftover) (c := rejectLeftover)
    (allowed_anyCommit _ _ _ _)
    (f := fun db => db.bookings.rows.map BookingRow.status) (by decide +kernel)
  have hlife := h winterServer _ s s' _ plainWorld_unbooked hs hstep
  rw [hdb, hdb'] at hlife
  exact absurd hlife (by decide +kernel)

/-! ### Releasing holds -/

/-- The booking and the amount a request records money on. -/
def Req.records? : Req → Option (ℕ × Int64)
  | .adminRecordPayment (some id) req => some (id, req.amount)
  | _ => none

/-- A booking that waits for payment has been paid nothing. -/
def UnpaidWait (db : Db) : Prop :=
  ∀ b ∈ db.bookings, b.status = .pendingPayment → b.paidTotal = 0

/-- No money comes to wait for payment: what is recorded on a booking that does covers its
deposit, and a booking that goes back to it has been paid nothing. -/
structure KeepsUnpaid (db : Db) (r : Req) : Prop where
  recorded : ∀ x ∈ r.records?, ∀ b ∈ db.bookings, b.id = x.1 → b.status = .pendingPayment →
    b.depositDue.toInt ≤ b.paidTotal.toInt + x.2.toInt
  rejected : ∀ p ∈ db.payments, r.rejects? = some p.id → ∀ b ∈ db.bookings, b.id = p.bookingId →
    b.status = .awaitingVerification → LastWaiting db b p →
    b.paymentRejectionCount.toInt + 1 < maxPaymentRejections → b.paidTotal = 0

instance (db : Db) (b : BookingRow) (p : PaymentRow) : Decidable (LastWaiting db b p) := by
  unfold LastWaiting
  infer_instance

instance (db : Db) (r : Req) : Decidable (KeepsUnpaid db r) :=
  decidable_of_iff (_ ∧ _) ⟨fun h => ⟨h.1, h.2⟩, fun h => ⟨h.recorded, h.rejected⟩⟩

theorem unpaidWait_of_unbooked {db : Db} (h : db.Unbooked) : UnpaidWait db := by
  intro b hb
  exact absurd hb (h.no_booking b)

/-- A booking's last rejected receipt, unless it is the second one, sends it back to waiting for
payment. -/
theorem rejection_returns {b : BookingRow} {others : ℕ} (hs : b.status = .awaitingVerification)
    (hzero : others = 0) (hlt : b.paymentRejectionCount.toInt + 1 < maxPaymentRejections) :
    (rejection b others).1.status = .pendingPayment := by
  rcases rejection_cases b others with ⟨hge, -⟩ | ⟨-, -, -, he⟩ | ⟨-, hn, -⟩
  · exact absurd hlt (not_lt.mpr hge)
  · rw [he]
  · exact absurd ⟨hzero, hs⟩ hn

/-- A sum that has not wrapped covers the deposit when it does over the integers. -/
theorem covers_iff {b : BookingRow} {amount : Int64} (hpos : 0 < amount)
    (paid : 0 ≤ (settleParams b amount).paidTotal) :
    b.paidTotal + amount ≥ b.depositDue ↔
      b.depositDue.toInt ≤ b.paidTotal.toInt + amount.toInt := by
  rw [settleParams_paidTotal] at paid
  rw [ge_iff_le, Int64.le_iff_toInt_le, toInt_add_of_nonneg b.paid_check hpos paid]

/-- A settled sum that leaves the deposit short leaves the status alone. -/
theorem settleParams_short {b : BookingRow} {amount : Int64} (hpos : 0 < amount)
    (paid : 0 ≤ (settleParams b amount).paidTotal)
    (hlt : b.paidTotal.toInt + amount.toInt < b.depositDue.toInt) :
    (settleParams b amount).status = b.status := by
  rw [settleParams_status, if_neg]
  rintro ⟨hge, -⟩
  exact absurd ((covers_iff hpos paid).mp hge) (not_le.mpr hlt)

/-- A booking that waits for payment after its fate has still been paid nothing. -/
theorem Fate.unpaid {r : Req} {L : List Lock} {db : Db} {b b' : BookingRow} (h : Fate r L db b b')
    (hb : b ∈ db.bookings) (hc : Consistent db.payments b)
    (hu : b.status = .pendingPayment → b.paidTotal = 0) (hok : KeepsUnpaid db r)
    (hs : b'.status = .pendingPayment) : b'.paidTotal = 0 := by
  -- Nothing waits to be checked while a booking waits for payment.
  have hnone : ∀ p, Checks L db b p → b.status ≠ .pendingPayment :=
    fun p hp hs => (hc.unpaid hs).2.1 p hp.payment hp.bookingId hp.waiting
  cases h with
  | kept => exact hu hs
  | cancelled reason now hr hst => cases hs
  | expired now hr h => cases hs
  | received now hr hnext =>
    obtain ⟨-, rfl⟩ := afterUpload_eq_some hnext
    cases hs
  | verified p now hr h paid =>
    replace hs : (settleParams b _).status = .pendingPayment := hs
    rw [settleParams_status] at hs
    split_ifs at hs
    exact absurd hs (hnone p h)
  | rejected p reason others hold now hr h hothers =>
    replace hs : (rejection b others).1.status = .pendingPayment := hs
    show b.paidTotal = 0
    rcases rejection_cases b others with ⟨-, he⟩ | ⟨hlt, hzero, hst, -⟩ | ⟨-, -, he⟩
    · rw [he] at hs
      cases hs
    · exact hok.rejected p h.payment (by rw [hr, Req.rejects?]) b hb h.bookingId.symm hst
        (hothers.mp hzero) hlt
    · rw [he] at hs
      exact absurd hs (hnone p h)
  | recorded now hr hst hpos paid =>
    rename_i req
    replace hs : (settleParams b req.amount).status = .pendingPayment := hs
    rw [settleParams_status] at hs
    split_ifs at hs with hcov
    have hle := hok.recorded (b.id, req.amount) (by rw [hr]; rfl) b hb rfl hs
    exact absurd ⟨(covers_iff hpos paid).mpr hle, Or.inl hs⟩ hcov

/-- **What one operation does to the money that waits.** -/
theorem unpaidWait_op {r : Req} {L : List Lock} {db db' : Db} (hl : Ledger db) (hu : UnpaidWait db)
    (h : Op r L db db') : UnpaidWait db' ↔ KeepsUnpaid db r := by
  constructor
  · intro hu'
    constructor
    · -- Recorded short of the deposit, the money waits.
      intro x hx b hb hbx hs
      by_contra hlt
      cases r with
      | adminRecordPayment param req =>
        cases param with
        | none => cases hx
        | some id =>
          cases hx
          obtain ⟨hpos, now, paid, hrow⟩ := h.record_row hb (by rw [hbx])
          have hst := settleParams_short hpos paid (not_le.mp hlt)
          have hzero : (settleParams b req.amount).paidTotal = 0 := hu' _ hrow (hst.trans hs)
          rw [settleParams_paidTotal, hu b hb hs, Int64.zero_add] at hzero
          rw [hzero] at hpos
          exact absurd hpos Int64.lt_irrefl
      | _ => cases hx
    · -- Sent back to waiting for payment, the money waits.
      intro p hp hr b hb hbp hs hlast hlt
      cases r with
      | adminRejectPayment param typed =>
        obtain ⟨reason, others, hold, now, hothers, hrow⟩ := h.reject_row hp hr hb hbp
        have hzero := hu' _ hrow (rejection_returns hs (hothers.mpr hlast) hlt)
        exact hzero
      | _ => cases hr
  · intro hok b' hb' hs
    rcases h.origin hb' with ⟨u, hnew⟩ | ⟨b, hb, hf⟩
    · exact hnew.unpaid
    · exact hf.unpaid hb (hl.booked b hb) (hu b hb) hok hs

/-- What is moved to expired has been paid nothing. -/
def ExpiresUnpaid (db db' : Db) : Prop :=
  ∀ b ∈ db.bookings, ∀ b' ∈ db'.bookings, b'.id = b.id → b.status ≠ .expired →
    b'.status = .expired → b.paidTotal = 0

instance (db db' : Db) : Decidable (ExpiresUnpaid db db') := by
  unfold ExpiresUnpaid
  infer_instance

/-- The worker meets a row; what is left does the rest. -/
theorem alone_expireEach_cons {o : Oracle} {now : ℤ} {db : Db} {W : List Write} {id : ℕ} {ids : List ℕ}
    {ref : Option String} {ws : List Write}
    (h : Queries.expireHold id now (postgres.view db W) = .ok (ref, ws)) :
    (alone postgres o now db (expireEach (id :: ids)) W false).2
      = (alone postgres o now db (expireEach ids) (W ++ ws) false).2 := by
  rw [← alone_map (fun refs => ref.toList ++ refs) (expireEach ids) (W ++ ws) false]
  show (alone postgres o now db (.exec (.expireHold id) _) W false).2 = _
  simp only [alone, Bool.false_eq_true, if_false]
  rw [show postgres.eval (.expireHold id) o now (postgres.view db W) = .ok (ref, ws) from h]
  rfl

/-- A row that is not past its hold is left as it is. -/
theorem expireHold_none {db : Db} {id : ℕ} {now : ℤ}
    (h : ¬ ∃ x, db.bookings.find? id = some x ∧ HoldOver now x) :
    Queries.expireHold id now db = .ok (none, []) := by
  unfold Queries.expireHold
  split
  · rfl
  · rename_i x hx
    rw [if_neg (fun hdue => h ⟨x, hx, hdue⟩)]

/-- The worker alone, among its rows: a booking past its hold that it has met, or is still to meet,
has expired at its end. -/
theorem expired_of_each {o : Oracle} {now : ℤ} {db : Db} {b : BookingRow} (hover : HoldOver now b)
    (ids : List ℕ) : ∀ {W : List Write},
      (b ∈ (postgres.view db W).bookings ∧ b.id ∈ ids) ∨ b.expired ∈ (postgres.view db W).bookings →
      b.expired ∈ (postgres.view db (alone postgres o now db (expireEach ids) W false).2).bookings := by
  induction ids with
  | nil =>
    intro W h
    rcases h with ⟨-, hnone⟩ | hdone
    · exact absurd hnone List.not_mem_nil
    · exact hdone
  | cons id ids ih =>
    intro W h
    by_cases hmet : ∃ x, (postgres.view db W).bookings.find? id = some x ∧ HoldOver now x
    · obtain ⟨x, hx, hdue⟩ := hmet
      have hexpires : Queries.expireHold id now (postgres.view db W)
          = .ok (some x.ref, [.setBooking x.expired]) := by
        simp only [Queries.expireHold, hx, if_pos hdue]
      rw [alone_expireEach_cons hexpires]
      obtain ⟨hmem, rfl⟩ := Table.mem_of_find? hx
      refine ih ?_
      rw [Database.view_append]
      show (b ∈ (postgres.view db W).bookings.set x.expired ∧ _) ∨
        b.expired ∈ (postgres.view db W).bookings.set x.expired
      simp only [Table.mem_set_of_mem hmem (show x.id = x.expired.id from rfl)]
      rcases h with ⟨hb, hid⟩ | hdone
      · by_cases hsame : b.id = x.id
        · rw [Table.eq_of_key_eq hb hmem hsame]
          exact Or.inr (Or.inr rfl)
        · exact Or.inl ⟨Or.inl ⟨hb, hsame⟩, (List.mem_cons.mp hid).resolve_left hsame⟩
      · -- What has expired is not past its hold any more.
        refine Or.inr (Or.inl ⟨hdone, fun hsame => ?_⟩)
        have hgone : HoldOver now b.expired := by
          rw [Table.eq_of_key_eq hdone hmem hsame]
          exact hdue
        cases hgone.1
    · rw [alone_expireEach_cons (expireHold_none hmet), List.append_nil]
      refine ih (h.imp_left (fun hb => ⟨hb.1, (List.mem_cons.mp hb.2).resolve_left (fun hid => ?_)⟩))
      exact hmet ⟨b, by rw [← hid]; exact Table.find?_of_mem hb.1, hover⟩

/-- **Money that waits expires**: the worker, on its own once the hold is over. -/
theorem paid_expires (srv : Server) {db : Db} (hl : Ledger db) (hu : ¬ UnpaidWait db) :
    ∃ t, ∀ o, ¬ ExpiresUnpaid db (serveAll postgres (program srv) db [(.expireHolds, o, t)]) := by
  simp only [UnpaidWait, not_forall] at hu
  obtain ⟨b, hb, hs, hpaid⟩ := hu
  obtain ⟨hold, hhold⟩ := Option.isSome_iff_exists.mp ((hl.booked b hb).unpaid hs).1
  have hover : HoldOver (hold + 1) b := ⟨hs, hold, hhold, by omega⟩
  refine ⟨hold + 1, fun o hexp => hpaid (hexp b hb b.expired ?_ rfl (by rw [hs]; decide) rfl)⟩
  have hscan : Reads postgres o (hold + 1) db (Tx.query .expireHoldsScan)
      (o.scan (Queries.expireHoldsScan (hold + 1) db)) := .query rfl
  show b.expired ∈ (postgres.view db
    (alone postgres o (hold + 1) db (program srv .expireHolds) [] false).2).bookings
  rw [program, alone_map, alone_mapErr, expireHolds, hscan.alone_bind]
  refine expired_of_each hover _ (Or.inl ⟨hb, ?_⟩)
  refine (o.scan_perm _).mem_iff.mpr (List.mem_map.mpr ⟨b, ?_, rfl⟩)
  exact List.mem_filter.mpr ⟨hb, decide_eq_true hover⟩

/-- **`ExpireHolds` releases unpaid bookings, where it does.**  In every run that brings no money
to a booking waiting for payment, what `ExpireHolds` moves to expired has been paid nothing.  From a
state in which no such money waits, a commit brings none exactly when it meets the same condition;
and once some waits, there is a time at which `ExpireHolds`, served alone, releases it. -/
theorem expires_unpaid (srv : Server) {db₀ : Db} (h₀ : db₀.Unbooked) :
    (∀ s s', Reaches srv KeepsUnpaid db₀ s → Commits srv s .expireHolds s' →
      ExpiresUnpaid s.db s'.db) ∧
    (∀ s r s', Reaches srv anyCommit db₀ s → UnpaidWait s.db → Commits srv s r s' →
      (UnpaidWait s'.db ↔ KeepsUnpaid s.db r)) ∧
    ∀ s, Reaches srv anyCommit db₀ s → ¬ UnpaidWait s.db →
      ∃ t, ∀ o, ¬ ExpiresUnpaid s.db (serveAll postgres (program srv) s.db [(.expireHolds, o, t)]) := by
  refine ⟨?_, ?_, fun s h hu => paid_expires srv (ledger_reaches h₀ h) hu⟩
  · intro s s' h hstep b hb b' hb' hid hne hs
    have hinv : Ledger s.db ∧ UnpaidWait s.db :=
      reaches_invariant (P := fun db => Ledger db ∧ UnpaidWait db) h
        ⟨ledger_of_unbooked h₀, unpaidWait_of_unbooked h₀⟩
        (fun hi hok hop => ⟨hi.1.op hop, (unpaidWait_op hi.1 hi.2 hop).mpr hok⟩)
    obtain ⟨L, hop⟩ := commit_op h hstep
    obtain ⟨now, hdue⟩ := hop.expire_moves hb hb' hid hne hs
    exact hinv.2 b hb hdue.1
  · intro s r s' h hu hstep
    obtain ⟨L, hop⟩ := commit_op h hstep
    exact unpaidWait_op (ledger_reaches h₀ h) hu hop

/-- An unpaid booking, and one with part of its deposit verified and more to check. -/
def partPaid : List (Req × Oracle × ℤ) :=
  [call 1 (noonOf newYear) (guestBooks "2027-01-10" "2027-01-12"),
    call 2 (noonOf newYear) (guestBooks "2027-01-14" "2027-01-16"),
    call 3 (noonOf newYear) (receipt "BES-22222" "200000"),
    call 4 (noonOf newYear) (receipt "BES-22222" ""),
    call 5 (noonOf newYear) (.adminVerifyPayment (some 3) 200000 none)]

/-- The worker, the day after. -/
def expireNextDay (n : ℕ) : Req × Oracle × ℤ := call n (noonOf (newYear + 1)) .expireHolds

theorem expires_unpaid_partPaid :
    ExpiresUnpaid (served plainWorld partPaid)
        (served plainWorld (partPaid ++ [expireNextDay 6])) ∧
      (served plainWorld (partPaid ++ [expireNextDay 6])).bookings.rows.map
        (fun b => (b.status, b.paidTotal)) = [(.expired, 0), (.awaitingVerification, 200000)] := by
  obtain ⟨s, s', hs, hdb, hstep, hdb'⟩ := commits_of_ne
    (d := plainWorld) (L := partPaid) (c := expireNextDay 6)
    (show Allowed postgres (program winterServer) KeepsUnpaid _ _ by decide +kernel)
    (f := fun db => db.bookings.rows.map BookingRow.status) (by decide +kernel)
  have h := (expires_unpaid winterServer plainWorld_unbooked).1 s s' hs hstep
  rw [hdb, hdb'] at h
  exact ⟨h, by decide +kernel⟩

/-- Money that came without a receipt, recorded while the hold runs. -/
def recordedOnHold : List (Req × Oracle × ℤ) :=
  [call 1 (noonOf newYear) (guestBooks "2027-01-10" "2027-01-12"),
    call 2 (noonOf newYear) (.adminRecordPayment (some 1) ⟨200000, "Mona", none⟩)]

/-- **A partly paid booking is released.**  Part of the deposit is recorded while the hold runs, and
the hold goes on running. -/
theorem expires_unpaid_broken :
    ¬ ∀ (srv : Server) (db₀ : Db) (s s' : Sys), db₀.Unbooked → Reaches srv anyCommit db₀ s →
      Commits srv s .expireHolds s' → ExpiresUnpaid s.db s'.db := by
  intro h
  obtain ⟨s, s', hs, hdb, hstep, hdb'⟩ := commits_of_ne
    (d := plainWorld) (L := recordedOnHold) (c := expireNextDay 3)
    (allowed_anyCommit _ _ _ _)
    (f := fun db => db.bookings.rows.map BookingRow.status) (by decide +kernel)
  have hexp := h winterServer _ s s' plainWorld_unbooked hs hstep
  rw [hdb, hdb'] at hexp
  exact absurd hexp (by decide +kernel)

/-! ### Cancellations -/

/-- The payment a request checks. -/
def Req.checks? : Req → Option ℕ
  | .adminVerifyPayment id _ _ => id
  | .adminRejectPayment id _ => id
  | _ => none

/-- The request checks no payment of a cancelled booking. -/
def LeavesCancelled (db : Db) (r : Req) : Prop :=
  ∀ p ∈ db.payments, r.checks? = some p.id → ∀ b ∈ db.bookings, b.id = p.bookingId →
    b.status ≠ .cancelled

instance (db : Db) (r : Req) : Decidable (LeavesCancelled db r) := by
  unfold LeavesCancelled
  infer_instance

/-- The same booking, cancelled when and why it was before. -/
structure SameCancellation (b b' : BookingRow) : Prop where
  id : b'.id = b.id
  status : b'.status = .cancelled
  cancelledAt : b'.cancelledAt = b.cancelledAt
  cancelReason : b'.cancelReason = b.cancelReason

instance (b b' : BookingRow) : Decidable (SameCancellation b b') :=
  decidable_of_iff (_ ∧ _ ∧ _ ∧ _)
    ⟨fun h => ⟨h.1, h.2.1, h.2.2.1, h.2.2.2⟩, fun h => ⟨h.1, h.2, h.3, h.4⟩⟩

/-- Every cancelled booking keeps its record. -/
def CancellationsStay (db db' : Db) : Prop :=
  ∀ b ∈ db.bookings, b.status = .cancelled → ∃ b' ∈ db'.bookings, SameCancellation b b'

instance (db db' : Db) : Decidable (CancellationsStay db db') :=
  inferInstanceAs (Decidable (∀ b ∈ db.bookings.rows, b.status = .cancelled →
    ∃ b' ∈ db'.bookings.rows, SameCancellation b b'))

/-- Only a check of its receipts touches a cancelled booking. -/
theorem Fate.of_cancelled {r : Req} {L : List Lock} {db : Db} {b b' : BookingRow}
    (h : Fate r L db b b') (hb : b ∈ db.bookings) (hs : b.status = .cancelled)
    (hok : LeavesCancelled db r) : b' = b := by
  cases h with
  | kept => rfl
  | cancelled reason now hr hst =>
    rw [hs] at hst
    exact absurd hst (by decide)
  | expired now hr hdue => exact absurd (hs.symm.trans hdue.1) (by decide)
  | received now hr hnext =>
    rw [hs] at hnext
    cases hnext
  | verified p now hr h paid =>
    exact absurd hs (hok p h.payment (by rw [hr, Req.checks?]) b hb h.bookingId.symm)
  | rejected p reason others hold now hr h hothers =>
    exact absurd hs (hok p h.payment (by rw [hr, Req.checks?]) b hb h.bookingId.symm)
  | recorded now hr hst hpos paid =>
    rw [hs] at hst
    exact absurd hst (by decide)

/-- A rejection leaves a cancelled booking cancelled. -/
theorem rejection_of_cancelled {b : BookingRow} (others : ℕ) (hs : b.status = .cancelled) :
    (rejection b others).1.status = .cancelled := by
  rcases rejection_cases b others with ⟨-, he⟩ | ⟨-, -, hst, -⟩ | ⟨-, -, he⟩
  · rw [he]
  · exact absurd (hs.symm.trans hst) (by decide)
  · rw [he]
    exact hs

/-- The reason that a check gives a booking which it leaves cancelled. -/
def Req.recordReason : Req → Option String
  | .adminRejectPayment _ typed => some ("payment rejected twice: " ++ trimSpace typed)
  | _ => none

/-- The record of a cancelled booking whose receipt was checked: the time of the check, and the
check's reason or none, whatever they were before. -/
structure Rewritten (r : Req) (now : ℤ) (b b' : BookingRow) : Prop where
  id : b'.id = b.id
  status : b'.status = .cancelled
  cancelledAt : b'.cancelledAt = some now
  cancelReason : b'.cancelReason = r.recordReason

/-- A check's statements; `reason` is the one it would cancel for. -/
def ChecksFor (reason : Option String) : Stmt → Prop
  | .lockPayment _ | .verifyPayment _ _ _ | .rejectPayment _ _ | .lockBooking _
  | .countPendingPaymentsForBooking _ | .now => True
  | .setBookingPayment arg => arg.cancelReason = reason
  | _ => False

theorem checks_only (srv : Server) {r : Req} {id : ℕ} (hr : r.checks? = some id) :
    (program srv r).Only (ChecksFor r.recordReason) := by
  have hsettle : ∀ bookingId amount, (settle bookingId amount).Only (ChecksFor none) := fun _ _ =>
    Prog.only_bind (Prog.only_bind (Prog.only_query _ trivial) (fun _ => Prog.only_require _ _))
      (fun _ => Prog.only_query _ rfl)
  cases r with
  | adminVerifyPayment param amount notes =>
    refine Prog.only_map _ (Prog.only_bind (Prog.only_require _ _) (fun id => ?_))
    refine Prog.only_bind (Prog.only_refuse _ _) (fun _ => Prog.only_mapErr _ ?_)
    refine Prog.only_bind (Prog.only_bind (Prog.only_query _ trivial) (fun _ => Prog.only_require _ _))
      (fun p => Prog.only_bind (Prog.only_refuse _ _) (fun _ => ?_))
    exact Prog.only_bind (Prog.only_query _ trivial) (fun _ =>
      Prog.only_bind (hsettle _ _) (fun _ => Prog.only_pure _))
  | adminRejectPayment param typed =>
    have hhold : ∀ b newHold, (rejectHold srv b newHold).Only
        (ChecksFor (Req.adminRejectPayment param typed).recordReason) := by
      intro b newHold
      rw [rejectHold]
      split
      · exact Prog.only_bind (Prog.only_bind (Prog.only_query _ trivial) (fun _ => Prog.only_pure _))
          (fun _ => Prog.only_pure _)
      · exact Prog.only_pure _
    refine Prog.only_map _ (Prog.only_bind (Prog.only_require _ _) (fun id => ?_))
    refine Prog.only_bind (Prog.only_refuse _ _) (fun _ => Prog.only_mapErr _ ?_)
    refine Prog.only_bind (Prog.only_bind (Prog.only_query _ trivial) (fun _ => Prog.only_require _ _))
      (fun p => Prog.only_bind (Prog.only_refuse _ _) (fun _ => ?_))
    refine Prog.only_bind (Prog.only_query _ trivial) (fun _ => ?_)
    refine Prog.only_bind (Prog.only_bind (Prog.only_query _ trivial) (fun _ => Prog.only_require _ _))
      (fun b => Prog.only_bind (Prog.only_query _ trivial) (fun others => ?_))
    exact Prog.only_bind (hhold _ _) (fun hold =>
      Prog.only_bind (Prog.only_query _ rfl) (fun _ => Prog.only_pure _))
  | _ => cases hr

/-- What a check writes into a booking that it leaves cancelled. -/
def Write.Records (reason : Option String) (now : ℤ) : Write → Prop
  | .setBooking b => b.status = .cancelled → b.cancelledAt = some now ∧ b.cancelReason = reason
  | .insertBooking _ => False
  | _ => True

theorem eval_records {reason : Option String} {s : Stmt} {o : Oracle} {now : ℤ} {db : Db} {v : s.Val}
    {ws : List Write} (hs : ChecksFor reason s) (he : s.eval o now db = .ok (v, ws)) :
    ∀ w ∈ ws, w.Records reason now := by
  cases s with
  | setBookingPayment arg =>
    cases hb : db.bookings.find? arg.id with
    | none =>
      simp only [Stmt.eval, Queries.setBookingPayment, hb] at he
      cases he
      exact fun w hw => absurd hw List.not_mem_nil
    | some b =>
      obtain ⟨paid, rfl⟩ := Queries.setBookingPayment_ok hb he
      refine List.forall_mem_singleton.mpr (fun hst => ?_)
      have harg : arg.status = .cancelled := hst
      simp only [SetBookingPaymentParams.row, harg, if_true]
      exact ⟨trivial, hs⟩
  | verifyPayment id amount notes =>
    cases hp : db.payments.find? id with
    | none =>
      simp only [Stmt.eval, Queries.verifyPayment, hp] at he
      cases he
      exact fun w hw => absurd hw List.not_mem_nil
    | some p =>
      obtain ⟨ha, rfl⟩ := Queries.verifyPayment_ok hp he
      exact List.forall_mem_singleton.mpr trivial
  | rejectPayment id typed =>
    cases hp : db.payments.find? id with
    | none =>
      simp only [Stmt.eval, Queries.rejectPayment, hp] at he
      cases he
      exact fun w hw => absurd hw List.not_mem_nil
    | some p =>
      obtain rfl := Queries.rejectPayment_ok hp he
      exact List.forall_mem_singleton.mpr trivial
  | lockPayment id => cases he; exact fun w hw => absurd hw List.not_mem_nil
  | lockBooking id => cases he; exact fun w hw => absurd hw List.not_mem_nil
  | countPendingPaymentsForBooking id => cases he; exact fun w hw => absurd hw List.not_mem_nil
  | now => cases he; exact fun w hw => absurd hw List.not_mem_nil
  | _ => exact absurd hs id

/-- A row after some writes is one from before, or written. -/
theorem mem_bookings_view {db : Db} {W : List Write} {x : BookingRow}
    (h : x ∈ (postgres.view db W).bookings) :
    x ∈ db.bookings ∨ .setBooking x ∈ W ∨ .insertBooking x ∈ W := by
  induction W generalizing db with
  | nil => exact Or.inl h
  | cons w W ih =>
    have hrest : x ∈ (postgres.view (db.apply w) W).bookings := h
    rcases ih hrest with hold | hset | hinsert
    · cases w with
      | insertBooking b =>
        rcases Table.mem_of_mem_insert hold with hx | rfl
        · exact Or.inl hx
        · exact Or.inr (Or.inr List.mem_cons_self)
      | setBooking b =>
        rcases Table.mem_set.mp hold with ⟨hx, -⟩ | ⟨rfl, -⟩
        · exact Or.inl hx
        · exact Or.inr (Or.inl List.mem_cons_self)
      | _ => exact Or.inl hold
    · exact Or.inr (Or.inl (List.mem_cons_of_mem _ hset))
    · exact Or.inr (Or.inr (List.mem_cons_of_mem _ hinsert))

/-- **A check changes the booking**, and leaves a cancelled one cancelled. -/
theorem Op.checked {r : Req} {L : List Lock} {db db' : Db} (h : Op r L db db') {p : PaymentRow}
    (hp : p ∈ db.payments) (hr : r.checks? = some p.id) {b : BookingRow} (hb : b ∈ db.bookings)
    (hbp : b.id = p.bookingId) (hs : b.status = .cancelled) :
    ∃ b' ∈ db'.bookings, b'.id = b.id ∧ b'.status = .cancelled ∧ b' ≠ b := by
  cases r with
  | adminVerifyPayment param amount notes =>
    obtain ⟨hpos, now, paid, hrow⟩ := h.verify_row hp hr hb hbp
    have hst : (settleParams b amount).status = .cancelled := by
      rw [settleParams_status, hs]
      simp
    refine ⟨_, hrow, rfl, hst, fun hsame => ?_⟩
    have hpaid : b.paidTotal + amount = b.paidTotal := by
      rw [← settleParams_paidTotal]
      exact congrArg BookingRow.paidTotal hsame
    rw [Int64.add_eq_left] at hpaid
    exact absurd hpaid.symm (Int64.ne_of_lt hpos)
  | adminRejectPayment param typed =>
    obtain ⟨reason, others, hold, now, -, hrow⟩ := h.reject_row hp hr hb hbp
    refine ⟨_, hrow, rfl, rejection_of_cancelled others hs, fun hsame => ?_⟩
    have hcount : Int16.ofInt (b.paymentRejectionCount.toInt + 1) = b.paymentRejectionCount := by
      have hone : (rejection b others).1.rejections = b.paymentRejectionCount.toInt + 1 := by
        rcases rejection_cases b others with ⟨-, he⟩ | ⟨-, -, -, he⟩ | ⟨-, -, he⟩ <;> rw [he]
      rw [← hone]
      exact congrArg BookingRow.paymentRejectionCount hsame
    rw [Int16.ofInt_add, Int16.ofInt_toInt, Int16.add_eq_left] at hcount
    exact absurd hcount (by decide)
  | _ => cases hr

/-- **A cancellation stays, where it does.**  From every reachable state on, runs that check no
payment of a cancelled booking keep when and why each booking was cancelled; and a commit that
does check one puts its own time and reason in their place. -/
theorem cancellation_stays (srv : Server) {db₀ : Db} {s : Sys} (h : Reaches srv anyCommit db₀ s) :
    (∀ s', Runs srv LeavesCancelled s s' → CancellationsStay s.db s'.db) ∧
    ∀ r s', Commits srv s r s' → ∃ i t, s.txs i = some t ∧ t.req = r ∧
      ∀ p ∈ s.db.payments, r.checks? = some p.id →
        ∀ b ∈ s.db.bookings, b.id = p.bookingId → b.status = .cancelled →
          ∃ b' ∈ s'.db.bookings, Rewritten r t.now b b' := by
  constructor
  · intro s' hrun b hb hs
    refine runs_invariant h hrun (P := fun db => ∃ b' ∈ db.bookings, SameCancellation b b')
      ⟨b, hb, rfl, hs, rfl, rfl⟩ ?_
    rintro r L db db' ⟨c, hc, hsame⟩ hok hop
    obtain ⟨c', hc', hid⟩ := hop.keeps hc
    have he : c' = c := (hop.fate hc hc' hid).of_cancelled hc hsame.status hok
    rw [he] at hc'
    exact ⟨c, hc', hsame⟩
  · intro r s' hstep
    obtain ⟨L, hop⟩ := commit_op h hstep
    obtain ⟨rs, log, hlog⟩ := LRun.of_run h (fun _ => ([] : List (Event Db Oracle Stmt)))
    cases hstep with
    | commit i live done fine =>
      have hran := hlog.told.commit live done fine
      refine ⟨i, _, live, rfl, fun p hp hr b hb hbp hs => ?_⟩
      obtain ⟨b', hb', hid, hst, hne⟩ := hop.checked hp hr hb hbp hs
      have hrecords := hran.wrote (checks_only srv hr) eval_records
        (fun w hw => absurd hw List.not_mem_nil)
      rcases mem_bookings_view hb' with hold | hset | hinsert
      · exact absurd (Table.eq_of_key_eq hold hb hid) hne
      · obtain ⟨hat, hreason⟩ := hrecords _ hset hst
        exact ⟨b', hb', hid, hst, hat, hreason⟩
      · exact absurd (hrecords _ hinsert) id

/-- A booking cancelled while one of its receipts waits. -/
def cancelledWithReceipt : List (Req × Oracle × ℤ) :=
  [call 1 (noonOf newYear) (guestBooks "2027-01-10" "2027-01-12"),
    call 2 (noonOf newYear) (receipt "BES-11111" ""),
    call 3 (noonOf newYear) (.adminCancelBooking (some 1) "the guest's plans changed")]

/-- Everything but a check of the receipt, the day after. -/
def leaveReceipt : List (Req × Oracle × ℤ) :=
  [expireNextDay 4, call 5 (noonOf (newYear + 1)) (.adminCancelBooking (some 1) "again"),
    call 6 (noonOf (newYear + 1)) (.adminRecordPayment (some 1) ⟨200000, "Mona", none⟩),
    call 7 (noonOf (newYear + 1)) (guestBooks "2027-01-10" "2027-01-12")]

theorem cancellation_stays_leaveReceipt :
    CancellationsStay (served plainWorld cancelledWithReceipt)
        (served (served plainWorld cancelledWithReceipt) leaveReceipt) ∧
      (served (served plainWorld cancelledWithReceipt) leaveReceipt).bookings.rows.map
        (fun b => (b.status, b.cancelReason))
          = [(.cancelled, some "the guest's plans changed"), (.pendingPayment, none)] := by
  have h := (cancellation_stays winterServer
    (reaches_served_any plainWorld cancelledWithReceipt)).1 _
    (runs_served _ leaveReceipt (by decide +kernel))
  simp only [State.quiet_db] at h
  exact ⟨h, by decide +kernel⟩

/-- The receipt verified, the day after. -/
def verifyLeftover : List (Req × Oracle × ℤ) :=
  [call 4 (noonOf (newYear + 1)) (.adminVerifyPayment (some 2) 200000 none)]

/-- **The record of a cancellation is lost.**  Its receipt verified afterwards, a booking was
cancelled at another time and for no reason. -/
theorem cancellation_stays_broken :
    ¬ ∀ (srv : Server) (db₀ : Db) (s s' : Sys), db₀.Unbooked → Reaches srv anyCommit db₀ s →
      Runs srv anyCommit s s' → CancellationsStay s.db s'.db := by
  intro h
  have hstay := h winterServer _ _ _ plainWorld_unbooked
    (reaches_served_any _ cancelledWithReceipt)
    (runs_served _ verifyLeftover (allowed_anyCommit _ _ _ _))
  simp only [State.quiet_db] at hstay
  exact absurd hstay (by decide +kernel)

end Sahel

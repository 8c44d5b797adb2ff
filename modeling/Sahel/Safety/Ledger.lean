import Sahel.Model.Refinement

/-!
# Bookings and their payments stay consistent

A booking row caches what its payment rows say: `paid_total` is a sum, the status says whether
the deposit is in and whether a receipt waits, the hold runs only while nothing waits.  Four
operations write both tables: two lock the payment and then its booking, two the booking first.

* `Consistent` ties one booking to the payments table, and `Ledger` asks it of every booking;
* `consistent_new`, `consistent_receipt`, `consistent_settle` and `consistent_reject`: the rows
  that operations write are consistent with the payments they write;
* `Ledger.op`: one operation keeps the ledger, so it holds in every reachable state
  (**`ledger_reaches`**).
-/

set_option autoImplicit false

namespace Sahel

open KeyedTable ReadCommitted RelyGuarantee

/-! ### Money in 64 bits -/

/-- A sum of a total and a positive amount that is not negative has not wrapped. -/
theorem toInt_add_of_nonneg {paid amount : Int64} (hp : 0 ≤ paid) (ha : 0 < amount)
    (h : 0 ≤ paid + amount) : (paid + amount).toInt = paid.toInt + amount.toInt := by
  rw [Int64.le_iff_toInt_le] at hp h
  rw [Int64.lt_iff_toInt_lt] at ha
  have h₁ := paid.toInt_lt
  have h₂ := amount.toInt_lt
  rw [Int64.toInt_add, Int.bmod_def] at h ⊢
  simp only [Int64.toInt_zero] at hp ha h
  split_ifs at h ⊢ <;> omega

/-- A sum that does not fit wraps to a negative total. -/
theorem not_nonneg_of_wrap {paid amount : Int64} (h : 2 ^ 63 ≤ paid.toInt + amount.toInt) :
    ¬ 0 ≤ paid + amount := by
  have h₁ := paid.toInt_lt
  have h₂ := amount.toInt_lt
  rw [Int64.le_iff_toInt_le, Int64.toInt_add, Int.bmod_def]
  simp only [Int64.toInt_zero]
  split_ifs <;> omega

/-- The rejection counter while it is below its limit. -/
theorem toInt_succ_of_lt {c : Int16} (h : c.toInt + 1 < 2) :
    (Int16.ofInt (c.toInt + 1)).toInt = c.toInt + 1 := by
  have hc := c.le_toInt
  rw [Int16.toInt_ofInt, Int.bmod_def]
  simp only [Int16.size]
  split_ifs <;> omega

/-! ### The payments of a booking -/

abbrev Payments : Type := Table ℕ PaymentRow PaymentRow.id

/-- What one payment adds to a booking's total. -/
def verifiedAmount (bookingId : ℕ) (p : PaymentRow) : ℤ :=
  if p.bookingId = bookingId ∧ p.status = .verified then p.amount.toInt else 0

/-- The sum of a booking's verified amounts, over the integers. -/
def verifiedTotal (payments : Payments) (bookingId : ℕ) : ℤ :=
  payments.total (verifiedAmount bookingId)

/-- No receipt of the booking is waiting to be checked. -/
def NoneWaiting (payments : Payments) (bookingId : ℕ) : Prop :=
  ∀ p ∈ payments, p.bookingId = bookingId → p.status ≠ .pending

/-- The payments of a booking say the same in both tables. -/
structure SamePayments (ps ps' : Payments) (bookingId : ℕ) : Prop where
  total : verifiedTotal ps' bookingId = verifiedTotal ps bookingId
  waiting : NoneWaiting ps bookingId → NoneWaiting ps' bookingId

theorem verifiedAmount_of_ne {p : PaymentRow} {id : ℕ} (h : p.bookingId ≠ id) :
    verifiedAmount id p = 0 := if_neg (fun hp => h hp.1)

theorem verifiedAmount_of_status {p : PaymentRow} {id : ℕ} (h : p.status ≠ .verified) :
    verifiedAmount id p = 0 := if_neg (fun hp => h hp.2)

theorem verifiedTotal_insert {ps : Payments} {p : PaymentRow} (h : ps.find? p.id = none) (id : ℕ) :
    verifiedTotal (ps.insert p) id = verifiedTotal ps id + verifiedAmount id p :=
  Table.total_insert _ h

theorem verifiedTotal_set {ps : Payments} {p : PaymentRow} (hp : p ∈ ps) (p' : PaymentRow)
    (hid : p'.id = p.id) (id : ℕ) : verifiedTotal (ps.set p') id
      = verifiedTotal ps id - verifiedAmount id p + verifiedAmount id p' :=
  Table.total_set _ hp hid.symm

theorem samePayments_insert {ps : Payments} {p : PaymentRow} (h : ps.find? p.id = none) {id : ℕ}
    (hne : p.bookingId ≠ id) : SamePayments ps (ps.insert p) id where
  total := by rw [verifiedTotal_insert h, verifiedAmount_of_ne hne, add_zero]
  waiting hw q hq hb := by
    rcases (Table.mem_insert h).mp hq with hq | rfl
    · exact hw q hq hb
    · exact absurd hb hne

theorem samePayments_set {ps : Payments} {p : PaymentRow} (hp : p ∈ ps) (p' : PaymentRow)
    (hid : p'.id = p.id) (hbk : p'.bookingId = p.bookingId) {id : ℕ} (hne : p.bookingId ≠ id) :
    SamePayments ps (ps.set p') id where
  total := by
    have hne' : p'.bookingId ≠ id := by
      rw [hbk]
      exact hne
    rw [verifiedTotal_set hp p' hid, verifiedAmount_of_ne hne, verifiedAmount_of_ne hne']
    omega
  waiting hw q hq hb := by
    rcases (Table.mem_set_of_mem hp hid.symm).mp hq with ⟨hq, -⟩ | rfl
    · exact hw q hq hb
    · exact absurd (hbk.symm.trans hb) hne

/-! ### Consistency -/

/-- The statuses the operations use; nothing here checks a guest in or refunds one. -/
def usedStatuses : List Status :=
  [.pendingPayment, .awaitingVerification, .confirmed, .expired, .cancelled]

/-- What a booking row says is what its payments say. -/
structure Consistent (ps : Payments) (b : BookingRow) : Prop where
  paid : b.paidTotal.toInt = verifiedTotal ps b.id
  used : b.status ∈ usedStatuses
  unpaid : b.status = .pendingPayment →
    b.holdExpiresAt.isSome ∧ NoneWaiting ps b.id ∧ b.paymentRejectionCount.toInt < 2
  waiting : b.status = .awaitingVerification →
    b.holdExpiresAt = none ∧ b.paymentRejectionCount.toInt < 2
  released : b.status = .expired → NoneWaiting ps b.id
  short : b.status = .pendingPayment ∨ b.status = .awaitingVerification →
    b.paidTotal.toInt < b.depositDue.toInt
  covered : b.source = "web" → b.status = .confirmed → b.depositDue.toInt ≤ b.paidTotal.toInt

theorem Consistent.frame {ps ps' : Payments} {b : BookingRow} (h : Consistent ps b)
    (hs : SamePayments ps ps' b.id) : Consistent ps' b where
  paid := h.paid.trans hs.total.symm
  used := h.used
  unpaid hb := ⟨(h.unpaid hb).1, hs.waiting (h.unpaid hb).2.1, (h.unpaid hb).2.2⟩
  waiting := h.waiting
  released hb := hs.waiting (h.released hb)
  short := h.short
  covered := h.covered

/-- Every booking is consistent and every payment has its booking. -/
structure Ledger (db : Db) : Prop where
  booked : ∀ b ∈ db.bookings, Consistent db.payments b
  owned : ∀ p ∈ db.payments, ∃ b ∈ db.bookings, b.id = p.bookingId

theorem ledger_of_unbooked {db : Db} (h : db.Unbooked) : Ledger db where
  booked b hb := absurd hb (h.no_booking b)
  owned p hp := absurd hp (h.no_payment p)

/-- Payments of one booking change, and then its row: enough that the new row is consistent. -/
theorem Ledger.settle {db : Db} {b b' : BookingRow} (hl : Ledger db) (ps : Payments)
    (hb : b ∈ db.bookings) (hid : b'.id = b.id)
    (howned : ∀ p ∈ ps, ∃ x ∈ db.bookings, x.id = p.bookingId)
    (hother : ∀ id, id ≠ b.id → SamePayments db.payments ps id) (hb' : Consistent ps b') :
    Ledger (({ db with payments := ps }).setBooking b') := by
  have hmem : ∀ x, x ∈ (({ db with payments := ps } : Db).setBooking b').bookings ↔
      (x ∈ db.bookings ∧ x.id ≠ b.id) ∨ x = b' :=
    fun x => mem_setBooking (show b ∈ ({ db with payments := ps } : Db).bookings from hb) hid
  constructor
  · intro x hx
    rcases (hmem x).mp hx with ⟨hx, hne⟩ | rfl
    · exact (hl.booked x hx).frame (hother x.id hne)
    · exact hb'
  · intro p hp
    obtain ⟨x, hx, hxp⟩ := howned p hp
    by_cases hxb : x.id = b.id
    · exact ⟨b', (hmem b').mpr (Or.inr rfl), by rw [hid, ← hxb, hxp]⟩
    · exact ⟨x, (hmem x).mpr (Or.inl ⟨hx, hxb⟩), hxp⟩

/-- Payments stay and bookings are revised: each new row must be consistent. -/
theorem Ledger.revise {db db' : Db} (hl : Ledger db) (hps : db'.payments = db.payments)
    (hb : ∀ b' ∈ db'.bookings, Consistent db.payments b')
    (hids : ∀ b ∈ db.bookings, ∃ b' ∈ db'.bookings, b'.id = b.id) : Ledger db' := by
  constructor
  · intro b' hb'
    rw [hps]
    exact hb b' hb'
  · intro p hp
    rw [hps] at hp
    obtain ⟨b, hbm, hbp⟩ := hl.owned p hp
    obtain ⟨b', hb', he⟩ := hids b hbm
    exact ⟨b', hb', he.trans hbp⟩

/-- A booking nothing more can happen to but money. -/
theorem consistent_of_closed {ps : Payments} {b : BookingRow} (hpaid : b.paidTotal.toInt
    = verifiedTotal ps b.id) (hs : b.status = .cancelled ∨ (b.status = .expired ∧ NoneWaiting ps b.id)) :
    Consistent ps b := by
  rcases hs with hs | ⟨hs, hw⟩
  · refine ⟨hpaid, by simp [usedStatuses, hs], ?_, ?_, ?_, ?_, ?_⟩ <;> simp [hs]
  · refine ⟨hpaid, by simp [usedStatuses, hs], ?_, ?_, ?_, ?_, ?_⟩ <;> simp [hs, hw]

/-! ### Consistent rows -/

/-- A booking that has just been stored has no payments. -/
theorem Ledger.no_payments {db : Db} (hl : Ledger db) {id : ℕ} (h : db.bookings.find? id = none) :
    ∀ p ∈ db.payments, p.bookingId ≠ id := by
  intro p hp he
  obtain ⟨b, hb, hbp⟩ := hl.owned p hp
  exact Table.find?_eq_none_iff.mp h b hb (hbp.trans he)

theorem verifiedTotal_eq_zero {ps : Payments} {id : ℕ} (h : ∀ p ∈ ps, p.bookingId ≠ id) :
    verifiedTotal ps id = 0 := by
  refine List.sum_eq_zero (fun x hx => ?_)
  obtain ⟨p, hp, rfl⟩ := List.mem_map.mp hx
  exact verifiedAmount_of_ne (h p hp)

theorem consistent_new {r : Req} {L : List Lock} {db : Db} {u : UnitRow} {b : BookingRow}
    (hl : Ledger db) (h : Books r L db u b) : Consistent db.payments b := by
  have hno := hl.no_payments h.idFree
  have hpaid : b.paidTotal.toInt = verifiedTotal db.payments b.id := by
    rw [verifiedTotal_eq_zero hno, h.unpaid, Int64.toInt_zero]
  have hnone : NoneWaiting db.payments b.id := fun p hp hb => absurd hb (hno p hp)
  have hcount : b.paymentRejectionCount.toInt < 2 := by
    rw [h.unrejected]
    decide
  have hprice := b.price_check
  rw [Int64.lt_iff_toInt_lt, ← h.deposit] at hprice
  rcases h.origin with ⟨hsrc, hst, hhold⟩ | ⟨hsrc, hst⟩
  · refine ⟨hpaid, by simp [usedStatuses, hst], fun _ => ⟨hhold, hnone, hcount⟩, ?_, ?_, ?_, ?_⟩
    · simp [hst]
    · simp [hst]
    · intro _
      rw [h.unpaid]
      exact hprice
    · simp [hst]
  · refine ⟨hpaid, by simp [usedStatuses, hst], ?_, ?_, ?_, ?_, ?_⟩ <;> simp [hst, hsrc]

/-- A receipt arrives: it waits, and the booking with it. -/
theorem consistent_receipt {ps : Payments} {b : BookingRow} {p : PaymentRow} {next : Status}
    (h : Consistent ps b) (hf : ps.find? p.id = none) (hp : p.status = .pending)
    (hnext : afterUpload b.status = some next) (now : ℤ) :
    Consistent (ps.insert p) ((receiptParams b next).row b now b.paid_check) := by
  obtain ⟨hs, rfl⟩ := afterUpload_eq_some hnext
  have hcount : b.paymentRejectionCount.toInt < 2 := by
    rcases hs with hs | hs
    · exact (h.unpaid hs).2.2
    · exact (h.waiting hs).2
  have hused : Status.awaitingVerification ∈ usedStatuses := by decide
  refine ⟨?_, hused, ?_, fun _ => ⟨rfl, hcount⟩, ?_, fun _ => h.short hs, ?_⟩
  · show b.paidTotal.toInt = verifiedTotal (ps.insert p) b.id
    rw [verifiedTotal_insert hf, verifiedAmount_of_status (by simp [hp]), add_zero]
    exact h.paid
  · intro he
    cases he
  · intro he
    cases he
  · intro _ he
    cases he

/-- The deposit is covered: the booking is confirmed. -/
theorem consistent_of_confirmed {ps : Payments} {b : BookingRow}
    (hpaid : b.paidTotal.toInt = verifiedTotal ps b.id) (hst : b.status = .confirmed)
    (hcovered : b.depositDue.toInt ≤ b.paidTotal.toInt) : Consistent ps b where
  paid := hpaid
  used := by simp [usedStatuses, hst]
  unpaid hs := by simp [hst] at hs
  waiting hs := by simp [hst] at hs
  released hs := by simp [hst] at hs
  short hs := by simp [hst] at hs
  covered _ _ := hcovered

/-- A settled amount moves the total by itself. -/
theorem settle_paidTotal {b : BookingRow} {amount : Int64} (hpos : 0 < amount)
    (paid : 0 ≤ (settleParams b amount).paidTotal) :
    (settleParams b amount).paidTotal.toInt = b.paidTotal.toInt + amount.toInt := by
  rw [settleParams_paidTotal] at paid ⊢
  exact toInt_add_of_nonneg b.paid_check hpos paid

/-- An amount that leaves the status alone: a waiting booking is still short of its deposit. -/
theorem consistent_settle_same {ps ps' : Payments} {b : BookingRow} {amount : Int64}
    (h : Consistent ps b) (paid : 0 ≤ (settleParams b amount).paidTotal)
    (hstatus : (settleParams b amount).status = b.status)
    (htotal : (settleParams b amount).paidTotal.toInt = verifiedTotal ps' b.id)
    (hmore : b.paidTotal.toInt ≤ (settleParams b amount).paidTotal.toInt)
    (hshort : b.status = .pendingPayment ∨ b.status = .awaitingVerification →
      (settleParams b amount).paidTotal.toInt < b.depositDue.toInt)
    (hw : NoneWaiting ps b.id → NoneWaiting ps' b.id) (now : ℤ) :
    Consistent ps' ((settleParams b amount).row b now paid) := by
  have hst : ((settleParams b amount).row b now paid).status = b.status := hstatus
  have hhold : (settleParams b amount).holdExpiresAt
      = if (settleParams b amount).status = .confirmed then none else b.holdExpiresAt := rfl
  rw [hstatus] at hhold
  refine ⟨htotal, by rw [hst]; exact h.used, ?_, ?_, ?_, ?_, ?_⟩
  · intro hs
    rw [hst] at hs
    obtain ⟨hsome, hnone, hcount⟩ := h.unpaid hs
    refine ⟨?_, hw hnone, hcount⟩
    show (settleParams b amount).holdExpiresAt.isSome
    rw [hhold, if_neg (by simp [hs])]
    exact hsome
  · intro hs
    rw [hst] at hs
    obtain ⟨hnone, hcount⟩ := h.waiting hs
    refine ⟨?_, hcount⟩
    show (settleParams b amount).holdExpiresAt = none
    rw [hhold, if_neg (by simp [hs])]
    exact hnone
  · intro hs
    rw [hst] at hs
    exact hw (h.released hs)
  · intro hs
    rw [hst] at hs
    exact hshort hs
  · intro hsrc hs
    rw [hst] at hs
    exact (h.covered hsrc hs).trans hmore

/-- An amount is settled: the total moves by it, and the deposit decides the status. -/
theorem consistent_settle {ps : Payments} {b : BookingRow} {amount : Int64}
    (h : Consistent ps b) (ps' : Payments) (hpos : 0 < amount) (paid : 0 ≤ (settleParams b amount).paidTotal)
    (ht : verifiedTotal ps' b.id = verifiedTotal ps b.id + amount.toInt)
    (hw : NoneWaiting ps b.id → NoneWaiting ps' b.id) (now : ℤ) :
    Consistent ps' ((settleParams b amount).row b now paid) := by
  have hpaid := settle_paidTotal hpos paid
  have hpos' : 0 < amount.toInt := by
    rw [Int64.lt_iff_toInt_lt, Int64.toInt_zero] at hpos
    exact hpos
  have htotal : (settleParams b amount).paidTotal.toInt = verifiedTotal ps' b.id := by
    rw [hpaid, ht, h.paid]
  have hcovered : b.paidTotal + amount ≥ b.depositDue ↔
      b.depositDue.toInt ≤ (settleParams b amount).paidTotal.toInt := by
    rw [settleParams_paidTotal]
    exact Int64.le_iff_toInt_le
  have hstatus := settleParams_status b amount
  by_cases hc : b.paidTotal + amount ≥ b.depositDue ∧
      (b.status = .pendingPayment ∨ b.status = .awaitingVerification)
  · rw [if_pos hc] at hstatus
    exact consistent_of_confirmed htotal hstatus (hcovered.mp hc.1)
  · rw [if_neg hc] at hstatus
    refine consistent_settle_same h paid hstatus htotal (by omega) (fun hs => ?_) hw now
    exact Int.not_le.mp (fun hle => hc ⟨hcovered.mpr hle, hs⟩)

/-- A receipt is rejected: the booking it belongs to is cancelled, waits for payment again with a
fresh hold, or goes on as it was. -/
theorem consistent_reject {ps : Payments} {b : BookingRow} {p : PaymentRow} {others : ℕ}
    {hold : Option ℤ} (h : Consistent ps b) (reason : String) (hp : p ∈ ps) (hbk : p.bookingId = b.id)
    (hst : p.status = .pending)
    (hothers : others = 0 → ∀ q ∈ ps, q.bookingId = b.id → q.id ≠ p.id → q.status ≠ .pending)
    (hhold : if (rejection b others).2 then hold.isSome = true else hold = b.holdExpiresAt)
    (now : ℤ) :
    Consistent (ps.set (p.rejected (some reason)))
      ((rejectParams b (rejection b others).1 hold reason).row b now b.paid_check) := by
  have htotal : b.paidTotal.toInt = verifiedTotal (ps.set (p.rejected (some reason))) b.id := by
    rw [verifiedTotal_set hp (p.rejected (some reason)) rfl,
      verifiedAmount_of_status (by simp [hst]),
      verifiedAmount_of_status (p := p.rejected _) (by simp [PaymentRow.rejected]), h.paid]
    omega
  have hpending : b.status ≠ .pendingPayment :=
    fun hs => (h.unpaid hs).2.1 p hp hbk hst
  have hexpired : b.status ≠ .expired := fun hs => h.released hs p hp hbk hst
  rcases rejection_cases b others with ⟨-, he⟩ | ⟨hlt, hzero, hs, he⟩ | ⟨hlt, -, he⟩
  · -- The second rejection cancels.
    refine consistent_of_closed htotal (Or.inl ?_)
    show (rejection b others).1.status = .cancelled
    rw [he]
  · -- Nothing else waits: back to waiting for payment, with a hold.
    rw [he] at hhold ⊢
    have hused : Status.pendingPayment ∈ usedStatuses := by decide
    refine ⟨htotal, hused, fun _ => ⟨hhold, ?_, ?_⟩, ?_, ?_, fun _ => ?_, ?_⟩
    · intro q hq hqb
      rcases (Table.mem_set_of_mem (r := p.rejected _) hp rfl).mp hq with ⟨hq, hne⟩ | rfl
      · exact hothers hzero q hq hqb hne
      · simp [PaymentRow.rejected]
    · show (Int16.ofInt (b.paymentRejectionCount.toInt + 1)).toInt < 2
      rw [toInt_succ_of_lt hlt]
      exact hlt
    · intro he
      cases he
    · intro he
      cases he
    · exact h.short (Or.inr hs)
    · intro _ he
      cases he
  · -- Other receipts wait, or the booking was not waiting: only the counter moves.
    rw [he] at hhold ⊢
    refine ⟨htotal, h.used, fun hs => absurd hs hpending, fun hs => ⟨?_, ?_⟩,
      fun hs => absurd hs hexpired, h.short, h.covered⟩
    · exact (hhold : hold = b.holdExpiresAt).trans (h.waiting hs).1
    · show (Int16.ofInt (b.paymentRejectionCount.toInt + 1)).toInt < 2
      rw [toInt_succ_of_lt hlt]
      exact hlt

/-! ### Operations keep the ledger -/

/-- A payment that waits for nobody leaves nothing waiting. -/
theorem NoneWaiting.insert {ps : Payments} {id : ℕ} (h : NoneWaiting ps id) {p : PaymentRow}
    (hf : ps.find? p.id = none) (hp : p.status ≠ .pending) : NoneWaiting (ps.insert p) id := by
  intro q hq hqb
  rcases (Table.mem_insert hf).mp hq with hq | rfl
  · exact h q hq hqb
  · exact hp

theorem NoneWaiting.set {ps : Payments} {id : ℕ} (h : NoneWaiting ps id) {p p' : PaymentRow}
    (hm : p ∈ ps) (hid : p.id = p'.id) (hp : p'.status ≠ .pending) : NoneWaiting (ps.set p') id := by
  intro q hq hqb
  rcases (Table.mem_set_of_mem hm hid).mp hq with ⟨hq, -⟩ | rfl
  · exact h q hq hqb
  · exact hp

/-- Payments owned before are owned after one of a stored booking is added. -/
theorem Ledger.owned_insert {db : Db} {p : PaymentRow} {b : BookingRow} (hl : Ledger db)
    (hf : db.payments.find? p.id = none) (hb : b ∈ db.bookings) (hbk : p.bookingId = b.id) :
    ∀ q ∈ db.payments.insert p, ∃ x ∈ db.bookings, x.id = q.bookingId := by
  intro q hq
  rcases (Table.mem_insert hf).mp hq with hq | rfl
  · exact hl.owned q hq
  · exact ⟨b, hb, hbk.symm⟩

theorem Ledger.owned_set {db : Db} {p p' : PaymentRow} (hl : Ledger db) (hp : p ∈ db.payments)
    (hid : p'.id = p.id) (hbk : p'.bookingId = p.bookingId) :
    ∀ q ∈ db.payments.set p', ∃ x ∈ db.bookings, x.id = q.bookingId := by
  intro q hq
  rcases (Table.mem_set_of_mem hp hid.symm).mp hq with ⟨hq, -⟩ | rfl
  · exact hl.owned q hq
  · rw [hbk]
    exact hl.owned p hp

theorem Ledger.op {r : Req} {L : List Lock} {db db' : Db} (hl : Ledger db) (h : Op r L db db') :
    Ledger db' := by
  cases h with
  | read h => exact hl
  | book u b customers hr h =>
    constructor
    · intro x hx
      rcases (Table.mem_insert h.idFree).mp hx with hx | hx
      · exact hl.booked x hx
      · rw [hx]
        have hnew : Consistent db.payments b := consistent_new hl h
        exact hnew
    · intro p hp
      obtain ⟨x, hx, hxp⟩ := hl.owned p hp
      exact ⟨x, (Table.mem_insert h.idFree).mpr (Or.inl hx), hxp⟩
  | block k h => exact ⟨hl.booked, hl.owned⟩
  | unblock h => exact ⟨hl.booked, hl.owned⟩
  | cancel b reason now hb hL hs =>
    have hc : Consistent db.payments (b.cancelled reason now) :=
      consistent_of_closed (hl.booked b hb).paid (Or.inl rfl)
    exact hl.settle db.payments hb rfl hl.owned (fun id _ => ⟨rfl, fun hw => hw⟩) hc
  | expire bs now h =>
    refine hl.revise rfl (fun b' hb' => ?_) (fun b hb => Table.exists_key_setAll hb)
    rcases Table.mem_setAll hb' with ⟨hb, -⟩ | hb'
    · exact hl.booked b' hb
    · obtain ⟨b, hb, rfl⟩ := List.mem_map.mp hb'
      obtain ⟨hm, -, hdue⟩ := h b hb
      have hc := hl.booked b hm
      exact consistent_of_closed hc.paid (Or.inr ⟨rfl, (hc.unpaid hdue.1).2.1⟩)
  | upload b p next now h hnext hp =>
    have hc := consistent_receipt (hl.booked b h.stored) h.idFree hp hnext now
    exact hl.settle (db.payments.insert p) h.stored rfl
      (hl.owned_insert h.idFree h.stored h.bookingId)
      (fun id hne => samePayments_insert h.idFree (by rw [h.bookingId]; exact hne.symm)) hc
  | verify b p now h ha hpos paid =>
    rename_i amount notes
    have ht : verifiedTotal (db.payments.set (p.verified amount notes now ha)) b.id
        = verifiedTotal db.payments b.id + amount.toInt := by
      have hv : verifiedAmount b.id (p.verified amount notes now ha) = amount.toInt :=
        if_pos ⟨h.bookingId, rfl⟩
      rw [verifiedTotal_set h.payment (p.verified amount notes now ha) rfl, hv,
        verifiedAmount_of_status (by simp [h.waiting]), sub_zero]
    have hw : NoneWaiting db.payments b.id →
        NoneWaiting (db.payments.set (p.verified amount notes now ha)) b.id :=
      fun hw => hw.set h.payment rfl (by simp [PaymentRow.verified])
    exact hl.settle _ h.stored rfl (hl.owned_set h.payment rfl rfl)
      (fun id hne => samePayments_set h.payment (p.verified amount notes now ha) rfl rfl
        (by rw [h.bookingId]; exact hne.symm))
      (consistent_settle (hl.booked b h.stored) _ hpos paid ht hw now)
  | reject b p reason others hold now h hothers hhold =>
    have hc := consistent_reject (hl.booked b h.stored) reason h.payment h.bookingId h.waiting
      hothers.mp hhold now
    exact hl.settle _ h.stored rfl (hl.owned_set h.payment rfl rfl)
      (fun id hne => samePayments_set h.payment (p.rejected (some reason)) rfl rfl
        (by rw [h.bookingId]; exact hne.symm)) hc
  | record b p now h hs hpos hp paid =>
    rename_i req
    have ht : verifiedTotal (db.payments.insert p) b.id
        = verifiedTotal db.payments b.id + req.amount.toInt := by
      have hv : verifiedAmount b.id p = p.amount.toInt := if_pos ⟨h.bookingId, hp.1⟩
      rw [verifiedTotal_insert h.idFree, hv, hp.2]
    have hw : NoneWaiting db.payments b.id → NoneWaiting (db.payments.insert p) b.id :=
      fun hw => hw.insert h.idFree (by simp [hp.1])
    exact hl.settle _ h.stored rfl (hl.owned_insert h.idFree h.stored h.bookingId)
      (fun id hne => samePayments_insert h.idFree (by rw [h.bookingId]; exact hne.symm))
      (consistent_settle (hl.booked b h.stored) _ hpos paid ht hw now)

/-- **The ledger holds in every reachable state.** -/
theorem ledger_reaches {srv : Server} {ok : Db → Req → Prop} {db₀ : Db} (h₀ : db₀.Unbooked)
    {s : Sys} (h : Reaches srv ok db₀ s) : Ledger s.db :=
  reaches_invariant h (ledger_of_unbooked h₀) (fun hl _ hop => hl.op hop)

end Sahel

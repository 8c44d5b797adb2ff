import Sahel.Library.Interference
import Sahel.Http.Requests

/-!
# What each request does, in one step

The purpose of the handlers, without their statements: `Op r L db db'` says how serving `r` may
change the committed rows at once, given the locks `L` its transaction ends with.

* `Books`, `Closes`, `Receives`, `Checks` and the constructors of `Op` name the rows written and
  what is true of the rows before: a booking is stored on clear nights under its unit's lock, a
  payment changes while it is pending, and so on.
* `Revises` is all an update may do to a booking: its nights and its reference stay, and it is
  never revived.
* `Rely L` is what other transactions may do while `L` is held, and `guarantees` is the proof that
  operations keep to it.
-/

set_option autoImplicit false

namespace Sahel

open KeyedTable HalfOpen ReadCommitted

/-! ### Nights -/

/-- No occupying booking of the unit (with its turnover days) and no block on these nights. -/
structure Clear (db : Db) (u : UnitRow) (checkIn checkOut : ℤ) : Prop where
  stays : ∀ b ∈ db.bookings, b.unitId = u.id → b.Occupies →
    ¬ Overlaps b.checkIn (b.checkOut + u.bufferDays) checkIn checkOut
  blocks : ∀ k ∈ db.blocks, k.unitId = u.id → ¬ Overlaps k.startDate k.endDate checkIn checkOut

/-- A unit and nights. -/
structure AskedStay where
  unit : UnitRow
  checkIn : ℤ
  checkOut : ℤ

/-- The unit and nights a booking request is about. -/
def Req.stay? (db : Db) : Req → Option AskedStay
  | .createBooking _ req => do
    let range ← (parseRange req.checkIn req.checkOut maxAvailabilitySpan).toOption
    let u ← Queries.getPricingUnit (some req.unitSlug) none true db
    return ⟨u, range.1, range.2⟩
  | .adminCreateBooking req => do
    let id ← req.unitId
    let range ← (parseRange req.checkIn req.checkOut maxAvailabilitySpan).toOption
    let u ← Queries.getPricingUnit none (some id) false db
    return ⟨u, range.1, range.2⟩
  | _ => none

/-- `r` books `b`: nights of `u` that are clear, a new id and reference, nothing paid yet. -/
structure Books (r : Req) (L : List Lock) (db : Db) (u : UnitRow) (b : BookingRow) : Prop where
  asked : r.stay? db = some ⟨u, b.checkIn, b.checkOut⟩
  unit : b.unitId = u.id
  clear : Clear db u b.checkIn b.checkOut
  unitLock : .unit b.unitId ∈ L
  idLock : .booking b.id ∈ L
  refLock : .ref b.ref ∈ L
  idFree : db.bookings.find? b.id = none
  refFree : ∀ x ∈ db.bookings, x.ref ≠ b.ref
  unpaid : b.paidTotal = 0
  unrejected : b.paymentRejectionCount = 0
  deposit : b.depositDue = b.nightlyPrice
  origin : (b.source = "web" ∧ b.status = .pendingPayment ∧ b.holdExpiresAt.isSome)
    ∨ (b.source = "admin" ∧ b.status = .confirmed)

/-- A block on nights of a unit that no occupying booking and no other block has. -/
structure Closes (L : List Lock) (db : Db) (k : BlockRow) : Prop where
  unitLock : .unit k.unitId ∈ L
  idLock : .block k.id ∈ L
  idFree : db.blocks.find? k.id = none
  stays : ∀ b ∈ db.bookings, b.unitId = k.unitId → b.Occupies →
    ¬ Overlaps b.checkIn b.checkOut k.startDate k.endDate
  blocks : ∀ x ∈ db.blocks, x.unitId = k.unitId →
    ¬ Overlaps x.startDate x.endDate k.startDate k.endDate

/-! ### Money -/

/-- A new payment `p` of the locked booking `b`. -/
structure Receives (L : List Lock) (db : Db) (b : BookingRow) (p : PaymentRow) : Prop where
  stored : b ∈ db.bookings
  lock : .booking b.id ∈ L
  bookingId : p.bookingId = b.id
  idLock : .payment p.id ∈ L
  idFree : db.payments.find? p.id = none

/-- A waiting payment `p` of the locked booking `b`, itself locked. -/
structure Checks (L : List Lock) (db : Db) (b : BookingRow) (p : PaymentRow) : Prop where
  stored : b ∈ db.bookings
  lock : .booking b.id ∈ L
  payment : p ∈ db.payments
  bookingId : p.bookingId = b.id
  paymentLock : .payment p.id ∈ L
  waiting : p.status = .pending

/-- No other payment of the booking is waiting. -/
def LastWaiting (db : Db) (b : BookingRow) (p : PaymentRow) : Prop :=
  ∀ q ∈ db.payments, q.bookingId = b.id → q.id ≠ p.id → q.status ≠ .pending

def Db.setBooking (db : Db) (b : BookingRow) : Db := { db with bookings := db.bookings.set b }
def Db.setPayment (db : Db) (p : PaymentRow) : Db := { db with payments := db.payments.set p }
def Db.addPayment (db : Db) (p : PaymentRow) : Db := { db with payments := db.payments.insert p }

/-! ### The operations -/

/-- A request that only reads. -/
def Req.ReadOnly : Req → Prop
  | .getAvailability _ _ _ => True
  | .postQuote _ _ => True
  | _ => False

/-- A request that stores a booking. -/
def Req.Booking : Req → Prop
  | .createBooking _ _ => True
  | .adminCreateBooking _ => True
  | _ => False

/-- Serving `r` with the locks `L` turns `db` into `db'`. -/
inductive Op : Req → List Lock → Db → Db → Prop where
  | read {r : Req} {L db} (h : r.ReadOnly) : Op r L db db
  | book {r : Req} {L db} (u : UnitRow) (b : BookingRow) (customers : Table ℕ CustomerRow CustomerRow.id)
      (hr : r.Booking) (h : Books r L db u b) :
      Op r L db { db with bookings := db.bookings.insert b, customers := customers }
  | block {L db param req} (k : BlockRow) (h : Closes L db k) :
      Op (.adminCreateBlock param req) L db { db with blocks := db.blocks.insert k }
  | unblock {L db id} (h : .block id ∈ L) :
      Op (.adminDeleteBlock (some id)) L db { db with blocks := db.blocks.erase id }
  | cancel {L db text} (b : BookingRow) (reason : Option String) (now : ℤ) (hb : b ∈ db.bookings)
      (hL : .booking b.id ∈ L) (hs : b.status ∈ cancellable) :
      Op (.adminCancelBooking (some b.id) text) L db (db.setBooking (b.cancelled reason now))
  | expire {L db} (bs : List BookingRow) (now : ℤ)
      (h : ∀ b ∈ bs, b ∈ db.bookings ∧ .booking b.id ∈ L ∧ HoldOver now b) :
      Op .expireHolds L db { db with bookings := db.bookings.setAll (bs.map BookingRow.expired) }
  | upload {L db req} (b : BookingRow) (p : PaymentRow) (next : Status) (now : ℤ)
      (h : Receives L db b p) (hnext : afterUpload b.status = some next)
      (hp : p.status = .pending) :
      Op (.uploadPayment req) L db ((db.addPayment p).setBooking
        ((receiptParams b next).row b now b.paid_check))
  | verify {L db} {amount : Int64} {notes : Option String} (b : BookingRow) (p : PaymentRow) (now : ℤ)
      (h : Checks L db b p) (ha : 0 ≤ amount) (hpos : 0 < amount)
      (paid : 0 ≤ (settleParams b amount).paidTotal) :
      Op (.adminVerifyPayment (some p.id) amount notes) L db
        ((db.setPayment (p.verified amount notes now ha)).setBooking
          ((settleParams b amount).row b now paid))
  | reject {L db typed} (b : BookingRow) (p : PaymentRow) (reason : String) (others : ℕ)
      (hold : Option ℤ) (now : ℤ) (h : Checks L db b p)
      (hothers : others = 0 ↔ LastWaiting db b p)
      (hhold : if (rejection b others).2 then hold.isSome = true else hold = b.holdExpiresAt) :
      Op (.adminRejectPayment (some p.id) typed) L db
        ((db.setPayment (p.rejected (some reason))).setBooking
          ((rejectParams b (rejection b others).1 hold reason).row b now b.paid_check))
  | record {L db} {req : RecordRequest} (b : BookingRow) (p : PaymentRow) (now : ℤ)
      (h : Receives L db b p) (hs : b.status ∈ recordable) (hpos : 0 < req.amount)
      (hp : p.status = .verified ∧ p.amount = req.amount)
      (paid : 0 ≤ (settleParams b req.amount).paidTotal) :
      Op (.adminRecordPayment (some b.id) req) L db ((db.addPayment p).setBooking
        ((settleParams b req.amount).row b now paid))

/-! ### What an update does to a booking -/

/-- `b'` is `b` with another status and other money. -/
structure Revises (b b' : BookingRow) : Prop where
  id : b'.id = b.id
  ref : b'.ref = b.ref
  unitId : b'.unitId = b.unitId
  checkIn : b'.checkIn = b.checkIn
  checkOut : b'.checkOut = b.checkOut
  source : b'.source = b.source
  depositDue : b'.depositDue = b.depositDue
  occupies : b'.Occupies → b.Occupies

theorem occupies_of_mem {b : BookingRow} {l : List Status} (hl : l ⊆ occupying)
    (h : b.status ∈ l) : b.Occupies := hl h

theorem not_occupies_cancelled : ¬ Status.Occupies .cancelled := by decide

theorem not_occupies_expired : ¬ Status.Occupies .expired := by decide

theorem revises_row {b : BookingRow} {arg : SetBookingPaymentParams} {now : ℤ}
    {paid : 0 ≤ arg.paidTotal} (h : arg.status.Occupies → b.Occupies) :
    Revises b (arg.row b now paid) :=
  ⟨rfl, rfl, rfl, rfl, rfl, rfl, rfl, h⟩

theorem revises_cancelled (b : BookingRow) (reason : Option String) (now : ℤ) :
    Revises b (b.cancelled reason now) :=
  ⟨rfl, rfl, rfl, rfl, rfl, rfl, rfl, fun h => absurd h not_occupies_cancelled⟩

theorem revises_expired (b : BookingRow) : Revises b b.expired :=
  ⟨rfl, rfl, rfl, rfl, rfl, rfl, rfl, fun h => absurd h not_occupies_expired⟩

/-- A receipt is only taken on an occupying booking. -/
theorem revises_receipt {b : BookingRow} {next : Status} (h : afterUpload b.status = some next)
    (now : ℤ) : Revises b ((receiptParams b next).row b now b.paid_check) := by
  refine revises_row (fun _ => ?_)
  obtain ⟨hs, -⟩ := afterUpload_eq_some h
  rcases hs with hs | hs
  · exact occupies_of_mem (l := [.pendingPayment]) (by decide) (by simp [hs])
  · exact occupies_of_mem (l := [.awaitingVerification]) (by decide) (by simp [hs])

/-- The status after settling: confirmed from a waiting status once the deposit is covered, or as
it was. -/
theorem settleParams_status (b : BookingRow) (amount : Int64) :
    (settleParams b amount).status =
      if b.paidTotal + amount ≥ b.depositDue ∧
          (b.status = .pendingPayment ∨ b.status = .awaitingVerification)
      then .confirmed else b.status :=
  afterVerified_status _ _

@[simp] theorem settleParams_paidTotal (b : BookingRow) (amount : Int64) :
    (settleParams b amount).paidTotal = b.paidTotal + amount :=
  afterVerified_paidTotal _ _

theorem revises_settle (b : BookingRow) (amount : Int64) (now : ℤ)
    (paid : 0 ≤ (settleParams b amount).paidTotal) :
    Revises b ((settleParams b amount).row b now paid) := by
  refine revises_row (fun h => ?_)
  rw [settleParams_status] at h
  split_ifs at h with hc
  · rcases hc.2 with hs | hs
    · exact occupies_of_mem (l := [.pendingPayment]) (by decide) (by simp [hs])
    · exact occupies_of_mem (l := [.awaitingVerification]) (by decide) (by simp [hs])
  · exact h

theorem revises_reject (b : BookingRow) (others : ℕ) (hold : Option ℤ) (reason : String) (now : ℤ) :
    Revises b ((rejectParams b (rejection b others).1 hold reason).row b now b.paid_check) := by
  refine revises_row (fun h => ?_)
  simp only [rejectParams] at h
  rcases rejection_cases b others with ⟨-, he⟩ | ⟨-, -, hs, -⟩ | ⟨-, -, he⟩
  · rw [he] at h
    exact absurd h not_occupies_cancelled
  · exact occupies_of_mem (l := [.awaitingVerification]) (by decide) (by simp [hs])
  · rw [he] at h
    exact h

theorem Revises.refl (b : BookingRow) : Revises b b :=
  ⟨rfl, rfl, rfl, rfl, rfl, rfl, rfl, fun h => h⟩

theorem Revises.trans {b₁ b₂ b₃ : BookingRow} (h : Revises b₁ b₂) (h' : Revises b₂ b₃) :
    Revises b₁ b₃ :=
  ⟨h'.id.trans h.id, h'.ref.trans h.ref, h'.unitId.trans h.unitId, h'.checkIn.trans h.checkIn,
    h'.checkOut.trans h.checkOut, h'.source.trans h.source, h'.depositDue.trans h.depositDue,
    fun ho => h.occupies (h'.occupies ho)⟩

/-- After one booking is revised, every booking is one from before or that one. -/
theorem mem_setBooking {db : Db} {b b' x : BookingRow} (hb : b ∈ db.bookings) (hid : b'.id = b.id) :
    x ∈ (db.setBooking b').bookings ↔ (x ∈ db.bookings ∧ x.id ≠ b.id) ∨ x = b' := by
  show x ∈ db.bookings.set b' ↔ _
  rw [Table.mem_set_of_mem hb hid.symm, hid]

theorem self_mem_setBooking {db : Db} {b : BookingRow} (b' : BookingRow) (hb : b ∈ db.bookings)
    (hid : b'.id = b.id) : b' ∈ (db.setBooking b').bookings :=
  (mem_setBooking hb hid).mpr (Or.inr rfl)

theorem revises_of_mem_setBooking {db : Db} {b b' x : BookingRow} (hb : b ∈ db.bookings)
    (hr : Revises b b') (hx : x ∈ (db.setBooking b').bookings) :
    ∃ y ∈ db.bookings, Revises y x := by
  rcases (mem_setBooking hb hr.id).mp hx with ⟨hx, -⟩ | rfl
  · exact ⟨x, hx, Revises.refl x⟩
  · exact ⟨b, hb, hr⟩

/-! ### What an operation does to the nights -/

/-- A new booking, a new block, or neither: then bookings are at most revised and blocks at most
deleted. -/
inductive NightsChange (r : Req) (L : List Lock) (db db' : Db) : Prop where
  | books (u : UnitRow) (b : BookingRow) (hr : r.Booking) (h : Books r L db u b)
      (bookings : db'.bookings = db.bookings.insert b) (blocks : db'.blocks = db.blocks)
  | closes (k : BlockRow) (hr : ¬ r.Booking) (h : Closes L db k)
      (bookings : db'.bookings = db.bookings) (blocks : db'.blocks = db.blocks.insert k)
  | revises (hr : ¬ r.Booking) (bookings : ∀ b' ∈ db'.bookings, ∃ b ∈ db.bookings, Revises b b')
      (blocks : ∀ k ∈ db'.blocks, k ∈ db.blocks)

/-- **Every operation is one of the three.** -/
theorem Op.nights {r : Req} {L : List Lock} {db db' : Db} (h : Op r L db db') :
    NightsChange r L db db' := by
  have same : ∀ b' ∈ db.bookings, ∃ b ∈ db.bookings, Revises b b' :=
    fun b hb => ⟨b, hb, Revises.refl b⟩
  have all : ∀ k ∈ db.blocks, k ∈ db.blocks := fun _ hk => hk
  cases h with
  | read h =>
    refine .revises (fun hr => ?_) same all
    cases r <;> first | exact h | exact hr
  | book u b customers hr h => exact .books u b hr h rfl rfl
  | block k h => exact .closes k id h rfl rfl
  | unblock h => exact .revises id same (fun k hk => (Table.mem_erase.mp hk).1)
  | cancel b reason now hb hL hs =>
    exact .revises id (fun _ => revises_of_mem_setBooking hb (revises_cancelled b reason now)) all
  | expire bs now h =>
    refine .revises id (fun b' hb' => ?_) all
    rcases Table.mem_setAll hb' with ⟨hb, -⟩ | hb'
    · exact same b' hb
    · obtain ⟨b, hb, rfl⟩ := List.mem_map.mp hb'
      exact ⟨b, (h b hb).1, revises_expired b⟩
  | upload b p next now h hnext hp =>
    exact .revises id (fun _ => revises_of_mem_setBooking h.stored (revises_receipt hnext now)) all
  | verify b p now h ha hpos paid =>
    exact .revises id (fun _ => revises_of_mem_setBooking h.stored (revises_settle b _ now paid)) all
  | reject b p reason others hold now h hothers hhold =>
    exact .revises id
      (fun _ => revises_of_mem_setBooking h.stored (revises_reject b others hold reason now)) all
  | record b p now h hs hpos hp paid =>
    exact .revises id (fun _ => revises_of_mem_setBooking h.stored (revises_settle b _ now paid)) all

/-- No operation changes a unit. -/
theorem Op.units {r : Req} {L : List Lock} {db db' : Db} (h : Op r L db db') :
    db'.units = db.units := by
  cases h <;> rfl

theorem stay?_of_not_booking {r : Req} (db : Db) (h : ¬ r.Booking) : r.stay? db = none := by
  cases r <;> first | rfl | exact absurd trivial h

theorem mem_of_stay? {r : Req} {db : Db} {stay : AskedStay} (h : r.stay? db = some stay) :
    stay.unit ∈ db.units := by
  cases r with
  | createBooking guestId req =>
    simp only [Req.stay?, Option.bind_eq_bind, Option.bind_eq_some_iff] at h
    obtain ⟨range, -, v, hv, he⟩ := h
    cases he
    exact (Queries.getPricingUnit_some hv).1
  | adminCreateBooking req =>
    simp only [Req.stay?, Option.bind_eq_bind, Option.bind_eq_some_iff] at h
    obtain ⟨id, -, range, -, v, hv, he⟩ := h
    cases he
    exact (Queries.getPricingUnit_some hv).1
  | _ => cases h

/-! ### What an operation does to one booking -/

/-- What may become of the booking `b` while `r` is served. -/
inductive Fate (r : Req) (L : List Lock) (db : Db) (b : BookingRow) : BookingRow → Prop where
  | kept : Fate r L db b b
  | cancelled {text} (reason : Option String) (now : ℤ) (hr : r = .adminCancelBooking (some b.id) text)
      (hs : b.status ∈ cancellable) : Fate r L db b (b.cancelled reason now)
  | expired (now : ℤ) (hr : r = .expireHolds) (h : HoldOver now b) : Fate r L db b b.expired
  | received {req next} (now : ℤ) (hr : r = .uploadPayment req)
      (hnext : afterUpload b.status = some next) :
      Fate r L db b ((receiptParams b next).row b now b.paid_check)
  | verified {amount notes} (p : PaymentRow) (now : ℤ)
      (hr : r = .adminVerifyPayment (some p.id) amount notes) (h : Checks L db b p)
      (paid : 0 ≤ (settleParams b amount).paidTotal) :
      Fate r L db b ((settleParams b amount).row b now paid)
  | rejected {typed} (p : PaymentRow) (reason : String) (others : ℕ) (hold : Option ℤ) (now : ℤ)
      (hr : r = .adminRejectPayment (some p.id) typed) (h : Checks L db b p)
      (hothers : others = 0 ↔ LastWaiting db b p) :
      Fate r L db b ((rejectParams b (rejection b others).1 hold reason).row b now b.paid_check)
  | recorded {req : RecordRequest} (now : ℤ) (hr : r = .adminRecordPayment (some b.id) req)
      (hs : b.status ∈ recordable) (hpos : 0 < req.amount)
      (paid : 0 ≤ (settleParams b req.amount).paidTotal) :
      Fate r L db b ((settleParams b req.amount).row b now paid)

theorem Fate.id_eq {r : Req} {L : List Lock} {db : Db} {b b' : BookingRow} (h : Fate r L db b b') :
    b'.id = b.id := by
  cases h <;> rfl

theorem fate_setBooking {r : Req} {L : List Lock} {db d : Db} {b b' x : BookingRow}
    (hb : b ∈ d.bookings) (hdb : d.bookings = db.bookings) (h : Fate r L db b b')
    (hx : x ∈ (d.setBooking b').bookings) : ∃ y ∈ db.bookings, Fate r L db y x := by
  rcases (mem_setBooking hb h.id_eq).mp hx with ⟨hx, -⟩ | rfl
  · exact ⟨x, hdb ▸ hx, .kept⟩
  · exact ⟨b, hdb ▸ hb, h⟩

/-- **Every booking after an operation is new, or one from before with its fate.** -/
theorem Op.origin {r : Req} {L : List Lock} {db db' : Db} (h : Op r L db db') {b' : BookingRow}
    (hb' : b' ∈ db'.bookings) :
    (∃ u, Books r L db u b') ∨ ∃ b ∈ db.bookings, Fate r L db b b' := by
  cases h with
  | book u b customers hr h =>
    rcases (Table.mem_insert h.idFree).mp hb' with hb' | rfl
    · exact Or.inr ⟨b', hb', .kept⟩
    · exact Or.inl ⟨u, h⟩
  | cancel b reason now hb hL hs =>
    exact Or.inr (fate_setBooking hb rfl (.cancelled reason now rfl hs) hb')
  | expire bs now h =>
    rcases Table.mem_setAll hb' with ⟨hb, -⟩ | hb
    · exact Or.inr ⟨b', hb, .kept⟩
    · obtain ⟨b, hbs, rfl⟩ := List.mem_map.mp hb
      exact Or.inr ⟨b, (h b hbs).1, .expired now rfl (h b hbs).2.2⟩
  | upload b p next now h hnext hp =>
    exact Or.inr (fate_setBooking (d := db.addPayment p) h.stored rfl (.received now rfl hnext) hb')
  | verify b p now h ha hpos paid =>
    exact Or.inr (fate_setBooking (d := db.setPayment _) h.stored rfl
      (.verified p now rfl h paid) hb')
  | reject b p reason others hold now h hothers hhold =>
    exact Or.inr (fate_setBooking (d := db.setPayment _) h.stored rfl
      (.rejected p reason others hold now rfl h hothers) hb')
  | record b p now h hs hpos hp paid =>
    exact Or.inr (fate_setBooking (d := db.addPayment p) h.stored rfl
      (.recorded now rfl hs hpos paid) hb')
  | _ => exact Or.inr ⟨b', hb', .kept⟩

/-- No operation removes a booking. -/
theorem Op.keeps {r : Req} {L : List Lock} {db db' : Db} (h : Op r L db db') {b : BookingRow}
    (hb : b ∈ db.bookings) : ∃ b' ∈ db'.bookings, b'.id = b.id := by
  cases h with
  | book u x customers hr h => exact ⟨b, (Table.mem_insert h.idFree).mpr (Or.inl hb), rfl⟩
  | cancel x reason now hx hL hs => exact Table.exists_key_set _ hb
  | expire bs now h => exact Table.exists_key_setAll hb
  | upload x p next now h hnext hp => exact Table.exists_key_set _ hb
  | verify x p now h ha hpos paid => exact Table.exists_key_set _ hb
  | reject x p reason others hold now h hothers hhold =>
    exact Table.exists_key_set _ hb
  | record x p now h hs hpos hp paid => exact Table.exists_key_set _ hb
  | _ => exact ⟨b, hb, rfl⟩

/-- **Every booking from before has its fate.** -/
theorem Op.fate {r : Req} {L : List Lock} {db db' : Db} (h : Op r L db db') {b b' : BookingRow}
    (hb : b ∈ db.bookings) (hb' : b' ∈ db'.bookings) (hid : b'.id = b.id) : Fate r L db b b' := by
  rcases h.origin hb' with ⟨u, hnew⟩ | ⟨x, hx, hf⟩
  · exact absurd hid.symm (Table.find?_eq_none_iff.mp hnew.idFree b hb)
  · rw [← Table.eq_of_key_eq hx hb (hf.id_eq.symm.trans hid)]
    exact hf

/-- What `ExpireHolds` moves to expired was waiting for payment. -/
theorem Op.expire_moves {L : List Lock} {db db' : Db} (h : Op .expireHolds L db db')
    {b b' : BookingRow} (hb : b ∈ db.bookings) (hb' : b' ∈ db'.bookings) (hid : b'.id = b.id)
    (hne : b.status ≠ .expired) (hs : b'.status = .expired) : ∃ now, HoldOver now b := by
  cases h.fate hb hb' hid with
  | kept => exact absurd hs hne
  | cancelled reason now hr hst => cases hr
  | expired now hr hdue => exact ⟨now, hdue⟩
  | received now hr => cases hr
  | verified p now hr => cases hr
  | rejected p reason others hold now hr => cases hr
  | recorded now hr => cases hr

/-! ### One request at a time -/

section Inversion

variable {L : List Lock} {db db' : Db}

/-- A verification changes the booking it is for. -/
theorem Op.verify_row {param : Option ℕ} {amount : Int64} {notes : Option String}
    (h : Op (.adminVerifyPayment param amount notes) L db db') {p : PaymentRow} {b : BookingRow}
    (hp : p ∈ db.payments) (hid : param = some p.id) (hb : b ∈ db.bookings)
    (hbp : b.id = p.bookingId) :
    0 < amount ∧ ∃ now, ∃ paid : 0 ≤ (settleParams b amount).paidTotal,
      (settleParams b amount).row b now paid ∈ db'.bookings := by
  cases h with
  | read h => exact h.elim
  | book u x customers hr h => exact hr.elim
  | verify c q now h ha hpos paid =>
    have hpq : p = q := Table.eq_of_key_eq hp h.payment (Option.some.inj hid).symm
    subst hpq
    have hbc : b = c := Table.eq_of_key_eq hb h.stored (hbp.trans h.bookingId)
    subst hbc
    exact ⟨hpos, now, paid, self_mem_setBooking _ (show b ∈ (db.setPayment _).bookings from hb) rfl⟩

/-- A rejection changes the booking it is for. -/
theorem Op.reject_row {param : Option ℕ} {typed : String}
    (h : Op (.adminRejectPayment param typed) L db db') {p : PaymentRow} {b : BookingRow}
    (hp : p ∈ db.payments) (hid : param = some p.id) (hb : b ∈ db.bookings)
    (hbp : b.id = p.bookingId) :
    ∃ (reason : String) (others : ℕ) (hold : Option ℤ) (now : ℤ), (others = 0 ↔ LastWaiting db b p) ∧
      (rejectParams b (rejection b others).1 hold reason).row b now b.paid_check ∈ db'.bookings := by
  cases h with
  | read h => exact h.elim
  | book u x customers hr h => exact hr.elim
  | reject c q reason others hold now h hothers hhold =>
    have hpq : p = q := Table.eq_of_key_eq hp h.payment (Option.some.inj hid).symm
    subst hpq
    have hbc : b = c := Table.eq_of_key_eq hb h.stored (hbp.trans h.bookingId)
    subst hbc
    exact ⟨reason, others, hold, now, hothers,
      self_mem_setBooking _ (show b ∈ (db.setPayment _).bookings from hb) rfl⟩

/-- A recorded payment changes the booking it is for. -/
theorem Op.record_row {param : Option ℕ} {req : RecordRequest}
    (h : Op (.adminRecordPayment param req) L db db') {b : BookingRow} (hb : b ∈ db.bookings)
    (hid : param = some b.id) :
    0 < req.amount ∧ ∃ now, ∃ paid : 0 ≤ (settleParams b req.amount).paidTotal,
      (settleParams b req.amount).row b now paid ∈ db'.bookings := by
  cases h with
  | read h => exact h.elim
  | book u x customers hr h => exact hr.elim
  | record c q now h hs hpos hp paid =>
    have hbc : b = c := Table.eq_of_key_eq hb h.stored (Option.some.inj hid).symm
    subst hbc
    exact ⟨hpos, now, paid, self_mem_setBooking _ (show b ∈ (db.addPayment q).bookings from hb) rfl⟩

end Inversion

/-! ### What others may do -/

/-- What commits of other transactions may do while the locks `L` are held. -/
structure Rely (L : List Lock) (db db' : Db) : Prop where
  units : db'.units = db.units
  booking : ∀ id, .booking id ∈ L → db'.bookings.find? id = db.bookings.find? id
  receipts : ∀ id, .booking id ∈ L → ∀ p, p.bookingId = id → (p ∈ db'.payments ↔ p ∈ db.payments)
  payment : ∀ id, .payment id ∈ L → db'.payments.find? id = db.payments.find? id
  block : ∀ id, .block id ∈ L → db'.blocks.find? id = db.blocks.find? id
  ref : ∀ s, .ref s ∈ L → (∀ b ∈ db.bookings, b.ref ≠ s) → ∀ b ∈ db'.bookings, b.ref ≠ s
  stays : ∀ u, .unit u ∈ L → ∀ b' ∈ db'.bookings, b'.unitId = u → b'.Occupies →
    ∃ b ∈ db.bookings, Revises b b'
  blocks : ∀ u, .unit u ∈ L → ∀ k ∈ db'.blocks, k.unitId = u → k ∈ db.blocks

namespace Rely

variable {L : List Lock} {db db' db'' : Db}

theorem refl (L : List Lock) (db : Db) : Rely L db db :=
  ⟨rfl, fun _ _ => rfl, fun _ _ _ _ => Iff.rfl, fun _ _ => rfl, fun _ _ => rfl, fun _ _ h => h,
    fun _ _ b hb _ _ => ⟨b, hb, Revises.refl b⟩, fun _ _ _ hk _ => hk⟩

theorem trans (h : Rely L db db') (h' : Rely L db' db'') : Rely L db db'' where
  units := h'.units.trans h.units
  booking id hl := (h'.booking id hl).trans (h.booking id hl)
  receipts id hl p hp := (h'.receipts id hl p hp).trans (h.receipts id hl p hp)
  payment id hl := (h'.payment id hl).trans (h.payment id hl)
  block id hl := (h'.block id hl).trans (h.block id hl)
  ref s hl hs := h'.ref s hl (h.ref s hl hs)
  stays u hl b'' hb hu ho := by
    obtain ⟨b', hb', hr'⟩ := h'.stays u hl b'' hb hu ho
    obtain ⟨b, hb, hr⟩ := h.stays u hl b' hb' (hr'.unitId.symm.trans hu) (hr'.occupies ho)
    exact ⟨b, hb, hr.trans hr'⟩
  blocks u hl k hk hu := h.blocks u hl k (h'.blocks u hl k hk hu) hu

/-- Holding fewer locks is relying on less. -/
theorem mono {L' : List Lock} (h : Rely L db db') (hL : L' ⊆ L) : Rely L' db db' where
  units := h.units
  booking id hl := h.booking id (hL hl)
  receipts id hl := h.receipts id (hL hl)
  payment id hl := h.payment id (hL hl)
  block id hl := h.block id (hL hl)
  ref s hl := h.ref s (hL hl)
  stays u hl := h.stays u (hL hl)
  blocks u hl := h.blocks u (hL hl)

/-- Others may revise bookings whose lock is not held. -/
theorem setAll {bs : List BookingRow}
    (h : ∀ b' ∈ bs, ∃ b ∈ db.bookings, Revises b b' ∧ .booking b.id ∉ L) :
    Rely L db { db with bookings := db.bookings.setAll bs } where
  units := rfl
  booking id hl := by
    refine Table.find?_setAll_ne (fun b' hb' he => ?_)
    obtain ⟨b, -, hr, hn⟩ := h b' hb'
    exact hn (by rw [← hr.id, he]; exact hl)
  receipts _ _ _ _ := Iff.rfl
  payment _ _ := rfl
  block _ _ := rfl
  ref s hl hs b' hb' := by
    rcases Table.mem_setAll hb' with ⟨hb, -⟩ | hb'
    · exact hs b' hb
    · obtain ⟨b, hb, hr, -⟩ := h b' hb'
      rw [hr.ref]
      exact hs b hb
  stays u hl b' hb' _ _ := by
    rcases Table.mem_setAll hb' with ⟨hb, -⟩ | hb'
    · exact ⟨b', hb, Revises.refl b'⟩
    · obtain ⟨b, hb, hr, -⟩ := h b' hb'
      exact ⟨b, hb, hr⟩
  blocks _ _ _ hk _ := hk

theorem setBooking {b b' : BookingRow} (hb : b ∈ db.bookings) (hr : Revises b b')
    (hn : .booking b.id ∉ L) : Rely L db (db.setBooking b') := by
  show Rely L db { db with bookings := db.bookings.setAll [b'] }
  refine setAll (fun x hx => ?_)
  rw [List.mem_singleton.mp hx]
  exact ⟨b, hb, hr, hn⟩

/-- Others may check a payment when neither it nor its booking is locked. -/
theorem setPayment {p : PaymentRow} (hp : p ∈ db.payments) (p' : PaymentRow) (hid : p'.id = p.id)
    (hbk : p'.bookingId = p.bookingId) (hn : .payment p.id ∉ L) (hb : .booking p.bookingId ∉ L) :
    Rely L db (db.setPayment p') where
  units := rfl
  booking _ _ := rfl
  receipts id hl q hq := by
    show q ∈ db.payments.set p' ↔ _
    rw [Table.mem_set_of_mem hp hid.symm]
    constructor
    · rintro (⟨hm, -⟩ | rfl)
      · exact hm
      · exact absurd (by rw [← hbk, hq]; exact hl) hb
    · intro hm
      refine Or.inl ⟨hm, fun he => hb ?_⟩
      rw [Table.eq_of_key_eq hp hm (hid.symm.trans he.symm), hq]
      exact hl
  payment id hl := Table.find?_set_ne (fun he => hn (by rw [← hid, he]; exact hl))
  block _ _ := rfl
  ref _ _ hs := hs
  stays _ _ b hb _ _ := ⟨b, hb, Revises.refl b⟩
  blocks _ _ _ hk _ := hk

/-- Others may add a payment to a booking that is not locked. -/
theorem addPayment {p : PaymentRow} (hf : db.payments.find? p.id = none) (hn : .payment p.id ∉ L)
    (hb : .booking p.bookingId ∉ L) : Rely L db (db.addPayment p) where
  units := rfl
  booking _ _ := rfl
  receipts id hl q hq := by
    show q ∈ db.payments.insert p ↔ _
    rw [Table.mem_insert hf]
    constructor
    · rintro (hm | rfl)
      · exact hm
      · exact absurd (by rw [hq]; exact hl) hb
    · exact Or.inl
  payment id hl := by
    show (db.payments.insert p).find? id = _
    rw [Table.find?_insert hf, if_neg]
    intro he
    exact hn (by rw [he]; exact hl)
  block _ _ := rfl
  ref _ _ hs := hs
  stays _ _ b hb _ _ := ⟨b, hb, Revises.refl b⟩
  blocks _ _ _ hk _ := hk

/-- Others may book when the unit, the new id and the new reference are not locked. -/
theorem addBooking {b : BookingRow} {customers : Table ℕ CustomerRow CustomerRow.id}
    (hf : db.bookings.find? b.id = none)
    (hn : .booking b.id ∉ L) (hu : .unit b.unitId ∉ L) (hr : .ref b.ref ∉ L) :
    Rely L db { db with bookings := db.bookings.insert b, customers := customers } where
  units := rfl
  booking id hl := by
    show (db.bookings.insert b).find? id = _
    rw [Table.find?_insert hf, if_neg]
    intro he
    exact hn (by rw [he]; exact hl)
  receipts _ _ _ _ := Iff.rfl
  payment _ _ := rfl
  block _ _ := rfl
  ref s hl hs x hx := by
    rcases (Table.mem_insert hf).mp hx with hx | rfl
    · exact hs x hx
    · intro he
      exact hr (by rw [he]; exact hl)
  stays u hl x hx hxu _ := by
    rcases (Table.mem_insert hf).mp hx with hx | rfl
    · exact ⟨x, hx, Revises.refl x⟩
    · exact absurd (by rw [hxu]; exact hl) hu
  blocks _ _ _ hk _ := hk

/-- Others may block nights of a unit that is not locked. -/
theorem addBlock {k : BlockRow} (hf : db.blocks.find? k.id = none) (hn : .block k.id ∉ L)
    (hu : .unit k.unitId ∉ L) : Rely L db { db with blocks := db.blocks.insert k } where
  units := rfl
  booking _ _ := rfl
  receipts _ _ _ _ := Iff.rfl
  payment _ _ := rfl
  block id hl := by
    show (db.blocks.insert k).find? id = _
    rw [Table.find?_insert hf, if_neg]
    intro he
    exact hn (by rw [he]; exact hl)
  ref _ _ hs := hs
  stays _ _ b hb _ _ := ⟨b, hb, Revises.refl b⟩
  blocks u hl x hx hxu := by
    rcases (Table.mem_insert hf).mp hx with hx | rfl
    · exact hx
    · exact absurd (by rw [hxu]; exact hl) hu

/-- Others may delete a block that is not locked. -/
theorem eraseBlock {id : ℕ} (hn : .block id ∉ L) :
    Rely L db { db with blocks := db.blocks.erase id } where
  units := rfl
  booking _ _ := rfl
  receipts _ _ _ _ := Iff.rfl
  payment _ _ := rfl
  block i hl := Table.find?_erase_ne (fun he => hn (by rw [he]; exact hl))
  ref _ _ hs := hs
  stays _ _ b hb _ _ := ⟨b, hb, Revises.refl b⟩
  blocks _ _ _ hk _ := (Table.mem_erase.mp hk).1

end Rely

/-- **Operations keep to what others rely on.** -/
theorem Op.rely {r : Req} {L L' : List Lock} {db db' : Db} (h : Op r L db db')
    (hc : postgres.Compatible L L') : Rely L' db db' := by
  have hn : ∀ l, l.conflict l = true → l ∈ L → l ∉ L' :=
    fun l hl hm => not_mem_of_compatible hc hl hm
  cases h with
  | read h => exact Rely.refl L' db
  | book u b customers hr h =>
    exact Rely.addBooking h.idFree (hn _ (by simp [Lock.conflict]) h.idLock)
      (hn _ (by simp [Lock.conflict]) h.unitLock) (hn _ (by simp [Lock.conflict]) h.refLock)
  | block k h =>
    exact Rely.addBlock h.idFree (hn _ (by simp [Lock.conflict]) h.idLock)
      (hn _ (by simp [Lock.conflict]) h.unitLock)
  | unblock h => exact Rely.eraseBlock (hn _ (by simp [Lock.conflict]) h)
  | cancel b reason now hb hL hs =>
    exact Rely.setBooking hb (revises_cancelled b reason now) (hn _ (by simp [Lock.conflict]) hL)
  | expire bs now h =>
    refine Rely.setAll (fun b' hb' => ?_)
    obtain ⟨b, hb, rfl⟩ := List.mem_map.mp hb'
    obtain ⟨hm, hL, -⟩ := h b hb
    exact ⟨b, hm, revises_expired b, hn _ (by simp [Lock.conflict]) hL⟩
  | upload b p next now h hnext hp =>
    have hL := hn _ (by simp [Lock.conflict]) h.lock
    refine (Rely.addPayment h.idFree (hn _ (by simp [Lock.conflict]) h.idLock) ?_).trans
      (Rely.setBooking h.stored (revises_receipt hnext now) hL)
    rw [h.bookingId]
    exact hL
  | verify b p now h ha hpos paid =>
    have hL := hn _ (by simp [Lock.conflict]) h.lock
    refine (Rely.setPayment h.payment (p.verified _ _ _ ha) rfl rfl
      (hn _ (by simp [Lock.conflict]) h.paymentLock) ?_).trans
      (Rely.setBooking h.stored (revises_settle b _ now paid) hL)
    rw [h.bookingId]
    exact hL
  | reject b p reason others hold now h hothers hhold =>
    have hL := hn _ (by simp [Lock.conflict]) h.lock
    refine (Rely.setPayment h.payment (p.rejected _) rfl rfl
      (hn _ (by simp [Lock.conflict]) h.paymentLock) ?_).trans
      (Rely.setBooking h.stored (revises_reject b others hold reason now) hL)
    rw [h.bookingId]
    exact hL
  | record b p now h hs hpos hp paid =>
    have hL := hn _ (by simp [Lock.conflict]) h.lock
    refine (Rely.addPayment h.idFree (hn _ (by simp [Lock.conflict]) h.idLock) ?_).trans
      (Rely.setBooking h.stored (revises_settle b _ now paid) hL)
    rw [h.bookingId]
    exact hL

/-- The operations and their interference. -/
def guarantees : RelyGuarantee postgres Req where
  Op := Op
  Rely := Rely
  refl := Rely.refl
  trans := Rely.trans
  guarantee := Op.rely

end Sahel

import Sahel.Library.ReadCommitted
import Sahel.Store.Queries

/-!
# Statements, locks and the database

The statements handlers run, what each one answers, and which locks it holds to the end of its
transaction:

* `FOR UPDATE`, `UPDATE` and `DELETE` lock their row;
* an `INSERT` locks its id and the unique values it enters, and an insert or update that enters an
  exclusion constraint locks its nights: an overlapping row waits until the transaction ends;
* a foreign-key check takes a share lock on the referenced row, which every handler here already
  holds more strongly (the unit of a new booking or block, the booking of a new payment) or which
  nobody ever locks (a customer), so it is not listed.

Clocks, random bytes, generated ids, the object store's answer and the order a scan meets rows
in are the oracle's.
-/

set_option autoImplicit false

namespace Sahel

open HalfOpen ReadCommitted

/-- What the database does not determine. -/
structure Oracle where
  clock : ℤ
  bytes : Fin 5 → UInt8
  uuid : ℕ
  stored : Bool
  scan : List ℕ → List ℕ
  scan_perm : ∀ ids, (scan ids).Perm ids

/-- Rows in the order a scan meets them. -/
def Oracle.met {α : Type} (o : Oracle) (id : α → ℕ) (rows : List α) : List α :=
  (o.scan (rows.map id)).filterMap (fun i => rows.find? (fun r => decide (id r = i)))

inductive Stmt where
  | now
  | randomBytes
  | newUUID
  | putPrivate (key mime : String)
  | getPricingUnit (slug : Option String) (id : Option ℕ) (onlyActive : Bool)
  | lockUnit (id : ℕ)
  | getCustomer (id : ℕ)
  | ensureCustomer (phone name : String)
  | getBookingView (ref : Option String) (id : Option ℕ)
  | countOverlappingStays (unitId : ℕ) (bufferDays checkIn checkOut : ℤ)
  | listOccupiedStays (unitId : ℕ) (bufferDays fromDate toDate : ℤ)
  | countBookingsInRange (unitId : ℕ) (startDate endDate : ℤ)
  | timelineUnits
  | timelineBookings (fromDate toDate : ℤ)
  | timelineBlocks (fromDate toDate : ℤ)
  | reportMonths (cairo : Cairo) (fromDate : ℤ) (months : ℕ)
  | reportUnits (fromDate toDate : ℤ)
  | todayMovements (day : ℤ)
  | todayCounts (day : ℤ)
  | createBooking (arg : CreateBookingParams)
  | cancelBooking (id : ℕ) (reason : Option String)
  | expireHoldsScan
  | expireHold (id : ℕ)
  | lockBooking (id : ℕ)
  | setBookingPayment (arg : SetBookingPaymentParams)
  | createPayment (arg : CreatePaymentParams)
  | lockPayment (id : ℕ)
  | verifyPayment (id : ℕ) (amount : Int64) (notes : Option String)
  | rejectPayment (id : ℕ) (reason : Option String)
  | countPendingPaymentsForBooking (bookingId : ℕ)
  | createBlock (arg : CreateBlockParams)
  | deleteBlock (id : ℕ)

/-- What a statement answers. -/
@[reducible] def Stmt.Val : Stmt → Type
  | .now => ℤ
  | .randomBytes => Fin 5 → UInt8
  | .newUUID => ℕ
  | .putPrivate _ _ => PUnit
  | .getPricingUnit _ _ _ => Option UnitRow
  | .lockUnit _ => Option ℕ
  | .getCustomer _ => Option CustomerRow
  | .ensureCustomer _ _ => EnsureCustomerRow
  | .getBookingView _ _ => Option BookingView
  | .countOverlappingStays _ _ _ _ => ℕ
  | .listOccupiedStays _ _ _ _ => List OccupiedStay
  | .countBookingsInRange _ _ _ => ℕ
  | .timelineUnits => List UnitRow
  | .timelineBookings _ _ => List TimelineBookingsRow
  | .timelineBlocks _ _ => List BlockRow
  | .reportMonths _ _ _ => List ReportMonthsRow
  | .reportUnits _ _ => List ReportUnitsRow
  | .todayMovements _ => List TodayMovementsRow
  | .todayCounts _ => TodayCountsRow
  | .createBooking _ => CreateBookingRow
  | .cancelBooking _ _ => Option ℕ
  | .expireHoldsScan => List ℕ
  | .expireHold _ => Option String
  | .lockBooking _ => Option BookingRow
  | .setBookingPayment _ => PUnit
  | .createPayment _ => PaymentRow
  | .lockPayment _ => Option PaymentRow
  | .verifyPayment _ _ _ => PUnit
  | .rejectPayment _ _ => PUnit
  | .countPendingPaymentsForBooking _ => ℕ
  | .createBlock _ => BlockRow
  | .deleteBlock _ => ℕ

/-- A statement of a transaction started at `now`, on the rows `db` it sees. -/
def Stmt.eval : (s : Stmt) → Oracle → ℤ → Db → Except PgError (s.Val × List Write)
  | .now, o, _, _ => .ok (o.clock, [])
  | .randomBytes, o, _, _ => .ok (o.bytes, [])
  | .newUUID, o, _, _ => .ok (o.uuid, [])
  | .putPrivate _ _, o, _, _ => if o.stored then .ok (⟨⟩, []) else .error .storage
  | .getPricingUnit slug id onlyActive, _, _, db => .ok (Queries.getPricingUnit slug id onlyActive db, [])
  | .lockUnit id, _, _, db => .ok (Queries.lockUnit id db, [])
  | .getCustomer id, _, _, db => .ok (Queries.getCustomer id db, [])
  | .ensureCustomer phone name, o, _, db => Queries.ensureCustomer phone name o.uuid db
  | .getBookingView ref id, _, _, db => .ok (Queries.getBookingView ref id db, [])
  | .countOverlappingStays u k ci co, _, _, db => .ok (Queries.countOverlappingStays u k ci co db, [])
  | .listOccupiedStays u k f t, _, _, db => .ok (Queries.listOccupiedStays u k f t db, [])
  | .countBookingsInRange u a b, _, _, db => .ok (Queries.countBookingsInRange u a b db, [])
  | .timelineUnits, _, _, db => .ok (Queries.timelineUnits db, [])
  | .timelineBookings f t, _, _, db => .ok (Queries.timelineBookings f t db, [])
  | .timelineBlocks f t, _, _, db => .ok (Queries.timelineBlocks f t db, [])
  | .reportMonths cairo f n, _, _, db => (Queries.reportMonths cairo f n db).map (fun rows => (rows, []))
  | .reportUnits f t, _, _, db => (Queries.reportUnits f t db).map (fun rows => (rows, []))
  | .todayMovements day, _, _, db => .ok (Queries.todayMovements day db, [])
  | .todayCounts day, _, t, db => .ok (Queries.todayCounts t day db, [])
  | .createBooking arg, o, _, db => Queries.createBooking arg o.uuid db
  | .cancelBooking id reason, _, t, db => Queries.cancelBooking id reason t db
  | .expireHoldsScan, o, t, db => .ok (o.scan (Queries.expireHoldsScan t db), [])
  | .expireHold id, _, t, db => Queries.expireHold id t db
  | .lockBooking id, _, _, db => .ok (Queries.lockBooking id db, [])
  | .setBookingPayment arg, _, t, db => Queries.setBookingPayment arg t db
  | .createPayment arg, o, _, db => Queries.createPayment arg o.uuid db
  | .lockPayment id, _, _, db => .ok (Queries.lockPayment id db, [])
  | .verifyPayment id amount notes, _, t, db => Queries.verifyPayment id amount notes t db
  | .rejectPayment id reason, _, _, db => Queries.rejectPayment id reason db
  | .countPendingPaymentsForBooking id, _, _, db => .ok (Queries.countPendingPaymentsForBooking id db, [])
  | .createBlock arg, o, _, db => Queries.createBlock arg o.uuid db
  | .deleteBlock id, _, _, db => Queries.deleteBlock id db

/-- A report reads and writes nothing. -/
theorem reads_ok {α : Type} {x : Except PgError α} {v : α} {ws : List Write}
    (h : x.map (fun rows => (rows, [])) = .ok (v, ws)) : x = .ok v ∧ ws = [] := by
  cases x with
  | error e => cases h
  | ok a =>
    cases h
    exact ⟨rfl, rfl⟩

/-! ### Locks -/

inductive Lock where
  | unit (id : ℕ)
  | booking (id : ℕ)
  | payment (id : ℕ)
  | block (id : ℕ)
  | customer (id : ℕ)
  | phone (phone : String)
  | ref (ref : String)
  | stay (unitId : ℕ) (checkIn checkOut : ℤ)
  | span (unitId : ℕ) (startDate endDate : ℤ)
  deriving DecidableEq

/-- Nights exclude overlapping nights of the same unit; every other lock excludes itself. -/
def Lock.conflict : Lock → Lock → Bool
  | .stay u a b, .stay u' c d => decide (u = u' ∧ Overlaps a b c d)
  | .span u a b, .span u' c d => decide (u = u' ∧ Overlaps a b c d)
  | l, l' => decide (l = l')

theorem Lock.conflict_comm (l l' : Lock) : l.conflict l' = l'.conflict l := by
  cases l <;> cases l' <;> simp only [Lock.conflict, eq_comm, Overlaps.comm]

/-- The locks of the nights an update leaves a booking on. -/
def stayLocks (arg : SetBookingPaymentParams) (db : Db) : List Lock :=
  match db.bookings.find? arg.id with
  | none => []
  | some b => if arg.status.Occupies then [.stay b.unitId b.checkIn b.checkOut] else []

def Stmt.locks : Stmt → Oracle → ℤ → Db → List Lock
  | .lockUnit id, _, _, _ => [.unit id]
  | .ensureCustomer phone _, o, _, _ => [.phone phone, .customer o.uuid]
  | .createBooking arg, o, _, _ =>
    [.booking o.uuid, .ref arg.ref, .stay arg.unitId arg.checkIn arg.checkOut]
  | .cancelBooking id _, _, _, _ => [.booking id]
  | .expireHold id, _, _, _ => [.booking id]
  | .lockBooking id, _, _, _ => [.booking id]
  | .setBookingPayment arg, _, _, db => .booking arg.id :: stayLocks arg db
  | .createPayment _, o, _, _ => [.payment o.uuid]
  | .lockPayment id, _, _, _ => [.payment id]
  | .verifyPayment id _ _, _, _, _ => [.payment id]
  | .rejectPayment id _, _, _, _ => [.payment id]
  | .createBlock arg, o, _, _ => [.block o.uuid, .span arg.unitId arg.startDate arg.endDate]
  | .deleteBlock id, _, _, _ => [.block id]
  | _, _, _, _ => []

/-- Postgres, as far as the handlers can tell. -/
def postgres : Database Db Write Lock PgError Oracle Stmt Stmt.Val where
  apply := Db.apply
  eval := Stmt.eval
  locks := Stmt.locks
  conflict := Lock.conflict
  conflict_comm := Lock.conflict_comm
  aborted := .inFailedTransaction

/-- A lock held by one transaction is held by no other. -/
theorem not_mem_of_compatible {L L' : List Lock} (h : postgres.Compatible L L') {l : Lock}
    (hl : l.conflict l = true) (hm : l ∈ L) : l ∉ L' := by
  intro hm'
  have hc : l.conflict l = false := h l hm l hm'
  rw [hl] at hc
  cases hc

end Sahel

import Sahel.Library.HalfOpen
import Sahel.Store.Schema
import Sahel.Domain.Calendar
import Mathlib.Data.List.Sort

/-!
# The queries, one definition each

Every SQL statement the booking operations run, under the name sqlc gives it.  A query reads
the rows it sees and answers with a value and the writes it makes, or with the error Postgres
raises; a `:one` query without a row answers `none`.

* Constraints are checked in Postgres's order: CHECKs by name, unique indexes, the exclusion
  constraint, foreign keys.
* `INSERT` takes its generated id as an argument.
* `ExpireHolds` is two definitions: the scan that finds the rows, and what happens at each of
  them, because an UPDATE waits for a row's lock and then tests its WHERE clause again on the row
  as it has become.

A date range with equal ends is empty and overlaps nothing, as `HalfOpen.Overlaps` has it.
-/

set_option autoImplicit false

namespace Sahel

open KeyedTable HalfOpen

/-! ### Parameters and rows -/

/-- A query's answer: its value and writes, or the error it raises. -/
abbrev Answer (α : Type) : Type := Except PgError (α × List Write)

structure EnsureCustomerRow where
  id : ℕ
  name : String

/-- A booking with the customer its pages and access checks read. -/
structure BookingView where
  booking : BookingRow
  customer : CustomerRow

structure OccupiedStay where
  checkIn : ℤ
  blockedUntil : ℤ

/-- An occupying booking as the timeline lists it. -/
structure TimelineBookingsRow where
  id : ℕ
  ref : String
  unitId : ℕ
  status : Status
  checkIn : ℤ
  checkOut : ℤ
  customerName : String

/-- One month of the report. -/
structure ReportMonthsRow where
  monthStart : ℤ
  monthEnd : ℤ
  nights : ℤ
  revenue : ℤ
  blockedNights : ℤ
  collected : ℤ

/-- One unit of the report. -/
structure ReportUnitsRow where
  id : ℕ
  status : UnitStatus
  nights : ℤ
  revenue : ℤ
  blockedNights : ℤ

/-- An occupying booking that checks in or out on some day. -/
structure TodayMovementsRow where
  id : ℕ
  ref : String
  status : Status
  checkIn : ℤ
  checkOut : ℤ
  nights : ℤ
  guests : Int16
  customerName : String
  customerPhone : String
  unitId : ℕ

structure TodayCountsRow where
  stayingTonight : ℤ
  holdsExpiring : ℤ
  activeUnits : ℤ
  occupiedNights : ℤ

structure CreateBookingParams where
  ref : String
  unitId : ℕ
  customerId : ℕ
  checkIn : ℤ
  checkOut : ℤ
  guests : Int16
  status : Status
  nightlyPrice : Int64
  total : Int64
  depositDue : Int64
  source : String
  holdExpiresAt : Option ℤ

structure CreateBookingRow where
  id : ℕ
  ref : String

/-- The row an insert would store, once the CHECK constraints of `bookings` hold. -/
def CreateBookingParams.row (arg : CreateBookingParams) (id : ℕ) : Except PgError BookingRow :=
  let refuse (constraint : String) := Except.error (.checkViolation "bookings" constraint)
  if stay : arg.checkIn < arg.checkOut then
    if deposit : 0 ≤ arg.depositDue then
      if guests : 1 ≤ arg.guests then
        if price : 0 < arg.nightlyPrice then
          if ref : refOk arg.ref then
            if total : 0 < arg.total then
              .ok {
                id := id, ref := arg.ref, unitId := arg.unitId, customerId := arg.customerId
                checkIn := arg.checkIn, checkOut := arg.checkOut, guests := arg.guests
                status := arg.status, nightlyPrice := arg.nightlyPrice, total := arg.total
                depositDue := arg.depositDue, source := arg.source
                cancelledAt := none, cancelReason := none, holdExpiresAt := arg.holdExpiresAt
                paidTotal := 0, paymentRejectionCount := 0
                stay_check := stay, deposit_check := deposit, guests_check := guests
                price_check := price, paid_check := Int64.le_refl 0, ref_check := ref
                total_check := total }
            else refuse "bookings_total_check"
          else refuse "bookings_ref_check"
        else refuse "bookings_nightly_price_check"
      else refuse "bookings_guests_check"
    else refuse "bookings_deposit_due_check"
  else refuse "bookings_check"

/-- Another occupying booking of the unit on nights of `b`: what `bookings_no_overlap` excludes. -/
def Clashes (db : Db) (b : BookingRow) : Prop :=
  b.Occupies ∧ ∃ x ∈ db.bookings.rows, x.id ≠ b.id ∧ x.unitId = b.unitId ∧ x.Occupies
    ∧ Overlaps x.checkIn x.checkOut b.checkIn b.checkOut

instance (db : Db) (b : BookingRow) : Decidable (Clashes db b) :=
  inferInstanceAs (Decidable (_ ∧ _))

/-- The statuses `CancelBooking` names. -/
def cancellable : List Status := [.pendingPayment, .awaitingVerification, .confirmed]

/-- The row after a cancellation. -/
def BookingRow.cancelled (b : BookingRow) (reason : Option String) (now : ℤ) : BookingRow :=
  { b with status := .cancelled, cancelledAt := some now, cancelReason := reason }

/-- An unpaid booking past its hold. -/
def HoldOver (now : ℤ) (b : BookingRow) : Prop :=
  b.status = .pendingPayment ∧ ∃ t ∈ b.holdExpiresAt, t < now

instance (now : ℤ) (b : BookingRow) : Decidable (HoldOver now b) :=
  inferInstanceAs (Decidable (_ ∧ _))

/-- The row after its hold ran out. -/
def BookingRow.expired (b : BookingRow) : BookingRow := { b with status := .expired }

structure SetBookingPaymentParams where
  id : ℕ
  status : Status
  paidTotal : Int64
  paymentRejectionCount : Int16
  holdExpiresAt : Option ℤ
  cancelReason : Option String

/-- The row an update to `arg` leaves of `b`. -/
def SetBookingPaymentParams.row (arg : SetBookingPaymentParams) (b : BookingRow) (now : ℤ)
    (paid : 0 ≤ arg.paidTotal) : BookingRow :=
  { b with
    status := arg.status
    paidTotal := arg.paidTotal
    paymentRejectionCount := arg.paymentRejectionCount
    holdExpiresAt := arg.holdExpiresAt
    cancelledAt := if arg.status = .cancelled then some now else b.cancelledAt
    cancelReason := if arg.status = .cancelled then arg.cancelReason else b.cancelReason
    paid_check := paid }

structure CreatePaymentParams where
  bookingId : ℕ
  status : PaymentStatus
  amount : Int64
  senderName : String
  senderNumber : String
  proofKey : Option String
  proofType : Option String
  notes : Option String
  recordedBy : String
  verifiedAt : Option ℤ

/-- The row an insert would store, once the CHECK constraints of `payments` hold. -/
def CreatePaymentParams.row (arg : CreatePaymentParams) (id : ℕ) : Except PgError PaymentRow :=
  if amount : 0 ≤ arg.amount then
    if recordedBy : arg.recordedBy = "guest" ∨ arg.recordedBy = "admin" then
      .ok {
        id := id, bookingId := arg.bookingId, status := arg.status, amount := arg.amount
        senderName := arg.senderName, senderNumber := arg.senderNumber
        proofKey := arg.proofKey, proofType := arg.proofType
        rejectionReason := none, notes := arg.notes
        recordedBy := arg.recordedBy, verifiedAt := arg.verifiedAt
        amount_check := amount, recordedBy_check := recordedBy }
    else .error (.checkViolation "payments" "payments_recorded_by_check")
  else .error (.checkViolation "payments" "payments_amount_check")

/-- The row after a receipt is verified for an amount. -/
def PaymentRow.verified (p : PaymentRow) (amount : Int64) (notes : Option String) (now : ℤ) (h : 0 ≤ amount) :
    PaymentRow :=
  { p with
    status := .verified, amount := amount, verifiedAt := some now, notes := notes.or p.notes
    amount_check := h }

/-- The row after a receipt is rejected. -/
def PaymentRow.rejected (p : PaymentRow) (reason : Option String) : PaymentRow :=
  { p with status := .rejected, rejectionReason := reason }

structure CreateBlockParams where
  unitId : ℕ
  startDate : ℤ
  endDate : ℤ
  note : String

namespace Queries

/-! ### Units, customers and views -/

def getPricingUnit (slug : Option String) (id : Option ℕ) (onlyActive : Bool) (db : Db) :
    Option UnitRow :=
  db.units.rows.find? (fun u => decide ((slug = none ∨ slug = some u.slug)
    ∧ (id = none ∨ id = some u.id) ∧ (¬ onlyActive ∨ u.status = .active)))

/-- `SELECT id … FOR UPDATE`: the row's id. -/
def lockUnit (id : ℕ) (db : Db) : Option ℕ := (db.units.find? id).map UnitRow.id

def getCustomer (id : ℕ) (db : Db) : Option CustomerRow := db.customers.find? id

/-- Finds the account for a phone, or opens one without a password; an existing name is kept. -/
def ensureCustomer (phone name : String) (id : ℕ) (db : Db) : Answer EnsureCustomerRow :=
  if h : phoneOk phone then
    match db.customers.rows.find? (fun c => decide (c.phone = phone)) with
    | some c =>
      let c' := { c with name := if c.name = "" then name else c.name }
      .ok (⟨c'.id, c'.name⟩, [.setCustomer c'])
    | none =>
      if (db.customers.find? id).isSome then .error (.uniqueViolation "customers_pkey")
      else .ok (⟨id, name⟩, [.insertCustomer ⟨id, phone, name, none, h⟩])
  else .error (.checkViolation "customers" "customers_phone_check")

def getBookingView (ref : Option String) (id : Option ℕ) (db : Db) : Option BookingView := do
  let b ← db.bookings.rows.find? (fun b => decide ((ref = none ∨ ref = some b.ref)
    ∧ (id = none ∨ id = some b.id)))
  let _ ← db.units.find? b.unitId
  let c ← db.customers.find? b.customerId
  return ⟨b, c⟩

/-! ### Stays -/

/-- Occupying bookings, each with its turnover days, and blocks that clash with a stay. -/
def countOverlappingStays (unitId : ℕ) (bufferDays checkIn checkOut : ℤ) (db : Db) : ℕ :=
  (db.bookings.rows.filter (fun b => decide (b.unitId = unitId ∧ b.Occupies
    ∧ Overlaps b.checkIn (b.checkOut + bufferDays) checkIn checkOut))).length
  + (db.blocks.rows.filter (fun k => decide (k.unitId = unitId
    ∧ Overlaps k.startDate k.endDate checkIn checkOut))).length

/-- Stays that touch a date range, with the unit's turnover days added, and blocks. -/
def listOccupiedStays (unitId : ℕ) (bufferDays fromDate toDate : ℤ) (db : Db) :
    List OccupiedStay :=
  (db.bookings.rows.filter (fun b => decide (b.unitId = unitId ∧ b.Occupies
    ∧ b.checkIn ≤ toDate ∧ b.checkOut + bufferDays > fromDate))).map
      (fun b => ⟨b.checkIn, b.checkOut + bufferDays⟩)
  ++ (db.blocks.rows.filter (fun k => decide (k.unitId = unitId
    ∧ k.startDate ≤ toDate ∧ k.endDate > fromDate))).map (fun k => ⟨k.startDate, k.endDate⟩)

/-- Occupying bookings on these nights of the unit, without turnover days. -/
def countBookingsInRange (unitId : ℕ) (startDate endDate : ℤ) (db : Db) : ℕ :=
  (db.bookings.rows.filter (fun b => decide (b.unitId = unitId ∧ b.Occupies
    ∧ Overlaps b.checkIn b.checkOut startDate endDate))).length

/-! ### The timeline -/

/-- The units that are not archived. -/
def timelineUnits (db : Db) : List UnitRow :=
  db.units.rows.filter (fun u => decide (u.status ≠ .archived))

/-- Occupying bookings on some nights, joined with their customers, by check-in. -/
def timelineBookings (fromDate toDate : ℤ) (db : Db) : List TimelineBookingsRow :=
  ((db.bookings.rows.filter (fun b => decide (b.Occupies
    ∧ Overlaps b.checkIn b.checkOut fromDate toDate))).filterMap (fun b =>
      (db.customers.find? b.customerId).map (fun c =>
        ⟨b.id, b.ref, b.unitId, b.status, b.checkIn, b.checkOut, c.name⟩))).insertionSort
          (fun x y => x.checkIn ≤ y.checkIn)

/-- Blocks on some nights, by start. -/
def timelineBlocks (fromDate toDate : ℤ) (db : Db) : List BlockRow :=
  (db.blocks.rows.filter (fun k => decide (Overlaps k.startDate k.endDate fromDate toDate))).insertionSort
    (fun x y => x.startDate ≤ y.startDate)

/-! ### Reports -/

/-- `status IN ('confirmed','checked_in','completed')`. -/
def soldStatuses : List Status := [.confirmed, .checkedIn, .completed]

/-- `upper(a * b) - lower(a * b)` of two ranges that overlap. -/
def overlapNights (a b c d : ℤ) : ℤ := min b d - max a c

/-- The sold bookings that touch a date range. -/
def soldIn (fromDate toDate : ℤ) (db : Db) : List BookingRow :=
  db.bookings.rows.filter (fun b => decide (b.status ∈ soldStatuses
    ∧ Overlaps b.checkIn b.checkOut fromDate toDate))

/-- The blocks that touch a date range. -/
def blocksIn (fromDate toDate : ℤ) (db : Db) : List BlockRow :=
  db.blocks.rows.filter (fun k => decide (Overlaps k.startDate k.endDate fromDate toDate))

/-- What a `bigint` holds. -/
def InBigint (n : ℤ) : Prop := -2 ^ 63 ≤ n ∧ n < 2 ^ 63

instance (n : ℤ) : Decidable (InBigint n) := inferInstanceAs (Decidable (_ ∧ _))

/-- The numbers and their sum are in range. -/
def SumFits (xs : List ℤ) : Prop := (∀ x ∈ xs, InBigint x) ∧ InBigint xs.sum

instance (xs : List ℤ) : Decidable (SumFits xs) := inferInstanceAs (Decidable (_ ∧ _))

/-- `COALESCE(SUM(x), 0)::bigint`, each `x` a `bigint` that had to be computed. -/
def sumBigint (xs : List ℤ) : Except PgError ℤ :=
  if SumFits xs then .ok xs.sum else .error .numericOutOfRange

/-- The nights of the sold bookings, cut to a date range. -/
def soldNights (fromDate toDate : ℤ) (bs : List BookingRow) : List ℤ :=
  bs.map (fun b => overlapNights b.checkIn b.checkOut fromDate toDate)

/-- And what they bring. -/
def soldRevenue (fromDate toDate : ℤ) (bs : List BookingRow) : List ℤ :=
  bs.map (fun b => overlapNights b.checkIn b.checkOut fromDate toDate * b.nightlyPrice.toInt)

def blockNights (fromDate toDate : ℤ) (ks : List BlockRow) : List ℤ :=
  ks.map (fun k => overlapNights k.startDate k.endDate fromDate toDate)

/-- The blocks of active units that touch a month. -/
def monthBlocks (monthStart monthEnd : ℤ) (db : Db) : List BlockRow :=
  (blocksIn monthStart monthEnd db).filter (fun k =>
    db.units.rows.any (fun u => decide (u.id = k.unitId ∧ u.status = .active)))

/-- The payments verified on a Cairo day of a month. -/
def monthPayments (cairo : Cairo) (monthStart monthEnd : ℤ) (db : Db) : List PaymentRow :=
  db.payments.rows.filter (fun p => decide (p.status = .verified
    ∧ ∃ t ∈ p.verifiedAt, monthStart ≤ cairo.today t ∧ cairo.today t < monthEnd))

/-- One row of `ReportMonths`. -/
def reportMonth (cairo : Cairo) (monthStart monthEnd : ℤ) (db : Db) :
    Except PgError ReportMonthsRow := do
  let nights ← sumBigint (soldNights monthStart monthEnd (soldIn monthStart monthEnd db))
  let revenue ← sumBigint (soldRevenue monthStart monthEnd (soldIn monthStart monthEnd db))
  let blockedNights ← sumBigint (blockNights monthStart monthEnd (monthBlocks monthStart monthEnd db))
  let collected ← sumBigint
    ((monthPayments cairo monthStart monthEnd db).map (fun p => p.amount.toInt))
  return ⟨monthStart, monthEnd, nights, revenue, blockedNights, collected⟩

/-- One row per month from the first of `fromDate`. -/
def reportMonths (cairo : Cairo) (fromDate : ℤ) (months : ℕ) (db : Db) :
    Except PgError (List ReportMonthsRow) :=
  (List.range months).mapM (fun g =>
    reportMonth cairo (addMonths fromDate g) (addMonths fromDate (g + 1)) db)

def reportUnit (fromDate toDate : ℤ) (db : Db) (u : UnitRow) : Except PgError ReportUnitsRow := do
  let stays := (soldIn fromDate toDate db).filter (fun b => b.unitId = u.id)
  let nights ← sumBigint (soldNights fromDate toDate stays)
  let revenue ← sumBigint (soldRevenue fromDate toDate stays)
  let blockedNights ← sumBigint
    (blockNights fromDate toDate ((blocksIn fromDate toDate db).filter (fun k => k.unitId = u.id)))
  return ⟨u.id, u.status, nights, revenue, blockedNights⟩

/-- Each unit that is not archived, by revenue. -/
def reportUnits (fromDate toDate : ℤ) (db : Db) : Except PgError (List ReportUnitsRow) := do
  let rows ← (timelineUnits db).mapM (reportUnit fromDate toDate db)
  return rows.insertionSort (fun x y => y.revenue ≤ x.revenue)

/-! ### Today -/

/-- Occupying bookings that check in or check out on `day`, by check-in.  The unit's title, which
the source sorts by first, is not among the columns kept here. -/
def todayMovements (day : ℤ) (db : Db) : List TodayMovementsRow :=
  ((db.bookings.rows.filter (fun b => decide (b.Occupies
    ∧ (b.checkIn = day ∨ b.checkOut = day)))).filterMap (fun b => do
      let c ← db.customers.find? b.customerId
      let u ← db.units.find? b.unitId
      return ⟨b.id, b.ref, b.status, b.checkIn, b.checkOut, b.checkOut - b.checkIn, b.guests, c.name,
        c.phone, u.id⟩)).insertionSort (fun x y => x.checkIn ≤ y.checkIn)

/-- The unit is active: what the joins with `u.status = 'active'` keep. -/
def joinsActive (unitId : ℕ) (db : Db) : Bool :=
  db.units.rows.any (fun u => decide (u.id = unitId ∧ u.status = .active))

/-- Stays tonight, holds running out within the hour, and the next seven nights of occupancy on
active units: booked plus blocked nights, each range clipped to the week. -/
def todayCounts (now day : ℤ) (db : Db) : TodayCountsRow where
  stayingTonight := (db.bookings.rows.filter (fun b => decide (b.Occupies
    ∧ b.checkIn ≤ day ∧ b.checkOut > day))).length
  holdsExpiring := (db.bookings.rows.filter (fun b => decide (b.status = .pendingPayment
    ∧ ∃ t ∈ b.holdExpiresAt, t ≤ now + hour))).length
  activeUnits := (db.units.rows.filter (fun u => decide (u.status = .active))).length
  occupiedNights :=
    (((db.bookings.rows.filter (fun b => decide (b.Occupies
      ∧ Overlaps b.checkIn b.checkOut day (day + 7)))).filter (fun b => joinsActive b.unitId db)).map
        (fun b => overlapNights b.checkIn b.checkOut day (day + 7))).sum
    + (((db.blocks.rows.filter (fun k => decide (Overlaps k.startDate k.endDate day (day + 7)))).filter
      (fun k => joinsActive k.unitId db)).map
        (fun k => overlapNights k.startDate k.endDate day (day + 7))).sum

/-! ### Bookings -/

def createBooking (arg : CreateBookingParams) (id : ℕ) (db : Db) : Answer CreateBookingRow :=
  match arg.row id with
  | .error e => .error e
  | .ok b =>
    if (db.bookings.find? id).isSome then .error (.uniqueViolation "bookings_pkey")
    else if ∃ x ∈ db.bookings.rows, x.ref = arg.ref then .error (.uniqueViolation "bookings_ref_key")
    else if Clashes db b then .error (.exclusionViolation "bookings_no_overlap")
    else if db.units.find? arg.unitId |>.isNone then .error (.fkViolation "bookings_unit_id_fkey")
    else if db.customers.find? arg.customerId |>.isNone then
      .error (.fkViolation "bookings_customer_id_fkey")
    else .ok (⟨b.id, b.ref⟩, [.insertBooking b])

def cancelBooking (id : ℕ) (reason : Option String) (now : ℤ) (db : Db) : Answer (Option ℕ) :=
  match db.bookings.find? id with
  | none => .ok (none, [])
  | some b =>
    if b.status ∈ cancellable then
      .ok (some b.id, [.setBooking (b.cancelled reason now)])
    else .ok (none, [])

/-- The rows `ExpireHolds` finds when it starts. -/
def expireHoldsScan (now : ℤ) (db : Db) : List ℕ :=
  (db.bookings.rows.filter (fun b => decide (HoldOver now b))).map BookingRow.id

/-- `ExpireHolds` at one row it found. -/
def expireHold (id : ℕ) (now : ℤ) (db : Db) : Answer (Option String) :=
  match db.bookings.find? id with
  | none => .ok (none, [])
  | some b =>
    if HoldOver now b then .ok (some b.ref, [.setBooking b.expired])
    else .ok (none, [])

/-- `SELECT … FOR UPDATE`. -/
def lockBooking (id : ℕ) (db : Db) : Option BookingRow := db.bookings.find? id

def setBookingPayment (arg : SetBookingPaymentParams) (now : ℤ) (db : Db) : Answer PUnit :=
  match db.bookings.find? arg.id with
  | none => .ok (⟨⟩, [])
  | some b =>
    if paid : 0 ≤ arg.paidTotal then
      if Clashes db (arg.row b now paid) then .error (.exclusionViolation "bookings_no_overlap")
      else .ok (⟨⟩, [.setBooking (arg.row b now paid)])
    else .error (.checkViolation "bookings" "bookings_paid_total_check")

/-! ### Payments -/

def createPayment (arg : CreatePaymentParams) (id : ℕ) (db : Db) : Answer PaymentRow :=
  match arg.row id with
  | .error e => .error e
  | .ok p =>
    if (db.payments.find? id).isSome then .error (.uniqueViolation "payments_pkey")
    else if db.bookings.find? arg.bookingId |>.isNone then
      .error (.fkViolation "payments_booking_id_fkey")
    else .ok (p, [.insertPayment p])

/-- `SELECT * … FOR UPDATE`. -/
def lockPayment (id : ℕ) (db : Db) : Option PaymentRow := db.payments.find? id

def verifyPayment (id : ℕ) (amount : Int64) (notes : Option String) (now : ℤ) (db : Db) :
    Answer PUnit :=
  match db.payments.find? id with
  | none => .ok (⟨⟩, [])
  | some p =>
    if h : 0 ≤ amount then .ok (⟨⟩, [.setPayment (p.verified amount notes now h)])
    else .error (.checkViolation "payments" "payments_amount_check")

def rejectPayment (id : ℕ) (reason : Option String) (db : Db) : Answer PUnit :=
  match db.payments.find? id with
  | none => .ok (⟨⟩, [])
  | some p => .ok (⟨⟩, [.setPayment (p.rejected reason)])

def countPendingPaymentsForBooking (bookingId : ℕ) (db : Db) : ℕ :=
  (db.payments.rows.filter (fun p => decide (p.bookingId = bookingId ∧ p.status = .pending))).length

/-! ### Blocks -/

def createBlock (arg : CreateBlockParams) (id : ℕ) (db : Db) : Answer BlockRow :=
  if span : arg.startDate < arg.endDate then
    if (db.blocks.find? id).isSome then .error (.uniqueViolation "unit_blocks_pkey")
    else if ∃ k ∈ db.blocks.rows, k.unitId = arg.unitId
        ∧ Overlaps k.startDate k.endDate arg.startDate arg.endDate then
      .error (.exclusionViolation "unit_blocks_no_overlap")
    else if db.units.find? arg.unitId |>.isNone then .error (.fkViolation "unit_blocks_unit_id_fkey")
    else
      let k : BlockRow := ⟨id, arg.unitId, arg.startDate, arg.endDate, arg.note, span⟩
      .ok (k, [.insertBlock k])
  else .error (.checkViolation "unit_blocks" "unit_blocks_check")

/-- The number of rows deleted. -/
def deleteBlock (id : ℕ) (db : Db) : Answer ℕ :=
  match db.blocks.find? id with
  | none => .ok (0, [])
  | some _ => .ok (1, [.deleteBlock id])

/-! ### What a successful query has written -/

/-- The columns of a stored insert. -/
structure Stored (arg : CreateBookingParams) (id : ℕ) (b : BookingRow) : Prop where
  id : b.id = id
  ref : b.ref = arg.ref
  unitId : b.unitId = arg.unitId
  customerId : b.customerId = arg.customerId
  checkIn : b.checkIn = arg.checkIn
  checkOut : b.checkOut = arg.checkOut
  guests : b.guests = arg.guests
  status : b.status = arg.status
  nightlyPrice : b.nightlyPrice = arg.nightlyPrice
  total : b.total = arg.total
  depositDue : b.depositDue = arg.depositDue
  source : b.source = arg.source
  cancelledAt : b.cancelledAt = none
  cancelReason : b.cancelReason = none
  holdExpiresAt : b.holdExpiresAt = arg.holdExpiresAt
  paidTotal : b.paidTotal = 0
  rejections : b.paymentRejectionCount = 0

theorem stored_of_row {arg : CreateBookingParams} {id : ℕ} {b : BookingRow}
    (h : arg.row id = .ok b) : Stored arg id b := by
  simp only [CreateBookingParams.row] at h
  split_ifs at h
  cases h
  constructor <;> rfl

theorem createBooking_ok {arg : CreateBookingParams} {id : ℕ} {db : Db} {row : CreateBookingRow}
    {ws : List Write} (h : createBooking arg id db = .ok (row, ws)) :
    ∃ b, Stored arg id b ∧ row = ⟨b.id, b.ref⟩ ∧ ws = [.insertBooking b]
      ∧ db.bookings.find? id = none ∧ (∀ x ∈ db.bookings, x.ref ≠ arg.ref) ∧ ¬ Clashes db b := by
  unfold createBooking at h
  split at h
  · cases h
  · rename_i b hb
    split_ifs at h with hid href hclash
    cases h
    refine ⟨b, stored_of_row hb, rfl, rfl, ?_, ?_, hclash⟩
    · simpa using hid
    · intro x hx he
      exact href ⟨x, hx, he⟩

/-- The phone's own account is found, and named if it had no name, or one is opened. -/
theorem ensureCustomer_ok {phone name : String} {id : ℕ} {db : Db} {row : EnsureCustomerRow}
    {ws : List Write} (h : ensureCustomer phone name id db = .ok (row, ws)) :
    (∃ c ∈ db.customers, c.phone = phone ∧
      ws = [.setCustomer { c with name := if c.name = "" then name else c.name }]) ∨
    ∃ c, (∀ x ∈ db.customers, x.phone ≠ phone) ∧ db.customers.find? id = none ∧ c.id = id ∧
      c.phone = phone ∧ c.passwordHash = none ∧ ws = [.insertCustomer c] := by
  unfold ensureCustomer at h
  split at h
  · split at h
    · rename_i c hc
      cases h
      exact Or.inl ⟨c, List.mem_of_find?_eq_some hc, of_decide_eq_true (List.find?_some hc :), rfl⟩
    · rename_i hnone
      split_ifs at h with hid
      cases h
      refine Or.inr ⟨_, fun x hx => ?_, Option.not_isSome_iff_eq_none.mp hid, rfl, rfl, rfl, rfl⟩
      exact of_decide_eq_false (eq_false_of_ne_true (List.find?_eq_none.mp hnone x hx))
  · cases h

theorem cancelBooking_ok {id i : ℕ} {reason : Option String} {now : ℤ} {db : Db} {ws : List Write}
    (h : cancelBooking id reason now db = .ok (some i, ws)) :
    ∃ b, db.bookings.find? id = some b ∧ b.status ∈ cancellable
      ∧ ws = [.setBooking (b.cancelled reason now)] := by
  unfold cancelBooking at h
  split at h
  · cases h
  · rename_i b hb
    split_ifs at h with hs
    · cases h
      exact ⟨b, hb, hs, rfl⟩
    · cases h

theorem expireHold_ok {id : ℕ} {now : ℤ} {db : Db} {ref : Option String} {ws : List Write}
    (h : expireHold id now db = .ok (ref, ws)) :
    ws = [] ∨ ∃ b, db.bookings.find? id = some b ∧ HoldOver now b
      ∧ ws = [.setBooking b.expired] := by
  unfold expireHold at h
  split at h
  · cases h
    exact Or.inl rfl
  · rename_i b hb
    split_ifs at h with ho
    · cases h
      exact Or.inr ⟨b, hb, ho, rfl⟩
    · cases h
      exact Or.inl rfl

theorem setBookingPayment_ok {arg : SetBookingPaymentParams} {now : ℤ} {db : Db} {b : BookingRow}
    {v : PUnit} {ws : List Write} (hb : db.bookings.find? arg.id = some b)
    (h : setBookingPayment arg now db = .ok (v, ws)) :
    ∃ paid, ws = [.setBooking (arg.row b now paid)] := by
  simp only [setBookingPayment, hb] at h
  split_ifs at h with paid hc
  cases h
  exact ⟨paid, rfl⟩

theorem createPayment_ok {arg : CreatePaymentParams} {id : ℕ} {db : Db} {p : PaymentRow}
    {ws : List Write} (h : createPayment arg id db = .ok (p, ws)) :
    arg.row id = .ok p ∧ ws = [.insertPayment p] ∧ db.payments.find? id = none := by
  unfold createPayment at h
  split at h
  · cases h
  · rename_i p' hp
    split_ifs at h with hid hfk
    cases h
    exact ⟨hp, rfl, by simpa using hid⟩

theorem verifyPayment_ok {id : ℕ} {amount : Int64} {notes : Option String} {now : ℤ} {db : Db}
    {p : PaymentRow} {v : PUnit} {ws : List Write} (hp : db.payments.find? id = some p)
    (h : verifyPayment id amount notes now db = .ok (v, ws)) :
    ∃ ha, ws = [.setPayment (p.verified amount notes now ha)] := by
  simp only [verifyPayment, hp] at h
  split_ifs at h with ha
  cases h
  exact ⟨ha, rfl⟩

theorem rejectPayment_ok {id : ℕ} {reason : Option String} {db : Db} {p : PaymentRow} {v : PUnit}
    {ws : List Write} (hp : db.payments.find? id = some p)
    (h : rejectPayment id reason db = .ok (v, ws)) : ws = [.setPayment (p.rejected reason)] := by
  simp only [rejectPayment, hp] at h
  cases h
  rfl

theorem createBlock_ok {arg : CreateBlockParams} {id : ℕ} {db : Db} {k : BlockRow}
    {ws : List Write} (h : createBlock arg id db = .ok (k, ws)) :
    ws = [.insertBlock k] ∧ k.id = id ∧ k.unitId = arg.unitId ∧ k.startDate = arg.startDate
      ∧ k.endDate = arg.endDate ∧ db.blocks.find? id = none
      ∧ ∀ x ∈ db.blocks, x.unitId = k.unitId →
          ¬ Overlaps x.startDate x.endDate k.startDate k.endDate := by
  unfold createBlock at h
  split_ifs at h with hs hid hx hfk
  cases h
  refine ⟨rfl, rfl, rfl, rfl, rfl, by simpa using hid, ?_⟩
  intro x hm hu ho
  exact hx ⟨x, hm, hu, ho⟩

theorem deleteBlock_ok {id n : ℕ} {db : Db} {ws : List Write}
    (h : deleteBlock id db = .ok (n, ws)) (hn : n ≠ 0) :
    ws = [.deleteBlock id] ∧ ∃ k, db.blocks.find? id = some k := by
  unfold deleteBlock at h
  split at h
  · cases h
    exact absurd rfl hn
  · rename_i k hk
    cases h
    exact ⟨rfl, k, hk⟩

/-! ### What the counts say -/

/-- **A zero count is a clear stay.** -/
theorem countOverlappingStays_eq_zero {unitId : ℕ} {k checkIn checkOut : ℤ} {db : Db} :
    countOverlappingStays unitId k checkIn checkOut db = 0 ↔
      (∀ b ∈ db.bookings, b.unitId = unitId → b.Occupies →
        ¬ Overlaps b.checkIn (b.checkOut + k) checkIn checkOut) ∧
      (∀ x ∈ db.blocks, x.unitId = unitId →
        ¬ Overlaps x.startDate x.endDate checkIn checkOut) := by
  rw [countOverlappingStays, Nat.add_eq_zero_iff, List.length_eq_zero_iff, List.length_eq_zero_iff,
    List.filter_eq_nil_iff, List.filter_eq_nil_iff]
  simp only [decide_eq_true_eq, not_and, Table.mem_def]

theorem countBookingsInRange_eq_zero {unitId : ℕ} {startDate endDate : ℤ} {db : Db} :
    countBookingsInRange unitId startDate endDate db = 0 ↔
      ∀ b ∈ db.bookings, b.unitId = unitId → b.Occupies →
        ¬ Overlaps b.checkIn b.checkOut startDate endDate := by
  rw [countBookingsInRange, List.length_eq_zero_iff, List.filter_eq_nil_iff]
  simp only [decide_eq_true_eq, not_and, Table.mem_def]

theorem countPendingPaymentsForBooking_eq_zero {bookingId : ℕ} {db : Db} :
    countPendingPaymentsForBooking bookingId db = 0 ↔
      ∀ p ∈ db.payments, p.bookingId = bookingId → p.status ≠ .pending := by
  rw [countPendingPaymentsForBooking, List.length_eq_zero_iff, List.filter_eq_nil_iff]
  simp only [decide_eq_true_eq, not_and, Table.mem_def, ne_eq]

theorem mem_listOccupiedStays {unitId : ℕ} {k fromDate toDate : ℤ} {db : Db} {s : OccupiedStay} :
    s ∈ listOccupiedStays unitId k fromDate toDate db ↔
      (∃ b ∈ db.bookings, (b.unitId = unitId ∧ b.Occupies ∧ b.checkIn ≤ toDate
        ∧ b.checkOut + k > fromDate) ∧ ⟨b.checkIn, b.checkOut + k⟩ = s) ∨
      (∃ x ∈ db.blocks, (x.unitId = unitId ∧ x.startDate ≤ toDate ∧ x.endDate > fromDate)
        ∧ ⟨x.startDate, x.endDate⟩ = s) := by
  simp only [listOccupiedStays, List.mem_append, List.mem_map, List.mem_filter, decide_eq_true_eq,
    Table.mem_def, and_assoc]

theorem getPricingUnit_some {slug : Option String} {id : Option ℕ} {onlyActive : Bool} {db : Db}
    {u : UnitRow} (h : getPricingUnit slug id onlyActive db = some u) :
    u ∈ db.units ∧ (∀ s, slug = some s → u.slug = s) ∧ (∀ i, id = some i → u.id = i)
      ∧ (onlyActive = true → u.status = .active) := by
  have hp := List.find?_some h
  simp only [decide_eq_true_eq] at hp
  obtain ⟨hs, hi, ha⟩ := hp
  refine ⟨List.mem_of_find?_eq_some h, ?_, ?_, ?_⟩
  · rintro s rfl
    rcases hs with hs | hs
    · cases hs
    · exact (Option.some.inj hs).symm
  · rintro i rfl
    rcases hi with hi | hi
    · cases hi
    · exact (Option.some.inj hi).symm
  · intro ho
    rcases ha with ha | ha
    · exact absurd ho ha
    · exact ha

end Queries

end Sahel

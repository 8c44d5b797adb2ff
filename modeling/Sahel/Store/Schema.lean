import Sahel.Library.KeyedTable
import Sahel.Domain.Booking

/-!
# The schema: tables, CHECK constraints and row writes

The five tables the booking operations read and write, as the migrations define them.

* A row type carries the CHECK constraints of its table as fields, so a row that breaks one
  cannot be built; a statement that would store such a row has to fail instead.
* A UUID is a number, a DATE a day number and a TIMESTAMPTZ an instant in nanoseconds.
* A `Write` is what one statement does to one row.  Statements produce writes; `Db.apply` is
  their effect once committed.

Columns no modelled statement reads (titles, photos, creation and update times) are left out.
-/

set_option autoImplicit false

namespace Sahel

open KeyedTable

/-! ### Rows -/

inductive UnitStatus where
  | draft
  | active
  | paused
  | archived
  deriving DecidableEq, Repr

/-- What pricing and booking read of `units`. -/
structure UnitRow where
  id : ℕ
  slug : String
  status : UnitStatus
  nightlyPrice : Option Int64
  maxGuests : ℤ
  bufferDays : ℤ
  advanceNoticeHours : ℤ
  maxAdvanceDays : ℤ
  price_pos : ∀ p ∈ nightlyPrice, 0 < p
  guests_smallint : -2 ^ 15 ≤ maxGuests ∧ maxGuests < 2 ^ 15
  buffer_check : 0 ≤ bufferDays ∧ bufferDays < 2 ^ 15
  notice_check : 0 ≤ advanceNoticeHours ∧ advanceNoticeHours < 2 ^ 31
  advance_check : 1 ≤ maxAdvanceDays ∧ maxAdvanceDays < 2 ^ 31
  deriving DecidableEq

/-- The pattern `^\+201[0125][0-9]{8}$` of `customers.phone`. -/
def phoneOk (phone : String) : Bool :=
  match phone.toList with
  | '+' :: '2' :: '0' :: '1' :: c :: rest =>
    decide (c ∈ ['0', '1', '2', '5'] ∧ rest.length = 8) && rest.all Char.isDigit
  | _ => false

structure CustomerRow where
  id : ℕ
  phone : String
  name : String
  passwordHash : Option String
  phone_check : phoneOk phone

/-- The pattern `^BES-[0-9A-HJKMNP-TV-Z]{5}$` of `bookings.ref`. -/
def refOk (ref : String) : Bool :=
  match ref.toList with
  | 'B' :: 'E' :: 'S' :: '-' :: rest =>
    decide (rest.length = 5) && rest.all (fun c => crockford.toList.contains c)
  | _ => false

structure BookingRow where
  id : ℕ
  ref : String
  unitId : ℕ
  customerId : ℕ
  checkIn : ℤ
  checkOut : ℤ
  guests : Int16
  status : Status
  nightlyPrice : Int64
  total : Int64
  depositDue : Int64
  source : String
  cancelledAt : Option ℤ
  cancelReason : Option String
  holdExpiresAt : Option ℤ
  paidTotal : Int64
  paymentRejectionCount : Int16
  stay_check : checkIn < checkOut
  deposit_check : 0 ≤ depositDue
  guests_check : 1 ≤ guests
  price_check : 0 < nightlyPrice
  paid_check : 0 ≤ paidTotal
  ref_check : refOk ref
  total_check : 0 < total

inductive PaymentStatus where
  | pending
  | verified
  | rejected
  deriving DecidableEq, Repr

structure PaymentRow where
  id : ℕ
  bookingId : ℕ
  status : PaymentStatus
  amount : Int64
  senderName : String
  senderNumber : String
  proofKey : Option String
  proofType : Option String
  rejectionReason : Option String
  notes : Option String
  recordedBy : String
  verifiedAt : Option ℤ
  amount_check : 0 ≤ amount
  recordedBy_check : recordedBy = "guest" ∨ recordedBy = "admin"

/-- An admin's block of a unit's nights; the end is exclusive, like a booking's check-out. -/
structure BlockRow where
  id : ℕ
  unitId : ℕ
  startDate : ℤ
  endDate : ℤ
  note : String
  span_check : startDate < endDate

/-! ### The database -/

structure Db where
  units : Table ℕ UnitRow UnitRow.id
  customers : Table ℕ CustomerRow CustomerRow.id
  bookings : Table ℕ BookingRow BookingRow.id
  payments : Table ℕ PaymentRow PaymentRow.id
  blocks : Table ℕ BlockRow BlockRow.id

/-- Nothing booked, blocked or paid yet: the units and the accounts are the only rows. -/
structure Db.Unbooked (db : Db) : Prop where
  bookings : db.bookings = Table.empty
  payments : db.payments = Table.empty
  blocks : db.blocks = Table.empty

theorem Db.Unbooked.no_booking {db : Db} (h : db.Unbooked) (b : BookingRow) : ¬ b ∈ db.bookings := by
  rw [h.bookings]
  exact Table.not_mem_empty b

theorem Db.Unbooked.no_payment {db : Db} (h : db.Unbooked) (p : PaymentRow) : ¬ p ∈ db.payments := by
  rw [h.payments]
  exact Table.not_mem_empty p

theorem Db.Unbooked.no_block {db : Db} (h : db.Unbooked) (k : BlockRow) : ¬ k ∈ db.blocks := by
  rw [h.blocks]
  exact Table.not_mem_empty k

/-- What a statement does to one row. -/
inductive Write where
  | insertBooking (b : BookingRow)
  | setBooking (b : BookingRow)
  | insertPayment (p : PaymentRow)
  | setPayment (p : PaymentRow)
  | insertCustomer (c : CustomerRow)
  | setCustomer (c : CustomerRow)
  | insertBlock (k : BlockRow)
  | deleteBlock (id : ℕ)

def Db.apply (db : Db) : Write → Db
  | .insertBooking b => { db with bookings := db.bookings.insert b }
  | .setBooking b => { db with bookings := db.bookings.set b }
  | .insertPayment p => { db with payments := db.payments.insert p }
  | .setPayment p => { db with payments := db.payments.set p }
  | .insertCustomer c => { db with customers := db.customers.insert c }
  | .setCustomer c => { db with customers := db.customers.set c }
  | .insertBlock k => { db with blocks := db.blocks.insert k }
  | .deleteBlock id => { db with blocks := db.blocks.erase id }

/-- A booking that owns its dates. -/
def BookingRow.Occupies (b : BookingRow) : Prop := b.status.Occupies

instance (b : BookingRow) : Decidable b.Occupies := inferInstanceAs (Decidable b.status.Occupies)

/-! ### What Postgres refuses -/

/-- A failed statement, by SQLSTATE; `storage` is a failure of the object store, which is no
statement at all. -/
inductive PgError where
  | uniqueViolation (constraint : String)
  | exclusionViolation (constraint : String)
  | checkViolation (relation constraint : String)
  | fkViolation (constraint : String)
  | numericOutOfRange
  | inFailedTransaction
  | storage
  deriving DecidableEq

def PgError.code : PgError → String
  | .uniqueViolation _ => "23505"
  | .exclusionViolation _ => "23P01"
  | .checkViolation _ _ => "23514"
  | .fkViolation _ => "23503"
  | .numericOutOfRange => "22003"
  | .inFailedTransaction => "25P02"
  | .storage => ""

/-- The text of a failed CHECK, which is the one the API shows. -/
def PgError.message : PgError → String
  | .checkViolation relation constraint =>
    "ERROR: new row for relation \"" ++ relation ++ "\" violates check constraint \"" ++ constraint
      ++ "\" (SQLSTATE 23514)"
  | _ => ""

end Sahel

import Sahel.Store.CatalogueQueries

/-!
# What a booking's page reads

The queries behind the guest's page of a booking, next to the statements of the bookings.

* `getBookingView` with every column, the unit's titles and cover, the compound and the guest;
* `listBookingPayments`, whose order is by creation only: payments of one instant come in the order
  a scan meets them;
* `getInstapayAccount`: where to pay.
-/

set_option autoImplicit false

namespace Sahel

open KeyedTable ReadCommitted

structure InstapayAccount where
  address : String
  mobile : String
  holderName : String

/-- The rows next to those of the bookings: the catalogue, the cover of each unit, when bookings and
payments were created, and the account. -/
structure PageTables where
  catalogue : Catalogue
  coverUrl : ℕ → Option String
  bookingCreatedAt : ℕ → ℤ
  paymentCreatedAt : ℕ → ℤ
  instapay : Option InstapayAccount

abbrev PageRows : Type := Db × PageTables

/-- `db.GetBookingViewRow`. -/
structure GetBookingViewRow where
  booking : BookingRow
  nights : ℤ
  createdAt : ℤ
  unitSlug : String
  unitTitleAr : String
  unitTitleEn : String
  compoundNameAr : String
  compoundNameEn : String
  customerName : String
  customerPhone : String
  coverUrl : Option String

/-- A payment as the guest's page lists it. -/
structure ListBookingPaymentsRow where
  payment : PaymentRow
  createdAt : ℤ

namespace Queries

/-- `GetBookingView`, by reference. -/
def bookingPage (ref : String) (d : PageRows) : Option GetBookingViewRow := do
  let view ← getBookingView (some ref) none d.1
  let u ← d.1.units.find? view.booking.unitId
  let details := d.2.catalogue.details u.id
  let c ← d.2.catalogue.compounds.find? details.compoundId
  return {
    booking := view.booking
    nights := view.booking.checkOut - view.booking.checkIn
    createdAt := d.2.bookingCreatedAt view.booking.id
    unitSlug := u.slug
    unitTitleAr := details.titleAr
    unitTitleEn := details.titleEn
    compoundNameAr := c.nameAr
    compoundNameEn := c.nameEn
    customerName := view.customer.name
    customerPhone := view.customer.phone
    coverUrl := d.2.coverUrl u.id }

def listBookingPayments (bookingId : ℕ) (o : Oracle) (d : PageRows) : List ListBookingPaymentsRow :=
  let rows := d.1.payments.rows.filter (fun p => decide (p.bookingId = bookingId))
  ((o.met PaymentRow.id rows).map (fun p => ⟨p, d.2.paymentCreatedAt p.id⟩)).mergeSort (fun p q =>
    decide (p.createdAt ≤ q.createdAt))

end Queries

inductive PageStmt where
  | bookingPage (ref : String)
  | listBookingPayments (bookingId : ℕ)
  | getInstapayAccount

@[reducible] def PageStmt.Val : PageStmt → Type
  | .bookingPage _ => Option GetBookingViewRow
  | .listBookingPayments _ => List ListBookingPaymentsRow
  | .getInstapayAccount => Option InstapayAccount

def PageStmt.eval : (s : PageStmt) → Oracle → ℤ → PageRows → Except PgError (s.Val × List Empty)
  | .bookingPage ref, _, _, d => .ok (Queries.bookingPage ref d, [])
  | .listBookingPayments id, o, _, d => .ok (Queries.listBookingPayments id o d, [])
  | .getInstapayAccount, _, _, d => .ok (d.2.instapay, [])

/-- The pages' rows and queries, added to those of the bookings; none of them writes or locks. -/
def bookingPages : Extra postgres PageTables Empty Empty PageStmt PageStmt.Val where
  apply d _ := d
  eval := PageStmt.eval
  locks _ _ _ _ := []
  conflict _ _ := false
  conflict_comm _ _ := rfl

end Sahel

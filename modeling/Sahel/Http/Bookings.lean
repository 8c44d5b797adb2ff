import Sahel.Http.Server

/-!
# Availability, quotes and bookings

The handlers of availability.go, pricing_store.go, bookings.go and admin_manual_booking.go:

* `getAvailability` and `postQuote`, the calendar and the price a guest sees;
* `createBooking` for a guest on the website and `adminCreateBooking` for one who called, both
  counting clashes under the unit's row lock before they insert;
* `insertWithRef`, the loop both use to draw a reference again when it is taken;
* `adminCancelBooking`, and `expireHolds`, which the server runs on a timer.
-/

set_option autoImplicit false

namespace Sahel

open ReadCommitted

/-- Bounds one public availability read (about four months). -/
def maxAvailabilitySpan : ℤ := 120

/-- Bounds a typed price (piasters): a million pounds a night. -/
def maxNightlyPrice : Int64 := 100000000

/-! ### The calendar -/

/-- One date as the guest's calendar reads it. -/
structure CalendarDay where
  date : String
  price : Option Int64
  state : String
  deriving DecidableEq

def calendarDay (today : ℤ) (maxAdvanceDays : ℤ) (d : Pricing.Day) : CalendarDay :=
  { date := formatDate d.date
    price := if d.price > 0 then some d.price else none
    state :=
      if d.date < today then "past"
      else if d.available ∧ d.date ≤ today + maxAdvanceDays then "free"
      else "blocked" }

/-- Labels days for display: dates before today are past, dates past the unit's booking horizon
(or unpriced) are blocked. -/
def toCalendar (days : List Pricing.Day) (today maxAdvanceDays : ℤ) : List CalendarDay :=
  days.map (calendarDay today maxAdvanceDays)

/-- The inner loop of `markBooked`: one day against every stay. -/
def markDay (stays : List OccupiedStay) (d : Pricing.Day) : Pricing.Day :=
  stays.foldl (fun d st =>
    if st.checkIn ≤ d.date ∧ d.date < st.blockedUntil then { d with available := false } else d) d

/-- Makes every day inside an occupying booking, or inside the unit's turnover days after one,
unavailable. -/
def markBooked (u : UnitRow) (days : List Pricing.Day) : Tx (List Pricing.Day) :=
  match days.head?, days.getLast? with
  | some first, some last => do
    let stays ← Tx.query (.listOccupiedStays u.id u.bufferDays first.date last.date)
    return days.map (markDay stays)
  | _, _ => return days

def cairoToday (srv : Server) : Tx ℤ := do
  let t ← Tx.now
  return srv.cairo.today t

def getAvailability (srv : Server) (slug fromText toText : String) : Handler (List CalendarDay) := do
  let range ← Prog.check (parseRange fromText toText maxAvailabilitySpan)
    (fun e => ⟨400, "invalid_param", e.message⟩)
  let u ← pricingUnitBySlug slug
  let days ← (markBooked u (Pricing.days (pricingUnit u) range.1 range.2)).mapErr
    (fun _ => internalError "availability")
  let today ← (cairoToday srv).mapErr (fun _ => internalError "availability")
  return toCalendar days today u.maxAdvanceDays

/-! ### Quotes -/

/-- Applies the pricing rules, then refuses dates another booking (or its turnover days) already
holds. -/
def quoteStay (srv : Server) (u : UnitRow) (req : Pricing.Request) : Tx Pricing.Breakdown := do
  let t ← Tx.now
  let b ← Prog.check (Pricing.quote srv.cairo (pricingUnit u) req t) .rule
  let n ← Tx.query (.countOverlappingStays u.id u.bufferDays req.checkIn req.checkOut)
  Prog.refuse (n > 0) (.rule ⟨"unavailable", "some of these nights are already booked"⟩)
  return b

/-- The stay a client asks a price for. -/
structure QuoteRequest where
  checkIn : String
  checkOut : String
  guests : ℤ

def postQuote (srv : Server) (slug : String) (req : QuoteRequest) : Handler Pricing.Breakdown := do
  let range ← Prog.check (parseRange req.checkIn req.checkOut maxAvailabilitySpan)
    (fun e => ⟨422, "invalid_range", e.message⟩)
  let u ← pricingUnitBySlug slug
  (quoteStay srv u ⟨range.1, range.2, req.guests⟩).mapErr (fun
    | .rule e => ⟨422, e.code, e.message⟩
    | _ => internalError "quote")

/-! ### Bookings -/

/-- One round of the insert loop: a fresh reference and the insert's outcome. -/
def insertOnce (params : String → Tx CreateBookingParams) : Tx (Except PgError CreateBookingRow) := do
  let buf ← Tx.query .randomBytes
  let arg ← params (newRef buf)
  Prog.attempt (Stmt.createBooking arg)

/-- Inserts under a drawn reference; while it clashes, draws again, `attempts` more times. -/
def insertWithRef (params : String → Tx CreateBookingParams) : ℕ → Tx CreateBookingRow
  | 0 => do
    let row ← insertOnce params
    Prog.check row .pg
  | attempts + 1 => do
    let row ← insertOnce params
    match row with
    | .ok row => return row
    | .error e =>
      if e.code = pgUniqueViolation then insertWithRef params attempts else Prog.throw (.pg e)

structure BookingRequest where
  unitSlug : String
  checkIn : String
  checkOut : String
  guests : ℤ

def createBookingError (u : UnitRow) : TxError → ApiError
  | .rule e =>
    if e.code = "unavailable" ∧ u.nightlyPrice.isSome then
      ⟨409, "dates_taken", "someone just booked these dates"⟩
    else ⟨422, e.code, e.message⟩
  | .pg (.exclusionViolation _) => ⟨409, "dates_taken", "someone just booked these dates"⟩
  | _ => internalError "create booking"

/-- What the website inserts: a booking waiting for its deposit, with a hold on its dates. -/
def webParams (srv : Server) (u : UnitRow) (guest : CustomerRow) (req : Pricing.Request)
    (b : Pricing.Breakdown) (ref : String) : Tx CreateBookingParams := do
  let hold ← tsNow srv.holdFor
  return {
    ref := ref, unitId := u.id, customerId := guest.id
    checkIn := req.checkIn, checkOut := req.checkOut, guests := Int16.ofInt req.guests
    status := .pendingPayment, nightlyPrice := b.nightlyPrice, total := b.total
    depositDue := b.depositDue, source := "web", holdExpiresAt := some hold }

/-- A guest books a stay. -/
def createBooking (srv : Server) (guestId : ℕ) (req : BookingRequest) :
    Handler CreateBookingRow := do
  let range ← Prog.check (parseRange req.checkIn req.checkOut maxAvailabilitySpan)
    (fun e => ⟨422, "invalid_range", e.message⟩)
  let guest ← (Tx.getCustomer guestId).mapErr (writeStoreError "customer")
  Prog.refuse (trimSpace guest.name = "") ⟨422, "name_required", "add your name before booking"⟩
  let u ← pricingUnitBySlug req.unitSlug
  let stay : Pricing.Request := ⟨range.1, range.2, req.guests⟩
  Prog.mapErr (createBookingError u) (do
    -- Admin blocks take the same lock, so a block and a booking can't claim the same night.
    let _ ← Tx.lockUnit u.id
    let b ← quoteStay srv u stay
    insertWithRef (webParams srv u guest stay b) 5)

structure ManualBookingRequest where
  unitId : Option ℕ
  checkIn : String
  checkOut : String
  guests : ℤ
  phone : String
  name : String
  nightlyPrice : Int64

def manualBookingError : TxError → ApiError
  | .nightsTaken | .pg (.exclusionViolation _) =>
    ⟨409, "dates_taken", "a booking or block already holds some of these nights"⟩
  | _ => internalError "manual booking"

/-- What an admin inserts: a booking confirmed at once, at the typed price. -/
def manualParams (u : UnitRow) (c : EnsureCustomerRow) (checkIn checkOut guests : ℤ)
    (price : Int64) (ref : String) : Tx CreateBookingParams :=
  return {
    ref := ref, unitId := u.id, customerId := c.id
    checkIn := checkIn, checkOut := checkOut, guests := Int16.ofInt guests
    status := .confirmed, nightlyPrice := price
    total := price * Int64.ofInt (daysBetween checkIn checkOut), depositDue := price
    source := "admin", holdExpiresAt := none }

/-- Books a stay for a guest who called or came in.  It may use any price and skips the website's
notice rules, but counts bookings, turnover days and blocks under the unit's row lock. -/
def adminCreateBooking (req : ManualBookingRequest) : Handler CreateBookingRow := do
  let unitId ← Prog.require req.unitId ⟨422, "unit_required", "choose a unit"⟩
  let range ← Prog.check (parseRange req.checkIn req.checkOut maxAvailabilitySpan)
    (fun e => ⟨422, "invalid_range", e.message⟩)
  Prog.refuse (range.2 ≤ range.1) ⟨422, "invalid_range", "check-out must be after check-in"⟩
  let phone ← Prog.require (normalizePhone req.phone.toList)
    ⟨422, "invalid_phone", "not an Egyptian mobile number"⟩
  let name := cleanName req.name
  Prog.refuse (¬ validName name) ⟨422, "invalid_name", "name must be 2 to 80 characters"⟩
  let u ← (Tx.getPricingUnit none (some unitId) false).mapErr (fun
    | .noRows => ⟨422, "unit_required", "that unit can't be booked"⟩
    | _ => internalError "unit")
  Prog.refuse (u.status = .archived) ⟨422, "unit_required", "that unit can't be booked"⟩
  Prog.refuse (req.guests < 1 ∨ req.guests > u.maxGuests)
    ⟨422, "invalid_guests", "guests must be between 1 and the unit's maximum"⟩
  let price := if req.nightlyPrice = 0 then u.nightlyPrice.getD req.nightlyPrice else req.nightlyPrice
  Prog.refuse (price ≤ 0 ∨ price > maxNightlyPrice) ⟨422, "price_required", "enter a nightly price"⟩
  Prog.mapErr manualBookingError (do
    let _ ← Tx.lockUnit u.id
    let n ← Tx.query (.countOverlappingStays u.id u.bufferDays range.1 range.2)
    Prog.refuse (n > 0) .nightsTaken
    let c ← Tx.query (.ensureCustomer phone name)
    insertWithRef (manualParams u c range.1 range.2 req.guests price) 5)

/-- Cancels a pending or confirmed booking. -/
def adminCancelBooking (param : Option ℕ) (reason : String) : Handler ℕ := do
  let id ← parseID param "booking"
  let reason := if trimSpace reason = "" then none else some (trimSpace reason)
  (Tx.cancelBooking id reason).mapErr (fun
    | .noRows => ⟨409, "not_cancellable", "only a pending or confirmed booking can be cancelled"⟩
    | _ => internalError "cancel booking")

/-- The rows of one `ExpireHolds`, one after the other; the references of those it released. -/
def expireEach : List ℕ → Tx (List String)
  | [] => return []
  | id :: ids => do
    let ref ← Tx.query (.expireHold id)
    let refs ← expireEach ids
    return ref.toList ++ refs

/-- Releases unpaid bookings whose hold ran out: one UPDATE over all of them. -/
def expireHolds : Tx (List String) := do
  let ids ← Tx.query .expireHoldsScan
  expireEach ids

end Sahel

import Sahel.Http.Bookings

/-!
# What the dashboard reads

The reads of the admin API that the browser lays out: `adminUnitTaken`, the nights of a unit nobody
can book, `adminTimeline`, every unit with the bookings and blocks on some nights, and `adminToday`,
today's arrivals and departures with the numbers around them.  Dates leave the server as texts.
-/

set_option autoImplicit false

namespace Sahel

open ReadCommitted

/-! ### Taken nights -/

/-- A half-open range of dates as the API sends it. -/
structure TakenRange where
  start : String
  stop : String
  deriving DecidableEq

/-- The nights of a unit no one can book: occupying bookings with the unit's turnover days, and
blocks. -/
def adminUnitTaken (param : Option ℕ) (fromText toText : String) : Handler (List TakenRange) := do
  let id ← parseID param "unit"
  let range ← Prog.check (parseRange fromText toText 500) (fun e => ⟨400, "invalid_param", e.message⟩)
  let u ← (Tx.getPricingUnit none (some id) false).mapErr (writeStoreError "unit")
  let stays ← (Tx.query (.listOccupiedStays u.id u.bufferDays range.1 range.2)).mapErr
    (fun _ => internalError "taken nights")
  return stays.map (fun st => ⟨formatDate st.checkIn, formatDate st.blockedUntil⟩)

/-! ### The timeline -/

/-- Bounds one timeline read. -/
def maxTimelineDays : ℤ := 31

structure BlockView where
  id : ℕ
  unitId : ℕ
  start : String
  stop : String
  note : String
  deriving DecidableEq

def toBlock (k : BlockRow) : BlockView :=
  ⟨k.id, k.unitId, formatDate k.startDate, formatDate k.endDate, k.note⟩

structure TimelineBooking where
  id : ℕ
  ref : String
  status : Status
  checkIn : String
  checkOut : String
  customerName : String
  deriving DecidableEq

def toTimelineBooking (b : TimelineBookingsRow) : TimelineBooking :=
  ⟨b.id, b.ref, b.status, formatDate b.checkIn, formatDate b.checkOut, b.customerName⟩

structure TimelineUnit where
  id : ℕ
  slug : String
  status : UnitStatus
  bookings : List TimelineBooking
  blocks : List BlockView
  deriving DecidableEq

structure TimelineView where
  fromText : String
  days : ℤ
  today : String
  units : List TimelineUnit
  deriving DecidableEq

/-- The number of days asked for: 14 unless the query says otherwise. -/
def timelineDays (text : String) : Option ℤ :=
  if text = "" then some 14
  else match parseInt64 text with
    | some days => if days < 1 ∨ days > maxTimelineDays then none else some days
    | none => none

/-- The bookings and blocks of one unit. -/
def timelineUnit (bookings : List TimelineBookingsRow) (blocks : List BlockRow) (u : UnitRow) :
    TimelineUnit :=
  ⟨u.id, u.slug, u.status, (bookings.filter (fun b => b.unitId = u.id)).map toTimelineBooking,
    (blocks.filter (fun k => k.unitId = u.id)).map toBlock⟩

/-- Every unit that isn't archived, with the occupying bookings and blocks that touch the nights
`[from, from + days)`. -/
def adminTimeline (srv : Server) (fromText daysText : String) : Handler TimelineView := do
  let fromDate ← Prog.require (parseDate fromText)
    ⟨400, "invalid_param", (RangeError.notADate fromText).message⟩
  let days ← Prog.require (timelineDays daysText)
    ⟨400, "invalid_param", "days must be between 1 and 31"⟩
  let toDate := fromDate + days
  let units ← (Tx.query .timelineUnits).mapErr (fun _ => internalError "timeline units")
  let bookings ← (Tx.query (.timelineBookings fromDate toDate)).mapErr
    (fun _ => internalError "timeline bookings")
  let blocks ← (Tx.query (.timelineBlocks fromDate toDate)).mapErr
    (fun _ => internalError "timeline blocks")
  let today ← (cairoToday srv).mapErr (fun _ => internalError "timeline")
  return ⟨formatDate fromDate, days, formatDate today, units.map (timelineUnit bookings blocks)⟩

/-! ### Today -/

structure Movement where
  id : ℕ
  ref : String
  status : Status
  checkIn : String
  checkOut : String
  nights : ℤ
  guests : Int16
  customerName : String
  customerPhone : String
  unitId : ℕ
  deriving DecidableEq

def toMovement (b : TodayMovementsRow) : Movement :=
  ⟨b.id, b.ref, b.status, formatDate b.checkIn, formatDate b.checkOut, b.nights, b.guests,
    b.customerName, b.customerPhone, b.unitId⟩

structure TodayView where
  today : String
  arrivals : List Movement
  departures : List Movement
  stayingTonight : ℤ
  holdsExpiring : ℤ
  activeUnits : ℤ
  occupiedNights : ℤ
  /-- nights on offer in the next seven: every active unit, every night -/
  weekNights : ℤ
  deriving DecidableEq

/-- The dashboard's first screen: today's arrivals and departures in Cairo, and the numbers around
them. -/
def adminToday (srv : Server) : Handler TodayView := do
  let today ← (cairoToday srv).mapErr (fun _ => internalError "today")
  let rows ← (Tx.query (.todayMovements today)).mapErr (fun _ => internalError "today movements")
  let counts ← (Tx.query (.todayCounts today)).mapErr (fun _ => internalError "today counts")
  return {
    today := formatDate today
    arrivals := (rows.filter (fun b => b.checkIn = today)).map toMovement
    departures := (rows.filter (fun b => b.checkOut = today)).map toMovement
    stayingTonight := counts.stayingTonight
    holdsExpiring := counts.holdsExpiring
    activeUnits := counts.activeUnits
    occupiedNights := counts.occupiedNights
    weekNights := counts.activeUnits * 7 }

end Sahel

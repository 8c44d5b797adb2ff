import Sahel.Http.Bookings

/-!
# Reports

`adminReports` of admin_reports.go: month by month and unit by unit, sold nights and their revenue,
blocked nights and the payments verified.

The database turns timestamps into Cairo days with its own copy of the zone's table, which is taken
to be the server's.
-/

set_option autoImplicit false

namespace Sahel

open ReadCommitted

structure ReportMonth where
  month : String
  nights : ℤ
  revenue : ℤ
  blockedNights : ℤ
  /-- nights on offer: every active unit, every night, less blocked nights -/
  availableNights : ℤ
  collected : ℤ
  deriving DecidableEq

structure ReportUnit where
  id : ℕ
  status : UnitStatus
  nights : ℤ
  revenue : ℤ
  blockedNights : ℤ
  availableNights : ℤ
  deriving DecidableEq

structure ReportsView where
  year : ℤ
  today : String
  activeUnits : ℤ
  months : List ReportMonth
  units : List ReportUnit
  deriving DecidableEq

/-- `Format("2006-01")`. -/
def formatMonth (date : ℤ) : String :=
  let c := civil date
  padded 4 c.1.toNat ++ "-" ++ padded 2 c.2.1

def toReportMonth (active : ℤ) (m : ReportMonthsRow) : ReportMonth where
  month := formatMonth m.monthStart
  nights := m.nights
  revenue := m.revenue
  blockedNights := m.blockedNights
  availableNights := max (active * daysBetween m.monthStart m.monthEnd - m.blockedNights) 0
  collected := m.collected

def toReportUnit (yearDays : ℤ) (u : ReportUnitsRow) : ReportUnit :=
  ⟨u.id, u.status, u.nights, u.revenue, u.blockedNights, max (yearDays - u.blockedNights) 0⟩

/-- The year asked for: this one unless the query says otherwise. -/
def reportYear (text : String) (thisYear : ℤ) : Option ℤ :=
  if text = "" then some thisYear
  else match parseInt64 text with
    | some year => if year < 2000 ∨ year > 2100 then none else some year
    | none => none

/-- Month by month and unit by unit.  Occupancy uses today's active units. -/
def adminReports (srv : Server) (yearText : String) : Handler ReportsView := do
  let today ← (cairoToday srv).mapErr (fun _ => internalError "reports")
  let year ← Prog.require (reportYear yearText (civil today).1)
    ⟨400, "invalid_param", "year must be a year like 2026"⟩
  let fromDate := yearStart year
  let toDate := yearStart (year + 1)
  let units ← (Tx.query (.reportUnits fromDate toDate)).mapErr (fun _ => internalError "report units")
  let months ← (Tx.query (.reportMonths srv.cairo fromDate 12)).mapErr
    (fun _ => internalError "report months")
  let active : ℤ := (units.filter (fun u => u.status = .active)).length
  return {
    year := year
    today := formatDate today
    activeUnits := active
    months := months.map (toReportMonth active)
    units := units.map (toReportUnit (daysBetween fromDate toDate)) }

end Sahel

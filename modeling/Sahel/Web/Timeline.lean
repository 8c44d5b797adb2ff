import Sahel.Http.Dashboard
import Mathlib.Data.String.Basic

/-!
# The bars of the timeline

How the dashboard lays a unit's stays out on columns, one per night: `lib/admin/timeline.ts`, and the
row of `components/admin/timeline-grid.tsx`.

Days are texts; JavaScript turns them into milliseconds to count between them.  Where a text is no
day, `addDays` throws and a count is not a number, so there is no placement: `none`.
-/

set_option autoImplicit false

namespace Sahel

namespace Web

/-! ### Days and milliseconds -/

/-- `DAY_MS`. -/
def dayMs : ℤ := 86400000

/-- `Date.parse` of a day. -/
def dateParse (day : String) : Option ℤ := (parseDate day).map (· * dayMs)

/-- The year of `toISOString`: outside 0 to 9999 it takes a sign and six digits. -/
def isoYear (year : ℤ) : String :=
  if 0 ≤ year ∧ year ≤ 9999 then padded 4 year.toNat
  else (if year < 0 then "-" else "+") ++ padded 6 year.natAbs

/-- `new Date(t).toISOString().slice(0, 10)`; a time more than a hundred million days from 1970 is
invalid and throws. -/
def isoDay (t : ℤ) : Option String :=
  if t.natAbs ≤ 8640000000000000 then
    let c := civil (t / dayMs)
    some (String.ofList
      ((isoYear c.1 ++ "-" ++ padded 2 c.2.1 ++ "-" ++ padded 2 c.2.2).toList.take 10))
  else none

def addDays (day : String) (n : ℤ) : Option String := do
  let t ← dateParse day
  isoDay (t + n * dayMs)

/-- `Math.round(ms / DAY_MS)`: half a day goes up. -/
def roundDays (ms : ℤ) : ℤ := (2 * ms + dayMs) / (2 * dayMs)

/-! ### Bars -/

structure Placement where
  /-- the first column the bar covers -/
  col : ℤ
  span : ℤ
  clippedStart : Bool
  clippedEnd : Bool
  deriving DecidableEq

/-- Where a stay of nights `[start, stop)` sits among `count` columns from `fromDay`, or nothing
when none of its nights are visible. -/
def place (start stop fromDay : String) (count : ℤ) : Option (Option Placement) := do
  let toDay ← addDays fromDay count
  if stop ≤ fromDay ∨ toDay ≤ start ∨ stop ≤ start then return none
  else
    let first := if start < fromDay then fromDay else start
    let last := if toDay < stop then toDay else stop
    let t ← dateParse first
    let t₀ ← dateParse fromDay
    let t₁ ← dateParse last
    return some {
      col := roundDays (t - t₀), span := roundDays (t₁ - t)
      clippedStart := decide (start < fromDay), clippedEnd := decide (toDay < stop) }

/-- The bars of a unit's row: its bookings and its blocks, where they are placed. -/
def rowBars (view : TimelineView) (u : TimelineUnit) : Option (List Placement) := do
  let bookings ← u.bookings.mapM (fun b => place b.checkIn b.checkOut view.fromText view.days)
  let blocks ← u.blocks.mapM (fun k => place k.start k.stop view.fromText view.days)
  return (bookings ++ blocks).filterMap id

/-- The bar covers column `i`. -/
def Placement.Covers (p : Placement) (i : ℤ) : Prop := p.col ≤ i ∧ i < p.col + p.span

instance (p : Placement) (i : ℤ) : Decidable (p.Covers i) := inferInstanceAs (Decidable (_ ∧ _))

example : place "2027-05-28" "2027-06-03" "2027-06-01" 14 = some (some ⟨0, 2, true, false⟩) ∧
    place "2027-05-25" "2027-06-01" "2027-06-01" 14 = some none := by decide +kernel

end Web

end Sahel

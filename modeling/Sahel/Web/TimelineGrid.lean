import Sahel.Domain.DateText
import Sahel.Web.Timeline

/-!
# Blocking nights on the timeline

The grid of `components/admin/timeline-grid.tsx`: one row per unit, one column per night.  A click on a
day, then on another one of the same row, opens a dialog that blocks the nights between the two.

The dialog is modal: while it is open, the days under it cannot be clicked.
-/

set_option autoImplicit false

namespace Sahel

namespace Web

/-- The nights of two clicked days. -/
structure Selection where
  start : String
  stop : String
  nights : ℤ
  deriving DecidableEq

/-- Two clicked days, in either order, as the nights they cover. -/
def selection (a b : String) : Option Selection := do
  let start := if a < b then a else b
  let stop ← addDays (if a < b then b else a) 1
  let first ← dateParse start
  let last ← dateParse stop
  return ⟨start, stop, roundDays (last - first)⟩

/-- What the grid is given: the first night and the number of columns, which on a phone is a week at
most, today in Cairo, and the units of the rows.  Its days have years of four digits. -/
structure GridView where
  fromDate : ℤ
  count : ℤ
  today : ℤ
  units : List ℕ
  fits : FourDigit fromDate ∧ FourDigit (fromDate + count)
  today_fits : FourDigit today

/-- The nights that the dialog offers to block. -/
structure Pending where
  unit : ℕ
  selected : Selection
  deriving DecidableEq

structure TimelineGrid where
  view : GridView
  start : Option (ℕ × String)
  pending : Option Pending

/-- The day of a button; days before today have none. -/
def TimelineGrid.hit (g : TimelineGrid) (unit col : ℕ) : Option String :=
  if unit ∈ g.view.units ∧ (col : ℤ) < g.view.count then
    (addDays (formatDate g.view.fromDate) col).filter (fun d => ! decide (d < formatDate g.view.today))
  else none

/-- `clickDay(unit, day)`. -/
def TimelineGrid.clickDay (g : TimelineGrid) (unit : ℕ) (day : String) : TimelineGrid :=
  match g.start with
  | none => { g with start := some (unit, day) }
  | some (u, first) =>
    if u ≠ unit then { g with start := some (unit, day) }
    else { g with start := none, pending := (selection first day).map (fun s => ⟨unit, s⟩) }

/-- The grid with nothing clicked. -/
def TimelineGrid.idle (v : GridView) : TimelineGrid := ⟨v, none, none⟩

/-- The grid after some events, and the days clicked on the way: the unit and the date of each, the
last one first. -/
inductive TimelineGrid.Reached (v : GridView) : List (ℕ × ℤ) → TimelineGrid → Prop
  | idle : Reached v [] (.idle v)
  /-- Another week, or fresh rows. -/
  | shown {clicks g} (h : Reached v clicks g) (v' : GridView) : Reached v clicks { g with view := v' }
  | click {clicks g day} (h : Reached v clicks g) (unit col : ℕ) (bare : g.pending = none)
      (button : g.hit unit col = some day) :
      Reached v ((unit, g.view.fromDate + col) :: clicks) (g.clickDay unit day)
  /-- Escape drops a half-made selection. -/
  | escape {clicks g} (h : Reached v clicks g) : Reached v clicks { g with start := none }
  /-- The dialog is closed, with or without its nights blocked. -/
  | close {clicks g} (h : Reached v clicks g) : Reached v clicks { g with pending := none }

example : selection "2027-01-12" "2027-01-10" = some ⟨"2027-01-10", "2027-01-13", 3⟩ := by decide +kernel

end Web

end Sahel

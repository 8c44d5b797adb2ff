import Sahel.Web.StayPicker

/-!
# The manual booking form of the dashboard

The stay a new manual booking is entered with: `rangeSelect` of `lib/public/calendar.ts`, a day
button of `components/admin/stay-picker.tsx`, and the effect of
`dashboard/bookings/new/manual-booking-form.tsx` that loads a unit's closed nights.

The guest's details and the price are entered beside the stay and never change it.
-/

set_option autoImplicit false

namespace Sahel

namespace Web

/-- The days chosen so far. -/
structure Range where
  checkIn : Option String
  checkOut : Option String
  deriving DecidableEq

/-- First pick is the check-in; a later pick is the check-out.  Picking the check-in again clears;
an earlier pick, or any pick after a full range, starts over from that date. -/
def rangeSelect (r : Range) (date : String) : Range :=
  match r.checkIn with
  | some ci =>
    if ci ≠ "" ∧ truthy r.checkOut = false then
      if date = ci then ⟨none, none⟩
      else if ci < date then ⟨some ci, some date⟩
      else ⟨some date, none⟩
    else ⟨some date, none⟩
  | none => ⟨some date, none⟩

/-- What `setRange` makes of the selection once a unit's closed nights are there: a check-in that
has passed or is taken clears it, a check-out past the next taken night is dropped. -/
def prune (today : String) (taken : List TakenRange) (r : Range) : Range :=
  match r.checkIn with
  | none => r
  | some ci =>
    if ci = "" then r
    else if ci < today ∨ canPick ci none none taken = false then ⟨none, none⟩
    else
      match r.checkOut, nextTaken ci taken with
      | some co, some limit => if co ≠ "" ∧ limit ≠ "" ∧ limit < co then ⟨some ci, none⟩ else r
      | _, _ => r

/-- The closed nights of some unit. -/
structure ClosedNights where
  ranges : List TakenRange
  nonempty : ∀ r ∈ ranges, r.start < r.stop

/-- No closed nights: what the form starts with, and goes back to without a unit. -/
def ClosedNights.none : ClosedNights :=
  ⟨[], by simp⟩

/-- What the form holds about the stay. -/
structure BookingForm where
  range : Range
  taken : ClosedNights

/-- Nothing chosen, nothing loaded. -/
def BookingForm.empty : BookingForm :=
  ⟨⟨none, none⟩, ClosedNights.none⟩

/-- A day button can be pressed.  A blank cell of the month has no button, and the buttons of past
days, or of any day while nights load, are disabled besides. -/
def enabled (day : String) (s : BookingForm) : Bool :=
  day != "" && canPick day s.range.checkIn s.range.checkOut s.taken.ranges

/-- What can happen to the stay. -/
inductive FormEvent where
  /-- The day's button is pressed. -/
  | click (day : String)
  /-- The closed nights of the chosen unit arrive. -/
  | loaded (taken : ClosedNights)
  /-- The unit is taken away, or its nights could not be loaded. -/
  | unloaded

/-- One event.  A button that is disabled does nothing. -/
def BookingForm.step (today : String) (s : BookingForm) : FormEvent → BookingForm
  | .click day => if enabled day s then { s with range := rangeSelect s.range day } else s
  | .loaded taken => ⟨prune today taken.ranges s.range, taken⟩
  | .unloaded => { s with taken := ClosedNights.none }

/-- The form after some events. -/
def BookingForm.run (today : String) (events : List FormEvent) : BookingForm :=
  events.foldl (BookingForm.step today) BookingForm.empty

end Web

end Sahel

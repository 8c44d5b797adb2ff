import Sahel.Http.Dashboard
import Mathlib.Data.String.Basic

/-!
# The stay picker of the dashboard

Which days the manual booking calendar lets an admin pick, given the taken nights the API sent:
`lib/admin/stay-picker.ts`.  Days are texts, compared as texts.

JavaScript compares texts by UTF-16 code unit and Lean by code point; on dates, which are ASCII, the
two agree.
-/

set_option autoImplicit false

namespace Sahel

namespace Web

/-- How a condition reads a text that may be missing. -/
def truthy : Option String → Bool
  | none => false
  | some s => s != ""

/-- The night starting on `day` is booked or blocked. -/
def isTaken (day : String) (taken : List TakenRange) : Bool :=
  taken.any (fun r => decide (r.start ≤ day ∧ day < r.stop))

/-- Where a range meets the nights from `day` on. -/
def hit (day : String) (r : TakenRange) : Option String :=
  if day < r.stop then some (if day < r.start then r.start else day) else none

/-- One turn of the loop in `nextTaken`. -/
def nextTakenStep (day : String) (first : Option String) (r : TakenRange) : Option String :=
  match hit day r, first with
  | some h, some f => if h ≠ "" ∧ (f = "" ∨ h < f) then some h else some f
  | some h, none => if h ≠ "" then some h else none
  | none, first => first

/-- The first taken night on or after `day`, or nothing when the rest is free. -/
def nextTaken (day : String) (taken : List TakenRange) : Option String :=
  taken.foldl (nextTakenStep day) none

/-- `!limit || day <= limit`. -/
def upTo (limit : Option String) (day : String) : Bool :=
  match limit with
  | some l => l == "" || decide (day ≤ l)
  | none => true

/-- With no check-in yet, or a full range, any free night can start a stay.  With a check-in, a
later day is a valid check-out up to and including the next taken night. -/
def canPick (day : String) (checkIn checkOut : Option String) (taken : List TakenRange) : Bool :=
  match checkIn with
  | some ci =>
    if ci = "" ∨ truthy checkOut then !isTaken day taken
    else if day ≤ ci then !isTaken day taken
    else upTo (nextTaken ci taken) day
  | none => !isTaken day taken

end Web

end Sahel

import Sahel.Library.Binary64
import Sahel.Library.History
import Sahel.Web.BookingForm
import Sahel.Web.Timeline

/-!
# The stay planner of a unit's page

`unit/[slug]/stay-planner.tsx`: two months of days, the stay chosen on them, the number of guests,
the price the API gave for them, and the dialog of `components/public/guest-flow.tsx` that books.

The API's amounts are 64-bit; read from JSON they are the nearest doubles.

Every change of a complete stay asks for a price anew.  The answers come later, one by one, in the
order they were asked for: Next.js runs the server actions of a page one at a time.
-/

set_option autoImplicit false

namespace Sahel

namespace Web

/-! ### Prices asked for -/

/-- The arguments of `quoteStay` and of `bookStay`, beside the unit. -/
structure Ask where
  checkIn : String
  checkOut : String
  guests : ℤ
  deriving DecidableEq

/-- A quote's numbers, in doubles. -/
structure QuoteBreakdown where
  nightlyPrice : ℤ
  nightCount : ℤ
  total : ℤ
  depositDue : ℤ
  deriving DecidableEq

/-- `JSON.parse` of the API's quote. -/
def QuoteBreakdown.parse (b : Pricing.Breakdown) : QuoteBreakdown where
  nightlyPrice := Binary64.roundInt b.nightlyPrice.toInt
  nightCount := Binary64.roundInt b.nightCount
  total := Binary64.roundInt b.total.toInt
  depositDue := Binary64.roundInt b.depositDue.toInt

/-- What `quoteStay` comes back with. -/
inductive QuoteResult where
  | ok (quote : QuoteBreakdown)
  | refused (code : String)
  deriving DecidableEq

/-- `/^\d{4}-\d{2}-\d{2}$/`. -/
def isDateText (s : String) : Bool :=
  match s.toList with
  | [y₁, y₂, y₃, y₄, '-', m₁, m₂, '-', d₁, d₂] =>
    [y₁, y₂, y₃, y₄, m₁, m₂, d₁, d₂].all Char.isDigit
  | _ => false

/-- `!r.checkIn || !r.checkOut` asks for nothing. -/
def asked (r : Range) (guests : ℤ) : Option Ask :=
  match r.checkIn, r.checkOut with
  | some ci, some co => if ci = "" ∨ co = "" then none else some ⟨ci, co, guests⟩
  | _, _ => none

/-! ### The planner -/

/-- `days.set(d.date, d)`: a date that is there keeps its place. -/
def setDay (days : List CalendarDay) (d : CalendarDay) : List CalendarDay :=
  if days.any (fun e => e.date == d.date) then
    days.map (fun e => if e.date = d.date then d else e)
  else days ++ [d]

/-- What the planner holds.  `waiting` are the prices asked for and not answered yet, the oldest
first; `quoting` is true while there are any. -/
structure StayPlanner where
  days : List CalendarDay
  range : Range
  guests : ℤ
  quote : Option QuoteResult
  waiting : List Ask
  booking : Bool
  deriving DecidableEq

namespace StayPlanner

/-- The planner as the page shows it first. -/
def start (initial : List CalendarDay) (maxGuests : ℤ) : StayPlanner where
  days := initial.foldl setDay []
  range := ⟨none, none⟩
  guests := min 2 maxGuests
  quote := none
  waiting := []
  booking := false

def quoting (s : StayPlanner) : Bool := !s.waiting.isEmpty

/-- `days.get(date)?.state ?? "blocked"`. -/
def dayState (s : StayPlanner) (date : String) : String :=
  ((s.days.find? (fun d => d.date == date)).map CalendarDay.state).getD "blocked"

def isEnd (s : StayPlanner) (date : String) : Bool :=
  s.range.checkIn == some date || s.range.checkOut == some date

/-- A check-out needs no free night of its own, only a check-in does. -/
def selectable (s : StayPlanner) (date : String) : Bool :=
  match s.range.checkIn with
  | some ci =>
    if ci ≠ "" ∧ truthy s.range.checkOut = false ∧ ci < date then s.dayState date != "past"
    else s.dayState date == "free"
  | none => s.dayState date == "free"

/-- A day's button.  A blank cell of the month has none. -/
def dayEnabled (s : StayPlanner) (date : String) : Bool :=
  date != "" && (s.selectable date || s.isEnd date)

/-- `requote(r, g)`, with the stay and the guests set. -/
def requote (s : StayPlanner) : StayPlanner :=
  { s with quote := none, waiting := s.waiting ++ (asked s.range s.guests).toList }

def choose (s : StayPlanner) (date : String) : StayPlanner :=
  { s with range := rangeSelect s.range date }.requote

def changeGuests (s : StayPlanner) (g : ℤ) : StayPlanner :=
  { s with guests := g }.requote

/-- `const q = quote?.ok ? quote.quote : null`. -/
def q (s : StayPlanner) : Option QuoteBreakdown :=
  match s.quote with
  | some (.ok b) => some b
  | _ => none

/-- What a guest does, and the days that arrive as the months are paged. -/
inductive Event where
  | choose (date : String)
  | fewer
  | more
  | clear
  | loaded (days : List CalendarDay)
  /-- "Book": opens the dialog. -/
  | book
  /-- The dialog is closed. -/
  | close

/-- One event.  A button that is disabled, or not there, does nothing. -/
def step (maxGuests : ℤ) (s : StayPlanner) : Event → StayPlanner
  | .choose date => if s.dayEnabled date then s.choose date else s
  | .fewer => if s.guests ≤ 1 then s else s.changeGuests (s.guests - 1)
  | .more => if maxGuests ≤ s.guests then s else s.changeGuests (s.guests + 1)
  | .clear => if truthy s.range.checkIn then { s with range := ⟨none, none⟩, quote := none } else s
  | .loaded days => { s with days := days.foldl setDay s.days }
  | .book => if s.q.isSome ∧ s.quoting = false then { s with booking := true } else s
  | .close => { s with booking := false }

/-- `setQuote(await quoteStay(…))` for the oldest of the prices asked for. -/
def answered (s : StayPlanner) (rest : List Ask) (r : QuoteResult) : StayPlanner :=
  { s with waiting := rest, quote := some r }

/-- The states of the planner, where `answers` are the results each price can come back with. -/
inductive Reached (answers : Ask → QuoteResult → Prop) (initial : List CalendarDay) (maxGuests : ℤ) :
    StayPlanner → Prop
  | start : Reached answers initial maxGuests (start initial maxGuests)
  | step {s : StayPlanner} (h : Reached answers initial maxGuests s) (e : Event) :
      Reached answers initial maxGuests (s.step maxGuests e)
  | answered {s : StayPlanner} (h : Reached answers initial maxGuests s) {a : Ask} {rest : List Ask}
      {r : QuoteResult} (oldest : s.waiting = a :: rest) (answer : answers a r) :
      Reached answers initial maxGuests (s.answered rest r)

end StayPlanner

/-! ### The dialog -/

/-- `nightsBetween(checkIn, checkOut)`; where a date is none, no number. -/
def nightsBetween (checkIn checkOut : String) : Option ℤ := do
  let start ← dateParse checkIn
  let stop ← dateParse checkOut
  return roundDays (stop - start)

/-- What the dialog shows before it books. -/
structure StaySummary where
  slug : String
  title : String
  checkIn : String
  checkOut : String
  nights : Option ℤ
  guests : ℤ
  nightlyPrice : ℤ
  total : ℤ
  deposit : ℤ
  deriving DecidableEq

/-- The `stay` of the dialog, which is on the page once there is a price and a complete stay. -/
def StayPlanner.stay (slug title : String) (s : StayPlanner) : Option StaySummary :=
  match s.q, asked s.range s.guests with
  | some b, some a => some {
      slug := slug, title := title, checkIn := a.checkIn, checkOut := a.checkOut
      nights := nightsBetween a.checkIn a.checkOut, guests := a.guests
      nightlyPrice := b.nightlyPrice, total := b.total, deposit := b.depositDue }
  | _, _ => none

/-- The dialog, when it is open. -/
def StayPlanner.dialog (slug title : String) (s : StayPlanner) : Option StaySummary :=
  if s.booking then s.stay slug title else none

/-- The request `bookStay` sends from the dialog; a text that is no date is refused before. -/
def bookStay (d : StaySummary) : Option BookingRequest :=
  if isDateText d.checkIn ∧ isDateText d.checkOut then some ⟨d.slug, d.checkIn, d.checkOut, d.guests⟩
  else none

/-- What `quoteStay` can come back with for a unit: its own refusal of a text that is no date, the
price the API answered, or the code of a refusal. -/
inductive Quoted (srv : Server) (slug : String) (a : Ask) : QuoteResult → Prop
  | malformed (h : ¬ (isDateText a.checkIn ∧ isDateText a.checkOut)) :
      Quoted srv slug a (.refused "invalid_range")
  | priced {now : ℤ} {es : List (ReadCommitted.Event Db Oracle Stmt)} {b : Pricing.Breakdown}
      {W : List Write} (dates : isDateText a.checkIn ∧ isDateText a.checkOut)
      (ran : ReadCommitted.Ran postgres now (postQuote srv slug ⟨a.checkIn, a.checkOut, a.guests⟩) [] es
        b W) : Quoted srv slug a (.ok (.parse b))
  | refused {code : String} (dates : isDateText a.checkIn ∧ isDateText a.checkOut) :
      Quoted srv slug a (.refused code)

end Web

end Sahel

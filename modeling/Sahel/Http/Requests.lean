import Sahel.Http.Bookings
import Sahel.Http.Blocks
import Sahel.Http.Payments

/-!
# The system: every request and the program that serves it

`Req` lists the operations on units, bookings, payments and blocks, and `program` is the handler
each one runs.  Any number of them run at once, interleaved statement by statement: the states
that can be reached are `Reaches`, from rows in which nothing is booked yet.
-/

set_option autoImplicit false

namespace Sahel

open ReadCommitted KeyedTable

inductive Req where
  | getAvailability (slug fromText toText : String)
  | postQuote (slug : String) (req : QuoteRequest)
  | createBooking (guestId : ℕ) (req : BookingRequest)
  | adminCreateBooking (req : ManualBookingRequest)
  | adminCreateBlock (unitId : Option ℕ) (req : BlockRequest)
  | adminDeleteBlock (id : Option ℕ)
  | adminCancelBooking (id : Option ℕ) (reason : String)
  | expireHolds
  | uploadPayment (req : UploadRequest)
  | adminVerifyPayment (id : Option ℕ) (amount : Int64) (notes : Option String)
  | adminRejectPayment (id : Option ℕ) (reason : String)
  | adminRecordPayment (id : Option ℕ) (req : RecordRequest)

/-- What an operation answers with. -/
inductive Response where
  | calendar (days : List CalendarDay)
  | quote (b : Pricing.Breakdown)
  | booked (row : CreateBookingRow)
  | blocked (row : BlockRow)
  | booking (id : ℕ)
  | released (refs : List String)
  | done

/-- The handler of a request. -/
def program (srv : Server) : Req → Handler Response
  | .getAvailability slug f t => Response.calendar <$> getAvailability srv slug f t
  | .postQuote slug req => Response.quote <$> postQuote srv slug req
  | .createBooking guestId req => Response.booked <$> createBooking srv guestId req
  | .adminCreateBooking req => Response.booked <$> adminCreateBooking req
  | .adminCreateBlock unitId req => Response.blocked <$> adminCreateBlock unitId req
  | .adminDeleteBlock id => (fun _ => Response.done) <$> adminDeleteBlock id
  | .adminCancelBooking id reason => Response.booking <$> adminCancelBooking id reason
  | .expireHolds => Response.released <$> expireHolds.mapErr (fun _ => internalError "expire holds")
  | .uploadPayment req => (fun _ => Response.done) <$> uploadPayment req
  | .adminVerifyPayment id amount notes =>
    Response.booking <$> adminVerifyPayment id amount notes
  | .adminRejectPayment id reason => Response.booking <$> adminRejectPayment srv id reason
  | .adminRecordPayment id req => (fun _ => Response.done) <$> adminRecordPayment id req

/-- A state of the running system. -/
abbrev Sys : Type := State Db Write Lock PgError Stmt Stmt.Val Req ApiError Response

/-- The state `s'` is reached from `s` by an interleaving whose commits meet `ok`. -/
abbrev Runs (srv : Server) (ok : Db → Req → Prop) (s s' : Sys) : Prop :=
  Run postgres (program srv) ok s s'

/-- The states reached from `db₀`, with nobody connected, by any interleaving whose commits meet
`ok`. -/
abbrev Reaches (srv : Server) (ok : Db → Req → Prop) (db₀ : Db) (s : Sys) : Prop :=
  Reachable postgres (program srv) ok db₀ s

/-- The transaction of request `r` commits. -/
abbrev Commits (srv : Server) (s : Sys) (r : Req) (s' : Sys) : Prop :=
  Step postgres (program srv) s (some r) s'

/-! ### A small world

One unit, one account and Cairo in winter: the rows that the concrete runs below start from. -/

/-- Africa/Cairo outside summer time. -/
def winterCairo : Cairo where
  lookup _ := ⟨2 * 3600, -2 ^ 62, 2 ^ 62⟩
  offset_ge _ := by decide
  offset_le _ := by decide

def winterServer : Server := ⟨winterCairo, 0⟩

/-- A unit at 5,000 pounds a night with `buffer` turnover days. -/
def seaUnit (buffer : ℤ) (h : 0 ≤ buffer ∧ buffer < 2 ^ 15) : UnitRow where
  id := 1
  slug := "sea-view"
  status := .active
  nightlyPrice := some 500000
  maxGuests := 4
  bufferDays := buffer
  advanceNoticeHours := 24
  maxAdvanceDays := 60
  price_pos p hp := by
    cases hp
    decide
  guests_smallint := by decide
  buffer_check := h
  notice_check := by decide
  advance_check := by decide

def mona : CustomerRow := ⟨1, "+201012345678", "Mona", none, by decide⟩

/-- Nothing booked yet. -/
def smallWorld (buffer : ℤ) (h : 0 ≤ buffer ∧ buffer < 2 ^ 15) : Db where
  units := Table.empty.insert (seaUnit buffer h)
  customers := Table.empty.insert mona
  bookings := Table.empty
  payments := Table.empty
  blocks := Table.empty

/-- Nothing booked yet, and no turnover days. -/
def plainWorld : Db := smallWorld 0 (by decide)

/-- Nothing booked yet, and a turnover day after each stay. -/
def turnoverWorld : Db := smallWorld 1 (by decide)

theorem plainWorld_unbooked : plainWorld.Unbooked := ⟨rfl, rfl, rfl⟩

theorem turnoverWorld_unbooked : turnoverWorld.Unbooked := ⟨rfl, rfl, rfl⟩

/-- A clock at instant `t`; ids and references follow `n`. -/
def oracleAt (n : ℕ) (t : ℤ) : Oracle :=
  ⟨t, fun _ => UInt8.ofNat n, n, true, id, fun _ => List.Perm.refl _⟩

/-- The `n`-th request of a run, served at instant `t`. -/
def call (n : ℕ) (t : ℤ) (r : Req) : Req × Oracle × ℤ := (r, oracleAt n t, t)

/-- The rows after requests are served one after the other. -/
def served (db₀ : Db) (cs : List (Req × Oracle × ℤ)) : Db :=
  serveAll postgres (program winterServer) db₀ cs

theorem reaches_served {ok : Db → Req → Prop} (db₀ : Db) (cs : List (Req × Oracle × ℤ))
    (h : Allowed postgres (program winterServer) ok db₀ cs) :
    Reaches winterServer ok db₀ (State.quiet (served db₀ cs)) :=
  Run.serveAll postgres (program winterServer) cs db₀ h Run.refl

theorem reaches_served_any (db₀ : Db) (cs : List (Req × Oracle × ℤ)) :
    Reaches winterServer anyCommit db₀ (State.quiet (served db₀ cs)) :=
  reaches_served db₀ cs (allowed_anyCommit _ _ cs db₀)

/-- More requests from there on. -/
theorem runs_served {ok : Db → Req → Prop} (db : Db) (cs : List (Req × Oracle × ℤ))
    (h : Allowed postgres (program winterServer) ok db cs) :
    Runs winterServer ok (State.quiet db) (State.quiet (served db cs)) :=
  Run.serveAll postgres (program winterServer) cs db h Run.refl

/-- A request that changes something of the rows, served after others, commits. -/
theorem commits_of_ne {β : Type} {f : Db → β} {ok : Db → Req → Prop} {d : Db}
    {L : List (Req × Oracle × ℤ)} {c : Req × Oracle × ℤ}
    (hok : Allowed postgres (program winterServer) ok d L)
    (h : f (served d (L ++ [c])) ≠ f (served d L)) :
    ∃ s s', Reaches winterServer ok d s ∧ s.db = served d L ∧
      Commits winterServer s c.1 s' ∧ s'.db = served d (L ++ [c]) := by
  have happ : served d (L ++ [c]) = serve postgres (program winterServer) (served d L) c := by
    simp [served, serveAll]
  rw [happ] at h ⊢
  rcases Run.serve_commits postgres (program winterServer) c (reaches_served d L hok) with he | hc
  · exact absurd (congrArg f he) h
  · exact hc

/-- A guest's request for the small world's unit. -/
def guestBooks (checkIn checkOut : String) : Req :=
  .createBooking 1 ⟨"sea-view", checkIn, checkOut, 2⟩

/-- A receipt for the booking with reference `ref`. -/
def receipt (ref amount : String) : Req :=
  .uploadPayment ⟨ref, some 1, 2000, some ⟨"", some ⟨1000, "image/png"⟩, amount, "Mona", ""⟩⟩

/-- Noon UTC of a date. -/
def noonOf (date : ℤ) : ℤ := (date * 24 + 12) * hour

/-- The first of January 2027. -/
def newYear : ℤ := 20819

example : parseDate "2027-01-01" = some newYear := by decide

end Sahel

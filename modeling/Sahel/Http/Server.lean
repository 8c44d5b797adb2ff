import Sahel.Domain.Text
import Sahel.Domain.Pricing
import Sahel.Store.Postgres

/-!
# Handlers: errors, transactions and the query calls

A handler is a program of statements.  Its reads before the transaction, the transaction itself
and the error it answers with are one program; what it reads back after the commit to show the
result is not part of it.

* `TxError` is the Go error inside a transaction, `ApiError` the envelope a client sees;
* `Tx` is the body of `inTx`, `Handler` the whole handler; `Prog.mapErr` turns the one into the
  other;
* the calls under `Tx` are sqlc's methods: `:one` queries end with `noRows` when there is no row.
-/

set_option autoImplicit false

namespace Sahel

open ReadCommitted

/-! ### Errors -/

/-- The errors handlers and queries return. -/
inductive TxError where
  | noRows
  | pg (e : PgError)
  | rule (e : Pricing.RuleError)
  | notPayable
  | nightsTaken
  | blockClashesBooking
  | text (s : String)
  deriving DecidableEq

/-- The error envelope. -/
structure ApiError where
  status : ℕ
  code : String
  message : String
  deriving DecidableEq

def pgUniqueViolation : String := "23505"

def internalError (what : String) : ApiError := ⟨500, "internal", what ++ " request failed"⟩

def writeInvalid (message : String) : ApiError := ⟨422, "validation_failed", message⟩

def writeStoreError (what : String) : TxError → ApiError
  | .noRows => ⟨404, "not_found", what ++ " not found"⟩
  | .pg (.uniqueViolation _) =>
    ⟨409, "slug_taken", "that slug is already used by another " ++ what⟩
  | .pg (.fkViolation _) => ⟨422, "invalid_reference", "a referenced record does not exist"⟩
  | .pg (.checkViolation relation constraint) =>
    ⟨422, "validation_failed", (PgError.checkViolation relation constraint).message⟩
  | _ => internalError what

/-! ### Transactions -/

/-- The body of `inTx`. -/
abbrev Tx : Type → Type := Prog Stmt Stmt.Val PgError TxError

abbrev Handler : Type → Type := Prog Stmt Stmt.Val PgError ApiError

namespace Tx

def query (s : Stmt) : Tx s.Val := Prog.query .pg s

/-- A `:one` query. -/
def one {α : Type} (q : Tx (Option α)) : Tx α := do
  let row ← q
  Prog.require row .noRows

def now : Tx ℤ := query .now
def getPricingUnit (slug : Option String) (id : Option ℕ) (onlyActive : Bool) : Tx UnitRow :=
  one (query (.getPricingUnit slug id onlyActive))
def lockUnit (id : ℕ) : Tx ℕ := one (query (.lockUnit id))
def getCustomer (id : ℕ) : Tx CustomerRow := one (query (.getCustomer id))
def getBookingView (ref : Option String) (id : Option ℕ) : Tx BookingView :=
  one (query (.getBookingView ref id))
def cancelBooking (id : ℕ) (reason : Option String) : Tx ℕ := one (query (.cancelBooking id reason))
def lockBooking (id : ℕ) : Tx BookingRow := one (query (.lockBooking id))
def setBookingPayment (arg : SetBookingPaymentParams) : Tx PUnit := query (.setBookingPayment arg)
def lockPayment (id : ℕ) : Tx PaymentRow := one (query (.lockPayment id))

end Tx

/-! ### The server -/

structure Server where
  cairo : Cairo
  hold : ℤ

def Server.holdFor (srv : Server) : ℤ := if srv.hold > 0 then srv.hold else 2 * hour

/-- The time `d` from now, as it is stored: pgx sends whole microseconds. -/
def tsNow (d : ℤ) : Tx ℤ := do
  let t ← Tx.now
  return (t + d) / 1000 * 1000

def pricingUnit (u : UnitRow) : Pricing.Unit :=
  ⟨u.nightlyPrice.getD 0, u.maxGuests, u.advanceNoticeHours, u.maxAdvanceDays⟩

/-- The unit behind a public page. -/
def pricingUnitBySlug (slug : String) : Handler UnitRow :=
  (Tx.getPricingUnit (some slug) none true).mapErr (fun
    | .noRows => ⟨404, "not_found", "unit not found"⟩
    | _ => internalError "get unit")

/-- `parseID`: the path parameter, once read as a UUID. -/
def parseID (param : Option ℕ) (what : String) : Handler ℕ :=
  Prog.require param ⟨404, "not_found", what ++ " not found"⟩

end Sahel

import Sahel.Domain.GuestToken
import Sahel.Http.Payments
import Sahel.Store.BookingPages

/-!
# A booking's page, and who may see it

The two requests a guest makes about a booking by its reference, as they come in: with a bearer
token that may be anything.

* `guestID` is the customer a token signs in, as a text, and `signedIn` the customer with that id;
* `getBooking` is the page, `guestProgram` serves both requests.

The instant a token is checked at comes with the request.
-/

set_option autoImplicit false

namespace Sahel

open ReadCommitted

/-! ### Tokens -/

/-- What tokens are signed with: the keyed hash, the signature's encoding and the secret. -/
structure GuestAuth where
  mac : List UInt8 → List UInt8 → List UInt8
  enc : SignatureEncoding
  guestSecret : List UInt8

/-- Who asks: the bearer token, empty without one, and when it is checked. -/
structure Caller where
  token : List UInt8
  now : GoTime

/-- The signed-in customer's id, or nothing when the request has no valid guest token. -/
def GuestAuth.guestID (auth : GuestAuth) (caller : Caller) : List UInt8 :=
  let checked := verifyToken auth.mac auth.enc auth.guestSecret caller.token caller.now
  if checked.2 then checked.1 else []

/-- The value of a text of hexadecimal digits; other characters are skipped. -/
def hexValue (text : List UInt8) : ℕ :=
  text.foldl (fun n c =>
    if 48 ≤ c ∧ c ≤ 57 then 16 * n + (c.toNat - 48)
    else if 97 ≤ c ∧ c ≤ 102 then 16 * n + (c.toNat - 87)
    else n) 0

/-- The id that `uuidString` writes so. -/
def uuidOf? (text : List UInt8) : Option ℕ :=
  if text = ascii (uuidString (hexValue text)) then some (hexValue text) else none

/-- The customer a caller is signed in as. -/
def GuestAuth.signedIn (auth : GuestAuth) (caller : Caller) : Option ℕ := uuidOf? (auth.guestID caller)

/-! ### Requests -/

structure ViewRequest where
  ref : String
  caller : Caller
  phoneLast4 : String

structure PaymentRequest where
  ref : String
  caller : Caller
  contentLength : ℤ
  form : Option ReceiptForm

inductive GuestRequest where
  | getBooking (req : ViewRequest)
  | uploadPayment (req : PaymentRequest)

/-- What the guest sees of a payment: no receipt, no notes. -/
structure GuestPayment where
  status : PaymentStatus
  amount : Int64
  rejectionReason : Option String
  createdAt : ℤ

structure BookingPage where
  view : GetBookingViewRow
  payments : List GuestPayment
  instapay : InstapayAccount

inductive GuestResponse where
  | page (p : BookingPage)
  | received

/-! ### Handlers -/

abbrev PageHandler : Type → Type :=
  Prog (Stmt ⊕ PageStmt) (Sum.elim Stmt.Val PageStmt.Val) PgError ApiError

/-- A query of the page. -/
def readPage (s : PageStmt) (what : String) : PageHandler s.Val :=
  Prog.query (fun _ => internalError what) (Sum.inr s : Stmt ⊕ PageStmt)

/-- The booking, its payments and where to pay. -/
def writeGuestBooking (ref : String) : PageHandler BookingPage := do
  let row ← readPage (.bookingPage ref) "booking"
  let view ← Prog.require row (writeStoreError "booking" .noRows)
  let rows ← readPage (.listBookingPayments view.booking.id) "payments"
  let payments := rows.map (fun p =>
    GuestPayment.mk p.payment.status p.payment.amount p.payment.rejectionReason p.createdAt)
  let row ← readPage .getInstapayAccount "instapay"
  let acct ← Prog.require row (internalError "instapay")
  return ⟨view, payments, acct⟩

def getBooking (auth : GuestAuth) (req : ViewRequest) : PageHandler BookingPage := do
  let view ← (guestBooking req.ref (auth.signedIn req.caller) req.phoneLast4).lift id
  writeGuestBooking view.booking.ref

def PaymentRequest.upload (auth : GuestAuth) (req : PaymentRequest) : UploadRequest where
  ref := req.ref
  guestId := auth.signedIn req.caller
  contentLength := req.contentLength
  form := req.form

/-- The handler of a request. -/
def guestProgram (auth : GuestAuth) : GuestRequest → PageHandler GuestResponse
  | .getBooking req => GuestResponse.page <$> getBooking auth req
  | .uploadPayment req => (uploadPayment (req.upload auth)).lift (fun _ => GuestResponse.received)

example : uuidOf? (ascii "7f7c7590-bdf7-4e9d-a0bd-d182a0037680")
    = some 0x7f7c7590bdf74e9da0bdd182a0037680 := by decide +kernel

end Sahel

import Sahel.Http.Guest
import Sahel.Http.Requests
import Sahel.Library.Pool
import Sahel.Store.Accounts

/-!
# Guest accounts: signing up, and the admin's new password

`register` and `adminSetCustomerPassword` as the handlers have them.  Neither opens a transaction:
each of their statements commits on its own, beside the transactions of the bookings, of which
`adminCreateBooking` opens accounts too.

The session token of `register`'s answer is left out.
-/

set_option autoImplicit false

namespace Sahel

open ReadCommitted

def registrationsPerIP : ℕ := 10

/-- `guestauth.MinPasswordLen`. -/
def minPasswordLen : ℤ := 8

/-- `len(s)`, in bytes. -/
def byteCount (s : String) : ℕ := (s.toList.map Char.utf8Size).sum

/-- The length both handlers refuse. -/
def weakPassword (password : String) : Prop :=
  runeCount password < minPasswordLen ∨ byteCount password > 72

instance (password : String) : Decidable (weakPassword password) :=
  inferInstanceAs (Decidable (_ ∨ _))

abbrev AllAccountStmt : Type := Stmt ⊕ AccountStmt

/-- A handler that runs statement by statement. -/
abbrev AccountHandler : Type → Type :=
  Prog AllAccountStmt (Sum.elim Stmt.Val AccountStmt.Val) PgError ApiError

/-- A statement whose failure ends the handler. -/
def accountQuery (what : String) (s : AccountStmt) : AccountHandler s.Val :=
  Prog.query (fun _ => internalError what) (Sum.inr s : AllAccountStmt)

/-- A statement whose failure the handler looks at. -/
def accountAttempt (s : AccountStmt) : AccountHandler (Except PgError s.Val) :=
  Prog.attempt (Sum.inr s : AllAccountStmt)

/-- The body of a sign-up, and the address it comes from. -/
structure RegisterRequest where
  phone : String
  name : String
  password : String
  ip : String
  deriving DecidableEq

/-- `register`'s answer, once the account is created or not. -/
def registered (created : Except PgError (Option CustomerRow)) : AccountHandler GuestView :=
  match created with
  | .ok (some c) => return toGuestView (some c)
  | .ok none =>
    .throw ⟨409, "phone_taken", "this phone already has an account; sign in instead"⟩
  | .error _ => .throw (internalError "register")

/-- The account was created. -/
def accountCreated (created : Except PgError (Option CustomerRow)) : Bool :=
  match created with
  | .ok (some _) => true
  | _ => false

def register (req : RegisterRequest) : AccountHandler GuestView := do
  let phone ← Prog.require (normalizePhone req.phone.toList)
    ⟨422, "invalid_phone", "not an Egyptian mobile number"⟩
  let name := cleanName req.name
  Prog.refuse (¬ validName name) ⟨422, "invalid_name", "name must be 2 to 80 characters"⟩
  Prog.refuse (weakPassword req.password) ⟨422, "weak_password", "password must be 8 to 72 characters"⟩
  let n : ℕ ← accountQuery "register" (.countRecentRegistrations req.ip)
  Prog.refuse (n ≥ registrationsPerIP)
    ⟨429, "rate_limited", "too many new accounts from here; try again later"⟩
  let hashed : Option String ← accountQuery "register" (.hashPassword req.password)
  let hash ← Prog.require hashed (internalError "register")
  let created : Except PgError (Option CustomerRow) ←
    accountAttempt (.createCustomer ⟨phone, name, some hash⟩)
  let _ ← accountAttempt (.recordAuthAttempt .register phone req.ip (accountCreated created))
  registered created

/-- `adminSetCustomerPassword`: how a guest who forgot their password gets back in. -/
def adminSetCustomerPassword (param : Option ℕ) (password : String) : AccountHandler PUnit := do
  let id ← Prog.require param ⟨404, "not_found", "customer not found"⟩
  Prog.refuse (weakPassword password) (writeInvalid "password must be 8 to 72 characters")
  let hashed : Option String ← accountQuery "set password" (.hashPassword password)
  let hash ← Prog.require hashed (internalError "set password")
  let n : ℕ ← accountQuery "set password" (.setCustomerPassword id (some hash))
  Prog.refuse (n = 0) ⟨404, "not_found", "customer not found"⟩

inductive AccountRequest where
  | register (req : RegisterRequest)
  | adminSetCustomerPassword (id : Option ℕ) (password : String)
  deriving DecidableEq

/-- What they answer with: 201 and the guest, or 204. -/
inductive AccountResponse where
  | signedIn (customer : GuestView)
  | noContent

def accountProgram : AccountRequest → AccountHandler AccountResponse
  | .register req => AccountResponse.signedIn <$> register req
  | .adminSetCustomerPassword id password =>
    (fun _ => AccountResponse.noContent) <$> adminSetCustomerPassword id password

/-- A request of the bookings, on the larger database. -/
def wholeProgram (srv : Server) (r : Req) : AccountHandler Response := (program srv r).lift id

/-- A state of the system while accounts are opened. -/
abbrev AccountPool : Type :=
  Pool.State AccountDb (Write ⊕ AccountWrite) (Lock ⊕ Empty) PgError AllAccountStmt
    (Sum.elim Stmt.Val AccountStmt.Val) Req AccountRequest ApiError ApiError Response AccountResponse

/-- A call of a handler that runs statement by statement. -/
abbrev AccountCall : Type :=
  Pool.Call PgError AllAccountStmt (Sum.elim Stmt.Val AccountStmt.Val) AccountRequest ApiError
    AccountResponse

end Sahel

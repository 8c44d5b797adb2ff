import Sahel.Store.AuthAttempts
import Sahel.Http.Server

/-!
# Guest accounts: signing in

`login` as the handler has it.  It opens no transaction: each of its statements commits on its own.
The session token of the answer is left out.
-/

set_option autoImplicit false

namespace Sahel

open ReadCommitted

def failedLoginsPerPhone : ℕ := 10

def failedLoginsPerIP : ℕ := 30

/-- A handler of the guest routes. -/
abbrev GuestHandler : Type → Type := Prog GuestStmt GuestStmt.Val PgError ApiError

/-- A customer as the API returns it: never the password hash. -/
structure GuestView where
  id : ℕ
  phone : String
  name : String
  deriving DecidableEq

/-- Of the zero value when there is no row. -/
def toGuestView (c : Option CustomerRow) : GuestView :=
  match c with
  | some c => ⟨c.id, c.phone, c.name⟩
  | none => ⟨0, "", ""⟩

/-- The body of a sign-in, and the address it comes from. -/
structure LoginRequest where
  phone : String
  password : String
  ip : String
  deriving DecidableEq

/-- A malformed phone is treated like a wrong one. -/
def LoginRequest.normalPhone (req : LoginRequest) : String :=
  (normalizePhone req.phone.toList).getD ""

def rateLimited : ApiError := ⟨429, "rate_limited", "too many failed sign-ins; try again later"⟩

def invalidCredentials : ApiError :=
  ⟨401, "invalid_credentials", "that phone number or password is wrong"⟩

/-- The count lets the sign-in through. -/
def CountFailedLoginsRow.passes (fails : CountFailedLoginsRow) : Prop :=
  ¬ (fails.byPhone ≥ failedLoginsPerPhone ∨ fails.byIp ≥ failedLoginsPerIP)

instance (fails : CountFailedLoginsRow) : Decidable fails.passes :=
  inferInstanceAs (Decidable (¬ _))

/-- A statement whose failure ends the sign-in. -/
def loginQuery (s : GuestStmt) : GuestHandler s.Val := Prog.query (fun _ => internalError "login") s

/-- `login` from the password check on.  A failure to record the attempt is ignored. -/
def checkLogin (req : LoginRequest) (c : Option CustomerRow) : GuestHandler GuestView := do
  let hash := (c.bind CustomerRow.passwordHash).getD ""
  let ok : Bool ← loginQuery (.checkPassword hash req.password)
  let _ ← Prog.attempt (.recordAuthAttempt .login req.normalPhone req.ip ok)
  Prog.refuse (ok = false) invalidCredentials
  return toGuestView c

/-- `login` from the reading of the customer on; no row is no error. -/
def readLogin (req : LoginRequest) : GuestHandler GuestView := do
  let c : Option CustomerRow ← loginQuery (.getCustomerByPhone req.normalPhone)
  checkLogin req c

def login (req : LoginRequest) : GuestHandler GuestView := do
  let fails : CountFailedLoginsRow ← loginQuery (.countFailedLogins req.normalPhone req.ip)
  Prog.refuse (¬ fails.passes) rateLimited
  readLogin req

end Sahel

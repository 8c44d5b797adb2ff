import Sahel.Library.ReadCommitted
import Sahel.Store.Schema
import Sahel.Domain.Calendar

/-!
# Signing in: the table of attempts and its queries

* `AuthAttemptRow` is a row of `auth_attempts`, kept in the order of insertion;
* `countFailedLogins` counts the recent failures of a phone and of an address;
* `checkPassword` is the password check.  It is no statement, but it takes its own time between two
  of them, so that it stands among them here; comparing a password with a bcrypt hash is a
  parameter;
* `guestStore` is the database as signing in sees it: customers and attempts.

Every one of these statements is its own transaction, so that `now()` is the instant it runs.
-/

set_option autoImplicit false

namespace Sahel

open KeyedTable ReadCommitted

/-! ### Rows -/

inductive AuthKind where
  | login
  | register
  deriving DecidableEq, Repr

/-- A row of `auth_attempts`. -/
structure AuthAttemptRow where
  kind : AuthKind
  phone : String
  ip : String
  ok : Bool
  createdAt : ℤ
  deriving DecidableEq

structure GuestDb where
  customers : Table ℕ CustomerRow CustomerRow.id
  attempts : List AuthAttemptRow

/-- Inserting an attempt; whatever else happens to the customers. -/
inductive GuestWrite where
  | insertAttempt (a : AuthAttemptRow)
  | setCustomers (t : Table ℕ CustomerRow CustomerRow.id)

def GuestDb.apply (db : GuestDb) : GuestWrite → GuestDb
  | .insertAttempt a => { db with attempts := db.attempts ++ [a] }
  | .setCustomers t => { db with customers := t }

/-! ### Queries -/

def minute : ℤ := 60 * 1000000000

/-- The span in which failures of a phone count. -/
def phoneWindow : ℤ := 15 * minute

/-- A sign-in that failed. -/
def AuthAttemptRow.failedLogin (a : AuthAttemptRow) : Bool := decide (a.kind = .login) && !a.ok

structure CountFailedLoginsRow where
  byPhone : ℕ
  byIp : ℕ
  deriving DecidableEq

/-- `COUNT(*) FILTER …`, over the failed logins of the phone or the address. -/
def countFailedLogins (phone ip : String) (now : ℤ) (db : GuestDb) : CountFailedLoginsRow :=
  let rows := db.attempts.filter (fun a => a.failedLogin && (decide (a.phone = phone) ||
    decide (a.ip = ip)))
  ⟨rows.countP (fun a => decide (a.phone = phone ∧ a.createdAt > now - phoneWindow)),
    rows.countP (fun a => decide (a.ip = ip ∧ a.createdAt > now - hour))⟩

def getCustomerByPhone (phone : String) (db : GuestDb) : Option CustomerRow :=
  db.customers.rows.find? (fun c => decide (c.phone = phone))

/-- `guestauth.CheckPassword`; an empty hash always fails. -/
def checkPassword (compareHashAndPassword : String → String → Bool) (hash password : String) : Bool :=
  if hash = "" then false else compareHashAndPassword hash password

inductive GuestStmt where
  | countFailedLogins (phone ip : String)
  | getCustomerByPhone (phone : String)
  | checkPassword (hash password : String)
  | recordAuthAttempt (kind : AuthKind) (phone ip : String) (ok : Bool)
  deriving DecidableEq

def GuestStmt.Val : GuestStmt → Type
  | .countFailedLogins _ _ => CountFailedLoginsRow
  | .getCustomerByPhone _ => Option CustomerRow
  | .checkPassword _ _ => Bool
  | .recordAuthAttempt _ _ _ _ => PUnit

variable (compareHashAndPassword : String → String → Bool)

def GuestStmt.eval : (s : GuestStmt) → Unit → ℤ → GuestDb →
    Except PgError (s.Val × List GuestWrite)
  | .countFailedLogins phone ip, _, now, db => .ok (Sahel.countFailedLogins phone ip now db, [])
  | .getCustomerByPhone phone, _, _, db => .ok (Sahel.getCustomerByPhone phone db, [])
  | .checkPassword hash password, _, _, _ =>
    .ok (Sahel.checkPassword compareHashAndPassword hash password, [])
  | .recordAuthAttempt kind phone ip ok, _, now, _ =>
    .ok (⟨⟩, [.insertAttempt ⟨kind, phone, ip, ok, now⟩])

/-- None of the statements takes a lock that another would wait for. -/
def guestStore : Database GuestDb GuestWrite Empty PgError Unit GuestStmt GuestStmt.Val where
  apply := GuestDb.apply
  eval := GuestStmt.eval compareHashAndPassword
  locks := fun _ _ _ _ => []
  conflict := fun _ _ => false
  conflict_comm := fun _ _ => rfl
  aborted := .inFailedTransaction

end Sahel

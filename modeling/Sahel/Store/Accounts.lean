import Sahel.Library.Extension
import Sahel.Store.AuthAttempts
import Sahel.Store.Postgres

/-!
# Guest accounts: the statements that open one and set its password

Beside the tables of the bookings stands `auth_attempts`, in the order of insertion.

* `createCustomer` opens an account for a phone, or claims the one that is there without a password;
  a row of the conflict is locked and read again before it is changed, which is what the lock on the
  phone says;
* `setCustomerPassword` finds its row by id and locks it: the row's lock stands as its phone's;
* `hashPassword` is no statement, but takes its own time between two of them, so that it stands among
  them here; hashing with a salt is a parameter.
-/

set_option autoImplicit false

namespace Sahel

open KeyedTable ReadCommitted

/-- The tables of the bookings, and the attempts. -/
abbrev AccountDb : Type := Db × List AuthAttemptRow

inductive AccountWrite where
  | insertAttempt (a : AuthAttemptRow)
  | insertCustomer (c : CustomerRow)
  | setCustomer (c : CustomerRow)

def AccountWrite.apply (d : AccountDb) : AccountWrite → AccountDb
  | .insertAttempt a => (d.1, d.2 ++ [a])
  | .insertCustomer c => (d.1.apply (.insertCustomer c), d.2)
  | .setCustomer c => (d.1.apply (.setCustomer c), d.2)

structure CreateCustomerParams where
  phone : String
  name : String
  passwordHash : Option String
  deriving DecidableEq

namespace Queries

def countRecentRegistrations (ip : String) (now : ℤ) (attempts : List AuthAttemptRow) : ℕ :=
  attempts.countP (fun a => decide (a.kind = .register ∧ a.ip = ip ∧ a.createdAt > now - hour))

/-- A phone that exists without a password is claimed; one with a password is taken, and there is no
row to return. -/
def createCustomer (arg : CreateCustomerParams) (id : ℕ) (db : Db) :
    Except PgError (Option CustomerRow × List AccountWrite) :=
  if h : phoneOk arg.phone then
    match db.customers.rows.find? (fun c => decide (c.phone = arg.phone)) with
    | some c =>
      if c.passwordHash = none then
        let c' := { c with name := arg.name, passwordHash := arg.passwordHash }
        .ok (some c', [.setCustomer c'])
      else .ok (none, [])
    | none =>
      if (db.customers.find? id).isSome then .error (.uniqueViolation "customers_pkey")
      else
        let c : CustomerRow := ⟨id, arg.phone, arg.name, arg.passwordHash, h⟩
        .ok (some c, [.insertCustomer c])
  else .error (.checkViolation "customers" "customers_phone_check")

/-- The rows changed. -/
def setCustomerPassword (id : ℕ) (passwordHash : Option String) (db : Db) : ℕ × List AccountWrite :=
  match db.customers.find? id with
  | some c => (1, [.setCustomer { c with passwordHash := passwordHash }])
  | none => (0, [])

end Queries

inductive AccountStmt where
  | hashPassword (password : String)
  | countRecentRegistrations (ip : String)
  | createCustomer (arg : CreateCustomerParams)
  | recordAuthAttempt (kind : AuthKind) (phone ip : String) (ok : Bool)
  | setCustomerPassword (id : ℕ) (passwordHash : Option String)
  deriving DecidableEq

@[reducible] def AccountStmt.Val : AccountStmt → Type
  | .hashPassword _ => Option String
  | .countRecentRegistrations _ => ℕ
  | .createCustomer _ => Option CustomerRow
  | .recordAuthAttempt _ _ _ _ => PUnit
  | .setCustomerPassword _ _ => ℕ

variable (hashPassword : ℕ → String → Option String)

/-- The salt of a hash is drawn like an id. -/
def AccountStmt.eval : (s : AccountStmt) → Oracle → ℤ → AccountDb →
    Except PgError (s.Val × List AccountWrite)
  | .hashPassword password, o, _, _ => .ok (hashPassword o.uuid password, [])
  | .countRecentRegistrations ip, _, now, d => .ok (Queries.countRecentRegistrations ip now d.2, [])
  | .createCustomer arg, o, _, d => Queries.createCustomer arg o.uuid d.1
  | .recordAuthAttempt kind phone ip ok, _, now, _ =>
    .ok (⟨⟩, [.insertAttempt ⟨kind, phone, ip, ok, now⟩])
  | .setCustomerPassword id passwordHash, _, _, d =>
    .ok (Queries.setCustomerPassword id passwordHash d.1)

/-- The lock of a customer's row is the one of its phone. -/
def AccountStmt.locks : AccountStmt → Oracle → ℤ → AccountDb → List (Lock ⊕ Empty)
  | .createCustomer arg, o, _, _ => [.inl (.phone arg.phone), .inl (.customer o.uuid)]
  | .setCustomerPassword id _, _, _, d =>
    match d.1.customers.find? id with
    | some c => [.inl (.phone c.phone)]
    | none => []
  | _, _, _, _ => []

theorem AccountStmt.locks_setCustomerPassword {id : ℕ} (passwordHash : Option String) (o : Oracle)
    (now : ℤ) {d : AccountDb} {c : CustomerRow} (hc : d.1.customers.find? id = some c) :
    (AccountStmt.setCustomerPassword id passwordHash).locks o now d = [.inl (.phone c.phone)] := by
  simp only [AccountStmt.locks, hc]

def accounts : Extra postgres (List AuthAttemptRow) AccountWrite Empty AccountStmt AccountStmt.Val where
  apply := AccountWrite.apply
  eval := AccountStmt.eval hashPassword
  locks := AccountStmt.locks
  conflict := fun _ _ => false
  conflict_comm := fun _ _ => rfl

end Sahel

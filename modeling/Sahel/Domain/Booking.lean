import Mathlib.Data.Int.Notation
import Mathlib.Data.Nat.Notation
import Mathlib.Data.List.Basic

/-!
# The booking entity: states, payments and references

The pure rules of the booking package:

* `Status` is the canonical enum and `occupying` the statuses whose booking owns its dates, the
  same five names as the exclusion constraint and the overlap queries use;
* `afterUpload`, `afterVerified` and `afterRejected` are what a receipt does to a booking.  Money
  is int64 and wraps as Go's does; the rejection counter is a Go `int`;
* `newRef` turns five random bytes into a reference.
-/

set_option autoImplicit false

namespace Sahel

/-! ### Statuses -/

/-- The canonical booking enum.  There is no "hold" and no "rejected". -/
inductive Status where
  | draft
  | pendingPayment
  | awaitingVerification
  | confirmed
  | checkedIn
  | completed
  | expired
  | cancelled
  | refundPending
  | refunded
  deriving DecidableEq, Repr

/-- Every status whose booking owns its dates. -/
def occupying : List Status :=
  [.pendingPayment, .awaitingVerification, .confirmed, .checkedIn, .completed]

/-- Whether a booking in this status holds its dates against every other booking. -/
def Status.Occupies (s : Status) : Prop := s ∈ occupying

instance (s : Status) : Decidable s.Occupies := inferInstanceAs (Decidable (s ∈ occupying))

/-! ### What a receipt does -/

/-- The second rejected receipt cancels the booking. -/
def maxPaymentRejections : ℤ := 2

/-- The part of a booking that payments move. -/
structure PaymentState where
  status : Status
  depositDue : Int64
  paidTotal : Int64
  rejections : ℤ
  deriving DecidableEq

/-- The status once a guest uploads a receipt; `none` is `ErrNotPayable`. -/
def afterUpload : Status → Option Status
  | .pendingPayment => some .awaitingVerification
  | .awaitingVerification => some .awaitingVerification
  | _ => none

/-- Adds a verified amount and confirms the booking once the deposit is covered. -/
def afterVerified (s : PaymentState) (amount : Int64) : PaymentState :=
  let s := { s with paidTotal := s.paidTotal + amount }
  if s.paidTotal ≥ s.depositDue ∧ (s.status = .pendingPayment ∨ s.status = .awaitingVerification)
  then { s with status := .confirmed }
  else s

/-- Counts a rejected receipt: the second one cancels; otherwise, with no other receipt waiting,
the guest gets a fresh hold (`true`) to pay again. -/
def afterRejected (s : PaymentState) (otherPending : ℤ) : PaymentState × Bool :=
  let s := { s with rejections := s.rejections + 1 }
  if s.rejections ≥ maxPaymentRejections then ({ s with status := .cancelled }, false)
  else if otherPending = 0 ∧ s.status = .awaitingVerification then
    ({ s with status := .pendingPayment }, true)
  else (s, false)

/-- An uploaded receipt is only taken while the booking waits for money, and leaves it waiting
for the admin. -/
theorem afterUpload_eq_some {s t : Status} (h : afterUpload s = some t) :
    (s = .pendingPayment ∨ s = .awaitingVerification) ∧ t = .awaitingVerification := by
  cases s <;> simp_all [afterUpload]

@[simp] theorem afterVerified_paidTotal (s : PaymentState) (amount : Int64) :
    (afterVerified s amount).paidTotal = s.paidTotal + amount := by
  simp only [afterVerified]
  split <;> rfl

/-- A verified amount confirms a waiting booking whose deposit it covers and moves no other
status. -/
theorem afterVerified_status (s : PaymentState) (amount : Int64) :
    (afterVerified s amount).status =
      if s.paidTotal + amount ≥ s.depositDue ∧
          (s.status = .pendingPayment ∨ s.status = .awaitingVerification)
      then .confirmed else s.status := by
  simp only [afterVerified]
  split <;> rfl

/-- The three outcomes of a rejection. -/
theorem afterRejected_cases (s : PaymentState) (n : ℤ) :
    (2 ≤ s.rejections + 1 ∧
      afterRejected s n = ({ s with rejections := s.rejections + 1, status := .cancelled }, false)) ∨
    (s.rejections + 1 < 2 ∧ n = 0 ∧ s.status = .awaitingVerification ∧
      afterRejected s n
        = ({ s with rejections := s.rejections + 1, status := .pendingPayment }, true)) ∨
    (s.rejections + 1 < 2 ∧ ¬ (n = 0 ∧ s.status = .awaitingVerification) ∧
      afterRejected s n = ({ s with rejections := s.rejections + 1 }, false)) := by
  simp only [afterRejected, maxPaymentRejections]
  split
  · rename_i h
    exact Or.inl ⟨h, rfl⟩
  · rename_i h
    have h' : s.rejections + 1 < 2 := by omega
    split
    · rename_i hc
      exact Or.inr (Or.inl ⟨h', hc.1, hc.2, rfl⟩)
    · rename_i hc
      exact Or.inr (Or.inr ⟨h', hc, rfl⟩)

/-! ### References -/

def refPrefix : String := "BES-"

/-- Base32 without I, L, O and U. -/
def crockford : String := "0123456789ABCDEFGHJKMNPQRSTVWXYZ"

/-- `BES-` plus a Crockford character for each of five random bytes. -/
def newRef (buf : Fin 5 → UInt8) : String :=
  refPrefix ++ String.ofList
    ((List.ofFn buf).map (fun b => crockford.toList.getD (b % 32).toNat '0'))

end Sahel

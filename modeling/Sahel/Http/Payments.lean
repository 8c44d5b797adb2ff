import Sahel.Http.Server

/-!
# Payments

The handlers of payments.go that move money:

* `uploadPayment`: a guest sends a receipt, found by owner or by reference and phone digits;
* `adminVerifyPayment` and `adminRejectPayment`: an admin checks it, locking the payment first
  and the booking after it;
* `adminRecordPayment`: money that arrived without a receipt;
* `settle`: one verified amount applied to a locked booking.
-/

set_option autoImplicit false

namespace Sahel

open ReadCommitted

def maxProofBytes : ℤ := 10 * 2 ^ 20

/-- The receipt types taken, and their file extensions. -/
def proofExt (mime : String) : Option String :=
  if mime = "image/jpeg" then some "jpg"
  else if mime = "image/png" then some "png"
  else if mime = "image/webp" then some "webp"
  else if mime = "application/pdf" then some "pdf"
  else none

/-- `uuidString`: 8-4-4-4-12 lowercase hexadecimal digits. -/
def uuidString (id : ℕ) : String :=
  let d := (Nat.toDigits 16 id).leftpad 32 '0'
  let part (i n : ℕ) : String := String.ofList ((d.drop i).take n)
  part 0 8 ++ "-" ++ part 8 4 ++ "-" ++ part 12 4 ++ "-" ++ part 16 4 ++ "-" ++ part 20 12

def errNotPayable : String := "this booking is not waiting for a payment"

/-- `booking.AfterUpload` with its error. -/
def payable (s : Status) : Except TxError Status :=
  match afterUpload s with
  | some next => .ok next
  | none => .error .notPayable

/-! ### The guest's receipt -/

/-- An uploaded file: its size and the type its first bytes show. -/
structure Upload where
  size : ℤ
  mime : String

/-- The multipart form of a receipt. -/
structure ReceiptForm where
  phoneLast4 : String
  file : Option Upload
  amount : String
  senderName : String
  senderNumber : String

/-- A receipt request: the reference of its URL, who is signed in, and its body; `form` is `none`
when the body is no multipart form. -/
structure UploadRequest where
  ref : String
  guestId : Option ℕ
  contentLength : ℤ
  form : Option ReceiptForm

/-- Whether the caller may see a booking: its owner, or anyone with the last 4 digits of the
guest's phone. -/
def MaySee (guestId : Option ℕ) (last4 : String) (view : BookingView) : Prop :=
  guestId = some view.booking.customerId
    ∨ (last4.utf8ByteSize = 4 ∧ last4.toList <:+ view.customer.phone.toList)

instance (guestId : Option ℕ) (last4 : String) (view : BookingView) :
    Decidable (MaySee guestId last4 view) := inferInstanceAs (Decidable (_ ∨ _))

/-- Finds a booking the caller may see. -/
def guestBooking (ref : String) (guestId : Option ℕ) (last4 : String) : Handler BookingView := do
  let view ← (Tx.getBookingView (some (toUpper ref)) none).mapErr (fun
    | .noRows => ⟨404, "not_found", "booking not found"⟩
    | _ => internalError "booking")
  Prog.refuse (¬ MaySee guestId last4 view) ⟨404, "not_found", "booking not found"⟩
  return view

/-- The amount a guest typed, or the deposit when it is no positive number. -/
def receiptAmount (typed : String) (depositDue : Int64) : Int64 :=
  match parseInt64 (trimSpace typed) with
  | some a => if a > 0 then Int64.ofInt a else depositDue
  | none => depositDue

def uploadError : TxError → ApiError
  | .notPayable => ⟨409, "not_payable", errNotPayable⟩
  | _ => internalError "record receipt"

/-- What an upload sets: the booking waits for an admin and its hold stops running. -/
def receiptParams (b : BookingRow) (next : Status) : SetBookingPaymentParams where
  id := b.id
  status := next
  paidTotal := b.paidTotal
  paymentRejectionCount := b.paymentRejectionCount
  holdExpiresAt := none
  cancelReason := none

/-- The transaction of an upload. -/
def recordReceipt (bookingId : ℕ) (amount : Int64) (senderName senderNumber key mime : String) :
    Tx PUnit := do
  let b ← Tx.lockBooking bookingId
  let next ← Prog.check (payable b.status) id
  let _ ← Tx.query (.createPayment {
    bookingId := b.id, status := .pending, amount := amount, senderName := senderName
    senderNumber := senderNumber, proofKey := some key, proofType := some mime, notes := none
    recordedBy := "guest", verifiedAt := none })
  Tx.setBookingPayment (receiptParams b next)

/-- Takes a receipt from the guest. -/
def uploadPayment (req : UploadRequest) : Handler PUnit := do
  Prog.refuse (req.contentLength > maxProofBytes + 2 ^ 20)
    ⟨413, "file_too_large", "receipts are limited to 10 MB"⟩
  let form ← Prog.require req.form
    ⟨400, "invalid_upload", "expected a multipart form with the receipt"⟩
  let view ← guestBooking req.ref req.guestId form.phoneLast4
  let b := view.booking
  let _ ← Prog.check (payable b.status) (fun _ => ⟨409, "not_payable", errNotPayable⟩)
  let t ← Tx.now.mapErr (fun _ => internalError "booking")
  Prog.refuse (b.status = .pendingPayment ∧ ∃ hold ∈ b.holdExpiresAt, t > hold)
    ⟨409, "hold_expired", "the time to pay ran out and the dates were released"⟩
  let file ← Prog.require form.file ⟨400, "invalid_upload", "expected a file field named \"file\""⟩
  Prog.refuse (file.size > maxProofBytes) ⟨413, "file_too_large", "receipts are limited to 10 MB"⟩
  let ext ← Prog.require (proofExt file.mime)
    ⟨415, "unsupported_media_type", "send a photo (JPEG, PNG, WebP) or a PDF of the receipt"⟩
  let amount := receiptAmount form.amount b.depositDue
  let senderName := trimSpace form.senderName
  let senderNumber := trimSpace form.senderNumber
  Prog.refuse (senderName = "" ∨ runeCount senderName > 120 ∨ runeCount senderNumber > 60)
    ⟨422, "sender_required", "add the name the transfer was sent from"⟩
  let uuid ← (Tx.query .newUUID).mapErr (fun _ => internalError "receipt")
  let key := "proofs/" ++ uuidString b.id ++ "/" ++ uuidString uuid ++ "." ++ ext
  let _ ← (Tx.query (.putPrivate key file.mime)).mapErr (fun _ => internalError "store receipt")
  (recordReceipt b.id amount senderName senderNumber key file.mime).mapErr uploadError

/-! ### The admin's checks -/

/-- What settling an amount sets; a confirmed booking has no hold. -/
def settleParams (b : BookingRow) (amount : Int64) : SetBookingPaymentParams :=
  let next := afterVerified ⟨b.status, b.depositDue, b.paidTotal, 0⟩ amount
  { id := b.id
    status := next.status
    paidTotal := next.paidTotal
    paymentRejectionCount := b.paymentRejectionCount
    holdExpiresAt := if next.status = .confirmed then none else b.holdExpiresAt
    cancelReason := none }

/-- Applies one verified amount to a booking inside a transaction. -/
def settle (bookingId : ℕ) (amount : Int64) : Tx PUnit := do
  let b ← Tx.lockBooking bookingId
  Tx.setBookingPayment (settleParams b amount)

/-- The error of a payment action. -/
def paymentActionError : TxError → ApiError
  | .text _ => ⟨409, "already_checked", "this payment was already verified or rejected"⟩
  | .pg (.exclusionViolation _) =>
    ⟨409, "dates_taken", "the dates were booked by someone else meanwhile"⟩
  | e => writeStoreError "payment" e

/-- Verifies a receipt for an amount; answers with its booking. -/
def adminVerifyPayment (param : Option ℕ) (amount : Int64) (notes : Option String) :
    Handler ℕ := do
  let id ← parseID param "payment"
  Prog.refuse (amount ≤ 0) (writeInvalid "amount must be more than 0")
  Prog.mapErr paymentActionError (do
    let p ← Tx.lockPayment id
    Prog.refuse (p.status ≠ .pending) (.text "already checked")
    let _ ← Tx.query (.verifyPayment id amount notes)
    let _ ← settle p.bookingId amount
    return p.bookingId)

/-- What a rejection does to a booking with `others` more receipts waiting. -/
def rejection (b : BookingRow) (others : ℕ) : PaymentState × Bool :=
  afterRejected ⟨b.status, b.depositDue, b.paidTotal, b.paymentRejectionCount.toInt⟩ others

/-- The three outcomes of a rejection. -/
theorem rejection_cases (b : BookingRow) (others : ℕ) :
    (maxPaymentRejections ≤ b.paymentRejectionCount.toInt + 1 ∧ rejection b others
      = (⟨.cancelled, b.depositDue, b.paidTotal, b.paymentRejectionCount.toInt + 1⟩, false)) ∨
    (b.paymentRejectionCount.toInt + 1 < maxPaymentRejections ∧ others = 0 ∧
      b.status = .awaitingVerification ∧ rejection b others
        = (⟨.pendingPayment, b.depositDue, b.paidTotal, b.paymentRejectionCount.toInt + 1⟩, true)) ∨
    (b.paymentRejectionCount.toInt + 1 < maxPaymentRejections ∧
      ¬ (others = 0 ∧ b.status = .awaitingVerification) ∧ rejection b others
        = (⟨b.status, b.depositDue, b.paidTotal, b.paymentRejectionCount.toInt + 1⟩, false)) := by
  have h := afterRejected_cases
    ⟨b.status, b.depositDue, b.paidTotal, b.paymentRejectionCount.toInt⟩ others
  simp only [Int.natCast_eq_zero] at h
  exact h

/-- What a rejection sets. -/
def rejectParams (b : BookingRow) (next : PaymentState) (hold : Option ℤ) (reason : String) :
    SetBookingPaymentParams where
  id := b.id
  status := next.status
  paidTotal := b.paidTotal
  paymentRejectionCount := Int16.ofInt next.rejections
  holdExpiresAt := hold
  cancelReason := some ("payment rejected twice: " ++ reason)

/-- The hold after a rejection: a fresh one if the guest may pay again. -/
def rejectHold (srv : Server) (b : BookingRow) (newHold : Bool) : Tx (Option ℤ) :=
  if newHold then do
    let t ← tsNow srv.holdFor
    return some t
  else return b.holdExpiresAt

/-- Rejects a receipt with a reason for the guest; answers with its booking. -/
def adminRejectPayment (srv : Server) (param : Option ℕ) (typed : String) : Handler ℕ := do
  let id ← parseID param "payment"
  let reason := trimSpace typed
  Prog.refuse (reason = "" ∨ runeCount reason > 300)
    (writeInvalid "give the guest a reason (up to 300 characters)")
  Prog.mapErr paymentActionError (do
    let p ← Tx.lockPayment id
    Prog.refuse (p.status ≠ .pending) (.text "already checked")
    let _ ← Tx.query (.rejectPayment id (some reason))
    let b ← Tx.lockBooking p.bookingId
    let others ← Tx.query (.countPendingPaymentsForBooking b.id)
    let hold ← rejectHold srv b (rejection b others).2
    let _ ← Tx.setBookingPayment (rejectParams b (rejection b others).1 hold reason)
    return p.bookingId)

structure RecordRequest where
  amount : Int64
  senderName : String
  notes : Option String

def recordError : TxError → ApiError
  | .notPayable => ⟨409, "not_payable", errNotPayable⟩
  | e => writeStoreError "booking" e

/-- The statuses money may be recorded on. -/
def recordable : List Status := [.pendingPayment, .awaitingVerification, .confirmed]

/-- Records money that arrived without a receipt upload: verified straight away. -/
def adminRecordPayment (param : Option ℕ) (req : RecordRequest) : Handler PUnit := do
  let id ← parseID param "booking"
  Prog.refuse (req.amount ≤ 0) (writeInvalid "amount must be more than 0")
  Prog.mapErr recordError (do
    let b ← Tx.lockBooking id
    Prog.refuse (b.status ∉ recordable) .notPayable
    let t ← tsNow 0
    let _ ← Tx.query (.createPayment {
      bookingId := b.id, status := .verified, amount := req.amount
      senderName := trimSpace req.senderName, senderNumber := "", proofKey := none
      proofType := none, notes := req.notes, recordedBy := "admin", verifiedAt := some t })
    settle b.id req.amount)

end Sahel

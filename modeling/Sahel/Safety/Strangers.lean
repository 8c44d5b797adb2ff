import Sahel.Http.BookingPages
import Sahel.Library.TwoRuns
import Sahel.Model.World
import Sahel.Safety.Tokens
import Mathlib.Data.String.Basic

/-!
# Strangers

A booking does not exist for a caller who is neither its customer nor knows the end of the
customer's phone.

* `SameBut` relates databases that differ in the bookings of one reference only, `Stranger` is who
  may see none of them;
* `uploadPayment_denied` finds every early exit of an upload in front of the check;
* `upload_alike`: a receipt for another booking is taken, or refused, alike;
* **`booking_hidden`**.
-/

set_option autoImplicit false

namespace Sahel

open ReadCommitted KeyedTable

/-! ### Databases and callers -/

/-- Databases that differ only in the bookings with reference `R`, their payments and the customers
who have no other booking. -/
structure SameBut (R : String) (d d' : PageRows) : Prop where
  bookings : d.1.bookings.rows.filter (fun b => decide (b.ref ≠ R))
    = d'.1.bookings.rows.filter (fun b => decide (b.ref ≠ R))
  customers : ∀ b ∈ d.1.bookings.rows, b.ref ≠ R →
    d.1.customers.find? b.customerId = d'.1.customers.find? b.customerId
  payments : ∀ b ∈ d.1.bookings.rows, b.ref ≠ R →
    d.1.payments.rows.filter (fun p => decide (p.bookingId = b.id))
      = d'.1.payments.rows.filter (fun p => decide (p.bookingId = b.id))
  bookingCreatedAt : ∀ b ∈ d.1.bookings.rows, b.ref ≠ R →
    d.2.bookingCreatedAt b.id = d'.2.bookingCreatedAt b.id
  paymentCreatedAt : ∀ b ∈ d.1.bookings.rows, b.ref ≠ R → ∀ p ∈ d.1.payments.rows,
    p.bookingId = b.id → d.2.paymentCreatedAt p.id = d'.2.paymentCreatedAt p.id
  units : d.1.units = d'.1.units
  catalogue : d.2.catalogue = d'.2.catalogue
  coverUrl : d.2.coverUrl = d'.2.coverUrl
  instapay : d.2.instapay = d'.2.instapay

namespace GuestRequest

/-- The reference in the path, as it is typed. -/
def ref : GuestRequest → String
  | .getBooking req => req.ref
  | .uploadPayment req => req.ref

def caller : GuestRequest → Caller
  | .getBooking req => req.caller
  | .uploadPayment req => req.caller

/-- `phone_last4`; a body that is no form has none. -/
def phoneLast4? : GuestRequest → Option String
  | .getBooking req => some req.phoneLast4
  | .uploadPayment req => req.form.map ReceiptForm.phoneLast4

end GuestRequest

/-- The last four characters of a phone. -/
def lastFour (phone : String) : List Char := phone.toList.drop (phone.toList.length - 4)

/-- The caller is not signed in as the customer of a booking `R` and does not send the last four
characters of that customer's phone. -/
def Stranger (auth : GuestAuth) (R : String) (req : GuestRequest) (d : PageRows) : Prop :=
  ∀ b ∈ d.1.bookings.rows, b.ref = R → ∀ c, d.1.customers.find? b.customerId = some c →
    auth.guestID req.caller ≠ ascii (uuidString b.customerId) ∧
      ∀ last4 ∈ req.phoneLast4?, last4.toList ≠ lastFour c.phone

/-! ### The check -/

theorem uuidOf?_eq_some {text : List UInt8} {id : ℕ} (h : uuidOf? text = some id) :
    text = ascii (uuidString id) := by
  rw [uuidOf?] at h
  split_ifs at h with htext
  rw [← Option.some.inj h]
  exact htext

/-- A text of one-byte characters has as many of them as it has bytes. -/
theorem utf8Len_eq_length {cs : List Char} (h : ∀ c ∈ cs, c.utf8Size = 1) :
    String.utf8Len cs = cs.length := by
  induction cs with
  | nil => rfl
  | cons c cs ih =>
    obtain ⟨hc, hcs⟩ := List.forall_mem_cons.mp h
    rw [String.utf8Len, hc, ih hcs, List.length_cons]

/-- A phone is ASCII. -/
theorem phone_utf8Size {phone : String} (h : phoneOk phone) : ∀ c ∈ phone.toList, c.utf8Size = 1 := by
  have hdigit : ∀ c : Char, c.isDigit → c.utf8Size = 1 := by
    intro c hc
    have hrange := Char.isDigit_iff_toNat.mp hc
    apply Char.utf8Size_eq_one_iff.mpr
    exact UInt32.le_iff_toNat_le.mpr (hrange.2.trans (by decide))
  unfold phoneOk at h
  split at h
  · rename_i c rest hlist
    simp only [Bool.and_eq_true, decide_eq_true_eq, List.all_eq_true] at h
    obtain ⟨⟨hc, -⟩, hrest⟩ := h
    have hone : ∀ c ∈ ['0', '1', '2', '5'], c.utf8Size = 1 := by
      simp only [List.forall_mem_cons]
      exact ⟨rfl, rfl, rfl, rfl, nofun⟩
    rw [hlist]
    simp only [List.forall_mem_cons]
    exact ⟨rfl, rfl, rfl, rfl, hone c hc, fun d hd => hdigit d (hrest d hd)⟩
  · cases h

/-- Four bytes at the end of a phone are its last four characters. -/
theorem lastFour_of_suffix {phone last4 : String} (hphone : phoneOk phone)
    (hsize : last4.utf8ByteSize = 4) (hsuffix : last4.toList <:+ phone.toList) :
    last4.toList = lastFour phone := by
  have hlen : last4.toList.length = 4 := by
    rw [← utf8Len_eq_length (fun c hc => phone_utf8Size hphone c (hsuffix.subset hc)),
      String.utf8Len_toList, hsize]
  rw [lastFour, ← hlen]
  exact List.suffix_iff_eq_drop.mp hsuffix

/-- A booking by its reference. -/
theorem getBookingView_ref (ref : String) (db : Db) : Queries.getBookingView (some ref) none db
    = (db.bookings.rows.find? (fun b => decide (b.ref = ref))).bind (fun b =>
      (db.units.find? b.unitId).bind (fun _ => (db.customers.find? b.customerId).map (fun c => ⟨b, c⟩))) := by
  have hp : (fun b : BookingRow => decide ((some ref = none ∨ some ref = some b.ref)
      ∧ ((none : Option ℕ) = none ∨ none = some b.id))) = fun b => decide (b.ref = ref) := by
    funext b
    simp only [reduceCtorEq, false_or, Option.some.injEq, true_or, and_true, eq_comm]
  rw [Queries.getBookingView, hp]
  simp only [Option.bind_eq_bind, Option.map_eq_bind]
  rfl

theorem find?_ref {ref : String} {rows : List BookingRow} {b : BookingRow}
    (h : rows.find? (fun b => decide (b.ref = ref)) = some b) : b ∈ rows ∧ b.ref = ref := by
  have hp := List.find?_some h
  exact ⟨List.mem_of_find?_eq_some h, by simpa using hp⟩

/-- What a view shows. -/
theorem getBookingView_some {ref : String} {db : Db} {view : BookingView}
    (h : Queries.getBookingView (some ref) none db = some view) :
    view.booking ∈ db.bookings.rows ∧ view.booking.ref = ref ∧
      db.customers.find? view.booking.customerId = some view.customer := by
  rw [getBookingView_ref] at h
  obtain ⟨b, hb, h⟩ := Option.bind_eq_some_iff.mp h
  obtain ⟨u, -, h⟩ := Option.bind_eq_some_iff.mp h
  obtain ⟨c, hc, rfl⟩ := Option.map_eq_some_iff.mp h
  exact ⟨(find?_ref hb).1, (find?_ref hb).2, hc⟩

/-- What a page shows. -/
theorem bookingPage_some {ref : String} {d : PageRows} {view : GetBookingViewRow}
    (h : Queries.bookingPage ref d = some view) :
    view.booking ∈ d.1.bookings.rows ∧ view.booking.ref = ref := by
  obtain ⟨v, hv, h⟩ := Option.bind_eq_some_iff.mp h
  obtain ⟨u, -, h⟩ := Option.bind_eq_some_iff.mp h
  obtain ⟨c, -, h⟩ := Option.bind_eq_some_iff.mp h
  obtain rfl := Option.some.inj h
  obtain ⟨hmem, href, -⟩ := getBookingView_some hv
  exact ⟨hmem, href⟩

/-- A stranger fails the check. -/
theorem Stranger.not_maySee {auth : GuestAuth} {R : String} {req : GuestRequest} {d : PageRows}
    (h : Stranger auth R req d) {last4 : String} (hlast : last4 ∈ req.phoneLast4?) {view : BookingView}
    (hview : Queries.getBookingView (some R) none d.1 = some view) :
    ¬ MaySee (auth.signedIn req.caller) last4 view := by
  obtain ⟨hmem, href, hc⟩ := getBookingView_some hview
  obtain ⟨hid, hphone⟩ := h view.booking hmem href view.customer hc
  intro hsee
  obtain howner | ⟨hsize, hsuffix⟩ := hsee
  · exact hid (uuidOf?_eq_some howner)
  · exact hphone last4 hlast (lastFour_of_suffix view.customer.phone_check hsize hsuffix)

/-- Nobody who fails the check learns whether there is a booking. -/
theorem guestBooking_denied {ref last4 : String} {guestId : Option ℕ} {db : Db}
    (h : ∀ view, Queries.getBookingView (some (toUpper ref)) none db = some view →
      ¬ MaySee guestId last4 view) (o : Oracle) (now : ℤ) :
    Denied postgres (fun s => ∃ ref id, s = .getBookingView ref id) o now db
      (guestBooking ref guestId last4) ⟨404, "not_found", "booking not found"⟩ := by
  have hok : ∃ ref' id, Stmt.getBookingView (some (toUpper ref)) none = .getBookingView ref' id :=
    ⟨_, _, rfl⟩
  cases hview : Queries.getBookingView (some (toUpper ref)) none db with
  | none =>
    have heval : postgres.eval (.getBookingView (some (toUpper ref)) none) o now db = .ok (none, []) := by
      rw [← hview]
      rfl
    exact .exec hok heval (.throw _)
  | some view =>
    have heval : postgres.eval (.getBookingView (some (toUpper ref)) none) o now db
        = .ok (some view, []) := by
      rw [← hview]
      rfl
    refine .exec hok heval ?_
    show Denied _ _ _ _ _ (Prog.bind (Prog.refuse (¬ MaySee guestId last4 view) _) _) _
    rw [Prog.refuse, if_pos (h view hview)]
    exact .throw _

/-- **An upload by someone who fails the check** ends the same way on every database. -/
theorem uploadPayment_denied (req : UploadRequest) : ∃ e, ∀ db : Db,
    (∀ form ∈ req.form, ∀ view, Queries.getBookingView (some (toUpper req.ref)) none db = some view →
      ¬ MaySee req.guestId form.phoneLast4 view) →
    ∀ o now, Denied postgres (fun s => ∃ ref id, s = .getBookingView ref id) o now db
      (uploadPayment req) e := by
  by_cases hlen : req.contentLength > maxProofBytes + 2 ^ 20
  · refine ⟨⟨413, "file_too_large", "receipts are limited to 10 MB"⟩, fun db _ o now => ?_⟩
    show Denied _ _ _ _ _ (Prog.bind (Prog.refuse _ _) _) _
    rw [Prog.refuse, if_pos hlen]
    exact .throw _
  · cases hform : req.form with
    | none =>
      refine ⟨⟨400, "invalid_upload", "expected a multipart form with the receipt"⟩,
        fun db _ o now => ?_⟩
      show Denied _ _ _ _ _ (Prog.bind (Prog.refuse _ _) _) _
      rw [Prog.refuse, if_neg hlen]
      show Denied _ _ _ _ _ (Prog.bind (Prog.require req.form _) _) _
      rw [hform]
      exact .throw _
    | some form =>
      refine ⟨⟨404, "not_found", "booking not found"⟩, fun db h o now => ?_⟩
      show Denied _ _ _ _ _ (Prog.bind (Prog.refuse _ _) _) _
      rw [Prog.refuse, if_neg hlen]
      show Denied _ _ _ _ _ (Prog.bind (Prog.require req.form _) _) _
      rw [hform]
      exact (guestBooking_denied (h form rfl) o now).bind _

/-! ### Other bookings -/

namespace SameBut

variable {R : String} {d d' : PageRows}

/-- Another booking is found in both databases. -/
theorem find?_eq (h : SameBut R d d') {ref : String} (hne : ref ≠ R) :
    d.1.bookings.rows.find? (fun b => decide (b.ref = ref))
      = d'.1.bookings.rows.find? (fun b => decide (b.ref = ref)) := by
  have hfilter : ∀ rows : List BookingRow, rows.find? (fun b => decide (b.ref = ref))
      = (rows.filter (fun b => decide (b.ref ≠ R))).find? (fun b => decide (b.ref = ref)) := by
    intro rows
    rw [List.find?_filter]
    congr 1
    funext b
    by_cases hb : b.ref = ref
    · simp [hb, hne]
    · simp [hb]
  rw [hfilter, h.bookings, ← hfilter]

theorem mem_right (h : SameBut R d d') {b : BookingRow} (hb : b ∈ d.1.bookings.rows) (hne : b.ref ≠ R) :
    b ∈ d'.1.bookings.rows := by
  have hkept : b ∈ d.1.bookings.rows.filter (fun b => decide (b.ref ≠ R)) :=
    List.mem_filter.mpr ⟨hb, decide_eq_true hne⟩
  rw [h.bookings] at hkept
  exact (List.mem_filter.mp hkept).1

theorem getBookingView_eq (h : SameBut R d d') {ref : String} (hne : ref ≠ R) :
    Queries.getBookingView (some ref) none d.1 = Queries.getBookingView (some ref) none d'.1 := by
  rw [getBookingView_ref, getBookingView_ref, ← h.find?_eq hne, ← h.units]
  cases hb : d.1.bookings.rows.find? (fun b => decide (b.ref = ref)) with
  | none => rfl
  | some b =>
    obtain ⟨hmem, href⟩ := find?_ref hb
    rw [← href] at hne
    simp only [Option.bind_some, h.customers b hmem hne]

theorem bookingPage_eq (h : SameBut R d d') {ref : String} (hne : ref ≠ R) :
    Queries.bookingPage ref d = Queries.bookingPage ref d' := by
  rw [Queries.bookingPage, Queries.bookingPage, ← h.getBookingView_eq hne, ← h.units, ← h.catalogue,
    ← h.coverUrl]
  cases hview : Queries.getBookingView (some ref) none d.1 with
  | none => rfl
  | some view =>
    obtain ⟨hmem, href, -⟩ := getBookingView_some hview
    have hcreated := h.bookingCreatedAt view.booking hmem (by rwa [href])
    simp only [Option.bind_eq_bind, Option.bind_some, hcreated]

theorem listBookingPayments_eq (h : SameBut R d d') {b : BookingRow} (hb : b ∈ d.1.bookings.rows)
    (hne : b.ref ≠ R) (o : Oracle) :
    Queries.listBookingPayments b.id o d = Queries.listBookingPayments b.id o d' := by
  rw [Queries.listBookingPayments, Queries.listBookingPayments, ← h.payments b hb hne]
  congr 1
  apply List.map_congr_left
  intro p hp
  obtain ⟨id, -, hfind⟩ := List.mem_filterMap.mp hp
  obtain ⟨hmem, hbooking⟩ := List.mem_filter.mp (List.mem_of_find?_eq_some hfind)
  rw [h.paymentCreatedAt b hb hne p hmem (of_decide_eq_true hbooking)]

end SameBut

section Pages

variable {R : String} {d d' : PageRows}

theorem guestBooking_alike (h : SameBut R d d') {ref : String} (hne : toUpper ref ≠ R)
    (guestId : Option ℕ) (last4 : String) (o : Oracle) (now : ℤ) :
    Alike postgres (fun s => ∃ ref id, s = .getBookingView ref id) o now d.1 d'.1
      (fun view => view.booking ∈ d.1.bookings.rows ∧ view.booking.ref ≠ R)
      (guestBooking ref guestId last4) := by
  have hok : ∃ ref' id, Stmt.getBookingView (some (toUpper ref)) none = .getBookingView ref' id :=
    ⟨_, _, rfl⟩
  have heval : ∀ db : Db, postgres.eval (.getBookingView (some (toUpper ref)) none) o now db
      = .ok (Queries.getBookingView (some (toUpper ref)) none db, []) := fun _ => rfl
  refine .exec hok (heval d.1) ((heval d'.1).trans (by rw [h.getBookingView_eq hne])) ?_
  cases hview : Queries.getBookingView (some (toUpper ref)) none d.1 with
  | none => exact .throw _
  | some view =>
    obtain ⟨hmem, href, -⟩ := getBookingView_some hview
    rw [← href] at hne
    show Alike _ _ _ _ _ _ _ (Prog.bind (Prog.refuse (¬ MaySee guestId last4 view) _) _)
    by_cases hsee : MaySee guestId last4 view
    · rw [Prog.refuse, if_neg (not_not_intro hsee)]
      exact .pure ⟨hmem, hne⟩
    · rw [Prog.refuse, if_pos hsee]
      exact .throw _

theorem readPage_alike (s : PageStmt) (what : String) (o : Oracle) (now : ℤ) {v : s.Val}
    {ok : Stmt → Prop} {Q : s.Val → Prop} (h : s.eval o now d = .ok (v, []))
    (h' : s.eval o now d' = .ok (v, [])) (hv : Q v) :
    Alike bookingPages.database (Sum.elim ok (fun _ => True)) o now d d' Q (readPage s what) := by
  have heval : ∀ x : PageRows, s.eval o now x = .ok (v, []) →
      bookingPages.database.eval (.inr s) o now x = .ok (v, []) := by
    intro x hx
    show Extra.answerOn Sum.inr (s.eval o now x) = _
    rw [hx]
    rfl
  exact alike_query trivial (heval d h) (heval d' h') hv

theorem writeGuestBooking_alike (h : SameBut R d d') {ref : String} (hne : ref ≠ R)
    {ok : Stmt → Prop} (o : Oracle) (now : ℤ) :
    Alike bookingPages.database (Sum.elim ok (fun _ => True)) o now d d' (fun _ => True)
      (writeGuestBooking ref) := by
  rw [writeGuestBooking]
  have hpage : (PageStmt.bookingPage ref).eval o now d' = .ok (Queries.bookingPage ref d, []) := by
    rw [h.bookingPage_eq hne]
    rfl
  refine (readPage_alike (.bookingPage ref) _ o now rfl hpage rfl).bind (fun row hrow => ?_)
  refine (alike_require (Q := fun view => view ∈ Queries.bookingPage ref d)
    (fun view hview => hrow ▸ hview)).bind (fun view hview => ?_)
  obtain ⟨hmem, href⟩ := bookingPage_some hview
  have hpayments : (PageStmt.listBookingPayments view.booking.id).eval o now d'
      = .ok (Queries.listBookingPayments view.booking.id o d, []) := by
    rw [h.listBookingPayments_eq hmem (by rwa [href])]
    rfl
  have hacct : PageStmt.getInstapayAccount.eval o now d' = .ok (d.2.instapay, []) := by
    rw [h.instapay]
    rfl
  refine (readPage_alike (Q := fun _ => True) _ _ o now rfl hpayments trivial).bind (fun rows _ => ?_)
  refine (readPage_alike (Q := fun _ => True) _ _ o now rfl hacct trivial).bind (fun row _ => ?_)
  exact (alike_require (Q := fun _ => True) (fun _ _ => trivial)).bind (fun acct _ => .pure trivial)

theorem getBooking_alike (h : SameBut R d d') (auth : GuestAuth) (req : ViewRequest)
    (hne : toUpper req.ref ≠ R) (o : Oracle) (now : ℤ) :
    Alike bookingPages.database
      (Sum.elim (fun s => ∃ ref id, s = .getBookingView ref id) (fun _ => True)) o now d d'
      (fun _ => True) (guestProgram auth (.getBooking req)) :=
  ((guestBooking_alike h hne _ _ o now).lift.bind
    (fun _ hview => writeGuestBooking_alike h hview.2 o now)).bind (fun _ _ => .pure trivial)

/-! ### A receipt for another booking -/

/-- The bookings keep their exclusion constraint, and the id that is drawn is no payment's. -/
structure Ready (o : Oracle) (db : Db) : Prop where
  clear : ∀ b ∈ db.bookings, ¬ Clashes db b
  fresh : db.payments.find? o.uuid = none

/-- A booking that takes receipts holds its dates already. -/
theorem clashes_of_receipt {db : Db} {b : BookingRow} {next : Status} {now : ℤ}
    (hpay : payable b.status = .ok next)
    (h : Clashes db ((receiptParams b next).row b now b.paid_check)) : Clashes db b := by
  obtain ⟨hwaits, -⟩ := afterUpload_eq_some (payable_ok hpay)
  obtain ⟨-, x, hx, hne, hunit, hocc, hover⟩ := h
  refine ⟨?_, x, hx, hne, hunit, hocc, hover⟩
  show b.status.Occupies
  rcases hwaits with hs | hs <;> rw [hs] <;> decide

section Receipt

variable {db : Db} {b : BookingRow} {o : Oracle} {now : ℤ}

theorem reads_lockBooking (hb : b ∈ db.bookings) :
    Reads postgres o now db (Tx.lockBooking b.id) b := by
  have heval : postgres.eval (.lockBooking b.id) o now db = .ok (some b, []) := by
    rw [← Table.find?_of_mem hb]
    rfl
  exact (Reads.query heval).bind (.pure b)

/-- The receipt's row is stored, if it can be. -/
theorem createPayment_eval {arg : CreatePaymentParams} (hready : Ready o db) (hb : b ∈ db.bookings)
    (harg : arg.bookingId = b.id) :
    postgres.eval (.createPayment arg) o now db = (arg.row o.uuid).map (fun p => (p, [.insertPayment p])) := by
  show Queries.createPayment arg o.uuid db = _
  have hfind : db.bookings.find? b.id = some b := Table.find?_of_mem hb
  cases hrow : arg.row o.uuid with
  | error e => simp only [Queries.createPayment, hrow, Except.map]
  | ok p =>
    simp only [Queries.createPayment, hrow, hready.fresh, harg, hfind]
    rfl

/-- Its booking moves on, and still clashes with none. -/
theorem setReceipt_eval {next : Status} (hpay : payable b.status = .ok next) (hready : Ready o db)
    (hb : b ∈ db.bookings) (p : PaymentRow) :
    postgres.eval (.setBookingPayment (receiptParams b next)) o now (postgres.view db [.insertPayment p])
      = .ok (⟨⟩, [.setBooking ((receiptParams b next).row b now b.paid_check)]) := by
  show Queries.setBookingPayment (receiptParams b next) now _ = _
  have hclear : ¬ Clashes (postgres.view db [.insertPayment p])
      ((receiptParams b next).row b now b.paid_check) :=
    fun h => hready.clear b hb (clashes_of_receipt hpay h)
  have hstill : (postgres.view db [.insertPayment p]).bookings.find? (receiptParams b next).id = some b :=
    Table.find?_of_mem hb
  have hpaid : 0 ≤ (receiptParams b next).paidTotal := b.paid_check
  simp only [Queries.setBookingPayment, hstill]
  rw [dif_pos hpaid, if_neg hclear]

end Receipt

/-- **A receipt is recorded alike** wherever its booking stands. -/
theorem recordReceipt_alone (b : BookingRow) (amount : Int64) (senderName senderNumber key mime : String)
    (o : Oracle) (now : ℤ) : ∃ out, ∀ db : Db, b ∈ db.bookings → Ready o db →
      alone postgres o now db (recordReceipt b.id amount senderName senderNumber key mime) [] false
        = out := by
  cases hpay : payable b.status with
  | error e =>
    refine ⟨(.error e, []), fun db hb _ => ?_⟩
    rw [recordReceipt, (reads_lockBooking hb).alone_bind, hpay]
    rfl
  | ok next =>
    obtain ⟨arg, harg⟩ : ∃ arg : CreatePaymentParams, arg = {
      bookingId := b.id, status := .pending, amount := amount, senderName := senderName
      senderNumber := senderNumber, proofKey := some key, proofType := some mime, notes := none
      recordedBy := "guest", verifiedAt := none } := ⟨_, rfl⟩
    have hbooking : arg.bookingId = b.id := by rw [harg]
    have hrest : ∀ db, b ∈ db.bookings →
        alone postgres o now db (recordReceipt b.id amount senderName senderNumber key mime) [] false
          = alone postgres o now db (Prog.query .pg (.createPayment arg) >>= fun _ =>
              Tx.setBookingPayment (receiptParams b next)) [] false := by
      intro db hb
      rw [recordReceipt, (reads_lockBooking hb).alone_bind, hpay, harg]
      rfl
    cases hrow : arg.row o.uuid with
    | error e =>
      refine ⟨(.error (.pg e), []), fun db hb hready => ?_⟩
      have heval : postgres.eval (.createPayment arg) o now db = _ := createPayment_eval hready hb hbooking
      rw [hrow] at heval
      rw [hrest db hb, alone_query_bind, Database.view_nil, heval]
      rfl
    | ok p =>
      refine ⟨(.ok ⟨⟩, [.insertPayment p, .setBooking ((receiptParams b next).row b now b.paid_check)]),
        fun db hb hready => ?_⟩
      have heval : postgres.eval (.createPayment arg) o now db = _ := createPayment_eval hready hb hbooking
      rw [hrow] at heval
      rw [hrest db hb, alone_query_bind, Database.view_nil, heval]
      show alone postgres o now db (.exec (.setBookingPayment (receiptParams b next)) _)
        [.insertPayment p] false = _
      simp only [alone, Bool.false_eq_true, if_false, setReceipt_eval hpay hready hb]
      rfl

/-- **An upload for another booking** ends the same way on both databases. -/
theorem upload_alike (h : SameBut R d d') (req : UploadRequest) (hne : toUpper req.ref ≠ R) (o : Oracle)
    (now : ℤ) (hready : Ready o d.1) (hready' : Ready o d'.1) :
    alone postgres o now d.1 (uploadPayment req) [] false
      = alone postgres o now d'.1 (uploadPayment req) [] false := by
  simp only [uploadPayment, Tx.now, Tx.query, Prog.mapErr_query]
  refine refuse_alone_bind (require_alone_bind (fun form _ => ?_))
  refine (guestBooking_alike h hne _ _ o now).alone_bind (fun view hview => ?_)
  refine check_alone_bind (fun _ _ => ?_)
  refine query_alone_bind (by rfl) (by rfl) ?_
  refine refuse_alone_bind (require_alone_bind (fun file _ => ?_))
  refine refuse_alone_bind (require_alone_bind (fun ext _ => ?_))
  refine refuse_alone_bind ?_
  refine query_alone_bind (by rfl) (by rfl) ?_
  rw [alone_query_bind, alone_query_bind]
  by_cases hstored : o.stored = true
  · -- The file is in the store: the receipt is recorded in one transaction.
    have heval : ∀ key mime db, postgres.eval (.putPrivate key mime) o now db = .ok (⟨⟩, []) :=
      fun key mime db => if_pos hstored
    simp only [heval, List.append_nil]
    obtain ⟨out, hout⟩ := recordReceipt_alone view.booking (receiptAmount form.amount view.booking.depositDue)
      (trimSpace form.senderName) (trimSpace form.senderNumber)
      ("proofs/" ++ uuidString view.booking.id ++ "/" ++ uuidString o.uuid ++ "." ++ ext) file.mime o now
    rw [alone_mapErr, alone_mapErr, hout d.1 hview.1 hready, hout d'.1 (h.mem_right hview.1 hview.2) hready']
  · have heval : ∀ key mime db, postgres.eval (.putPrivate key mime) o now db = .error .storage :=
      fun key mime db => if_neg hstored
    simp only [heval]

/-- A stranger's request ends the same way on every database. -/
theorem guestProgram_denied (auth : GuestAuth) (req : GuestRequest) : ∃ e, ∀ d,
    Stranger auth (toUpper req.ref) req d → ∀ o now, Denied bookingPages.database
      (Sum.elim (fun s => ∃ ref id, s = .getBookingView ref id) (fun _ => True)) o now d
      (guestProgram auth req) e := by
  cases req with
  | getBooking req =>
    refine ⟨⟨404, "not_found", "booking not found"⟩, fun d h o now => ?_⟩
    have hcheck := guestBooking_denied (fun view hview => h.not_maySee rfl hview) o now
    exact ((hcheck.lift id).bind _).bind _
  | uploadPayment req =>
    obtain ⟨e, hupload⟩ := uploadPayment_denied (req.upload auth)
    refine ⟨e, fun d h o now => ?_⟩
    have hcheck := hupload d.1 (fun form hform view hview =>
      h.not_maySee (Option.mem_map.mpr ⟨form, hform, rfl⟩) hview) o now
    exact hcheck.lift _

/-- A run that writes neither to the database nor to the object store. -/
def Untouched (auth : GuestAuth) (req : GuestRequest) (o : Oracle) (now : ℤ) (d : PageRows) : Prop :=
  (alone bookingPages.database o now d (guestProgram auth req) [] false).2 = [] ∧
    ∀ key mime, .inl (.putPrivate key mime)
      ∉ statements bookingPages.database o now d (guestProgram auth req) [] false

/-- Looking at bookings and reading pages writes nothing. -/
theorem untouched_of_reads {auth : GuestAuth} {req : GuestRequest} {o : Oracle} {now : ℤ} {d : PageRows}
    (hwrites : (alone bookingPages.database o now d (guestProgram auth req) [] false).2 = [])
    (hreads : ∀ s ∈ statements bookingPages.database o now d (guestProgram auth req) [] false,
      Sum.elim (fun s => ∃ ref id, s = Stmt.getBookingView ref id) (fun _ => True) s) :
    Untouched auth req o now d := by
  refine ⟨hwrites, fun key mime hmem => ?_⟩
  obtain ⟨ref, id, h⟩ := hreads _ hmem
  cases h

/-- **A booking is invisible to strangers**: nothing comes of a request that names it, nor of any page;
and while the constraints hold, a receipt for another booking is answered and recorded alike. -/
theorem booking_hidden (auth : GuestAuth) (h : SameBut R d d') (req : GuestRequest)
    (hs : Stranger auth R req d) (hs' : Stranger auth R req d') (o : Oracle) (now : ℤ) :
    ((toUpper req.ref = R ∨ ∃ view, req = .getBooking view) →
      answer bookingPages.database o now d (guestProgram auth req)
          = answer bookingPages.database o now d' (guestProgram auth req) ∧
        Untouched auth req o now d ∧ Untouched auth req o now d') ∧
    (Ready o d.1 → Ready o d'.1 →
      alone bookingPages.database o now d (guestProgram auth req) [] false
        = alone bookingPages.database o now d' (guestProgram auth req) [] false) := by
  by_cases href : toUpper req.ref = R
  · obtain ⟨e, hdenied⟩ := guestProgram_denied auth req
    have hd := hdenied d (by rwa [href]) o now
    have hd' := hdenied d' (by rwa [href]) o now
    refine ⟨fun _ => ?_, fun _ _ => hd.alone.trans hd'.alone.symm⟩
    rw [answer, answer, hd.alone, hd'.alone]
    exact ⟨rfl, untouched_of_reads (by rw [hd.alone]) hd.statements,
      untouched_of_reads (by rw [hd'.alone]) hd'.statements⟩
  · cases req with
    | getBooking view =>
      have halike := getBooking_alike h auth view href o now
      obtain ⟨hsame, hwrites⟩ := halike.alone
      obtain ⟨hstmts, hreads⟩ := halike.statements
      exact ⟨fun _ => ⟨congrArg Prod.fst hsame, untouched_of_reads hwrites hreads,
        untouched_of_reads (hsame ▸ hwrites) (hstmts ▸ hreads)⟩, fun _ _ => hsame⟩
    | uploadPayment req =>
      constructor
      · rintro (hR | ⟨view, hget⟩)
        · exact absurd hR href
        · cases hget
      · intro hready hready'
        show alone bookingPages.database o now d ((uploadPayment (req.upload auth)).lift _)
          ([].map Sum.inl) false = alone bookingPages.database o now d'
            ((uploadPayment (req.upload auth)).lift _) ([].map Sum.inl) false
        rw [Extra.alone_lift, Extra.alone_lift,
          upload_alike h (req.upload auth) href o now hready hready']

end Pages

/-! ### A concrete stranger -/

/-- Mona's stay, waiting for the rest of its deposit. -/
def monasStay : BookingRow where
  id := 7
  ref := "BES-4F92K"
  unitId := 1
  customerId := 1
  checkIn := newYear
  checkOut := newYear + 3
  guests := 2
  status := .pendingPayment
  nightlyPrice := 500000
  total := 1500000
  depositDue := 450000
  source := "web"
  cancelledAt := none
  cancelReason := none
  holdExpiresAt := none
  paidTotal := 50000
  paymentRejectionCount := 0
  stay_check := by decide
  deposit_check := by decide
  guests_check := by decide
  price_check := by decide
  paid_check := by decide
  ref_check := by decide
  total_check := by decide

def pageTables : PageTables := ⟨coast.2, fun _ => none, fun _ => 0, fun _ => 0, some ⟨"", "", ""⟩⟩

/-- Without Mona's stay, and with it. -/
def emptyPages : PageRows := (plainWorld, pageTables)

def monasPages : PageRows :=
  ({ plainWorld with bookings := Table.empty.insert monasStay }, pageTables)

/-- A receipt from someone who guesses the phone. -/
def guessedReceipt : GuestRequest :=
  .uploadPayment ⟨"bes-4f92k", ⟨[], ⟨0, 500, by decide⟩⟩, 2000,
    some ⟨"1234", some ⟨1000, "image/png"⟩, "450000", "Mona", ""⟩⟩

/-- No keyed hash is needed to turn an empty token away. -/
def anyAuth : GuestAuth := ⟨fun _ _ => [], rawURLEncoding, ascii "secret"⟩

/-- The same, for a booking that does not exist. -/
def otherReceipt : GuestRequest :=
  .uploadPayment ⟨"bes-7q3xz", ⟨[], ⟨0, 500, by decide⟩⟩, 2000,
    some ⟨"1234", some ⟨1000, "image/png"⟩, "450000", "Mona", ""⟩⟩

theorem booking_hidden_guessed :
    answer bookingPages.database (oracleAt 1 0) 0 emptyPages (guestProgram anyAuth guessedReceipt)
      = answer bookingPages.database (oracleAt 1 0) 0 monasPages (guestProgram anyAuth guessedReceipt) ∧
    alone bookingPages.database (oracleAt 1 0) 0 emptyPages (guestProgram anyAuth otherReceipt) [] false
      = alone bookingPages.database (oracleAt 1 0) 0 monasPages (guestProgram anyAuth otherReceipt) []
        false := by
  have hgone : [monasStay].filter (fun b => decide (b.ref ≠ "BES-4F92K")) = [] :=
    List.filter_cons_of_neg (by simp [monasStay])
  have hnone : ∀ b, b ∉ emptyPages.1.bookings.rows := fun _ => List.not_mem_nil
  have hsame : SameBut "BES-4F92K" emptyPages monasPages :=
    ⟨hgone.symm, fun b hb => absurd hb (hnone b), fun b hb => absurd hb (hnone b),
      fun b hb => absurd hb (hnone b), fun b hb => absurd hb (hnone b), rfl, rfl, rfl, rfl⟩
  have hid : anyAuth.guestID ⟨[], ⟨0, 500, by decide⟩⟩ ≠ ascii (uuidString 1) := by decide +kernel
  have hphone : "1234".toList ≠ lastFour mona.phone := by decide
  have hstranger : ∀ req : GuestRequest, req.caller = ⟨[], ⟨0, 500, by decide⟩⟩ →
      req.phoneLast4? = some "1234" → Stranger anyAuth "BES-4F92K" req monasPages := by
    intro req hcaller hlast4 b hb _ c hc
    obtain rfl := List.mem_singleton.mp hb
    obtain rfl : mona = c := Option.some.inj hc
    rw [hcaller, hlast4]
    refine ⟨hid, fun last4 hlast => ?_⟩
    obtain rfl : "1234" = last4 := Option.some.inj hlast
    exact hphone
  have hempty : Ready (oracleAt 1 0) emptyPages.1 := ⟨fun b hb => absurd hb (hnone b), rfl⟩
  have hmonas : Ready (oracleAt 1 0) monasPages.1 := by
    refine ⟨fun b hb hclash => ?_, rfl⟩
    obtain ⟨-, x, hx, hne, -⟩ := hclash
    rw [List.mem_singleton.mp hb, List.mem_singleton.mp hx] at hne
    exact hne rfl
  exact ⟨((booking_hidden anyAuth hsame guessedReceipt (fun b hb => absurd hb (hnone b))
      (hstranger _ rfl rfl) (oracleAt 1 0) 0).1 (Or.inl (by decide))).1,
    (booking_hidden anyAuth hsame otherReceipt (fun b hb => absurd hb (hnone b))
      (hstranger _ rfl rfl) (oracleAt 1 0) 0).2 hempty hmonas⟩

end Sahel

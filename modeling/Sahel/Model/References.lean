import Sahel.Library.RowInvariant
import Sahel.Http.Requests

/-!
# References between rows

What a single row of the tables can be trusted for, over every interleaving: the unit and the guest
of a booking, the unit of a block and the booking of a payment exist, and a verified payment says
when it was verified.

No lock is needed for this.  The schema's foreign keys refuse a row whose references are missing,
none of the operations deletes a unit, a customer or a booking, and the two places that store a
verified payment stamp it.
-/

set_option autoImplicit false

namespace Sahel

open KeyedTable ReadCommitted RowInvariant

/-- Every reference leads to a row, and every verified payment is stamped. -/
structure Referential (db : Db) : Prop where
  unit : ∀ b ∈ db.bookings, db.units.HasKey b.unitId
  customer : ∀ b ∈ db.bookings, db.customers.HasKey b.customerId
  blockUnit : ∀ k ∈ db.blocks, db.units.HasKey k.unitId
  booking : ∀ p ∈ db.payments, db.bookings.HasKey p.bookingId
  stamped : ∀ p ∈ db.payments, p.status = .verified → p.verifiedAt.isSome

theorem referential_of_unbooked {db : Db} (h : db.Unbooked) : Referential db where
  unit b hb := absurd hb (h.no_booking b)
  customer b hb := absurd hb (h.no_booking b)
  blockUnit k hk := absurd hk (h.no_block k)
  booking p hp := absurd hp (h.no_payment p)
  stamped p hp := absurd hp (h.no_payment p)

/-! ### Growth -/

/-- Rows that others refer to stay. -/
structure Grows (db db' : Db) : Prop where
  units : ∀ id, db.units.HasKey id → db'.units.HasKey id
  customers : ∀ id, db.customers.HasKey id → db'.customers.HasKey id
  bookings : ∀ id, db.bookings.HasKey id → db'.bookings.HasKey id

theorem Grows.refl (db : Db) : Grows db db := ⟨fun _ h => h, fun _ h => h, fun _ h => h⟩

theorem Grows.trans {db₁ db₂ db₃ : Db} (h : Grows db₁ db₂) (h' : Grows db₂ db₃) :
    Grows db₁ db₃ :=
  ⟨fun id hk => h'.units id (h.units id hk), fun id hk => h'.customers id (h.customers id hk),
    fun id hk => h'.bookings id (h.bookings id hk)⟩

/-- The keys after a write are those from before and at most one more. -/
theorem hasKey_apply (db : Db) (w : Write) :
    (db.apply w).units = db.units ∧
    (∀ id, (db.apply w).customers.HasKey id ↔
      db.customers.HasKey id ∨ ∃ c, w = .insertCustomer c ∧ c.id = id) ∧
    (∀ id, (db.apply w).bookings.HasKey id ↔
      db.bookings.HasKey id ∨ ∃ b, w = .insertBooking b ∧ b.id = id) := by
  cases w <;> simp [Db.apply, Table.hasKey_insert, Table.hasKey_set]

theorem Grows.apply (db : Db) (w : Write) : Grows db (db.apply w) := by
  obtain ⟨hu, hc, hb⟩ := hasKey_apply db w
  refine ⟨fun id h => ?_, fun id h => (hc id).mpr (Or.inl h), fun id h => (hb id).mpr (Or.inl h)⟩
  rw [hu]
  exact h

theorem Grows.apply_mono {db db' : Db} (w : Write) (h : Grows db db') :
    Grows (db.apply w) (db'.apply w) := by
  obtain ⟨hu, hc, hb⟩ := hasKey_apply db w
  obtain ⟨hu', hc', hb'⟩ := hasKey_apply db' w
  refine ⟨fun id hk => ?_, fun id hk => ?_, fun id hk => ?_⟩
  · rw [hu] at hk
    rw [hu']
    exact h.units id hk
  · exact (hc' id).mpr (((hc id).mp hk).imp_left (h.customers id))
  · exact (hb' id).mpr (((hb id).mp hk).imp_left (h.bookings id))

/-! ### Writes -/

/-- What a booking, a block or a payment refers to is there. -/
def Fits (db : Db) : Write → Prop
  | .insertBooking b => db.units.HasKey b.unitId ∧ db.customers.HasKey b.customerId
  | .setBooking b => db.units.HasKey b.unitId ∧ db.customers.HasKey b.customerId
  | .insertPayment p =>
    db.bookings.HasKey p.bookingId ∧ (p.status = .verified → p.verifiedAt.isSome)
  | .setPayment p => db.bookings.HasKey p.bookingId ∧ (p.status = .verified → p.verifiedAt.isSome)
  | .insertBlock k => db.units.HasKey k.unitId
  | _ => True

theorem Fits.grows {db db' : Db} {w : Write} (hg : Grows db db') (h : Fits db w) : Fits db' w := by
  cases w with
  | insertBooking b => exact ⟨hg.units _ h.1, hg.customers _ h.2⟩
  | setBooking b => exact ⟨hg.units _ h.1, hg.customers _ h.2⟩
  | insertPayment p => exact ⟨hg.bookings _ h.1, h.2⟩
  | setPayment p => exact ⟨hg.bookings _ h.1, h.2⟩
  | insertBlock k => exact hg.units _ h
  | _ => trivial

/-- **A write that fits keeps every reference.** -/
theorem Referential.apply {db : Db} {w : Write} (h : Referential db) (hw : Fits db w) :
    Referential (db.apply w) := by
  have hg := Grows.apply db w
  have hbookings : ∀ b ∈ (db.apply w).bookings,
      db.units.HasKey b.unitId ∧ db.customers.HasKey b.customerId := by
    intro b hb
    cases w with
    | insertBooking x =>
      rcases Table.mem_of_mem_insert hb with hb | rfl
      · exact ⟨h.unit b hb, h.customer b hb⟩
      · exact hw
    | setBooking x =>
      rcases Table.mem_set.mp hb with ⟨hb, -⟩ | ⟨rfl, -⟩
      · exact ⟨h.unit b hb, h.customer b hb⟩
      · exact hw
    | _ => exact ⟨h.unit b hb, h.customer b hb⟩
  have hpayments : ∀ p ∈ (db.apply w).payments,
      db.bookings.HasKey p.bookingId ∧ (p.status = .verified → p.verifiedAt.isSome) := by
    intro p hp
    cases w with
    | insertPayment x =>
      rcases Table.mem_of_mem_insert hp with hp | rfl
      · exact ⟨h.booking p hp, h.stamped p hp⟩
      · exact hw
    | setPayment x =>
      rcases Table.mem_set.mp hp with ⟨hp, -⟩ | ⟨rfl, -⟩
      · exact ⟨h.booking p hp, h.stamped p hp⟩
      · exact hw
    | _ => exact ⟨h.booking p hp, h.stamped p hp⟩
  have hblocks : ∀ k ∈ (db.apply w).blocks, db.units.HasKey k.unitId := by
    intro k hk
    cases w with
    | insertBlock x =>
      rcases Table.mem_of_mem_insert hk with hk | rfl
      · exact h.blockUnit k hk
      · exact hw
    | deleteBlock id => exact h.blockUnit k (Table.mem_erase.mp hk).1
    | _ => exact h.blockUnit k hk
  exact ⟨fun b hb => hg.units _ (hbookings b hb).1, fun b hb => hg.customers _ (hbookings b hb).2,
    fun k hk => hg.units _ (hblocks k hk), fun p hp => hg.bookings _ (hpayments p hp).1,
    fun p hp => (hpayments p hp).2⟩

/-! ### Statements -/

/-- A verified payment is only stored with its time. -/
def Stamps : Stmt → Prop
  | .createPayment arg => arg.status = .verified → arg.verifiedAt.isSome
  | _ => True

theorem ensureCustomer_fits {phone name : String} {id : ℕ} {db : Db} {row : EnsureCustomerRow}
    {ws : List Write} (h : Queries.ensureCustomer phone name id db = .ok (row, ws)) :
    ∀ w ∈ ws, Fits db w := by
  rcases Queries.ensureCustomer_ok h with ⟨c, -, -, rfl⟩ | ⟨c, -, -, -, -, -, rfl⟩
  · exact List.forall_mem_singleton.mpr trivial
  · exact List.forall_mem_singleton.mpr trivial

theorem createBooking_fits {arg : CreateBookingParams} {id : ℕ} {db : Db} {row : CreateBookingRow}
    {ws : List Write} (h : Queries.createBooking arg id db = .ok (row, ws)) :
    ∀ w ∈ ws, Fits db w := by
  unfold Queries.createBooking at h
  split at h
  · cases h
  · rename_i b hb
    split_ifs at h with hid href hclash hunit hcustomer
    cases h
    have hs := Queries.stored_of_row hb
    refine List.forall_mem_singleton.mpr ⟨?_, ?_⟩
    · rw [hs.unitId]
      exact Table.hasKey_of_not_isNone hunit
    · rw [hs.customerId]
      exact Table.hasKey_of_not_isNone hcustomer

theorem createPayment_fits {arg : CreatePaymentParams} {id : ℕ} {db : Db} {p : PaymentRow}
    {ws : List Write} (hs : Stamps (.createPayment arg))
    (h : Queries.createPayment arg id db = .ok (p, ws)) : ∀ w ∈ ws, Fits db w := by
  unfold Queries.createPayment at h
  split at h
  · cases h
  · rename_i q hp
    split_ifs at h with hid hbooking
    cases h
    have hrow : p.bookingId = arg.bookingId ∧ p.status = arg.status ∧
        p.verifiedAt = arg.verifiedAt := by
      simp only [CreatePaymentParams.row] at hp
      split_ifs at hp
      cases hp
      exact ⟨rfl, rfl, rfl⟩
    obtain ⟨hb, hst, hat⟩ := hrow
    refine List.forall_mem_singleton.mpr ⟨?_, ?_⟩
    · rw [hb]
      exact Table.hasKey_of_not_isNone hbooking
    · rw [hst, hat]
      exact hs

theorem createBlock_fits {arg : CreateBlockParams} {id : ℕ} {db : Db} {k : BlockRow}
    {ws : List Write} (h : Queries.createBlock arg id db = .ok (k, ws)) : ∀ w ∈ ws, Fits db w := by
  unfold Queries.createBlock at h
  split_ifs at h with hs hid hx hunit
  cases h
  exact List.forall_mem_singleton.mpr (Table.hasKey_of_not_isNone hunit)

/-- A revised booking refers to what it did. -/
theorem setBooking_fits {db : Db} {b b' : BookingRow} (h : Referential db) (hb : b ∈ db.bookings)
    (hu : b'.unitId = b.unitId) (hc : b'.customerId = b.customerId) : Fits db (.setBooking b') := by
  refine ⟨?_, ?_⟩
  · rw [hu]
    exact h.unit b hb
  · rw [hc]
    exact h.customer b hb

/-- What a statement that succeeds has written: nothing, or one row. -/
inductive Wrote (db : Db) : Stmt → List Write → Prop
  | nothing {s : Stmt} : Wrote db s []
  | account {phone name : String} {ws : List Write} (h : ∀ w ∈ ws, Fits db w) :
      Wrote db (.ensureCustomer phone name) ws
  | booking {arg : CreateBookingParams} {b : BookingRow} (h : Fits db (.insertBooking b)) :
      Wrote db (.createBooking arg) [.insertBooking b]
  | revised {s : Stmt} {b b' : BookingRow} (hb : b ∈ db.bookings) (hu : b'.unitId = b.unitId)
      (hc : b'.customerId = b.customerId) : Wrote db s [.setBooking b']
  | payment {arg : CreatePaymentParams} {p : PaymentRow}
      (h : Stamps (.createPayment arg) → Fits db (.insertPayment p)) :
      Wrote db (.createPayment arg) [.insertPayment p]
  | checked {s : Stmt} {p p' : PaymentRow} (hp : p ∈ db.payments) (hb : p'.bookingId = p.bookingId)
      (hs : p'.status = .verified → p'.verifiedAt.isSome) : Wrote db s [.setPayment p']
  | block {arg : CreateBlockParams} {k : BlockRow} (h : Fits db (.insertBlock k)) :
      Wrote db (.createBlock arg) [.insertBlock k]
  | unblocked {s : Stmt} {id : ℕ} : Wrote db s [.deleteBlock id]

/-- **What statements write.** -/
theorem eval_wrote {s : Stmt} {o : Oracle} {now : ℤ} {db : Db} {v : s.Val} {ws : List Write}
    (he : s.eval o now db = .ok (v, ws)) : Wrote db s ws := by
  cases s with
  | putPrivate key mime =>
    simp only [Stmt.eval] at he
    split_ifs at he
    cases he
    exact .nothing
  | ensureCustomer phone name => exact .account (ensureCustomer_fits he)
  | createBooking arg =>
    obtain ⟨b, -, -, rfl, -⟩ := Queries.createBooking_ok he
    exact .booking (createBooking_fits he _ (List.mem_singleton_self _))
  | cancelBooking id reason =>
    simp only [Stmt.eval, Queries.cancelBooking] at he
    split at he
    · cases he
      exact .nothing
    · rename_i b hb
      split_ifs at he
      · cases he
        exact .revised (Table.mem_of_find? hb).1 rfl rfl
      · cases he
        exact .nothing
  | expireHold id =>
    rcases Queries.expireHold_ok he with rfl | ⟨b, hb, -, rfl⟩
    · exact .nothing
    · exact .revised (Table.mem_of_find? hb).1 rfl rfl
  | setBookingPayment arg =>
    cases hb : db.bookings.find? arg.id with
    | none =>
      simp only [Stmt.eval, Queries.setBookingPayment, hb] at he
      cases he
      exact .nothing
    | some b =>
      obtain ⟨paid, rfl⟩ := Queries.setBookingPayment_ok hb he
      exact .revised (Table.mem_of_find? hb).1 rfl rfl
  | createPayment arg =>
    obtain ⟨-, rfl, -⟩ := Queries.createPayment_ok he
    exact .payment (fun hs => createPayment_fits hs he _ (List.mem_singleton_self _))
  | verifyPayment id amount notes =>
    cases hp : db.payments.find? id with
    | none =>
      simp only [Stmt.eval, Queries.verifyPayment, hp] at he
      cases he
      exact .nothing
    | some p =>
      obtain ⟨ha, rfl⟩ := Queries.verifyPayment_ok hp he
      exact .checked (Table.mem_of_find? hp).1 rfl (fun _ => rfl)
  | rejectPayment id reason =>
    cases hp : db.payments.find? id with
    | none =>
      simp only [Stmt.eval, Queries.rejectPayment, hp] at he
      cases he
      exact .nothing
    | some p =>
      obtain rfl := Queries.rejectPayment_ok hp he
      exact .checked (Table.mem_of_find? hp).1 rfl (fun hst => by cases hst)
  | createBlock arg =>
    obtain ⟨rfl, -⟩ := Queries.createBlock_ok he
    exact .block (createBlock_fits he _ (List.mem_singleton_self _))
  | deleteBlock id =>
    simp only [Stmt.eval, Queries.deleteBlock] at he
    split at he
    · cases he
      exact .nothing
    · cases he
      exact .unblocked
  | reportMonths cairo f n =>
    obtain ⟨-, rfl⟩ := reads_ok he
    exact .nothing
  | reportUnits f t =>
    obtain ⟨-, rfl⟩ := reads_ok he
    exact .nothing
  | _ =>
    cases he
    exact .nothing

/-- **What a statement writes fits.** -/
theorem eval_fits {s : Stmt} {o : Oracle} {now : ℤ} {db : Db} {v : s.Val} {ws : List Write}
    (hs : Stamps s) (h : Referential db) (he : s.eval o now db = .ok (v, ws)) :
    ∀ w ∈ ws, Fits db w := by
  cases eval_wrote he with
  | nothing => exact fun w hw => absurd hw List.not_mem_nil
  | account hw => exact hw
  | booking hw => exact List.forall_mem_singleton.mpr hw
  | revised hb hu hc => exact List.forall_mem_singleton.mpr (setBooking_fits h hb hu hc)
  | payment hw => exact List.forall_mem_singleton.mpr (hw hs)
  | checked hp hb hstamp =>
    refine List.forall_mem_singleton.mpr ⟨?_, hstamp⟩
    rw [hb]
    exact h.booking _ hp
  | block hw => exact List.forall_mem_singleton.mpr hw
  | unblocked => exact List.forall_mem_singleton.mpr trivial

/-- References as an invariant of single writes. -/
def references : RowInvariant postgres where
  ok := Stamps
  Grows := Grows
  Fits := Fits
  Holds := Referential
  refl := Grows.refl
  trans := Grows.trans
  apply_grows := Grows.apply
  apply_mono := Grows.apply_mono
  fits_grows := Fits.grows
  keeps := Referential.apply
  eval_fits := eval_fits

/-! ### Handlers -/

open Prog

/-- Statements that do not read a unit's columns, and stamp a verified payment. -/
def Plain : Stmt → Prop
  | .getPricingUnit _ _ _ => False
  | .timelineUnits => False
  | .reportMonths _ _ _ => False
  | .reportUnits _ _ => False
  | .todayMovements _ => False
  | .todayCounts _ => False
  | .createPayment arg => arg.status = .verified → arg.verifiedAt.isSome
  | _ => True

/-- The statement that reads a unit for its price and its rules. -/
def ReadsUnit : Stmt → Prop
  | .getPricingUnit _ _ _ => True
  | _ => False

/-- Plain statements that leave the accounts alone. -/
def Tame : Stmt → Prop
  | .ensureCustomer _ _ => False
  | s => Plain s

theorem plain_of_tame {s : Stmt} (h : Tame s) : Plain s := by
  cases s with
  | ensureCustomer phone name => exact absurd h id
  | _ => exact h

theorem stamps_of_plain {s : Stmt} (h : Plain s) : Stamps s := by
  cases s with
  | createPayment arg => exact h
  | _ => trivial

theorem stamps_of_readsUnit {s : Stmt} (h : ReadsUnit s) : Stamps s := by
  cases s with
  | getPricingUnit slug id onlyActive => trivial
  | _ => exact absurd h id

theorem once_getPricingUnit (slug : Option String) (id : Option ℕ) (onlyActive : Bool) :
    (Tx.getPricingUnit slug id onlyActive).Once Tame ReadsUnit :=
  (once_query _ trivial).bind_left (fun _ => only_require _ _)

theorem once_pricingUnitBySlug (slug : String) :
    (pricingUnitBySlug slug).Once Tame ReadsUnit :=
  (once_getPricingUnit _ _ _).mapErr _

theorem only_one {α : Type} {ok : Stmt → Prop} {q : Tx (Option α)} (h : q.Only ok) :
    (Tx.one q).Only ok :=
  only_bind h (fun _ => only_require _ _)

theorem only_tsNow (d : ℤ) : (tsNow d).Only Tame :=
  only_bind (only_query _ trivial) (fun _ => only_pure _)

theorem only_quoteStay (srv : Server) (u : UnitRow) (req : Pricing.Request) :
    (quoteStay srv u req).Only Tame := by
  refine only_bind (only_query _ trivial) (fun t => only_bind (only_check _ _) (fun b => ?_))
  exact only_bind (only_query _ trivial) (fun n => only_bind (only_refuse _ _) (fun _ => only_pure _))

/-- The insert loop runs what its rounds run. -/
theorem only_insertRounds {ok : Stmt → Prop} {params : String → Tx CreateBookingParams}
    (hround : (insertOnce params).Only ok) : ∀ n, (insertWithRef params n).Only ok := by
  intro n
  induction n with
  | zero => exact only_bind hround (fun row => only_check _ _)
  | succ n ih =>
    refine only_bind hround (fun row => ?_)
    cases row with
    | ok row => exact only_pure row
    | error e =>
      simp only
      split_ifs
      · exact ih
      · exact .throw _

theorem only_insertWithRef {params : String → Tx CreateBookingParams}
    (h : ∀ ref, (params ref).Only Tame) : ∀ n, (insertWithRef params n).Only Tame :=
  only_insertRounds
    (only_bind (only_query _ trivial) (fun _ => only_bind (h _) (fun _ => only_attempt trivial)))

theorem once_createBooking (srv : Server) (guestId : ℕ) (req : BookingRequest) :
    (createBooking srv guestId req).Once Tame ReadsUnit := by
  refine Once.bind_right (only_check _ _) (fun range => ?_)
  refine Once.bind_right (only_mapErr _ (only_one (only_query _ trivial))) (fun guest => ?_)
  refine Once.bind_right (only_refuse _ _) (fun _ => ?_)
  refine (once_pricingUnitBySlug _).bind_left (fun u => ?_)
  refine only_mapErr _ (only_bind (only_one (only_query _ trivial)) (fun _ => ?_))
  refine only_bind (only_quoteStay srv u _) (fun b => only_insertWithRef (fun ref => ?_) 5)
  exact only_bind (only_tsNow _) (fun hold => only_pure _)

theorem once_adminCreateBooking (req : ManualBookingRequest) :
    (adminCreateBooking req).Once Plain ReadsUnit := by
  refine Once.bind_right (only_require _ _) (fun unitId => ?_)
  refine Once.bind_right (only_check _ _) (fun range => ?_)
  refine Once.bind_right (only_refuse _ _) (fun _ => ?_)
  refine Once.bind_right (only_require _ _) (fun phone => ?_)
  refine Once.bind_right (only_refuse _ _) (fun _ => ?_)
  refine (((once_getPricingUnit _ _ _).mono (fun _ => plain_of_tame) (fun _ => id)).mapErr
    _).bind_left (fun u => ?_)
  refine only_bind (only_refuse _ _) (fun _ => only_bind (only_refuse _ _) (fun _ => ?_))
  refine only_bind (only_refuse _ _) (fun _ => only_mapErr _ ?_)
  refine only_bind (only_one (only_query _ trivial)) (fun _ => ?_)
  refine only_bind (only_query _ trivial) (fun n => only_bind (only_refuse _ _) (fun _ => ?_))
  refine only_bind (only_query _ trivial) (fun c => ?_)
  exact (only_insertWithRef (fun ref => only_pure _) 5).mono (fun _ => plain_of_tame)

/-- The statement that opens an account for a booking, or names it. -/
def Ensures : Stmt → Prop
  | .ensureCustomer _ _ => True
  | _ => False

theorem spares_of_tame {s : Stmt} (h : Tame s) : ¬ Ensures s := by
  cases s with
  | ensureCustomer phone name => exact absurd h id
  | _ => exact id

theorem spares_of_readsUnit {s : Stmt} (h : ReadsUnit s) : ¬ Ensures s := by
  cases s with
  | ensureCustomer phone name => exact absurd h id
  | _ => exact id

/-- **Only that statement writes an account.** -/
theorem eval_customers {s : Stmt} {o : Oracle} {now : ℤ} {db : Db} {v : s.Val} {ws : List Write}
    (hs : ¬ Ensures s) (he : s.eval o now db = .ok (v, ws)) :
    ∀ w ∈ ws, ∀ d : Db, (d.apply w).customers = d.customers := by
  cases eval_wrote he with
  | nothing => exact fun w hw => absurd hw List.not_mem_nil
  | account => exact absurd trivial hs
  | _ => exact List.forall_mem_singleton.mpr (fun _ => rfl)

/-- A booking of the admin's opens one account, after everything it reads. -/
theorem adminCreateBooking_ensures (req : ManualBookingRequest) :
    (adminCreateBooking req).Once (fun s => ¬ Ensures s) Ensures := by
  refine Once.bind_right (only_require _ _) (fun unitId => ?_)
  refine Once.bind_right (only_check _ _) (fun range => ?_)
  refine Once.bind_right (only_refuse _ _) (fun _ => ?_)
  refine Once.bind_right (only_require _ _) (fun phone => ?_)
  refine Once.bind_right (only_refuse _ _) (fun _ => ?_)
  refine Once.bind_right (only_mapErr _ (only_one (only_query _ id))) (fun u => ?_)
  refine Once.bind_right (only_refuse _ _) (fun _ => Once.bind_right (only_refuse _ _) (fun _ => ?_))
  refine Once.bind_right (only_refuse _ _) (fun _ => Once.mapErr _ ?_)
  refine Once.bind_right (only_one (only_query _ id)) (fun _ => ?_)
  refine Once.bind_right (only_query _ id) (fun n => Once.bind_right (only_refuse _ _) (fun _ => ?_))
  refine (once_query _ trivial).bind_left (fun c => ?_)
  exact (only_insertWithRef (fun ref => only_pure _) 5).mono (fun _ => spares_of_tame)

theorem only_adminCreateBlock (param : Option ℕ) (req : BlockRequest) :
    (adminCreateBlock param req).Only Tame := by
  refine only_bind (only_require _ _) (fun unitId => only_bind (only_check _ _) (fun range => ?_))
  refine only_bind (only_refuse _ _) (fun _ => only_bind (only_refuse _ _) (fun _ => ?_))
  refine only_mapErr _ (only_bind (only_one (only_query _ trivial)) (fun _ => ?_))
  refine only_bind (only_query _ trivial) (fun n => only_bind (only_refuse _ _) (fun _ => ?_))
  exact only_query _ trivial

theorem only_expireEach (ids : List ℕ) : (expireEach ids).Only Tame := by
  induction ids with
  | nil => exact only_pure []
  | cons id ids ih => exact only_bind (only_query _ trivial) (fun _ => only_bind ih (fun _ => only_pure _))

theorem only_settle (bookingId : ℕ) (amount : Int64) : (settle bookingId amount).Only Tame :=
  only_bind (only_one (only_query _ trivial)) (fun _ => only_query _ trivial)

theorem only_uploadPayment (req : UploadRequest) : (uploadPayment req).Only Tame := by
  refine only_bind (only_refuse _ _) (fun _ => only_bind (only_require _ _) (fun form => ?_))
  refine only_bind (only_bind (only_mapErr _ (only_one (only_query _ trivial)))
    (fun view => only_bind (only_refuse _ _) (fun _ => only_pure _))) (fun view => ?_)
  refine only_bind (only_check _ _) (fun _ => ?_)
  refine only_bind (only_mapErr _ (only_query _ trivial)) (fun t => ?_)
  refine only_bind (only_refuse _ _) (fun _ => only_bind (only_require _ _) (fun file => ?_))
  refine only_bind (only_refuse _ _) (fun _ => only_bind (only_require _ _) (fun ext => ?_))
  refine only_bind (only_refuse _ _) (fun _ => ?_)
  refine only_bind (only_mapErr _ (only_query _ trivial)) (fun uuid => ?_)
  refine only_bind (only_mapErr _ (only_query _ trivial)) (fun _ => only_mapErr _ ?_)
  refine only_bind (only_one (only_query _ trivial)) (fun b => ?_)
  refine only_bind (only_check _ _) (fun next => only_bind (only_query _ ?_) (fun _ => ?_))
  · intro hst
    cases hst
  · exact only_query _ trivial

theorem only_adminVerifyPayment (param : Option ℕ) (amount : Int64) (notes : Option String) :
    (adminVerifyPayment param amount notes).Only Tame := by
  refine only_bind (only_require _ _) (fun id => only_bind (only_refuse _ _) (fun _ => ?_))
  refine only_mapErr _ (only_bind (only_one (only_query _ trivial)) (fun p => ?_))
  refine only_bind (only_refuse _ _) (fun _ => only_bind (only_query _ trivial) (fun _ => ?_))
  exact only_bind (only_settle _ _) (fun _ => only_pure _)

theorem only_adminRejectPayment (srv : Server) (param : Option ℕ) (typed : String) :
    (adminRejectPayment srv param typed).Only Tame := by
  have hhold : ∀ b newHold, (rejectHold srv b newHold).Only Tame := by
    intro b newHold
    unfold rejectHold
    split_ifs
    · exact only_bind (only_tsNow _) (fun _ => only_pure _)
    · exact only_pure _
  refine only_bind (only_require _ _) (fun id => only_bind (only_refuse _ _) (fun _ => ?_))
  refine only_mapErr _ (only_bind (only_one (only_query _ trivial)) (fun p => ?_))
  refine only_bind (only_refuse _ _) (fun _ => only_bind (only_query _ trivial) (fun _ => ?_))
  refine only_bind (only_one (only_query _ trivial)) (fun b => ?_)
  refine only_bind (only_query _ trivial) (fun others => only_bind (hhold _ _) (fun hold => ?_))
  exact only_bind (only_query _ trivial) (fun _ => only_pure _)

theorem only_adminRecordPayment (param : Option ℕ) (req : RecordRequest) :
    (adminRecordPayment param req).Only Tame := by
  refine only_bind (only_require _ _) (fun id => only_bind (only_refuse _ _) (fun _ => ?_))
  refine only_mapErr _ (only_bind (only_one (only_query _ trivial)) (fun b => ?_))
  refine only_bind (only_refuse _ _) (fun _ => only_bind (only_tsNow 0) (fun t => ?_))
  exact only_bind (only_query _ (fun _ => rfl)) (fun _ => only_settle _ _)

/-- The other handlers leave the accounts alone and read a unit's columns once, if at all. -/
theorem program_tame (srv : Server) {r : Req} (hr : ∀ req, r ≠ .adminCreateBooking req) :
    (program srv r).Once Tame ReadsUnit := by
  cases r with
  | getAvailability slug f t =>
    refine Once.map _ (Once.bind_right (only_check _ _) (fun range => ?_))
    refine (once_pricingUnitBySlug _).bind_left (fun u => ?_)
    refine only_bind (only_mapErr _ ?_) (fun days => ?_)
    · unfold markBooked
      split
      · exact only_bind (only_query _ trivial) (fun _ => only_pure _)
      · exact only_pure _
    · exact only_bind (only_mapErr _ (only_bind (only_query _ trivial) (fun _ => only_pure _)))
        (fun _ => only_pure _)
  | postQuote slug req =>
    refine Once.map _ (Once.bind_right (only_check _ _) (fun range => ?_))
    refine (once_pricingUnitBySlug _).bind_left (fun u => ?_)
    exact only_mapErr _ (only_quoteStay srv u _)
  | createBooking guestId req => exact (once_createBooking srv guestId req).map _
  | adminCreateBooking req => exact absurd rfl (hr req)
  | adminCreateBlock unitId req => exact (only_map _ (only_adminCreateBlock unitId req)).once
  | adminDeleteBlock id =>
    refine (only_map _ (only_bind (only_require _ _) (fun id => ?_))).once
    exact only_bind (only_mapErr _ (only_query _ trivial)) (fun n => only_refuse _ _)
  | adminCancelBooking id reason =>
    refine (only_map _ (only_bind (only_require _ _) (fun id => ?_))).once
    exact only_mapErr _ (only_one (only_query _ trivial))
  | expireHolds =>
    refine (only_map _ (only_mapErr _ ?_)).once
    exact only_bind (only_query _ trivial) (fun ids => only_expireEach ids)
  | uploadPayment req => exact (only_map _ (only_uploadPayment req)).once
  | adminVerifyPayment id amount notes =>
    exact (only_map _ (only_adminVerifyPayment id amount notes)).once
  | adminRejectPayment id reason => exact (only_map _ (only_adminRejectPayment srv id reason)).once
  | adminRecordPayment id req => exact (only_map _ (only_adminRecordPayment id req)).once

/-- **Every handler reads a unit's columns once**, if at all, and stamps the payments it stores as
verified. -/
theorem program_once (srv : Server) (r : Req) : (program srv r).Once Plain ReadsUnit := by
  by_cases hr : ∃ req, r = .adminCreateBooking req
  · obtain ⟨req, rfl⟩ := hr
    exact (once_adminCreateBooking req).map _
  · exact (program_tame srv (fun req he => hr ⟨req, he⟩)).mono (fun _ => plain_of_tame) (fun _ => id)

/-- **Every handler opens one account**, if any. -/
theorem program_ensures (srv : Server) (r : Req) :
    (program srv r).Once (fun s => ¬ Ensures s) Ensures := by
  by_cases hr : ∃ req, r = .adminCreateBooking req
  · obtain ⟨req, rfl⟩ := hr
    exact (adminCreateBooking_ensures req).map _
  · exact ((program_tame srv (fun req he => hr ⟨req, he⟩)).only.mono
      (fun _ h => h.elim spares_of_tame spares_of_readsUnit)).once

theorem program_only (srv : Server) (r : Req) : (program srv r).Only Stamps :=
  (program_once srv r).only.mono (fun _ h => h.elim stamps_of_plain stamps_of_readsUnit)

/-- **References hold in every reachable state.** -/
theorem reaches_referential {srv : Server} {ok : Db → Req → Prop} {db₀ : Db} (h₀ : db₀.Unbooked)
    {s : Sys} (h : Reaches srv ok db₀ s) : Referential s.db :=
  ((good_quiet (I := references) (referential_of_unbooked h₀)).run (program_only srv) h).1.holds

end Sahel

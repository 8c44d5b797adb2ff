import Sahel.Model.Operations

/-!
# The handlers refine the operations

Every handler, run one statement at a time with any commits of others in between, commits exactly
the operation its request stands for.

* One lemma per query call says what is known after it: the row locked, the value counted, the
  write made, and the locks held from then on.
* One lemma per handler assembles them.  What was read under a lock is carried to the commit by
  `Rely`; what was read before any lock is not used.
* **`program_verified`** collects the handlers, and `reaches_serial` is the refinement: the
  committed rows of every reachable state are those of a serial run of operations.
-/

set_option autoImplicit false

namespace Sahel

open KeyedTable HalfOpen ReadCommitted RelyGuarantee

variable {now : ℤ} {L : List Lock} {W : List Write} {db db' : Db}

/-! ### Query calls -/

/-- A statement that locks and writes nothing. -/
theorem wp_read {ε : Type} {lift : PgError → ε} {s : Stmt} {Q : Post Lock Write Db s.Val}
    (hl : ∀ o t db, s.locks o t db = [])
    (hw : ∀ o t db v ws, s.eval o t db = .ok (v, ws) → ws = [])
    (h : ∀ db', Rely L db db' → ∀ o v, s.eval o now (postgres.view db' W) = .ok (v, []) →
      Q v L W db') :
    guarantees.wp now (Prog.query lift s) Q L W db := by
  rw [wp_query]
  intro db' hR o v ws he
  have hws := hw o now _ v ws he
  subst hws
  rw [show postgres.locks s o now (postgres.view db' W) = [] from hl o now _, List.append_nil,
    List.append_nil]
  exact h db' hR o v he

/-- A `:one` query that locks and writes nothing. -/
theorem wp_one_read {α : Type} {q : Tx (Option α)} {Q : Post Lock Write Db α}
    (h : guarantees.wp now q (fun row L W db => ∀ a, row = some a → Q a L W db) L W db) :
    guarantees.wp now (Tx.one q) Q L W db := by
  simp only [Tx.one, wp_bind, wp_require]
  exact h

theorem wp_now {Q : Post Lock Write Db ℤ} (h : ∀ db', Rely L db db' → ∀ t, Q t L W db') :
    guarantees.wp now Tx.now Q L W db := by
  refine wp_read (fun _ _ _ => rfl) (fun o t db v ws he => ?_) (fun db' hR o v _ => h db' hR v)
  cases he
  rfl

theorem wp_tsNow {d : ℤ} {Q : Post Lock Write Db ℤ} (h : ∀ db', Rely L db db' → ∀ t, Q t L W db') :
    guarantees.wp now (tsNow d) Q L W db := by
  simp only [tsNow, wp_bind, wp_pure]
  exact wp_now (fun db' hR t => h db' hR _)

theorem wp_getPricingUnit {slug : Option String} {id : Option ℕ} {a : Bool}
    {Q : Post Lock Write Db UnitRow}
    (h : ∀ db', Rely L db db' → ∀ u,
      Queries.getPricingUnit slug id a (postgres.view db' W) = some u → Q u L W db') :
    guarantees.wp now (Tx.getPricingUnit slug id a) Q L W db := by
  refine wp_one_read (wp_read (fun _ _ _ => rfl) (fun o t db v ws he => ?_) ?_)
  · cases he
    rfl
  · intro db' hR o v he u hu
    cases he
    exact h db' hR u hu

theorem wp_getCustomer {id : ℕ} {Q : Post Lock Write Db CustomerRow}
    (h : ∀ db', Rely L db db' → ∀ c, Q c L W db') :
    guarantees.wp now (Tx.getCustomer id) Q L W db := by
  refine wp_one_read (wp_read (fun _ _ _ => rfl) (fun o t db v ws he => ?_)
    (fun db' hR o v _ c _ => h db' hR c))
  cases he
  rfl

theorem wp_getBookingView {ref : Option String} {id : Option ℕ} {Q : Post Lock Write Db BookingView}
    (h : ∀ db', Rely L db db' → ∀ v, Q v L W db') :
    guarantees.wp now (Tx.getBookingView ref id) Q L W db := by
  refine wp_one_read (wp_read (fun _ _ _ => rfl) (fun o t db v ws he => ?_)
    (fun db' hR o v _ c _ => h db' hR c))
  cases he
  rfl

theorem wp_lockUnit {id : ℕ} {Q : Post Lock Write Db ℕ}
    (h : ∀ db', Rely L db db' → Q id (L ++ [.unit id]) W db') :
    guarantees.wp now (Tx.lockUnit id) Q L W db := by
  refine wp_one_read ((wp_query _).mpr (fun db' hR o v ws he i hi => ?_))
  cases he
  rw [List.append_nil]
  have hid : i = id := by
    simp only [Queries.lockUnit, Option.map_eq_some_iff] at hi
    obtain ⟨u, hu, rfl⟩ := hi
    exact (Table.mem_of_find? hu).2
  rw [hid]
  exact h db' hR

theorem wp_lockBooking {id : ℕ} {Q : Post Lock Write Db BookingRow}
    (h : ∀ db', Rely L db db' → ∀ b, (postgres.view db' W).bookings.find? id = some b →
      Q b (L ++ [.booking id]) W db') :
    guarantees.wp now (Tx.lockBooking id) Q L W db := by
  refine wp_one_read ((wp_query _).mpr (fun db' hR o v ws he b hb => ?_))
  cases he
  rw [List.append_nil]
  exact h db' hR b hb

theorem wp_lockPayment {id : ℕ} {Q : Post Lock Write Db PaymentRow}
    (h : ∀ db', Rely L db db' → ∀ p, (postgres.view db' W).payments.find? id = some p →
      Q p (L ++ [.payment id]) W db') :
    guarantees.wp now (Tx.lockPayment id) Q L W db := by
  refine wp_one_read ((wp_query _).mpr (fun db' hR o v ws he p hp => ?_))
  cases he
  rw [List.append_nil]
  exact h db' hR p hp

/-- Updating a booking that is locked and stays visible as `b`. -/
theorem wp_setBookingPayment {arg : SetBookingPaymentParams} {b : BookingRow}
    {Q : Post Lock Write Db PUnit} (hid : arg.id = b.id)
    (hb : ∀ db', Rely L db db' → (postgres.view db' W).bookings.find? b.id = some b)
    (h : ∀ db', Rely L db db' → ∀ L' paid,
      Q ⟨⟩ (L ++ L') (W ++ [.setBooking (arg.row b now paid)]) db') :
    guarantees.wp now (Tx.setBookingPayment arg) Q L W db := by
  refine (wp_query _).mpr (fun db' hR o v ws he => ?_)
  obtain ⟨paid, hws⟩ := Queries.setBookingPayment_ok (by rw [hid]; exact hb db' hR) he
  rw [hws]
  exact h db' hR _ paid

theorem wp_createPayment {arg : CreatePaymentParams} {Q : Post Lock Write Db PaymentRow}
    (h : ∀ db', Rely L db db' → ∀ id p, arg.row id = .ok p →
      (postgres.view db' W).payments.find? id = none →
      Q p (L ++ [.payment id]) (W ++ [.insertPayment p]) db') :
    guarantees.wp now (Tx.query (.createPayment arg)) Q L W db := by
  refine (wp_query _).mpr (fun db' hR o v ws he => ?_)
  obtain ⟨hp, hws, hfree⟩ := Queries.createPayment_ok he
  rw [hws]
  exact h db' hR o.uuid v hp hfree

theorem wp_count {unitId : ℕ} {k ci co : ℤ} {Q : Post Lock Write Db ℕ}
    (h : ∀ db', Rely L db db' →
      Q (Queries.countOverlappingStays unitId k ci co (postgres.view db' W)) L W db') :
    guarantees.wp now (Tx.query (.countOverlappingStays unitId k ci co)) Q L W db := by
  refine wp_read (fun _ _ _ => rfl) (fun o t db v ws he => ?_) (fun db' hR o v he => ?_)
  · cases he
    rfl
  · cases he
    exact h db' hR

/-! ### What a lock keeps -/

theorem Clear.rely {u : UnitRow} {ci co : ℤ} (h : Clear db u ci co) (hR : Rely L db db')
    (hL : .unit u.id ∈ L) : Clear db' u ci co where
  stays b' hb' hu ho := by
    obtain ⟨b, hb, hr⟩ := hR.stays u.id hL b' hb' hu ho
    rw [hr.checkIn, hr.checkOut]
    exact h.stays b hb (hr.unitId.symm.trans hu) (hr.occupies ho)
  blocks k hk hu := h.blocks k (hR.blocks u.id hL k hk hu) hu

theorem stay?_congr (r : Req) (h : db'.units = db.units) : r.stay? db' = r.stay? db := by
  cases r <;> simp only [Req.stay?, Queries.getPricingUnit, h]

theorem Books.rely {r : Req} {u : UnitRow} {b : BookingRow} (h : Books r L db u b)
    (hR : Rely L db db') : Books r L db' u b :=
  { h with
    asked := (stay?_congr r hR.units).trans h.asked
    clear := h.clear.rely hR (by rw [← h.unit]; exact h.unitLock)
    idFree := (hR.booking b.id h.idLock).trans h.idFree
    refFree := hR.ref b.ref h.refLock h.refFree }

theorem Closes.rely {k : BlockRow} (h : Closes L db k) (hR : Rely L db db') : Closes L db' k :=
  { h with
    idFree := (hR.block k.id h.idLock).trans h.idFree
    stays := by
      intro b' hb' hu ho
      obtain ⟨b, hb, hr⟩ := hR.stays k.unitId h.unitLock b' hb' hu ho
      rw [hr.checkIn, hr.checkOut]
      exact h.stays b hb (hr.unitId.symm.trans hu) (hr.occupies ho)
    blocks := fun x hx hu => h.blocks x (hR.blocks k.unitId h.unitLock x hx hu) hu }

/-- A locked booking stays stored. -/
theorem mem_rely {b : BookingRow} (hb : b ∈ db.bookings) (hR : Rely L db db')
    (hL : .booking b.id ∈ L) : b ∈ db'.bookings := by
  have h := (hR.booking b.id hL).trans (Table.find?_of_mem hb)
  exact (Table.mem_of_find? h).1

theorem find?_rely {b : BookingRow} {id : ℕ} (hb : db.bookings.find? id = some b)
    (hR : Rely L db db') (hL : .booking id ∈ L) : db'.bookings.find? id = some b :=
  (hR.booking id hL).trans hb

theorem payment_rely {p : PaymentRow} {id : ℕ} (hp : db.payments.find? id = some p)
    (hR : Rely L db db') (hL : .payment id ∈ L) : db'.payments.find? id = some p :=
  (hR.payment id hL).trans hp

theorem Receives.rely {b : BookingRow} {p : PaymentRow} (h : Receives L db b p)
    (hR : Rely L db db') : Receives L db' b p :=
  { h with
    stored := mem_rely h.stored hR h.lock
    idFree := (hR.payment p.id h.idLock).trans h.idFree }

theorem Receives.append {b : BookingRow} {p : PaymentRow} (h : Receives L db b p) (L' : List Lock) :
    Receives (L ++ L') db b p :=
  { h with lock := List.mem_append_left _ h.lock, idLock := List.mem_append_left _ h.idLock }

theorem Checks.rely {b : BookingRow} {p : PaymentRow} (h : Checks L db b p)
    (hR : Rely L db db') : Checks L db' b p :=
  { h with
    stored := mem_rely h.stored hR h.lock
    payment := (Table.mem_of_find?
      (payment_rely (Table.find?_of_mem h.payment) hR h.paymentLock)).1 }

theorem Checks.append {b : BookingRow} {p : PaymentRow} (h : Checks L db b p) (L' : List Lock) :
    Checks (L ++ L') db b p :=
  { h with
    lock := List.mem_append_left _ h.lock, paymentLock := List.mem_append_left _ h.paymentLock }

/-! ### Reading requests -/

theorem wp_pricingUnitBySlug {slug : String} {Q : Post Lock Write Db UnitRow}
    (h : ∀ db', Rely L db db' → ∀ u,
      Queries.getPricingUnit (some slug) none true (postgres.view db' W) = some u → Q u L W db') :
    guarantees.wp now (pricingUnitBySlug slug) Q L W db := by
  rw [pricingUnitBySlug, wp_mapErr]
  exact wp_getPricingUnit h

theorem wp_quoteStay {srv : Server} {u : UnitRow} {req : Pricing.Request}
    {Q : Post Lock Write Db Pricing.Breakdown}
    (h : ∀ db', Rely L db db' → ∀ t b, Pricing.Accepted srv.cairo (pricingUnit u) req t b →
      Queries.countOverlappingStays u.id u.bufferDays req.checkIn req.checkOut
        (postgres.view db' W) = 0 → Q b L W db') :
    guarantees.wp now (quoteStay srv u req) Q L W db := by
  simp only [quoteStay, wp_bind, wp_check, wp_refuse, wp_pure]
  refine wp_now (fun db₁ hR₁ t b hb => wp_count (fun db₂ hR₂ hn => ?_))
  exact h db₂ (hR₁.trans hR₂) t b (Pricing.quote_ok.mp hb) (Nat.eq_zero_of_not_pos hn)

theorem getAvailability_verified (srv : Server) (slug f t : String) :
    guarantees.wp now (program srv (.getAvailability slug f t))
      (guarantees.commits (.getAvailability slug f t)) [] [] db := by
  have hdone : ∀ db₁ db', Rely [] db₁ db' → Op (.getAvailability slug f t) [] db' db' :=
    fun _ _ _ => .read trivial
  show guarantees.wp now (getAvailability srv slug f t >>= _) _ [] [] db
  simp only [getAvailability, cairoToday, wp_bind, wp_check, wp_mapErr]
  intro range _
  refine wp_pricingUnitBySlug (fun db₁ _ u _ => ?_)
  rw [markBooked]
  split
  · simp only [wp_bind, wp_pure]
    refine wp_read (fun _ _ _ => rfl) (fun o t db v ws he => ?_)
      (fun db₂ _ o v _ => wp_now (fun db₃ _ t => hdone db₃))
    cases he
    rfl
  · exact wp_now (fun db₂ _ t => hdone db₂)

theorem postQuote_verified (srv : Server) (slug : String) (req : QuoteRequest) :
    guarantees.wp now (program srv (.postQuote slug req))
      (guarantees.commits (.postQuote slug req)) [] [] db := by
  show guarantees.wp now (postQuote srv slug req >>= _) _ [] [] db
  simp only [postQuote, wp_bind, wp_check, wp_mapErr]
  intro range _
  refine wp_pricingUnitBySlug (fun db₁ _ u _ => wp_quoteStay (fun db₂ _ t b _ _ => ?_))
  intro db' _
  exact Op.read trivial

/-! ### Bookings -/

/-- One round of the insert loop, as far as it can commit. -/
theorem wp_insertOnce {params : String → Tx CreateBookingParams}
    {Q : Post Lock Write Db (Except PgError CreateBookingRow)} :
    guarantees.wp now (insertOnce params) Q L W db ↔
      guarantees.wp now (Tx.query .randomBytes) (fun buf L W db =>
        guarantees.wp now (params (newRef buf)) (fun arg L W db =>
          ∀ db', Rely L db db' → ∀ o v ws,
            Queries.createBooking arg o.uuid (postgres.view db' W) = .ok (v, ws) →
            Q (.ok v) (L ++ (Stmt.createBooking arg).locks o now (postgres.view db' W)) (W ++ ws)
              db') L W db) L W db := by
  simp only [insertOnce, wp_bind, wp_attempt]
  exact Iff.rfl

/-- The insert loop commits one successful round: a failed insert ends the transaction. -/
theorem wp_insertWithRef {params : String → Tx CreateBookingParams} {n : ℕ}
    {Q : Post Lock Write Db CreateBookingRow}
    (h : guarantees.wp now (Tx.query .randomBytes) (fun buf L W db =>
      guarantees.wp now (params (newRef buf)) (fun arg L W db =>
        ∀ db', Rely L db db' → ∀ id b, Queries.Stored arg id b →
          (postgres.view db' W).bookings.find? id = none →
          (∀ x ∈ (postgres.view db' W).bookings, x.ref ≠ arg.ref) →
          Q ⟨b.id, b.ref⟩
            (L ++ [.booking id, .ref arg.ref, .stay arg.unitId arg.checkIn arg.checkOut])
            (W ++ [.insertBooking b]) db') L W db) L W db) :
    guarantees.wp now (insertWithRef params n) Q L W db := by
  have hround : guarantees.wp now (insertOnce params) (fun r L W db => ∃ row, r = .ok row ∧
      Q row L W db) L W db := by
    rw [wp_insertOnce]
    refine wp_mono (fun buf L W db hbuf => wp_mono (fun arg L W db harg => ?_) _ hbuf) _ h
    intro db' hR o v ws he
    obtain ⟨b, hs, rfl, rfl, hid, href, -⟩ := Queries.createBooking_ok he
    exact ⟨_, rfl, harg db' hR o.uuid b hs hid href⟩
  cases n with
  | zero =>
    simp only [insertWithRef, wp_bind, wp_check]
    refine wp_mono (fun r L W db => ?_) _ hround
    rintro ⟨row, rfl, hQ⟩ a ha
    cases ha
    exact hQ
  | succ n =>
    simp only [insertWithRef, wp_bind]
    refine wp_mono (fun r L W db => ?_) _ hround
    rintro ⟨row, rfl, hQ⟩
    exact hQ

/-- What an insert on clear nights under the unit's lock has booked. -/
theorem books_of_stored {r : Req} {u : UnitRow} {arg : CreateBookingParams} {id : ℕ} {b : BookingRow}
    (hs : Queries.Stored arg id b) (hasked : r.stay? db = some ⟨u, arg.checkIn, arg.checkOut⟩)
    (hunit : arg.unitId = u.id) (hclear : Clear db u arg.checkIn arg.checkOut)
    (hL : .unit u.id ∈ L) (hid : db.bookings.find? id = none)
    (href : ∀ x ∈ db.bookings, x.ref ≠ arg.ref) (hdep : arg.depositDue = arg.nightlyPrice)
    (horigin : (arg.source = "web" ∧ arg.status = .pendingPayment ∧ arg.holdExpiresAt.isSome)
      ∨ (arg.source = "admin" ∧ arg.status = .confirmed)) :
    Books r (L ++ [.booking id, .ref arg.ref, .stay arg.unitId arg.checkIn arg.checkOut]) db u b where
  asked := by rw [hs.checkIn, hs.checkOut, hasked]
  unit := hs.unitId.trans hunit
  clear := by rw [hs.checkIn, hs.checkOut]; exact hclear
  unitLock := by
    rw [hs.unitId, hunit]
    exact List.mem_append_left _ hL
  idLock := by simp [hs.id]
  refLock := by simp [hs.ref]
  idFree := by rw [hs.id]; exact hid
  refFree := by rw [hs.ref]; exact href
  unpaid := hs.paidTotal
  unrejected := hs.rejections
  deposit := by rw [hs.depositDue, hs.nightlyPrice, hdep]
  origin := by
    rw [hs.source, hs.status, hs.holdExpiresAt]
    exact horigin

theorem wp_randomBytes {Q : Post Lock Write Db (Fin 5 → UInt8)}
    (h : ∀ db', Rely L db db' → ∀ buf, Q buf L W db') :
    guarantees.wp now (Tx.query .randomBytes) Q L W db := by
  refine wp_read (fun _ _ _ => rfl) (fun o t db v ws he => ?_) (fun db' hR o v _ => h db' hR v)
  cases he
  rfl

theorem clear_of_count {u : UnitRow} {ci co : ℤ}
    (h : Queries.countOverlappingStays u.id u.bufferDays ci co db = 0) : Clear db u ci co := by
  obtain ⟨hs, hb⟩ := Queries.countOverlappingStays_eq_zero.mp h
  exact ⟨hs, hb⟩

/-- The unit and nights a guest's booking asks for. -/
theorem stay?_createBooking (guestId : ℕ) {req : BookingRequest} {range : ℤ × ℤ} {u : UnitRow}
    (hrange : parseRange req.checkIn req.checkOut maxAvailabilitySpan = .ok range)
    (hu : Queries.getPricingUnit (some req.unitSlug) none true db = some u) :
    (Req.createBooking guestId req).stay? db = some ⟨u, range.1, range.2⟩ := by
  simp only [Req.stay?, hrange, hu, Except.toOption, Option.bind_eq_bind, Option.bind_some]
  rfl

theorem createBooking_verified (srv : Server) (guestId : ℕ) (req : BookingRequest) :
    guarantees.wp now (program srv (.createBooking guestId req))
      (guarantees.commits (.createBooking guestId req)) [] [] db := by
  show guarantees.wp now (createBooking srv guestId req >>= _) _ [] [] db
  simp only [createBooking, wp_bind, wp_check, wp_mapErr, wp_refuse]
  intro range hrange
  refine wp_getCustomer (fun db₁ hR₁ guest _ => ?_)
  refine wp_pricingUnitBySlug (fun db₂ hR₂ u hu => ?_)
  refine wp_lockUnit (fun db₃ hR₃ => ?_)
  refine wp_quoteStay (fun db₄ hR₄ t bd hacc hcount => ?_)
  refine wp_insertWithRef (wp_randomBytes (fun db₅ hR₅ buf => ?_))
  simp only [webParams, wp_bind, wp_pure]
  refine wp_tsNow (fun db₆ hR₆ hold db₇ hR₇ id b hs hid href db' hR => ?_)
  -- The unit was read before its lock, but its row never changes; the count was made under it.
  have hunits : db₇.units = db₂.units := by
    rw [hR₇.units, hR₆.units, hR₅.units, hR₄.units, hR₃.units]
  have hasked : (Req.createBooking guestId req).stay? db₇ = some ⟨u, range.1, range.2⟩ := by
    rw [stay?_congr _ hunits]
    exact stay?_createBooking guestId hrange hu
  have hclear : Clear db₇ u range.1 range.2 :=
    ((clear_of_count hcount).rely (hR₅.trans (hR₆.trans hR₇)) (by simp))
  refine Op.book u b db'.customers trivial (Books.rely ?_ hR)
  exact books_of_stored hs hasked rfl hclear (by simp) hid href (by rw [hacc.breakdown])
    (Or.inl ⟨rfl, rfl, rfl⟩)

/-- Opening an account changes accounts only. -/
theorem view_ensureCustomer {phone name : String} {id : ℕ} {seen : Db}
    {row : EnsureCustomerRow} {ws : List Write}
    (h : Queries.ensureCustomer phone name id seen = .ok (row, ws)) (db : Db) :
    ∃ customers, postgres.view db ws = { db with customers := customers } := by
  rcases Queries.ensureCustomer_ok h with ⟨c, -, -, rfl⟩ | ⟨c, -, -, -, -, -, rfl⟩
  · exact ⟨_, rfl⟩
  · exact ⟨_, rfl⟩

theorem adminCreateBooking_verified (srv : Server) (req : ManualBookingRequest) :
    guarantees.wp now (program srv (.adminCreateBooking req))
      (guarantees.commits (.adminCreateBooking req)) [] [] db := by
  show guarantees.wp now (adminCreateBooking req >>= _) _ [] [] db
  simp only [adminCreateBooking, wp_bind, wp_check, wp_mapErr, wp_refuse, wp_require]
  intro unitId hunit range hrange _ phone _ _
  refine wp_getPricingUnit (fun db₁ hR₁ u hu _ _ _ => ?_)
  refine wp_lockUnit (fun db₂ hR₂ => wp_count (fun db₃ hR₃ hn => ?_))
  refine (wp_query _).mpr (fun db₄ hR₄ o c ws he => ?_)
  refine wp_insertWithRef (wp_randomBytes (fun db₅ hR₅ buf => ?_))
  simp only [manualParams, wp_pure]
  intro db₆ hR₆ id b hs hid href db' hR
  have hview : ∀ db, ∃ customers, postgres.view db ws = { db with customers := customers } :=
    view_ensureCustomer he
  have hunits : db₆.units = db₁.units := by
    rw [hR₆.units, hR₅.units, hR₄.units, hR₃.units, hR₂.units]
  have hasked : (Req.adminCreateBooking req).stay? db₆ = some ⟨u, range.1, range.2⟩ := by
    rw [stay?_congr _ hunits]
    simp only [Req.stay?, hrange, hunit, Except.toOption, Option.bind_eq_bind, Option.bind_some]
    rw [show Queries.getPricingUnit none (some unitId) false db₁ = some u from hu]
    rfl
  have hcount : Clear db₃ u range.1 range.2 := clear_of_count (Nat.eq_zero_of_not_pos hn)
  have hclear : Clear db₆ u range.1 range.2 :=
    (hcount.rely hR₄ (by simp)).rely (hR₅.trans hR₆) (by simp)
  obtain ⟨cs₆, hcs₆⟩ := hview db₆
  rw [List.nil_append, hcs₆] at hid href
  obtain ⟨cs, hcs⟩ := hview db'
  rw [List.nil_append ws, Database.view_append, hcs]
  refine Op.book u b cs trivial (Books.rely ?_ hR)
  exact books_of_stored hs hasked rfl hclear (by simp) hid href rfl (Or.inr ⟨rfl, rfl⟩)

theorem adminCancelBooking_verified (srv : Server) (param : Option ℕ) (text : String) :
    guarantees.wp now (program srv (.adminCancelBooking param text))
      (guarantees.commits (.adminCancelBooking param text)) [] [] db := by
  show guarantees.wp now (adminCancelBooking param text >>= _) _ [] [] db
  simp only [adminCancelBooking, parseID, Tx.cancelBooking, Tx.one, wp_bind, wp_mapErr, wp_require]
  intro id hid
  refine (wp_query _).mpr (fun db₁ hR₁ o v ws he i hi db' hR => ?_)
  subst hi
  obtain ⟨b, hb, hs, rfl⟩ := Queries.cancelBooking_ok he
  have hb' : db'.bookings.find? id = some b := find?_rely hb hR (by simp [postgres, Stmt.locks])
  obtain ⟨hm, rfl⟩ := Table.mem_of_find? hb'
  rw [hid]
  exact Op.cancel b _ now hm (by simp [postgres, Stmt.locks]) hs

/-! ### Blocks -/

theorem adminCreateBlock_verified (srv : Server) (param : Option ℕ) (req : BlockRequest) :
    guarantees.wp now (program srv (.adminCreateBlock param req))
      (guarantees.commits (.adminCreateBlock param req)) [] [] db := by
  show guarantees.wp now (adminCreateBlock param req >>= _) _ [] [] db
  simp only [adminCreateBlock, parseID, wp_bind, wp_check, wp_mapErr, wp_refuse, wp_require]
  intro unitId _ range _ _ _
  refine wp_lockUnit (fun db₁ hR₁ => ?_)
  refine wp_read (fun _ _ _ => rfl) (fun o t db v ws he => ?_) (fun db₂ hR₂ o n he hn => ?_)
  · cases he
    rfl
  refine (wp_query _).mpr (fun db₃ hR₃ o k ws he' db' hR => ?_)
  cases he
  have hcount := Queries.countBookingsInRange_eq_zero.mp (Nat.eq_zero_of_not_pos hn)
  obtain ⟨rfl, hid, hunit, hstart, hend, hfree, hclear⟩ := Queries.createBlock_ok he'
  refine Op.block k (Closes.rely ?_ hR)
  refine ⟨by simp [hunit], by simp [postgres, Stmt.locks, hid], by rw [hid]; exact hfree, ?_, hclear⟩
  -- The bookings were counted under the unit's lock, so they are still clear of the block.
  intro b' hb' hu ho
  obtain ⟨b, hb, hr⟩ := hR₃.stays unitId (by simp) b' hb' (hu.trans hunit) ho
  rw [hr.checkIn, hr.checkOut, hstart, hend]
  exact hcount b hb (hr.unitId.symm.trans (hu.trans hunit)) (hr.occupies ho)

theorem adminDeleteBlock_verified (srv : Server) (param : Option ℕ) :
    guarantees.wp now (program srv (.adminDeleteBlock param))
      (guarantees.commits (.adminDeleteBlock param)) [] [] db := by
  show guarantees.wp now (adminDeleteBlock param >>= _) _ [] [] db
  simp only [adminDeleteBlock, parseID, finishDelete, wp_bind, wp_mapErr, wp_refuse, wp_require]
  intro id hid
  refine (wp_query _).mpr (fun db₁ hR₁ o n ws he hn db' hR => ?_)
  obtain ⟨rfl, -⟩ := Queries.deleteBlock_ok he hn
  rw [hid]
  exact Op.unblock (by simp [postgres, Stmt.locks])

/-! ### Holds -/

/-- The writes of an expiry so far, and the locks that keep them true. -/
structure Expiring (now : ℤ) (L : List Lock) (W : List Write) (db : Db) (bs : List BookingRow) :
    Prop where
  writes : W = bs.map (fun b => .setBooking b.expired)
  due : ∀ b ∈ bs, b ∈ db.bookings ∧ .booking b.id ∈ L ∧ HoldOver now b

theorem Expiring.rely {bs : List BookingRow} (h : Expiring now L W db bs) (hR : Rely L db db') :
    Expiring now L W db' bs :=
  ⟨h.writes, fun b hb => ⟨mem_rely (h.due b hb).1 hR (h.due b hb).2.1, (h.due b hb).2⟩⟩

theorem view_expired (bs : List BookingRow) : ∀ db : Db,
    postgres.view db (bs.map (fun b => .setBooking b.expired))
      = { db with bookings := db.bookings.setAll (bs.map BookingRow.expired) } := by
  induction bs with
  | nil => intro db; rfl
  | cons b bs ih => intro db; exact ih (db.setBooking b.expired)

/-- One more row: released now, or left alone. -/
theorem Expiring.step {bs : List BookingRow} {id : ℕ} {ref : Option String} {ws : List Write}
    (h : Expiring now L W db bs)
    (he : Queries.expireHold id now (postgres.view db W) = .ok (ref, ws)) :
    ∃ bs', Expiring now (L ++ [.booking id]) (W ++ ws) db bs' := by
  have hold : ∀ b ∈ bs, b ∈ db.bookings ∧ .booking b.id ∈ L ++ [.booking id] ∧ HoldOver now b :=
    fun b hb => ⟨(h.due b hb).1, List.mem_append_left _ (h.due b hb).2.1, (h.due b hb).2.2⟩
  rcases Queries.expireHold_ok he with rfl | ⟨b, hb, ho, rfl⟩
  · exact ⟨bs, ⟨by rw [List.append_nil, h.writes], hold⟩⟩
  · refine ⟨bs ++ [b], ⟨by rw [h.writes, List.map_append, List.map_singleton], ?_⟩⟩
    intro x hx
    rcases List.mem_append.mp hx with hx | hx
    · exact hold x hx
    · rw [List.mem_singleton.mp hx]
      obtain ⟨hm, rfl⟩ := Table.mem_of_find? hb
      rw [h.writes, view_expired] at hm
      refine ⟨?_, by simp, ho⟩
      -- A row this transaction has already expired no longer waits for payment.
      rcases Table.mem_setAll hm with ⟨hm, -⟩ | hm
      · exact hm
      · obtain ⟨y, -, rfl⟩ := List.mem_map.mp hm
        cases ho.1

theorem wp_expireEach {Q : Post Lock Write Db (List String)} (ids : List ℕ) :
    ∀ {L W db bs}, Expiring now L W db bs →
      (∀ refs L W db bs, Expiring now L W db bs → Q refs L W db) →
      guarantees.wp now (expireEach ids) Q L W db := by
  induction ids generalizing Q with
  | nil =>
    intro L W db bs h hQ
    exact hQ [] L W db bs h
  | cons id ids ih =>
    intro L W db bs h hQ
    simp only [expireEach, wp_bind, wp_pure]
    refine (wp_query _).mpr (fun db₁ hR₁ o ref ws he => ?_)
    obtain ⟨bs', h'⟩ := (h.rely hR₁).step he
    exact ih h' (fun refs L W db bs h => hQ _ L W db bs h)

theorem expireHolds_verified (srv : Server) :
    guarantees.wp now (program srv .expireHolds) (guarantees.commits .expireHolds) [] [] db := by
  show guarantees.wp now (expireHolds.mapErr _ >>= _) _ [] [] db
  simp only [expireHolds, wp_bind, wp_mapErr]
  refine wp_read (fun _ _ _ => rfl) (fun o t db v ws he => ?_) (fun db₁ hR₁ o ids _ => ?_)
  · cases he
    rfl
  have hnone : Expiring now [] [] db₁ [] := ⟨rfl, fun b hb => absurd hb List.not_mem_nil⟩
  refine wp_expireEach ids hnone ?_
  intro refs L W db₂ bs h db' hR
  rw [h.writes, view_expired]
  exact Op.expire bs now (h.rely hR).due

/-! ### Payments -/

theorem row_ok {arg : CreatePaymentParams} {id : ℕ} {p : PaymentRow} (h : arg.row id = .ok p) :
    p.id = id ∧ p.bookingId = arg.bookingId ∧ p.status = arg.status ∧ p.amount = arg.amount := by
  simp only [CreatePaymentParams.row] at h
  split_ifs at h
  cases h
  exact ⟨rfl, rfl, rfl, rfl⟩

theorem payable_ok {s next : Status} (h : payable s = .ok next) : afterUpload s = some next := by
  unfold payable at h
  split at h
  · rename_i hn
    cases h
    exact hn
  · cases h

theorem wp_guestBooking {ref last4 : String} {guestId : Option ℕ} {Q : Post Lock Write Db BookingView}
    (h : ∀ db', Rely L db db' → ∀ v, Q v L W db') :
    guarantees.wp now (guestBooking ref guestId last4) Q L W db := by
  simp only [guestBooking, wp_bind, wp_mapErr, wp_refuse, wp_pure]
  exact wp_getBookingView (fun db' hR v _ => h db' hR v)

/-- The transaction of an upload, whatever booking the reads before it found. -/
theorem wp_recordReceipt {req : UploadRequest} {bookingId : ℕ} {amount : Int64}
    {name number key mime : String} :
    guarantees.wp now (recordReceipt bookingId amount name number key mime)
      (guarantees.commits (.uploadPayment req)) [] [] db := by
  simp only [recordReceipt, wp_bind, wp_check]
  refine wp_lockBooking (fun db₁ hR₁ b hb next hnext => ?_)
  refine wp_createPayment (fun db₂ hR₂ id p hp hfree => ?_)
  obtain ⟨hm, rfl⟩ := Table.mem_of_find? hb
  obtain ⟨rfl, hbk, hst, -⟩ := row_ok hp
  refine wp_setBookingPayment (b := b) rfl (fun db₃ hR₃ => ?_) (fun db₃ hR₃ L' paid db' hR => ?_)
  · show db₃.bookings.find? b.id = some b
    exact find?_rely (find?_rely hb hR₂ (by simp)) hR₃ (by simp)
  have hrec : Receives ([] ++ [.booking b.id] ++ [.payment p.id]) db₂ b p :=
    ⟨mem_rely hm hR₂ (by simp), by simp, hbk, by simp, hfree⟩
  exact Op.upload b p next now (((hrec.rely hR₃).append L').rely hR) (payable_ok hnext) hst

theorem uploadPayment_verified (srv : Server) (req : UploadRequest) :
    guarantees.wp now (program srv (.uploadPayment req))
      (guarantees.commits (.uploadPayment req)) [] [] db := by
  show guarantees.wp now (uploadPayment req >>= _) _ [] [] db
  simp only [uploadPayment, wp_bind, wp_check, wp_mapErr, wp_refuse, wp_require]
  intro _ form _
  refine wp_guestBooking (fun db₁ _ view next _ => wp_now (fun db₂ _ t _ file _ _ ext _ _ => ?_))
  refine wp_read (fun _ _ _ => rfl) (fun o t db v ws he => ?_) (fun db₃ _ o uuid _ => ?_)
  · cases he
    rfl
  refine wp_read (fun _ _ _ => rfl) (fun o t db v ws he => ?_) (fun db₄ _ o _ _ => ?_)
  · simp only [Stmt.eval] at he
    split_ifs at he
    cases he
    rfl
  · exact wp_recordReceipt

/-- Settling a booking whose row is visible as it is stored: its update is the only further
write. -/
theorem wp_settle {bookingId : ℕ} {amount : Int64} {Q : Post Lock Write Db PUnit}
    (hview : ∀ db, (postgres.view db W).bookings = db.bookings)
    (h : ∀ db', Rely L db db' → ∀ b, b ∈ db'.bookings → b.id = bookingId → ∀ L' paid,
      Q ⟨⟩ (L ++ [.booking b.id] ++ L')
        (W ++ [.setBooking ((settleParams b amount).row b now paid)]) db') :
    guarantees.wp now (settle bookingId amount) Q L W db := by
  simp only [settle, wp_bind]
  refine wp_lockBooking (fun db₁ hR₁ b hb => ?_)
  rw [hview] at hb
  obtain ⟨hm, rfl⟩ := Table.mem_of_find? hb
  refine wp_setBookingPayment (b := b) rfl (fun db₂ hR₂ => ?_) (fun db₂ hR₂ L' paid => ?_)
  · rw [hview]
    exact find?_rely hb hR₂ (by simp)
  · exact h db₂ (hR₁.trans (hR₂.mono (List.subset_append_left _ _)))
      b (mem_rely hm hR₂ (by simp)) rfl L' paid

theorem adminVerifyPayment_verified (srv : Server) (param : Option ℕ) (amount : Int64)
    (notes : Option String) :
    guarantees.wp now (program srv (.adminVerifyPayment param amount notes))
      (guarantees.commits (.adminVerifyPayment param amount notes)) [] [] db := by
  show guarantees.wp now (adminVerifyPayment param amount notes >>= _) _ [] [] db
  simp only [adminVerifyPayment, parseID, wp_bind, wp_mapErr, wp_refuse, wp_require]
  intro id hid hpos
  refine wp_lockPayment (fun db₁ hR₁ p hp hst => ?_)
  refine (wp_query _).mpr (fun db₂ hR₂ o v ws he => ?_)
  have hp₂ : db₂.payments.find? id = some p := payment_rely hp hR₂ (by simp)
  obtain ⟨ha, rfl⟩ := Queries.verifyPayment_ok hp₂ he
  obtain ⟨hm, rfl⟩ := Table.mem_of_find? hp₂
  refine wp_settle (fun db => rfl) (fun db₃ hR₃ b hb hbk L' paid db' hR => ?_)
  have hp₃ := payment_rely (Table.find?_of_mem hm) hR₃ (by simp)
  have hc : Checks ([] ++ [.payment p.id] ++ [.payment p.id] ++ [.booking b.id]) db₃ b p :=
    ⟨hb, by simp, (Table.mem_of_find? hp₃).1, hbk.symm, by simp, not_not.mp hst⟩
  rw [hid]
  exact Op.verify b p now ((hc.append L').rely hR) ha (Int64.not_le.mp hpos) paid

theorem adminRecordPayment_verified (srv : Server) (param : Option ℕ) (req : RecordRequest) :
    guarantees.wp now (program srv (.adminRecordPayment param req))
      (guarantees.commits (.adminRecordPayment param req)) [] [] db := by
  show guarantees.wp now (adminRecordPayment param req >>= _) _ [] [] db
  simp only [adminRecordPayment, parseID, wp_bind, wp_mapErr, wp_refuse, wp_require]
  intro id hid hpos
  refine wp_lockBooking (fun db₁ hR₁ b hb hst => wp_tsNow (fun db₂ hR₂ t => ?_))
  obtain ⟨hm, rfl⟩ := Table.mem_of_find? hb
  refine wp_createPayment (fun db₃ hR₃ id' p hp hfree => ?_)
  obtain ⟨rfl, hbk, hps, hpa⟩ := row_ok hp
  refine wp_settle (fun db => rfl) (fun db₄ hR₄ b' hb' hbk' L' paid db' hR => ?_)
  -- The booking was locked before the payment was stored, so `settle` reads the same row.
  have hm₃ : b ∈ db₃.bookings := mem_rely (mem_rely hm hR₂ (by simp)) hR₃ (by simp)
  have hbb : b' = b := Table.eq_of_key_eq hb' (mem_rely hm₃ hR₄ (by simp)) hbk'
  subst hbb
  have hrec : Receives ([] ++ [.booking b'.id] ++ [.payment p.id]) db₃ b' p :=
    ⟨hm₃, by simp, hbk, by simp, hfree⟩
  have hrec₄ := (((hrec.rely hR₄).append [.booking b'.id]).append L').rely hR
  rw [hid]
  exact Op.record b' p now hrec₄ (not_not.mp hst) (Int64.not_le.mp hpos) ⟨hps, hpa⟩ paid

theorem LastWaiting.rely {b : BookingRow} {p : PaymentRow} (hR : Rely L db db')
    (hL : .booking b.id ∈ L) : LastWaiting db' b p ↔ LastWaiting db b p := by
  constructor
  · intro h q hq hb
    exact h q ((hR.receipts b.id hL q hb).mpr hq) hb
  · intro h q hq hb
    exact h q ((hR.receipts b.id hL q hb).mp hq) hb

/-- Counting after the rejection is written: no other payment waits. -/
theorem count_eq_zero_iff {p : PaymentRow} (b : BookingRow) (reason : Option String)
    (hp : p ∈ db.payments) :
    Queries.countPendingPaymentsForBooking b.id (db.setPayment (p.rejected reason)) = 0 ↔
      LastWaiting db b p := by
  rw [Queries.countPendingPaymentsForBooking_eq_zero]
  have hmem : ∀ q, q ∈ (db.setPayment (p.rejected reason)).payments ↔
      (q ∈ db.payments ∧ q.id ≠ p.id) ∨ q = p.rejected reason :=
    fun q => Table.mem_set_of_mem hp rfl
  constructor
  · intro h q hq hb hid
    exact h q ((hmem q).mpr (Or.inl ⟨hq, hid⟩)) hb
  · intro h q hq hb
    rcases (hmem q).mp hq with ⟨hq, hid⟩ | rfl
    · exact h q hq hb hid
    · intro hs
      cases hs

theorem wp_rejectHold {srv : Server} {b : BookingRow} {newHold : Bool}
    {Q : Post Lock Write Db (Option ℤ)}
    (h : ∀ db', Rely L db db' → ∀ hold,
      (if newHold then hold.isSome = true else hold = b.holdExpiresAt) → Q hold L W db') :
    guarantees.wp now (rejectHold srv b newHold) Q L W db := by
  rw [rejectHold]
  split
  · rename_i hn
    simp only [wp_bind, wp_pure]
    exact wp_tsNow (fun db' hR t => h db' hR (some t) (by simp [hn]))
  · rename_i hn
    exact h db (Rely.refl L db) _ (by simp [hn])

theorem adminRejectPayment_verified (srv : Server) (param : Option ℕ) (typed : String) :
    guarantees.wp now (program srv (.adminRejectPayment param typed))
      (guarantees.commits (.adminRejectPayment param typed)) [] [] db := by
  show guarantees.wp now (adminRejectPayment srv param typed >>= _) _ [] [] db
  simp only [adminRejectPayment, parseID, wp_bind, wp_mapErr, wp_refuse, wp_require]
  intro id hid _
  refine wp_lockPayment (fun db₁ hR₁ p hp hst => ?_)
  refine (wp_query _).mpr (fun db₂ hR₂ o v ws he => ?_)
  have hp₂ : db₂.payments.find? id = some p := payment_rely hp hR₂ (by simp)
  have hws := Queries.rejectPayment_ok hp₂ he
  subst hws
  obtain ⟨hm, rfl⟩ := Table.mem_of_find? hp₂
  refine wp_lockBooking (fun db₃ hR₃ b hb => ?_)
  obtain ⟨hmb, hbk⟩ := Table.mem_of_find? (t := db₃.bookings) hb
  refine wp_read (fun _ _ _ => rfl) (fun o t db v ws he => ?_) (fun db₄ hR₄ o others he' => ?_)
  · cases he
    rfl
  cases he'
  refine wp_rejectHold (fun db₅ hR₅ hold hhold => ?_)
  refine wp_setBookingPayment (b := b) rfl (fun db₆ hR₆ => ?_) (fun db₆ hR₆ L' paid db' hR => ?_)
  · show db₆.bookings.find? b.id = some b
    exact find?_rely (Table.find?_of_mem hmb) (hR₄.trans (hR₅.trans hR₆)) (by simp [hbk])
  -- Both rows are locked from here on, so what was read of them is what is written over.
  have hp₃ := payment_rely (Table.find?_of_mem hm) hR₃ (by simp)
  have hp₄ : p ∈ db₄.payments := (Table.mem_of_find? (payment_rely hp₃ hR₄ (by simp))).1
  have hc : Checks ([] ++ [.payment p.id] ++ [.payment p.id] ++ [.booking p.bookingId]) db₄ b p :=
    ⟨mem_rely hmb hR₄ (by simp [hbk]), by simp [hbk], hp₄, hbk.symm, by simp, not_not.mp hst⟩
  have hlast := count_eq_zero_iff b (some (trimSpace typed)) hp₄
  have hc' := (((hc.rely hR₅).rely hR₆).append L').rely hR
  rw [hid]
  refine Op.reject b p _ _ hold now hc' (hlast.trans ?_) hhold
  rw [LastWaiting.rely hR (by simp [hbk]), LastWaiting.rely hR₆ (by simp [hbk]),
    LastWaiting.rely hR₅ (by simp [hbk])]

/-! ### The refinement -/

/-- **Every handler commits its operation.** -/
theorem program_verified (srv : Server) : guarantees.Verified (program srv) := by
  intro r now db
  cases r with
  | getAvailability slug f t => exact getAvailability_verified srv slug f t
  | postQuote slug req => exact postQuote_verified srv slug req
  | createBooking guestId req => exact createBooking_verified srv guestId req
  | adminCreateBooking req => exact adminCreateBooking_verified srv req
  | adminCreateBlock unitId req => exact adminCreateBlock_verified srv unitId req
  | adminDeleteBlock id => exact adminDeleteBlock_verified srv id
  | adminCancelBooking id reason => exact adminCancelBooking_verified srv id reason
  | expireHolds => exact expireHolds_verified srv
  | uploadPayment req => exact uploadPayment_verified srv req
  | adminVerifyPayment id amount notes => exact adminVerifyPayment_verified srv id amount notes
  | adminRejectPayment id reason => exact adminRejectPayment_verified srv id reason
  | adminRecordPayment id req => exact adminRecordPayment_verified srv id req

theorem sound_of_reaches {srv : Server} {ok : Db → Req → Prop} {db₀ : Db} {s : Sys}
    (h : Reaches srv ok db₀ s) : guarantees.Sound s :=
  (sound_quiet db₀).run (program_verified srv) h

/-- **Refinement.**  The committed rows of a reachable state are those of a serial run. -/
theorem reaches_serial {srv : Server} {ok : Db → Req → Prop} {db₀ : Db} {s : Sys}
    (h : Reaches srv ok db₀ s) : guarantees.Serial ok db₀ s.db :=
  (sound_quiet db₀).serial (program_verified srv) h

/-- A committing step from a reachable state is its request's operation. -/
theorem commit_op {srv : Server} {ok : Db → Req → Prop} {db₀ : Db} {s s' : Sys} {r : Req}
    (h : Reaches srv ok db₀ s) (hstep : Commits srv s r s') : ∃ L, Op r L s.db s'.db :=
  (sound_of_reaches h).commit_op hstep

/-- **Invariants.**  What holds of the first rows and is kept by every operation whose commit
meets `ok` holds of the committed rows of every reachable state. -/
theorem reaches_invariant {srv : Server} {ok : Db → Req → Prop} {db₀ : Db} {s : Sys} {P : Db → Prop}
    (h : Reaches srv ok db₀ s) (h₀ : P db₀)
    (hop : ∀ {r L db db'}, P db → ok db r → Op r L db db' → P db') : P s.db :=
  (reaches_serial h).invariant h₀ hop

/-- The same from any reachable state on. -/
theorem runs_invariant {srv : Server} {ok ok' : Db → Req → Prop} {db₀ : Db} {s s' : Sys}
    {P : Db → Prop} (h : Reaches srv ok db₀ s) (hrun : Runs srv ok' s s') (hs : P s.db)
    (hop : ∀ {r L db db'}, P db → ok' db r → Op r L db db' → P db') : P s'.db :=
  ((sound_of_reaches h).serial (program_verified srv) hrun).invariant hs hop

end Sahel

import Sahel.Library.Schedule
import Sahel.Model.World

/-!
# Booking on the unit's terms

`createBooking` reads the unit's row, then locks it, and checks the stay against the row it read.
An edit of the unit that commits in between is missed: the lock returns and the stay is sold on the
old terms.

* `WebBooking` is what a booking that commits has run;
* `commit_books`: a booking that commits adds the one row its transaction has inserted, and
  `commit_web` that a guest's is of the unit its transaction has read;
* **`booked_on_terms`**: in every run, a booking whose lock finds limits no stricter than those it has
  read stands on the locked row exactly if that row is still on sale as it was read;
* **`booked_on_old_terms`**: with an edit in between it does not.
-/

set_option autoImplicit false

namespace Sahel

open KeyedTable HalfOpen ReadCommitted

/-! ### What a booking has run -/

section Ran

variable {now : ℤ} {W W' : List Write} {es : List (Event Db Oracle Stmt)}

theorem ran_one {α : Type} {q : Tx (Option α)} {a : α} (h : Ran postgres now (Tx.one q) W es a W') :
    Ran postgres now q W es (some a) W' := by
  obtain ⟨es₁, es₂, x, W₁, rfl, hq, hreq⟩ := Ran.of_bind h
  obtain ⟨rfl, rfl, rfl⟩ := Ran.of_require hreq
  rwa [List.append_nil]

/-- A statement that only reads. -/
theorem ran_read {ε : Type} {lift : PgError → ε} {s : Stmt} {v : s.Val}
    (hs : ∀ {o db v ws}, s.eval o now db = .ok (v, ws) → ws = [])
    (h : Ran postgres now (Prog.query lift s) W es v W') :
    ∃ o db, es = [⟨s, o, db⟩] ∧ s.eval o now (postgres.view db W) = .ok (v, []) ∧ W' = W := by
  obtain ⟨o, db, ws, rfl, he, rfl⟩ := Ran.of_query h
  obtain rfl : ws = [] := hs he
  exact ⟨o, db, rfl, he, List.append_nil W⟩

theorem ran_now {t : ℤ} (h : Ran postgres now Tx.now W es t W') :
    ∃ o db, es = [⟨.now, o, db⟩] ∧ t = o.clock ∧ W' = W := by
  obtain ⟨o, db, rfl, he, rfl⟩ := ran_read (fun he => by cases he; rfl) h
  cases he
  exact ⟨o, db, rfl, rfl, rfl⟩

theorem ran_quoteStay {srv : Server} {u : UnitRow} {req : Pricing.Request} {b : Pricing.Breakdown}
    (h : Ran postgres now (quoteStay srv u req) W es b W') :
    ∃ o₁ db₁ o₂ db₂, es = [⟨.now, o₁, db₁⟩,
        ⟨.countOverlappingStays u.id u.bufferDays req.checkIn req.checkOut, o₂, db₂⟩] ∧
      Pricing.Accepted srv.cairo (pricingUnit u) req o₁.clock b ∧ W' = W := by
  obtain ⟨es₁, es₂, t, W₁, rfl, hnow, h₁⟩ := Ran.of_bind h
  obtain ⟨o₁, db₁, rfl, rfl, rfl⟩ := ran_now hnow
  obtain ⟨es₃, es₄, b', W₂, rfl, hcheck, h₂⟩ := Ran.of_bind h₁
  obtain ⟨rfl, hb, rfl⟩ := Ran.of_check hcheck
  obtain ⟨es₅, es₆, n, W₃, rfl, hcount, h₃⟩ := Ran.of_bind h₂
  obtain ⟨o₂, db₂, rfl, -, rfl⟩ := ran_read (fun he => by cases he; rfl) hcount
  obtain ⟨es₇, es₈, x, W₄, rfl, hrefuse, h₄⟩ := Ran.of_bind h₃
  obtain ⟨rfl, -, rfl⟩ := Ran.of_refuse hrefuse
  obtain ⟨rfl, rfl, rfl⟩ := Ran.of_pure h₄
  exact ⟨o₁, db₁, o₂, db₂, rfl, Pricing.quote_ok.mp hb, rfl⟩

/-- One round inserts: a statement that fails ends the transaction. -/
theorem ran_insertOnce {params : String → Tx CreateBookingParams}
    {r : Except PgError CreateBookingRow} (h : Ran postgres now (insertOnce params) W es r W') :
    ∃ e₁ es₂ o db buf arg W₁ x, es = e₁ :: es₂ ++ [⟨.createBooking arg, o, db⟩] ∧
      e₁.stmt = .randomBytes ∧ Ran postgres now (params (newRef buf)) W es₂ arg W₁ ∧
      Queries.Stored arg o.uuid x ∧ r = .ok ⟨x.id, x.ref⟩ ∧ W' = W₁ ++ [.insertBooking x] := by
  obtain ⟨es₁, es₂, buf, W₁, rfl, hbytes, h₁⟩ := Ran.of_bind h
  obtain ⟨o₁, db₁, rfl, -, rfl⟩ := ran_read (fun he => by cases he; rfl) hbytes
  obtain ⟨es₃, es₄, arg, W₂, rfl, hparams, h₂⟩ := Ran.of_bind h₁
  obtain ⟨o, db, v, ws, rfl, he, rfl, rfl⟩ := Ran.of_attempt h₂
  obtain ⟨x, hx, rfl, rfl, -⟩ := Queries.createBooking_ok he
  exact ⟨_, es₃, o, db, buf, arg, W₂, x, rfl, rfl, hparams, hx, rfl, rfl⟩

theorem ran_insertWithRef {params : String → Tx CreateBookingParams} {n : ℕ} {row : CreateBookingRow}
    (h : Ran postgres now (insertWithRef params n) W es row W') :
    ∃ e₁ es₂ o db buf arg W₁ x, es = e₁ :: es₂ ++ [⟨.createBooking arg, o, db⟩] ∧
      e₁.stmt = .randomBytes ∧ Ran postgres now (params (newRef buf)) W es₂ arg W₁ ∧
      Queries.Stored arg o.uuid x ∧ W' = W₁ ++ [.insertBooking x] := by
  cases n with
  | zero =>
    obtain ⟨es₁, es₂, r, W₁, rfl, honce, h₁⟩ := Ran.of_bind h
    obtain ⟨rfl, -, rfl⟩ := Ran.of_check h₁
    obtain ⟨e₁, es₂, o, db, buf, arg, W₂, x, rfl, he₁, hparams, hx, -, rfl⟩ := ran_insertOnce honce
    exact ⟨e₁, es₂, o, db, buf, arg, W₂, x, List.append_nil _, he₁, hparams, hx, rfl⟩
  | succ n =>
    obtain ⟨es₁, es₂, r, W₁, rfl, honce, h₁⟩ := Ran.of_bind h
    obtain ⟨e₁, es₂, o, db, buf, arg, W₂, x, rfl, he₁, hparams, hx, rfl, rfl⟩ := ran_insertOnce honce
    obtain ⟨rfl, -, rfl⟩ := Ran.of_pure h₁
    exact ⟨e₁, es₂, o, db, buf, arg, W₂, x, List.append_nil _, he₁, hparams, hx, rfl⟩

theorem ran_webParams {srv : Server} {u : UnitRow} {guest : CustomerRow} {req : Pricing.Request}
    {b : Pricing.Breakdown} {ref : String} {arg : CreateBookingParams}
    (h : Ran postgres now (webParams srv u guest req b ref) W es arg W') :
    (∃ o db, es = [⟨.now, o, db⟩]) ∧ W' = W ∧ arg.unitId = u.id ∧ arg.checkIn = req.checkIn ∧
      arg.checkOut = req.checkOut ∧ arg.guests = Int16.ofInt req.guests ∧
      arg.nightlyPrice = b.nightlyPrice ∧ arg.total = b.total ∧ arg.depositDue = b.depositDue := by
  obtain ⟨es₁, es₂, hold, W₁, rfl, hts, h₁⟩ := Ran.of_bind h
  obtain ⟨es₃, es₄, t, W₂, rfl, hnow, hstamp⟩ := Ran.of_bind hts
  obtain ⟨o, db, rfl, -, rfl⟩ := ran_now hnow
  obtain ⟨rfl, -, rfl⟩ := Ran.of_pure hstamp
  obtain ⟨rfl, rfl, rfl⟩ := Ran.of_pure h₁
  exact ⟨⟨o, db, rfl⟩, rfl, rfl, rfl, rfl, rfl, rfl, rfl, rfl⟩

/-- The unit's row as a statement reads it. -/
def readUnit? : AllStmt → Db → Option UnitRow
  | .inl (.getPricingUnit slug id onlyActive), db => Queries.getPricingUnit slug id onlyActive db
  | _, _ => none

/-- The unit's row as a statement locks it. -/
def lockedUnit? : AllStmt → Db → Option UnitRow
  | .inl (.lockUnit id), db => db.units.find? id
  | _, _ => none

/-- What a booking on the website has run when it commits: the unit's row read, its lock, the clock,
and the stay it inserts. -/
structure WebBooking (srv : Server) (req : BookingRequest) (es : List (Event Db Oracle Stmt))
    (W : List Write) (u : UnitRow) (x : BookingRow) (read lock clock : Event Db Oracle Stmt) : Prop where
  ran : read ∈ es ∧ lock ∈ es ∧ clock ∈ es
  readStmt : read.stmt = .getPricingUnit (some req.unitSlug) none true
  readUnit : Queries.getPricingUnit (some req.unitSlug) none true read.db = some u
  readOnce : es.filterMap (fun e => readUnit? (.inl e.stmt) e.db) = [u]
  lockStmt : lock.stmt = .lockUnit u.id
  locked : ∃ v, lock.db.units.find? u.id = some v ∧
    es.filterMap (fun e => lockedUnit? (.inl e.stmt) e.db) = [v]
  clockStmt : clock.stmt = .now
  range : parseRange req.checkIn req.checkOut maxAvailabilitySpan = .ok (x.checkIn, x.checkOut)
  accepted : ∃ b, Pricing.Accepted srv.cairo (pricingUnit u) ⟨x.checkIn, x.checkOut, req.guests⟩
    clock.oracle.clock b ∧ x.nightlyPrice = b.nightlyPrice
  total : x.total = x.nightlyPrice * Int64.ofInt (daysBetween x.checkIn x.checkOut)
  deposit : x.depositDue = x.nightlyPrice
  guests : x.guests = Int16.ofInt req.guests
  unit : x.unitId = u.id
  writes : W = [.insertBooking x]

/-- **What a booking has run.** -/
theorem ran_createBooking {srv : Server} {guestId : ℕ} {req : BookingRequest} {row : CreateBookingRow}
    (h : Ran postgres now (createBooking srv guestId req) [] es row W) :
    ∃ u x read lock clock, WebBooking srv req es W u x read lock clock := by
  obtain ⟨es₁, es₂, range, W₁, rfl, hcheck, h₁⟩ := Ran.of_bind h
  obtain ⟨rfl, hrange, rfl⟩ := Ran.of_check hcheck
  obtain ⟨es₃, es₄, guest, W₂, rfl, hguest, h₂⟩ := Ran.of_bind h₁
  obtain ⟨o₁, db₁, rfl, -, rfl⟩ := ran_read (fun he => by cases he; rfl) (ran_one hguest.of_mapErr)
  obtain ⟨es₅, es₆, y, W₃, rfl, hname, h₃⟩ := Ran.of_bind h₂
  obtain ⟨rfl, -, rfl⟩ := Ran.of_refuse hname
  obtain ⟨es₇, es₈, u, W₄, rfl, hunit, h₄⟩ := Ran.of_bind h₃
  obtain ⟨o₂, db₂, rfl, hu, rfl⟩ := ran_read (fun he => by cases he; rfl) (ran_one hunit.of_mapErr)
  obtain ⟨es₉, es₁₀, z, W₅, rfl, hlock, h₅⟩ := Ran.of_bind h₄.of_mapErr
  obtain ⟨o₃, db₃, rfl, hz, rfl⟩ := ran_read (fun he => by cases he; rfl) (ran_one hlock)
  obtain ⟨es₁₁, es₁₂, b, W₆, rfl, hquote, h₆⟩ := Ran.of_bind h₅
  obtain ⟨o₄, db₄, o₅, db₅, rfl, hacc, rfl⟩ := ran_quoteStay hquote
  obtain ⟨e₁, es₁₃, o₆, db₆, buf, arg, W₇, x, rfl, he₁, hparams, hx, rfl⟩ := ran_insertWithRef h₆
  obtain ⟨⟨o₇, db₇, rfl⟩, rfl, hid, hin, hout, hguests, hprice, htotal, hdeposit⟩ :=
    ran_webParams hparams
  have hread : Queries.getPricingUnit (some req.unitSlug) none true db₂ = some u :=
    congrArg Prod.fst (Except.ok.inj hu)
  have hlocked : Queries.lockUnit u.id db₃ = some z := congrArg Prod.fst (Except.ok.inj hz)
  obtain ⟨v, hv, -⟩ := Option.map_eq_some_iff.mp hlocked
  refine ⟨u, x, ⟨.getPricingUnit (some req.unitSlug) none true, o₂, db₂⟩, ⟨.lockUnit u.id, o₃, db₃⟩,
    ⟨.now, o₄, db₄⟩, ⟨by simp, by simp, by simp⟩, rfl, hread, ?_, rfl, ⟨v, hv, ?_⟩, rfl, ?_,
    ⟨b, ?_, ?_⟩, ?_, ?_, ?_, ?_, rfl⟩
  · obtain ⟨st₁, o, db⟩ := e₁
    subst he₁
    simp [readUnit?, hread]
  · obtain ⟨st₁, o, db⟩ := e₁
    subst he₁
    simp [lockedUnit?, hv]
  · rw [hx.checkIn, hx.checkOut, hin, hout]
    exact hrange
  · rw [hx.checkIn, hx.checkOut, hin, hout]
    exact hacc
  · rw [hx.nightlyPrice, hprice]
  · rw [hx.total, hx.nightlyPrice, hx.checkIn, hx.checkOut, htotal, hprice, hin, hout, hacc.breakdown]
  · rw [hx.depositDue, hx.nightlyPrice, hdeposit, hprice, hacc.breakdown]
  · rw [hx.guests, hguests]
  · rw [hx.unitId, hid]

end Ran

/-! ### The terms of a stay -/

/-- The unit rows a transaction has read for a booking, as they stood then. -/
def unitsRead (es : List (Event Rows Oracle AllStmt)) : List UnitRow :=
  es.filterMap (fun e => readUnit? e.stmt e.db.1)

/-- The unit rows a transaction has locked, as they stood then. -/
def lockedUnits (es : List (Event Rows Oracle AllStmt)) : List UnitRow :=
  es.filterMap (fun e => lockedUnit? e.stmt e.db.1)

/-- What a transaction has read off the clock. -/
def clockReadings (es : List (Event Rows Oracle AllStmt)) : List ℤ :=
  es.filterMap (fun e => match e.stmt with
    | .inl .now => some e.oracle.clock
    | _ => none)

/-- A stay keeps the rules of a unit's row. -/
structure Obeys (srv : Server) (guests : ℤ) (times : List ℤ) (db : Db) (v : UnitRow) (x : BookingRow) :
    Prop where
  unit : x.unitId = v.id
  active : v.status = .active
  price : v.nightlyPrice = some x.nightlyPrice
  guests : x.guests.toInt = guests ∧ guests ≤ v.maxGuests
  buffer : Clear db v x.checkIn x.checkOut
  window : ∃ t ∈ times,
    t + v.advanceNoticeHours * hour ≤ srv.cairo.dateIn x.checkIn Pricing.checkInHour ∧
      x.checkIn ≤ srv.cairo.today t + v.maxAdvanceDays

/-- A commit adds one booking, on the terms of the row its transaction locked. -/
def OnTerms (srv : Server) (req : BookingRequest) (es : List (Event Rows Oracle AllStmt))
    (db db' : Db) : Prop :=
  ∃ v x, lockedUnits es = [v] ∧ db.bookings.find? x.id = none ∧
    db'.bookings = db.bookings.insert x ∧ Obeys srv req.guests (clockReadings es) db v x

/-- A row asks no more of a stay than another one: guests, turnover, notice and horizon. -/
def UnitRow.NoStricter (v u : UnitRow) : Prop :=
  u.maxGuests ≤ v.maxGuests ∧ v.bufferDays ≤ u.bufferDays ∧
    v.advanceNoticeHours ≤ u.advanceNoticeHours ∧ u.maxAdvanceDays ≤ v.maxAdvanceDays

/-- The row a booking has locked has limits no stricter than the row it has read, whose notice fits a
`time.Duration`. -/
def LimitsKept (es : List (Event Rows Oracle AllStmt)) : Prop :=
  ∀ u ∈ unitsRead es, u.advanceNoticeHours ≤ Pricing.maxNoticeHours ∧
    ∀ v ∈ lockedUnits es, v.NoStricter u

/-- The row a booking has locked has the status and the price of the row it has read. -/
def StillSold (es : List (Event Rows Oracle AllStmt)) : Prop :=
  ∀ u ∈ unitsRead es, ∀ v ∈ lockedUnits es, v.status = u.status ∧ v.nightlyPrice = u.nightlyPrice

instance (v u : UnitRow) : Decidable (v.NoStricter u) := inferInstanceAs (Decidable (_ ∧ _))

instance (es : List (Event Rows Oracle AllStmt)) : Decidable (LimitsKept es) :=
  inferInstanceAs (Decidable (∀ u ∈ _, _ ∧ ∀ v ∈ _, _))

instance (es : List (Event Rows Oracle AllStmt)) : Decidable (StillSold es) :=
  inferInstanceAs (Decidable (∀ u ∈ _, ∀ v ∈ _, _))

/-- A stay is only sold at the price its unit has. -/
theorem price_of_accepted {cairo : Cairo} {u : UnitRow} {r : Pricing.Request} {t : ℤ}
    {b : Pricing.Breakdown} (h : Pricing.Accepted cairo (pricingUnit u) r t b) :
    u.nightlyPrice = some b.nightlyPrice := by
  have hpos := h.priced
  rw [h.breakdown]
  simp only [pricingUnit] at hpos ⊢
  cases hp : u.nightlyPrice with
  | none =>
    rw [hp] at hpos
    exact absurd hpos (by decide)
  | some p => rfl

/-- The guests of a stay that is sold fit the column. -/
theorem guests_of_accepted {cairo : Cairo} {u : UnitRow} {r : Pricing.Request} {t : ℤ}
    {b : Pricing.Breakdown} (h : Pricing.Accepted cairo (pricingUnit u) r t b) :
    (Int16.ofInt r.guests).toInt = r.guests := by
  have hinside := h.guests
  have hsmall := u.guests_smallint
  simp only [pricingUnit] at hinside
  exact Int16.toInt_ofInt_of_le (by omega) (by omega)

/-- A stay that overlaps no other one with its turnover does so with a shorter one. -/
theorem Clear.of_noStricter {db : Db} {u v : UnitRow} {checkIn checkOut : ℤ}
    (h : Clear db u checkIn checkOut) (hid : v.id = u.id) (hbuffer : v.bufferDays ≤ u.bufferDays) :
    Clear db v checkIn checkOut := by
  constructor
  · intro b hb hunit hocc hover
    obtain ⟨hturned, hstay, hbefore, hafter⟩ := hover
    exact h.stays b hb (hunit.trans hid) hocc ⟨by omega, hstay, hbefore, by omega⟩
  · intro k hk hunit
    exact h.blocks k hk (hunit.trans hid)

/-- The rules a quote has checked are kept under limits no stricter. -/
theorem obeys_of_accepted {srv : Server} {u v : UnitRow} {guests t : ℤ} {times : List ℤ} {db : Db}
    {x : BookingRow} {b : Pricing.Breakdown} (hid : v.id = u.id) (hactive : v.status = .active)
    (hnightly : v.nightlyPrice = u.nightlyPrice) (hlimits : v.NoStricter u)
    (hfits : u.advanceNoticeHours ≤ Pricing.maxNoticeHours)
    (hacc : Pricing.Accepted srv.cairo (pricingUnit u) ⟨x.checkIn, x.checkOut, guests⟩ t b)
    (hprice : x.nightlyPrice = b.nightlyPrice) (hguests : x.guests = Int16.ofInt guests)
    (hunit : x.unitId = u.id) (hclear : Clear db u x.checkIn x.checkOut) (ht : t ∈ times) :
    Obeys srv guests times db v x := by
  obtain ⟨hmax, hbuffer, hnotice, hadvance⟩ := hlimits
  have hinside := hacc.guests
  simp only [pricingUnit] at hinside
  constructor
  · rw [hunit, hid]
  · exact hactive
  · rw [hnightly, hprice]
    exact price_of_accepted hacc
  · rw [hguests]
    exact ⟨guests_of_accepted hacc, hinside.2.trans hmax⟩
  · exact hclear.of_noStricter hid hbuffer
  · refine ⟨t, ht, ?_, ?_⟩
    · have hdue := hacc.notice
      simp only [pricingUnit] at hdue
      rw [Pricing.hoursDuration_toInt u.notice_check.1 hfits] at hdue
      have hless : v.advanceNoticeHours * hour ≤ u.advanceNoticeHours * hour :=
        Int.mul_le_mul_of_nonneg_right hnotice (by decide)
      omega
    · have hahead := hacc.horizon
      simp only [pricingUnit] at hahead
      omega

/-- The events of a lifted program, one by one. -/
theorem mem_lifted {es : List (Event Db Oracle Stmt × Catalogue)} {e : Event Db Oracle Stmt}
    (h : e ∈ es.map Prod.fst) : ∃ c, (⟨.inl e.stmt, e.oracle, (e.db, c)⟩ : Event Rows Oracle AllStmt) ∈
      es.map (fun e => ⟨.inl e.1.stmt, e.1.oracle, (e.1.db, e.2)⟩) := by
  obtain ⟨p, hp, rfl⟩ := List.mem_map.mp h
  exact ⟨p.2, List.mem_map_of_mem hp⟩

/-- Transaction `i` commits the booking `x` of the unit `u`: what it has run, on the units `us` as it
has read them, and the row it adds. -/
structure CommitsBooking (srv : Server) (r : Req) (l l' : FullLog) (i : ℕ) (now : ℤ)
    (es : List (Event Db Oracle Stmt × Catalogue)) (a : Response) (W : List Write) (us : Units)
    (L : List Lock) (u : UnitRow) (x : BookingRow) : Prop where
  live : ∃ t, l.state.txs i = some t ∧ t.req = .inl r
  log : l.log i = es.map (fun e => ⟨.inl e.1.stmt, e.1.oracle, (e.1.db, e.2)⟩)
  ran : Ran postgres now (program srv r) [] (es.map Prod.fst) a W
  saw : units.Saw (l.log i) us
  view : l'.state.db.1 = postgres.view l.state.db.1 W
  books : Books r L (units.put us l.state.db.1) u x
  adds : l'.state.db.1.bookings = l.state.db.1.bookings.insert x

/-- **The commit of a booking request**: what it has run on the units as it saw them, and that it is an
operation on these. -/
theorem commit_request {srv : Server} {texts : Texts} {ok : FullLog → ℕ → AllReq → Prop} {d₀ : Rows}
    {rs : List AllReq} {l l' : FullLog}
    (h : LRun fullPostgres (fullProgram srv texts) ok (Logged.quiet d₀) rs l) {i : ℕ} {r : Req}
    (hstep : LStep fullPostgres (fullProgram srv texts) l (some (i, .inl r)) l') :
    ∃ (now : ℤ) (es : List (Event Db Oracle Stmt × Catalogue)) (a : Response) (W : List Write)
      (us : Units) (L : List Lock),
      (∃ t, l.state.txs i = some t ∧ t.req = .inl r) ∧
      l.log i = es.map (fun e => ⟨.inl e.1.stmt, e.1.oracle, (e.1.db, e.2)⟩) ∧
      Ran postgres now (program srv r) [] (es.map Prod.fst) a W ∧
      l'.state.db.1 = postgres.view l.state.db.1 W ∧ units.Saw (l.log i) us ∧
      Op r L (units.put us l.state.db.1) (units.put us (postgres.view l.state.db.1 W)) := by
  obtain ⟨t, a, live, done, fine, hreq, hdb⟩ := hstep.committed
  have hran := h.told.commit live done fine
  rw [hreq] at hran
  obtain ⟨es, a', W, hlog, -, hW, hran⟩ := Extra.ran_lift (W := []) hran
  obtain ⟨us, L, W', -, hW', -, hsaw, hop⟩ :=
    ((units_fits srv texts).run h).commit_op live done fine hreq
  obtain rfl : W' = W := List.map_injective_iff.mpr Sum.inl_injective (hW'.symm.trans hW)
  refine ⟨_, es, a', W', us, L, ⟨t, live, hreq⟩, hlog, hran, ?_, hsaw, hop⟩
  rw [hdb, hW]
  exact congrArg Prod.fst (Extra.view_inl _ _)

/-- **A booking's commit** is one that has run and adds its row. -/
theorem commit_books {srv : Server} {texts : Texts} {ok : FullLog → ℕ → AllReq → Prop} {d₀ : Rows}
    {rs : List AllReq} {l l' : FullLog}
    (h : LRun fullPostgres (fullProgram srv texts) ok (Logged.quiet d₀) rs l) {i : ℕ} {r : Req}
    (hr : r.Booking) (hstep : LStep fullPostgres (fullProgram srv texts) l (some (i, .inl r)) l') :
    ∃ now es a W us L u x, CommitsBooking srv r l l' i now es a W us L u x := by
  obtain ⟨now, es, a, W, us, L, live, hlog, hran, hview, hsaw, hop⟩ := commit_request h hstep
  rcases hop.nights with ⟨u, x, -, hbooks, hbk, -⟩ | ⟨k, hnot, -⟩ | ⟨hnot, -⟩
  · refine ⟨now, es, a, W, us, L, u, x, live, hlog, hran, hsaw, hview, hbooks, ?_⟩
    rw [hview]
    exact hbk
  · exact absurd hr hnot
  · exact absurd hr hnot

section WebCommit

variable {srv : Server} {texts : Texts} {l l' : FullLog} {i guestId : ℕ} {req : BookingRequest} {now : ℤ}
  {es : List (Event Db Oracle Stmt × Catalogue)} {a : Response} {W : List Write} {us : Units}
  {L : List Lock} {u : UnitRow} {x : BookingRow} {read lock clock : Event Db Oracle Stmt}

/-- **A website booking's commit** adds the stay that its transaction has run, of the unit it read. -/
theorem commit_web {ok : FullLog → ℕ → AllReq → Prop} {d₀ : Rows} {rs : List AllReq}
    (h : LRun fullPostgres (fullProgram srv texts) ok (Logged.quiet d₀) rs l)
    (hstep : LStep fullPostgres (fullProgram srv texts) l
      (some (i, .inl (.createBooking guestId req))) l') :
    ∃ now es a W us L u x read lock clock,
      CommitsBooking srv (.createBooking guestId req) l l' i now es a W us L u x ∧
        WebBooking srv req (es.map Prod.fst) W u x read lock clock := by
  obtain ⟨now, es, a, W, us, L, u', x', hc⟩ :=
    commit_books h (r := .createBooking guestId req) trivial hstep
  obtain ⟨row, -, hran⟩ := Ran.of_map hc.ran
  obtain ⟨u, x, read, lock, clock, hb⟩ := ran_createBooking hran
  obtain rfl : x = x' := by
    refine Table.eq_of_insert_eq hc.books.idFree ?_
    show _ = l.state.db.1.bookings.insert x'
    rw [← hc.adds, hc.view, hb.writes]
    rfl
  -- The units it saw are the units as it read them.
  obtain ⟨c, hread⟩ := mem_lifted hb.ran.1
  rw [← hc.log] at hread
  have hpart : read.db.units = us := hc.saw _ hread (by rw [hb.readStmt]; exact id)
  have hu : Queries.getPricingUnit (some req.unitSlug) none true (units.put us l.state.db.1) = some u := by
    rw [← hb.readUnit, ← hpart]
    rfl
  have hasked := (stay?_createBooking guestId hb.range hu).symm.trans hc.books.asked
  obtain rfl : u = u' := congrArg AskedStay.unit (Option.some.inj hasked)
  exact ⟨now, es, a, W, us, L, u, x, read, lock, clock, hc, hb⟩

variable (hc : CommitsBooking srv (.createBooking guestId req) l l' i now es a W us L u x)
  (hb : WebBooking srv req (es.map Prod.fst) W u x read lock clock)
include hc hb

theorem CommitsBooking.reads : unitsRead (l.log i) = [u] := by
  rw [← hb.readOnce, hc.log, unitsRead, List.filterMap_map, List.filterMap_map]
  rfl

theorem CommitsBooking.locks :
    ∃ v, lock.db.units.find? u.id = some v ∧ lockedUnits (l.log i) = [v] := by
  obtain ⟨v, hv, hone⟩ := hb.locked
  refine ⟨v, hv, ?_⟩
  rw [← hone, hc.log, lockedUnits, List.filterMap_map, List.filterMap_map]
  rfl

theorem CommitsBooking.clocked : clock.oracle.clock ∈ clockReadings (l.log i) := by
  obtain ⟨c, hclock⟩ := mem_lifted hb.ran.2.2
  rw [← hc.log] at hclock
  refine List.mem_filterMap.mpr ⟨_, hclock, ?_⟩
  rw [hb.clockStmt]

end WebCommit

/-- **A booking stands on the unit's row as its lock found it**, in every run and with limits no
stricter than those it has read, exactly if that row is still on sale as it was read. -/
theorem booked_on_terms (srv : Server) (texts : Texts) {d₀ : Rows} {rs : List AllReq} {l l' : FullLog}
    (h : LRun fullPostgres (fullProgram srv texts) always (Logged.quiet d₀) rs l)
    {i guestId : ℕ} {req : BookingRequest}
    (hstep : LStep fullPostgres (fullProgram srv texts) l
      (some (i, .inl (.createBooking guestId req))) l')
    (hlimits : LimitsKept (l.log i)) :
    OnTerms srv req (l.log i) l.state.db.1 l'.state.db.1 ↔ StillSold (l.log i) := by
  obtain ⟨now, es, a, W, us, L, u, x, read, lock, clock, hc, hb⟩ := commit_web h hstep
  have hreads : unitsRead (l.log i) = [u] := hc.reads hb
  obtain ⟨v, hv, hlocked⟩ := hc.locks hb
  obtain ⟨hfits, hno⟩ := hlimits u (by rw [hreads]; exact List.mem_singleton_self u)
  have hstricter := hno v (by rw [hlocked]; exact List.mem_singleton_self v)
  obtain ⟨-, -, -, hactive⟩ := Queries.getPricingUnit_some hb.readUnit
  obtain ⟨b, hacc, hprice⟩ := hb.accepted
  constructor
  · rintro ⟨v', x', hv', hfree, hadds, hobeys⟩ u₁ hu₁ v₁ hv₁
    rw [hreads, List.mem_singleton] at hu₁
    rw [hv', List.mem_singleton] at hv₁
    subst hu₁ hv₁
    obtain rfl : x = x' := Table.eq_of_insert_eq hfree (hc.adds.symm.trans hadds)
    rw [hobeys.active, hactive rfl, hobeys.price, hprice, price_of_accepted hacc]
    exact ⟨rfl, rfl⟩
  · intro hsold
    obtain ⟨hstatus, hnightly⟩ := hsold u (by rw [hreads]; exact List.mem_singleton_self u) v
      (by rw [hlocked]; exact List.mem_singleton_self v)
    refine ⟨v, x, hlocked, hc.books.idFree, hc.adds, ?_⟩
    exact obeys_of_accepted (Table.mem_of_find? hv).2 (hstatus.trans (hactive rfl)) hnightly hstricter
      hfits hacc hprice hb.guests hb.unit ⟨hc.books.clear.stays, hc.books.clear.blocks⟩ (hc.clocked hb)

/-- A guest's booking, as transaction `i`, up to its read of the unit. -/
def bookingReads (i : ℕ) : List (Move AllReq Oracle) :=
  [.start i (.inl (guestBooks "2027-01-10" "2027-01-12")) (noonOf newYear),
    .exec i (oracleAt 1 (noonOf newYear)), .exec i (oracleAt 1 (noonOf newYear))]

/-- The rest of it, up to its commit: the lock, the clock, the count, and the insert. -/
def bookingInserts (i : ℕ) : List (Move AllReq Oracle) :=
  List.replicate 6 (.exec i (oracleAt 1 (noonOf newYear)))

/-- An edit of the unit, as transaction `i`: read, written, committed. -/
def edits (i : ℕ) (body : UnitInput) : List (Move AllReq Oracle) :=
  [.start i (editUnit body) (noonOf newYear), .exec i (oracleAt 2 (noonOf newYear)),
    .exec i (oracleAt 2 (noonOf newYear)), .commit i]

/-- Transaction `i` serves a guest's booking and is about to commit. -/
def aboutToBook (l : FullLog) (i : ℕ) : Bool :=
  match l.state.txs i with
  | some ⟨.inl (.createBooking _ _), _, .pure _, _, _, false⟩ => true
  | _ => false

theorem exists_commit {srv : Server} {texts : Texts} {l : FullLog} {i : ℕ}
    (h : aboutToBook l i = true) : ∃ guestId req l',
      LStep fullPostgres (fullProgram srv texts) l (some (i, .inl (.createBooking guestId req))) l' := by
  unfold aboutToBook at h
  split at h
  · rename_i guestId req now a W L hlive
    exact ⟨guestId, req, _, .commit i hlive rfl rfl⟩
  · cases h

/-- The booking is about to commit; its lock has found the unit at 6,000 pounds, as it was read, and
its limits no stricter. -/
def sellsAtNewPrice (l : FullLog) : Bool :=
  aboutToBook l 0 && decide (LimitsKept (l.log 0)) && decide (StillSold (l.log 0)) &&
    decide ((lockedUnits (l.log 0)).map UnitRow.nightlyPrice = [some 600000])

/-- The unit is repriced, then booked at the new price, while its guest limit is raised. -/
theorem booked_on_terms_repriced : ∃ (l l' : FullLog) (req : BookingRequest),
    OnTerms winterServer req (l.log 0) l.state.db.1 l'.state.db.1 ∧
      (lockedUnits (l.log 0)).map UnitRow.nightlyPrice = [some 600000] := by
  have hplayed : (plays fullPostgres (fullProgram winterServer plainTexts) (fun _ _ => true) 2
      (edits 1 { nightlyPrice := .value 600000 } ++ bookingReads 0 ++
        edits 1 { maxGuests := .value 6 } ++ bookingInserts 0)
      (Logged.quiet coast) []).any (fun p => sellsAtNewPrice p.2) = true := by
    decide +kernel
  obtain ⟨rs, l, hrun, -, htest⟩ := LRun.of_plays always (fun _ _ _ _ _ => trivial) hplayed
  simp only [sellsAtNewPrice, Bool.and_eq_true, decide_eq_true_eq] at htest
  obtain ⟨⟨⟨hready, hlimits⟩, hsold⟩, hprice⟩ := htest
  obtain ⟨guestId, req, l', hstep⟩ := exists_commit hready
  exact ⟨l, l', req, (booked_on_terms winterServer plainTexts hrun hstep hlimits).mpr hsold, hprice⟩

/-- The booking is about to commit, its lock found the unit paused. -/
def sellsPaused (l : FullLog) : Bool :=
  aboutToBook l 0 && (lockedUnits (l.log 0)).all (fun v => decide (v.status ≠ .active))

/-- **Sold on the old terms.**  The unit is paused after the booking has read it and before it takes
the lock: the lock finds a paused unit, and the stay is sold. -/
theorem booked_on_old_terms :
    ¬ ∀ (srv : Server) (texts : Texts) (d₀ : Rows) (rs : List AllReq) (l l' : FullLog)
      (i guestId : ℕ) (req : BookingRequest), d₀.1.Unbooked →
      LRun fullPostgres (fullProgram srv texts) always (Logged.quiet d₀) rs l →
      LStep fullPostgres (fullProgram srv texts) l
        (some (i, .inl (.createBooking guestId req))) l' →
      OnTerms srv req (l.log i) l.state.db.1 l'.state.db.1 := by
  intro h
  have hplayed : (plays fullPostgres (fullProgram winterServer plainTexts) (fun _ _ => true) 2
      (bookingReads 0 ++ edits 1 { status := .value (.known .paused) } ++ bookingInserts 0)
      (Logged.quiet coast) []).any (fun p => sellsPaused p.2) = true := by
    decide +kernel
  obtain ⟨rs, l, hrun, -, htest⟩ := LRun.of_plays always (fun _ _ _ _ _ => trivial) hplayed
  rw [sellsPaused, Bool.and_eq_true] at htest
  obtain ⟨guestId, req, l', hstep⟩ := exists_commit htest.1
  obtain ⟨v, x, hv, -, -, hobeys⟩ := h _ _ _ rs l l' 0 guestId req coast_unbooked hrun hstep
  rw [hv] at htest
  simp only [List.all_cons, List.all_nil, Bool.and_true, decide_eq_true_eq] at htest
  exact htest.2 hobeys.active

end Sahel

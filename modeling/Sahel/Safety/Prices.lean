import Sahel.Safety.Terms

/-!
# The stored price

A booking stores the price of a night, the total and the deposit.  The total is a product of
64 bits: an admin's price is capped before it is multiplied, the price of a unit is not.

* `PriceExact` says that the stored price is right, over the integers;
* **`prices_exact`**: an admin's booking is always stored at an exact price; a guest's exactly if
  the unit's price times the nights fits, in every run;
* **`prices_wrapped`**: three nights of a unit at 6,148,914,691,236,517,206 cost 2 piasters.
-/

set_option autoImplicit false

namespace Sahel

open KeyedTable ReadCommitted

/-- The total is the price of a night times the nights, and the deposit one night's price. -/
structure PriceExact (x : BookingRow) : Prop where
  total : x.total.toInt = x.nightlyPrice.toInt * (x.checkOut - x.checkIn)
  deposit : x.depositDue = x.nightlyPrice
  positive : 0 < x.depositDue
  within : x.depositDue ≤ x.total

/-- A price as it is computed, for the nights of a range that was accepted. -/
structure Priced (x : BookingRow) : Prop where
  nights : daysBetween x.checkIn x.checkOut ≤ maxAvailabilitySpan
  total : x.total = x.nightlyPrice * Int64.ofInt (daysBetween x.checkIn x.checkOut)
  deposit : x.depositDue = x.nightlyPrice

theorem Priced.daysBetween {x : BookingRow} (h : Priced x) :
    Sahel.daysBetween x.checkIn x.checkOut = x.checkOut - x.checkIn ∧ x.checkOut - x.checkIn ≤ 120 := by
  have hdays := daysBetween_eq_of_le (le_of_lt x.stay_check) h.nights (by decide)
  have hspan : Sahel.daysBetween x.checkIn x.checkOut ≤ 120 := h.nights
  rw [hdays] at hspan
  exact ⟨hdays, hspan⟩

/-- A computed price is right if it fits. -/
theorem priceExact_iff {x : BookingRow} (h : Priced x) :
    PriceExact x ↔ x.nightlyPrice.toInt * (x.checkOut - x.checkIn) < 2 ^ 63 := by
  obtain ⟨hdays, hmax⟩ := h.daysBetween
  have hnights : 0 < x.checkOut - x.checkIn := by
    have hstay := x.stay_check
    omega
  have htotal := Pricing.total_exact_iff x.price_check hnights hmax
  rw [← hdays, ← h.total, hdays] at htotal
  rw [← htotal]
  refine ⟨PriceExact.total, fun ht => ⟨ht, h.deposit, ?_, ?_⟩⟩
  · rw [h.deposit]
    exact x.price_check
  · rw [h.deposit, Int64.le_iff_toInt_le, ht]
    have hprice : 0 < x.nightlyPrice.toInt := Int64.lt_iff_toInt_lt.mp x.price_check
    exact le_mul_of_one_le_right (le_of_lt hprice) hnights

/-! ### What an admin's booking has run -/

section Ran

variable {now : ℤ} {W W' : List Write} {es : List (Event Db Oracle Stmt)}

/-- Only a customer's row is written. -/
theorem ensureCustomer_bookings {phone name : String} {id : ℕ} {db db' : Db} {row : EnsureCustomerRow}
    {ws : List Write} (h : Queries.ensureCustomer phone name id db = .ok (row, ws)) :
    (postgres.view db' ws).bookings = db'.bookings := by
  obtain ⟨customers, hview⟩ := view_ensureCustomer h db'
  rw [hview]

/-- **What an admin's booking has run**: its insert comes last, at a price within bounds. -/
theorem ran_adminCreateBooking {req : ManualBookingRequest} {row : CreateBookingRow}
    (h : Ran postgres now (adminCreateBooking req) [] es row W) :
    ∃ W₁ x, W = W₁ ++ [.insertBooking x] ∧ (∀ db : Db, (postgres.view db W₁).bookings = db.bookings) ∧
      Priced x ∧ x.nightlyPrice ≤ maxNightlyPrice := by
  obtain ⟨es₁, es₂, unitId, W₁, rfl, hid, h₁⟩ := Ran.of_bind h
  obtain ⟨rfl, -, rfl⟩ := Ran.of_require hid
  obtain ⟨es₃, es₄, range, W₂, rfl, hcheck, h₂⟩ := Ran.of_bind h₁
  obtain ⟨rfl, hrange, rfl⟩ := Ran.of_check hcheck
  obtain ⟨es₅, es₆, y₁, W₃, rfl, hnights, h₃⟩ := Ran.of_bind h₂
  obtain ⟨rfl, -, rfl⟩ := Ran.of_refuse hnights
  obtain ⟨es₇, es₈, phone, W₄, rfl, hphone, h₄⟩ := Ran.of_bind h₃
  obtain ⟨rfl, -, rfl⟩ := Ran.of_require hphone
  obtain ⟨es₉, es₁₀, y₂, W₅, rfl, hname, h₅⟩ := Ran.of_bind h₄
  obtain ⟨rfl, -, rfl⟩ := Ran.of_refuse hname
  obtain ⟨es₁₁, es₁₂, u, W₆, rfl, hunit, h₆⟩ := Ran.of_bind h₅
  obtain ⟨o₁, db₁, rfl, -, rfl⟩ := ran_read (fun he => by cases he; rfl) (ran_one hunit.of_mapErr)
  obtain ⟨es₁₃, es₁₄, y₃, W₇, rfl, harchived, h₇⟩ := Ran.of_bind h₆
  obtain ⟨rfl, -, rfl⟩ := Ran.of_refuse harchived
  obtain ⟨es₁₅, es₁₆, y₄, W₈, rfl, hguests, h₈⟩ := Ran.of_bind h₇
  obtain ⟨rfl, -, rfl⟩ := Ran.of_refuse hguests
  obtain ⟨es₁₇, es₁₈, y₅, W₉, rfl, hprice, h₉⟩ := Ran.of_bind h₈
  obtain ⟨rfl, hbounds, rfl⟩ := Ran.of_refuse hprice
  obtain ⟨es₁₉, es₂₀, z, W₁₀, rfl, hlock, h₁₀⟩ := Ran.of_bind h₉.of_mapErr
  obtain ⟨o₂, db₂, rfl, -, rfl⟩ := ran_read (fun he => by cases he; rfl) (ran_one hlock)
  obtain ⟨es₂₁, es₂₂, n, W₁₁, rfl, hcount, h₁₁⟩ := Ran.of_bind h₁₀
  obtain ⟨o₃, db₃, rfl, -, rfl⟩ := ran_read (fun he => by cases he; rfl) hcount
  obtain ⟨es₂₃, es₂₄, y₆, W₁₂, rfl, htaken, h₁₂⟩ := Ran.of_bind h₁₁
  obtain ⟨rfl, -, rfl⟩ := Ran.of_refuse htaken
  obtain ⟨es₂₅, es₂₆, c, W₁₃, rfl, hensure, h₁₃⟩ := Ran.of_bind h₁₂
  obtain ⟨o₄, db₄, ws, rfl, hcustomer, rfl⟩ := Ran.of_query hensure
  obtain ⟨e₁, es₂₇, o₅, db₅, buf, arg, W₁₄, x, rfl, -, hparams, hx, rfl⟩ := ran_insertWithRef h₁₃
  obtain ⟨rfl, rfl, rfl⟩ := Ran.of_pure hparams
  refine ⟨_, x, rfl, fun db => ensureCustomer_bookings hcustomer, ⟨?_, ?_, ?_⟩, ?_⟩
  · rw [hx.checkIn, hx.checkOut]
    exact (parseRange_ok hrange).2
  · rw [hx.total, hx.nightlyPrice, hx.checkIn, hx.checkOut]
  · rw [hx.depositDue, hx.nightlyPrice]
  · rw [hx.nightlyPrice]
    exact Int64.not_lt.mp (not_or.mp hbounds).2

end Ran

/-- An admin's price always fits. -/
theorem priceExact_of_le {x : BookingRow} (h : Priced x) (hmax : x.nightlyPrice ≤ maxNightlyPrice) :
    PriceExact x := by
  refine (priceExact_iff h).mpr ?_
  have hle : x.nightlyPrice.toInt ≤ 100000000 := Int64.le_iff_toInt_le.mp hmax
  have hpos : 0 < x.nightlyPrice.toInt := Int64.lt_iff_toInt_lt.mp x.price_check
  calc x.nightlyPrice.toInt * (x.checkOut - x.checkIn)
      ≤ x.nightlyPrice.toInt * 120 := Int.mul_le_mul_of_nonneg_left h.daysBetween.2 (le_of_lt hpos)
    _ ≤ 100000000 * 120 := Int.mul_le_mul_of_nonneg_right hle (by decide)
    _ < 2 ^ 63 := by decide

/-! ### Commits -/

/-- One booking is new. -/
def AddsBooking (db db' : Db) (x : BookingRow) : Prop :=
  db.bookings.find? x.id = none ∧ db'.bookings = db.bookings.insert x

/-- **The stored price.**  In every run: a guest's booking is stored at the price of the unit as its
transaction has read it, exactly if that price times the nights fits its column; and an admin's
booking is always stored at an exact price. -/
theorem prices_exact (srv : Server) (texts : Texts) {d₀ : Rows} {rs : List AllReq} {l l' : FullLog}
    (h : LRun fullPostgres (fullProgram srv texts) always (Logged.quiet d₀) rs l) {i : ℕ} :
    (∀ guestId req, LStep fullPostgres (fullProgram srv texts) l
        (some (i, .inl (.createBooking guestId req))) l' →
      ∃ u price x, unitsRead (l.log i) = [u] ∧ u.nightlyPrice = some price ∧
        parseRange req.checkIn req.checkOut maxAvailabilitySpan = .ok (x.checkIn, x.checkOut) ∧
        AddsBooking l.state.db.1 l'.state.db.1 x ∧ x.nightlyPrice = price ∧
        (PriceExact x ↔ price.toInt * (x.checkOut - x.checkIn) < 2 ^ 63)) ∧
    ∀ req, LStep fullPostgres (fullProgram srv texts) l (some (i, .inl (.adminCreateBooking req))) l' →
      ∃ x, AddsBooking l.state.db.1 l'.state.db.1 x ∧ PriceExact x := by
  constructor
  · intro guestId req hstep
    obtain ⟨now, es, a, W, us, L, u, x, read, lock, clock, hc, hb⟩ := commit_web h hstep
    obtain ⟨b, hacc, hprice⟩ := hb.accepted
    have hpriced : Priced x := ⟨(parseRange_ok hb.range).2, hb.total, hb.deposit⟩
    refine ⟨u, x.nightlyPrice, x, hc.reads hb, ?_, hb.range, ⟨hc.books.idFree, hc.adds⟩, rfl,
      priceExact_iff hpriced⟩
    rw [hprice]
    exact price_of_accepted hacc
  · intro req hstep
    obtain ⟨now, es, a, W, us, L, v, x, hc⟩ := commit_books h (r := .adminCreateBooking req) trivial hstep
    obtain ⟨row, -, hran⟩ := Ran.of_map hc.ran
    obtain ⟨W₁, x', rfl, hkeep, hpriced, hmax⟩ := ran_adminCreateBooking hran
    obtain rfl : x = x' := by
      refine (Table.eq_of_insert_eq hc.books.idFree ?_).symm
      show _ = l.state.db.1.bookings.insert x
      rw [← hc.adds, hc.view, Database.view_append]
      exact congrArg (fun t : Table ℕ BookingRow BookingRow.id => t.insert x')
        (hkeep l.state.db.1).symm
    exact ⟨x, ⟨hc.books.idFree, hc.adds⟩, priceExact_of_le hpriced hmax⟩

/-! ### A price that wraps -/

/-- Two nights at the chalet's own price. -/
theorem prices_exact_chalet : ∃ (l l' : FullLog) (price : Int64) (x : BookingRow),
    AddsBooking l.state.db.1 l'.state.db.1 x ∧ x.nightlyPrice = price ∧
      (PriceExact x ↔ price.toInt * (x.checkOut - x.checkIn) < 2 ^ 63) := by
  have hplayed : (plays fullPostgres (fullProgram winterServer plainTexts) (fun _ _ => true) 2
      (bookingReads 0 ++ bookingInserts 0) (Logged.quiet coast) []).any
      (fun p => aboutToBook p.2 0) = true := by
    decide +kernel
  obtain ⟨rs, l, hrun, -, hready⟩ := LRun.of_plays always (fun _ _ _ _ _ => trivial) hplayed
  obtain ⟨guestId, req, l', hstep⟩ := exists_commit hready
  obtain ⟨u, price, x, -, -, -, hadds, hprice, hexact⟩ :=
    (prices_exact winterServer plainTexts hrun).1 guestId req hstep
  exact ⟨l, l', price, x, hadds, hprice, hexact⟩

/-- The coast, its chalet repriced. -/
def dearCoast : Rows :=
  fullServed coast
    [fullCall 1 (noonOf newYear) (editUnit { nightlyPrice := .value 6148914691236517206 })]

/-- **A total that wraps.**  Three nights at 6,148,914,691,236,517,206 piasters are stored at a
total of 2. -/
theorem prices_wrapped :
    ¬ ∀ (srv : Server) (texts : Texts) (d₀ d : Rows), d₀.1.Unbooked →
      FullReaches srv texts d₀ (State.quiet d) → ∀ (guestId : ℕ) (req : BookingRequest) (o : Oracle)
        (now : ℤ), ∀ x ∈ (serve fullPostgres (fullProgram srv texts) d
          (.inl (.createBooking guestId req), o, now)).1.bookings,
        d.1.bookings.find? x.id = none → PriceExact x := by
  intro h
  have hexact := h winterServer plainTexts coast dearCoast coast_unbooked (fullReaches_served coast _) 1
    ⟨"sea-view", "2027-01-10", "2027-01-13", 2⟩ (oracleAt 2 (noonOf newYear)) (noonOf newYear)
  have hstored : (serve fullPostgres (fullProgram winterServer plainTexts) dearCoast
      (.inl (.createBooking 1 ⟨"sea-view", "2027-01-10", "2027-01-13", 2⟩), oracleAt 2 (noonOf newYear),
        noonOf newYear)).1.bookings.rows.any
      (fun x => decide (x.nightlyPrice = 6148914691236517206 ∧ x.total = 2)) = true := by
    decide +kernel
  have hnone : dearCoast.1.bookings.rows.isEmpty = true := by decide +kernel
  generalize serve fullPostgres _ dearCoast _ = d at hexact hstored
  obtain ⟨x, hx, hp⟩ := List.any_eq_true.mp hstored
  obtain ⟨hprice, htotal⟩ := of_decide_eq_true hp
  have hfree : dearCoast.1.bookings.find? x.id = none := by
    refine Table.find?_eq_none_iff.mpr (fun y hy => ?_)
    rw [Table.mem_def, List.isEmpty_iff.mp hnone] at hy
    exact absurd hy List.not_mem_nil
  have hwithin := (hexact x hx hfree).within
  rw [(hexact x hx hfree).deposit, hprice, htotal] at hwithin
  exact absurd hwithin (by decide)

end Sahel

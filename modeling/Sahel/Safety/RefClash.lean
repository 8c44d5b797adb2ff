import Mathlib.Data.List.GetD
import Sahel.Library.Supply
import Sahel.Http.Requests

/-!
# A drawn reference that is taken

`createBooking` and `adminCreateBooking` draw a reference and insert; when the reference is taken
they draw again, five more times, inside the same transaction.  The failed insert has already
aborted that transaction, so nothing drawn later can be stored: a stay is booked under its first
reference or not at all.

* `drawing` is the supply in which the references are a given sequence;
* `Inserting` says what the two handlers have in common, and `Inserting.cases` runs them up to the
  insert loop;
* **`refs_retried`**: the retries do what they are for exactly when the first reference is unused,
  or all six are used; `refs_not_retried` is a run where they do not.

A draw after the failure is refused here with the statements around it.  In the source it succeeds
and the insert behind it is refused, with the same error.
-/

set_option autoImplicit false

namespace Sahel

open KeyedTable ReadCommitted

/-! ### References -/

/-- A booking carries the reference. -/
def RefUsed (db : Db) (ref : String) : Prop := ∃ b ∈ db.bookings.rows, b.ref = ref

instance (db : Db) (ref : String) : Decidable (RefUsed db ref) :=
  inferInstanceAs (Decidable (∃ b ∈ db.bookings.rows, b.ref = ref))

/-- A drawn reference has the form its column asks for. -/
theorem refOk_newRef (buf : Fin 5 → UInt8) : refOk (newRef buf) = true := by
  have hchars : ∀ b : UInt8, crockford.toList.contains
      (crockford.toList.getD (b % 32).toNat '0') = true := by
    intro b
    have hlt : (b % 32).toNat < crockford.toList.length := by
      rw [UInt8.toNat_mod]
      exact Nat.mod_lt _ (by decide)
    rw [List.getD_eq_getElem _ _ hlt, List.contains_iff_mem]
    exact List.getElem_mem hlt
  have hlist : (newRef buf).toList = 'B' :: 'E' :: 'S' :: '-' ::
      (List.ofFn buf).map (fun b => crockford.toList.getD (b % 32).toNat '0') := by
    rw [newRef, String.toList_append, String.toList_ofList]
    rfl
  rw [refOk, hlist]
  simp only [List.length_map, List.length_ofFn, decide_true, Bool.true_and, List.all_map,
    List.all_eq_true, Function.comp_apply]
  intro b _
  exact hchars b

namespace Queries

/-- A taken reference is not stored again. -/
theorem createBooking_used {arg : CreateBookingParams} {id : ℕ} {db : Db} (h : RefUsed db arg.ref)
    (row : CreateBookingRow) (ws : List Write) : createBooking arg id db ≠ .ok (row, ws) := by
  intro hok
  obtain ⟨b, -, -, -, -, hfree, -⟩ := createBooking_ok hok
  obtain ⟨x, hx, href⟩ := h
  exact hfree x hx href

/-- **Nothing but the reference.**  An insert that passes under one reference passes under any other
that is unused. -/
theorem createBooking_ref {arg : CreateBookingParams} {r ref : String} {id : ℕ} {db : Db}
    {row : CreateBookingRow} {ws : List Write}
    (h : createBooking { arg with ref := r } id db = .ok (row, ws)) (hok : refOk ref)
    (hfree : ¬ RefUsed db ref) :
    ∃ b, createBooking { arg with ref := ref } id db = .ok (⟨id, ref⟩, [.insertBooking b]) ∧
      b.id = id ∧ b.ref = ref ∧ db.bookings.find? id = none := by
  unfold createBooking at h ⊢
  cases hrow : CreateBookingParams.row { arg with ref := r } id with
  | error e =>
    rw [hrow] at h
    cases h
  | ok b =>
    rw [hrow] at h
    have hb : CreateBookingParams.row { arg with ref := ref } id
        = .ok { b with ref := ref, ref_check := hok } := by
      simp only [CreateBookingParams.row] at hrow ⊢
      split_ifs at hrow ⊢
      cases hrow
      rfl
    have hid := (stored_of_row hrow).id
    dsimp only at h
    split_ifs at h with hkey href hclash hunit hcustomer
    have hclash' : ¬ Clashes db { b with ref := ref, ref_check := hok } := hclash
    refine ⟨{ b with ref := ref, ref_check := hok }, ?_, hid, rfl, by simpa using hkey⟩
    rw [hb]
    have hfree' : ¬ ∃ x ∈ db.bookings.rows, x.ref = ref := hfree
    dsimp only
    rw [if_neg hkey, if_neg hfree', if_neg hclash', if_neg hunit, if_neg hcustomer, hid]

end Queries

/-! ### Runs that draw a given sequence -/

/-- The oracles of a run whose references are drawn from `draws`; its other statements take theirs
by their place in the run. -/
def drawing (os : ℕ → Oracle) (draws : ℕ → Fin 5 → UInt8) : Stmt → ℕ × ℕ → Oracle × (ℕ × ℕ)
  | .randomBytes, x => ({ os x.1 with bytes := draws x.2 }, (x.1 + 1, x.2 + 1))
  | _, x => (os x.1, (x.1 + 1, x.2))

/-- How a request ends that draws its references from `draws`. -/
def drawn {ε : Type} (os : ℕ → Oracle) (draws : ℕ → Fin 5 → UInt8) (now : ℤ) (db : Db)
    (p : Prog Stmt Stmt.Val PgError ε CreateBookingRow) :
    Outcome Write ε (ℕ × ℕ) CreateBookingRow :=
  runFrom postgres (drawing os draws) now db p (0, 0) [] false

/-- What is inserted depends on the reference in that column only. -/
def SetsRef (params : String → Tx CreateBookingParams) : Prop :=
  ∀ os now db x W, ∃ (arg : CreateBookingParams) (y : ℕ × ℕ), ∀ draws ref,
    runFrom postgres (drawing os draws) now db (params ref) x W false
      = ⟨.ok { arg with ref := ref }, y, W, false⟩

section Loop

variable {params : String → Tx CreateBookingParams} (hp : SetsRef params)
variable (os : ℕ → Oracle) (now : ℤ) (db : Db) (i k : ℕ) (W : List Write)
include hp

/-- One round of the loop: an insert under the reference drawn. -/
theorem runFrom_insertOnce : ∃ (arg : CreateBookingParams) (uuid : ℕ) (y : ℕ × ℕ), ∀ draws,
    runFrom postgres (drawing os draws) now db (insertOnce params) (i, k) W false
      = match Queries.createBooking { arg with ref := newRef (draws k) } uuid
          (postgres.view db W) with
        | .ok (v, ws) => ⟨.ok (.ok v), y, W ++ ws, false⟩
        | .error e => ⟨.ok (.error e), y, W, true⟩ := by
  obtain ⟨arg, y, harg⟩ := hp os now db (i + 1, k + 1) W
  refine ⟨arg, (os y.1).uuid, (y.1 + 1, y.2), fun draws => ?_⟩
  have hdraw : runFrom postgres (drawing os draws) now db (Tx.query .randomBytes) (i, k) W false
      = ⟨.ok (draws k), (i + 1, k + 1), W, false⟩ := by
    have heval : postgres.eval .randomBytes (drawing os draws .randomBytes (i, k)).1 now
        (postgres.view db W) = .ok (draws k, []) := rfl
    have hquery := runFrom_query postgres (drawing os draws) now db TxError.pg heval
    rwa [List.append_nil] at hquery
  have hinsert := runFrom_attempt (ε := TxError) postgres (drawing os draws) now db
    (s := .createBooking { arg with ref := newRef (draws k) }) (x := y) (W := W)
  rw [insertOnce, runFrom_bind, hdraw]
  show runFrom postgres (drawing os draws) now db (params (newRef (draws k)) >>= _) (i + 1, k + 1) W
    false = _
  rw [runFrom_bind, harg draws]
  cases hins : Queries.createBooking { arg with ref := newRef (draws k) } (os y.1).uuid
      (postgres.view db W) with
  | ok res =>
    have heval : postgres.eval (.createBooking { arg with ref := newRef (draws k) }) (os y.1) now
        (postgres.view db W) = .ok res := hins
    simp only [drawing, heval] at hinsert
    exact hinsert
  | error e =>
    have heval : postgres.eval (.createBooking { arg with ref := newRef (draws k) }) (os y.1) now
        (postgres.view db W) = .error e := hins
    simp only [drawing, heval] at hinsert
    exact hinsert

/-- **The loop stops at its first insert.**  It returns the row that insert stores, or an error. -/
theorem runFrom_insertWithRef (n : ℕ) :
    ∃ (arg : CreateBookingParams) (uuid : ℕ) (y : ℕ × ℕ), ∀ draws,
    match Queries.createBooking { arg with ref := newRef (draws k) } uuid (postgres.view db W) with
    | .ok (v, ws) => runFrom postgres (drawing os draws) now db (insertWithRef params n) (i, k) W false
        = ⟨.ok v, y, W ++ ws, false⟩
    | .error _ => ∃ e, (runFrom postgres (drawing os draws) now db (insertWithRef params n) (i, k) W
        false).result = .error e := by
  obtain ⟨arg, uuid, y, honce⟩ := runFrom_insertOnce hp os now db i k W
  refine ⟨arg, uuid, y, fun draws => ?_⟩
  have h := honce draws
  cases hins : Queries.createBooking { arg with ref := newRef (draws k) } uuid
      (postgres.view db W) with
  | ok res =>
    rw [hins] at h
    cases n with
    | zero => rw [insertWithRef, runFrom_bind, h]; rfl
    | succ n => rw [insertWithRef, runFrom_bind, h]; rfl
  | error e =>
    rw [hins] at h
    cases n with
    | zero => exact ⟨.pg e, by rw [insertWithRef, runFrom_bind, h]; rfl⟩
    | succ n =>
      -- The transaction is aborted: the next draw is refused, whatever is left of the retries.
      by_cases he : e.code = pgUniqueViolation
      · refine ⟨.pg .inFailedTransaction, ?_⟩
        rw [insertWithRef, runFrom_bind, h]
        simp only [Outcome.andThen, if_pos he]
        cases n <;> rfl
      · refine ⟨.pg e, ?_⟩
        rw [insertWithRef, runFrom_bind, h]
        simp only [Outcome.andThen, if_neg he]
        rfl

end Loop

/-! ### The two handlers -/

/-- The statements before the insert loop. -/
def Stmt.Prepares : Stmt → Prop
  | .now | .getCustomer _ | .getPricingUnit _ _ _ | .lockUnit _ | .countOverlappingStays _ _ _ _
  | .ensureCustomer _ _ => True
  | _ => False

theorem Stmt.Prepares.drawing {s : Stmt} (hs : s.Prepares) (os : ℕ → Oracle)
    (draws : ℕ → Fin 5 → UInt8) (x : ℕ × ℕ) :
    drawing os draws s x = (os x.1, (x.1 + 1, x.2)) := by
  cases s <;> first | rfl | exact hs.elim

/-- They leave the bookings alone. -/
theorem Stmt.Prepares.bookings {s : Stmt} (hs : s.Prepares) {o : Oracle} {now : ℤ} {db : Db}
    {v : s.Val} {ws : List Write} (h : postgres.eval s o now db = .ok (v, ws)) (db' : Db) :
    (postgres.view db' ws).bookings = db'.bookings := by
  cases s <;> first | exact hs.elim | (cases h; rfl) | skip
  rename_i phone name
  change Queries.ensureCustomer phone name o.uuid db = .ok (v, ws) at h
  rcases Queries.ensureCustomer_ok h with ⟨c, -, -, rfl⟩ | ⟨c, -, -, -, -, -, rfl⟩
  · rfl
  · rfl

/-- A program that prepares, then inserts under a drawn reference. -/
inductive Inserting : {ε : Type} → Prog Stmt Stmt.Val PgError ε CreateBookingRow → Prop where
  | throw {ε : Type} (e : ε) : Inserting (.throw e)
  | exec {ε : Type} {s : Stmt} {k : Except PgError s.Val → Prog Stmt Stmt.Val PgError ε CreateBookingRow}
      (h : s.Prepares) (hk : ∀ r, Inserting (k r)) : Inserting (.exec s k)
  | insert {params : String → Tx CreateBookingParams} (h : SetsRef params) :
      Inserting (insertWithRef params 5)
  | mapErr {ε ε' : Type} {p : Prog Stmt Stmt.Val PgError ε CreateBookingRow} (g : ε → ε')
      (h : Inserting p) : Inserting (p.mapErr g)

theorem Inserting.bind {ε α : Type} {p : Prog Stmt Stmt.Val PgError ε α}
    {f : α → Prog Stmt Stmt.Val PgError ε CreateBookingRow} (hp : p.Only Stmt.Prepares)
    (hf : ∀ a, Inserting (f a)) : Inserting (p >>= f) := by
  show Inserting (p.bind f)
  induction hp with
  | pure a => exact hf a
  | throw e => exact .throw e
  | exec h _ ih => exact .exec h ih

/-- **Up to the insert loop.**  Whatever the draws, the run ends in the same error before the loop, or
it reaches the loop in the same state, with the bookings as they were. -/
theorem Inserting.cases {ε : Type} {p : Prog Stmt Stmt.Val PgError ε CreateBookingRow}
    (h : Inserting p) (os : ℕ → Oracle) (now : ℤ) (db : Db) :
    ∀ (i k : ℕ) (W : List Write) (failed : Bool),
      (∃ e, ∀ draws, (runFrom postgres (drawing os draws) now db p (i, k) W failed).result
        = .error e) ∨
      ∃ params, ∃ g : TxError → ε, ∃ i' W', SetsRef params ∧
        (postgres.view db W').bookings = (postgres.view db W).bookings ∧
        ∀ draws, runFrom postgres (drawing os draws) now db p (i, k) W failed
          = (runFrom postgres (drawing os draws) now db (insertWithRef params 5) (i', k) W'
            false).reword g := by
  induction h with
  | throw e =>
    intro i k W failed
    exact Or.inl ⟨e, fun _ => rfl⟩
  | @exec _ s k' hs _ ih =>
    intro i k W failed
    simp only [runFrom, hs.drawing]
    cases failed with
    | true => exact ih _ i k W true
    | false =>
      simp only [Bool.false_eq_true, if_false]
      cases he : postgres.eval s (os i) now (postgres.view db W) with
      | error e => exact ih _ (i + 1) k W true
      | ok res =>
        rcases ih (.ok res.1) (i + 1) k (W ++ res.2) false with herr | hloop
        · exact Or.inl herr
        · obtain ⟨params, g, i', W', hp, hW', hrun⟩ := hloop
          refine Or.inr ⟨params, g, i', W', hp, ?_, hrun⟩
          rw [hW', postgres.view_append]
          exact hs.bookings he _
  | @insert params hp =>
    intro i k W failed
    cases failed with
    | true => exact Or.inl ⟨.pg .inFailedTransaction, fun _ => rfl⟩
    | false =>
      refine Or.inr ⟨params, id, i, W, hp, rfl, fun draws => ?_⟩
      generalize runFrom postgres (drawing os draws) now db (insertWithRef params 5) (i, k) W false = x
      obtain ⟨r, y, W', failed⟩ := x
      cases r <;> rfl
  | mapErr g _ ih =>
    intro i k W failed
    rcases ih i k W failed with ⟨e, herr⟩ | ⟨params, g', i', W', hp, hW', hrun⟩
    · refine Or.inl ⟨g e, fun draws => ?_⟩
      rw [runFrom_mapErr]
      show Except.mapError g _ = _
      rw [herr]
      rfl
    · refine Or.inr ⟨params, fun e => g (g' e), i', W', hp, hW', fun draws => ?_⟩
      rw [runFrom_mapErr, hrun, Outcome.reword_reword]

/-! ### What the retries are for -/

/-- The stay is otherwise bookable: under some reference the request is answered. -/
def Bookable {ε : Type} (os : ℕ → Oracle) (now : ℤ) (db : Db)
    (p : Prog Stmt Stmt.Val PgError ε CreateBookingRow) : Prop :=
  ∃ draws row, (drawn os draws now db p).result = .ok row

/-- The request stores one booking, under this reference, and answers with it. -/
def StoresUnder {ε : Type} (db : Db) (ref : String)
    (x : Outcome Write ε (ℕ × ℕ) CreateBookingRow) : Prop :=
  ∃ b : BookingRow, b.ref = ref ∧ x.result = .ok ⟨b.id, b.ref⟩ ∧ db.bookings.find? b.id = none ∧
    (postgres.view db x.committed).bookings = db.bookings.insert b

/-- The request fails and nothing is stored. -/
def StoresNothing {ε : Type} (x : Outcome Write ε (ℕ × ℕ) CreateBookingRow) : Prop :=
  (∃ e, x.result = .error e) ∧ x.committed = []

/-- A clash never loses a booking: while the stay is otherwise bookable, the first unused of the first
six references is the booking's; and with all six used the request fails and changes nothing. -/
def Retried {ε : Type} (os : ℕ → Oracle) (draws : ℕ → Fin 5 → UInt8) (now : ℤ) (db : Db)
    (p : Prog Stmt Stmt.Val PgError ε CreateBookingRow) : Prop :=
  (Bookable os now db p → ∀ k < 6, (∀ j < k, RefUsed db (newRef (draws j))) →
    ¬ RefUsed db (newRef (draws k)) → StoresUnder db (newRef (draws k)) (drawn os draws now db p)) ∧
  ((∀ k < 6, RefUsed db (newRef (draws k))) → StoresNothing (drawn os draws now db p))

theorem storesNothing_of_error {ε : Type} {x : Outcome Write ε (ℕ × ℕ) CreateBookingRow} {e : ε}
    (h : x.result = .error e) : StoresNothing x := by
  refine ⟨⟨e, h⟩, ?_⟩
  rw [Outcome.committed, h]

section Inserting

variable {ε : Type} {p : Prog Stmt Stmt.Val PgError ε CreateBookingRow} (h : Inserting p)
variable {os : ℕ → Oracle} {now : ℤ} {db : Db} {draws : ℕ → Fin 5 → UInt8}
include h

/-- **The first reference is taken**: nothing is stored, however it goes on. -/
theorem Inserting.clashes (hclash : RefUsed db (newRef (draws 0))) :
    StoresNothing (drawn os draws now db p) := by
  rcases h.cases os now db 0 0 [] false with ⟨e, herr⟩ | ⟨params, g, i, W, hp, hW, hrun⟩
  · exact storesNothing_of_error (herr draws)
  obtain ⟨arg, uuid, y, hloop⟩ := runFrom_insertWithRef hp os now db i 0 W 5
  have hdraws := hloop draws
  have hused : RefUsed (postgres.view db W) (newRef (draws 0)) := by
    rw [RefUsed, hW]
    exact hclash
  cases hfirst : Queries.createBooking { arg with ref := newRef (draws 0) } uuid
      (postgres.view db W) with
  | ok res => exact absurd hfirst (Queries.createBooking_used hused res.1 res.2)
  | error e =>
    rw [hfirst] at hdraws
    obtain ⟨e', he'⟩ := hdraws
    refine storesNothing_of_error (e := g e') ?_
    rw [drawn, hrun draws, Outcome.reword, he']
    rfl

/-- **The first reference is free**: a stay that is otherwise bookable is stored under it. -/
theorem Inserting.stores (hb : Bookable os now db p) (hfree : ¬ RefUsed db (newRef (draws 0))) :
    StoresUnder db (newRef (draws 0)) (drawn os draws now db p) := by
  obtain ⟨draws', row, hrow⟩ := hb
  rcases h.cases os now db 0 0 [] false with ⟨e, herr⟩ | ⟨params, g, i, W, hp, hW, hrun⟩
  · rw [drawn, herr draws'] at hrow
    cases hrow
  obtain ⟨arg, uuid, y, hloop⟩ := runFrom_insertWithRef hp os now db i 0 W 5
  rw [postgres.view_nil] at hW
  have hunused : ¬ RefUsed (postgres.view db W) (newRef (draws 0)) := by
    rw [RefUsed, hW]
    exact hfree
  -- The run that is answered stores its row, so that insert passes every other constraint.
  have hstored : ∃ v ws, Queries.createBooking { arg with ref := newRef (draws' 0) } uuid
      (postgres.view db W) = .ok (v, ws) := by
    have h' := hloop draws'
    cases hins : Queries.createBooking { arg with ref := newRef (draws' 0) } uuid
        (postgres.view db W) with
    | ok res => exact ⟨res.1, res.2, rfl⟩
    | error e =>
      rw [hins] at h'
      obtain ⟨e', he'⟩ := h'
      rw [drawn, hrun draws', Outcome.reword_ok, he'] at hrow
      cases hrow
  obtain ⟨v, ws, hins⟩ := hstored
  have hdraws := hloop draws
  obtain ⟨b, hfirst, hid, href, hnew⟩ := Queries.createBooking_ref hins (refOk_newRef (draws 0)) hunused
  rw [hfirst] at hdraws
  have hend : drawn os draws now db p
      = ⟨.ok ⟨uuid, newRef (draws 0)⟩, y, W ++ [.insertBooking b], false⟩ := by
    rw [drawn, hrun draws, hdraws]
    rfl
  refine ⟨b, href, ?_, ?_, ?_⟩
  · rw [hend, hid, href]
  · rw [hid, ← hW]
    exact hnew
  · rw [hend, Outcome.committed_ok, postgres.view_append, ← hW]
    rfl

/-- **The retries, where they work.** -/
theorem Inserting.retried_iff : Retried os draws now db p ↔
    (Bookable os now db p →
      ¬ RefUsed db (newRef (draws 0)) ∨ ∀ k < 6, RefUsed db (newRef (draws k))) := by
  constructor
  · intro hret hb
    by_contra hno
    rw [not_or, not_not] at hno
    obtain ⟨hclash, hsome⟩ := hno
    simp only [not_forall] at hsome
    -- The least unused reference would be the booking's, but the run has failed.
    have hmin := Nat.find_spec hsome
    have hbefore : ∀ j < Nat.find hsome, RefUsed db (newRef (draws j)) := by
      intro j hj
      by_contra hn
      exact Nat.find_min hsome hj ⟨hj.trans hmin.1, hn⟩
    obtain ⟨b, -, hok, -⟩ := hret.1 hb _ hmin.1 hbefore hmin.2
    have hnothing : StoresNothing (drawn os draws now db p) := h.clashes hclash
    obtain ⟨⟨e, herr⟩, -⟩ := hnothing
    rw [herr] at hok
    cases hok
  · intro hcond
    refine ⟨fun hb k hk hbefore hunused => ?_, fun hall => h.clashes (hall 0 (by omega))⟩
    rcases hcond hb with hfirst | hall
    · cases k with
      | zero => exact h.stores hb hfirst
      | succ k => exact absurd (hbefore 0 (Nat.succ_pos k)) hfirst
    · exact absurd (hall k hk) hunused

end Inserting

/-! ### The handlers -/

theorem setsRef_webParams (srv : Server) (u : UnitRow) (guest : CustomerRow) (req : Pricing.Request)
    (b : Pricing.Breakdown) : SetsRef (webParams srv u guest req b) := by
  intro os now db x W
  let arg : CreateBookingParams := {
    ref := "", unitId := u.id, customerId := guest.id
    checkIn := req.checkIn, checkOut := req.checkOut, guests := Int16.ofInt req.guests
    status := .pendingPayment, nightlyPrice := b.nightlyPrice, total := b.total
    depositDue := b.depositDue, source := "web"
    holdExpiresAt := some (((os x.1).clock + srv.holdFor) / 1000 * 1000) }
  refine ⟨arg, (x.1 + 1, x.2), fun draws ref => ?_⟩
  have heval : postgres.eval .now (drawing os draws .now x).1 now (postgres.view db W)
      = .ok ((os x.1).clock, []) := rfl
  rw [webParams, tsNow, runFrom_bind, runFrom_bind, Tx.now, Tx.query,
    runFrom_query postgres (drawing os draws) now db TxError.pg heval, List.append_nil]
  rfl

theorem setsRef_manualParams (u : UnitRow) (c : EnsureCustomerRow) (checkIn checkOut guests : ℤ)
    (price : Int64) : SetsRef (manualParams u c checkIn checkOut guests price) := by
  intro os now db x W
  let arg : CreateBookingParams := {
    ref := "", unitId := u.id, customerId := c.id
    checkIn := checkIn, checkOut := checkOut, guests := Int16.ofInt guests
    status := .confirmed, nightlyPrice := price
    total := price * Int64.ofInt (daysBetween checkIn checkOut), depositDue := price
    source := "admin", holdExpiresAt := none }
  exact ⟨arg, x, fun draws ref => rfl⟩

theorem prepares_one {α : Type} {q : Tx (Option α)} (hq : q.Only Stmt.Prepares) :
    (Tx.one q).Only Stmt.Prepares :=
  Prog.only_bind hq (fun _ => Prog.only_require _ _)

theorem createBooking_inserting (srv : Server) (guestId : ℕ) (req : BookingRequest) :
    Inserting (createBooking srv guestId req) := by
  refine .bind (Prog.only_check _ _) (fun range => ?_)
  refine .bind (Prog.only_mapErr _ (prepares_one (Prog.only_query _ trivial))) (fun guest => ?_)
  refine .bind (Prog.only_refuse _ _) (fun _ => ?_)
  refine .bind (Prog.only_mapErr _ (prepares_one (Prog.only_query _ trivial))) (fun u => ?_)
  refine .mapErr _ (.bind (prepares_one (Prog.only_query _ trivial)) (fun _ => ?_))
  have hquote : (quoteStay srv u ⟨range.1, range.2, req.guests⟩).Only Stmt.Prepares :=
    Prog.only_bind (Prog.only_query _ trivial) (fun _ => Prog.only_bind (Prog.only_check _ _)
      (fun _ => Prog.only_bind (Prog.only_query _ trivial) (fun _ =>
        Prog.only_bind (Prog.only_refuse _ _) (fun _ => Prog.only_pure _))))
  exact .bind hquote (fun b => .insert (setsRef_webParams srv u guest _ b))

theorem adminCreateBooking_inserting (req : ManualBookingRequest) :
    Inserting (adminCreateBooking req) := by
  refine .bind (Prog.only_require _ _) (fun unitId => ?_)
  refine .bind (Prog.only_check _ _) (fun range => ?_)
  refine .bind (Prog.only_refuse _ _) (fun _ => ?_)
  refine .bind (Prog.only_require _ _) (fun phone => ?_)
  refine .bind (Prog.only_refuse _ _) (fun _ => ?_)
  refine .bind (Prog.only_mapErr _ (prepares_one (Prog.only_query _ trivial))) (fun u => ?_)
  refine .bind (Prog.only_refuse _ _) (fun _ => ?_)
  refine .bind (Prog.only_refuse _ _) (fun _ => ?_)
  refine .bind (Prog.only_refuse _ _) (fun _ => ?_)
  refine .mapErr _ (.bind (prepares_one (Prog.only_query _ trivial)) (fun _ => ?_))
  refine .bind (Prog.only_query _ trivial) (fun n => ?_)
  refine .bind (Prog.only_refuse _ _) (fun _ => ?_)
  exact .bind (Prog.only_query _ trivial) (fun c => .insert (setsRef_manualParams u c _ _ _ _))

/-- **Retrying under a fresh reference.**  For every stored set of references and every sequence of
draws, a guest's or an admin's booking is treated as the retries mean it exactly when the stay is not
bookable anyway, the first reference drawn is unused, or the first six are all used. -/
theorem refs_retried (srv : Server) (os : ℕ → Oracle) (draws : ℕ → Fin 5 → UInt8) (now : ℤ) (db : Db) :
    (∀ guestId req, Retried os draws now db (createBooking srv guestId req) ↔
      (Bookable os now db (createBooking srv guestId req) →
        ¬ RefUsed db (newRef (draws 0)) ∨ ∀ k < 6, RefUsed db (newRef (draws k)))) ∧
    ∀ req, Retried os draws now db (adminCreateBooking req) ↔
      (Bookable os now db (adminCreateBooking req) →
        ¬ RefUsed db (newRef (draws 0)) ∨ ∀ k < 6, RefUsed db (newRef (draws k))) :=
  ⟨fun guestId req => (createBooking_inserting srv guestId req).retried_iff,
    fun req => (adminCreateBooking_inserting req).retried_iff⟩

/-- A coast with one booking, whose reference is five ones. -/
def oneBooked : Db := served turnoverWorld [call 1 (noonOf newYear) (guestBooks "2027-01-10" "2027-01-12")]

/-- Draws of five `n`s, then of five `n + 1`s, and so on. -/
def drawsFrom (n : ℕ) (k : ℕ) : Fin 5 → UInt8 := fun _ => UInt8.ofNat (n + k)

/-- A later stay for the same unit, requested by a guest. -/
def nextStay : BookingRequest := ⟨"sea-view", "2027-01-14", "2027-01-16", 2⟩

/-- The same stay, typed in by an admin. -/
def nextStayTyped : ManualBookingRequest :=
  ⟨some 1, "2027-01-14", "2027-01-16", 2, "01012345678", "Mona", 400000⟩

/-- A request that is answered with a reference is bookable. -/
theorem bookable_of_ref {ε : Type} {os : ℕ → Oracle} {now : ℤ} {db : Db}
    {p : Prog Stmt Stmt.Val PgError ε CreateBookingRow} (draws : ℕ → Fin 5 → UInt8) (ref : String)
    (h : (drawn os draws now db p).result.toOption.map CreateBookingRow.ref = some ref) :
    Bookable os now db p := by
  cases hr : (drawn os draws now db p).result with
  | ok row => exact ⟨draws, row, hr⟩
  | error e =>
    rw [hr] at h
    cases h

/-- Every statement of the later request at noon on New Year's Day. -/
def atNoon (_ : ℕ) : Oracle := oracleAt 9 (noonOf newYear)

theorem nextStay_bookable :
    Bookable atNoon (noonOf newYear) oneBooked (createBooking winterServer 1 nextStay) :=
  bookable_of_ref (drawsFrom 2) "BES-22222" (by decide +kernel)

theorem nextStayTyped_bookable :
    Bookable atNoon (noonOf newYear) oneBooked (adminCreateBooking nextStayTyped) :=
  bookable_of_ref (drawsFrom 2) "BES-22222" (by decide +kernel)

/-- The first draw is unused: both handlers store the stay under it. -/
theorem refs_retried_unused :
    StoresUnder oneBooked (newRef (drawsFrom 2 0)) (drawn atNoon (drawsFrom 2) (noonOf newYear) oneBooked
        (createBooking winterServer 1 nextStay)) ∧
      StoresUnder oneBooked (newRef (drawsFrom 2 0)) (drawn atNoon (drawsFrom 2) (noonOf newYear)
        oneBooked (adminCreateBooking nextStayTyped)) := by
  have h := refs_retried winterServer atNoon (drawsFrom 2) (noonOf newYear) oneBooked
  have hfirst : ¬ RefUsed oneBooked (newRef (drawsFrom 2 0)) := by decide +kernel
  exact ⟨((h.1 1 nextStay).mpr (fun _ => Or.inl hfirst)).1 nextStay_bookable 0 (by omega) (by omega) hfirst,
    ((h.2 nextStayTyped).mpr (fun _ => Or.inl hfirst)).1 nextStayTyped_bookable 0 (by omega) (by omega)
      hfirst⟩

/-- **The retries never help.**  The first draw is taken and the second is not: the request fails. -/
theorem refs_not_retried :
    ¬ ∀ (srv : Server) (os : ℕ → Oracle) (draws : ℕ → Fin 5 → UInt8) (now : ℤ) (db : Db) guestId req,
      Retried os draws now db (createBooking srv guestId req) := by
  intro h
  have hret := h winterServer atNoon (drawsFrom 1) (noonOf newYear) oneBooked 1 nextStay
  have hclash : RefUsed oneBooked (newRef (drawsFrom 1 0)) := by decide +kernel
  have hfree : ¬ RefUsed oneBooked (newRef (drawsFrom 1 1)) := by decide +kernel
  rcases (createBooking_inserting winterServer 1 nextStay).retried_iff.mp hret nextStay_bookable
    with hfirst | hall
  · exact hfirst hclash
  · exact hfree (hall 1 (by omega))

end Sahel

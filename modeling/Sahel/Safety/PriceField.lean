import Sahel.Safety.Edits
import Sahel.Web.Money

/-!
# The price field

The unit form sends the text of its price field as piasters; null clears the stored price, and a
unit without a price cannot be booked.  A text that is no amount is sent as null as well.

* `payload_price`: what the API decodes of the field;
* `commit_patch`: what an edit that commits has stored;
* **`price_kept_iff`**: exactly the amounts are not sent as null, and a save that commits leaves the
  unit with a price exactly for them, in every run;
* **`price_erased`**: with `1e5` in the field, a save clears the price.
-/

set_option autoImplicit false

namespace Sahel

open KeyedTable ReadCommitted

/-! ### What an edit stores -/

/-- **An edit that commits** has stored what its body makes of a row it has read. -/
theorem commit_patch {srv : Server} {texts : Texts} {d₀ : Rows} {rs : List AllReq} {l l' : FullLog}
    (h : LRun fullPostgres (fullProgram srv texts) always (Logged.quiet d₀) rs l) {i : ℕ} {r : PatchReq}
    (hstep : LStep fullPostgres (fullProgram srv texts) l (some (i, .inr r)) l') :
    ∃ id row row', r.param = some id ∧ r.kind.apply texts r.body row = .ok row' ∧
      ((r.kind.find id l.state.db).isSome → r.kind.find id l'.state.db = some row') := by
  obtain ⟨id, row, arg, read, update, w, W, hp, hdb⟩ := commit_patched h hstep
  refine ⟨id, row, r.kind.record arg, hp.param, hp.applied, fun hsome => ?_⟩
  rw [hdb]
  exact hp.find_self hsome

namespace Web

/-! ### The field -/

/-- What the API decodes of the field: null, or a price. -/
theorem payload_price {readNumber : ℕ → Option Int64} {fd : FormData} {others body : UnitInput}
    (h : payload readNumber fd others = some body) :
    (¬ IsAmount (text fd "nightly_price") ∧ body.nightlyPrice = .null) ∨
      IsAmount (text fd "nightly_price") ∧ ∃ price, body.nightlyPrice = .value price := by
  obtain ⟨price, hprice, rfl⟩ := Option.map_eq_some_iff.mp h
  rw [← stringify_toPiasters_iff, not_not]
  show _ ∨ stringify (nullablePiasters fd "nightly_price") ≠ none ∧ _
  cases hsent : stringify (nullablePiasters fd "nightly_price") with
  | none =>
    rw [hsent] at hprice
    exact Or.inl ⟨hsent, (Option.some.inj hprice).symm⟩
  | some n =>
    rw [hsent] at hprice
    obtain ⟨p, -, rfl⟩ := Option.map_eq_some_iff.mp hprice
    exact Or.inr ⟨Option.some_ne_none n, p, rfl⟩

/-- **A typed price.**  The text, blank or not, is sent as a number and not as null exactly if it is an
amount; and in every run, a save of the form that commits leaves its unit with a price exactly
then. -/
theorem price_kept_iff (readNumber : ℕ → Option Int64) (srv : Server) (texts : Texts) {d₀ : Rows}
    {rs : List AllReq} {l : FullLog}
    (h : LRun fullPostgres (fullProgram srv texts) always (Logged.quiet d₀) rs l)
    (fd : FormData) :
    (stringify (nullablePiasters fd "nightly_price") ≠ none ↔ IsAmount (text fd "nightly_price")) ∧
    ∀ (others body : UnitInput) (i id : ℕ) (l' : FullLog), payload readNumber fd others = some body →
      LStep fullPostgres (fullProgram srv texts) l (some (i, .inr ⟨.unit, some id, body⟩)) l' →
      (Kind.find .unit id l.state.db).isSome → ∃ u, Kind.find .unit id l'.state.db = some u ∧
        (UnitRecord.nightlyPrice u ≠ none ↔ IsAmount (text fd "nightly_price")) := by
  refine ⟨stringify_toPiasters_iff, ?_⟩
  intro others body i id l' hbody hstep hsome
  obtain ⟨id', u, u', hid, happly, hstored⟩ := commit_patch h hstep
  obtain rfl : id = id' := Option.some.inj hid
  obtain ⟨-, rfl⟩ := problemsErr_ok happly
  refine ⟨_, hstored hsome, ?_⟩
  show setNullable (UnitRecord.nightlyPrice u) body.nightlyPrice ≠ none ↔ _
  rcases payload_price hbody with ⟨hnot, hnull⟩ | ⟨hamount, price, hvalue⟩
  · rw [hnull]
    exact ⟨fun hne => absurd rfl hne, fun hyes => absurd hyes hnot⟩
  · rw [hvalue]
    exact ⟨fun _ => hamount, fun _ => Option.some_ne_none price⟩

/-- A form with this text in its price field. -/
def priced (typed : String) : FormData := fun key => if key = "nightly_price" then some typed else none

/-- An amount with grouping and decimals. -/
theorem price_kept_iff_grouped : IsAmount (text (priced " 14,550.5 ") "nightly_price") := by
  have hrun : LRun fullPostgres (fullProgram winterServer plainTexts) always (Logged.quiet coast) []
      (Logged.quiet coast) := .refl
  exact (price_kept_iff (fun _ => none) winterServer plainTexts hrun (priced " 14,550.5 ")).1.mp
    (by decide +kernel)

/-- **A price that a typo erases.**  The form of the coast's chalet is saved with `1e5` for its price. -/
theorem price_erased :
    ¬ ∀ (readNumber : ℕ → Option Int64) (srv : Server) (texts : Texts) (d : Rows) (fd : FormData)
      (others body : UnitInput) (id : ℕ) (u : UnitRecord) (o : Oracle) (now : ℤ),
      text fd "nightly_price" ≠ "" → payload readNumber fd others = some body →
      Kind.find .unit id d = some u → UnitRecord.nightlyPrice u ≠ none →
      ∃ u', Kind.find .unit id (serve fullPostgres (fullProgram srv texts) d
          (.inr ⟨.unit, some id, body⟩, o, now)) = some u' ∧ UnitRecord.nightlyPrice u' ≠ none := by
  intro h
  have hbody : payload (fun _ => none) (priced "1e5") {} = some { nightlyPrice := .null } := by
    decide +kernel
  have hkept := h (fun _ => none) winterServer plainTexts coast (priced "1e5") {} _ 1 _
    (oracleAt 1 (noonOf newYear)) (noonOf newYear) (by decide +kernel) hbody rfl (by decide)
  have hcleared : (Kind.find .unit 1 (serve fullPostgres (fullProgram winterServer plainTexts) coast
      (.inr ⟨.unit, some 1, { nightlyPrice := .null }⟩, oracleAt 1 (noonOf newYear),
        noonOf newYear))).bind UnitRecord.nightlyPrice = none := by
    decide +kernel
  generalize serve fullPostgres _ coast _ = d at hkept hcleared
  obtain ⟨u', hu', hprice⟩ := hkept
  rw [hu'] at hcleared
  exact hprice hcleared

end Web

end Sahel

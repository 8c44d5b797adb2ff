import Sahel.Safety.PriceField
import Sahel.Web.Pounds

/-!
# Amounts that are shown and sent back

The dashboard shows an amount in pounds and reads it again: the price in the unit form, the amount of
a receipt that is verified.  An amount that nobody touched comes back as it was.

* `clean_eq`, `trim_eq`: reading leaves a plain numeral alone;
* `printed_reads_back`: what a field shows is read as the amount;
* **`amounts_come_back`**: so it is for every amount below 10¹⁵, a save of the untouched unit form keeps
  the price, and the exported spreadsheet shows the amount exactly.
-/

set_option autoImplicit false

namespace Sahel

open KeyedTable ReadCommitted

namespace Web

/-! ### Plain numerals -/

/-- A digit, or the point. -/
def isPlain (c : Char) : Bool := c.isDigit || c == '.'

theorem plain_toNat {c : Char} (h : isPlain c = true) : 0x2E ≤ c.toNat ∧ c.toNat ≤ 0x39 := by
  rw [isPlain, Bool.or_eq_true, beq_iff_eq] at h
  rcases h with hdigit | rfl
  · have hrange := isDigit_toNat hdigit
    omega
  · decide

theorem plain_of_denotes {s : List Char} {q : ℚ} (h : Denotes s q) : ∀ c ∈ s, isPlain c = true := by
  obtain ⟨whole, frac, -, hwhole, hfrac, -, rfl, -⟩ := h
  have hdigit : ∀ c : Char, c.isDigit = true → isPlain c = true := by
    intro c hc
    rw [isPlain, hc, Bool.true_or]
  intro c hc
  split_ifs at hc
  · exact hdigit c (hwhole c hc)
  · rcases List.mem_append.mp hc with hc | hc
    · exact hdigit c (hwhole c hc)
    · rcases List.mem_cons.mp hc with rfl | hc
      · rfl
      · exact hdigit c (hfrac c hc)

theorem cleanChar_plain {c : Char} (h : isPlain c = true) : cleanChar c = [c] := by
  obtain ⟨hlow, hhigh⟩ := plain_toNat h
  have hdigit : ∀ first, first = 0x660 ∨ first = 0x6F0 → latinDigit first c = c :=
    fun first hfirst => if_neg (by omega)
  have hne : ∀ d : Char, d.toNat < 0x2E ∨ 0x39 < d.toNat → (c == d) = false := by
    intro d hd
    rw [beq_eq_false_iff_ne]
    rintro rfl
    omega
  have hgroup : isGrouping c = false := by
    have hblank : isBlank c = false := by
      simp [isBlank]
      omega
    rw [isGrouping, hne ',' (by decide), hne '٬' (by decide), hblank]
    rfl
  rw [cleanChar, hdigit 0x660 (Or.inl rfl), hdigit 0x6F0 (Or.inr rfl), List.map_singleton,
    hne '٫' (by decide)]
  show [c].filter (fun c => ! isGrouping c) = [c]
  rw [List.filter_singleton, hgroup]
  rfl

/-- **Reading leaves a plain numeral alone.** -/
theorem clean_eq {s : List Char} (h : ∀ c ∈ s, isPlain c = true) : clean (String.ofList s) = s := by
  induction s with
  | nil => rfl
  | cons c s ih =>
    rw [clean_cons, cleanChar_plain (h c List.mem_cons_self),
      ih (fun d hd => h d (List.mem_cons_of_mem c hd))]
    rfl

theorem trim_eq {t : String} (h : ∀ c ∈ t.toList, isPlain c = true) : trim t = t := by
  have hnone : ∀ c ∈ t.toList, isBlank c = false := by
    intro c hc
    obtain ⟨hlow, hhigh⟩ := plain_toNat (h c hc)
    simp [isBlank]
    omega
  refine trim_eq_self_iff.mpr (Strip.strip_eq_self_iff.mpr ⟨fun c hc => ?_, fun c hc => ?_⟩)
  · exact hnone c (List.mem_of_mem_head? hc)
  · exact hnone c (List.mem_of_mem_getLast? hc)

/-! ### There and back -/

/-- **What a field shows is read as the amount.** -/
theorem printed_reads_back {p : ℕ} (hp : p < 10 ^ 15) {t : String} (h : Printed (inPounds p) t) :
    toPiasters t = some (WithTop.some p) ∧ trim t = t := by
  have hdenotes := printed_denotes hp h
  have hplain := plain_of_denotes hdenotes
  have hclean : clean t = t.toList := by
    have hself := clean_eq hplain
    rwa [String.ofList_toList] at hself
  have hcast : (p : ℚ) < 10 ^ 15 := by exact_mod_cast hp
  rw [← hclean] at hdenotes
  obtain ⟨n, hn, hvalue⟩ := toPiasters_exact hdenotes (by linarith)
  have heq : n = p := by
    have hrat : (n : ℚ) = p := by
      rw [hvalue]
      ring
    exact_mod_cast hrat
  exact ⟨by rw [hn, heq], trim_eq hplain⟩

/-- **Amounts come back as they were.**  Of every amount below 10¹⁵ piasters, the spreadsheet shows
exactly the pounds, and so does a field, in every way the language lets it be written (there is one);
what the field shows is read as the amount.  In every run, a save of the unit form that commits with the price as the
form showed it leaves the unit with that price. -/
theorem amounts_come_back (readNumber : ℕ → Option Int64)
    (hread : ∀ n, n < 10 ^ 15 → readNumber n = some (Int64.ofInt n)) (srv : Server) (texts : Texts) :
    (∀ p, p < 10 ^ 15 → Denotes (pounds p).toList (p / 100) ∧ (∃ t, Printed (inPounds p) t) ∧
      ∀ t, Printed (inPounds p) t → Denotes t.toList (p / 100) ∧ toPiasters t = some (WithTop.some p)) ∧
    ∀ {d₀ : Rows} {rs : List AllReq} {l l' : FullLog} {fd : FormData} {others body : UnitInput}
      {i id p : ℕ} {t : String},
      LRun fullPostgres (fullProgram srv texts) always (Logged.quiet d₀) rs l →
      p < 10 ^ 15 → Printed (inPounds p) t → fd "nightly_price" = some t →
      payload readNumber fd others = some body →
      LStep fullPostgres (fullProgram srv texts) l (some (i, .inr ⟨.unit, some id, body⟩)) l' →
      (Kind.find .unit id l.state.db).isSome → ∃ u, Kind.find .unit id l'.state.db = some u ∧
        UnitRecord.nightlyPrice u = some (Int64.ofInt p) := by
  constructor
  · intro p hp
    exact ⟨pounds_denotes hp, exists_printed p,
      fun t ht => ⟨printed_denotes hp ht, (printed_reads_back hp ht).1⟩⟩
  · intro d₀ rs l l' fd others body i id p t h hp ht hfd hbody hstep hsome
    obtain ⟨hvalue, htrim⟩ := printed_reads_back hp ht
    have hsent : nullablePiasters fd "nightly_price" = some (WithTop.some p) := by
      rw [nullablePiasters, text, hfd, Option.getD_some, htrim, hvalue]
    obtain ⟨price, hprice, rfl⟩ := Option.map_eq_some_iff.mp hbody
    rw [hsent] at hprice
    have hdecoded : (readNumber p).map Field.value = some price := hprice
    rw [hread p hp] at hdecoded
    obtain rfl := Option.some.inj hdecoded
    obtain ⟨id', u, u', hid, happly, hstored⟩ := commit_patch h hstep
    obtain rfl : id = id' := Option.some.inj hid
    obtain ⟨-, rfl⟩ := problemsErr_ok happly
    exact ⟨_, hstored hsome, rfl⟩

/-- Transaction `i` is about to commit an edit of the chalet with this price, and others as they
are. -/
def repricesChalet (l : FullLog) (i : ℕ) (price : Int64) : Bool :=
  match l.state.txs i with
  | some ⟨.inr ⟨.unit, some 1, body⟩, _, .pure _, _, _, false⟩ =>
    (match body.nightlyPrice with
      | .value p => p == price
      | _ => false) && (Kind.find .unit 1 l.state.db).isSome
  | _ => false

theorem repricesChalet_commit {srv : Server} {texts : Texts} {l : FullLog} {i : ℕ} {price : Int64}
    (h : repricesChalet l i price = true) : ∃ (body : UnitInput) (l' : FullLog),
      body.nightlyPrice = .value price ∧ (Kind.find .unit 1 l.state.db).isSome ∧
        LStep fullPostgres (fullProgram srv texts) l (some (i, .inr ⟨.unit, some 1, body⟩)) l' := by
  unfold repricesChalet at h
  split at h
  · rename_i body now a W L hlive
    rw [Bool.and_eq_true] at h
    refine ⟨body, _, ?_, h.2, .commit i hlive rfl rfl⟩
    have hprice := h.1
    split at hprice
    · rename_i p hp
      rw [hp, beq_iff_eq.mp hprice]
    · cases hprice
  · cases h

/-- The chalet's form is saved with its price of 14,550.50 pounds untouched. -/
theorem amounts_come_back_chalet : ∃ (t : String) (l' : FullLog) (u : UnitRecord),
    toPiasters t = some (WithTop.some 1455050) ∧ Kind.find .unit 1 l'.state.db = some u ∧
      UnitRecord.nightlyPrice u = some 1455050 := by
  obtain ⟨hshown, hsaved⟩ := amounts_come_back (fun n => some (Int64.ofInt n)) (fun _ _ => rfl)
    winterServer plainTexts
  obtain ⟨-, ⟨t, ht⟩, hback⟩ := hshown 1455050 (by norm_num)
  have hvalue := (hback t ht).2
  have hplayed : (plays fullPostgres (fullProgram winterServer plainTexts) (fun _ _ => true) 2
      [.start 1 (editUnit { nightlyPrice := .value 1455050 }) (noonOf newYear),
        .exec 1 (oracleAt 2 (noonOf newYear)), .exec 1 (oracleAt 2 (noonOf newYear))]
      (Logged.quiet coast) []).any (fun p => repricesChalet p.2 1 1455050) = true := by
    decide +kernel
  obtain ⟨rs, l, hrun, -, htest⟩ := LRun.of_plays always (fun _ _ _ _ _ => trivial) hplayed
  obtain ⟨body, l', hprice, hsome, hstep⟩ := repricesChalet_commit htest
  have hsent : nullablePiasters (priced t) "nightly_price" = some (WithTop.some 1455050) := by
    have htext : text (priced t) "nightly_price" = trim t := rfl
    rw [nullablePiasters, htext, (printed_reads_back (by norm_num) ht).2, hvalue]
  have hbody : payload (fun n => some (Int64.ofInt n)) (priced t) body = some body := by
    rw [payload, hsent]
    show some { body with nightlyPrice := .value (Int64.ofInt (1455050 : ℕ)) } = some body
    have hself : (Field.value (Int64.ofInt (1455050 : ℕ)) : Field Int64) = body.nightlyPrice := hprice.symm
    rw [hself]
  obtain ⟨u, hu, hkept⟩ := hsaved hrun (by norm_num) ht rfl hbody hstep hsome
  exact ⟨t, l', u, hvalue, hu, hkept⟩

end Web

end Sahel

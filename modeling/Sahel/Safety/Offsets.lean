import Sahel.Safety.Pages

/-!
# Offsets of the public lists

What the queries of a page are told to skip: the page's number and its size are 64-bit, their
product is cut to 32 bits.

* `pageAsked` and `sizeAsked` are the numbers two texts stand for;
* `ExactPage` says of one list that the offset sent is `(page - 1) * size`, and that a page past the
  end is empty;
* **`offsets_exact`**: each of the three lists does exactly while that product is below `2 ^ 31`;
  `offsets_wrap` is the first page after.
-/

set_option autoImplicit false

namespace Sahel

open ReadCommitted Paging

/-! ### The page asked for -/

/-- A number from one on, and the first page for any other text. -/
def pageAsked (page : String) : ℤ := ((parseInt64 page).filter (fun n => decide (1 ≤ n))).getD 1

/-- A number from one to sixty, which larger ones are cut to, and twenty for any other text. -/
def sizeAsked (size : String) : ℤ :=
  (((parseInt64 size).filter (fun n => decide (1 ≤ n))).map (min 60)).getD 20

theorem parseInt64_range {s : String} {n : ℤ} (h : parseInt64 s = some n) : -2 ^ 63 ≤ n ∧ n < 2 ^ 63 := by
  -- however its sign is read, a number is kept only when it is in range
  have hkept : ∀ x : Option ℤ, (x.bind fun n => if -2 ^ 63 ≤ n ∧ n < 2 ^ 63 then some n else none) = some n →
      -2 ^ 63 ≤ n ∧ n < 2 ^ 63 := by
    intro x hx
    obtain ⟨m, -, hm⟩ := Option.bind_eq_some_iff.mp hx
    split_ifs at hm with hrange
    cases hm
    exact hrange
  unfold parseInt64 at h
  split at h <;> exact hkept _ h

theorem intOrDefault_toInt (s : String) (d : Int64) :
    (intOrDefault s d).toInt = (parseInt64 s).getD d.toInt := by
  by_cases hs : s = ""
  · subst hs
    rfl
  · rw [intOrDefault, if_neg hs]
    cases hn : parseInt64 s with
    | none => rfl
    | some n =>
      have hrange := parseInt64_range hn
      show (Int64.ofInt n).toInt = n
      rw [Int64.toInt_ofInt]
      exact Int.bmod_eq_of_le (by simp only [Int64.size]; omega) (by simp only [Int64.size]; omega)

/-- What is below one is replaced. -/
theorem toInt_fallback (n d : Int64) :
    (if n < 1 then d else n).toInt = if n.toInt < 1 then d.toInt else n.toInt := by
  by_cases h : n < 1
  · rw [if_pos h, if_pos (show n.toInt < 1 from Int64.lt_iff_toInt_lt.mp h)]
  · rw [if_neg h, if_neg (show ¬ n.toInt < 1 from fun hlt => h (Int64.lt_iff_toInt_lt.mpr hlt))]

/-- What is above sixty is cut. -/
theorem toInt_cap (n : Int64) : (if n > maxPageSize then maxPageSize else n).toInt = min 60 n.toInt := by
  have hmax : maxPageSize.toInt = 60 := rfl
  by_cases h : n > maxPageSize
  · have hlt := Int64.lt_iff_toInt_lt.mp h
    rw [if_pos h, hmax]
    omega
  · have hle : n.toInt ≤ maxPageSize.toInt := Int64.le_iff_toInt_le.mp (Int64.not_lt.mp h)
    rw [if_neg h]
    omega

/-- **The page and the size** of a request are those its texts ask for. -/
theorem parsePagination_toInt (page size : String) :
    (parsePagination page size).1.toInt = pageAsked page ∧
      (parsePagination page size).2.toInt = sizeAsked size := by
  have hpage := intOrDefault_toInt page 1
  have hsize := intOrDefault_toInt size defaultPageSize
  have hone : (1 : Int64).toInt = 1 := rfl
  have htwenty : defaultPageSize.toInt = 20 := rfl
  constructor
  · refine (toInt_fallback _ _).trans ?_
    rw [hpage, hone, pageAsked]
    cases parseInt64 page with
    | none => rfl
    | some n =>
      rw [Option.filter_some, Option.getD_some]
      by_cases hn : 1 ≤ n
      · rw [if_neg (by omega), if_pos (decide_eq_true hn), Option.getD_some]
      · rw [if_pos (by omega), if_neg (by simpa using hn), Option.getD_none]
  · refine (toInt_cap _).trans ?_
    rw [toInt_fallback, hsize, htwenty, sizeAsked]
    cases parseInt64 size with
    | none => rfl
    | some n =>
      rw [Option.filter_some, Option.getD_some]
      by_cases hn : 1 ≤ n
      · rw [if_neg (by omega), if_pos (decide_eq_true hn), Option.map_some, Option.getD_some]
      · rw [if_pos (by omega), if_neg (by simpa using hn), Option.map_none, Option.getD_none]
        rfl

theorem pageAsked_pos (page : String) : 1 ≤ pageAsked page := by
  rw [pageAsked]
  cases h : (parseInt64 page).filter (fun n => decide (1 ≤ n)) with
  | none => exact le_refl 1
  | some n => exact of_decide_eq_true (Option.filter_eq_some_iff.mp h).2

theorem sizeAsked_range (size : String) : 1 ≤ sizeAsked size ∧ sizeAsked size ≤ 60 := by
  rw [sizeAsked]
  cases h : (parseInt64 size).filter (fun n => decide (1 ≤ n)) with
  | none => decide
  | some n =>
    have hn : 1 ≤ n := of_decide_eq_true (Option.filter_eq_some_iff.mp h).2
    show 1 ≤ min 60 n ∧ min 60 n ≤ 60
    omega

/-- How many rows come before the page. -/
def rowsBefore (page size : String) : ℤ := (pageAsked page - 1) * sizeAsked size

theorem rowsBefore_nonneg (page size : String) : 0 ≤ rowsBefore page size :=
  Int.mul_nonneg (by have h := pageAsked_pos page; omega) (by have h := sizeAsked_range size; omega)

/-- The offset is that number, in 32 bits. -/
theorem pageOffset_eq_bmod (page size : String) :
    (pageOffset (parsePagination page size).1 (parsePagination page size).2).toInt
      = (rowsBefore page size).bmod (2 ^ 32) := by
  obtain ⟨hpage, hsize⟩ := parsePagination_toInt page size
  have hone : (1 : Int64).toInt = 1 := rfl
  rw [pageOffset, Int64.toInt_toInt32, Int64.toInt_mul, Int64.toInt_sub, hpage, hsize, hone,
    Int.bmod_mul_bmod, Int.bmod_bmod_of_dvd (by decide), rowsBefore]

/-- **It is the number itself** exactly when that fits. -/
theorem pageOffset_exact_iff (page size : String) :
    (pageOffset (parsePagination page size).1 (parsePagination page size).2).toInt = rowsBefore page size
      ↔ rowsBefore page size < 2 ^ 31 := by
  have hpos := rowsBefore_nonneg page size
  rw [pageOffset_eq_bmod]
  refine ⟨fun h => ?_, fun h => Int.bmod_eq_of_le (by omega) (by omega)⟩
  have hlt := Int.bmod_lt (x := rowsBefore page size) (m := 2 ^ 32) (by decide)
  omega

/-- The limit is the size itself. -/
theorem pageLimit_exact (page size : String) :
    ((parsePagination page size).2.toInt32).toInt = sizeAsked size := by
  have hrange := sizeAsked_range size
  rw [Int64.toInt_toInt32, (parsePagination_toInt page size).2]
  exact Int.bmod_eq_of_le (by omega) (by omega)

/-- A page past the end is empty. -/
theorem limited_past {α : Type} {rows : List α} {page size : String} (hfits : rowsBefore page size < 2 ^ 31)
    (hpast : rows.length ≤ rowsBefore page size) :
    Queries.limited (parsePagination page size).2.toInt32
      (pageOffset (parsePagination page size).1 (parsePagination page size).2) rows = .ok [] := by
  have hoffset := (pageOffset_exact_iff page size).mpr hfits
  have hnonneg := rowsBefore_nonneg page size
  have hrange := sizeAsked_range size
  have hnot : ¬ ((parsePagination page size).2.toInt32 < 0 ∨
      pageOffset (parsePagination page size).1 (parsePagination page size).2 < 0) := by
    rw [Int32.lt_iff_toInt_lt, Int32.lt_iff_toInt_lt, pageLimit_exact, hoffset]
    show ¬ (sizeAsked size < 0 ∨ rowsBefore page size < 0)
    omega
  rw [Queries.limited, if_neg hnot, hoffset, List.drop_eq_nil_of_le (by omega), List.take_nil]

/-! ### One list -/

/-- The `OFFSET` of a query that has one. -/
def PublicStmt.offset : PublicStmt → Option Int32
  | .searchUnits arg => some arg.pageOffset
  | .listCompounds arg => some arg.pageOffset
  | .listActiveUnitsByCompoundID arg => some arg.offset
  | _ => none

/-- A query whose offset, if it has one, is the number of rows before the page. -/
def ExactOffset (page size : String) (s : PublicStmt) : Prop :=
  ∀ n, s.offset = some n → n.toInt = rowsBefore page size ∧ 0 ≤ n.toInt

section List

variable {α β : Type} (collation : Ranking String) (now : ℤ) (d : PublicRows)

/-- A handler's page of a list: what is sent, what is reported of it, and a page past the end. -/
structure ExactPage (p : PublicHandler α) (list : α → PageOf β) (rows : List β) (page size : String) :
    Prop where
  sent : p.Only (ExactOffset page size)
  reported : ∀ o a, answer (publicStore collation) o now d p = .ok a →
    (list a).page.toInt = pageAsked page ∧ (list a).size.toInt = sizeAsked size
  past : rows.length ≤ rowsBefore page size →
    ∀ o, ∃ a, answer (publicStore collation) o now d p = .ok a ∧ (list a).items = []

/-- A list and its count run only exact queries when the first of them is one. -/
theorem only_list {s c : PublicStmt} {what what' : String} {page size : String} (hc : c.offset = none)
    (f : s.Val → c.Val → α) :
    (readPublic s what >>= fun items => readPublic c what' >>= fun total =>
        (pure (f items total) : PublicHandler α)).Only (ExactOffset page size)
      ↔ ExactOffset page size s := by
  have hcount : ExactOffset page size c := by
    intro n hn
    rw [hc] at hn
    cases hn
  refine ⟨fun h => h.stmt, fun h => ?_⟩
  exact Prog.only_bind (Prog.only_query _ h) (fun items =>
    Prog.only_bind (Prog.only_query _ hcount) (fun total => .pure _))

/-- An offset computed from the texts is exact when it fits. -/
theorem exactOffset_iff {s : PublicStmt} {page size : String}
    (hs : s.offset = some (pageOffset (parsePagination page size).1 (parsePagination page size).2)) :
    ExactOffset page size s ↔ rowsBefore page size < 2 ^ 31 := by
  rw [← pageOffset_exact_iff]
  constructor
  · intro h
    exact (h _ hs).1
  · intro h n hn
    rw [hs] at hn
    cases hn
    exact ⟨h, h.symm ▸ rowsBefore_nonneg page size⟩

variable {collation now d}

/-- **One list's pages are exact** while the offset fits: the handler's answer is what its sorted rows
are cut to. -/
theorem exactPage_iff {p : PublicHandler α} {list : α → PageOf β} {rows : List β} {page size : String}
    {r : Ranking β} {id : β → ℕ} {e : ApiError} (hnodup : (rows.map id).Nodup)
    (hanswer : ∀ o, (answer (publicStore collation) o now d p).map list
      = ((Queries.limited (parsePagination page size).2.toInt32
          (pageOffset (parsePagination page size).1 (parsePagination page size).2)
          (Queries.orderedBy r id o rows)).mapError (fun _ => e)).map (fun items =>
        ⟨items, (parsePagination page size).1, (parsePagination page size).2, rows.length⟩))
    (hsent : p.Only (ExactOffset page size) ↔ rowsBefore page size < 2 ^ 31) :
    ExactPage collation now d p list rows page size ↔ rowsBefore page size < 2 ^ 31 := by
  obtain ⟨hpage, hsize⟩ := parsePagination_toInt page size
  refine ⟨fun h => hsent.mp h.sent, fun hfits => ⟨hsent.mpr hfits, fun o a ha => ?_, fun hpast o => ?_⟩⟩
  · have h := hanswer o
    rw [ha] at h
    cases hrows : Queries.limited (parsePagination page size).2.toInt32
        (pageOffset (parsePagination page size).1 (parsePagination page size).2)
        (Queries.orderedBy r id o rows) with
    | error x =>
      rw [hrows] at h
      cases h
    | ok items =>
      rw [hrows] at h
      have hlist := Except.ok.inj h
      rw [hlist]
      exact ⟨hpage, hsize⟩
  · have hlen : (Queries.orderedBy r id o rows).length = rows.length :=
      (orderedBy_arranges r o hnodup).1.length_eq
    have h := hanswer o
    rw [limited_past hfits (hlen.symm ▸ hpast)] at h
    cases ha : answer (publicStore collation) o now d p with
    | error x =>
      rw [ha] at h
      cases h
    | ok a =>
      rw [ha] at h
      exact ⟨a, rfl, congrArg PageOf.items (Except.ok.inj h)⟩

end List

/-! ### The three lists -/

section Lists

variable (texts : Texts) (collation : Ranking String) (now : ℤ) (d : PublicRows)

theorem only_getCompound (slug page size : String) (c : GetCompoundBySlugRow) :
    (getCompound slug page size).Only (ExactOffset page size) ↔ rowsBefore page size < 2 ^ 31 := by
  have hexact : ∀ c : GetCompoundBySlugRow, ExactOffset page size (.listActiveUnitsByCompoundID {
      compoundId := c.id, limit := (parsePagination page size).2.toInt32
      offset := pageOffset (parsePagination page size).1 (parsePagination page size).2 })
        ↔ rowsBefore page size < 2 ^ 31 := fun c => exactOffset_iff rfl
  have hrow : ExactOffset page size (.getCompoundBySlug slug) := fun n hn => by cases hn
  simp only [getCompound]
  refine ⟨fun h => ?_, fun hfits => Prog.only_bind (Prog.only_query _ hrow) (fun row =>
    Prog.only_bind (Prog.only_require _ _) (fun c => ?_))⟩
  · exact (hexact c).mp ((only_list rfl _).mp (h.next (.ok (some c))))
  · exact (only_list rfl _).mpr ((hexact c).mpr hfits)

/-- **Page offsets are exact** in the search, in the compounds and in a compound's units exactly when
the rows before the page number less than `2 ^ 31`. -/
theorem offsets_exact :
    (∀ (q : SearchQuery) (f : SearchFilters), q.filters texts = .ok f →
      (ExactPage collation now d (searchUnits texts q) (fun p => p) (Queries.searchMatches f d)
          q.page q.size ↔ rowsBefore q.page q.size < 2 ^ 31)) ∧
    (∀ area page size,
      ExactPage collation now d (listCompounds area page size) (fun p => p)
          (Queries.compoundMatches (textOpt area) d) page size ↔ rowsBefore page size < 2 ^ 31) ∧
    ∀ slug c, Queries.getCompoundBySlug slug d = some c → ∀ page size,
      (ExactPage collation now d (getCompound slug page size) CompoundPage.units
          (Queries.compoundUnits c.id d) page size ↔ rowsBefore page size < 2 ^ 31) := by
  have hid : ∀ {γ : Type} (x : Except ApiError γ), x.map (fun p => p) = x := by
    intro γ x
    cases x <;> rfl
  refine ⟨fun q f hf => ?_, fun area page size => ?_, fun slug c hc page size => ?_⟩
  · refine exactPage_iff (nodup_searchMatches d f)
      (fun o => (hid _).trans (answer_searchUnits texts collation now d o hf)) ?_
    simp only [searchUnits, hf]
    exact (only_list rfl _).trans (exactOffset_iff rfl)
  · refine exactPage_iff (nodup_compoundMatches d (textOpt area))
      (fun o => (hid _).trans (answer_listCompounds collation now d o area page size)) ?_
    simp only [listCompounds]
    exact (only_list rfl _).trans (exactOffset_iff rfl)
  · refine exactPage_iff (nodup_compoundUnits d c.id)
      (fun o => answer_getCompound collation now d o hc page size) ?_
    exact only_getCompound slug page size c

end Lists

/-! ### Two units of one compound -/

/-- The third page of one row each is past the end. -/
theorem offsets_exact_third :
    ExactPage bytewise 0 bulkImport (searchUnits plainTexts { searchAll "1" with page := "3" })
      (fun p => p) (Queries.searchMatches noFilters bulkImport) "3" "1" ∧
    ExactPage bytewise 0 bulkImport (getCompound "marassi" "3" "1") CompoundPage.units
      (Queries.compoundUnits 1 bulkImport) "3" "1" := by
  have hpages := offsets_exact plainTexts bytewise 0 bulkImport
  have hfits : rowsBefore "3" "1" < 2 ^ 31 := by decide +kernel
  exact ⟨(hpages.1 { searchAll "1" with page := "3" } noFilters rfl).mpr hfits,
    (hpages.2.2 "marassi" _ rfl "3" "1").mpr hfits⟩

/-- A wrapped offset is refused by the database. -/
theorem limited_wrapped {α : Type} (rows : List α) {page size : String}
    (h : rowsBefore page size = 2 ^ 31) :
    Queries.limited (parsePagination page size).2.toInt32
      (pageOffset (parsePagination page size).1 (parsePagination page size).2) rows
        = .error .invalidRowCount := by
  refine if_pos (Or.inr (Int32.lt_iff_toInt_lt.mpr ?_))
  rw [pageOffset_eq_bmod, h]
  decide

/-- A list whose page is past the end fails instead of being empty. -/
theorem not_exactPage {α β : Type} {collation : Ranking String} {now : ℤ} {d : PublicRows}
    {p : PublicHandler α} {list : α → PageOf β} {rows : List β} {page size : String} {e : ApiError}
    (hpast : rows.length ≤ rowsBefore page size) (o : Oracle)
    (h : (answer (publicStore collation) o now d p).map list = .error e) :
    ¬ ExactPage collation now d p list rows page size := by
  intro hexact
  obtain ⟨a, ha, -⟩ := hexact.past hpast o
  rw [ha] at h
  cases h

/-- **The first page after** is an error in each of the lists; a later one is the first page again. -/
theorem offsets_wrap :
    ¬ ExactPage bytewise 0 bulkImport
        (searchUnits plainTexts { searchAll "1" with page := "2147483649" }) (fun p => p)
        (Queries.searchMatches noFilters bulkImport) "2147483649" "1" ∧
    ¬ ExactPage bytewise 0 bulkImport (listCompounds "" "2147483649" "1") (fun p => p)
        (Queries.compoundMatches none bulkImport) "2147483649" "1" ∧
    ¬ ExactPage bytewise 0 bulkImport (getCompound "marassi" "2147483649" "1") CompoundPage.units
        (Queries.compoundUnits 1 bulkImport) "2147483649" "1" ∧
    pageOffset (parsePagination "4294967297" "1").1 (parsePagination "4294967297" "1").2 = 0 := by
  have hrows : rowsBefore "2147483649" "1" = 2 ^ 31 := by decide +kernel
  let o : Oracle := ⟨0, fun _ => 0, 0, true, fun ids => ids, fun _ => .refl _⟩
  refine ⟨not_exactPage (e := failed "search") (hrows ▸ by decide +kernel) o ?_,
    not_exactPage (e := failed "list compounds") (hrows ▸ by decide +kernel) o ?_,
    not_exactPage (e := failed "compound units") (hrows ▸ by decide +kernel) o ?_, by decide +kernel⟩
  · rw [answer_searchUnits plainTexts bytewise 0 bulkImport o (f := noFilters) rfl]
    dsimp only [searchAll]
    rw [limited_wrapped _ hrows]
    rfl
  · rw [answer_listCompounds, limited_wrapped _ hrows]
    rfl
  · rw [answer_getCompound bytewise 0 bulkImport o rfl, limited_wrapped _ hrows]
    rfl

end Sahel

import Sahel.Http.PublicCatalogue
import Sahel.Model.World

/-!
# Paging the public lists

When the pages of a search, of the compounds and of a compound's units list every row once: the
queries sort by columns that rows may share, and each page is a query of its own.

* `Partitions` says that the pages of one list hold every row once, however ties are broken on every
  page;
* `Pageable` is when they do: no group of tied rows reaches over the end of a page, and the last
  offset fits 32 bits;
* **`paging_partitions`**, and `paging_repeats` where two units were created in one instant.
-/

set_option autoImplicit false

namespace Sahel

open ReadCommitted KeyedTable Paging

/-! ### Page numbers -/

theorem decimal?_append {cs : List Char} {n : ℤ} (h : decimal? cs = some n) {d : ℕ} (hd : d < 10) :
    decimal? (cs ++ [Nat.digitChar d]) = some (10 * n + d) := by
  have hdigit : ∀ d < 10, ('0' ≤ Nat.digitChar d ∧ Nat.digitChar d ≤ '9') ∧
      (Nat.digitChar d).toNat - 48 = d := by decide
  obtain ⟨hrange, hval⟩ := hdigit d hd
  have hne : cs ≠ [] := by
    rintro rfl
    cases h
  rw [decimal?, if_neg hne] at h
  rw [decimal?, if_neg (List.append_ne_nil_of_left_ne_nil hne _), List.foldlM_append, h]
  simp only [List.foldlM_cons, List.foldlM_nil, Option.bind_eq_bind, Option.bind_some, if_pos hrange,
    hval]
  rfl

/-- **A number is read back** from its decimal text. -/
theorem decimal?_toDigits (n : ℕ) : decimal? (Nat.toDigits 10 n) = some (n : ℤ) := by
  induction n using Nat.strongRecOn with
  | ind n ih =>
    by_cases hn : n < 10
    · have hsmall : ∀ n < 10, decimal? [Nat.digitChar n] = some (n : ℤ) := by decide
      rw [Nat.toDigits_of_lt_base hn]
      exact hsmall n hn
    · rw [Nat.toDigits_of_base_le (by decide) (by omega),
        decimal?_append (ih (n / 10) (by omega)) (Nat.mod_lt n (by decide))]
      congr 1
      omega

theorem parseInt64_toString {n : ℕ} (hn : n < 2 ^ 63) : parseInt64 (toString n) = some (n : ℤ) := by
  have hdec := decimal?_toDigits n
  have htext : (toString n).toList = Nat.toDigits 10 n := Nat.toList_repr
  have hrange : -2 ^ 63 ≤ (n : ℤ) ∧ (n : ℤ) < 2 ^ 63 := by omega
  rw [parseInt64, htext]
  split
  · rename_i cs hcs
    rw [hcs] at hdec
    simp [decimal?] at hdec
  · rename_i cs hcs
    rw [hcs] at hdec
    simp [decimal?] at hdec
  · rw [hdec, Option.bind_eq_bind, Option.bind_some]
    beta_reduce
    rw [if_pos hrange]

theorem intOrDefault_toString {n : ℕ} (hn : n < 2 ^ 63) (d : Int64) :
    intOrDefault (toString n) d = Int64.ofInt n := by
  have hne : toString n ≠ "" := by
    intro h
    have hread := parseInt64_toString hn
    rw [h] at hread
    cases hread
  rw [intOrDefault, if_neg hne, parseInt64_toString hn]

theorem toInt_ofNat {n : ℕ} (hn : n < 2 ^ 63) : (Int64.ofInt n).toInt = n := by
  have hsize : Int64.size = 18446744073709551616 := rfl
  rw [Int64.toInt_ofInt, hsize]
  exact Int.bmod_eq_of_le (by omega) (by omega)

/-- The page asked for, and the size. -/
theorem parsePagination_toString {k : ℕ} (hk : k + 1 < 2 ^ 63) (size : String) :
    parsePagination (toString (k + 1)) size
      = (Int64.ofInt (k + 1 : ℕ), (parsePagination "" size).2) := by
  have hpos : ¬ Int64.ofInt (k + 1 : ℕ) < 1 := by
    rw [Int64.lt_iff_toInt_lt, toInt_ofNat hk]
    show ¬ ((k + 1 : ℕ) : ℤ) < 1
    omega
  simp only [parsePagination, intOrDefault_toString hk, if_neg hpos]

/-- A page has at least one row and at most sixty. -/
theorem pageSize_range (size : String) :
    1 ≤ (parsePagination "" size).2.toInt ∧ (parsePagination "" size).2.toInt ≤ 60 := by
  have hall : ∀ n : Int64,
      1 ≤ (if (if n < 1 then defaultPageSize else n) > maxPageSize then maxPageSize
        else if n < 1 then defaultPageSize else n).toInt ∧
      (if (if n < 1 then defaultPageSize else n) > maxPageSize then maxPageSize
        else if n < 1 then defaultPageSize else n).toInt ≤ 60 := by
    intro n
    by_cases hlow : n < 1
    · rw [if_pos hlow]
      decide
    · rw [if_neg hlow]
      have hlow' := Int64.not_lt.mp hlow
      by_cases hhigh : n > maxPageSize
      · rw [if_pos hhigh]
        decide
      · rw [if_neg hhigh]
        exact ⟨Int64.le_iff_toInt_le.mp hlow', Int64.le_iff_toInt_le.mp (Int64.not_lt.mp hhigh)⟩
  exact hall _

/-- How many rows a page has. -/
def pageSize (size : String) : ℕ := (parsePagination "" size).2.toInt.toNat

theorem pageSize_eq (size : String) : (parsePagination "" size).2.toInt = pageSize size := by
  have hrange := pageSize_range size
  rw [pageSize]
  omega

theorem pageLimit_toInt (size : String) :
    ((parsePagination "" size).2.toInt32).toInt = pageSize size := by
  have hrange := pageSize_range size
  rw [Int64.toInt_toInt32, Int.bmod_eq_of_le (by omega) (by omega), pageSize_eq]

/-- The offset of a page, before it is cut to 32 bits. -/
theorem pageStart_toInt {k : ℕ} (size : String) (hk : k * pageSize size < 2 ^ 62) :
    ((Int64.ofInt (k + 1 : ℕ) - 1) * (parsePagination "" size).2).toInt = (k * pageSize size : ℕ) := by
  have hrange := pageSize_range size
  have heq := pageSize_eq size
  have hle : k ≤ k * pageSize size := Nat.le_mul_of_pos_right k (by omega)
  have hone : (Int64.ofInt (k + 1 : ℕ) - 1).toInt = k := by
    rw [Int64.toInt_sub, toInt_ofNat (by omega)]
    show (((k + 1 : ℕ) : ℤ) - 1).bmod (2 ^ 64) = k
    rw [Int.bmod_eq_of_le (by omega) (by omega)]
    omega
  rw [Int64.toInt_mul, hone, heq]
  have hcast : ((k : ℤ) * (pageSize size : ℤ)) = ((k * pageSize size : ℕ) : ℤ) := by push_cast; rfl
  rw [hcast]
  exact Int.bmod_eq_of_le (by omega) (by omega)

/-- The offset of a page, as it is while it fits. -/
theorem pageOffset_toInt {k : ℕ} (size : String) (hfits : k * pageSize size < 2 ^ 31) :
    (pageOffset (Int64.ofInt (k + 1 : ℕ)) (parsePagination "" size).2).toInt = (k * pageSize size : ℕ) := by
  rw [pageOffset, Int64.toInt_toInt32, pageStart_toInt size (by omega)]
  exact Int.bmod_eq_of_le (by omega) (by omega)

/-- The first offset that does not fit is negative. -/
theorem pageOffset_neg {k : ℕ} (size : String) (hlow : 2 ^ 31 ≤ k * pageSize size)
    (hhigh : k * pageSize size < 2 ^ 31 + 60) :
    pageOffset (Int64.ofInt (k + 1 : ℕ)) (parsePagination "" size).2 < 0 := by
  rw [Int32.lt_iff_toInt_lt, pageOffset, Int64.toInt_toInt32, pageStart_toInt size (by omega)]
  show ((k * pageSize size : ℕ) : ℤ).bmod (2 ^ 32) < 0
  have hmod : ((k * pageSize size : ℕ) : ℤ) % (2 ^ 32 : ℕ) = (k * pageSize size : ℕ) := by
    apply Int.emod_eq_of_lt <;> omega
  rw [Int.bmod_def, hmod]
  split_ifs <;> omega

/-! ### Arrangements -/

section Arrangement

variable {α : Type} {id : α → ℕ} {rows s : List α}

/-- Rows are found by their ids. -/
theorem filterMap_find? (hnodup : (rows.map id).Nodup) (hs : ∀ x ∈ s, x ∈ rows) :
    (s.map id).filterMap (fun i => rows.find? (fun r => decide (id r = i))) = s := by
  induction s with
  | nil => rfl
  | cons x s ih =>
    obtain ⟨hx, hs⟩ := List.forall_mem_cons.mp hs
    have hfind : rows.find? (fun r => decide (id r = id x)) = some x := by
      cases hfind : rows.find? (fun r => decide (id r = id x)) with
      | none => exact absurd (List.find?_eq_none.mp hfind x hx) (by simp)
      | some y =>
        have hid := List.find?_some hfind
        have heq := List.inj_on_of_nodup_map hnodup (List.mem_of_find?_eq_some hfind) hx
          (by simpa using hid)
        rw [heq]
    rw [List.map_cons, List.filterMap_cons]
    simp only [hfind]
    rw [ih hs]

theorem met_perm (o : Oracle) (hnodup : (rows.map id).Nodup) : (o.met id rows).Perm rows := by
  have hperm := (o.scan_perm (rows.map id)).filterMap (fun i => rows.find? (fun r => decide (id r = i)))
  rwa [filterMap_find? hnodup (fun x hx => hx)] at hperm

/-- A scan may meet rows in any order. -/
theorem exists_met (hnodup : (rows.map id).Nodup) (hs : s.Perm rows) : ∃ o : Oracle, o.met id rows = s := by
  let scan : List ℕ → List ℕ := fun ids => if ids = rows.map id then s.map id else ids
  have hscan : ∀ ids, (scan ids).Perm ids := by
    intro ids
    by_cases hids : ids = rows.map id
    · rw [hids]
      simpa only [scan, if_true] using hs.map id
    · simp only [scan, if_neg hids]
      exact .refl ids
  refine ⟨⟨0, fun _ => 0, 0, true, scan, hscan⟩, ?_⟩
  show (scan (rows.map id)).filterMap _ = s
  simp only [scan, if_true]
  exact filterMap_find? hnodup (fun x hx => hs.mem_iff.mp hx)

theorem orderedBy_arranges (r : Ranking α) (o : Oracle) (hnodup : (rows.map id).Nodup) :
    r.Arranges (Queries.orderedBy r id o rows) rows :=
  ⟨(List.mergeSort_perm _ _).trans (met_perm o hnodup), List.pairwise_mergeSort r.trans r.total _⟩

/-- An `ORDER BY` may answer with any arrangement. -/
theorem exists_orderedBy {r : Ranking α} (hnodup : (rows.map id).Nodup) (hs : r.Arranges s rows) :
    ∃ o : Oracle, Queries.orderedBy r id o rows = s := by
  obtain ⟨o, ho⟩ := exists_met hnodup hs.1
  exact ⟨o, by rw [Queries.orderedBy, ho, List.mergeSort_of_pairwise hs.2]⟩

end Arrangement

/-! ### One list -/

section List

variable {α : Type}

/-- The pages of a list, asked for one after the other, list every row once and nothing else,
whatever order the database leaves tied rows in on each of them. -/
def Partitions (ask : ℕ → Oracle → Except ApiError (PageOf α)) (size : ℕ) (rows : List α) : Prop :=
  ∀ os : ℕ → Oracle, ∃ items : ℕ → List α,
    (∀ k < pages size rows.length, ∃ p, ask k (os k) = .ok p ∧ p.items = items k ∧
      p.total = rows.length) ∧
    ((List.range (pages size rows.length)).flatMap items).Perm rows

/-- No group of tied rows reaches over the end of a page, and the last offset fits. -/
def Pageable (r : Ranking α) (size : ℕ) (rows : List α) : Prop :=
  r.Unstraddled size rows ∧ (pages size rows.length - 1) * size < 2 ^ 31

/-- What a handler answers with for the page after `k` others: a page, unless the query fails. -/
def AnswersPage (ask : ℕ → Oracle → Except ApiError (PageOf α)) (size : String) (r : Ranking α)
    (id : α → ℕ) (rows : List α) (e : ApiError) : Prop :=
  ∀ k o, k + 1 < 2 ^ 63 → ask k o = ((Queries.limited (parsePagination "" size).2.toInt32
    (pageOffset (Int64.ofInt (k + 1 : ℕ)) (parsePagination "" size).2)
    (Queries.orderedBy r id o rows)).mapError (fun _ => e)).map (fun items =>
      ⟨items, Int64.ofInt (k + 1 : ℕ), (parsePagination "" size).2, rows.length⟩)

variable {ask : ℕ → Oracle → Except ApiError (PageOf α)} {size : String} {r : Ranking α} {id : α → ℕ}
  {rows : List α} {e : ApiError}

theorem pageSize_pos (size : String) : 0 < pageSize size := by
  have hrange := pageSize_range size
  have heq := pageSize_eq size
  omega

/-- A page whose offset fits. -/
theorem AnswersPage.ok (h : AnswersPage ask size r id rows e) {k : ℕ}
    (hfits : k * pageSize size < 2 ^ 31) (o : Oracle) : ask k o
      = .ok ⟨page (pageSize size) k (Queries.orderedBy r id o rows), Int64.ofInt (k + 1 : ℕ),
        (parsePagination "" size).2, rows.length⟩ := by
  have hlimit := pageLimit_toInt size
  have hoffset := pageOffset_toInt size hfits
  have hle : k ≤ k * pageSize size := Nat.le_mul_of_pos_right k (pageSize_pos size)
  have hnot : ¬ ((parsePagination "" size).2.toInt32 < 0
      ∨ pageOffset (Int64.ofInt (k + 1 : ℕ)) (parsePagination "" size).2 < 0) := by
    rw [Int32.lt_iff_toInt_lt, Int32.lt_iff_toInt_lt, hlimit, hoffset]
    show ¬ ((pageSize size : ℤ) < 0 ∨ ((k * pageSize size : ℕ) : ℤ) < 0)
    omega
  rw [h k o (by omega), Queries.limited, if_neg hnot, hlimit, hoffset]
  rfl

/-- The first page whose offset does not fit. -/
theorem AnswersPage.error (h : AnswersPage ask size r id rows e) {k : ℕ}
    (hlow : 2 ^ 31 ≤ k * pageSize size) (hhigh : k * pageSize size < 2 ^ 31 + 60) (o : Oracle) :
    ask k o = .error e := by
  have hle : k ≤ k * pageSize size := Nat.le_mul_of_pos_right k (pageSize_pos size)
  rw [h k o (by omega), Queries.limited, if_pos (Or.inr (pageOffset_neg size hlow hhigh))]
  rfl

/-- The offsets of a list that is partitioned fit. -/
theorem AnswersPage.fits (h : AnswersPage ask size r id rows e)
    (hall : Partitions ask (pageSize size) rows) :
    (pages (pageSize size) rows.length - 1) * pageSize size < 2 ^ 31 := by
  have hpos := pageSize_pos size
  have hle : pageSize size ≤ 60 := by
    have hrange := pageSize_range size
    have heq := pageSize_eq size
    omega
  by_contra hwraps
  -- the first page whose offset is no 32-bit number
  obtain ⟨k, hdef⟩ : ∃ k, k = (2 ^ 31 + pageSize size - 1) / pageSize size := ⟨_, rfl⟩
  have hdiv := Nat.div_add_mod (2 ^ 31 + pageSize size - 1) (pageSize size)
  have hmod := Nat.mod_lt (2 ^ 31 + pageSize size - 1) hpos
  rw [← hdef, Nat.mul_comm] at hdiv
  have hk : k < pages (pageSize size) rows.length := by
    have hlt : k < pages (pageSize size) rows.length - 1 + 1 := by
      apply Nat.lt_of_mul_lt_mul_right (a := pageSize size)
      rw [Nat.succ_mul]
      omega
    by_contra hnone
    have hzero : pages (pageSize size) rows.length - 1 = 0 := by omega
    rw [hzero, Nat.zero_mul] at hwraps
    omega
  obtain ⟨items, hitems, -⟩ := hall (fun _ => ⟨0, fun _ => 0, 0, true, fun ids => ids, fun _ => .refl _⟩)
  obtain ⟨p, hp, -⟩ := hitems k hk
  rw [h.error (by omega) (by omega)] at hp
  cases hp

/-- **One list is partitioned** exactly when it is pageable. -/
theorem AnswersPage.partitions_iff (h : AnswersPage ask size r id rows e)
    (hnodup : (rows.map id).Nodup) :
    Partitions ask (pageSize size) rows ↔ Pageable r (pageSize size) rows := by
  have hpos := pageSize_pos size
  have hok : (pages (pageSize size) rows.length - 1) * pageSize size < 2 ^ 31 →
      ∀ k < pages (pageSize size) rows.length, k * pageSize size < 2 ^ 31 := by
    intro hfits k hk
    have hle : k * pageSize size ≤ (pages (pageSize size) rows.length - 1) * pageSize size :=
      Nat.mul_le_mul_right _ (by omega)
    omega
  constructor
  · intro hall
    have hfits := h.fits hall
    refine ⟨(Ranking.listed_perm_iff hpos (List.Nodup.of_map id hnodup)).mp (fun s hs => ?_), hfits⟩
    choose os hos using fun k => exists_orderedBy hnodup (hs k)
    obtain ⟨items, hitems, hperm⟩ := hall os
    have heq : listed (pageSize size) (pages (pageSize size) rows.length) s
        = (List.range (pages (pageSize size) rows.length)).flatMap items := by
      apply List.flatMap_congr
      intro k hk
      obtain ⟨p, hp, hpage, -⟩ := hitems k (List.mem_range.mp hk)
      rw [h.ok (hok hfits k (List.mem_range.mp hk)), hos] at hp
      rw [← hpage, ← Except.ok.inj hp]
    rw [heq]
    exact hperm
  · intro hpageable os
    refine ⟨fun k => page (pageSize size) k (Queries.orderedBy r id (os k) rows), ?_, ?_⟩
    · intro k hk
      exact ⟨_, h.ok (hok hpageable.2 k hk) (os k), rfl, rfl⟩
    · exact Ranking.listed_perm hpos hpageable.1 (fun k => orderedBy_arranges r (os k) hnodup)

end List

/-! ### The three lists -/

section Lists

variable (texts : Texts) (collation : Ranking String) (now : ℤ) (d : PublicRows)

/-- One query, and what comes after it. -/
theorem answer_readPublic {β : Type} (o : Oracle) (s : PublicStmt) (what : String)
    (f : s.Val → PublicHandler β) :
    answer (publicStore collation) o now d (readPublic s what >>= f) = match s.read collation o d with
      | .ok v => answer (publicStore collation) o now d (f v)
      | .error _ => .error (failed what) := by
  show (alone (publicStore collation) o now d (Prog.exec s _) [] false).1 = _
  rw [alone]
  simp only [Bool.false_eq_true, if_false, Database.view_nil]
  have heval : (publicStore collation).eval s o now d
      = (s.read collation o d).map (fun v => (v, [])) := rfl
  rw [heval]
  cases s.read collation o d with
  | ok v => rfl
  | error e => rfl

/-- A list and its count. -/
theorem answer_list {β : Type} (o : Oracle) {s c : PublicStmt} {what what' : String} {n : c.Val}
    (hc : c.read collation o d = .ok n) (f : s.Val → c.Val → β) :
    answer (publicStore collation) o now d (readPublic s what >>= fun items =>
        readPublic c what' >>= fun total => pure (f items total))
      = ((s.read collation o d).mapError (fun _ => failed what)).map (fun items => f items n) := by
  rw [answer_readPublic]
  cases s.read collation o d with
  | error e => rfl
  | ok items =>
    show answer _ o now d (readPublic c what' >>= _) = _
    rw [answer_readPublic, hc]
    rfl

/-- A search, as its rows are sorted and cut. -/
theorem answer_searchUnits (o : Oracle) {q : SearchQuery} {f : SearchFilters}
    (hf : q.filters texts = .ok f) :
    answer (publicStore collation) o now d (searchUnits texts q)
      = ((Queries.limited (parsePagination q.page q.size).2.toInt32
          (pageOffset (parsePagination q.page q.size).1 (parsePagination q.page q.size).2)
          (Queries.orderedBy (Queries.searchOrder (normSort q.sort)) SearchUnitsRow.id o
            (Queries.searchMatches f d))).mapError (fun _ => failed "search")).map (fun items =>
        ⟨items, (parsePagination q.page q.size).1, (parsePagination q.page q.size).2,
          (Queries.searchMatches f d).length⟩) := by
  have hcount : PublicStmt.read collation (.countSearchUnits f) o d
      = .ok (Queries.searchMatches f d).length := by
    rw [Queries.searchMatches, List.length_map]
    rfl
  simp only [searchUnits, hf]
  exact answer_list collation now d o hcount _

theorem search_answersPage {q : SearchQuery} {f : SearchFilters} (hf : q.filters texts = .ok f) :
    AnswersPage (fun k o => answer (publicStore collation) o now d
        (searchUnits texts { q with page := toString (k + 1) }))
      q.size (Queries.searchOrder (normSort q.sort)) SearchUnitsRow.id (Queries.searchMatches f d)
      (failed "search") := by
  intro k o hk
  have hfilters : SearchQuery.filters texts { q with page := toString (k + 1) } = .ok f := hf
  refine (answer_searchUnits texts collation now d o hfilters).trans ?_
  rw [parsePagination_toString hk]

/-- The compounds, as they are sorted and cut. -/
theorem answer_listCompounds (o : Oracle) (area page size : String) :
    answer (publicStore collation) o now d (listCompounds area page size)
      = ((Queries.limited (parsePagination page size).2.toInt32
          (pageOffset (parsePagination page size).1 (parsePagination page size).2)
          (Queries.orderedBy (Queries.compoundOrder collation) ListCompoundsRow.id o
            (Queries.compoundMatches (textOpt area) d))).mapError
              (fun _ => failed "list compounds")).map (fun items =>
        ⟨items, (parsePagination page size).1, (parsePagination page size).2,
          (Queries.compoundMatches (textOpt area) d).length⟩) := by
  have hcount : PublicStmt.read collation (.countCompounds (textOpt area)) o d
      = .ok (Queries.compoundMatches (textOpt area) d).length := by
    rw [Queries.compoundMatches, List.length_map]
    rfl
  simp only [listCompounds]
  exact answer_list collation now d o hcount _

theorem compounds_answersPage (area size : String) :
    AnswersPage (fun k o => answer (publicStore collation) o now d
        (listCompounds area (toString (k + 1)) size))
      size (Queries.compoundOrder collation) ListCompoundsRow.id
      (Queries.compoundMatches (textOpt area) d) (failed "list compounds") := by
  intro k o hk
  refine (answer_listCompounds collation now d o area _ size).trans ?_
  rw [parsePagination_toString hk]

/-- The units of a compound's page, as they are sorted and cut. -/
theorem answer_getCompound (o : Oracle) {slug : String} {c : GetCompoundBySlugRow}
    (hc : Queries.getCompoundBySlug slug d = some c) (page size : String) :
    (answer (publicStore collation) o now d (getCompound slug page size)).map CompoundPage.units
      = ((Queries.limited (parsePagination page size).2.toInt32
          (pageOffset (parsePagination page size).1 (parsePagination page size).2)
          (Queries.orderedBy Queries.newestFirst ListActiveUnitsByCompoundIDRow.id o
            (Queries.compoundUnits c.id d))).mapError (fun _ => failed "compound units")).map (fun items =>
        ⟨items, (parsePagination page size).1, (parsePagination page size).2,
          (Queries.compoundUnits c.id d).length⟩) := by
  have hrow : PublicStmt.read collation (.getCompoundBySlug slug) o d = .ok (some c) := by
    rw [← hc]
    rfl
  have hcount : PublicStmt.read collation (.countActiveUnitsByCompoundID c.id) o d
      = .ok (Queries.compoundUnits c.id d).length := by
    rw [Queries.compoundUnits, List.length_map]
    rfl
  simp only [getCompound]
  rw [answer_readPublic, hrow]
  show Except.map _ (answer _ o now d (readPublic _ _ >>= fun units => readPublic _ _ >>= _)) = _
  rw [answer_list collation now d o hcount]
  simp only [PublicStmt.read, Queries.listActiveUnitsByCompoundID]
  generalize Queries.limited _ _ (Queries.orderedBy Queries.newestFirst _ o _) = x
  cases x with
  | ok items => rfl
  | error e => rfl

theorem compoundUnits_answersPage {slug : String} {c : GetCompoundBySlugRow}
    (hc : Queries.getCompoundBySlug slug d = some c) (size : String) :
    AnswersPage (fun k o => (answer (publicStore collation) o now d
        (getCompound slug (toString (k + 1)) size)).map CompoundPage.units)
      size Queries.newestFirst ListActiveUnitsByCompoundIDRow.id (Queries.compoundUnits c.id d)
      (failed "compound units") := by
  intro k o hk
  refine (answer_getCompound collation now d o hc _ size).trans ?_
  rw [parsePagination_toString hk]

/-- Rows that keep the id of what they are made from keep ids apart. -/
theorem nodup_filterMap {β γ : Type} {l : List β} {g : β → Option γ} {key : γ → ℕ} {id : β → ℕ}
    (hg : ∀ x y, g x = some y → key y = id x) (hl : (l.map id).Nodup) :
    ((l.filterMap g).map key).Nodup := by
  have hsub : ∀ l : List β, ((l.filterMap g).map key).Sublist (l.map id) := by
    intro l
    induction l with
    | nil => exact .slnil
    | cons x l ih =>
      rw [List.filterMap_cons, List.map_cons]
      cases hx : g x with
      | none => exact ih.cons _
      | some y =>
        rw [List.map_cons, hg x y hx]
        exact ih.cons_cons _
  exact (hsub l).nodup hl

theorem nodup_searchMatches (f : SearchFilters) :
    ((Queries.searchMatches f d).map SearchUnitsRow.id).Nodup := by
  rw [Queries.searchMatches, List.map_map]
  apply nodup_filterMap (fun u m hm => ?_) d.1.units.nodup
  obtain ⟨c, -, hm⟩ := Option.bind_eq_some_iff.mp hm
  obtain ⟨a, -, hm⟩ := Option.bind_eq_some_iff.mp hm
  split_ifs at hm
  cases hm
  rfl

theorem nodup_compoundMatches (area : Option String) :
    ((Queries.compoundMatches area d).map ListCompoundsRow.id).Nodup := by
  rw [Queries.compoundMatches, List.map_map]
  apply nodup_filterMap (fun u m hm => ?_) d.2.catalogue.compounds.nodup
  obtain ⟨a, -, hm⟩ := Option.bind_eq_some_iff.mp hm
  split_ifs at hm
  cases hm
  rfl

theorem nodup_compoundUnits (compoundId : ℕ) :
    ((Queries.compoundUnits compoundId d).map ListActiveUnitsByCompoundIDRow.id).Nodup := by
  rw [Queries.compoundUnits, List.map_map]
  exact (List.filter_sublist.map UnitRow.id).nodup d.1.units.nodup

/-- **Paging is a partition** of the search, of the compounds and of a compound's units exactly when
no group of rows with the same sort key reaches over the end of a page. -/
theorem paging_partitions :
    (∀ (q : SearchQuery) (f : SearchFilters), q.filters texts = .ok f →
      (Partitions (fun k o => answer (publicStore collation) o now d
          (searchUnits texts { q with page := toString (k + 1) }))
        (pageSize q.size) (Queries.searchMatches f d)
      ↔ Pageable (Queries.searchOrder (normSort q.sort)) (pageSize q.size) (Queries.searchMatches f d))) ∧
    (∀ area size,
      Partitions (fun k o => answer (publicStore collation) o now d
          (listCompounds area (toString (k + 1)) size))
        (pageSize size) (Queries.compoundMatches (textOpt area) d)
      ↔ Pageable (Queries.compoundOrder collation) (pageSize size)
        (Queries.compoundMatches (textOpt area) d)) ∧
    ∀ slug c, Queries.getCompoundBySlug slug d = some c → ∀ size,
      (Partitions (fun k o => (answer (publicStore collation) o now d
          (getCompound slug (toString (k + 1)) size)).map CompoundPage.units)
        (pageSize size) (Queries.compoundUnits c.id d)
      ↔ Pageable Queries.newestFirst (pageSize size) (Queries.compoundUnits c.id d)) := by
  refine ⟨fun q f hf => ?_, fun area size => ?_, fun slug c hc size => ?_⟩
  · exact (search_answersPage texts collation now d hf).partitions_iff (nodup_searchMatches d f)
  · exact (compounds_answersPage collation now d area size).partitions_iff
      (nodup_compoundMatches d (textOpt area))
  · exact (compoundUnits_answersPage collation now d hc size).partitions_iff (nodup_compoundUnits d c.id)

end Lists

/-! ### Two units created in one instant -/

/-- Text by its characters. -/
def bytewise : Ranking String where
  le a b := decide (a ≤ b)
  trans a b c hab hbc := by
    rw [decide_eq_true_eq] at hab hbc ⊢
    exact String.le_trans hab hbc
  total a b := by
    rw [Bool.or_eq_true, decide_eq_true_eq, decide_eq_true_eq]
    exact String.le_total a b

def importedUnits : PublicTables where
  catalogue := smallCatalogue
  images := Table.empty
  one_cover i hi := absurd hi (Table.not_mem_empty i)
  unitCreatedAt _ := noonOf newYear
  unitUpdatedAt _ := noonOf newYear

theorem lagoonBuffer : 0 ≤ (1 : ℤ) ∧ (1 : ℤ) < 2 ^ 15 := by omega

def lagoonUnit : UnitRow := { seaUnit 1 lagoonBuffer with id := 2, slug := "lagoon-view" }

/-- Two units of one compound, imported together. -/
def bulkImport : PublicRows :=
  ({ plainWorld with units := plainWorld.units.insert lagoonUnit }, importedUnits)

/-- A search for everything, in pages of this size. -/
def searchAll (size : String) : SearchQuery :=
  ⟨"", size, "", "", "", .unknown "", .unknown "", "", "", ""⟩

def noFilters : SearchFilters := ⟨none, none, none, none, none, none, none⟩

theorem paging_partitions_onePage :
    Partitions (fun k o => answer (publicStore bytewise) o 0 bulkImport
        (searchUnits plainTexts { searchAll "20" with page := toString (k + 1) }))
      (pageSize "20") (Queries.searchMatches noFilters bulkImport) ∧
    Partitions (fun k o => (answer (publicStore bytewise) o 0 bulkImport
        (getCompound "marassi" (toString (k + 1)) "20")).map CompoundPage.units)
      (pageSize "20") (Queries.compoundUnits 1 bulkImport) := by
  have hpages := paging_partitions plainTexts bytewise 0 bulkImport
  have hfits : ∀ {α : Type} (r : Ranking α) (rows : List α), rows.length = 2 →
      Pageable r (pageSize "20") rows := by
    intro α r rows hlen
    refine ⟨Ranking.unstraddled_of_length_le (hlen.trans_le (by decide)), ?_⟩
    rw [hlen]
    decide
  exact ⟨(hpages.1 (searchAll "20") noFilters rfl).mpr (hfits _ _ rfl),
    (hpages.2.2 "marassi" _ rfl "20").mpr (hfits _ _ rfl)⟩

/-- **A unit is listed twice**: the second page of one asks again, and meets the units the other way
round. -/
theorem paging_repeats :
    ¬ Partitions (fun k o => answer (publicStore bytewise) o 0 bulkImport
        (searchUnits plainTexts { searchAll "1" with page := toString (k + 1) }))
      (pageSize "1") (Queries.searchMatches noFilters bulkImport) := by
  have hlist := search_answersPage plainTexts bytewise 0 bulkImport (q := searchAll "1")
    (f := noFilters) rfl
  have htied : (Queries.searchMatches noFilters bulkImport).any (fun x =>
      decide ((Queries.searchOrder "created_desc").before (Queries.searchMatches noFilters bulkImport) x
          < 1 * pageSize "1" ∧
        1 * pageSize "1" < (Queries.searchOrder "created_desc").upTo
          (Queries.searchMatches noFilters bulkImport) x)) = true := by
    decide +kernel
  intro h
  obtain ⟨x, hx, hx'⟩ := List.any_eq_true.mp htied
  exact ((hlist.partitions_iff (nodup_searchMatches _ _)).mp h).1 x hx 1 (of_decide_eq_true hx')

end Sahel

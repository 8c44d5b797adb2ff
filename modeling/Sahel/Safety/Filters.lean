import Sahel.Safety.Pages

/-!
# Numbers in a search

What `guests`, `bedrooms` and `maxSeaDistance` select: each is read in 64 bits and compared in 32.

* `admits` compares a unit's columns with the three numbers, over the integers or with what is left
  of them in 32 bits;
* `SearchMeans`: the pages and the count are those of the units that the numbers admit;
* `Unseen` is about a large number and a unit's columns: it lies past them, as smaller ones do;
* **`search_means_iff`**: the search means what it says when no number is large, or when none is seen;
  `guests_wrap` lists units for more guests than any has, and none within a distance that all are
  within.
-/

set_option autoImplicit false

namespace Sahel

open ReadCommitted Paging

/-! ### Numbers -/

/-- The number that a text gives a filter; a negative one is no number. -/
def numberAsked (v : String) : Option ℤ := (parseInt64 v).filter (fun n => decide (0 ≤ n))

/-- What is left of it in 32 bits. -/
def numberKept (v : String) : Option ℤ := (numberAsked v).map (fun n => n.bmod (2 ^ 32))

/-- A number that has more. -/
def Wraps (v : String) : Prop := ∃ n, numberAsked v = some n ∧ 2 ^ 31 ≤ n

theorem numberAsked_range {v : String} {n : ℤ} (h : numberAsked v = some n) : 0 ≤ n :=
  of_decide_eq_true (Option.filter_eq_some_iff.mp h).2

theorem atoiOpt_eq (v : String) : atoiOpt v = (numberAsked v).map Int32.ofInt := by
  by_cases hv : v = ""
  · subst hv
    rfl
  · rw [atoiOpt, if_neg hv, numberAsked]
    cases parseInt64 v with
    | none => rfl
    | some n =>
      rw [Option.filter_some]
      by_cases hn : n < 0
      · rw [if_neg (by simpa using hn)]
        exact if_pos hn
      · rw [if_pos (decide_eq_true (by omega))]
        exact if_neg hn

/-- The filter's parameter is what is left of the number. -/
theorem atoiOpt_toInt (v : String) : (atoiOpt v).map Int32.toInt = numberKept v := by
  rw [atoiOpt_eq, numberKept, Option.map_map]
  congr 1
  funext n
  exact Int32.toInt_ofInt

theorem numberKept_of_not_wraps {v : String} (h : ¬ Wraps v) : numberKept v = numberAsked v := by
  rw [numberKept]
  cases hn : numberAsked v with
  | none => rfl
  | some n =>
    have hlow := numberAsked_range hn
    have hhigh : n < 2 ^ 31 := by
      by_contra hle
      exact h ⟨n, hn, by omega⟩
    rw [Option.map_some, Int.bmod_eq_of_le (by omega) (by omega)]

/-! ### Units that numbers admit -/

/-- Room for the guests, and the bedrooms. -/
def roomy (number : String → Option ℤ) (q : SearchQuery) (row : SearchUnitsRow) : Bool :=
  (number q.guests).all (fun n => decide (n ≤ row.maxGuests)) &&
    (number q.bedrooms).all (fun n => decide (n ≤ row.bedrooms.toInt))

/-- No further from the sea. -/
def nearSea (number : String → Option ℤ) (q : SearchQuery) (row : SearchUnitsRow) : Bool :=
  (number q.maxSeaDistance).all (fun n => decide (row.seaDistanceM.toInt ≤ n))

def admits (number : String → Option ℤ) (q : SearchQuery) (row : SearchUnitsRow) : Bool :=
  roomy number q row && nearSea number q row

/-- The filters that are no numbers. -/
def SearchFilters.unnumbered (f : SearchFilters) : SearchFilters :=
  { f with guests := none, bedrooms := none, maxSeaDistance := none }

/-- Every unit that matches the other filters. -/
def candidates (f : SearchFilters) (d : PublicRows) : List SearchUnitsRow :=
  Queries.searchMatches f.unnumbered d

theorem filters_numbers {texts : Texts} {q : SearchQuery} {f : SearchFilters}
    (hf : q.filters texts = .ok f) : f.guests = atoiOpt q.guests ∧ f.bedrooms = atoiOpt q.bedrooms ∧
      f.maxSeaDistance = atoiOpt q.maxSeaDistance := by
  rw [SearchQuery.filters] at hf
  cases htype : enumOpt texts "type" "unit type" q.type with
  | error e =>
    rw [htype] at hf
    cases hf
  | ok type =>
    cases hview : enumOpt texts "view" "view" q.view with
    | error e =>
      rw [htype, hview] at hf
      cases hf
    | ok view =>
      rw [htype, hview] at hf
      cases hf
      exact ⟨rfl, rfl, rfl⟩

/-- A comparison with a parameter is one with the number it is. -/
theorem all_map_toInt (x : Option Int32) (p : ℤ → Bool) :
    x.all (fun n => p n.toInt) = (x.map Int32.toInt).all p := by
  cases x <;> rfl

/-- The `WHERE` of a search, its numbers apart. -/
theorem accepts_eq {texts : Texts} {q : SearchQuery} {f : SearchFilters} (hf : q.filters texts = .ok f)
    (d : PublicRows) (u : UnitRow) (c : CompoundRow) (a : AreaRow) :
    Queries.accepts f u (d.2.catalogue.details u.id) c a
      = (Queries.accepts f.unnumbered u (d.2.catalogue.details u.id) c a &&
        admits numberKept q (Queries.searchRow d (u, d.2.catalogue.details u.id, c, a))) := by
  obtain ⟨hguests, hbedrooms, hsea⟩ := filters_numbers hf
  have hguests := (congrArg (Option.map Int32.toInt) hguests).trans (atoiOpt_toInt q.guests)
  have hbedrooms := (congrArg (Option.map Int32.toInt) hbedrooms).trans (atoiOpt_toInt q.bedrooms)
  have hsea := (congrArg (Option.map Int32.toInt) hsea).trans (atoiOpt_toInt q.maxSeaDistance)
  simp only [Queries.accepts, admits, roomy, nearSea, Queries.searchRow, SearchFilters.unnumbered,
    all_map_toInt _ (fun n => decide (n ≤ u.maxGuests)),
    all_map_toInt _ (fun n => decide (n ≤ (d.2.catalogue.details u.id).bedrooms.toInt)),
    all_map_toInt _ (fun n => decide ((d.2.catalogue.details u.id).seaDistanceM.toInt ≤ n)),
    hguests, hbedrooms, hsea, Option.map_none, Option.all_none, Bool.and_true, Bool.and_assoc]
  rfl

/-- **A search selects** the candidates that the kept numbers admit. -/
theorem searchMatches_eq {texts : Texts} {q : SearchQuery} {f : SearchFilters}
    (hf : q.filters texts = .ok f) (d : PublicRows) :
    Queries.searchMatches f d = (candidates f d).filter (admits numberKept q) := by
  rw [candidates, Queries.searchMatches, Queries.searchMatches, List.filter_map, List.filter_filterMap]
  congr 2
  funext u
  rw [Queries.searchMatch, Queries.searchMatch]
  cases d.2.catalogue.compounds.find? (d.2.catalogue.details u.id).compoundId with
  | none => rfl
  | some c =>
    cases ha : d.2.catalogue.areas.find? c.areaId with
    | none => simp [ha]
    | some a =>
      simp only [Option.bind_eq_bind, Option.bind_some, ha, accepts_eq hf d u c a]
      cases Queries.accepts f.unnumbered u (d.2.catalogue.details u.id) c a with
      | false => rfl
      | true => rfl

/-- Columns of a unit are smaller than a number that wraps. -/
theorem maxGuests_of_mem {f : SearchFilters} {d : PublicRows} {row : SearchUnitsRow}
    (h : row ∈ candidates f d) : -2 ^ 15 ≤ row.maxGuests ∧ row.maxGuests < 2 ^ 15 := by
  obtain ⟨m, hm, rfl⟩ := List.mem_map.mp h
  obtain ⟨u, -, hu⟩ := List.mem_filterMap.mp hm
  obtain ⟨c, -, hu⟩ := Option.bind_eq_some_iff.mp hu
  obtain ⟨a, -, hu⟩ := Option.bind_eq_some_iff.mp hu
  split_ifs at hu
  cases hu
  exact u.guests_smallint

/-- The number lies past the column, counted from a multiple of `2 ^ 32` and less than halfway to the
next one. -/
def Past (col n : ℤ) : Prop := ∃ k : ℕ, k * 2 ^ 32 + col < n ∧ n < k * 2 ^ 32 + 2 ^ 31

/-- The number reaches the column, likewise. -/
def Reaching (col n : ℤ) : Prop := Past (col - 1) n

/-- No number asked for is large. -/
def NumbersFit (q : SearchQuery) : Prop :=
  ¬ Wraps q.guests ∧ ¬ Wraps q.bedrooms ∧ ¬ Wraps q.maxSeaDistance

/-- A unit that shows no large number.  For large guests or bedrooms no unit is wanted: one of the two
lies past the unit's own, or the distance asked for does not reach it.  For a large distance alone
every unit with room is wanted: it reaches each. -/
def Unseen (q : SearchQuery) (row : SearchUnitsRow) : Prop :=
  (Wraps q.guests ∨ Wraps q.bedrooms →
    (∃ n ∈ numberAsked q.guests, Past row.maxGuests n) ∨
    (∃ n ∈ numberAsked q.bedrooms, Past row.bedrooms.toInt n) ∨
    ∃ n ∈ numberAsked q.maxSeaDistance, ¬ Reaching row.seaDistanceM.toInt n) ∧
  (¬ (Wraps q.guests ∨ Wraps q.bedrooms) → Wraps q.maxSeaDistance →
    roomy numberAsked q row = true →
      ∀ n ∈ numberAsked q.maxSeaDistance, Reaching row.seaDistanceM.toInt n)

/-- Past a column is what is left of a number in 32 bits when it is larger. -/
theorem past_iff {col n : ℤ} (hcol : -2 ^ 31 - 1 ≤ col) (hn : 0 ≤ n) :
    Past col n ↔ col < n.bmod (2 ^ 32) := by
  constructor
  · rintro ⟨k, hlow, hhigh⟩
    have hleft : n.bmod (2 ^ 32) = n - k * 2 ^ 32 := by
      rw [Int.bmod_def]
      split_ifs <;> omega
    omega
  · intro h
    have hlt := Int.bmod_lt (x := n) (m := 2 ^ 32) (by decide)
    have hdvd : ∃ k : ℕ, n = k * 2 ^ 32 + n.bmod (2 ^ 32) := by
      refine ⟨((n - n.bmod (2 ^ 32)) / 2 ^ 32).toNat, ?_⟩
      rw [Int.bmod_def]
      split_ifs <;> omega
    obtain ⟨k, hk⟩ := hdvd
    exact ⟨k, by omega, by omega⟩

/-- A bound that a unit does not keep, in 32 bits. -/
theorem all_kept_eq_false_iff {v : String} {p : ℤ → Prop} [DecidablePred p] :
    (numberKept v).all (fun n => decide (p n)) = false
      ↔ ∃ n ∈ numberAsked v, ¬ p (n.bmod (2 ^ 32)) := by
  rw [numberKept]
  cases numberAsked v <;> simp

theorem roomy_kept_eq_false_iff {q : SearchQuery} {row : SearchUnitsRow} (hrow : -2 ^ 15 ≤ row.maxGuests) :
    roomy numberKept q row = false ↔ (∃ n ∈ numberAsked q.guests, Past row.maxGuests n) ∨
      ∃ n ∈ numberAsked q.bedrooms, Past row.bedrooms.toInt n := by
  have hbedrooms := row.bedrooms.le_toInt
  have hpast : ∀ {v : String} {col : ℤ}, -2 ^ 31 - 1 ≤ col →
      ((∃ n ∈ numberAsked v, ¬ n.bmod (2 ^ 32) ≤ col) ↔ ∃ n ∈ numberAsked v, Past col n) := by
    intro v col hcol
    refine exists_congr (fun n => and_congr_right (fun hn => ?_))
    rw [past_iff hcol (numberAsked_range hn), not_le]
  rw [roomy, Bool.and_eq_false_iff, all_kept_eq_false_iff, all_kept_eq_false_iff,
    hpast (by omega), hpast (by omega)]

theorem nearSea_kept_eq_false_iff {q : SearchQuery} {row : SearchUnitsRow} :
    nearSea numberKept q row = false
      ↔ ∃ n ∈ numberAsked q.maxSeaDistance, ¬ Reaching row.seaDistanceM.toInt n := by
  have hsea := row.seaDistanceM.le_toInt
  rw [nearSea, all_kept_eq_false_iff]
  refine exists_congr (fun n => and_congr_right (fun hn => not_congr ?_))
  rw [Reaching, past_iff (by omega) (numberAsked_range hn), Int.sub_one_lt_iff]

theorem roomy_of_not_wraps {q : SearchQuery} (h : ¬ (Wraps q.guests ∨ Wraps q.bedrooms))
    (row : SearchUnitsRow) : roomy numberKept q row = roomy numberAsked q row := by
  obtain ⟨hguests, hbedrooms⟩ := not_or.mp h
  rw [roomy, roomy, numberKept_of_not_wraps hguests, numberKept_of_not_wraps hbedrooms]

/-- No unit has room for a number that wraps. -/
theorem not_roomy_of_wraps {q : SearchQuery} {row : SearchUnitsRow} (hrow : row.maxGuests < 2 ^ 31)
    (h : Wraps q.guests ∨ Wraps q.bedrooms) : roomy numberAsked q row = false := by
  obtain ⟨n, hn, hlarge⟩ | ⟨n, hn, hlarge⟩ := h
  · rw [roomy, hn, Option.all_some, decide_eq_false (by omega), Bool.false_and]
  · have hsmall := row.bedrooms.toInt_lt
    rw [roomy, hn, Option.all_some, decide_eq_false (by omega), Bool.and_false]

/-- Every unit is within a distance that wraps, and some are within less. -/
theorem nearSea_of_wraps {q : SearchQuery} (h : Wraps q.maxSeaDistance) (row : SearchUnitsRow) :
    nearSea numberAsked q row = true := by
  obtain ⟨n, hn, hlarge⟩ := h
  have hsmall := row.seaDistanceM.toInt_lt
  rw [nearSea, hn, Option.all_some]
  exact decide_eq_true (by omega)

/-- **No large number is seen** exactly when both comparisons agree about the unit. -/
theorem unseen_iff {q : SearchQuery} {row : SearchUnitsRow}
    (hrow : -2 ^ 15 ≤ row.maxGuests ∧ row.maxGuests < 2 ^ 15) :
    Unseen q row ↔ admits numberKept q row = admits numberAsked q row := by
  by_cases hroom : Wraps q.guests ∨ Wraps q.bedrooms
  · have hnone : admits numberAsked q row = false := by
      rw [admits, not_roomy_of_wraps (by omega) hroom, Bool.false_and]
    rw [hnone, admits, Bool.and_eq_false_iff, roomy_kept_eq_false_iff hrow.1,
      nearSea_kept_eq_false_iff, or_assoc]
    exact ⟨fun h => h.1 hroom, fun h => ⟨fun _ => h, fun hnot => absurd hroom hnot⟩⟩
  · rw [admits, admits, roomy_of_not_wraps hroom]
    by_cases hsea : Wraps q.maxSeaDistance
    · rw [nearSea_of_wraps hsea, Bool.and_true]
      cases hr : roomy numberAsked q row with
      | false =>
        rw [Bool.false_and]
        exact iff_of_true ⟨fun h => absurd h hroom, fun _ _ h => absurd h (by rw [hr]; decide)⟩ rfl
      | true =>
        have hreach : nearSea numberKept q row = true
            ↔ ∀ n ∈ numberAsked q.maxSeaDistance, Reaching row.seaDistanceM.toInt n := by
          rw [← Bool.not_eq_false, nearSea_kept_eq_false_iff]
          simp only [not_exists, not_and, not_not]
        rw [Bool.true_and, hreach]
        exact ⟨fun h => h.2 hroom hsea hr, fun h => ⟨fun hw => absurd hw hroom, fun _ _ _ => h⟩⟩
    · rw [nearSea, nearSea, numberKept_of_not_wraps hsea]
      exact iff_of_true ⟨fun h => absurd h hroom, fun _ h => absurd h hsea⟩ rfl

/-- What the kept numbers admit and what the numbers admit are comparable. -/
theorem admits_or {q : SearchQuery} :
    (∀ row, row.maxGuests < 2 ^ 15 → admits numberAsked q row = true → admits numberKept q row = true) ∨
      ∀ row, admits numberKept q row = true → admits numberAsked q row = true := by
  by_cases hroom : Wraps q.guests ∨ Wraps q.bedrooms
  · refine Or.inl (fun row hrow h => ?_)
    rw [admits, not_roomy_of_wraps (by omega) hroom] at h
    cases h
  · refine Or.inr (fun row h => ?_)
    rw [admits, roomy_of_not_wraps hroom, Bool.and_eq_true] at h
    rw [admits, h.1, Bool.true_and]
    by_cases hsea : Wraps q.maxSeaDistance
    · exact nearSea_of_wraps hsea row
    · rw [nearSea, ← numberKept_of_not_wraps hsea]
      exact h.2

/-! ### The search -/

/-- The units that a search is for: those that match the other filters, and that the numbers admit. -/
def wanted (q : SearchQuery) (f : SearchFilters) (d : PublicRows) : List SearchUnitsRow :=
  (candidates f d).filter (admits numberAsked q)

/-- The filters mean what they say: whatever page is asked for, while its offset fits, it is that
page of the units wanted, sorted, and their number is the total. -/
def SearchMeans (texts : Texts) (collation : Ranking String) (now : ℤ) (d : PublicRows)
    (q : SearchQuery) (f : SearchFilters) : Prop :=
  ∀ (k : ℕ) (size : String) (o : Oracle), k * pageSize size < 2 ^ 31 →
    ∃ s, (Queries.searchOrder (normSort q.sort)).Arranges s (wanted q f d) ∧
      answer (publicStore collation) o now d
          (searchUnits texts { q with page := toString (k + 1), size := size })
        = .ok ⟨page (pageSize size) k s, Int64.ofInt (k + 1 : ℕ), (parsePagination "" size).2,
          (wanted q f d).length⟩

section Search

variable {texts : Texts} (collation : Ranking String) (now : ℤ) (d : PublicRows) {q : SearchQuery}
  {f : SearchFilters}

/-- A page of a search, as it is computed. -/
theorem search_page (hf : q.filters texts = .ok f) {k : ℕ} {size : String}
    (hfits : k * pageSize size < 2 ^ 31) (o : Oracle) :
    answer (publicStore collation) o now d
        (searchUnits texts { q with page := toString (k + 1), size := size })
      = .ok ⟨page (pageSize size) k (Queries.orderedBy (Queries.searchOrder (normSort q.sort))
          SearchUnitsRow.id o (Queries.searchMatches f d)), Int64.ofInt (k + 1 : ℕ),
        (parsePagination "" size).2, (Queries.searchMatches f d).length⟩ := by
  have hfilters : SearchQuery.filters texts { q with size := size } = .ok f := hf
  exact (search_answersPage texts collation now d hfilters).ok hfits o

/-- A total that is right. -/
theorem SearchMeans.total (hf : q.filters texts = .ok f) (h : SearchMeans texts collation now d q f) :
    (Queries.searchMatches f d).length = (wanted q f d).length := by
  let o : Oracle := ⟨0, fun _ => 0, 0, true, fun ids => ids, fun _ => .refl _⟩
  obtain ⟨s, -, hanswer⟩ := h 0 "" o (by decide)
  rw [search_page collation now d hf (by decide)] at hanswer
  exact congrArg PageOf.total (Except.ok.inj hanswer)

/-- A list filtered by less is no longer, and as long only when it is the same. -/
theorem filter_eq_of_imp {α : Type} {l : List α} {p p' : α → Bool} (himp : ∀ x ∈ l, p x = true → p' x = true)
    (hlen : (l.filter p).length = (l.filter p').length) : ∀ x ∈ l, p x = p' x := by
  have hsub : (l.filter p).Sublist (l.filter p') := by
    have hfilter : (l.filter p').filter p = l.filter p := by
      rw [List.filter_filter]
      apply List.filter_congr
      intro x hx
      cases hp : p x with
      | false => rfl
      | true => rw [himp x hx hp, Bool.and_true]
    rw [← hfilter]
    exact List.filter_sublist
  have heq := hsub.eq_of_length hlen
  intro x hx
  cases hp' : p' x with
  | false =>
    cases hp : p x with
    | false => rfl
    | true => exact (himp x hx hp).symm.trans hp'
  | true =>
    have hmem : x ∈ l.filter p := by
      rw [heq]
      exact List.mem_filter.mpr ⟨hx, hp'⟩
    exact (List.mem_filter.mp hmem).2

/-- **Search filters mean what they say** exactly when no number is large, or none is seen by a unit
that matches the other filters. -/
theorem search_means_iff (hf : q.filters texts = .ok f) :
    SearchMeans texts collation now d q f ↔ NumbersFit q ∨ ∀ row ∈ candidates f d, Unseen q row := by
  have hnone : NumbersFit q → ∀ row, Unseen q row := by
    rintro ⟨hguests, hbedrooms, hsea⟩ row
    exact ⟨fun h => absurd h (not_or.mpr ⟨hguests, hbedrooms⟩), fun _ h => absurd h hsea⟩
  constructor
  · intro h
    refine Or.inr (fun row hrow => (unseen_iff (maxGuests_of_mem hrow)).mpr ?_)
    have hlen := h.total collation now d hf
    rw [searchMatches_eq hf, wanted] at hlen
    obtain hless | hmore := admits_or (q := q)
    · exact (filter_eq_of_imp (fun x hx => hless x (maxGuests_of_mem hx).2) hlen.symm row hrow).symm
    · exact filter_eq_of_imp (fun x _ => hmore x) hlen row hrow
  · intro h k size o hfits
    have hunseen : ∀ row ∈ candidates f d, Unseen q row :=
      h.elim (fun hsmall row _ => hnone hsmall row) id
    have hsame : Queries.searchMatches f d = wanted q f d := by
      rw [searchMatches_eq hf, wanted]
      exact List.filter_congr (fun row hrow =>
        (unseen_iff (maxGuests_of_mem hrow)).mp (hunseen row hrow))
    refine ⟨Queries.orderedBy (Queries.searchOrder (normSort q.sort)) SearchUnitsRow.id o (wanted q f d), ?_, ?_⟩
    · rw [← hsame]
      exact orderedBy_arranges _ o (nodup_searchMatches d f)
    · rw [search_page collation now d hf hfits o, hsame]

end Search

/-! ### Two units of one compound -/

/-- A search by one number. -/
def searchGuests (n : String) : SearchQuery := { searchAll "" with guests := n }

def searchSea (n : String) : SearchQuery := { searchAll "" with maxSeaDistance := n }

/-- Four guests are no large number. -/
theorem search_means_small :
    SearchMeans plainTexts bytewise 0 bulkImport (searchGuests "4")
      { noFilters with guests := some 4 } := by
  refine (search_means_iff bytewise 0 bulkImport (q := searchGuests "4")
    (f := { noFilters with guests := some 4 }) (by rfl)).mpr (Or.inl ⟨?_, ?_, ?_⟩)
  · rintro ⟨n, hn, hlarge⟩
    cases hn.symm.trans (show numberAsked "4" = some 4 by decide +kernel)
    omega
  · rintro ⟨n, hn, -⟩
    cases hn
  · rintro ⟨n, hn, -⟩
    cases hn

/-- **A number that wraps** is no bound, or a bound that no unit meets: more guests than there is room
for anywhere find every unit, and a distance that every unit is within finds none. -/
theorem guests_wrap :
    ¬ SearchMeans plainTexts bytewise 0 bulkImport (searchGuests "2147483648")
        { noFilters with guests := some (-2147483648) } ∧
    ¬ SearchMeans plainTexts bytewise 0 bulkImport (searchSea "2147483648")
        { noFilters with maxSeaDistance := some (-2147483648) } := by
  constructor
  · intro h
    have htotal := h.total bytewise 0 bulkImport (by rfl)
    revert htotal
    decide +kernel
  · intro h
    have htotal := h.total bytewise 0 bulkImport (by rfl)
    revert htotal
    decide +kernel

end Sahel

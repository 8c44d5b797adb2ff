import Sahel.Library.TwoRuns
import Sahel.Safety.Offsets

/-!
# Private columns

What the public pages show of units.exact_address, units.owner_id and the owners.

* `SamePublic` relates databases that differ in nothing else;
* every query but one reads the same on both: `read_withPrivate`;
* a search lists whole rows, the owner's id among them: `answer_searchUnits_iff`;
* **`public_agrees_iff`** and `owner_shows`.
-/

set_option autoImplicit false

namespace Sahel

open ReadCommitted KeyedTable Paging

/-- Databases that differ only in the exact addresses, the owners of units and the owners. -/
structure SamePublic (d d' : PublicRows) : Prop where
  rows : d.1 = d'.1
  details : ∀ id, d'.2.catalogue.details id = { d.2.catalogue.details id with
    ownerId := (d'.2.catalogue.details id).ownerId
    exactAddress := (d'.2.catalogue.details id).exactAddress }
  compounds : d.2.catalogue.compounds = d'.2.catalogue.compounds
  areas : d.2.catalogue.areas = d'.2.catalogue.areas
  images : d.2.images = d'.2.images
  unitCreatedAt : d.2.unitCreatedAt = d'.2.unitCreatedAt
  unitUpdatedAt : d.2.unitUpdatedAt = d'.2.unitUpdatedAt

/-- The same rows with other private columns. -/
def withPrivate (d : PublicRows) (owner : ℕ → ℕ) (address : ℕ → Option String)
    (owners : Table ℕ OwnerRow OwnerRow.id) : PublicRows :=
  (d.1, { d.2 with catalogue := { d.2.catalogue with
    details := fun id => { d.2.catalogue.details id with ownerId := owner id, exactAddress := address id }
    owners := owners } })

theorem SamePublic.eq_withPrivate {d d' : PublicRows} (h : SamePublic d d') :
    d' = withPrivate d (fun id => (d'.2.catalogue.details id).ownerId)
      (fun id => (d'.2.catalogue.details id).exactAddress) d'.2.catalogue.owners := by
  obtain ⟨rows, catalogue, images, cover, created, updated⟩ := d
  obtain ⟨rows', catalogue', images', cover', created', updated'⟩ := d'
  obtain ⟨details, compounds, areas, owners⟩ := catalogue
  obtain ⟨details', compounds', areas', owners'⟩ := catalogue'
  obtain ⟨rfl, hdetails, rfl, rfl, rfl, rfl, rfl⟩ := h
  have heq : details' = fun id => { details id with
      ownerId := (details' id).ownerId, exactAddress := (details' id).exactAddress } := by
    funext id
    exact hdetails id
  rw [withPrivate]
  congr 3

/-- A search's row with another owner. -/
def withOwner (owner : ℕ → ℕ) (row : SearchUnitsRow) : SearchUnitsRow :=
  { row with ownerId := owner row.id }

section Queries

variable (d : PublicRows) (owner : ℕ → ℕ) (address : ℕ → Option String)
  (owners : Table ℕ OwnerRow OwnerRow.id)

/-- A unit that a search asks for, with other private columns. -/
theorem searchMatch_withPrivate (f : SearchFilters) (u : UnitRow) :
    Queries.searchMatch f (withPrivate d owner address owners) u
      = (Queries.searchMatch f d u).map (fun m =>
        (m.1, { m.2.1 with ownerId := owner m.1.id, exactAddress := address m.1.id }, m.2.2)) := by
  show (d.2.catalogue.compounds.find? (d.2.catalogue.details u.id).compoundId).bind _
    = ((d.2.catalogue.compounds.find? (d.2.catalogue.details u.id).compoundId).bind _).map _
  cases d.2.catalogue.compounds.find? (d.2.catalogue.details u.id).compoundId with
  | none => rfl
  | some c =>
    show (d.2.catalogue.areas.find? c.areaId).bind _ = ((d.2.catalogue.areas.find? c.areaId).bind _).map _
    cases d.2.catalogue.areas.find? c.areaId with
    | none => rfl
    | some a =>
      show (if Queries.accepts f u (d.2.catalogue.details u.id) c a then some _ else none)
        = (if Queries.accepts f u (d.2.catalogue.details u.id) c a then some _ else none).map _
      split_ifs
      · rfl
      · rfl

theorem searchMatches_withPrivate (f : SearchFilters) :
    Queries.searchMatches f (withPrivate d owner address owners)
      = (Queries.searchMatches f d).map (withOwner owner) := by
  have hmatches : (withPrivate d owner address owners).1.units.rows.filterMap
        (Queries.searchMatch f (withPrivate d owner address owners))
      = (d.1.units.rows.filterMap (Queries.searchMatch f d)).map (fun m =>
        (m.1, { m.2.1 with ownerId := owner m.1.id, exactAddress := address m.1.id }, m.2.2)) := by
    rw [List.map_filterMap]
    apply List.filterMap_congr
    intro u _
    exact searchMatch_withPrivate d owner address owners f u
  rw [Queries.searchMatches, hmatches, Queries.searchMatches, List.map_map, List.map_map]
  rfl

/-- Every query but a search reads the same. -/
theorem read_withPrivate {s : PublicStmt} (hs : ∀ arg, s ≠ .searchUnits arg)
    (collation : Ranking String) (o : Oracle) :
    s.read collation o (withPrivate d owner address owners) = s.read collation o d := by
  cases s with
  | searchUnits arg => exact absurd rfl (hs arg)
  | countSearchUnits f =>
    have hlen := congrArg List.length (searchMatches_withPrivate d owner address owners f)
    rw [List.length_map, Queries.searchMatches, Queries.searchMatches, List.length_map,
      List.length_map] at hlen
    exact congrArg Except.ok hlen
  | _ => rfl

/-- What a search sorts by is public. -/
theorem searchOrder_withOwner (sortKey : String) (a b : SearchUnitsRow) :
    (Queries.searchOrder sortKey).le (withOwner owner a) (withOwner owner b)
      = (Queries.searchOrder sortKey).le a b := rfl

/-- **A search sorts the same rows**, with another owner in each. -/
theorem orderedBy_withOwner (sortKey : String) (o : Oracle) (rows : List SearchUnitsRow) :
    Queries.orderedBy (Queries.searchOrder sortKey) SearchUnitsRow.id o (rows.map (withOwner owner))
      = (Queries.orderedBy (Queries.searchOrder sortKey) SearchUnitsRow.id o rows).map
        (withOwner owner) := by
  have hmet : o.met SearchUnitsRow.id (rows.map (withOwner owner))
      = (o.met SearchUnitsRow.id rows).map (withOwner owner) := by
    rw [Oracle.met, Oracle.met, List.map_map, List.map_filterMap]
    apply List.filterMap_congr
    intro id _
    rw [List.find?_map]
    rfl
  rw [Queries.orderedBy, Queries.orderedBy, hmet]
  exact (List.map_mergeSort (fun a _ b _ => (searchOrder_withOwner owner sortKey a b).symm)).symm

/-- A request that is no search answers the same. -/
theorem answer_withPrivate {α : Type} {p : PublicHandler α}
    (hp : p.Only (fun s => ∀ arg, s ≠ .searchUnits arg)) (collation : Ranking String) (o : Oracle)
    (now : ℤ) :
    answer (publicStore collation) o now (withPrivate d owner address owners) p
      = answer (publicStore collation) o now d p := by
  refine congrArg Prod.fst (alone_congr (fun s hs W => ?_) hp [] false)
  cases W with
  | nil =>
    exact congrArg (Except.map (fun v => (v, []))) (read_withPrivate d owner address owners hs collation o)
  | cons w W => exact w.elim

theorem getUnit_only (slug : String) : (getUnit slug).Only (fun s => ∀ arg, s ≠ .searchUnits arg) :=
  Prog.only_bind (Prog.only_query _ (fun _ => nofun)) (fun _ => Prog.only_bind (Prog.only_require _ _)
    (fun _ => Prog.only_bind (Prog.only_query _ (fun _ => nofun)) (fun _ => Prog.only_pure _)))

theorem listCompounds_only (area page size : String) :
    (listCompounds area page size).Only (fun s => ∀ arg, s ≠ .searchUnits arg) :=
  Prog.only_bind (Prog.only_query _ (fun _ => nofun)) (fun _ =>
    Prog.only_bind (Prog.only_query _ (fun _ => nofun)) (fun _ => Prog.only_pure _))

theorem getCompound_only (slug page size : String) :
    (getCompound slug page size).Only (fun s => ∀ arg, s ≠ .searchUnits arg) :=
  Prog.only_bind (Prog.only_query _ (fun _ => nofun)) (fun _ => Prog.only_bind (Prog.only_require _ _)
    (fun _ => Prog.only_bind (Prog.only_query _ (fun _ => nofun)) (fun _ =>
      Prog.only_bind (Prog.only_query _ (fun _ => nofun)) (fun _ => Prog.only_pure _))))

end Queries

/-! ### Searches -/

/-- Where the page of a search begins. -/
def searchOffset (q : SearchQuery) : ℤ :=
  (pageOffset (parsePagination q.page q.size).1 (parsePagination q.page q.size).2).toInt

/-- The page of a search, when its offset is none below zero. -/
def searchPage (q : SearchQuery) (o : Oracle) (rows : List SearchUnitsRow) : List SearchUnitsRow :=
  ((Queries.orderedBy (Queries.searchOrder (normSort q.sort)) SearchUnitsRow.id o rows).drop
    (searchOffset q).toNat).take (pageSize q.size)

/-- The row can be among those of a page after the first `start`: its group of tied rows reaches into
it. -/
def MayStand (q : SearchQuery) (rows : List SearchUnitsRow) (row : SearchUnitsRow) (start : ℤ) : Prop :=
  (Queries.searchOrder (normSort q.sort)).before rows row < start + sizeAsked q.size ∧
  start < (Queries.searchOrder (normSort q.sort)).upTo rows row

/-- The row can be on the page that a search asks for.  Behind `2 ^ 31` rows the pages come round
again, each `2 ^ 32` rows being a first half that is listed and a second that is refused. -/
def MayList (q : SearchQuery) (rows : List SearchUnitsRow) (row : SearchUnitsRow) : Prop :=
  let start := rowsBefore q.page q.size
  if start < 2 ^ 31 then MayStand q rows row start
  else start % 2 ^ 32 < 2 ^ 31 ∧ MayStand q rows row (start % 2 ^ 32)

section Searches

variable {d : PublicRows} {q : SearchQuery} {f : SearchFilters}

theorem searchOffset_eq_bmod (q : SearchQuery) :
    searchOffset q = (rowsBefore q.page q.size).bmod (2 ^ 32) := pageOffset_eq_bmod q.page q.size

theorem pageSize_eq_sizeAsked (size : String) : (pageSize size : ℤ) = sizeAsked size :=
  (pageLimit_toInt size).symm.trans (pageLimit_exact "" size)

/-- The page in terms of the offset sent. -/
theorem mayList_iff {rows : List SearchUnitsRow} {row : SearchUnitsRow} :
    MayList q rows row ↔ 0 ≤ searchOffset q ∧
      (Queries.searchOrder (normSort q.sort)).before rows row < (searchOffset q).toNat + pageSize q.size ∧
      (searchOffset q).toNat < (Queries.searchOrder (normSort q.sort)).upTo rows row := by
  have hpos := rowsBefore_nonneg q.page q.size
  have hsize := pageSize_eq_sizeAsked q.size
  have hoffset := searchOffset_eq_bmod q
  rw [Int.bmod_def] at hoffset
  simp only [MayList, MayStand]
  split_ifs at hoffset ⊢ <;> omega

theorem ownerId_searchMatches {row : SearchUnitsRow} (h : row ∈ Queries.searchMatches f d) :
    row.ownerId = (d.2.catalogue.details row.id).ownerId := by
  obtain ⟨m, hm, rfl⟩ := List.mem_map.mp h
  obtain ⟨u, -, hu⟩ := List.mem_filterMap.mp hm
  obtain ⟨c, -, hu⟩ := Option.bind_eq_some_iff.mp hu
  obtain ⟨a, -, hu⟩ := Option.bind_eq_some_iff.mp hu
  split_ifs at hu
  cases hu
  rfl

/-- The answer to a search. -/
theorem answer_searchPage (texts : Texts) (collation : Ranking String) (o : Oracle) (now : ℤ)
    (d : PublicRows) (hf : q.filters texts = .ok f) :
    answer (publicStore collation) o now d (searchUnits texts q)
      = if 0 ≤ searchOffset q then
          .ok ⟨searchPage q o (Queries.searchMatches f d), (parsePagination q.page q.size).1,
            (parsePagination q.page q.size).2, (Queries.searchMatches f d).length⟩
        else .error (failed "search") := by
  have hlimit : (parsePagination q.page q.size).2.toInt32.toInt = pageSize q.size :=
    pageLimit_toInt q.size
  have hneg : ((parsePagination q.page q.size).2.toInt32 < 0
      ∨ pageOffset (parsePagination q.page q.size).1 (parsePagination q.page q.size).2 < 0)
      ↔ ¬ 0 ≤ searchOffset q := by
    rw [Int32.lt_iff_toInt_lt, Int32.lt_iff_toInt_lt, hlimit]
    show ((pageSize q.size : ℤ) < 0 ∨ searchOffset q < 0) ↔ ¬ 0 ≤ searchOffset q
    omega
  rw [answer_searchUnits texts collation now d o hf, Queries.limited]
  by_cases hoffset : 0 ≤ searchOffset q
  · rw [if_pos hoffset, if_neg (fun h => hneg.mp h hoffset), hlimit]
    rfl
  · rw [if_neg hoffset, if_pos (hneg.mpr hoffset)]
    rfl

theorem searchPage_withOwner (q : SearchQuery) (o : Oracle) (owner : ℕ → ℕ)
    (rows : List SearchUnitsRow) :
    searchPage q o (rows.map (withOwner owner)) = (searchPage q o rows).map (withOwner owner) := by
  rw [searchPage, orderedBy_withOwner, ← List.map_drop, ← List.map_take]
  rfl

theorem mem_of_mem_searchPage {o : Oracle} {row : SearchUnitsRow}
    (h : row ∈ searchPage q o (Queries.searchMatches f d)) : row ∈ Queries.searchMatches f d :=
  (orderedBy_arranges _ o (nodup_searchMatches d f)).1.mem_iff.mp
    (List.mem_of_mem_drop (List.mem_of_mem_take h))

/-- Whether a row is on the page may hang on how ties are broken. -/
theorem exists_mem_searchPage {row : SearchUnitsRow} (hrow : row ∈ Queries.searchMatches f d)
    (hoffset : 0 ≤ searchOffset q) :
    (∃ o, row ∈ searchPage q o (Queries.searchMatches f d))
      ↔ MayList q (Queries.searchMatches f d) row := by
  have hwindow := Ranking.exists_mem_window (Queries.searchOrder (normSort q.sort)) hrow
    (searchOffset q).toNat (pageSize_pos q.size)
  rw [mayList_iff, ← hwindow]
  constructor
  · rintro ⟨o, ho⟩
    exact ⟨hoffset, _, orderedBy_arranges _ o (nodup_searchMatches d f), ho⟩
  · rintro ⟨-, s, hs, hmem⟩
    obtain ⟨o, rfl⟩ := exists_orderedBy (nodup_searchMatches d f) hs
    exact ⟨o, hmem⟩

theorem map_withOwner_eq_self {owner : ℕ → ℕ} {rows : List SearchUnitsRow} :
    rows.map (withOwner owner) = rows ↔ ∀ row ∈ rows, owner row.id = row.ownerId := by
  constructor
  · intro h row hrow
    have hsame := List.map_inj_left.mp (h.trans (List.map_id rows).symm) row hrow
    exact congrArg SearchUnitsRow.ownerId hsame
  · intro h
    refine (List.map_congr_left (fun row hrow => ?_)).trans (List.map_id rows)
    rw [withOwner, h row hrow]
    rfl

/-- **Two searches answer alike** exactly when no row that may be listed has another owner. -/
theorem answer_searchUnits_iff (texts : Texts) (collation : Ranking String) (now : ℤ)
    (hf : q.filters texts = .ok f) (owner : ℕ → ℕ) (address : ℕ → Option String)
    (owners : Table ℕ OwnerRow OwnerRow.id) :
    (∀ o, answer (publicStore collation) o now (withPrivate d owner address owners) (searchUnits texts q)
      = answer (publicStore collation) o now d (searchUnits texts q))
    ↔ ∀ row ∈ Queries.searchMatches f d, MayList q (Queries.searchMatches f d) row →
      owner row.id = (d.2.catalogue.details row.id).ownerId := by
  have hread : ∀ o, answer (publicStore collation) o now (withPrivate d owner address owners)
        (searchUnits texts q)
      = if 0 ≤ searchOffset q then
          .ok ⟨(searchPage q o (Queries.searchMatches f d)).map (withOwner owner),
            (parsePagination q.page q.size).1, (parsePagination q.page q.size).2,
            (Queries.searchMatches f d).length⟩
        else .error (failed "search") := by
    intro o
    rw [answer_searchPage texts collation o now _ hf, searchMatches_withPrivate, searchPage_withOwner,
      List.length_map]
  constructor
  · intro hall row hrow hlist
    have hoffset : 0 ≤ searchOffset q := (mayList_iff.mp hlist).1
    obtain ⟨o, ho⟩ := (exists_mem_searchPage hrow hoffset).mpr hlist
    have heq := hall o
    rw [hread, answer_searchPage texts collation o now d hf, if_pos hoffset, if_pos hoffset] at heq
    have hitems := congrArg PageOf.items (Except.ok.inj heq)
    rw [← ownerId_searchMatches hrow]
    exact map_withOwner_eq_self.mp hitems row ho
  · intro hall o
    rw [hread, answer_searchPage texts collation o now d hf]
    by_cases hoffset : 0 ≤ searchOffset q
    · have hitems : (searchPage q o (Queries.searchMatches f d)).map (withOwner owner)
          = searchPage q o (Queries.searchMatches f d) := by
        refine map_withOwner_eq_self.mpr (fun row hrow => ?_)
        have hmatch := mem_of_mem_searchPage hrow
        rw [ownerId_searchMatches hmatch]
        exact hall row hmatch ((exists_mem_searchPage hmatch hoffset).mp ⟨o, hrow⟩)
      rw [if_pos hoffset, if_pos hoffset, hitems]
    · rw [if_neg hoffset, if_neg hoffset]

end Searches

/-! ### Sequences of requests -/

section Runs

variable (srv : Server) (texts : Texts) (collation : Ranking String)

/-- The responses to requests that come one after the other, each at its own time. -/
def publicRun (reqs : List (PublicRequest × ℤ)) (os : ℕ → Oracle) (d : PublicRows) :
    List (Except ApiError PublicResponse) :=
  reqs.mapIdx (fun i req => publicAnswer srv texts collation (os i) req.2 d req.1)

/-- A request that can list no unit with another owner. -/
def HidesOwners (d d' : PublicRows) (req : PublicRequest) : Prop :=
  ∀ q f, req = .searchUnits q → q.filters texts = .ok f →
    ∀ row ∈ Queries.searchMatches f d, MayList q (Queries.searchMatches f d) row →
      (d'.2.catalogue.details row.id).ownerId = (d.2.catalogue.details row.id).ownerId

variable {d d' : PublicRows}

/-- A search whose parameters do not parse reads nothing. -/
theorem answer_badFilters {q : SearchQuery} {e : ApiError} (hf : q.filters texts = .error e)
    (o : Oracle) (now : ℤ) :
    answer (publicStore collation) o now d (searchUnits texts q) = .error e := by
  simp only [searchUnits, hf]
  rfl

theorem map_search_inj {x y : Except ApiError (PageOf SearchUnitsRow)}
    (h : x.map PublicResponse.search = y.map PublicResponse.search) : x = y := by
  cases x with
  | error e =>
    cases y with
    | error e' => exact congrArg Except.error (Except.error.inj h)
    | ok p' => cases h
  | ok p =>
    cases y with
    | error e' => cases h
    | ok p' => exact congrArg Except.ok (PublicResponse.search.inj (Except.ok.inj h))

/-- **One request answers alike** on both databases, unless it is a search that shows an owner. -/
theorem publicAnswer_iff (h : SamePublic d d') (req : PublicRequest) (now : ℤ) :
    (∀ o, publicAnswer srv texts collation o now d' req = publicAnswer srv texts collation o now d req)
      ↔ HidesOwners texts d d' req := by
  obtain ⟨owner, address, owners, rfl⟩ : ∃ owner address owners, d' = withPrivate d owner address owners :=
    ⟨_, _, _, h.eq_withPrivate⟩
  cases req with
  | searchUnits q =>
    cases hf : q.filters texts with
    | error e =>
      refine iff_of_true (fun o => ?_) (fun q' f hreq hf' => ?_)
      · simp only [publicAnswer, answer_badFilters texts collation hf]
      · cases hreq
        rw [hf] at hf'
        cases hf'
    | ok f =>
      have hsearch := answer_searchUnits_iff texts collation now hf (d := d) owner address owners
      constructor
      · intro hall q' f' hreq hf' row hrow hlist
        cases hreq
        rw [hf] at hf'
        cases hf'
        exact hsearch.mp (fun o => map_search_inj (hall o)) row hrow hlist
      · intro hhides o
        exact congrArg (Except.map PublicResponse.search)
          (hsearch.mpr (fun row hrow hlist => hhides q f rfl hf row hrow hlist) o)
  | getUnit slug =>
    refine iff_of_true (fun o => ?_) (fun q f hreq => ?_)
    · exact congrArg (Except.map PublicResponse.unit)
        (answer_withPrivate d owner address owners (getUnit_only slug) collation o now)
    · cases hreq
  | listCompounds area page size =>
    refine iff_of_true (fun o => ?_) (fun q f hreq => ?_)
    · exact congrArg (Except.map PublicResponse.compounds)
        (answer_withPrivate d owner address owners (listCompounds_only area page size) collation o now)
    · cases hreq
  | getCompound slug page size =>
    refine iff_of_true (fun o => ?_) (fun q f hreq => ?_)
    · exact congrArg (Except.map PublicResponse.compound)
        (answer_withPrivate d owner address owners (getCompound_only slug page size) collation o now)
    · cases hreq
  | getAvailability slug fromText toText => exact iff_of_true (fun o => rfl) (fun q f hreq => nomatch hreq)
  | postQuote slug req => exact iff_of_true (fun o => rfl) (fun q f hreq => nomatch hreq)

/-- **The public pages show nothing private** but the owners of the units that a search lists: two
databases that differ in nothing public answer every sequence of requests alike exactly when no
search of it can list a unit that has different owners. -/
theorem public_agrees_iff (h : SamePublic d d') (reqs : List (PublicRequest × ℤ)) :
    (∀ os, publicRun srv texts collation reqs os d' = publicRun srv texts collation reqs os d)
      ↔ ∀ req ∈ reqs, HidesOwners texts d d' req.1 := by
  constructor
  · intro hall req hreq
    obtain ⟨i, hi, rfl⟩ := List.getElem_of_mem hreq
    refine (publicAnswer_iff srv texts collation h _ reqs[i].2).mp (fun o => ?_)
    exact List.mapIdx_eq_mapIdx_iff.mp (hall (fun _ => o)) i hi
  · intro hhides os
    refine List.mapIdx_eq_mapIdx_iff.mpr (fun i hi => ?_)
    exact (publicAnswer_iff srv texts collation h _ _).mpr (hhides _ (List.getElem_mem hi)) (os i)

end Runs

/-! ### The import, sold -/

/-- The same units, of this owner and at another address. -/
def soldImport (owner : OwnerRow) : PublicRows :=
  withPrivate bulkImport (fun _ => owner.id) (fun _ => some "Villa 12, Lagoon Street")
    (Table.empty.insert owner)

theorem samePublic_soldImport (owner : OwnerRow) : SamePublic bulkImport (soldImport owner) :=
  ⟨rfl, fun _ => rfl, rfl, rfl, rfl, rfl, rfl⟩

/-- The owner of the small catalogue, under another name. -/
def renamedOwner : OwnerRow :=
  ⟨1, "Kareem", "+201112345678", none, none, some "abroad until May", 15, by decide⟩

def newOwner : OwnerRow := { renamedOwner with id := 2 }

/-- A visitor searches, and looks at a unit of the list. -/
def visit : List (PublicRequest × ℤ) :=
  [(.searchUnits (searchAll "20"), noonOf newYear), (.getUnit "lagoon-view", noonOf newYear)]

theorem public_agrees_renamed :
    SamePublic bulkImport (soldImport renamedOwner) ∧ ∀ os,
      publicRun winterServer plainTexts bytewise visit os (soldImport renamedOwner)
        = publicRun winterServer plainTexts bytewise visit os bulkImport :=
  ⟨samePublic_soldImport renamedOwner,
    (public_agrees_iff winterServer plainTexts bytewise (samePublic_soldImport renamedOwner) visit).mpr
      (fun _ _ _ _ _ _ _ _ _ => rfl)⟩

/-- **A search shows who owns a unit**: it answers otherwise once the units are sold. -/
theorem owner_shows :
    SamePublic bulkImport (soldImport newOwner) ∧ ¬ ∀ os,
      publicRun winterServer plainTexts bytewise visit os (soldImport newOwner)
        = publicRun winterServer plainTexts bytewise visit os bulkImport := by
  refine ⟨samePublic_soldImport newOwner, fun hall => ?_⟩
  have hsearch := (publicAnswer_iff winterServer plainTexts bytewise (samePublic_soldImport newOwner)
    (.searchUnits (searchAll "20")) (noonOf newYear)).mp
    (fun o => List.mapIdx_eq_mapIdx_iff.mp (hall (fun _ => o)) 0 (Nat.zero_lt_succ 1))
  have hlen : (Queries.searchMatches noFilters bulkImport).length = 2 := rfl
  obtain ⟨row, hrow⟩ := List.exists_mem_of_length_pos (Nat.lt_of_lt_of_eq Nat.two_pos hlen.symm)
  have hlist : MayList (searchAll "20") (Queries.searchMatches noFilters bulkImport) row := by
    refine mayList_iff.mpr ⟨by decide, ?_, ?_⟩
    · exact (List.countP_le_length.trans_eq hlen).trans_lt (by decide)
    · exact List.countP_pos_iff.mpr ⟨row, hrow, Ranking.refl row⟩
  have howner : 2 = 1 := hsearch (searchAll "20") noFilters rfl rfl row hrow hlist
  omega

end Sahel

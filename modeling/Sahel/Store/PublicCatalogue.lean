import Sahel.Library.Paging
import Sahel.Store.CatalogueQueries
import Sahel.Store.UnitImages

/-!
# The public catalogue: rows and queries

What the website reads of units and compounds without signing in.

* `PublicRows` are the rows, private columns and owners among them;
* a `Queries` function is a query of units.sql or compounds.sql, and its row type the struct that
  sqlc scans into and the API serialises as it is;
* `ORDER BY` is a ranking: rows that it leaves tied come in the order a scan meets them, which
  another request need not repeat;
* a name is compared by the collation of the database, a parameter.
-/

set_option autoImplicit false

namespace Sahel

open KeyedTable ReadCommitted Paging

/-! ### Rows -/

/-- The tables next to those of the bookings. -/
structure PublicTables where
  catalogue : Catalogue
  images : UnitImages
  one_cover : OneCover images
  unitCreatedAt : ℕ → ℤ
  unitUpdatedAt : ℕ → ℤ

abbrev PublicRows : Type := Db × PublicTables

structure SearchUnitsRow where
  id : ℕ
  ownerId : ℕ
  compoundId : ℕ
  slug : String
  titleAr : String
  titleEn : String
  type : UnitType
  bedrooms : Int16
  bathrooms : Int16
  baseGuests : Int16
  maxGuests : ℤ
  areaSqm : Option Int32
  floor : Option Int16
  seaDistanceM : Int32
  view : UnitView
  status : UnitStatus
  createdAt : ℤ
  compoundSlug : String
  compoundNameEn : String
  areaSlug : String
  areaNameEn : String
  compoundNameAr : String
  areaNameAr : String
  coverUrl : Option String
  fromPrice : Int64
  deriving DecidableEq

structure GetPublicUnitBySlugRow where
  id : ℕ
  compoundId : ℕ
  slug : String
  titleAr : String
  titleEn : String
  descriptionAr : String
  descriptionEn : String
  houseRulesAr : Option String
  houseRulesEn : Option String
  type : UnitType
  bedrooms : Int16
  bathrooms : Int16
  baseGuests : Int16
  maxGuests : ℤ
  areaSqm : Option Int32
  floor : Option Int16
  seaDistanceM : Int32
  view : UnitView
  rowNumber : Option Int16
  amenities : List String
  lat : Option ℤ
  lng : Option ℤ
  status : UnitStatus
  createdAt : ℤ
  updatedAt : ℤ
  compoundIdOut : ℕ
  compoundSlug : String
  compoundNameAr : String
  compoundNameEn : String
  areaId : ℕ
  areaSlug : String
  areaNameAr : String
  areaNameEn : String
  deriving DecidableEq

structure ListImagesByUnitIDRow where
  id : ℕ
  unitId : ℕ
  url : String
  altAr : Option String
  altEn : Option String
  sort : Int16
  isCover : Bool
  deriving DecidableEq

structure ListCompoundsRow where
  id : ℕ
  areaId : ℕ
  slug : String
  nameAr : String
  nameEn : String
  descriptionAr : String
  descriptionEn : String
  amenities : List String
  beachType : BeachType
  coverImageUrl : Option String
  isFeatured : Bool
  areaSlug : String
  deriving DecidableEq

structure GetCompoundBySlugRow where
  id : ℕ
  areaId : ℕ
  slug : String
  nameAr : String
  nameEn : String
  descriptionAr : String
  descriptionEn : String
  amenities : List String
  beachType : BeachType
  gateInfoAr : Option String
  gateInfoEn : Option String
  lat : Option ℤ
  lng : Option ℤ
  coverImageUrl : Option String
  isFeatured : Bool
  areaSlug : String
  areaNameAr : String
  areaNameEn : String
  deriving DecidableEq

structure ListActiveUnitsByCompoundIDRow where
  id : ℕ
  compoundId : ℕ
  slug : String
  titleAr : String
  titleEn : String
  type : UnitType
  bedrooms : Int16
  bathrooms : Int16
  maxGuests : ℤ
  seaDistanceM : Int32
  view : UnitView
  status : UnitStatus
  createdAt : ℤ
  coverUrl : Option String
  fromPrice : Int64
  deriving DecidableEq

/-! ### Parameters -/

/-- What a search asks for; `CountSearchUnitsParams`. -/
structure SearchFilters where
  areaSlug : Option String
  compoundSlug : Option String
  unitType : Option UnitType
  unitView : Option UnitView
  guests : Option Int32
  bedrooms : Option Int32
  maxSeaDistance : Option Int32

structure SearchUnitsParams where
  filters : SearchFilters
  sortKey : String
  pageOffset : Int32
  pageLimit : Int32

structure ListCompoundsParams where
  areaSlug : Option String
  pageOffset : Int32
  pageLimit : Int32

structure ListActiveUnitsByCompoundIDParams where
  compoundId : ℕ
  limit : Int32
  offset : Int32

/-- A failed query of the catalogue: a `LIMIT` or an `OFFSET` below zero. -/
inductive PublicError where
  | invalidRowCount
  | inFailedTransaction
  deriving DecidableEq

/-! ### Queries -/

namespace Queries

/-- `LIMIT` and `OFFSET`. -/
def limited {α : Type} (limit offset : Int32) (rows : List α) : Except PublicError (List α) :=
  if limit < 0 ∨ offset < 0 then .error .invalidRowCount
  else .ok ((rows.drop offset.toInt.toNat).take limit.toInt.toNat)

/-- `ORDER BY`. -/
def orderedBy {α : Type} (r : Ranking α) (id : α → ℕ) (o : Oracle) (rows : List α) : List α :=
  (o.met id rows).mergeSort r.le

/-- The cover's `LEFT JOIN`: the index leaves one row to join. -/
def coverUrl (unitId : ℕ) (d : PublicRows) : Option String :=
  (d.2.images.rows.find? (fun i => decide (i.unitId = unitId) && i.isCover)).map UnitImageRow.url

/-- `COALESCE(u.nightly_price, 0)`. -/
def fromPrice (u : UnitRow) : Int64 := u.nightlyPrice.getD 0

/-- The `WHERE` of a search. -/
def accepts (f : SearchFilters) (u : UnitRow) (details : UnitDetails) (c : CompoundRow) (a : AreaRow) :
    Bool :=
  decide (u.status = .active)
    && f.areaSlug.all (fun s => decide (a.slug = s))
    && f.compoundSlug.all (fun s => decide (c.slug = s))
    && f.unitType.all (fun t => decide (details.type = t))
    && f.unitView.all (fun v => decide (details.view = v))
    && f.guests.all (fun n => decide (n.toInt ≤ u.maxGuests))
    && f.bedrooms.all (fun n => decide (n.toInt ≤ details.bedrooms.toInt))
    && f.maxSeaDistance.all (fun n => decide (details.seaDistanceM.toInt ≤ n.toInt))

/-- A unit with its compound and area, when it is one that a search asks for. -/
def searchMatch (f : SearchFilters) (d : PublicRows) (u : UnitRow) :
    Option (UnitRow × UnitDetails × CompoundRow × AreaRow) := do
  let details := d.2.catalogue.details u.id
  let c ← d.2.catalogue.compounds.find? details.compoundId
  let a ← d.2.catalogue.areas.find? c.areaId
  if accepts f u details c a then some (u, details, c, a) else none

/-- The columns of a search. -/
def searchRow (d : PublicRows) (m : UnitRow × UnitDetails × CompoundRow × AreaRow) : SearchUnitsRow :=
  let (u, details, c, a) := m
  { id := u.id, ownerId := details.ownerId, compoundId := details.compoundId, slug := u.slug
    titleAr := details.titleAr, titleEn := details.titleEn, type := details.type
    bedrooms := details.bedrooms, bathrooms := details.bathrooms, baseGuests := details.baseGuests
    maxGuests := u.maxGuests, areaSqm := details.areaSqm, floor := details.floor
    seaDistanceM := details.seaDistanceM, view := details.view, status := u.status
    createdAt := d.2.unitCreatedAt u.id, compoundSlug := c.slug, compoundNameEn := c.nameEn
    areaSlug := a.slug, areaNameEn := a.nameEn, compoundNameAr := c.nameAr, areaNameAr := a.nameAr
    coverUrl := coverUrl u.id d, fromPrice := fromPrice u }

/-- Every unit that a search asks for. -/
def searchMatches (f : SearchFilters) (d : PublicRows) : List SearchUnitsRow :=
  (d.1.units.rows.filterMap (searchMatch f d)).map (searchRow d)

/-- The `ORDER BY` of a search: a `CASE` without its sort key is null in every row. -/
def searchOrder (sortKey : String) : Ranking SearchUnitsRow :=
  ((Ranking.ascending.comap (fun row =>
      if sortKey = "sea_distance_asc" then row.seaDistanceM.toInt else 0)).andThen
    (Ranking.ascending.comap (fun row =>
      if sortKey = "bedrooms_desc" then -row.bedrooms.toInt else 0))).andThen
    (Ranking.ascending.comap (fun row => -row.createdAt))

def searchUnits (arg : SearchUnitsParams) (o : Oracle) (d : PublicRows) :
    Except PublicError (List SearchUnitsRow) :=
  limited arg.pageLimit arg.pageOffset
    (orderedBy (searchOrder arg.sortKey) SearchUnitsRow.id o (searchMatches arg.filters d))

def countSearchUnits (f : SearchFilters) (d : PublicRows) : ℕ :=
  (d.1.units.rows.filterMap (searchMatch f d)).length

def getPublicUnitBySlug (slug : String) (d : PublicRows) : Option GetPublicUnitBySlugRow := do
  let u ← d.1.units.rows.find? (fun u => decide (u.slug = slug ∧ u.status = .active))
  let details := d.2.catalogue.details u.id
  let c ← d.2.catalogue.compounds.find? details.compoundId
  let a ← d.2.catalogue.areas.find? c.areaId
  return {
    id := u.id, compoundId := details.compoundId, slug := u.slug, titleAr := details.titleAr
    titleEn := details.titleEn, descriptionAr := details.descriptionAr
    descriptionEn := details.descriptionEn, houseRulesAr := details.houseRulesAr
    houseRulesEn := details.houseRulesEn, type := details.type, bedrooms := details.bedrooms
    bathrooms := details.bathrooms, baseGuests := details.baseGuests, maxGuests := u.maxGuests
    areaSqm := details.areaSqm, floor := details.floor, seaDistanceM := details.seaDistanceM
    view := details.view, rowNumber := details.rowNumber, amenities := details.amenities
    lat := details.lat, lng := details.lng, status := u.status, createdAt := d.2.unitCreatedAt u.id
    updatedAt := d.2.unitUpdatedAt u.id, compoundIdOut := c.id, compoundSlug := c.slug
    compoundNameAr := c.nameAr, compoundNameEn := c.nameEn, areaId := a.id, areaSlug := a.slug
    areaNameAr := a.nameAr, areaNameEn := a.nameEn }

/-- `ORDER BY is_cover DESC, sort ASC, created_at ASC`. -/
def imageOrder : Ranking UnitImageRow :=
  ((Ranking.ascending.comap (fun (i : UnitImageRow) => if i.isCover then 0 else 1)).andThen
    (Ranking.ascending.comap (fun i => i.sort.toInt))).andThen
    (Ranking.ascending.comap (fun i => i.createdAt))

def listImagesByUnitID (unitId : ℕ) (o : Oracle) (d : PublicRows) : List ListImagesByUnitIDRow :=
  (orderedBy imageOrder UnitImageRow.id o
    (d.2.images.rows.filter (fun i => decide (i.unitId = unitId)))).map (fun i =>
      ⟨i.id, i.unitId, i.url, i.altAr, i.altEn, i.sort, i.isCover⟩)

/-- A compound with its area, when it is in the one asked for. -/
def compoundMatch (areaSlug : Option String) (d : PublicRows) (c : CompoundRow) :
    Option (CompoundRow × AreaRow) := do
  let a ← d.2.catalogue.areas.find? c.areaId
  if areaSlug.all (fun s => decide (a.slug = s)) then some (c, a) else none

/-- Every compound of the area asked for. -/
def compoundMatches (areaSlug : Option String) (d : PublicRows) : List ListCompoundsRow :=
  (d.2.catalogue.compounds.rows.filterMap (compoundMatch areaSlug d)).map (fun (c, a) =>
    { id := c.id, areaId := c.areaId, slug := c.slug, nameAr := c.nameAr, nameEn := c.nameEn
      descriptionAr := c.descriptionAr, descriptionEn := c.descriptionEn, amenities := c.amenities
      beachType := c.beachType, coverImageUrl := c.coverImageUrl, isFeatured := c.isFeatured
      areaSlug := a.slug })

/-- `ORDER BY c.name_en`. -/
def compoundOrder (collation : Ranking String) : Ranking ListCompoundsRow :=
  collation.comap ListCompoundsRow.nameEn

def listCompounds (collation : Ranking String) (arg : ListCompoundsParams) (o : Oracle)
    (d : PublicRows) : Except PublicError (List ListCompoundsRow) :=
  limited arg.pageLimit arg.pageOffset
    (orderedBy (compoundOrder collation) ListCompoundsRow.id o (compoundMatches arg.areaSlug d))

def countCompounds (areaSlug : Option String) (d : PublicRows) : ℕ :=
  (d.2.catalogue.compounds.rows.filterMap (compoundMatch areaSlug d)).length

def getCompoundBySlug (slug : String) (d : PublicRows) : Option GetCompoundBySlugRow := do
  let c ← d.2.catalogue.compounds.rows.find? (fun c => decide (c.slug = slug))
  let a ← d.2.catalogue.areas.find? c.areaId
  return {
    id := c.id, areaId := c.areaId, slug := c.slug, nameAr := c.nameAr, nameEn := c.nameEn
    descriptionAr := c.descriptionAr, descriptionEn := c.descriptionEn, amenities := c.amenities
    beachType := c.beachType, gateInfoAr := c.gateInfoAr, gateInfoEn := c.gateInfoEn, lat := c.lat
    lng := c.lng, coverImageUrl := c.coverImageUrl, isFeatured := c.isFeatured, areaSlug := a.slug
    areaNameAr := a.nameAr, areaNameEn := a.nameEn }

/-- `WHERE u.compound_id = $1 AND u.status = 'active'`. -/
def inCompound (compoundId : ℕ) (d : PublicRows) (u : UnitRow) : Bool :=
  decide ((d.2.catalogue.details u.id).compoundId = compoundId ∧ u.status = .active)

/-- Every active unit of a compound. -/
def compoundUnits (compoundId : ℕ) (d : PublicRows) : List ListActiveUnitsByCompoundIDRow :=
  (d.1.units.rows.filter (inCompound compoundId d)).map (fun u =>
    let details := d.2.catalogue.details u.id
    { id := u.id, compoundId := details.compoundId, slug := u.slug, titleAr := details.titleAr
      titleEn := details.titleEn, type := details.type, bedrooms := details.bedrooms
      bathrooms := details.bathrooms, maxGuests := u.maxGuests, seaDistanceM := details.seaDistanceM
      view := details.view, status := u.status, createdAt := d.2.unitCreatedAt u.id
      coverUrl := coverUrl u.id d, fromPrice := fromPrice u })

/-- `ORDER BY u.created_at DESC`. -/
def newestFirst : Ranking ListActiveUnitsByCompoundIDRow :=
  Ranking.ascending.comap (fun row => -row.createdAt)

def listActiveUnitsByCompoundID (arg : ListActiveUnitsByCompoundIDParams) (o : Oracle) (d : PublicRows) :
    Except PublicError (List ListActiveUnitsByCompoundIDRow) :=
  limited arg.limit arg.offset (orderedBy newestFirst ListActiveUnitsByCompoundIDRow.id o
    (compoundUnits arg.compoundId d))

def countActiveUnitsByCompoundID (compoundId : ℕ) (d : PublicRows) : ℕ :=
  (d.1.units.rows.filter (inCompound compoundId d)).length

end Queries

/-! ### Statements -/

inductive PublicStmt where
  | searchUnits (arg : SearchUnitsParams)
  | countSearchUnits (f : SearchFilters)
  | getPublicUnitBySlug (slug : String)
  | listImagesByUnitID (unitId : ℕ)
  | listCompounds (arg : ListCompoundsParams)
  | countCompounds (areaSlug : Option String)
  | getCompoundBySlug (slug : String)
  | listActiveUnitsByCompoundID (arg : ListActiveUnitsByCompoundIDParams)
  | countActiveUnitsByCompoundID (compoundId : ℕ)

@[reducible] def PublicStmt.Val : PublicStmt → Type
  | .searchUnits _ => List SearchUnitsRow
  | .countSearchUnits _ => ℕ
  | .getPublicUnitBySlug _ => Option GetPublicUnitBySlugRow
  | .listImagesByUnitID _ => List ListImagesByUnitIDRow
  | .listCompounds _ => List ListCompoundsRow
  | .countCompounds _ => ℕ
  | .getCompoundBySlug _ => Option GetCompoundBySlugRow
  | .listActiveUnitsByCompoundID _ => List ListActiveUnitsByCompoundIDRow
  | .countActiveUnitsByCompoundID _ => ℕ

/-- What a query reads. -/
def PublicStmt.read (collation : Ranking String) : (s : PublicStmt) → Oracle → PublicRows →
    Except PublicError s.Val
  | .searchUnits arg, o, d => Queries.searchUnits arg o d
  | .countSearchUnits f, _, d => .ok (Queries.countSearchUnits f d)
  | .getPublicUnitBySlug slug, _, d => .ok (Queries.getPublicUnitBySlug slug d)
  | .listImagesByUnitID id, o, d => .ok (Queries.listImagesByUnitID id o d)
  | .listCompounds arg, o, d => Queries.listCompounds collation arg o d
  | .countCompounds area, _, d => .ok (Queries.countCompounds area d)
  | .getCompoundBySlug slug, _, d => .ok (Queries.getCompoundBySlug slug d)
  | .listActiveUnitsByCompoundID arg, o, d => Queries.listActiveUnitsByCompoundID arg o d
  | .countActiveUnitsByCompoundID id, _, d => .ok (Queries.countActiveUnitsByCompoundID id d)

/-- The database as the public pages see it: nothing is written or locked. -/
def publicStore (collation : Ranking String) :
    Database PublicRows Empty Empty PublicError Oracle PublicStmt PublicStmt.Val where
  apply d _ := d
  eval s o _ d := (s.read collation o d).map (fun v => (v, []))
  locks _ _ _ _ := []
  conflict _ _ := false
  conflict_comm _ _ := rfl
  aborted := .inFailedTransaction

end Sahel

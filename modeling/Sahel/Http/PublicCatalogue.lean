import Sahel.Http.Bookings
import Sahel.Store.PublicCatalogue

/-!
# The public catalogue: handlers

units.go and compounds.go, and pagination.go behind them.

* a query parameter is the text of the URL, empty when it is missing; the two enumerations come
  read, as in a body;
* `parsePagination` and `pageOffset` count in the machine integers of the code;
* `publicAnswer` answers every public request about units and compounds.
-/

set_option autoImplicit false

namespace Sahel

open ReadCommitted Paging

/-! ### Parameters -/

def defaultPageSize : Int64 := 20

def maxPageSize : Int64 := 60

def intOrDefault (s : String) (d : Int64) : Int64 :=
  if s = "" then d
  else
    match parseInt64 s with
    | some n => Int64.ofInt n
    | none => d

/-- Page and size with hard bounds: anything invalid, zero or negative falls back to defaults. -/
def parsePagination (page size : String) : Int64 × Int64 :=
  let page := intOrDefault page 1
  let page := if page < 1 then 1 else page
  let size := intOrDefault size defaultPageSize
  let size := if size < 1 then defaultPageSize else size
  let size := if size > maxPageSize then maxPageSize else size
  (page, size)

/-- `int32((page - 1) * size)`. -/
def pageOffset (page size : Int64) : Int32 := ((page - 1) * size).toInt32

/-- `allowedSorts`. -/
def allowedSorts : List String := ["sea_distance_asc", "bedrooms_desc", "created_desc"]

def normSort (s : String) : String := if allowedSorts.contains s then s else "created_desc"

def atoiOpt (s : String) : Option Int32 :=
  if s = "" then none
  else
    match parseInt64 s with
    | some n => if n < 0 then none else some (Int32.ofInt n)
    | none => none

/-- A text parameter that filters when it is there. -/
def textOpt (v : String) : Option String := if v = "" then none else some v

/-- `unit.ParseType` or `unit.ParseView`, when the parameter is there. -/
def enumOpt {α : Type} (texts : Texts) (name what : String) : EnumText α → Except ApiError (Option α)
  | .known a => .ok (some a)
  | .unknown v =>
    if v = "" then .ok none
    else .error ⟨400, "invalid_param", name ++ ": unknown " ++ what ++ " " ++ texts.quote v⟩

structure SearchQuery where
  page : String
  size : String
  sort : String
  area : String
  compound : String
  type : EnumText UnitType
  view : EnumText UnitView
  guests : String
  bedrooms : String
  maxSeaDistance : String

/-- What a search filters by. -/
def SearchQuery.filters (texts : Texts) (q : SearchQuery) : Except ApiError SearchFilters := do
  let type ← enumOpt texts "type" "unit type" q.type
  let view ← enumOpt texts "view" "view" q.view
  return {
    areaSlug := textOpt q.area, compoundSlug := textOpt q.compound, unitType := type, unitView := view
    guests := atoiOpt q.guests, bedrooms := atoiOpt q.bedrooms
    maxSeaDistance := atoiOpt q.maxSeaDistance }

/-! ### Responses -/

/-- A page of a list. -/
structure PageOf (α : Type) where
  items : List α
  page : Int64
  size : Int64
  total : ℕ

/-- A compound or an area, as a unit's page names it. -/
structure NamedRef where
  id : ℕ
  slug : String
  nameAr : String
  nameEn : String

structure UnitPage where
  id : ℕ
  slug : String
  titleAr : String
  titleEn : String
  descriptionAr : String
  descriptionEn : String
  houseRulesAr : Option String
  houseRulesEn : Option String
  type : UnitType
  bedrooms : Int16
  bathrooms : Int16
  baseGuests : Int16
  maxGuests : ℤ
  areaSqm : Option Int32
  floor : Option Int16
  seaDistanceM : Int32
  view : UnitView
  rowNumber : Option Int16
  amenities : List String
  lat : Option ℤ
  lng : Option ℤ
  status : UnitStatus
  compound : NamedRef
  area : NamedRef
  images : List ListImagesByUnitIDRow
  createdAt : ℤ
  updatedAt : ℤ

/-- A compound's page; of its area it shows no id. -/
structure CompoundPage where
  id : ℕ
  slug : String
  nameAr : String
  nameEn : String
  descriptionAr : String
  descriptionEn : String
  amenities : List String
  beachType : BeachType
  gateInfoAr : Option String
  gateInfoEn : Option String
  lat : Option ℤ
  lng : Option ℤ
  coverImageUrl : Option String
  isFeatured : Bool
  areaSlug : String
  areaNameAr : String
  areaNameEn : String
  units : PageOf ListActiveUnitsByCompoundIDRow

/-! ### Handlers -/

abbrev PublicHandler : Type → Type := Prog PublicStmt PublicStmt.Val PublicError ApiError

def failed (what : String) : ApiError := ⟨500, "internal", what ++ " failed"⟩

/-- A query of the catalogue; its failure is logged and hidden. -/
def readPublic (s : PublicStmt) (what : String) : PublicHandler s.Val :=
  Prog.query (fun _ => failed what) s

def searchUnits (texts : Texts) (q : SearchQuery) : PublicHandler (PageOf SearchUnitsRow) := do
  let (page, size) := parsePagination q.page q.size
  let filters ← Prog.check (q.filters texts) id
  let items ← readPublic (.searchUnits {
    filters := filters, sortKey := normSort q.sort, pageOffset := pageOffset page size
    pageLimit := size.toInt32 }) "search"
  let total ← readPublic (.countSearchUnits filters) "count"
  return ⟨items, page, size, total⟩

def getUnit (slug : String) : PublicHandler UnitPage := do
  let row ← readPublic (.getPublicUnitBySlug slug) "get unit"
  let u ← Prog.require row ⟨404, "not_found", "unit not found"⟩
  let images ← readPublic (.listImagesByUnitID u.id) "images"
  return {
    id := u.id, slug := u.slug, titleAr := u.titleAr, titleEn := u.titleEn
    descriptionAr := u.descriptionAr, descriptionEn := u.descriptionEn
    houseRulesAr := u.houseRulesAr, houseRulesEn := u.houseRulesEn, type := u.type
    bedrooms := u.bedrooms, bathrooms := u.bathrooms, baseGuests := u.baseGuests
    maxGuests := u.maxGuests, areaSqm := u.areaSqm, floor := u.floor, seaDistanceM := u.seaDistanceM
    view := u.view, rowNumber := u.rowNumber, amenities := u.amenities, lat := u.lat, lng := u.lng
    status := u.status
    compound := ⟨u.compoundIdOut, u.compoundSlug, u.compoundNameAr, u.compoundNameEn⟩
    area := ⟨u.areaId, u.areaSlug, u.areaNameAr, u.areaNameEn⟩
    images := images, createdAt := u.createdAt, updatedAt := u.updatedAt }

def listCompounds (area page size : String) : PublicHandler (PageOf ListCompoundsRow) := do
  let (page, size) := parsePagination page size
  let items ← readPublic (.listCompounds {
    areaSlug := textOpt area, pageOffset := pageOffset page size
    pageLimit := size.toInt32 }) "list compounds"
  let total ← readPublic (.countCompounds (textOpt area)) "count compounds"
  return ⟨items, page, size, total⟩

def getCompound (slug page size : String) : PublicHandler CompoundPage := do
  let row ← readPublic (.getCompoundBySlug slug) "get compound"
  let c ← Prog.require row ⟨404, "not_found", "compound not found"⟩
  let (page, size) := parsePagination page size
  let units ← readPublic (.listActiveUnitsByCompoundID {
    compoundId := c.id, limit := size.toInt32, offset := pageOffset page size }) "compound units"
  let total ← readPublic (.countActiveUnitsByCompoundID c.id) "compound units count"
  return {
    id := c.id, slug := c.slug, nameAr := c.nameAr, nameEn := c.nameEn
    descriptionAr := c.descriptionAr, descriptionEn := c.descriptionEn, amenities := c.amenities
    beachType := c.beachType, gateInfoAr := c.gateInfoAr, gateInfoEn := c.gateInfoEn, lat := c.lat
    lng := c.lng, coverImageUrl := c.coverImageUrl, isFeatured := c.isFeatured, areaSlug := c.areaSlug
    areaNameAr := c.areaNameAr, areaNameEn := c.areaNameEn, units := ⟨units, page, size, total⟩ }

inductive PublicRequest where
  | searchUnits (q : SearchQuery)
  | getUnit (slug : String)
  | listCompounds (area page size : String)
  | getCompound (slug page size : String)
  | getAvailability (slug fromText toText : String)
  | postQuote (slug : String) (req : QuoteRequest)

inductive PublicResponse where
  | search (page : PageOf SearchUnitsRow)
  | unit (page : UnitPage)
  | compounds (page : PageOf ListCompoundsRow)
  | compound (page : CompoundPage)
  | calendar (days : List CalendarDay)
  | quote (b : Pricing.Breakdown)

/-- The answer to a request; the last two read what bookings read. -/
def publicAnswer (srv : Server) (texts : Texts) (collation : Ranking String) (o : Oracle) (now : ℤ)
    (d : PublicRows) : PublicRequest → Except ApiError PublicResponse
  | .searchUnits q => (answer (publicStore collation) o now d (searchUnits texts q)).map .search
  | .getUnit slug => (answer (publicStore collation) o now d (getUnit slug)).map .unit
  | .listCompounds area page size =>
    (answer (publicStore collation) o now d (listCompounds area page size)).map .compounds
  | .getCompound slug page size =>
    (answer (publicStore collation) o now d (getCompound slug page size)).map .compound
  | .getAvailability slug fromText toText =>
    (answer postgres o now d.1 (getAvailability srv slug fromText toText)).map .calendar
  | .postQuote slug req => (answer postgres o now d.1 (postQuote srv slug req)).map .quote

end Sahel

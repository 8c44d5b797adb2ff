import Sahel.Store.CatalogueQueries
import Sahel.Http.Requests

/-!
# Editing the catalogue

`adminPatchUnit`, `adminPatchCompound`, `adminPatchArea` and `adminPatchOwner`: each reads its row,
lets the body `apply` to it in memory, and writes every column back.

* an input is the body as decoded; `edit` is what `apply` does to the record and `problems` what it
  finds wrong with it;
* `adminPatch` is the handler all four share, `Kind` by `Kind`;
* `FullReaches` is the system of these requests and all those of the bookings.

The two queries of a handler run outside a transaction, so its update is committed as soon as it has
run; here that is one of the moments it may be committed at.
-/

set_option autoImplicit false

namespace Sahel

open ReadCommitted

/-- The field of a nullable struct member. -/
def Field.map {α β : Type} (f : α → β) : Field α → Field β
  | .absent => .absent
  | .null => .null
  | .value v => .value (f v)

/-! ### Units -/

structure UnitInput where
  ownerId : Field ℕ := .absent
  compoundId : Field ℕ := .absent
  slug : Field String := .absent
  titleAr : Field String := .absent
  titleEn : Field String := .absent
  descriptionAr : Field String := .absent
  descriptionEn : Field String := .absent
  houseRulesAr : Field String := .absent
  houseRulesEn : Field String := .absent
  type : Field (EnumText UnitType) := .absent
  bedrooms : Field Int16 := .absent
  bathrooms : Field Int16 := .absent
  baseGuests : Field Int16 := .absent
  maxGuests : Field Int16 := .absent
  areaSqm : Field Int32 := .absent
  floor : Field Int16 := .absent
  seaDistanceM : Field Int32 := .absent
  view : Field (EnumText UnitView) := .absent
  rowNumber : Field Int16 := .absent
  amenities : Field (List String) := .absent
  lat : Field ℚ := .absent
  lng : Field ℚ := .absent
  exactAddress : Field String := .absent
  status : Field (EnumText UnitStatus) := .absent
  nightlyPrice : Field Int64 := .absent
  bufferDays : Field Int16 := .absent
  advanceNoticeHours : Field Int32 := .absent
  maxAdvanceDays : Field Int32 := .absent
  deriving DecidableEq

/-- The record after the fields are copied and the texts trimmed. -/
def UnitInput.edit (b : UnitInput) (u : UnitRecord) : UnitRecord where
  id := u.id
  ownerId := setField u.ownerId (b.ownerId.map some)
  compoundId := setField u.compoundId (b.compoundId.map some)
  slug := setField u.slug b.slug
  titleAr := trimSpace (setField u.titleAr b.titleAr)
  titleEn := trimSpace (setField u.titleEn b.titleEn)
  descriptionAr := trimSpace (setField u.descriptionAr b.descriptionAr)
  descriptionEn := trimSpace (setField u.descriptionEn b.descriptionEn)
  houseRulesAr := blankToNil (setNullable u.houseRulesAr b.houseRulesAr)
  houseRulesEn := blankToNil (setNullable u.houseRulesEn b.houseRulesEn)
  type := setField u.type b.type
  bedrooms := setField u.bedrooms b.bedrooms
  bathrooms := setField u.bathrooms b.bathrooms
  baseGuests := setField u.baseGuests b.baseGuests
  maxGuests := setField u.maxGuests b.maxGuests
  areaSqm := setNullable u.areaSqm b.areaSqm
  floor := setNullable u.floor b.floor
  seaDistanceM := setField u.seaDistanceM b.seaDistanceM
  view := setField u.view b.view
  rowNumber := setNullable u.rowNumber b.rowNumber
  amenities := normalizeAmenities (setField u.amenities b.amenities)
  lat := setCoord u.lat 90 b.lat
  lng := setCoord u.lng 180 b.lng
  exactAddress := blankToNil (setNullable u.exactAddress b.exactAddress)
  status := setField u.status b.status
  nightlyPrice := setNullable u.nightlyPrice b.nightlyPrice
  bufferDays := setField u.bufferDays b.bufferDays
  advanceNoticeHours := setField u.advanceNoticeHours b.advanceNoticeHours
  maxAdvanceDays := setField u.maxAdvanceDays b.maxAdvanceDays

/-- What is wrong with the body, or with the record `u` it leaves. -/
def UnitInput.problems (texts : Texts) (b : UnitInput) (u : UnitRecord) : List (List String) :=
  [fieldProblem "owner_id" b.ownerId,
    fieldProblem "compound_id" b.compoundId,
    fieldProblem "slug" b.slug,
    fieldProblem "title_ar" b.titleAr,
    fieldProblem "title_en" b.titleEn,
    fieldProblem "description_ar" b.descriptionAr,
    fieldProblem "description_en" b.descriptionEn,
    fieldProblem "type" b.type,
    fieldProblem "bedrooms" b.bedrooms,
    fieldProblem "bathrooms" b.bathrooms,
    fieldProblem "base_guests" b.baseGuests,
    fieldProblem "max_guests" b.maxGuests,
    fieldProblem "sea_distance_m" b.seaDistanceM,
    fieldProblem "view" b.view,
    fieldProblem "amenities" b.amenities,
    coordProblem "lat" 90 b.lat,
    coordProblem "lng" 180 b.lng,
    fieldProblem "status" b.status,
    fieldProblem "buffer_days" b.bufferDays,
    fieldProblem "advance_notice_hours" b.advanceNoticeHours,
    fieldProblem "max_advance_days" b.maxAdvanceDays,
    problem (u.ownerId = none) "owner_id is required",
    problem (u.compoundId = none) "compound_id is required",
    requirePair "title" u.titleAr u.titleEn,
    requirePair "description" u.descriptionAr u.descriptionEn,
    checkEnum texts "type" u.type,
    checkEnum texts "view" u.view,
    checkEnum texts "status" u.status,
    problem (u.bedrooms < 0 ∨ u.bathrooms < 0) "bedrooms and bathrooms must be >= 0",
    problem (u.baseGuests < 1) "base_guests must be >= 1",
    problem (u.maxGuests < u.baseGuests) "max_guests must be >= base_guests",
    problem (u.seaDistanceM < 0) "sea_distance_m must be >= 0",
    problem (∃ n ∈ u.rowNumber, n < 1) "row_number must be >= 1 (1 = first row)",
    problem (∃ n ∈ u.areaSqm, n ≤ 0) "area_sqm must be > 0",
    problem (∃ n ∈ u.nightlyPrice, n ≤ 0)
      "nightly_price must be > 0 (or null while the unit is unpriced)",
    problem (u.maxAdvanceDays < 1 ∨ u.bufferDays < 0 ∨ u.advanceNoticeHours < 0)
      "max_advance_days must be >= 1; buffer_days and advance_notice_hours >= 0"]

def UnitInput.apply (texts : Texts) (b : UnitInput) (u : UnitRecord) : Except String UnitRecord :=
  problemsErr (b.problems texts (b.edit u)).flatten (b.edit u)

/-! ### Compounds -/

structure CompoundInput where
  areaId : Field ℕ := .absent
  slug : Field String := .absent
  nameAr : Field String := .absent
  nameEn : Field String := .absent
  descriptionAr : Field String := .absent
  descriptionEn : Field String := .absent
  amenities : Field (List String) := .absent
  beachType : Field (EnumText BeachType) := .absent
  gateInfoAr : Field String := .absent
  gateInfoEn : Field String := .absent
  lat : Field ℚ := .absent
  lng : Field ℚ := .absent
  coverImageUrl : Field String := .absent
  isFeatured : Field Bool := .absent
  deriving DecidableEq

def CompoundInput.edit (b : CompoundInput) (c : CompoundRecord) : CompoundRecord where
  id := c.id
  areaId := setField c.areaId (b.areaId.map some)
  slug := setField c.slug b.slug
  nameAr := trimSpace (setField c.nameAr b.nameAr)
  nameEn := trimSpace (setField c.nameEn b.nameEn)
  descriptionAr := trimSpace (setField c.descriptionAr b.descriptionAr)
  descriptionEn := trimSpace (setField c.descriptionEn b.descriptionEn)
  amenities := normalizeAmenities (setField c.amenities b.amenities)
  beachType := setField c.beachType b.beachType
  gateInfoAr := blankToNil (setNullable c.gateInfoAr b.gateInfoAr)
  gateInfoEn := blankToNil (setNullable c.gateInfoEn b.gateInfoEn)
  lat := setCoord c.lat 90 b.lat
  lng := setCoord c.lng 180 b.lng
  coverImageUrl := blankToNil (setNullable c.coverImageUrl b.coverImageUrl)
  isFeatured := setField c.isFeatured b.isFeatured

def CompoundInput.problems (texts : Texts) (b : CompoundInput) (c : CompoundRecord) :
    List (List String) :=
  [fieldProblem "area_id" b.areaId,
    fieldProblem "slug" b.slug,
    fieldProblem "name_ar" b.nameAr,
    fieldProblem "name_en" b.nameEn,
    fieldProblem "description_ar" b.descriptionAr,
    fieldProblem "description_en" b.descriptionEn,
    fieldProblem "amenities" b.amenities,
    fieldProblem "beach_type" b.beachType,
    coordProblem "lat" 90 b.lat,
    coordProblem "lng" 180 b.lng,
    fieldProblem "is_featured" b.isFeatured,
    problem (c.areaId = none) "area_id is required",
    requirePair "name" c.nameAr c.nameEn,
    requirePair "description" c.descriptionAr c.descriptionEn,
    checkEnum texts "beach_type" c.beachType]

def CompoundInput.apply (texts : Texts) (b : CompoundInput) (c : CompoundRecord) :
    Except String CompoundRecord :=
  problemsErr (b.problems texts (b.edit c)).flatten (b.edit c)

/-! ### Areas -/

structure AreaInput where
  slug : Field String := .absent
  nameAr : Field String := .absent
  nameEn : Field String := .absent
  region : Field (EnumText Region) := .absent
  kmMarker : Field Int32 := .absent
  sortOrder : Field Int32 := .absent
  deriving DecidableEq

def AreaInput.edit (b : AreaInput) (a : AreaRecord) : AreaRecord where
  id := a.id
  slug := setField a.slug b.slug
  nameAr := trimSpace (setField a.nameAr b.nameAr)
  nameEn := trimSpace (setField a.nameEn b.nameEn)
  region := setField a.region b.region
  kmMarker := setNullable a.kmMarker b.kmMarker
  sortOrder := setField a.sortOrder b.sortOrder

def AreaInput.problems (texts : Texts) (b : AreaInput) (a : AreaRecord) : List (List String) :=
  [fieldProblem "slug" b.slug,
    fieldProblem "name_ar" b.nameAr,
    fieldProblem "name_en" b.nameEn,
    fieldProblem "region" b.region,
    fieldProblem "sort_order" b.sortOrder,
    requirePair "name" a.nameAr a.nameEn,
    checkEnum texts "region" a.region,
    problem (∃ n ∈ a.kmMarker, n < 0) "km_marker must be >= 0"]

def AreaInput.apply (texts : Texts) (b : AreaInput) (a : AreaRecord) : Except String AreaRecord :=
  problemsErr (b.problems texts (b.edit a)).flatten (b.edit a)

/-! ### Owners -/

structure OwnerInput where
  name : Field String := .absent
  phone : Field String := .absent
  email : Field String := .absent
  nationalId : Field String := .absent
  notes : Field String := .absent
  commissionPct : Field Int16 := .absent
  deriving DecidableEq

def OwnerInput.edit (b : OwnerInput) (o : OwnerRecord) : OwnerRecord where
  id := o.id
  name := trimSpace (setField o.name b.name)
  phone := trimSpace (setField o.phone b.phone)
  email := blankToNil (setNullable o.email b.email)
  nationalId := blankToNil (setNullable o.nationalId b.nationalId)
  notes := blankToNil (setNullable o.notes b.notes)
  commissionPct := setField o.commissionPct b.commissionPct

def OwnerInput.problems (b : OwnerInput) (o : OwnerRecord) : List (List String) :=
  [fieldProblem "name" b.name,
    fieldProblem "phone" b.phone,
    fieldProblem "commission_pct" b.commissionPct,
    requireText "name" o.name,
    requireText "phone" o.phone,
    problem (o.commissionPct < 0 ∨ 100 < o.commissionPct) "commission_pct must be between 0 and 100"]

def OwnerInput.apply (b : OwnerInput) (o : OwnerRecord) : Except String OwnerRecord :=
  problemsErr (b.problems (b.edit o)).flatten (b.edit o)

/-! ### The handlers -/

@[reducible] def Kind.Input : Kind → Type
  | .unit => UnitInput
  | .compound => CompoundInput
  | .area => AreaInput
  | .owner => OwnerInput

/-- What the handlers call the entity in their errors. -/
def Kind.what : Kind → String
  | .unit => "unit"
  | .compound => "compound"
  | .area => "area"
  | .owner => "owner"

def Kind.apply (texts : Texts) : (k : Kind) → k.Input → k.Record → Except String k.Record
  | .unit, b, r => UnitInput.apply texts b r
  | .compound, b, r => CompoundInput.apply texts b r
  | .area, b, r => AreaInput.apply texts b r
  | .owner, b, r => OwnerInput.apply b r

/-- The slug a handler checks once the body is applied; owners have none. -/
def Kind.checked (texts : Texts) : (k : Kind) → k.Record → Except String PUnit
  | .unit, r => checkSlug texts (UnitRecord.slug r)
  | .compound, r => checkSlug texts (CompoundRecord.slug r)
  | .area, r => checkSlug texts (AreaRecord.slug r)
  | .owner, _ => .ok ⟨⟩

abbrev AllStmt : Type := Stmt ⊕ CatalogueStmt

abbrev AllVal : AllStmt → Type := Sum.elim Stmt.Val CatalogueStmt.Val

abbrev AdminHandler : Type → Type := Prog AllStmt AllVal PgError ApiError

def adminGet (k : Kind) (id : ℕ) : AdminHandler k.Record := do
  let row ← Prog.query (fun e => writeStoreError k.what (.pg e)) (Sum.inr (.adminGet k id) : AllStmt)
  Prog.require row (writeStoreError k.what .noRows)

def adminUpdate (k : Kind) (arg : k.Params) : AdminHandler k.Record := do
  let row ← Prog.query (fun e => writeStoreError k.what (.pg e)) (Sum.inr (.adminUpdate k arg) : AllStmt)
  Prog.require row (writeStoreError k.what .noRows)

/-- Reads the row, applies the body, writes every column back.  A parameter Postgres would not read
is an error of the update like any other. -/
def adminPatch (texts : Texts) (k : Kind) (param : Option ℕ) (body : k.Input) :
    AdminHandler k.Record := do
  let id ← Prog.require param ⟨404, "not_found", k.what ++ " not found"⟩
  let row ← adminGet k id
  let row ← Prog.check (k.apply texts body row) writeInvalid
  let _ ← Prog.check (k.checked texts row) writeInvalid
  let arg ← Prog.require (k.params? row) (internalError k.what)
  adminUpdate k arg

def adminPatchUnit (texts : Texts) (param : Option ℕ) (body : UnitInput) : AdminHandler UnitRecord :=
  adminPatch texts .unit param body

def adminPatchCompound (texts : Texts) (param : Option ℕ) (body : CompoundInput) :
    AdminHandler CompoundRecord :=
  adminPatch texts .compound param body

def adminPatchArea (texts : Texts) (param : Option ℕ) (body : AreaInput) : AdminHandler AreaRecord :=
  adminPatch texts .area param body

def adminPatchOwner (texts : Texts) (param : Option ℕ) (body : OwnerInput) : AdminHandler OwnerRecord :=
  adminPatch texts .owner param body

/-! ### The system -/

/-- A PATCH of one of the four. -/
structure PatchReq where
  kind : Kind
  param : Option ℕ
  body : kind.Input

/-- Every request: those of the bookings, and the edits of the catalogue. -/
abbrev AllReq : Type := Req ⊕ PatchReq

abbrev AllResponse : Type := Response ⊕ ((k : Kind) × k.Record)

/-- The handler of an edit. -/
def patchProgram (texts : Texts) (r : PatchReq) : AdminHandler ((k : Kind) × k.Record) :=
  (fun row => ⟨r.kind, row⟩) <$> adminPatch texts r.kind r.param r.body

/-- The handler of a request. -/
def fullProgram (srv : Server) (texts : Texts) : AllReq → AdminHandler AllResponse :=
  Extra.system (program srv) (patchProgram texts)

/-- Postgres with all its tables. -/
abbrev fullPostgres : Database Rows (Write ⊕ CatalogueWrite) (Lock ⊕ CatalogueLock) PgError Oracle
    AllStmt AllVal := catalogue.database

/-- A state of the whole running system. -/
abbrev FullSys : Type :=
  State Rows (Write ⊕ CatalogueWrite) (Lock ⊕ CatalogueLock) PgError AllStmt AllVal AllReq ApiError
    AllResponse

/-- A state with what each transaction has run. -/
abbrev FullLog : Type :=
  Logged Rows (Write ⊕ CatalogueWrite) (Lock ⊕ CatalogueLock) PgError Oracle AllStmt AllVal AllReq
    ApiError AllResponse

/-- The states reached from `d₀`, with nobody connected, by any interleaving of requests and edits. -/
abbrev FullReaches (srv : Server) (texts : Texts) (d₀ : Rows) (s : FullSys) : Prop :=
  Reachable fullPostgres (fullProgram srv texts) anyCommit d₀ s

end Sahel

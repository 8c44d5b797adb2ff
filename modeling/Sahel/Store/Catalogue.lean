import Sahel.Library.Extension
import Sahel.Store.Postgres
import Sahel.Http.AdminInput

/-!
# The catalogue: units in full, compounds, areas and owners

What the admin edits: the columns of `units` that bookings do not read, and the tables behind them.

* A row type is a table's row; a record is the Go struct sqlc scans it into, whose enum columns are
  strings and whose references may be missing while a body is being applied;
* `Kind` is one of the four tables, and `Kind.find` and `Kind.update` are its `AdminGet…`
  and `AdminUpdate…` queries;
* `catalogue` adds the tables and queries to those the bookings use.

An update writes every column.  Creation and update times are left out, as everywhere.
-/

set_option autoImplicit false

namespace Sahel

open KeyedTable ReadCommitted

/-! ### Rows -/

inductive UnitType where
  | chalet
  | villa
  | twin
  | town
  | penthouse
  | studio
  | apartment
  deriving DecidableEq, Repr

inductive UnitView where
  | sea
  | lagoon
  | pool
  | garden
  | street
  deriving DecidableEq, Repr

inductive BeachType where
  | sea
  | lagoon
  | both
  | none
  deriving DecidableEq, Repr

inductive Region where
  | northCoast
  | sokhna
  | gouna
  | rasSudr
  | newCairo
  deriving DecidableEq, Repr

/-- The columns of `units` that pricing and booking do not read. -/
structure UnitDetails where
  ownerId : ℕ
  compoundId : ℕ
  titleAr : String
  titleEn : String
  descriptionAr : String
  descriptionEn : String
  houseRulesAr : Option String
  houseRulesEn : Option String
  type : UnitType
  bedrooms : Int16
  bathrooms : Int16
  baseGuests : Int16
  areaSqm : Option Int32
  floor : Option Int16
  seaDistanceM : Int32
  view : UnitView
  rowNumber : Option Int16
  amenities : List String
  lat : Option ℤ
  lng : Option ℤ
  exactAddress : Option String
  deriving DecidableEq

structure CompoundRow where
  id : ℕ
  areaId : ℕ
  slug : String
  nameAr : String
  nameEn : String
  descriptionAr : String
  descriptionEn : String
  amenities : List String
  beachType : BeachType
  gateInfoAr : Option String
  gateInfoEn : Option String
  lat : Option ℤ
  lng : Option ℤ
  coverImageUrl : Option String
  isFeatured : Bool
  deriving DecidableEq

structure AreaRow where
  id : ℕ
  slug : String
  nameAr : String
  nameEn : String
  region : Region
  kmMarker : Option Int32
  sortOrder : Int32
  deriving DecidableEq

structure OwnerRow where
  id : ℕ
  name : String
  phone : String
  email : Option String
  nationalId : Option String
  notes : Option String
  commissionPct : Int16
  commission_check : 0 ≤ commissionPct ∧ commissionPct ≤ 100
  deriving DecidableEq

/-- The rows next to those of the bookings; every unit has its details. -/
structure Catalogue where
  details : ℕ → UnitDetails
  compounds : Table ℕ CompoundRow CompoundRow.id
  areas : Table ℕ AreaRow AreaRow.id
  owners : Table ℕ OwnerRow OwnerRow.id

/-! ### Records -/

/-- `db.Unit`. -/
structure UnitRecord where
  id : ℕ
  ownerId : Option ℕ
  compoundId : Option ℕ
  slug : String
  titleAr : String
  titleEn : String
  descriptionAr : String
  descriptionEn : String
  houseRulesAr : Option String
  houseRulesEn : Option String
  type : EnumText UnitType
  bedrooms : Int16
  bathrooms : Int16
  baseGuests : Int16
  maxGuests : Int16
  areaSqm : Option Int32
  floor : Option Int16
  seaDistanceM : Int32
  view : EnumText UnitView
  rowNumber : Option Int16
  amenities : List String
  lat : Option ℤ
  lng : Option ℤ
  exactAddress : Option String
  status : EnumText UnitStatus
  nightlyPrice : Option Int64
  bufferDays : Int16
  advanceNoticeHours : Int32
  maxAdvanceDays : Int32
  deriving DecidableEq

/-- `db.Compound`. -/
structure CompoundRecord where
  id : ℕ
  areaId : Option ℕ
  slug : String
  nameAr : String
  nameEn : String
  descriptionAr : String
  descriptionEn : String
  amenities : List String
  beachType : EnumText BeachType
  gateInfoAr : Option String
  gateInfoEn : Option String
  lat : Option ℤ
  lng : Option ℤ
  coverImageUrl : Option String
  isFeatured : Bool
  deriving DecidableEq

/-- `db.Area`. -/
structure AreaRecord where
  id : ℕ
  slug : String
  nameAr : String
  nameEn : String
  region : EnumText Region
  kmMarker : Option Int32
  sortOrder : Int32
  deriving DecidableEq

/-- `db.Owner`. -/
structure OwnerRecord where
  id : ℕ
  name : String
  phone : String
  email : Option String
  nationalId : Option String
  notes : Option String
  commissionPct : Int16
  deriving DecidableEq

/-- The parameters of `AdminUpdateUnit`, as Postgres reads them. -/
structure AdminUpdateUnitParams where
  id : ℕ
  slug : String
  status : UnitStatus
  nightlyPrice : Option Int64
  maxGuests : Int16
  bufferDays : Int16
  advanceNoticeHours : Int32
  maxAdvanceDays : Int32
  details : UnitDetails
  deriving DecidableEq

/-- The row `units` would store, once its CHECK constraints hold. -/
def AdminUpdateUnitParams.row (arg : AdminUpdateUnitParams) : Except PgError UnitRow :=
  let refuse (constraint : String) := Except.error (.checkViolation "units" constraint)
  if notice : 0 ≤ arg.advanceNoticeHours.toInt then
    if buffer : 0 ≤ arg.bufferDays.toInt then
      if advance : 1 ≤ arg.maxAdvanceDays.toInt then
        if price : arg.nightlyPrice.all (fun p => decide (0 < p)) = true then
          .ok {
            id := arg.id, slug := arg.slug, status := arg.status, nightlyPrice := arg.nightlyPrice
            maxGuests := arg.maxGuests.toInt, bufferDays := arg.bufferDays.toInt
            advanceNoticeHours := arg.advanceNoticeHours.toInt
            maxAdvanceDays := arg.maxAdvanceDays.toInt
            price_pos := fun p hp => by simpa [Option.mem_def.mp hp] using price
            guests_smallint := ⟨arg.maxGuests.le_toInt, arg.maxGuests.toInt_lt⟩
            buffer_check := ⟨buffer, arg.bufferDays.toInt_lt⟩
            notice_check := ⟨notice, arg.advanceNoticeHours.toInt_lt⟩
            advance_check := ⟨advance, arg.maxAdvanceDays.toInt_lt⟩ }
        else refuse "units_nightly_price_check"
      else refuse "units_max_advance_days_check"
    else refuse "units_buffer_days_check"
  else refuse "units_advance_notice_hours_check"

/-- A unit's row and details, scanned. -/
def UnitRow.params (u : UnitRow) (d : UnitDetails) : AdminUpdateUnitParams where
  id := u.id
  slug := u.slug
  status := u.status
  nightlyPrice := u.nightlyPrice
  maxGuests := Int16.ofInt u.maxGuests
  bufferDays := Int16.ofInt u.bufferDays
  advanceNoticeHours := Int32.ofInt u.advanceNoticeHours
  maxAdvanceDays := Int32.ofInt u.maxAdvanceDays
  details := d

/-- A stored row scans to what was stored. -/
theorem AdminUpdateUnitParams.params_row {arg : AdminUpdateUnitParams} {u : UnitRow}
    (h : arg.row = .ok u) : u.params arg.details = arg ∧ u.id = arg.id ∧ u.slug = arg.slug := by
  simp only [AdminUpdateUnitParams.row] at h
  split_ifs at h
  cases h
  refine ⟨?_, rfl, rfl⟩
  simp [UnitRow.params]

/-! ### Scanning and storing -/

/-- The struct of a unit's columns. -/
def AdminUpdateUnitParams.record (p : AdminUpdateUnitParams) : UnitRecord where
  id := p.id
  ownerId := some p.details.ownerId
  compoundId := some p.details.compoundId
  slug := p.slug
  titleAr := p.details.titleAr
  titleEn := p.details.titleEn
  descriptionAr := p.details.descriptionAr
  descriptionEn := p.details.descriptionEn
  houseRulesAr := p.details.houseRulesAr
  houseRulesEn := p.details.houseRulesEn
  type := .known p.details.type
  bedrooms := p.details.bedrooms
  bathrooms := p.details.bathrooms
  baseGuests := p.details.baseGuests
  maxGuests := p.maxGuests
  areaSqm := p.details.areaSqm
  floor := p.details.floor
  seaDistanceM := p.details.seaDistanceM
  view := .known p.details.view
  rowNumber := p.details.rowNumber
  amenities := p.details.amenities
  lat := p.details.lat
  lng := p.details.lng
  exactAddress := p.details.exactAddress
  status := .known p.status
  nightlyPrice := p.nightlyPrice
  bufferDays := p.bufferDays
  advanceNoticeHours := p.advanceNoticeHours
  maxAdvanceDays := p.maxAdvanceDays

/-- The parameters sent for a unit; none when Postgres would not read one of them. -/
def UnitRecord.params? (u : UnitRecord) : Option AdminUpdateUnitParams := do
  let ownerId ← u.ownerId
  let compoundId ← u.compoundId
  let type ← u.type.known?
  let view ← u.view.known?
  let status ← u.status.known?
  return {
    id := u.id, slug := u.slug, status := status, nightlyPrice := u.nightlyPrice
    maxGuests := u.maxGuests, bufferDays := u.bufferDays
    advanceNoticeHours := u.advanceNoticeHours, maxAdvanceDays := u.maxAdvanceDays
    details := {
      ownerId := ownerId, compoundId := compoundId, titleAr := u.titleAr, titleEn := u.titleEn
      descriptionAr := u.descriptionAr, descriptionEn := u.descriptionEn
      houseRulesAr := u.houseRulesAr, houseRulesEn := u.houseRulesEn, type := type
      bedrooms := u.bedrooms, bathrooms := u.bathrooms, baseGuests := u.baseGuests
      areaSqm := u.areaSqm, floor := u.floor, seaDistanceM := u.seaDistanceM, view := view
      rowNumber := u.rowNumber, amenities := u.amenities, lat := u.lat, lng := u.lng
      exactAddress := u.exactAddress } }

def CompoundRow.record (c : CompoundRow) : CompoundRecord where
  id := c.id
  areaId := some c.areaId
  slug := c.slug
  nameAr := c.nameAr
  nameEn := c.nameEn
  descriptionAr := c.descriptionAr
  descriptionEn := c.descriptionEn
  amenities := c.amenities
  beachType := .known c.beachType
  gateInfoAr := c.gateInfoAr
  gateInfoEn := c.gateInfoEn
  lat := c.lat
  lng := c.lng
  coverImageUrl := c.coverImageUrl
  isFeatured := c.isFeatured

def CompoundRecord.params? (c : CompoundRecord) : Option CompoundRow := do
  let areaId ← c.areaId
  let beachType ← c.beachType.known?
  return {
    id := c.id, areaId := areaId, slug := c.slug, nameAr := c.nameAr, nameEn := c.nameEn
    descriptionAr := c.descriptionAr, descriptionEn := c.descriptionEn, amenities := c.amenities
    beachType := beachType, gateInfoAr := c.gateInfoAr, gateInfoEn := c.gateInfoEn
    lat := c.lat, lng := c.lng, coverImageUrl := c.coverImageUrl, isFeatured := c.isFeatured }

def AreaRow.record (a : AreaRow) : AreaRecord where
  id := a.id
  slug := a.slug
  nameAr := a.nameAr
  nameEn := a.nameEn
  region := .known a.region
  kmMarker := a.kmMarker
  sortOrder := a.sortOrder

def AreaRecord.params? (a : AreaRecord) : Option AreaRow := do
  let region ← a.region.known?
  return {
    id := a.id, slug := a.slug, nameAr := a.nameAr, nameEn := a.nameEn, region := region
    kmMarker := a.kmMarker, sortOrder := a.sortOrder }

def OwnerRow.record (o : OwnerRow) : OwnerRecord where
  id := o.id
  name := o.name
  phone := o.phone
  email := o.email
  nationalId := o.nationalId
  notes := o.notes
  commissionPct := o.commissionPct

/-- The row `owners` would store, once its CHECK constraint holds. -/
def OwnerRecord.row (o : OwnerRecord) : Except PgError OwnerRow :=
  if commission : 0 ≤ o.commissionPct ∧ o.commissionPct ≤ 100 then
    .ok {
      id := o.id, name := o.name, phone := o.phone, email := o.email, nationalId := o.nationalId
      notes := o.notes, commissionPct := o.commissionPct, commission_check := commission }
  else .error (.checkViolation "owners" "owners_commission_pct_check")

theorem OwnerRecord.record_row {o : OwnerRecord} {row : OwnerRow} (h : o.row = .ok row) :
    row.record = o ∧ row.id = o.id := by
  unfold OwnerRecord.row at h
  split_ifs at h
  cases h
  exact ⟨rfl, rfl⟩

theorem UnitRecord.record_params {u : UnitRecord} {p : AdminUpdateUnitParams}
    (h : u.params? = some p) : p.record = u := by
  obtain ⟨id, ownerId, compoundId, slug, _, _, _, _, _, _, type, _, _, _, _, _, _, _, view, _, _, _, _,
    _, status, _, _, _, _⟩ := u
  cases ownerId <;> cases compoundId <;> cases type <;> cases view <;> cases status <;> cases h
  rfl

theorem CompoundRecord.record_params {c : CompoundRecord} {p : CompoundRow}
    (h : c.params? = some p) : p.record = c := by
  obtain ⟨id, areaId, _, _, _, _, _, _, beachType, _, _, _, _, _, _⟩ := c
  cases areaId <;> cases beachType <;> cases h
  rfl

theorem AreaRecord.record_params {a : AreaRecord} {p : AreaRow} (h : a.params? = some p) :
    p.record = a := by
  obtain ⟨id, _, _, _, region, _, _⟩ := a
  cases region <;> cases h
  rfl

/-! ### The four tables -/

/-- A table of the catalogue. -/
inductive Kind where
  | unit
  | compound
  | area
  | owner
  deriving DecidableEq, Repr

@[reducible] def Kind.Record : Kind → Type
  | .unit => UnitRecord
  | .compound => CompoundRecord
  | .area => AreaRecord
  | .owner => OwnerRecord

/-- What an update sends. -/
@[reducible] def Kind.Params : Kind → Type
  | .unit => AdminUpdateUnitParams
  | .compound => CompoundRow
  | .area => AreaRow
  | .owner => OwnerRecord

def Kind.params? : (k : Kind) → k.Record → Option k.Params
  | .unit, r => UnitRecord.params? r
  | .compound, r => CompoundRecord.params? r
  | .area, r => AreaRecord.params? r
  | .owner, r => some r

/-- The struct of what was sent. -/
def Kind.record : (k : Kind) → k.Params → k.Record
  | .unit, p => AdminUpdateUnitParams.record p
  | .compound, p => CompoundRow.record p
  | .area, p => AreaRow.record p
  | .owner, p => p

def Kind.id : (k : Kind) → k.Params → ℕ
  | .unit, p => AdminUpdateUnitParams.id p
  | .compound, p => CompoundRow.id p
  | .area, p => AreaRow.id p
  | .owner, p => OwnerRecord.id p

theorem Kind.record_params {k : Kind} {r : k.Record} {p : k.Params} (h : k.params? r = some p) :
    k.record p = r := by
  cases k with
  | unit => exact UnitRecord.record_params h
  | compound => exact CompoundRecord.record_params h
  | area => exact AreaRecord.record_params h
  | owner => exact (Option.some.inj h).symm

end Sahel

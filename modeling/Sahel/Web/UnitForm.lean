import Sahel.Http.AdminCatalogue
import Sahel.Web.Numerals

/-!
# The unit form

The way of a unit's columns through the dashboard's edit page and back: the JSON that the page reads,
the fields of `unit-form.tsx` with the map of `location-picker.tsx`, the values a browser submits of
fields that nobody touched, the `payload` of `units/actions.ts`, and the body as the API decodes it.

How ids are written, and which digits the engine chooses for a number, is a `Wire`.
-/

set_option autoImplicit false

namespace Sahel

open Binary64

/-! ### Enums as texts -/

def UnitStatus.all : List UnitStatus := [.draft, .active, .paused, .archived]

def UnitStatus.text : UnitStatus → String
  | .draft => "draft"
  | .active => "active"
  | .paused => "paused"
  | .archived => "archived"

def UnitType.all : List UnitType := [.chalet, .villa, .twin, .town, .penthouse, .studio, .apartment]

def UnitType.text : UnitType → String
  | .chalet => "chalet"
  | .villa => "villa"
  | .twin => "twin"
  | .town => "town"
  | .penthouse => "penthouse"
  | .studio => "studio"
  | .apartment => "apartment"

def UnitView.all : List UnitView := [.sea, .lagoon, .pool, .garden, .street]

def UnitView.text : UnitView → String
  | .sea => "sea"
  | .lagoon => "lagoon"
  | .pool => "pool"
  | .garden => "garden"
  | .street => "street"

/-- The text of an enum column. -/
def EnumText.text {α : Type} (text : α → String) : EnumText α → String
  | .known a => text a
  | .unknown t => t

/-- A text as an enum. -/
def EnumText.read {α : Type} (all : List α) (text : α → String) (t : String) : EnumText α :=
  match all.find? (fun a => text a == t) with
  | some a => .known a
  | none => .unknown t

namespace Web

/-! ### What is outside -/

/-- How ids and numbers are written and read. -/
structure Wire where
  uuidString : ℕ → String
  parseUUID : String → Option ℕ
  /-- `String(x)` -/
  numberString : ℚ → String

/-- Ids are read as they are written, and numbers are written as the language has it. -/
structure Wire.Lawful (w : Wire) : Prop where
  uuid_back : ∀ n, w.parseUUID (w.uuidString n) = some n
  uuid_plain : ∀ n, trim (w.uuidString n) = w.uuidString n ∧ w.uuidString n ≠ ""
  number : ∀ x t, Written x t → Written x (w.numberString x)

/-! ### The page -/

/-- What the edit page has read: the unit, the owners and compounds to choose from, and whether the map
has loaded. -/
structure UnitPage where
  unit : UnitRecord
  owners : List ℕ
  compounds : List ℕ
  mapLoaded : Bool

/-- `AdminListCompounds` joins the area of each. -/
def editUnitPage (id : ℕ) (mapLoaded : Bool) (d : Rows) : Option UnitPage :=
  (Kind.find .unit id d).map (fun u =>
    { unit := u, owners := d.2.owners.rows.map OwnerRow.id
      compounds := (d.2.compounds.rows.filter (fun c => (d.2.areas.find? c.areaId).isSome)).map CompoundRow.id
      mapLoaded := mapLoaded })

/-- A NUMERIC(9,6) as `JSON.parse` reads it. -/
def degrees (z : ℤ) : ℚ := double (z * 10 ^ (-(6 : ℕ) : ℤ))

/-- `Math.round(n * 1e6) / 1e6`. -/
def round6 (n : ℚ) : ℚ := double (⌊double (n * 10 ^ 6) + 1 / 2⌋ / 10 ^ 6)

/-- The pin, if both coordinates are there; once the map has loaded it has been placed. -/
def point (p : UnitPage) : Option (ℚ × ℚ) := do
  let lat ← p.unit.lat
  let lng ← p.unit.lng
  let place (n : ℚ) := if p.mapLoaded then round6 n else n
  return (place (degrees lat), place (degrees lng))

/-- Piasters as pounds: the JSON's number over a hundred. -/
def pricePounds (p : Int64) : ℚ := double (double p.toInt / 100)

/-! ### Submitted values -/

/-- A single-line field holds no line break. -/
def inputValue (s : String) : String := String.ofList (s.toList.filter (fun c => c != '\n' && c != '\r'))

def lineFeeds : List Char → List Char
  | '\r' :: '\n' :: s => '\n' :: lineFeeds s
  | '\r' :: s => '\n' :: lineFeeds s
  | c :: s => c :: lineFeeds s
  | [] => []

/-- A text area's line breaks are sent as carriage return and line feed. -/
def areaValue (s : String) : String :=
  String.ofList ((lineFeeds s.toList).flatMap (fun c => if c = '\n' then ['\r', '\n'] else [c]))

/-- A choice whose value is not among the options is sent blank. -/
def selected (options : List String) (value : String) : String := if value ∈ options then value else ""

/-- The form as it is submitted when nobody touched it. -/
def unitForm (w : Wire) (p : UnitPage) : FormData :=
  let u := p.unit
  let id (n : Option ℕ) := (n.map w.uuidString).getD ""
  let number (x : Option ℚ) := (x.map w.numberString).getD ""
  fun key => match key with
  | "compound_id" => some (selected (p.compounds.map w.uuidString) (id u.compoundId))
  | "owner_id" => some (selected (p.owners.map w.uuidString) (id u.ownerId))
  | "status" => some (selected (UnitStatus.all.map UnitStatus.text) (u.status.text UnitStatus.text))
  | "type" => some (selected (UnitType.all.map UnitType.text) (u.type.text UnitType.text))
  | "title_ar" => some (inputValue u.titleAr)
  | "title_en" => some (inputValue u.titleEn)
  | "slug" => some (inputValue u.slug)
  | "description_ar" => some (areaValue u.descriptionAr)
  | "description_en" => some (areaValue u.descriptionEn)
  | "bedrooms" => some (number (u.bedrooms.toInt : ℚ))
  | "bathrooms" => some (number (u.bathrooms.toInt : ℚ))
  | "base_guests" => some (number (u.baseGuests.toInt : ℚ))
  | "max_guests" => some (number (u.maxGuests.toInt : ℚ))
  | "area_sqm" => some (number (u.areaSqm.map (fun n => (n.toInt : ℚ))))
  | "nightly_price" => some (number (u.nightlyPrice.map pricePounds))
  | "advance_notice_hours" => some (number (u.advanceNoticeHours.toInt : ℚ))
  | "max_advance_days" => some (number (u.maxAdvanceDays.toInt : ℚ))
  | "buffer_days" => some (number (u.bufferDays.toInt : ℚ))
  | "sea_distance_m" => some (number (u.seaDistanceM.toInt : ℚ))
  | "row_number" => some (number (u.rowNumber.map (fun n => (n.toInt : ℚ))))
  | "view" => some (selected (UnitView.all.map UnitView.text) (u.view.text UnitView.text))
  | "floor" => some (number (u.floor.map (fun n => (n.toInt : ℚ))))
  | "lat" => some (number ((point p).map Prod.fst))
  | "lng" => some (number ((point p).map Prod.snd))
  | "amenities" => some (inputValue (shownAmenities u.amenities))
  | "house_rules_ar" => some (areaValue (u.houseRulesAr.getD ""))
  | "house_rules_en" => some (areaValue (u.houseRulesEn.getD ""))
  | "exact_address" => some (areaValue (u.exactAddress.getD ""))
  | _ => none

/-! ### The payload -/

/-- A number of the payload: infinities and what is no number are null in JSON. -/
abbrev Number : Type := Option ℚ

/-- Left out when blank. -/
def optional (fd : FormData) (key : String) : Option String :=
  if text fd key = "" then none else some (text fd key)

/-- Null when blank. -/
def ref (fd : FormData) (key : String) : Option String :=
  if text fd key = "" then none else some (text fd key)

/-- Left out when blank. -/
def int (fd : FormData) (key : String) : Option Number :=
  if text fd key = "" then none else some (toNumber (text fd key))

/-- Null when blank. -/
def nullableNumber (fd : FormData) (key : String) : Number :=
  if text fd key = "" then none else toNumber (text fd key)

structure UnitBody where
  ownerId : Option String
  compoundId : Option String
  slug : Option String
  titleAr : String
  titleEn : String
  descriptionAr : String
  descriptionEn : String
  houseRulesAr : String
  houseRulesEn : String
  type : String
  view : String
  status : String
  bedrooms : Option Number
  bathrooms : Option Number
  baseGuests : Option Number
  maxGuests : Option Number
  seaDistanceM : Option Number
  areaSqm : Number
  floor : Number
  rowNumber : Number
  amenities : List String
  lat : Number
  lng : Number
  exactAddress : String
  nightlyPrice : Option (WithTop ℕ)
  bufferDays : Option Number
  advanceNoticeHours : Option Number
  maxAdvanceDays : Option Number

/-- `payload` of `units/actions.ts`. -/
def unitPayload (fd : FormData) : UnitBody where
  ownerId := ref fd "owner_id"
  compoundId := ref fd "compound_id"
  slug := optional fd "slug"
  titleAr := text fd "title_ar"
  titleEn := text fd "title_en"
  descriptionAr := text fd "description_ar"
  descriptionEn := text fd "description_en"
  houseRulesAr := text fd "house_rules_ar"
  houseRulesEn := text fd "house_rules_en"
  type := text fd "type"
  view := text fd "view"
  status := text fd "status"
  bedrooms := int fd "bedrooms"
  bathrooms := int fd "bathrooms"
  baseGuests := int fd "base_guests"
  maxGuests := int fd "max_guests"
  seaDistanceM := int fd "sea_distance_m"
  areaSqm := nullableNumber fd "area_sqm"
  floor := nullableNumber fd "floor"
  rowNumber := nullableNumber fd "row_number"
  amenities := list fd "amenities"
  lat := nullableNumber fd "lat"
  lng := nullableNumber fd "lng"
  exactAddress := text fd "exact_address"
  nightlyPrice := nullablePiasters fd "nightly_price"
  bufferDays := int fd "buffer_days"
  advanceNoticeHours := int fd "advance_notice_hours"
  maxAdvanceDays := int fd "max_advance_days"

/-! ### The body as it is decoded -/

/-- A JSON number as an int16: digits, in range. -/
def readInt16 (t : String) : Option Int16 :=
  (signedDigits t.toList).bind (fun n =>
    if -2 ^ 15 ≤ n ∧ n < 2 ^ 15 then some (Int16.ofInt n) else none)

def readInt32 (t : String) : Option Int32 :=
  (signedDigits t.toList).bind (fun n =>
    if -2 ^ 31 ≤ n ∧ n < 2 ^ 31 then some (Int32.ofInt n) else none)

def readInt64 (t : String) : Option Int64 :=
  (signedDigits t.toList).bind (fun n =>
    if -2 ^ 63 ≤ n ∧ n < 2 ^ 63 then some (Int64.ofInt n) else none)

/-- A null or a number, `read` by its type. -/
def decodeNumber {α : Type} (w : Wire) (read : String → Option α) : Number → Option (Field α)
  | none => some .null
  | some x => (read (w.numberString x)).map .value

/-- A number that may be left out. -/
def decodeOptional {α : Type} (w : Wire) (read : String → Option α) : Option Number → Option (Field α)
  | none => some .absent
  | some x => decodeNumber w read x

/-- A null or an id. -/
def decodeRef (w : Wire) : Option String → Option (Field ℕ)
  | none => some .null
  | some t => (w.parseUUID t).map .value

/-- The body, where every member decodes. -/
def decodeUnit (w : Wire) (b : UnitBody) : Option UnitInput := do
  let ownerId ← decodeRef w b.ownerId
  let compoundId ← decodeRef w b.compoundId
  let bedrooms ← decodeOptional w readInt16 b.bedrooms
  let bathrooms ← decodeOptional w readInt16 b.bathrooms
  let baseGuests ← decodeOptional w readInt16 b.baseGuests
  let maxGuests ← decodeOptional w readInt16 b.maxGuests
  let areaSqm ← decodeNumber w readInt32 b.areaSqm
  let floor ← decodeNumber w readInt16 b.floor
  let seaDistanceM ← decodeOptional w readInt32 b.seaDistanceM
  let rowNumber ← decodeNumber w readInt16 b.rowNumber
  let lat ← decodeNumber w toNumber b.lat
  let lng ← decodeNumber w toNumber b.lng
  let nightlyPrice ← decodePrice (fun n => readInt64 (w.numberString n)) (stringify b.nightlyPrice)
  let bufferDays ← decodeOptional w readInt16 b.bufferDays
  let advanceNoticeHours ← decodeOptional w readInt32 b.advanceNoticeHours
  let maxAdvanceDays ← decodeOptional w readInt32 b.maxAdvanceDays
  return {
    ownerId := ownerId, compoundId := compoundId
    slug := match b.slug with
      | none => .absent
      | some t => .value t
    titleAr := .value b.titleAr, titleEn := .value b.titleEn
    descriptionAr := .value b.descriptionAr, descriptionEn := .value b.descriptionEn
    houseRulesAr := .value b.houseRulesAr, houseRulesEn := .value b.houseRulesEn
    type := .value (EnumText.read UnitType.all UnitType.text b.type)
    bedrooms := bedrooms, bathrooms := bathrooms, baseGuests := baseGuests, maxGuests := maxGuests
    areaSqm := areaSqm, floor := floor, seaDistanceM := seaDistanceM
    view := .value (EnumText.read UnitView.all UnitView.text b.view)
    rowNumber := rowNumber, amenities := .value b.amenities, lat := lat, lng := lng
    exactAddress := .value b.exactAddress
    status := .value (EnumText.read UnitStatus.all UnitStatus.text b.status)
    nightlyPrice := nightlyPrice, bufferDays := bufferDays
    advanceNoticeHours := advanceNoticeHours, maxAdvanceDays := maxAdvanceDays }

/-- What the API is sent when the page's form is saved untouched. -/
def saveUntouched (w : Wire) (p : UnitPage) : Option UnitInput :=
  decodeUnit w (unitPayload (unitForm w p))

end Web

end Sahel

import Sahel.Domain.Slug
import Sahel.Http.AdminCatalogue
import Sahel.Library.AtomicCalls
import Sahel.Store.CatalogueInserts

/-!
# Adding to the catalogue

`adminCreateUnit`, `adminCreateCompound`, `adminCreateArea` and `adminCreateOwner`: each lets the body
`apply` to a record that is empty but for its defaults, and inserts it.

* `resolveSlug` takes the slug of the body, or derives one from the English name;
* `insertWithSlug` tries it, and one with a number behind it while those it derived are taken;
* `adminCreate` is the handler all four share, `Kind` by `Kind`;
* `EditReaches` is the system of these requests and the PATCHes, whose statements are all run outside
  a transaction.
-/

set_option autoImplicit false

namespace Sahel

open ReadCommitted

/-! ### The record a body is applied to -/

/-- `db.Unit{…}`: a draft, with the notice and the horizon units start with. -/
def UnitRecord.fresh : UnitRecord where
  id := 0
  ownerId := none
  compoundId := none
  slug := ""
  titleAr := ""
  titleEn := ""
  descriptionAr := ""
  descriptionEn := ""
  houseRulesAr := none
  houseRulesEn := none
  type := .unknown ""
  bedrooms := 0
  bathrooms := 0
  baseGuests := 0
  maxGuests := 0
  areaSqm := none
  floor := none
  seaDistanceM := 0
  view := .unknown ""
  rowNumber := none
  amenities := []
  lat := none
  lng := none
  exactAddress := none
  status := .known .draft
  nightlyPrice := none
  bufferDays := 0
  advanceNoticeHours := 24
  maxAdvanceDays := 365

def CompoundRecord.fresh : CompoundRecord where
  id := 0
  areaId := none
  slug := ""
  nameAr := ""
  nameEn := ""
  descriptionAr := ""
  descriptionEn := ""
  amenities := []
  beachType := .unknown ""
  gateInfoAr := none
  gateInfoEn := none
  lat := none
  lng := none
  coverImageUrl := none
  isFeatured := false

def AreaRecord.fresh : AreaRecord where
  id := 0
  slug := ""
  nameAr := ""
  nameEn := ""
  region := .unknown ""
  kmMarker := none
  sortOrder := 0

def OwnerRecord.fresh : OwnerRecord where
  id := 0
  name := ""
  phone := ""
  email := none
  nationalId := none
  notes := none
  commissionPct := 0

def Kind.fresh : (k : Kind) → k.Record
  | .unit => UnitRecord.fresh
  | .compound => CompoundRecord.fresh
  | .area => AreaRecord.fresh
  | .owner => OwnerRecord.fresh

/-! ### Checks of a create -/

/-- `requireSet`. -/
def requireSet {α : Type} (name : String) : Field α → List String
  | .absent => [name ++ " is required"]
  | _ => []

def UnitInput.requireOnCreate (b : UnitInput) : Except String PUnit :=
  problemsErr
    [requireSet "bedrooms" b.bedrooms,
      requireSet "bathrooms" b.bathrooms,
      requireSet "base_guests" b.baseGuests,
      requireSet "max_guests" b.maxGuests,
      requireSet "sea_distance_m" b.seaDistanceM].flatten ⟨⟩

/-- What a body must have beyond what `apply` asks for; only units have such fields. -/
def Kind.requireOnCreate : (k : Kind) → k.Input → Except String PUnit
  | .unit, b => UnitInput.requireOnCreate b
  | _, _ => .ok ⟨⟩

/-- The name a slug is derived from. -/
def Kind.englishName : (k : Kind) → k.Record → String
  | .unit, r => UnitRecord.titleEn r
  | .compound, r => CompoundRecord.nameEn r
  | .area, r => AreaRecord.nameEn r
  | .owner, _ => ""

/-- `resolveSlug`: the slug, and whether it was given. -/
def resolveSlug (texts : Texts) (given source : String) : Except String (String × Bool) :=
  if given ≠ "" then (checkSlug.{0} texts given).map (fun _ => (given, true))
  else if texts.slugMake source = "" then
    .error "slug could not be derived from the English name; provide one"
  else .ok (texts.slugMake source, false)

/-! ### Inserts -/

abbrev EditStmt : Type := AllStmt ⊕ CreateStmt

abbrev EditVal : EditStmt → Type := Sum.elim AllVal CreateStmt.Val

abbrev EditHandler : Type → Type := Prog EditStmt EditVal PgError ApiError

/-- All rows; the inserts come with no table of their own. -/
abbrev EditRows : Type := Rows × PUnit

/-- Postgres with the inserts. -/
abbrev editPostgres : Database EditRows ((Write ⊕ CatalogueWrite) ⊕ CatalogueInsert)
    ((Lock ⊕ CatalogueLock) ⊕ Empty) PgError Oracle EditStmt EditVal := creations.database

/-- The same row under another slug. -/
def Kind.withSlug : (k : Kind) → k.Params → String → k.Params
  | .unit, arg, sl => { (arg : AdminUpdateUnitParams) with slug := sl }
  | .compound, arg, sl => { (arg : CompoundRow) with slug := sl }
  | .area, arg, sl => { (arg : AreaRow) with slug := sl }
  | .owner, arg, _ => arg

/-- The slug of try `n`. -/
def slugOfTry (texts : Texts) (base : String) (n : ℕ) : String :=
  if n > 1 then Slug.makeWithSuffix texts.slugMake base n else base

/-- One round of the insert loop. -/
def insertTry (texts : Texts) (k : Kind) (arg : k.Params) (base : String) (n : ℕ) :
    EditHandler (Except PgError k.Record) :=
  Prog.attempt (Sum.inr (.adminCreate k (k.withSlug arg (slugOfTry texts base n))) : EditStmt)

/-- The loop from round `n` on, with `left` rounds after it. -/
def insertFrom (texts : Texts) (k : Kind) (arg : k.Params) (base : String) (explicit : Bool) :
    ℕ → ℕ → EditHandler k.Record
  | 0, n => do
    let row ← insertTry texts k arg base n
    Prog.check row (fun e => writeStoreError k.what (.pg e))
  | left + 1, n => do
    let row ← insertTry texts k arg base n
    match row with
    | .ok row => return row
    | .error e =>
      if explicit ∨ e.code ≠ pgUniqueViolation then Prog.throw (writeStoreError k.what (.pg e))
      else insertFrom texts k arg base explicit left (n + 1)

/-- `insertWithSlug`: fifty rounds, the first one `1`. -/
def insertWithSlug (texts : Texts) (k : Kind) (arg : k.Params) (base : String) (explicit : Bool) :
    EditHandler k.Record :=
  insertFrom texts k arg base explicit 49 1

/-! ### The handlers -/

/-- Applies the body, finds a slug where the table has one, and inserts. -/
def adminCreate (texts : Texts) (k : Kind) (body : k.Input) : EditHandler k.Record := do
  let _ ← Prog.check (k.requireOnCreate body) writeInvalid
  let row ← Prog.check (k.apply texts body k.fresh) writeInvalid
  match k.slug row with
  | some given =>
    let (base, explicit) ← Prog.check (resolveSlug texts given (k.englishName row)) writeInvalid
    let arg ← Prog.require (k.params? row) (internalError k.what)
    insertWithSlug texts k arg base explicit
  | none =>
    let arg ← Prog.require (k.params? row) (internalError k.what)
    Prog.query (fun e => writeStoreError k.what (.pg e)) (Sum.inr (.adminCreate k arg) : EditStmt)

def adminCreateUnit (texts : Texts) (body : UnitInput) : EditHandler UnitRecord :=
  adminCreate texts .unit body

def adminCreateCompound (texts : Texts) (body : CompoundInput) : EditHandler CompoundRecord :=
  adminCreate texts .compound body

def adminCreateArea (texts : Texts) (body : AreaInput) : EditHandler AreaRecord :=
  adminCreate texts .area body

def adminCreateOwner (texts : Texts) (body : OwnerInput) : EditHandler OwnerRecord :=
  adminCreate texts .owner body

/-! ### The system -/

/-- A POST of one of the four. -/
structure PostReq where
  kind : Kind
  body : kind.Input

/-- The handler of a POST. -/
def postProgram (texts : Texts) (r : PostReq) : EditHandler ((k : Kind) × k.Record) :=
  (fun row => ⟨r.kind, row⟩) <$> adminCreate texts r.kind r.body

/-- PATCHes and POSTs. -/
def editProgram (texts : Texts) : PatchReq ⊕ PostReq →
    EditHandler (((k : Kind) × k.Record) ⊕ ((k : Kind) × k.Record)) :=
  Extra.system (patchProgram texts) (postProgram texts)

abbrev EditSys : Type :=
  AtomicCalls.State EditRows PgError EditStmt EditVal ApiError
    (((k : Kind) × k.Record) ⊕ ((k : Kind) × k.Record))

/-- The states reached from `d₀` by PATCHes and POSTs, the statements of one between those of
others. -/
abbrev EditReaches (texts : Texts) (d₀ : Rows) (s : EditSys) : Prop :=
  AtomicCalls.Reaches editPostgres (editProgram texts) (d₀, ⟨⟩) s

end Sahel

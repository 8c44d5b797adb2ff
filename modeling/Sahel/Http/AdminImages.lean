import Sahel.Store.AdminImages
import Sahel.Http.AdminCatalogue
import Sahel.Http.Payments

/-!
# The photos of a unit: handlers

admin_images.go: `adminUploadUnitImage`, `adminPatchUnitImage` and `adminDeleteUnitImage`.

* uploads and patches decide the sort order and the cover under the lock of the unit's row; a delete
  is a single statement without it;
* `ImageReaches` is the system of these requests, those of the bookings and the catalogue's edits.

An object whose row never came to be, or is gone, is deleted from the store afterwards; that is no
part of a handler's program.
-/

set_option autoImplicit false

namespace Sahel

open ReadCommitted

abbrev ImageSystemStmt : Type := AllStmt ⊕ ImageStmt

abbrev ImageSystemVal : ImageSystemStmt → Type := Sum.elim AllVal ImageStmt.Val

abbrev ImageHandler : Type → Type := Prog ImageSystemStmt ImageSystemVal PgError ApiError

def maxImageBytes : ℤ := 10 * 2 ^ 20

/-- `imageExt`: the types taken, and their file extensions. -/
def imageExt (mime : String) : Option String :=
  if mime = "image/jpeg" then some "jpg"
  else if mime = "image/png" then some "png"
  else if mime = "image/webp" then some "webp"
  else none

namespace Images

/-- A statement about photos; `what` is what the handler calls the entity in its errors. -/
def query (what : String) (s : ImageStmt) : ImageHandler s.Val :=
  Prog.query (fun e => writeStoreError what (.pg e)) (Sum.inr s : ImageSystemStmt)

/-- A `:one` query. -/
def one {α : Type} (what : String) (q : ImageHandler (Option α)) : ImageHandler α := do
  let row ← q
  Prog.require row (writeStoreError what .noRows)

def adminLockUnit (what : String) (id : ℕ) : ImageHandler ℕ := one what (query what (.adminLockUnit id))

/-- The insert, after its subqueries. -/
def adminCreateUnitImage (arg : AdminCreateUnitImageParams) : ImageHandler UnitImageRow := do
  let next ← query "unit" (.nextImage arg.unitId)
  query "unit" (.adminCreateUnitImage arg next)

def adminGetUnitImage (id unitId : ℕ) : ImageHandler UnitImageRow :=
  one "image" (query "image" (.adminGetUnitImage id unitId))

/-- The update, after its scan. -/
def adminClearUnitCover (unitId keepId : ℕ) : ImageHandler PUnit := do
  let ids ← query "image" (.coversBut unitId keepId)
  query "image" (.adminClearUnitCover unitId keepId ids)

def adminUpdateUnitImage (arg : AdminUpdateUnitImageParams) : ImageHandler UnitImageRow :=
  one "image" (query "image" (.adminUpdateUnitImage arg))

def adminDeleteUnitImage (id unitId : ℕ) : ImageHandler String :=
  one "image" (query "image" (.adminDeleteUnitImage id unitId))

end Images

/-! ### Uploads -/

/-- A file of a form: its size and the type its first bytes show, if they can be read. -/
structure ImageFile where
  size : ℤ
  mime : Option String

/-- An upload: the id of its URL, once read as a UUID, and its body. -/
structure ImageUpload where
  unitId : Option ℕ
  contentLength : ℤ
  file : Option ImageFile

def adminUploadUnitImage (req : ImageUpload) : ImageHandler UnitImageRow := do
  let unitId ← Prog.require req.unitId ⟨404, "not_found", "unit not found"⟩
  let unit ← Prog.query (fun e => writeStoreError "unit" (.pg e))
    (Sum.inl (Sum.inr (.adminGet .unit unitId)) : ImageSystemStmt)
  let _ ← Prog.require unit (writeStoreError "unit" .noRows)
  Prog.refuse (req.contentLength > maxImageBytes + 2 ^ 20)
    ⟨413, "file_too_large", "images are limited to 10 MB"⟩
  let file ← Prog.require req.file
    ⟨400, "invalid_upload", "expected a multipart field named \"file\""⟩
  Prog.refuse (file.size > maxImageBytes) ⟨413, "file_too_large", "images are limited to 10 MB"⟩
  let mime ← Prog.require file.mime ⟨400, "invalid_upload", "could not read the file"⟩
  let ext ← Prog.require (imageExt mime)
    ⟨415, "unsupported_media_type", "only JPEG, PNG and WebP images are accepted"⟩
  let uuid ← Prog.query (fun _ => internalError "image upload")
    (Sum.inl (Sum.inl .newUUID) : ImageSystemStmt)
  let key := "units/" ++ uuidString unitId ++ "/" ++ uuidString uuid ++ "." ++ ext
  let url ← Prog.query (fun _ => internalError "image upload")
    (Sum.inr (.put key mime) : ImageSystemStmt)
  let _ ← Images.adminLockUnit "unit" unitId
  Images.adminCreateUnitImage ⟨unitId, url⟩

/-! ### Patches -/

structure ImageInput where
  altAr : Field String := .absent
  altEn : Field String := .absent
  sort : Field Int16 := .absent
  isCover : Field Bool := .absent
  deriving DecidableEq

/-- The row after the fields are copied. -/
def ImageInput.edit (b : ImageInput) (i : UnitImageRow) : UnitImageRow :=
  { i with
    altAr := blankToNil (setNullable i.altAr b.altAr)
    altEn := blankToNil (setNullable i.altEn b.altEn)
    sort := setField i.sort b.sort
    isCover := setField i.isCover b.isCover }

def ImageInput.apply (b : ImageInput) (i : UnitImageRow) : Except String UnitImageRow :=
  problemsErr (fieldProblem "sort" b.sort ++ fieldProblem "is_cover" b.isCover
    ++ problem ((b.edit i).sort < 0) "sort must be >= 0") (b.edit i)

/-- A patch: the ids of its URL and its body. -/
structure ImagePatch where
  unitId : Option ℕ
  imageId : Option ℕ
  body : ImageInput

def adminPatchUnitImage (req : ImagePatch) : ImageHandler UnitImageRow := do
  let unitId ← Prog.require req.unitId ⟨404, "not_found", "unit not found"⟩
  let imageId ← Prog.require req.imageId ⟨404, "not_found", "image not found"⟩
  let _ ← Images.adminLockUnit "image" unitId
  let img ← Images.adminGetUnitImage imageId unitId
  let img ← Prog.check (req.body.apply img) writeInvalid
  if img.isCover then Images.adminClearUnitCover unitId imageId
  Images.adminUpdateUnitImage ⟨imageId, img.altAr, img.altEn, img.sort, img.isCover⟩

/-! ### Deletes -/

/-- A delete: the ids of its URL. -/
structure ImageDelete where
  unitId : Option ℕ
  imageId : Option ℕ

/-- Deletes the row; its URL is for the object store. -/
def adminDeleteUnitImage (req : ImageDelete) : ImageHandler String := do
  let unitId ← Prog.require req.unitId ⟨404, "not_found", "unit not found"⟩
  let imageId ← Prog.require req.imageId ⟨404, "not_found", "image not found"⟩
  Images.adminDeleteUnitImage imageId unitId

/-! ### The system -/

inductive ImageRequest where
  | upload (req : ImageUpload)
  | patch (req : ImagePatch)
  | delete (req : ImageDelete)

/-- The image answered with, or what is deleted from the object store. -/
inductive ImageResponse where
  | image (i : UnitImageRow)
  | deleted (url : String)

def imageProgram : ImageRequest → ImageHandler ImageResponse
  | .upload req => .image <$> adminUploadUnitImage req
  | .patch req => .image <$> adminPatchUnitImage req
  | .delete req => .deleted <$> adminDeleteUnitImage req

abbrev ImageSystemReq : Type := AllReq ⊕ ImageRequest

/-- The handler of any request. -/
def imageSystem (srv : Server) (texts : Texts) : ImageSystemReq → ImageHandler (AllResponse ⊕ ImageResponse) :=
  Extra.system (fullProgram srv texts) imageProgram

abbrev ImageSystemWrite : Type := (Write ⊕ CatalogueWrite) ⊕ ImageWrite

abbrev ImageSystemLock : Type := (Lock ⊕ CatalogueLock) ⊕ ImageLock

/-- Postgres with its photos. -/
abbrev imagePostgres (publicURL : String → String) : Database ImageRows ImageSystemWrite ImageSystemLock
    PgError Oracle ImageSystemStmt ImageSystemVal := (photos publicURL).database

/-- A state of the running system. -/
abbrev ImageSys : Type :=
  State ImageRows ImageSystemWrite ImageSystemLock PgError ImageSystemStmt ImageSystemVal ImageSystemReq
    ApiError (AllResponse ⊕ ImageResponse)

/-- The states reached from `d₀`, with nobody connected, by any interleaving of requests. -/
abbrev ImageReaches (publicURL : String → String) (srv : Server) (texts : Texts) (d₀ : ImageRows)
    (s : ImageSys) : Prop :=
  Reachable (imagePostgres publicURL) (imageSystem srv texts) anyCommit d₀ s

end Sahel

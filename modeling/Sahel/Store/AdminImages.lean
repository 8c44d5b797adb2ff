import Sahel.Store.CatalogueQueries
import Sahel.Store.UnitImages

/-!
# Queries of the photos

admin_images.sql over the table `unit_images`, and the object store behind it.

A statement that waits for a row or an index entry goes on with what it read before it waited.  So
the two statements that decide by a scan are two here: `nextImage` reads what an upload's row will
be and `coversBut` the rows whose cover is cleared, and each is followed by the statement that
writes, which sees the rows as they are by then.

`gen_random_uuid()` repeats no id, those of deleted photos included: `issued` are the ids given out.
-/

set_option autoImplicit false

namespace Sahel

open KeyedTable ReadCommitted

/-! ### Rows and writes -/

structure ImageTables where
  images : UnitImages
  issued : List ℕ
  issued_mem : ∀ i ∈ images, i.id ∈ issued

/-- All rows, the photos among them. -/
abbrev ImageRows : Type := Rows × ImageTables

/-- A photo that is no cover any more, when it is one of `ids`. -/
def uncover (ids : List ℕ) (i : UnitImageRow) : UnitImageRow :=
  if i.id ∈ ids then { i with isCover := false } else i

theorem id_uncover (ids : List ℕ) (i : UnitImageRow) : (uncover ids i).id = i.id := by
  rw [uncover]
  split_ifs <;> rfl

namespace ImageTables

variable (t : ImageTables)

def insert (i : UnitImageRow) : ImageTables where
  images := t.images.insert i
  issued := i.id :: t.issued
  issued_mem x hx := by
    rcases Table.mem_of_mem_insert hx with hx | rfl
    · exact List.mem_cons_of_mem _ (t.issued_mem x hx)
    · exact List.mem_cons_self

def clearCover (ids : List ℕ) : ImageTables where
  images := t.images.mapRows (uncover ids) (id_uncover ids)
  issued := t.issued
  issued_mem x hx := by
    obtain ⟨y, hy, rfl⟩ := Table.mem_mapRows.mp hx
    rw [id_uncover]
    exact t.issued_mem y hy

def set (i : UnitImageRow) : ImageTables where
  images := t.images.set i
  issued := t.issued
  issued_mem x hx := by
    rcases Table.mem_set.mp hx with ⟨hx, -⟩ | ⟨rfl, y, hy, hid⟩
    · exact t.issued_mem x hx
    · rw [← hid]
      exact t.issued_mem y hy

def erase (id : ℕ) : ImageTables where
  images := t.images.erase id
  issued := t.issued
  issued_mem x hx := t.issued_mem x (Table.mem_erase.mp hx).1

end ImageTables

inductive ImageWrite where
  | insert (i : UnitImageRow)
  | clearCover (ids : List ℕ)
  | set (i : UnitImageRow)
  | erase (id : ℕ)

def applyImage (d : ImageRows) : ImageWrite → ImageRows
  | .insert i => (d.1, d.2.insert i)
  | .clearCover ids => (d.1, d.2.clearCover ids)
  | .set i => (d.1, d.2.set i)
  | .erase id => (d.1, d.2.erase id)

/-! ### Queries -/

/-- `unit_images_one_cover`: another row is the unit's cover. -/
def CoverTaken (unitId : ℕ) (id : ℕ) (d : ImageRows) : Prop :=
  ∃ i ∈ d.2.images.rows, i.id ≠ id ∧ i.unitId = unitId ∧ i.isCover

instance (unitId id : ℕ) (d : ImageRows) : Decidable (CoverTaken unitId id d) :=
  inferInstanceAs (Decidable (∃ i ∈ d.2.images.rows, i.id ≠ id ∧ i.unitId = unitId ∧ i.isCover))

structure AdminCreateUnitImageParams where
  unitId : ℕ
  url : String

/-- What the subqueries of an insert answer. -/
structure NextImage where
  sort : ℤ
  isCover : Bool

structure AdminUpdateUnitImageParams where
  id : ℕ
  altAr : Option String
  altEn : Option String
  sort : Int16
  isCover : Bool

namespace Queries

/-- The photos of a unit. -/
def imagesOf (unitId : ℕ) (d : ImageRows) : List UnitImageRow :=
  d.2.images.rows.filter (fun i => decide (i.unitId = unitId))

/-- `COALESCE(MAX(sort) + 1, 0)` and `NOT EXISTS (…)`. -/
def nextImage (unitId : ℕ) (d : ImageRows) : NextImage where
  sort := (((imagesOf unitId d).map (fun i => i.sort.toInt)).max?.map (fun m => m + 1)).getD 0
  isCover := !(imagesOf unitId d).any UnitImageRow.isCover

/-- `INSERT INTO unit_images … RETURNING *`. -/
def adminCreateUnitImage (arg : AdminCreateUnitImageParams) (next : NextImage) (uuid : ℕ) (now : ℤ)
    (d : ImageRows) : Except PgError (UnitImageRow × List ImageWrite) :=
  if 2 ^ 15 ≤ next.sort then .error .numericOutOfRange
  else if uuid ∈ d.2.issued then .error (.uniqueViolation "unit_images_pkey")
  else if next.isCover ∧ CoverTaken arg.unitId uuid d then
    .error (.uniqueViolation "unit_images_one_cover")
  else if (d.1.1.units.find? arg.unitId).isNone then .error (.fkViolation "unit_images_unit_id_fkey")
  else
    let row : UnitImageRow := {
      id := uuid, unitId := arg.unitId, url := arg.url, altAr := none, altEn := none
      sort := Int16.ofInt next.sort, isCover := next.isCover, createdAt := now }
    .ok (row, [.insert row])

def adminGetUnitImage (id unitId : ℕ) (d : ImageRows) : Option UnitImageRow :=
  (d.2.images.find? id).filter (fun i => decide (i.unitId = unitId))

/-- `WHERE unit_id = @unit_id AND is_cover AND id <> @keep_id`. -/
def coversBut (unitId keepId : ℕ) (d : ImageRows) : List ℕ :=
  ((imagesOf unitId d).filter (fun i => i.isCover && decide (i.id ≠ keepId))).map UnitImageRow.id

/-- `UPDATE unit_images SET is_cover = false`, of the rows found that are still covers. -/
def adminClearUnitCover (unitId keepId : ℕ) (ids : List ℕ) (d : ImageRows) : List ImageWrite :=
  [.clearCover (ids.filter (fun id => decide (id ∈ coversBut unitId keepId d)))]

/-- `UPDATE unit_images SET … WHERE id = @id RETURNING *`. -/
def adminUpdateUnitImage (arg : AdminUpdateUnitImageParams) (d : ImageRows) :
    Except PgError (Option UnitImageRow × List ImageWrite) :=
  match d.2.images.find? arg.id with
  | none => .ok (none, [])
  | some i =>
    let row : UnitImageRow :=
      { i with altAr := arg.altAr, altEn := arg.altEn, sort := arg.sort, isCover := arg.isCover }
    if arg.isCover ∧ CoverTaken i.unitId i.id d then .error (.uniqueViolation "unit_images_one_cover")
    else .ok (some row, [.set row])

/-- `DELETE FROM unit_images … RETURNING url`. -/
def adminDeleteUnitImage (id unitId : ℕ) (d : ImageRows) : Option String × List ImageWrite :=
  match adminGetUnitImage id unitId d with
  | none => (none, [])
  | some i => (some i.url, [.erase id])

end Queries

/-! ### What the queries do -/

section Specs

variable {d : ImageRows}

theorem not_mem_of_not_issued {id : ℕ} (h : id ∉ d.2.issued) : d.2.images.find? id = none :=
  Table.find?_eq_none_iff.mpr (fun i hi hid => h (hid ▸ d.2.issued_mem i hi))

/-- An insert's row has a new id, and is a cover only where there is none. -/
theorem adminCreateUnitImage_ok {arg : AdminCreateUnitImageParams} {next : NextImage} {uuid : ℕ}
    {now : ℤ} {row : UnitImageRow} {ws : List ImageWrite}
    (h : Queries.adminCreateUnitImage arg next uuid now d = .ok (row, ws)) :
    ws = [.insert row] ∧ row.id = uuid ∧ row.unitId = arg.unitId ∧ uuid ∉ d.2.issued ∧
      (row.isCover → ¬ CoverTaken arg.unitId uuid d) := by
  rw [Queries.adminCreateUnitImage] at h
  split_ifs at h with hsort hissued hcover hunit
  cases h
  exact ⟨rfl, rfl, rfl, hissued, fun hc htaken => hcover ⟨hc, htaken⟩⟩

/-- An insert fails on the index when its subquery found no cover and there is one by then. -/
theorem adminCreateUnitImage_taken {arg : AdminCreateUnitImageParams} {next : NextImage} {uuid : ℕ}
    {now : ℤ}
    (h : Queries.adminCreateUnitImage arg next uuid now d
      = .error (.uniqueViolation "unit_images_one_cover")) :
    next.isCover ∧ CoverTaken arg.unitId uuid d := by
  rw [Queries.adminCreateUnitImage] at h
  split_ifs at h with hsort hissued hcover hunit
  · cases h
  · simp at h
  · exact hcover
  · cases h

theorem nextImage_isCover {unitId : ℕ} (h : (Queries.nextImage unitId d).isCover) :
    ∀ i ∈ d.2.images, i.unitId = unitId → ¬ i.isCover := by
  intro i hi hu hc
  have hany : (Queries.imagesOf unitId d).any UnitImageRow.isCover = true :=
    List.any_eq_true.mpr ⟨i, List.mem_filter.mpr ⟨hi, decide_eq_true hu⟩, hc⟩
  rw [Queries.nextImage, hany] at h
  cases h

theorem adminGetUnitImage_eq_some {id unitId : ℕ} {i : UnitImageRow} :
    Queries.adminGetUnitImage id unitId d = some i ↔
      d.2.images.find? id = some i ∧ i.unitId = unitId := by
  rw [Queries.adminGetUnitImage, Option.filter_eq_some_iff, decide_eq_true_eq]

theorem mem_coversBut {unitId keepId id : ℕ} :
    id ∈ Queries.coversBut unitId keepId d ↔
      ∃ i ∈ d.2.images, i.unitId = unitId ∧ i.isCover ∧ i.id ≠ keepId ∧ i.id = id := by
  simp only [Queries.coversBut, Queries.imagesOf, List.mem_map, List.mem_filter, Bool.and_eq_true,
    decide_eq_true_eq, Table.mem_def, and_assoc]

/-- An update finds its row, and makes a cover of it only where there is no other. -/
theorem adminUpdateUnitImage_ok {arg : AdminUpdateUnitImageParams} {row : UnitImageRow}
    {ws : List ImageWrite} (h : Queries.adminUpdateUnitImage arg d = .ok (some row, ws)) :
    ∃ i, d.2.images.find? arg.id = some i ∧ ws = [.set row] ∧ row = { i with
      altAr := arg.altAr, altEn := arg.altEn, sort := arg.sort, isCover := arg.isCover } := by
  rw [Queries.adminUpdateUnitImage] at h
  cases hi : d.2.images.find? arg.id with
  | none =>
    rw [hi] at h
    cases h
  | some i =>
    rw [hi] at h
    simp only at h
    split_ifs at h
    cases h
    exact ⟨i, rfl, rfl, rfl⟩

theorem adminUpdateUnitImage_taken {arg : AdminUpdateUnitImageParams}
    (h : Queries.adminUpdateUnitImage arg d = .error (.uniqueViolation "unit_images_one_cover")) :
    ∃ i, d.2.images.find? arg.id = some i ∧ arg.isCover ∧ CoverTaken i.unitId i.id d := by
  rw [Queries.adminUpdateUnitImage] at h
  cases hi : d.2.images.find? arg.id with
  | none =>
    rw [hi] at h
    cases h
  | some i =>
    rw [hi] at h
    simp only at h
    split_ifs at h with hc
    exact ⟨i, rfl, hc⟩

end Specs

/-! ### Statements and locks -/

inductive ImageStmt where
  | put (key mime : String)
  | adminLockUnit (id : ℕ)
  | nextImage (unitId : ℕ)
  | adminCreateUnitImage (arg : AdminCreateUnitImageParams) (next : NextImage)
  | adminGetUnitImage (id unitId : ℕ)
  | coversBut (unitId keepId : ℕ)
  | adminClearUnitCover (unitId keepId : ℕ) (ids : List ℕ)
  | adminUpdateUnitImage (arg : AdminUpdateUnitImageParams)
  | adminDeleteUnitImage (id unitId : ℕ)

@[reducible] def ImageStmt.Val : ImageStmt → Type
  | .put _ _ => String
  | .adminLockUnit _ => Option ℕ
  | .nextImage _ => NextImage
  | .adminCreateUnitImage _ _ => UnitImageRow
  | .adminGetUnitImage _ _ => Option UnitImageRow
  | .coversBut _ _ => List ℕ
  | .adminClearUnitCover _ _ _ => PUnit
  | .adminUpdateUnitImage _ => Option UnitImageRow
  | .adminDeleteUnitImage _ _ => Option String

def ImageStmt.eval (publicURL : String → String) : (s : ImageStmt) → Oracle → ℤ → ImageRows →
    Except PgError (s.Val × List ImageWrite)
  | .put key _, o, _, _ => if o.stored then .ok (publicURL key, []) else .error .storage
  | .adminLockUnit id, _, _, d => .ok (Queries.lockUnit id d.1.1, [])
  | .nextImage unitId, _, _, d => .ok (Queries.nextImage unitId d, [])
  | .adminCreateUnitImage arg next, o, now, d => Queries.adminCreateUnitImage arg next o.uuid now d
  | .adminGetUnitImage id unitId, _, _, d => .ok (Queries.adminGetUnitImage id unitId d, [])
  | .coversBut unitId keepId, _, _, d => .ok (Queries.coversBut unitId keepId d, [])
  | .adminClearUnitCover unitId keepId ids, _, _, d =>
    .ok (⟨⟩, Queries.adminClearUnitCover unitId keepId ids d)
  | .adminUpdateUnitImage arg, _, _, d => Queries.adminUpdateUnitImage arg d
  | .adminDeleteUnitImage id unitId, _, _, d => .ok (Queries.adminDeleteUnitImage id unitId d)

theorem put_ok {publicURL : String → String} {key mime url : String} {o : Oracle}
    (now : ℤ) (d : ImageRows) {ws : List ImageWrite}
    (h : (ImageStmt.put key mime).eval publicURL o now d = .ok (url, ws)) : ws = [] := by
  rw [ImageStmt.eval] at h
  split_ifs at h
  cases h
  rfl

theorem put_error {publicURL : String → String} {key mime : String} {o : Oracle} (now : ℤ)
    (d : ImageRows) {e : PgError} (h : (ImageStmt.put key mime).eval publicURL o now d = .error e) :
    e = .storage := by
  rw [ImageStmt.eval] at h
  split_ifs at h
  cases h
  rfl

/-- A row, and the entry of a unit in `unit_images_one_cover`. -/
inductive ImageLock where
  | image (id : ℕ)
  | cover (unitId : ℕ)
  deriving DecidableEq

/-- The index entry that a statement enters or leaves. -/
def coverLock (touched : Bool) (unitId : ℕ) : List ImageLock := if touched then [.cover unitId] else []

def ImageStmt.imageLocks : ImageStmt → Oracle → ImageRows → List ImageLock
  | .adminCreateUnitImage arg next, o, _ => .image o.uuid :: coverLock next.isCover arg.unitId
  | .adminClearUnitCover unitId _ ids, _, _ =>
    ids.map ImageLock.image ++ coverLock (decide (ids ≠ [])) unitId
  | .adminUpdateUnitImage arg, _, d =>
    .image arg.id :: (d.2.images.find? arg.id).toList.flatMap (fun i =>
      coverLock (i.isCover || arg.isCover) i.unitId)
  | .adminDeleteUnitImage id unitId, _, d =>
    (Queries.adminGetUnitImage id unitId d).toList.flatMap (fun i =>
      .image id :: coverLock i.isCover i.unitId)
  | _, _, _ => []

/-- The lock of a unit's row is the one bookings and edits take. -/
def ImageStmt.locks : ImageStmt → Oracle → ℤ → ImageRows → List ((Lock ⊕ CatalogueLock) ⊕ ImageLock)
  | .adminLockUnit id, _, _, _ => [.inl (.inl (.unit id))]
  | s, o, _, d => (s.imageLocks o d).map Sum.inr

/-- The photos and their queries, added to everything else; `publicURL` is where the object store
serves a key. -/
def photos (publicURL : String → String) : Extra catalogue.database ImageTables ImageWrite ImageLock
    ImageStmt ImageStmt.Val where
  apply := applyImage
  eval := ImageStmt.eval publicURL
  locks := ImageStmt.locks
  conflict l l' := decide (l = l')
  conflict_comm l l' := by simp only [eq_comm]

end Sahel

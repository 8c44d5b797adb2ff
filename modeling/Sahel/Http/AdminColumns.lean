import Sahel.Http.AdminCatalogue

/-!
# What an edit does, column by column

`apply` copies the fields a body has into the record, and trims every text on the way.  A `Column` is
one of them: what the body asks of it and how it is stored.

* `Kind.columns` lists the columns of each of the four tables;
* **`Kind.apply_follows`**: an edit that is accepted leaves in each column what was asked for, or what
  was there, stored as such.
-/

set_option autoImplicit false

namespace Sahel

/-! ### Columns -/

/-- A column an edit may set. -/
structure Column (Record Input : Type) where
  Val : Type
  get : Record → Val
  /-- what a body asks for -/
  asked : Input → Option Val
  /-- how a value is stored -/
  tidy : Val → Val
  tidy_tidy : ∀ v, tidy (tidy v) = tidy v

namespace Column

variable {Record Input V : Type}

/-- The record `r'` follows from `r` by the body `b`. -/
def Follows (c : Column Record Input) (b : Input) (r r' : Record) : Prop :=
  c.get r' = c.tidy ((c.asked b).getD (c.get r))

/-- NOT NULL, stored as it is sent. -/
def plain (get : Record → V) (field : Input → Field V) : Column Record Input :=
  ⟨V, get, fun b => (field b).asked, id, fun _ => rfl⟩

/-- NOT NULL text, trimmed. -/
def text (get : Record → String) (field : Input → Field String) : Column Record Input :=
  ⟨String, get, fun b => (field b).asked, trimSpace, trimSpace_trimSpace⟩

/-- A list of amenities, normalized. -/
def amenities (get : Record → List String) (field : Input → Field (List String)) :
    Column Record Input :=
  ⟨List String, get, fun b => (field b).asked, normalizeAmenities, normalizeAmenities_idem⟩

/-- Nullable, stored as it is sent. -/
def nullable (get : Record → Option V) (field : Input → Field V) : Column Record Input :=
  ⟨Option V, get, fun b => (field b).askedNull, id, fun _ => rfl⟩

/-- Nullable text, trimmed; a blank one is null. -/
def nullText (get : Record → Option String) (field : Input → Field String) : Column Record Input :=
  ⟨Option String, get, fun b => (field b).askedNull, blankToNil, blankToNil_blankToNil⟩

/-- A coordinate, in millionths of a degree. -/
def coord (get : Record → Option ℤ) (field : Input → Field ℚ) : Column Record Input :=
  ⟨Option ℤ, get, fun b => (field b).askedCoord, id, fun _ => rfl⟩

section Follows

variable {b : Input} {r r' : Record}

theorem plain_follows {get : Record → V} {field : Input → Field V}
    (h : get r' = setField (get r) (field b)) : (plain get field).Follows b r r' :=
  h.trans (setField_eq _ _)

theorem text_follows {get : Record → String} {field : Input → Field String}
    (h : get r' = trimSpace (setField (get r) (field b))) : (text get field).Follows b r r' :=
  h.trans (congrArg trimSpace (setField_eq _ _))

theorem amenities_follows {get : Record → List String} {field : Input → Field (List String)}
    (h : get r' = normalizeAmenities (setField (get r) (field b))) :
    (amenities get field).Follows b r r' :=
  h.trans (congrArg normalizeAmenities (setField_eq _ _))

theorem nullable_follows {get : Record → Option V} {field : Input → Field V}
    (h : get r' = setNullable (get r) (field b)) : (nullable get field).Follows b r r' :=
  h.trans (setNullable_eq _ _)

theorem nullText_follows {get : Record → Option String} {field : Input → Field String}
    (h : get r' = blankToNil (setNullable (get r) (field b))) :
    (nullText get field).Follows b r r' :=
  h.trans (congrArg blankToNil (setNullable_eq _ _))

theorem coord_follows {get : Record → Option ℤ} {field : Input → Field ℚ} {name : String} {limit : ℕ}
    (h : get r' = setCoord (get r) limit (field b)) (hp : coordProblem name limit (field b) = []) :
    (coord get field).Follows b r r' :=
  h.trans (setCoord_eq _ hp)

end Follows

end Column

/-! ### The four tables -/

open Column KeyedTable

def unitColumns : List (Column UnitRecord UnitInput) :=
  [plain UnitRecord.ownerId (fun b => b.ownerId.map some),
    plain UnitRecord.compoundId (fun b => b.compoundId.map some),
    plain UnitRecord.slug UnitInput.slug,
    text UnitRecord.titleAr UnitInput.titleAr,
    text UnitRecord.titleEn UnitInput.titleEn,
    text UnitRecord.descriptionAr UnitInput.descriptionAr,
    text UnitRecord.descriptionEn UnitInput.descriptionEn,
    nullText UnitRecord.houseRulesAr UnitInput.houseRulesAr,
    nullText UnitRecord.houseRulesEn UnitInput.houseRulesEn,
    plain UnitRecord.type UnitInput.type,
    plain UnitRecord.bedrooms UnitInput.bedrooms,
    plain UnitRecord.bathrooms UnitInput.bathrooms,
    plain UnitRecord.baseGuests UnitInput.baseGuests,
    plain UnitRecord.maxGuests UnitInput.maxGuests,
    nullable UnitRecord.areaSqm UnitInput.areaSqm,
    nullable UnitRecord.floor UnitInput.floor,
    plain UnitRecord.seaDistanceM UnitInput.seaDistanceM,
    plain UnitRecord.view UnitInput.view,
    nullable UnitRecord.rowNumber UnitInput.rowNumber,
    Column.amenities UnitRecord.amenities UnitInput.amenities,
    coord UnitRecord.lat UnitInput.lat,
    coord UnitRecord.lng UnitInput.lng,
    nullText UnitRecord.exactAddress UnitInput.exactAddress,
    plain UnitRecord.status UnitInput.status,
    nullable UnitRecord.nightlyPrice UnitInput.nightlyPrice,
    plain UnitRecord.bufferDays UnitInput.bufferDays,
    plain UnitRecord.advanceNoticeHours UnitInput.advanceNoticeHours,
    plain UnitRecord.maxAdvanceDays UnitInput.maxAdvanceDays]

def compoundColumns : List (Column CompoundRecord CompoundInput) :=
  [plain CompoundRecord.areaId (fun b => b.areaId.map some),
    plain CompoundRecord.slug CompoundInput.slug,
    text CompoundRecord.nameAr CompoundInput.nameAr,
    text CompoundRecord.nameEn CompoundInput.nameEn,
    text CompoundRecord.descriptionAr CompoundInput.descriptionAr,
    text CompoundRecord.descriptionEn CompoundInput.descriptionEn,
    Column.amenities CompoundRecord.amenities CompoundInput.amenities,
    plain CompoundRecord.beachType CompoundInput.beachType,
    nullText CompoundRecord.gateInfoAr CompoundInput.gateInfoAr,
    nullText CompoundRecord.gateInfoEn CompoundInput.gateInfoEn,
    coord CompoundRecord.lat CompoundInput.lat,
    coord CompoundRecord.lng CompoundInput.lng,
    nullText CompoundRecord.coverImageUrl CompoundInput.coverImageUrl,
    plain CompoundRecord.isFeatured CompoundInput.isFeatured]

def areaColumns : List (Column AreaRecord AreaInput) :=
  [plain AreaRecord.slug AreaInput.slug,
    text AreaRecord.nameAr AreaInput.nameAr,
    text AreaRecord.nameEn AreaInput.nameEn,
    plain AreaRecord.region AreaInput.region,
    nullable AreaRecord.kmMarker AreaInput.kmMarker,
    plain AreaRecord.sortOrder AreaInput.sortOrder]

def ownerColumns : List (Column OwnerRecord OwnerInput) :=
  [text OwnerRecord.name OwnerInput.name,
    text OwnerRecord.phone OwnerInput.phone,
    nullText OwnerRecord.email OwnerInput.email,
    nullText OwnerRecord.nationalId OwnerInput.nationalId,
    nullText OwnerRecord.notes OwnerInput.notes,
    plain OwnerRecord.commissionPct OwnerInput.commissionPct]

def Kind.columns : (k : Kind) → List (Column k.Record k.Input)
  | .unit => unitColumns
  | .compound => compoundColumns
  | .area => areaColumns
  | .owner => ownerColumns

def Kind.recordId : (k : Kind) → k.Record → ℕ
  | .unit, r => UnitRecord.id r
  | .compound, r => CompoundRecord.id r
  | .area, r => AreaRecord.id r
  | .owner, r => OwnerRecord.id r

theorem Kind.recordId_record {k : Kind} (arg : k.Params) : k.recordId (k.record arg) = k.id arg := by
  cases k <;> rfl

/-- A row is found under its id. -/
theorem Kind.recordId_find {k : Kind} {id : ℕ} {d : Rows} {row : k.Record}
    (h : k.find id d = some row) : k.recordId row = id := by
  cases k with
  | unit =>
    obtain ⟨u, hu, rfl⟩ := Option.map_eq_some_iff.mp h
    exact (Table.mem_of_find? hu).2
  | compound =>
    obtain ⟨c, hc, rfl⟩ := Option.map_eq_some_iff.mp h
    exact (Table.mem_of_find? hc).2
  | area =>
    obtain ⟨a, ha, rfl⟩ := Option.map_eq_some_iff.mp h
    exact (Table.mem_of_find? ha).2
  | owner =>
    obtain ⟨o, ho, rfl⟩ := Option.map_eq_some_iff.mp h
    exact (Table.mem_of_find? ho).2

/-! ### Edits -/

def Kind.edit : (k : Kind) → k.Input → k.Record → k.Record
  | .unit, b, r => UnitInput.edit b r
  | .compound, b, r => CompoundInput.edit b r
  | .area, b, r => AreaInput.edit b r
  | .owner, b, r => OwnerInput.edit b r

def Kind.problems (texts : Texts) : (k : Kind) → k.Input → k.Record → List (List String)
  | .unit, b, r => UnitInput.problems texts b r
  | .compound, b, r => CompoundInput.problems texts b r
  | .area, b, r => AreaInput.problems texts b r
  | .owner, b, r => OwnerInput.problems b r

/-- What is wrong with the coordinates of a body. -/
def Kind.coordProblems : (k : Kind) → k.Input → List (List String)
  | .unit, b => [coordProblem "lat" 90 (UnitInput.lat b), coordProblem "lng" 180 (UnitInput.lng b)]
  | .compound, b =>
    [coordProblem "lat" 90 (CompoundInput.lat b), coordProblem "lng" 180 (CompoundInput.lng b)]
  | .area, _ => []
  | .owner, _ => []

/-- **An edit that is accepted** has no problem and answers the edited record. -/
theorem Kind.apply_ok {k : Kind} {texts : Texts} {b : k.Input} {r r' : k.Record} :
    k.apply texts b r = .ok r' ↔ (∀ p ∈ k.problems texts b r', p = []) ∧ k.edit b r = r' := by
  have happly : k.apply texts b r = problemsErr (k.problems texts b (k.edit b r)).flatten (k.edit b r) := by
    cases k <;> rfl
  rw [happly]
  constructor
  · intro h
    obtain ⟨hp, rfl⟩ := problemsErr_ok h
    exact ⟨List.flatten_eq_nil_iff.mp hp, rfl⟩
  · intro h
    obtain ⟨hp, rfl⟩ := h
    exact if_pos (List.flatten_eq_nil_iff.mpr hp)

theorem Kind.coordProblems_subset (k : Kind) (texts : Texts) (b : k.Input) (r : k.Record) :
    k.coordProblems b ⊆ k.problems texts b r := by
  cases k with
  | unit => simp [Kind.coordProblems, Kind.problems, UnitInput.problems]
  | compound => simp [Kind.coordProblems, Kind.problems, CompoundInput.problems]
  | area => exact List.nil_subset _
  | owner => exact List.nil_subset _

/-- **An edit, column by column.** -/
theorem Kind.edit_follows {k : Kind} {b : k.Input} (h : ∀ p ∈ k.coordProblems b, p = []) (r : k.Record) :
    k.recordId (k.edit b r) = k.recordId r ∧ ∀ c ∈ k.columns, c.Follows b r (k.edit b r) := by
  cases k with
  | unit =>
    refine ⟨rfl, ?_⟩
    simp only [Kind.coordProblems, List.forall_mem_cons] at h
    obtain ⟨hlat, hlng, -⟩ := h
    simp only [Kind.columns, unitColumns, List.forall_mem_cons]
    exact ⟨plain_follows rfl, plain_follows rfl, plain_follows rfl, text_follows rfl, text_follows rfl,
      text_follows rfl, text_follows rfl, nullText_follows rfl, nullText_follows rfl, plain_follows rfl,
      plain_follows rfl, plain_follows rfl, plain_follows rfl, plain_follows rfl, nullable_follows rfl,
      nullable_follows rfl, plain_follows rfl, plain_follows rfl, nullable_follows rfl,
      amenities_follows rfl, coord_follows rfl hlat, coord_follows rfl hlng, nullText_follows rfl,
      plain_follows rfl, nullable_follows rfl, plain_follows rfl, plain_follows rfl, plain_follows rfl,
      fun _ hc => absurd hc List.not_mem_nil⟩
  | compound =>
    refine ⟨rfl, ?_⟩
    simp only [Kind.coordProblems, List.forall_mem_cons] at h
    obtain ⟨hlat, hlng, -⟩ := h
    simp only [Kind.columns, compoundColumns, List.forall_mem_cons]
    exact ⟨plain_follows rfl, plain_follows rfl, text_follows rfl, text_follows rfl, text_follows rfl,
      text_follows rfl, amenities_follows rfl, plain_follows rfl, nullText_follows rfl,
      nullText_follows rfl, coord_follows rfl hlat, coord_follows rfl hlng, nullText_follows rfl,
      plain_follows rfl, fun _ hc => absurd hc List.not_mem_nil⟩
  | area =>
    refine ⟨rfl, ?_⟩
    simp only [Kind.columns, areaColumns, List.forall_mem_cons]
    exact ⟨plain_follows rfl, text_follows rfl, text_follows rfl, plain_follows rfl,
      nullable_follows rfl, plain_follows rfl, fun _ hc => absurd hc List.not_mem_nil⟩
  | owner =>
    refine ⟨rfl, ?_⟩
    simp only [Kind.columns, ownerColumns, List.forall_mem_cons]
    exact ⟨text_follows rfl, text_follows rfl, nullText_follows rfl, nullText_follows rfl,
      nullText_follows rfl, plain_follows rfl, fun _ hc => absurd hc List.not_mem_nil⟩

/-- **An accepted edit, column by column.** -/
theorem Kind.apply_follows {k : Kind} {texts : Texts} {b : k.Input} {r r' : k.Record}
    (h : k.apply texts b r = .ok r') :
    k.recordId r' = k.recordId r ∧ ∀ c ∈ k.columns, c.Follows b r r' := by
  obtain ⟨hp, rfl⟩ := Kind.apply_ok.mp h
  exact Kind.edit_follows (fun p hmem => hp p (k.coordProblems_subset texts b _ hmem)) r

/-- The columns are all there is to a record. -/
theorem Kind.eq_of_columns {k : Kind} {r r' : k.Record} (hid : k.recordId r = k.recordId r')
    (h : ∀ c ∈ k.columns, c.get r = c.get r') : r = r' := by
  cases k with
  | unit =>
    simp only [Kind.columns, unitColumns, List.forall_mem_cons] at h
    cases r
    cases r'
    simp_all [plain, text, nullText, nullable, coord, Column.amenities, Kind.recordId]
  | compound =>
    simp only [Kind.columns, compoundColumns, List.forall_mem_cons] at h
    cases r
    cases r'
    simp_all [plain, text, nullText, coord, Column.amenities, Kind.recordId]
  | area =>
    simp only [Kind.columns, areaColumns, List.forall_mem_cons] at h
    cases r
    cases r'
    simp_all [plain, text, nullable, Kind.recordId]
  | owner =>
    simp only [Kind.columns, ownerColumns, List.forall_mem_cons] at h
    cases r
    cases r'
    simp_all [plain, text, nullText, Kind.recordId]

end Sahel

import Sahel.Store.Catalogue

/-!
# Queries of the catalogue

`AdminGet…` reads a whole row, without a lock; `AdminUpdate…` writes every column of it and locks it
to the end of its transaction, together with the slug it enters.  A unique slug, the CHECK
constraints and the foreign keys can refuse an update; one that finds no row writes nothing.

`catalogue` adds the two to the statements of the bookings, which lock units in the same place.
-/

set_option autoImplicit false

namespace Sahel

open KeyedTable ReadCommitted

/-- All rows: those of the bookings, and the catalogue. -/
abbrev Rows : Type := Db × Catalogue

inductive CatalogueWrite where
  | setUnit (u : UnitRow) (details : UnitDetails)
  | setCompound (c : CompoundRow)
  | setArea (a : AreaRow)
  | setOwner (o : OwnerRow)

def applyCatalogue (d : Rows) : CatalogueWrite → Rows
  | .setUnit u details => ({ d.1 with units := d.1.units.set u },
      { d.2 with details := Function.update d.2.details u.id details })
  | .setCompound c => (d.1, { d.2 with compounds := d.2.compounds.set c })
  | .setArea a => (d.1, { d.2 with areas := d.2.areas.set a })
  | .setOwner o => (d.1, { d.2 with owners := d.2.owners.set o })

/-! ### Queries -/

/-- `SELECT * … WHERE id = $1`. -/
def Kind.find : (k : Kind) → ℕ → Rows → Option k.Record
  | .unit, id, d => (d.1.units.find? id).map (fun u => (u.params (d.2.details u.id)).record)
  | .compound, id, d => (d.2.compounds.find? id).map CompoundRow.record
  | .area, id, d => (d.2.areas.find? id).map AreaRow.record
  | .owner, id, d => (d.2.owners.find? id).map OwnerRow.record

/-- What an update answers and writes. -/
abbrev Updated (Record : Type) : Type := Except PgError (Option Record × List CatalogueWrite)

def updateUnit (arg : AdminUpdateUnitParams) (d : Rows) : Updated UnitRecord :=
  match d.1.units.find? arg.id with
  | none => .ok (none, [])
  | some _ =>
    match arg.row with
    | .error e => .error e
    | .ok u =>
      if ∃ x ∈ d.1.units.rows, x.id ≠ arg.id ∧ x.slug = arg.slug then
        .error (.uniqueViolation "units_slug_key")
      else if (d.2.owners.find? arg.details.ownerId).isNone then
        .error (.fkViolation "units_owner_id_fkey")
      else if (d.2.compounds.find? arg.details.compoundId).isNone then
        .error (.fkViolation "units_compound_id_fkey")
      else .ok (some arg.record, [.setUnit u arg.details])

def updateCompound (arg : CompoundRow) (d : Rows) : Updated CompoundRecord :=
  match d.2.compounds.find? arg.id with
  | none => .ok (none, [])
  | some _ =>
    if ∃ x ∈ d.2.compounds.rows, x.id ≠ arg.id ∧ x.slug = arg.slug then
      .error (.uniqueViolation "compounds_slug_key")
    else if (d.2.areas.find? arg.areaId).isNone then .error (.fkViolation "compounds_area_id_fkey")
    else .ok (some arg.record, [.setCompound arg])

def updateArea (arg : AreaRow) (d : Rows) : Updated AreaRecord :=
  match d.2.areas.find? arg.id with
  | none => .ok (none, [])
  | some _ =>
    if ∃ x ∈ d.2.areas.rows, x.id ≠ arg.id ∧ x.slug = arg.slug then
      .error (.uniqueViolation "areas_slug_key")
    else .ok (some arg.record, [.setArea arg])

def updateOwner (arg : OwnerRecord) (d : Rows) : Updated OwnerRecord :=
  match d.2.owners.find? arg.id with
  | none => .ok (none, [])
  | some _ =>
    match arg.row with
    | .error e => .error e
    | .ok o => .ok (some arg, [.setOwner o])

/-- `UPDATE … WHERE id = @id RETURNING *`. -/
def Kind.update : (k : Kind) → k.Params → Rows → Updated k.Record
  | .unit, arg, d => updateUnit arg d
  | .compound, arg, d => updateCompound arg d
  | .area, arg, d => updateArea arg d
  | .owner, arg, d => updateOwner arg d

/-- The slug an update enters; owners have none. -/
def Kind.slug? : (k : Kind) → k.Params → Option String
  | .unit, arg => some (AdminUpdateUnitParams.slug arg)
  | .compound, arg => some (CompoundRow.slug arg)
  | .area, arg => some (AreaRow.slug arg)
  | .owner, _ => none

/-! ### Statements and locks -/

inductive CatalogueStmt where
  | adminGet (k : Kind) (id : ℕ)
  | adminUpdate (k : Kind) (arg : k.Params)

@[reducible] def CatalogueStmt.Val : CatalogueStmt → Type
  | .adminGet k _ => Option k.Record
  | .adminUpdate k _ => Option k.Record

def CatalogueStmt.eval : (s : CatalogueStmt) → Oracle → ℤ → Rows →
    Except PgError (s.Val × List CatalogueWrite)
  | .adminGet k id, _, _, d => .ok (k.find id d, [])
  | .adminUpdate k arg, _, _, d => k.update arg d

inductive CatalogueLock where
  | row (k : Kind) (id : ℕ)
  | slug (k : Kind) (s : String)
  deriving DecidableEq

/-- The lock of a row; a unit's is the one bookings and blocks take. -/
def rowLock : Kind → ℕ → Lock ⊕ CatalogueLock
  | .unit, id => .inl (.unit id)
  | k, id => .inr (.row k id)

def CatalogueStmt.locks : CatalogueStmt → Oracle → ℤ → Rows → List (Lock ⊕ CatalogueLock)
  | .adminGet _ _, _, _, _ => []
  | .adminUpdate k arg, _, _, _ =>
    rowLock k (k.id arg) :: (k.slug? arg).toList.map (fun s => .inr (.slug k s))

/-- The catalogue's rows and queries, added to those of the bookings. -/
def catalogue : Extra postgres Catalogue CatalogueWrite CatalogueLock CatalogueStmt
    CatalogueStmt.Val where
  apply := applyCatalogue
  eval := CatalogueStmt.eval
  locks := CatalogueStmt.locks
  conflict l l' := decide (l = l')
  conflict_comm l l' := by simp only [eq_comm]

/-! ### What an update does -/

/-- A write that stores `arg` in its row, and touches no other row and no other unit. -/
structure Stores (k : Kind) (arg : k.Params) (w : CatalogueWrite) : Prop where
  self : ∀ d, (k.find (k.id arg) d).isSome →
    k.find (k.id arg) (applyCatalogue d w) = some (k.record arg)
  other : ∀ (k' : Kind) (id : ℕ) d, k' ≠ k ∨ id ≠ k.id arg →
    k'.find id (applyCatalogue d w) = k'.find id d
  units : ∀ (id : ℕ) (d : Rows), k ≠ .unit ∨ k.id arg ≠ id →
    (applyCatalogue d w).1.units.find? id = d.1.units.find? id

/-- Another row of the same kind has another id. -/
theorem id_of_same_kind {k : Kind} {id id' : ℕ} (h : k ≠ k ∨ id ≠ id') : id' ≠ id :=
  Ne.symm (h.resolve_left (fun hk => hk rfl))

theorem stores_unit {arg : AdminUpdateUnitParams} {u : UnitRow} (h : arg.row = .ok u) :
    Stores .unit arg (.setUnit u arg.details) := by
  obtain ⟨hparams, hid, -⟩ := AdminUpdateUnitParams.params_row h
  constructor
  · intro d hd
    change ((d.1.units.set u).find? arg.id).map (fun x =>
      (x.params (Function.update d.2.details u.id arg.details x.id)).record) = some arg.record
    have hfound : (d.1.units.find? arg.id).isSome := by simpa [Kind.find, Kind.id] using hd
    rw [← hid] at hfound ⊢
    rw [Table.find?_set_self hfound]
    simp only [Option.map_some, Function.update_self, hparams]
  · intro k' id d hne
    cases k' with
    | unit =>
      have hid' : u.id ≠ id := by
        rw [hid]
        exact id_of_same_kind hne
      change ((d.1.units.set u).find? id).map (fun x =>
        (x.params (Function.update d.2.details u.id arg.details x.id)).record)
          = (d.1.units.find? id).map (fun x => (x.params (d.2.details x.id)).record)
      rw [Table.find?_set_ne hid']
      cases hf : d.1.units.find? id with
      | none => rfl
      | some x =>
        have hx := (Table.mem_of_find? hf).2
        simp only [Option.map_some]
        rw [Function.update_of_ne (by rw [hx]; exact Ne.symm hid')]
    | _ => rfl
  · intro id d hne
    refine Table.find?_set_ne ?_
    rw [hid]
    exact hne.resolve_left (fun hk => hk rfl)

theorem stores_compound (arg : CompoundRow) : Stores .compound arg (.setCompound arg) := by
  constructor
  · intro d hd
    have hfound : (d.2.compounds.find? arg.id).isSome := by simpa [Kind.find, Kind.id] using hd
    exact congrArg (Option.map CompoundRow.record) (Table.find?_set_self hfound)
  · intro k' id d hne
    cases k' with
    | compound =>
      exact congrArg (Option.map CompoundRow.record) (Table.find?_set_ne (id_of_same_kind hne))
    | _ => rfl
  · exact fun _ _ _ => rfl

theorem stores_area (arg : AreaRow) : Stores .area arg (.setArea arg) := by
  constructor
  · intro d hd
    have hfound : (d.2.areas.find? arg.id).isSome := by simpa [Kind.find, Kind.id] using hd
    exact congrArg (Option.map AreaRow.record) (Table.find?_set_self hfound)
  · intro k' id d hne
    cases k' with
    | area =>
      exact congrArg (Option.map AreaRow.record) (Table.find?_set_ne (id_of_same_kind hne))
    | _ => rfl
  · exact fun _ _ _ => rfl

theorem stores_owner {arg : OwnerRecord} {o : OwnerRow} (h : arg.row = .ok o) :
    Stores .owner arg (.setOwner o) := by
  obtain ⟨hrecord, hid⟩ := OwnerRecord.record_row h
  constructor
  · intro d hd
    have hfound : (d.2.owners.find? o.id).isSome := by
      rw [hid]
      simpa [Kind.find, Kind.id] using hd
    change ((d.2.owners.set o).find? arg.id).map OwnerRow.record = some arg
    rw [← hid, Table.find?_set_self hfound, Option.map_some, hrecord]
  · intro k' id d hne
    cases k' with
    | owner =>
      have hid' : o.id ≠ id := by
        rw [hid]
        exact id_of_same_kind hne
      exact congrArg (Option.map OwnerRow.record) (Table.find?_set_ne hid')
    | _ => rfl
  · exact fun _ _ _ => rfl

/-- **An update stores what it was sent**, or finds no row. -/
theorem Kind.update_ok {k : Kind} {arg : k.Params} {d : Rows} {v : Option k.Record}
    {ws : List CatalogueWrite} (h : k.update arg d = .ok (v, ws)) :
    (v = none ∧ ws = []) ∨ (v = some (k.record arg) ∧ ∃ w, ws = [w] ∧ Stores k arg w) := by
  cases k with
  | unit =>
    simp only [Kind.update, updateUnit] at h
    split at h
    · cases h
      exact Or.inl ⟨rfl, rfl⟩
    · split at h
      · cases h
      · rename_i u hu
        split_ifs at h
        cases h
        exact Or.inr ⟨rfl, _, rfl, stores_unit hu⟩
  | compound =>
    simp only [Kind.update, updateCompound] at h
    split at h
    · cases h
      exact Or.inl ⟨rfl, rfl⟩
    · split_ifs at h
      cases h
      exact Or.inr ⟨rfl, _, rfl, stores_compound arg⟩
  | area =>
    simp only [Kind.update, updateArea] at h
    split at h
    · cases h
      exact Or.inl ⟨rfl, rfl⟩
    · split_ifs at h
      cases h
      exact Or.inr ⟨rfl, _, rfl, stores_area arg⟩
  | owner =>
    simp only [Kind.update, updateOwner] at h
    split at h
    · cases h
      exact Or.inl ⟨rfl, rfl⟩
    · split at h
      · cases h
      · rename_i o ho
        cases h
        exact Or.inr ⟨rfl, _, rfl, stores_owner ho⟩

end Sahel

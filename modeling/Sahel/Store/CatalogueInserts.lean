import Sahel.Store.CatalogueQueries

/-!
# Inserts into the catalogue

`AdminCreate…` inserts a row under a random id and answers it as stored.  The CHECK constraints are
seen first, then the primary key, the unique slug, and the foreign keys.

* `Kind.slug`, `Kind.slugs` and `Kind.references` are what the constraints of the four tables are
  about: a row's slug, those that are taken, and the rows it refers to;
* `Inserts` is what a row that was inserted changes;
* **`Kind.create_ok`**, **`Kind.create_error`**: when an insert goes through and when it is refused;
* `creations` adds the inserts to the statements of the edits.
-/

set_option autoImplicit false

namespace Sahel

open KeyedTable ReadCommitted

inductive CatalogueInsert where
  | unit (u : UnitRow) (details : UnitDetails)
  | compound (c : CompoundRow)
  | area (a : AreaRow)
  | owner (o : OwnerRow)

def applyInsert (d : Rows) : CatalogueInsert → Rows
  | .unit u details => ({ d.1 with units := d.1.units.insert u },
      { d.2 with details := Function.update d.2.details u.id details })
  | .compound c => (d.1, { d.2 with compounds := d.2.compounds.insert c })
  | .area a => (d.1, { d.2 with areas := d.2.areas.insert a })
  | .owner o => (d.1, { d.2 with owners := d.2.owners.insert o })

/-! ### Queries -/

/-- What an insert answers and writes. -/
abbrev Created (Record : Type) : Type := Except PgError (Record × List CatalogueInsert)

def createUnit (arg : AdminUpdateUnitParams) (d : Rows) : Created UnitRecord :=
  match arg.row with
  | .error e => .error e
  | .ok u =>
    if (d.1.units.find? arg.id).isSome then .error (.uniqueViolation "units_pkey")
    else if ∃ x ∈ d.1.units.rows, x.slug = arg.slug then .error (.uniqueViolation "units_slug_key")
    else if (d.2.owners.find? arg.details.ownerId).isNone then
      .error (.fkViolation "units_owner_id_fkey")
    else if (d.2.compounds.find? arg.details.compoundId).isNone then
      .error (.fkViolation "units_compound_id_fkey")
    else .ok (arg.record, [.unit u arg.details])

def createCompound (arg : CompoundRow) (d : Rows) : Created CompoundRecord :=
  if (d.2.compounds.find? arg.id).isSome then .error (.uniqueViolation "compounds_pkey")
  else if ∃ x ∈ d.2.compounds.rows, x.slug = arg.slug then
    .error (.uniqueViolation "compounds_slug_key")
  else if (d.2.areas.find? arg.areaId).isNone then .error (.fkViolation "compounds_area_id_fkey")
  else .ok (arg.record, [.compound arg])

def createArea (arg : AreaRow) (d : Rows) : Created AreaRecord :=
  if (d.2.areas.find? arg.id).isSome then .error (.uniqueViolation "areas_pkey")
  else if ∃ x ∈ d.2.areas.rows, x.slug = arg.slug then .error (.uniqueViolation "areas_slug_key")
  else .ok (arg.record, [.area arg])

def createOwner (arg : OwnerRecord) (d : Rows) : Created OwnerRecord :=
  match arg.row with
  | .error e => .error e
  | .ok o =>
    if (d.2.owners.find? arg.id).isSome then .error (.uniqueViolation "owners_pkey")
    else .ok (arg, [.owner o])

/-- `INSERT … RETURNING *`. -/
def Kind.create : (k : Kind) → k.Params → Rows → Created k.Record
  | .unit, arg, d => createUnit arg d
  | .compound, arg, d => createCompound arg d
  | .area, arg, d => createArea arg d
  | .owner, arg, d => createOwner arg d

/-- What is sent, with the id the row is stored under. -/
def Kind.withId : (k : Kind) → k.Params → ℕ → k.Params
  | .unit, arg, id => { (arg : AdminUpdateUnitParams) with id := id }
  | .compound, arg, id => { (arg : CompoundRow) with id := id }
  | .area, arg, id => { (arg : AreaRow) with id := id }
  | .owner, arg, id => { (arg : OwnerRecord) with id := id }

/-! ### Statements -/

inductive CreateStmt where
  | adminCreate (k : Kind) (arg : k.Params)

@[reducible] def CreateStmt.Val : CreateStmt → Type
  | .adminCreate k _ => k.Record

/-- The inserts, added to the statements of the edits; they add no tables. -/
def creations : Extra catalogue.database PUnit CatalogueInsert Empty CreateStmt CreateStmt.Val where
  apply d w := (applyInsert d.1 w, d.2)
  eval
    | .adminCreate k arg, o, _, d => k.create (k.withId arg o.uuid) d.1
  locks _ _ _ _ := []
  conflict l _ := l.elim
  conflict_comm l _ := l.elim

/-! ### What the constraints are about -/

/-- The slug of a row; owners have none. -/
def Kind.slug : (k : Kind) → k.Record → Option String
  | .unit, r => some (UnitRecord.slug r)
  | .compound, r => some (CompoundRecord.slug r)
  | .area, r => some (AreaRecord.slug r)
  | .owner, _ => none

/-- The slugs that are taken. -/
def Kind.slugs : Kind → Rows → List String
  | .unit, d => d.1.units.rows.map UnitRow.slug
  | .compound, d => d.2.compounds.rows.map CompoundRow.slug
  | .area, d => d.2.areas.rows.map AreaRow.slug
  | .owner, _ => []

/-- The rows a row refers to. -/
def Kind.references : (k : Kind) → k.Record → List (Kind × ℕ)
  | .unit, r => (UnitRecord.ownerId r).toList.map (Prod.mk .owner)
      ++ (UnitRecord.compoundId r).toList.map (Prod.mk .compound)
  | .compound, r => (CompoundRecord.areaId r).toList.map (Prod.mk .area)
  | .area, _ => []
  | .owner, _ => []

/-- Every row referred to is there. -/
def Kind.Referable (k : Kind) (r : k.Record) (d : Rows) : Prop :=
  ∀ p ∈ k.references r, (p.1.find p.2 d).isSome

/-- The CHECK constraints hold of a row. -/
def Kind.Storable : (k : Kind) → k.Params → Prop
  | .unit, arg => ∃ u, AdminUpdateUnitParams.row arg = .ok u
  | .compound, _ => True
  | .area, _ => True
  | .owner, arg => ∃ o, OwnerRecord.row arg = .ok o

/-- No other row has the slug. -/
def Kind.SlugFree (k : Kind) (r : k.Record) (d : Rows) : Prop := ∀ sl ∈ k.slugs d, k.slug r ≠ some sl

/-- The rows of a table are what is found under the ids. -/
theorem exists_row_iff {Row Record : Type} {key : Row → ℕ} (t : Table ℕ Row key) (f : Row → Record)
    (P : ℕ → Record → Prop) :
    (∃ x ∈ t.rows, P (key x) (f x)) ↔ ∃ id r, (t.find? id).map f = some r ∧ P id r := by
  constructor
  · intro hmem
    obtain ⟨x, hx, hP⟩ := hmem
    exact ⟨key x, f x, congrArg (Option.map f) (Table.find?_of_mem hx), hP⟩
  · intro hfound
    obtain ⟨id, r, hr, hP⟩ := hfound
    obtain ⟨x, hx, rfl⟩ := Option.map_eq_some_iff.mp hr
    obtain ⟨hmem, rfl⟩ := Table.mem_of_find? hx
    exact ⟨x, hmem, hP⟩

theorem mem_map_rows {Row Record : Type} {key : Row → ℕ} (t : Table ℕ Row key) (f : Row → Record)
    (g : Row → String) (slug : Record → Option String) (h : ∀ x, slug (f x) = some (g x)) {sl : String} :
    sl ∈ t.rows.map g ↔ ∃ id r, (t.find? id).map f = some r ∧ slug r = some sl := by
  rw [← exists_row_iff t f (fun _ r => slug r = some sl), List.mem_map]
  simp only [h, Option.some.injEq]

/-- A taken slug is that of a row. -/
theorem Kind.mem_slugs {k : Kind} {d : Rows} {sl : String} :
    sl ∈ k.slugs d ↔ ∃ id r, k.find id d = some r ∧ k.slug r = some sl := by
  cases k with
  | unit =>
    exact mem_map_rows d.1.units (fun u => (u.params (d.2.details u.id)).record) UnitRow.slug
      (Kind.slug .unit) (fun _ => rfl)
  | compound =>
    exact mem_map_rows d.2.compounds CompoundRow.record CompoundRow.slug (Kind.slug .compound)
      (fun _ => rfl)
  | area => exact mem_map_rows d.2.areas AreaRow.record AreaRow.slug (Kind.slug .area) (fun _ => rfl)
  | owner =>
    constructor
    · exact fun h => absurd h List.not_mem_nil
    · rintro ⟨id, r, -, hslug⟩
      cases hslug

/-! ### What an insert does -/

/-- A write that adds the row of `arg`, under an id that is new. -/
structure Inserts (k : Kind) (arg : k.Params) (w : CatalogueInsert) : Prop where
  self : ∀ d, k.find (k.id arg) d = none → k.find (k.id arg) (applyInsert d w) = some (k.record arg)
  other : ∀ (k' : Kind) (id : ℕ) d, k.find (k.id arg) d = none → k' ≠ k ∨ id ≠ k.id arg →
    k'.find id (applyInsert d w) = k'.find id d

theorem inserts_unit {arg : AdminUpdateUnitParams} {u : UnitRow} (h : arg.row = .ok u) :
    Inserts .unit arg (.unit u arg.details) := by
  obtain ⟨hparams, hid, -⟩ := AdminUpdateUnitParams.params_row h
  have hfree : ∀ d, Kind.find .unit arg.id d = none → d.1.units.find? u.id = none := by
    intro d hd
    rw [hid]
    exact Option.map_eq_none_iff.mp hd
  constructor
  · intro d hd
    show ((d.1.units.insert u).find? arg.id).map (fun x =>
      (x.params (Function.update d.2.details u.id arg.details x.id)).record) = some arg.record
    rw [Table.find?_insert (hfree d hd), if_pos hid, Option.map_some, Function.update_self, hparams]
  · intro k' id d hd hne
    cases k' with
    | unit =>
      have hid' : u.id ≠ id := by
        rw [hid]
        exact id_of_same_kind hne
      show ((d.1.units.insert u).find? id).map (fun x =>
        (x.params (Function.update d.2.details u.id arg.details x.id)).record)
          = (d.1.units.find? id).map (fun x => (x.params (d.2.details x.id)).record)
      rw [Table.find?_insert (hfree d hd), if_neg hid']
      cases hf : d.1.units.find? id with
      | none => rfl
      | some x =>
        have hx := (Table.mem_of_find? hf).2
        rw [Option.map_some, Option.map_some, Function.update_of_ne (by rw [hx]; exact Ne.symm hid')]
    | _ => rfl

theorem inserts_compound (arg : CompoundRow) : Inserts .compound arg (.compound arg) := by
  have hfree : ∀ d, Kind.find .compound arg.id d = none → d.2.compounds.find? arg.id = none :=
    fun d hd => Option.map_eq_none_iff.mp hd
  constructor
  · intro d hd
    show ((d.2.compounds.insert arg).find? arg.id).map CompoundRow.record = _
    rw [Table.find?_insert (hfree d hd), if_pos rfl]
    rfl
  · intro k' id d hd hne
    cases k' with
    | compound =>
      show ((d.2.compounds.insert arg).find? id).map CompoundRow.record = _
      have hne' : arg.id ≠ id := (hne.resolve_left (fun hk => hk rfl)).symm
      rw [Table.find?_insert (hfree d hd), if_neg hne']
      rfl
    | _ => rfl

theorem inserts_area (arg : AreaRow) : Inserts .area arg (.area arg) := by
  have hfree : ∀ d, Kind.find .area arg.id d = none → d.2.areas.find? arg.id = none :=
    fun d hd => Option.map_eq_none_iff.mp hd
  constructor
  · intro d hd
    show ((d.2.areas.insert arg).find? arg.id).map AreaRow.record = _
    rw [Table.find?_insert (hfree d hd), if_pos rfl]
    rfl
  · intro k' id d hd hne
    cases k' with
    | area =>
      show ((d.2.areas.insert arg).find? id).map AreaRow.record = _
      have hne' : arg.id ≠ id := (hne.resolve_left (fun hk => hk rfl)).symm
      rw [Table.find?_insert (hfree d hd), if_neg hne']
      rfl
    | _ => rfl

theorem inserts_owner {arg : OwnerRecord} {o : OwnerRow} (h : arg.row = .ok o) :
    Inserts .owner arg (.owner o) := by
  obtain ⟨hrecord, hid⟩ := OwnerRecord.record_row h
  have hfree : ∀ d, Kind.find .owner arg.id d = none → d.2.owners.find? o.id = none := by
    intro d hd
    rw [hid]
    exact Option.map_eq_none_iff.mp hd
  constructor
  · intro d hd
    show ((d.2.owners.insert o).find? arg.id).map OwnerRow.record = some arg
    rw [Table.find?_insert (hfree d hd), if_pos hid, Option.map_some, hrecord]
  · intro k' id d hd hne
    cases k' with
    | owner =>
      show ((d.2.owners.insert o).find? id).map OwnerRow.record = _
      have hne' : arg.id ≠ id := (hne.resolve_left (fun hk => hk rfl)).symm
      rw [Table.find?_insert (hfree d hd), if_neg (by rwa [hid])]
      rfl
    | _ => rfl

/-- What an insert that goes through has found, and what it has done. -/
structure Creates (k : Kind) (arg : k.Params) (d : Rows) (v : k.Record) (w : CatalogueInsert) : Prop where
  value : v = k.record arg
  free : k.find (k.id arg) d = none
  slugFree : k.SlugFree v d
  referable : k.Referable v d
  inserts : Inserts k arg w

theorem slugFree_of_not {Row : Type} {rows : List Row} {g : Row → String} {sl : String}
    (h : ¬ ∃ x ∈ rows, g x = sl) : ∀ s ∈ rows.map g, some sl ≠ some s := by
  intro s hs he
  obtain ⟨x, hx, rfl⟩ := List.mem_map.mp hs
  exact h ⟨x, hx, (Option.some.inj he).symm⟩

theorem find_of_not_isSome {Row Record : Type} {x : Option Row} {f : Row → Record}
    (h : ¬ x.isSome = true) : x.map f = none := by
  rw [Bool.not_eq_true, Option.isSome_eq_false_iff, Option.isNone_iff_eq_none] at h
  rw [h]
  rfl

theorem isSome_of_not_isNone {Row Record : Type} {x : Option Row} {f : Row → Record}
    (h : ¬ x.isNone = true) : (x.map f).isSome = true := by
  cases x with
  | none => exact absurd rfl h
  | some a => rfl

theorem not_slugFree {Row : Type} {rows : List Row} {g : Row → String} {sl : String}
    (h : ∃ x ∈ rows, g x = sl) : ¬ ∀ s ∈ rows.map g, some sl ≠ some s := by
  obtain ⟨x, hx, rfl⟩ := h
  exact fun hall => hall _ (List.mem_map_of_mem hx) rfl

theorem not_isSome_of_find {Row Record : Type} {x : Option Row} {f : Row → Record}
    (h : x.map f = none) : ¬ x.isSome = true := by
  rw [Option.map_eq_none_iff.mp h]
  exact Bool.false_ne_true

theorem not_isSome_of_isNone {Row Record : Type} {x : Option Row} {f : Row → Record}
    (h : x.isNone = true) : ¬ (x.map f).isSome = true := by
  rw [Option.isNone_iff_eq_none.mp h]
  exact Bool.false_ne_true

/-- **An insert that goes through.** -/
theorem Kind.create_ok {k : Kind} {arg : k.Params} {d : Rows} {v : k.Record}
    {ws : List CatalogueInsert} (h : k.create arg d = .ok (v, ws)) :
    ∃ w, ws = [w] ∧ Creates k arg d v w := by
  cases k with
  | unit =>
    simp only [Kind.create, createUnit] at h
    split at h
    · cases h
    · rename_i u hu
      split_ifs at h with hid hslug howner hcompound
      cases h
      refine ⟨_, rfl, rfl, find_of_not_isSome hid, slugFree_of_not hslug, ?_, inserts_unit hu⟩
      show ∀ p ∈ [(Kind.owner, arg.details.ownerId), (Kind.compound, arg.details.compoundId)], _
      rw [List.forall_mem_cons, List.forall_mem_singleton]
      exact ⟨isSome_of_not_isNone howner, isSome_of_not_isNone hcompound⟩
  | compound =>
    simp only [Kind.create, createCompound] at h
    split_ifs at h with hid hslug harea
    cases h
    refine ⟨_, rfl, rfl, find_of_not_isSome hid, slugFree_of_not hslug, ?_, inserts_compound arg⟩
    show ∀ p ∈ [(Kind.area, arg.areaId)], _
    rw [List.forall_mem_singleton]
    exact isSome_of_not_isNone harea
  | area =>
    simp only [Kind.create, createArea] at h
    split_ifs at h with hid hslug
    cases h
    exact ⟨_, rfl, rfl, find_of_not_isSome hid, slugFree_of_not hslug,
      fun p hp => absurd hp List.not_mem_nil, inserts_area arg⟩
  | owner =>
    simp only [Kind.create, createOwner] at h
    split at h
    · cases h
    · rename_i o ho
      split_ifs at h with hid
      cases h
      exact ⟨_, rfl, rfl, find_of_not_isSome hid, fun sl hsl => absurd hsl List.not_mem_nil,
        fun p hp => absurd hp List.not_mem_nil, inserts_owner ho⟩

/-- **An insert that is refused**, of a row that keeps the CHECK constraints under a new id: for its
slug, or else for what it refers to. -/
theorem Kind.create_error {k : Kind} {arg : k.Params} {d : Rows} {e : PgError}
    (h : k.create arg d = .error e) (hstore : k.Storable arg) (hfree : k.find (k.id arg) d = none) :
    (¬ k.SlugFree (k.record arg) d ∧ ∃ c, e = .uniqueViolation c) ∨
      k.SlugFree (k.record arg) d ∧ ¬ k.Referable (k.record arg) d ∧ ∃ c, e = .fkViolation c := by
  cases k with
  | unit =>
    obtain ⟨u, hu⟩ := hstore
    have hnew : ¬ (d.1.units.find? arg.id).isSome = true := not_isSome_of_find hfree
    simp only [Kind.create, createUnit, hu] at h
    rw [if_neg hnew] at h
    split_ifs at h with hslug howner hcompound
    · cases h
      exact Or.inl ⟨not_slugFree hslug, _, rfl⟩
    · cases h
      refine Or.inr ⟨slugFree_of_not hslug, fun href => ?_, _, rfl⟩
      exact not_isSome_of_isNone howner (href (.owner, arg.details.ownerId) List.mem_cons_self)
    · cases h
      refine Or.inr ⟨slugFree_of_not hslug, fun href => ?_, _, rfl⟩
      exact not_isSome_of_isNone hcompound (href (.compound, arg.details.compoundId)
        (List.mem_cons_of_mem _ List.mem_cons_self))
  | compound =>
    have hnew : ¬ (d.2.compounds.find? arg.id).isSome = true := not_isSome_of_find hfree
    simp only [Kind.create, createCompound] at h
    rw [if_neg hnew] at h
    split_ifs at h with hslug harea
    · cases h
      exact Or.inl ⟨not_slugFree hslug, _, rfl⟩
    · cases h
      refine Or.inr ⟨slugFree_of_not hslug, fun href => ?_, _, rfl⟩
      exact not_isSome_of_isNone harea (href (.area, arg.areaId) List.mem_cons_self)
  | area =>
    have hnew : ¬ (d.2.areas.find? arg.id).isSome = true := not_isSome_of_find hfree
    simp only [Kind.create, createArea] at h
    rw [if_neg hnew] at h
    split_ifs at h with hslug
    cases h
    exact Or.inl ⟨not_slugFree hslug, _, rfl⟩
  | owner =>
    obtain ⟨o, ho⟩ := hstore
    have hnew : ¬ (d.2.owners.find? arg.id).isSome = true := not_isSome_of_find hfree
    simp only [Kind.create, createOwner, ho] at h
    rw [if_neg hnew] at h
    cases h

end Sahel

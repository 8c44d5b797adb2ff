import Sahel.Http.AdminColumns
import Sahel.Store.CatalogueInserts

/-!
# What UNIQUE and REFERENCES keep

No two rows of a table have one slug, and what a row refers to is there.

* `KeysHold` says so of all rows;
* `Kind.update_guards`, `Kind.update_of_guards`: an update goes through just when it keeps to this;
* **`KeysHold.changed`**: so updates and inserts leave it true.
-/

set_option autoImplicit false

namespace Sahel

open KeyedTable ReadCommitted

/-- The slug of `r` is its own: no row under another id has it. -/
def Kind.SlugOwn (k : Kind) (r : k.Record) (d : Rows) : Prop :=
  ∀ id r' sl, k.find id d = some r' → k.slug r' = some sl → k.slug r = some sl → id = k.recordId r

/-- What the UNIQUE and REFERENCES constraints say of the rows. -/
structure KeysHold (d : Rows) : Prop where
  slugs : ∀ (k : Kind) id r, k.find id d = some r → k.SlugOwn r d
  refs : ∀ (k : Kind) id r, k.find id d = some r → k.Referable r d

/-! ### Updates -/

theorem slugOwn_of_not {Row Record : Type} {key : Row → ℕ} (t : Table ℕ Row key) (f : Row → Record)
    (g : Row → String) (slug : Record → Option String) (h : ∀ x, slug (f x) = some (g x)) {own : ℕ}
    {sl : String} : (¬ ∃ x ∈ t.rows, key x ≠ own ∧ g x = sl) ↔
      ∀ id r' s, (t.find? id).map f = some r' → slug r' = some s → some sl = some s → id = own := by
  have hrows : (∃ x ∈ t.rows, key x ≠ own ∧ g x = sl) ↔
      ∃ id r', (t.find? id).map f = some r' ∧ id ≠ own ∧ slug r' = some sl := by
    rw [← exists_row_iff t f (fun id r' => id ≠ own ∧ slug r' = some sl)]
    simp only [h, Option.some.injEq]
  rw [hrows]
  constructor
  · intro hnone id r' s hr' hs hsl
    by_contra hne
    exact hnone ⟨id, r', hr', hne, hs.trans hsl.symm⟩
  · rintro hall ⟨id, r', hr', hne, hs⟩
    exact hne (hall id r' sl hr' hs rfl)

theorem unit_slugOwn {arg : AdminUpdateUnitParams} {d : Rows} :
    (¬ ∃ x ∈ d.1.units.rows, x.id ≠ arg.id ∧ x.slug = arg.slug) ↔ Kind.SlugOwn .unit arg.record d :=
  slugOwn_of_not d.1.units (fun u => (u.params (d.2.details u.id)).record) UnitRow.slug
    (Kind.slug .unit) (fun _ => rfl)

theorem compound_slugOwn {arg : CompoundRow} {d : Rows} :
    (¬ ∃ x ∈ d.2.compounds.rows, x.id ≠ arg.id ∧ x.slug = arg.slug) ↔
      Kind.SlugOwn .compound arg.record d :=
  slugOwn_of_not d.2.compounds CompoundRow.record CompoundRow.slug (Kind.slug .compound) (fun _ => rfl)

theorem area_slugOwn {arg : AreaRow} {d : Rows} :
    (¬ ∃ x ∈ d.2.areas.rows, x.id ≠ arg.id ∧ x.slug = arg.slug) ↔ Kind.SlugOwn .area arg.record d :=
  slugOwn_of_not d.2.areas AreaRow.record AreaRow.slug (Kind.slug .area) (fun _ => rfl)

/-- An update that goes through has found its row and has kept to both constraints. -/
structure Updates (k : Kind) (arg : k.Params) (d : Rows) (w : CatalogueWrite) : Prop where
  found : (k.find (k.id arg) d).isSome
  slugOwn : k.SlugOwn (k.record arg) d
  referable : k.Referable (k.record arg) d
  stores : Stores k arg w

theorem isSome_find {Row Record : Type} {x : Option Row} {f : Row → Record} {a : Row} (h : x = some a) :
    (x.map f).isSome = true := by
  rw [h]
  rfl

/-- **An update that goes through.** -/
theorem Kind.update_guards {k : Kind} {arg : k.Params} {d : Rows} {v : k.Record}
    {ws : List CatalogueWrite} (h : k.update arg d = .ok (some v, ws)) :
    v = k.record arg ∧ ∃ w, ws = [w] ∧ Updates k arg d w := by
  cases k with
  | unit =>
    simp only [Kind.update, updateUnit] at h
    split at h
    · cases h
    · rename_i old hold
      split at h
      · cases h
      · rename_i u hu
        split_ifs at h with hslug howner hcompound
        cases h
        refine ⟨rfl, _, rfl, isSome_find hold, unit_slugOwn.mp hslug, ?_, stores_unit hu⟩
        show ∀ p ∈ [(Kind.owner, arg.details.ownerId), (Kind.compound, arg.details.compoundId)], _
        rw [List.forall_mem_cons, List.forall_mem_singleton]
        exact ⟨isSome_of_not_isNone howner, isSome_of_not_isNone hcompound⟩
  | compound =>
    simp only [Kind.update, updateCompound] at h
    split at h
    · cases h
    · rename_i old hold
      split_ifs at h with hslug harea
      cases h
      refine ⟨rfl, _, rfl, isSome_find hold, compound_slugOwn.mp hslug, ?_, stores_compound arg⟩
      show ∀ p ∈ [(Kind.area, arg.areaId)], _
      rw [List.forall_mem_singleton]
      exact isSome_of_not_isNone harea
  | area =>
    simp only [Kind.update, updateArea] at h
    split at h
    · cases h
    · rename_i old hold
      split_ifs at h with hslug
      cases h
      exact ⟨rfl, _, rfl, isSome_find hold, area_slugOwn.mp hslug,
        fun p hp => absurd hp List.not_mem_nil, stores_area arg⟩
  | owner =>
    simp only [Kind.update, updateOwner] at h
    split at h
    · cases h
    · rename_i old hold
      split at h
      · cases h
      · rename_i o ho
        cases h
        exact ⟨rfl, _, rfl, isSome_find hold, fun _ _ _ _ hs => (by cases hs),
          fun p hp => absurd hp List.not_mem_nil, stores_owner ho⟩

theorem find_of_isSome {Row Record : Type} {x : Option Row} {f : Row → Record}
    (h : (x.map f).isSome = true) : ∃ a, x = some a := by
  cases x with
  | none => cases h
  | some a => exact ⟨a, rfl⟩

/-- **An update that keeps to the constraints** goes through. -/
theorem Kind.update_of_guards {k : Kind} {arg : k.Params} {d : Rows}
    (hfound : (k.find (k.id arg) d).isSome) (hstore : k.Storable arg) (hown : k.SlugOwn (k.record arg) d)
    (href : k.Referable (k.record arg) d) :
    ∃ w, k.update arg d = .ok (some (k.record arg), [w]) ∧ Stores k arg w := by
  cases k with
  | unit =>
    obtain ⟨old, hold⟩ : ∃ a, d.1.units.find? arg.id = some a := find_of_isSome hfound
    obtain ⟨u, hu⟩ := hstore
    have howner : ¬ (d.2.owners.find? arg.details.ownerId).isNone = true := fun hnone =>
      not_isSome_of_isNone hnone (href (.owner, arg.details.ownerId) List.mem_cons_self)
    have hcompound : ¬ (d.2.compounds.find? arg.details.compoundId).isNone = true := fun hnone =>
      not_isSome_of_isNone hnone (href (.compound, arg.details.compoundId)
        (List.mem_cons_of_mem _ List.mem_cons_self))
    refine ⟨_, ?_, stores_unit hu⟩
    simp only [Kind.update, updateUnit, hold, hu]
    rw [if_neg (unit_slugOwn.mpr hown), if_neg howner, if_neg hcompound]
    rfl
  | compound =>
    obtain ⟨old, hold⟩ : ∃ a, d.2.compounds.find? arg.id = some a := find_of_isSome hfound
    have harea : ¬ (d.2.areas.find? arg.areaId).isNone = true := fun hnone =>
      not_isSome_of_isNone hnone (href (.area, arg.areaId) List.mem_cons_self)
    refine ⟨_, ?_, stores_compound arg⟩
    simp only [Kind.update, updateCompound, hold]
    rw [if_neg (compound_slugOwn.mpr hown), if_neg harea]
    rfl
  | area =>
    obtain ⟨old, hold⟩ : ∃ a, d.2.areas.find? arg.id = some a := find_of_isSome hfound
    refine ⟨_, ?_, stores_area arg⟩
    simp only [Kind.update, updateArea, hold]
    rw [if_neg (area_slugOwn.mpr hown)]
    rfl
  | owner =>
    obtain ⟨old, hold⟩ : ∃ a, d.2.owners.find? arg.id = some a := find_of_isSome hfound
    obtain ⟨o, ho⟩ := hstore
    refine ⟨_, ?_, stores_owner ho⟩
    simp only [Kind.update, updateOwner, hold, ho]
    rfl

/-! ### What is kept -/

/-- One row changed or added, all others as they were. -/
structure Changed (k : Kind) (r : k.Record) (d d' : Rows) : Prop where
  self : k.find (k.recordId r) d' = some r
  other : ∀ (k' : Kind) (id : ℕ), k' ≠ k ∨ id ≠ k.recordId r → k'.find id d' = k'.find id d

/-- What was there is there still. -/
theorem Changed.isSome {k : Kind} {r : k.Record} {d d' : Rows} (h : Changed k r d d') {k' : Kind}
    {id : ℕ} (hold : (k'.find id d).isSome) : (k'.find id d').isSome := by
  by_cases hself : k' = k ∧ id = k.recordId r
  · obtain ⟨rfl, rfl⟩ := hself
    rw [h.self]
    rfl
  · rw [h.other k' id (not_and_or.mp hself)]
    exact hold

/-- **A change of one row** that keeps to the constraints leaves them true. -/
theorem KeysHold.changed {k : Kind} {r : k.Record} {d d' : Rows} (h : KeysHold d)
    (hc : Changed k r d d') (hown : k.SlugOwn r d) (href : k.Referable r d) : KeysHold d' := by
  have hrefs : ∀ {k' : Kind} {r' : k'.Record}, k'.Referable r' d → k'.Referable r' d' :=
    fun hr p hp => hc.isSome (hr p hp)
  constructor
  · intro k' id' r' hr' id'' r'' sl hr'' hsl'' hsl'
    have hid : k'.recordId r' = id' := Kind.recordId_find hr'
    by_cases hself' : k' = k ∧ id' = k.recordId r
    · obtain ⟨rfl, rfl⟩ := hself'
      obtain rfl : r = r' := Option.some.inj (hc.self.symm.trans hr')
      by_cases hself'' : id'' = k'.recordId r
      · exact hself''
      · rw [hc.other k' id'' (Or.inr hself'')] at hr''
        exact hown id'' r'' sl hr'' hsl'' hsl'
    · rw [hc.other k' id' (not_and_or.mp hself')] at hr'
      by_cases hself'' : k' = k ∧ id'' = k.recordId r
      · obtain ⟨rfl, rfl⟩ := hself''
        obtain rfl : r = r'' := Option.some.inj (hc.self.symm.trans hr'')
        rw [hid, hown id' r' sl hr' hsl' hsl'']
      · rw [hc.other k' id'' (not_and_or.mp hself'')] at hr''
        exact h.slugs k' id' r' hr' id'' r'' sl hr'' hsl'' hsl'
  · intro k' id' r' hr'
    by_cases hself : k' = k ∧ id' = k.recordId r
    · obtain ⟨rfl, rfl⟩ := hself
      obtain rfl : r = r' := Option.some.inj (hc.self.symm.trans hr')
      exact hrefs href
    · rw [hc.other k' id' (not_and_or.mp hself)] at hr'
      exact hrefs (h.refs k' id' r' hr')

theorem Updates.changed {k : Kind} {arg : k.Params} {d : Rows} {w : CatalogueWrite}
    (h : Updates k arg d w) : Changed k (k.record arg) d (applyCatalogue d w) := by
  constructor
  · rw [Kind.recordId_record]
    exact h.stores.self d h.found
  · rw [Kind.recordId_record]
    exact fun k' id hne => h.stores.other k' id d hne

theorem Creates.changed {k : Kind} {arg : k.Params} {d : Rows} {v : k.Record} {w : CatalogueInsert}
    (h : Creates k arg d v w) : Changed k (k.record arg) d (applyInsert d w) := by
  constructor
  · rw [Kind.recordId_record]
    exact h.inserts.self d h.free
  · rw [Kind.recordId_record]
    exact fun k' id hne => h.inserts.other k' id d h.free hne

/-- A slug nobody has is the new row's own. -/
theorem Creates.slugOwn {k : Kind} {arg : k.Params} {d : Rows} {v : k.Record} {w : CatalogueInsert}
    (h : Creates k arg d v w) : k.SlugOwn (k.record arg) d := by
  intro id r' sl hr' hsl' hsl
  rw [← h.value] at hsl
  exact absurd hsl (h.slugFree sl (Kind.mem_slugs.mpr ⟨id, r', hr', hsl'⟩))

end Sahel

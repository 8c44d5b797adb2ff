import Sahel.Library.Frozen
import Sahel.Http.AdminCatalogue
import Sahel.Model.References
import Sahel.Safety.Nights

/-!
# The bookings while units are edited

The operations on bookings were verified with units that never change.  Here the admin edits the
catalogue while they run, and what was proved carries over: each handler reads a unit's columns in
one statement, so it runs as if the units had stood still since.

* `units` is the frozen part: an edit replaces a unit's columns and keeps its id;
* **`full_nightsApart`** and **`full_referential`**: no night of a unit has two owners and every
  reference leads to a row, over every interleaving of requests and edits.
-/

set_option autoImplicit false

namespace Sahel

open KeyedTable ReadCommitted

/-- The table of units. -/
abbrev Units : Type := Table ℕ UnitRow UnitRow.id

/-- The same units are there. -/
def SameUnits (us us' : Units) : Prop := ∀ id, us.HasKey id ↔ us'.HasKey id

/-- The rows with other units. -/
def Db.putUnits (us : Units) (db : Db) : Db := { db with units := us }

theorem SameUnits.isNone {us us' : Units} (h : SameUnits us us') (id : ℕ) :
    (us.find? id).isNone = (us'.find? id).isNone := by
  have hiff : ∀ ts : Units, (ts.find? id).isNone = true ↔ ¬ ts.HasKey id := by
    intro ts
    rw [Option.isNone_iff_eq_none, Table.find?_eq_none_iff, Table.HasKey]
    push Not
    rfl
  rw [Bool.eq_iff_iff, hiff, hiff, h id]

theorem SameUnits.map_id {us us' : Units} (h : SameUnits us us') (id : ℕ) :
    (us.find? id).map UnitRow.id = (us'.find? id).map UnitRow.id := by
  have hmap : ∀ ts : Units, (ts.find? id).map UnitRow.id
      = if (ts.find? id).isNone then none else some id := by
    intro ts
    cases hf : ts.find? id with
    | none => rfl
    | some u => simpa using (Table.mem_of_find? hf).2
  rw [hmap, hmap, h.isNone]

/-! ### Statements that do not see an edit -/

theorem getBookingView_putUnits {us : Units} {db : Db} (h : SameUnits us db.units)
    (ref : Option String) (id : Option ℕ) :
    Queries.getBookingView ref id (db.putUnits us) = Queries.getBookingView ref id db := by
  unfold Queries.getBookingView
  congr 1
  funext b
  have hnone := h.isNone b.unitId
  change ((us.find? b.unitId).bind _) = ((db.units.find? b.unitId).bind _)
  cases hf : us.find? b.unitId with
  | none =>
    rw [hf] at hnone
    rw [Option.isNone_iff_eq_none.mp hnone.symm]
    rfl
  | some u =>
    rw [hf] at hnone
    obtain ⟨u', hu'⟩ := Option.ne_none_iff_exists'.mp (fun hn : db.units.find? b.unitId = none => by
      rw [hn] at hnone
      cases hnone)
    rw [hu']
    rfl

theorem createBooking_putUnits {us : Units} {db : Db} (h : SameUnits us db.units)
    (arg : CreateBookingParams) (id : ℕ) :
    Queries.createBooking arg id (db.putUnits us) = Queries.createBooking arg id db := by
  have hnone : ((db.putUnits us).units.find? arg.unitId).isNone = (db.units.find? arg.unitId).isNone :=
    h.isNone _
  unfold Queries.createBooking
  rw [hnone]
  rfl

theorem createBlock_putUnits {us : Units} {db : Db} (h : SameUnits us db.units)
    (arg : CreateBlockParams) (id : ℕ) :
    Queries.createBlock arg id (db.putUnits us) = Queries.createBlock arg id db := by
  have hnone : ((db.putUnits us).units.find? arg.unitId).isNone = (db.units.find? arg.unitId).isNone :=
    h.isNone _
  unfold Queries.createBlock
  rw [hnone]
  rfl

/-- **Plain statements answer the same.** -/
theorem eval_putUnits {s : Stmt} (hs : Plain s) {us : Units} {db : Db} (o : Oracle) (now : ℤ)
    (h : SameUnits us db.units) : s.eval o now (db.putUnits us) = s.eval o now db := by
  cases s with
  | getPricingUnit slug i onlyActive => exact hs.elim
  | timelineUnits => exact hs.elim
  | reportMonths cairo f n => exact hs.elim
  | reportUnits f t => exact hs.elim
  | todayMovements day => exact hs.elim
  | todayCounts day => exact hs.elim
  | lockUnit id =>
    show Except.ok ((us.find? id).map UnitRow.id, []) = Except.ok ((db.units.find? id).map UnitRow.id, [])
    rw [h.map_id]
  | getBookingView ref id =>
    show Except.ok (Queries.getBookingView ref id (db.putUnits us), []) = _
    rw [getBookingView_putUnits h]
    rfl
  | createBooking arg => exact createBooking_putUnits h arg o.uuid
  | createBlock arg => exact createBlock_putUnits h arg o.uuid
  | _ => rfl

theorem rely_putUnits {L : List Lock} {us : Units} {db db' : Db} (us' : Units)
    (h : Rely L (db.putUnits us) (db'.putUnits us)) :
    Rely L (db.putUnits us') (db'.putUnits us') where
  units := rfl
  booking := h.booking
  receipts := h.receipts
  payment := h.payment
  block := h.block
  ref := h.ref
  stays := h.stays
  blocks := h.blocks

/-- **The units**, as the part of the rows that edits change. -/
def units : Frozen guarantees Units where
  part := Db.units
  put := Db.putUnits
  Same := SameUnits
  blind := Plain
  looks := ReadsUnit
  same_refl _ _ := Iff.rfl
  same_symm h id := (h id).symm
  same_trans h h' id := (h id).trans (h' id)
  put_part _ := rfl
  part_put _ _ := rfl
  put_put _ _ _ := rfl
  apply_put us db w := by cases w <;> rfl
  rely_put := rely_putUnits
  blind_eval hs _ _ o now h := eval_putUnits hs o now h
  blind_locks {s} _ _ _ _ _ _ := by cases s <;> rfl

/-! ### The whole system -/

/-- An edit changes at most one unit's columns. -/
theorem applyCatalogue_units (d : Rows) (w : CatalogueWrite) :
    ∃ us, (applyCatalogue d w).1 = d.1.putUnits us ∧ SameUnits us d.1.units := by
  cases w with
  | setUnit u details => exact ⟨d.1.units.set u, rfl, fun _ => Table.hasKey_set⟩
  | _ => exact ⟨d.1.units, rfl, fun _ => Iff.rfl⟩

/-- An edit runs its two queries and no other statement. -/
theorem patch_added (texts : Texts) (r : PatchReq) :
    (patchProgram texts r).Only Frozen.Added := by
  refine Prog.only_map _ (Prog.only_bind (Prog.only_require _ _) (fun id => ?_))
  refine Prog.only_bind (Prog.only_bind (Prog.only_query _ ⟨_, rfl⟩)
    (fun _ => Prog.only_require _ _)) (fun row => ?_)
  refine Prog.only_bind (Prog.only_check _ _) (fun row => Prog.only_bind (Prog.only_check _ _) ?_)
  refine fun _ => Prog.only_bind (Prog.only_require _ _) (fun arg => ?_)
  exact Prog.only_bind (Prog.only_query _ ⟨_, rfl⟩) (fun _ => Prog.only_require _ _)

theorem units_fits (srv : Server) (texts : Texts) :
    Frozen.Fits units catalogue (program srv) (patchProgram texts) where
  verified := program_verified srv
  once := program_once srv
  added := patch_added texts
  changes := applyCatalogue_units

theorem NightsApart.putUnits_iff (us : Units) (db : Db) : NightsApart (db.putUnits us) ↔ NightsApart db :=
  ⟨fun h => ⟨h.stays, h.blocked, h.blocks⟩, fun h => ⟨h.stays, h.blocked, h.blocks⟩⟩

/-- **No night has two owners**, whatever happens to the units. -/
theorem full_nightsApart {srv : Server} {texts : Texts} {d₀ : Rows} (h₀ : d₀.1.Unbooked) {s : FullSys}
    (h : FullReaches srv texts d₀ s) : NightsApart s.db.1 :=
  (units_fits srv texts).invariant h NightsApart.putUnits_iff (nightsApart_of_unbooked h₀)
    (fun hn hop => hn.op hop)

/-! ### References -/

theorem Grows.of_units {db db' : Db} {us us' : Units} (h : Grows db db') (hu : SameUnits us db.units)
    (hu' : SameUnits us' db'.units) : Grows (db.putUnits us) (db'.putUnits us') :=
  ⟨fun id hk => (hu' id).mpr (h.units id ((hu id).mp hk)), h.customers, h.bookings⟩

theorem Referential.putUnits {db : Db} (h : Referential db) {us : Units}
    (hu : SameUnits us db.units) : Referential (db.putUnits us) :=
  ⟨fun b hb => (hu _).mpr (h.unit b hb), h.customer, fun k hk => (hu _).mpr (h.blockUnit k hk),
    h.booking, h.stamped⟩

/-- References as an invariant of single writes, with those of the catalogue among them. -/
def fullReferences : RowInvariant fullPostgres :=
  references.extend catalogue
    (fun d w => by
      obtain ⟨us, hd, hu⟩ := applyCatalogue_units d w
      show Grows d.1 (applyCatalogue d w).1
      rw [hd]
      exact (Grows.refl d.1).of_units (fun _ => Iff.rfl) hu)
    (fun {d d'} w h => by
      obtain ⟨us, hd, hu⟩ := applyCatalogue_units d w
      obtain ⟨us', hd', hu'⟩ := applyCatalogue_units d' w
      show Grows (applyCatalogue d w).1 (applyCatalogue d' w).1
      rw [hd, hd']
      exact Grows.of_units h hu hu')
    (fun {d w} h => by
      obtain ⟨us, hd, hu⟩ := applyCatalogue_units d w
      show Referential (applyCatalogue d w).1
      rw [hd]
      exact Referential.putUnits h hu)

/-- **References hold in every state of the whole system.** -/
theorem full_referential {srv : Server} {texts : Texts} {d₀ : Rows} (h₀ : d₀.1.Unbooked)
    {s : FullSys} (h : FullReaches srv texts d₀ s) : Referential s.db.1 := by
  have hp : ∀ r, (fullProgram srv texts r).Only fullReferences.ok := by
    intro r
    cases r with
    | inl r => exact (program_only srv r).lift
    | inr r =>
      refine (Prog.only_map _ (patch_added texts r)).mono (fun s hs => ?_)
      obtain ⟨x, rfl⟩ := hs
      trivial
  have hgood : RowInvariant.Good fullReferences (State.quiet d₀ : FullSys) :=
    RowInvariant.good_quiet (referential_of_unbooked h₀)
  exact (hgood.run hp h).1.holds

/-! ### A small catalogue

An area, a compound and an owner for the small world's unit. -/

def seaDetails : UnitDetails where
  ownerId := 1
  compoundId := 1
  titleAr := "شاليه على البحر"
  titleEn := "Sea chalet"
  descriptionAr := "صف أول"
  descriptionEn := "First row"
  houseRulesAr := none
  houseRulesEn := none
  type := .chalet
  bedrooms := 2
  bathrooms := 1
  baseGuests := 4
  areaSqm := none
  floor := none
  seaDistanceM := 50
  view := .sea
  rowNumber := some 1
  amenities := ["pool"]
  lat := none
  lng := none
  exactAddress := none

def smallCatalogue : Catalogue where
  details _ := seaDetails
  compounds := Table.empty.insert
    ⟨1, 1, "marassi", "مراسي", "Marassi", "قرية", "A village", [], .sea, none, none, none, none, none,
      false⟩
  areas := Table.empty.insert ⟨1, "sidi-abdel-rahman", "سيدي عبد الرحمن", "Sidi Abdel Rahman",
    .northCoast, some 125, 0⟩
  owners := Table.empty.insert ⟨1, "Karim", "+201112345678", none, none, none, 10, by decide⟩

/-- The small world with its catalogue. -/
def coast : Rows := (turnoverWorld, smallCatalogue)

theorem coast_unbooked : coast.1.Unbooked := turnoverWorld_unbooked

/-- Slugs that are canonical as they are. -/
def plainTexts : Texts := ⟨id, fun s => "\"" ++ s ++ "\""⟩

/-- The `n`-th request of a run of the whole system, served at instant `t`. -/
def fullCall (n : ℕ) (t : ℤ) (r : AllReq) : AllReq × Oracle × ℤ := (r, oracleAt n t, t)

/-- The rows after requests are served one after the other. -/
def fullServed (d₀ : Rows) (cs : List (AllReq × Oracle × ℤ)) : Rows :=
  serveAll fullPostgres (fullProgram winterServer plainTexts) d₀ cs

theorem fullReaches_served (d₀ : Rows) (cs : List (AllReq × Oracle × ℤ)) :
    FullReaches winterServer plainTexts d₀ (State.quiet (fullServed d₀ cs)) :=
  Run.serveAll fullPostgres (fullProgram winterServer plainTexts) cs d₀
    (allowed_anyCommit _ _ cs d₀) Run.refl

/-- An edit of the small world's unit. -/
def editUnit (body : UnitInput) : AllReq := .inr ⟨.unit, some 1, body⟩

end Sahel

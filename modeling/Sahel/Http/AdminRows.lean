import Sahel.Http.AdminColumns
import Sahel.Http.AdminCreate

/-!
# Rows that were checked

What `apply` leaves behind when it finds nothing wrong, of a POST's body as of a PATCH's.

* **`Kind.apply_again`**, **`Kind.apply_noFields`**: the record is stored as it is, so neither the same
  body nor one without a field changes it;
* `Kind.params_of_checked`: its columns can be sent, and the CHECK constraints hold of them;
* `Kind.Admitted` are the records a PATCH leaves as they are.
-/

set_option autoImplicit false

namespace Sahel

/-- The body `{}`. -/
def Kind.noFields : (k : Kind) → k.Input
  | .unit => ({} : UnitInput)
  | .compound => ({} : CompoundInput)
  | .area => ({} : AreaInput)
  | .owner => ({} : OwnerInput)

/-- A record that an empty edit leaves as it is and whose slug is taken. -/
structure Kind.Admitted (texts : Texts) (k : Kind) (r : k.Record) : Prop where
  apply : k.apply texts k.noFields r = .ok r
  checked : Kind.checked.{0} texts k r = .ok ⟨⟩

/-! ### Once more -/

theorem Kind.asked_noFields {k : Kind} : ∀ c ∈ k.columns, (c.asked k.noFields).isNone := by
  cases k <;> decide

theorem Kind.coordProblems_noFields {k : Kind} : ∀ p ∈ k.coordProblems k.noFields, p = [] := by
  cases k <;> decide

/-- Problems of the body come first: where there is no field, only those of the record are left. -/
theorem nil_of_drop {ps qs : List (List String)} (h : ∀ q ∈ qs, q = []) (n : ℕ)
    (hnone : ps.take n = List.replicate n []) (hsame : ps.drop n = qs.drop n) : ∀ p ∈ ps, p = [] := by
  intro p hp
  rw [← List.take_append_drop n ps] at hp
  rcases List.mem_append.mp hp with hp | hp
  · rw [hnone] at hp
    exact (List.mem_replicate.mp hp).2
  · rw [hsame] at hp
    exact h p (List.mem_of_mem_drop hp)

theorem Kind.problems_noFields {k : Kind} {texts : Texts} {b : k.Input} {r : k.Record}
    (h : ∀ p ∈ k.problems texts b r, p = []) : ∀ p ∈ k.problems texts k.noFields r, p = [] := by
  cases k with
  | unit => exact nil_of_drop h 21 rfl rfl
  | compound => exact nil_of_drop h 11 rfl rfl
  | area => exact nil_of_drop h 5 rfl rfl
  | owner => exact nil_of_drop h 3 rfl rfl

/-- A column that holds what it was asked to hold is not changed by asking again, or for nothing. -/
theorem Column.Follows.again {Record Input : Type} {c : Column Record Input} {b b' : Input}
    {r r' r'' : Record} (h : c.Follows b r r') (h' : c.Follows b' r' r'')
    (hb : c.asked b' = c.asked b ∨ c.asked b' = none) : c.get r'' = c.get r' := by
  have htidy : c.tidy (c.get r') = c.get r' := by
    rw [h, c.tidy_tidy]
  rcases hb with hb | hb
  · cases ha : c.asked b with
    | none =>
      rw [h', hb, ha]
      exact htidy
    | some v => rw [h', h, hb, ha, Option.getD_some, Option.getD_some]
  · rw [h', hb]
    exact htidy

theorem Kind.edit_again {k : Kind} {texts : Texts} {b b' : k.Input} {r r' : k.Record}
    (h : k.apply texts b r = .ok r') (hcoord : ∀ p ∈ k.coordProblems b', p = [])
    (hb : ∀ c ∈ k.columns, c.asked b' = c.asked b ∨ c.asked b' = none) : k.edit b' r' = r' := by
  obtain ⟨hid, hcols⟩ := Kind.edit_follows hcoord r'
  exact Kind.eq_of_columns hid
    (fun c hc => ((Kind.apply_follows h).2 c hc).again (hcols c hc) (hb c hc))

/-- **The same body once more** changes nothing. -/
theorem Kind.apply_again {k : Kind} {texts : Texts} {b : k.Input} {r r' : k.Record}
    (h : k.apply texts b r = .ok r') : k.apply texts b r' = .ok r' := by
  have hp := (Kind.apply_ok.mp h).1
  have hcoord : ∀ p ∈ k.coordProblems b, p = [] :=
    fun p hmem => hp p (k.coordProblems_subset texts b r' hmem)
  exact Kind.apply_ok.mpr ⟨hp, Kind.edit_again h hcoord (fun c _ => Or.inl rfl)⟩

/-- **A body without a field** changes nothing. -/
theorem Kind.apply_noFields {k : Kind} {texts : Texts} {b : k.Input} {r r' : k.Record}
    (h : k.apply texts b r = .ok r') : k.apply texts k.noFields r' = .ok r' := by
  refine Kind.apply_ok.mpr ⟨Kind.problems_noFields (Kind.apply_ok.mp h).1, ?_⟩
  exact Kind.edit_again h Kind.coordProblems_noFields
    (fun c hc => Or.inr (Option.isNone_iff_eq_none.mp (Kind.asked_noFields c hc)))

/-! ### What is sent -/

theorem of_problem {bad : Prop} [Decidable bad] {text : String} (h : problem bad text = []) : ¬ bad := by
  intro hbad
  rw [problem, if_pos hbad] at h
  cases h

theorem known_of_checkEnum {α : Type} {texts : Texts} {name : String} {e : EnumText α}
    (h : checkEnum texts name e = []) : ∃ a, e = .known a := by
  cases e with
  | known a => exact ⟨a, rfl⟩
  | unknown v =>
    rw [checkEnum] at h
    split at h <;> cases h

/-- The CHECK constraints of `units`. -/
theorem AdminUpdateUnitParams.row_ok_iff {arg : AdminUpdateUnitParams} :
    (∃ u, arg.row = .ok u) ↔ 0 ≤ arg.advanceNoticeHours.toInt ∧ 0 ≤ arg.bufferDays.toInt ∧
      1 ≤ arg.maxAdvanceDays.toInt ∧ arg.nightlyPrice.all (fun p => decide (0 < p)) = true := by
  constructor
  · intro h
    obtain ⟨u, hu⟩ := h
    simp only [AdminUpdateUnitParams.row] at hu
    split_ifs at hu with hnotice hbuffer hadvance hprice
    exact ⟨hnotice, hbuffer, hadvance, hprice⟩
  · intro h
    obtain ⟨hnotice, hbuffer, hadvance, hprice⟩ := h
    simp only [AdminUpdateUnitParams.row, dif_pos hnotice, dif_pos hbuffer, dif_pos hadvance,
      dif_pos hprice]
    exact ⟨_, rfl⟩

theorem OwnerRecord.row_ok_iff {o : OwnerRecord} :
    (∃ row, o.row = .ok row) ↔ 0 ≤ o.commissionPct ∧ o.commissionPct ≤ 100 := by
  constructor
  · intro h
    obtain ⟨row, hrow⟩ := h
    rw [OwnerRecord.row] at hrow
    split_ifs at hrow with hpct
    exact hpct
  · intro h
    rw [OwnerRecord.row, dif_pos h]
    exact ⟨_, rfl⟩

/-- Neither the id nor the slug is in a CHECK constraint. -/
theorem Kind.Storable.under {k : Kind} {arg : k.Params} (h : k.Storable arg) (sl : String) (id : ℕ) :
    k.Storable (k.withId (k.withSlug arg sl) id) := by
  cases k with
  | unit =>
    have hchecks := AdminUpdateUnitParams.row_ok_iff.mp h
    exact AdminUpdateUnitParams.row_ok_iff.mpr hchecks
  | compound => trivial
  | area => trivial
  | owner =>
    have hchecks := OwnerRecord.row_ok_iff.mp h
    exact OwnerRecord.row_ok_iff.mpr hchecks

theorem UnitRecord.params_of_checked {texts : Texts} {b : UnitInput} {u : UnitRecord}
    (h : ∀ p ∈ b.problems texts u, p = []) : ∃ arg, u.params? = some arg ∧ ∃ row, arg.row = .ok row := by
  simp only [UnitInput.problems, List.forall_mem_cons] at h
  obtain ⟨-, -, -, -, -, -, -, -, -, -, -, -, -, -, -, -, -, -, -, -, -, howner, hcompound, -, -, htype,
    hview, hstatus, -, -, -, -, -, -, hprice, hdays, -⟩ := h
  obtain ⟨owner, howner⟩ := Option.ne_none_iff_exists'.mp (of_problem howner)
  obtain ⟨compound, hcompound⟩ := Option.ne_none_iff_exists'.mp (of_problem hcompound)
  obtain ⟨type, htype⟩ := known_of_checkEnum htype
  obtain ⟨view, hview⟩ := known_of_checkEnum hview
  obtain ⟨status, hstatus⟩ := known_of_checkEnum hstatus
  obtain ⟨hadvance, hrest⟩ := not_or.mp (of_problem hdays)
  obtain ⟨hbuffer, hnotice⟩ := not_or.mp hrest
  have hsent : ∃ arg, u.params? = some arg ∧ arg.advanceNoticeHours = u.advanceNoticeHours ∧
      arg.bufferDays = u.bufferDays ∧ arg.maxAdvanceDays = u.maxAdvanceDays ∧
      arg.nightlyPrice = u.nightlyPrice := by
    rw [UnitRecord.params?, howner, hcompound, htype, hview, hstatus]
    exact ⟨_, rfl, rfl, rfl, rfl, rfl⟩
  obtain ⟨arg, harg, hn, hb, ha, hp⟩ := hsent
  refine ⟨arg, harg, AdminUpdateUnitParams.row_ok_iff.mpr ⟨?_, ?_, ?_, ?_⟩⟩
  · rw [hn]
    exact Int32.le_iff_toInt_le.mp (Int32.not_lt.mp hnotice)
  · rw [hb]
    exact Int16.le_iff_toInt_le.mp (Int16.not_lt.mp hbuffer)
  · rw [ha]
    exact Int32.le_iff_toInt_le.mp (Int32.not_lt.mp hadvance)
  · rw [hp, Option.all_eq_true]
    intro p hpp
    refine decide_eq_true (Int64.not_le.mp (fun hle => of_problem hprice ⟨p, hpp, hle⟩))

/-- **What was checked can be sent**, and the CHECK constraints hold of it. -/
theorem Kind.params_of_checked {k : Kind} {texts : Texts} {b : k.Input} {r : k.Record}
    (h : ∀ p ∈ k.problems texts b r, p = []) : ∃ arg, k.params? r = some arg ∧ k.Storable arg := by
  cases k with
  | unit => exact UnitRecord.params_of_checked h
  | compound =>
    simp only [Kind.problems, CompoundInput.problems, List.forall_mem_cons] at h
    obtain ⟨-, -, -, -, -, -, -, -, -, -, -, harea, -, -, hbeach, -⟩ := h
    obtain ⟨area, harea⟩ := Option.ne_none_iff_exists'.mp (of_problem harea)
    obtain ⟨beach, hbeach⟩ := known_of_checkEnum hbeach
    rw [Kind.params?, CompoundRecord.params?, harea, hbeach]
    exact ⟨_, rfl, trivial⟩
  | area =>
    simp only [Kind.problems, AreaInput.problems, List.forall_mem_cons] at h
    obtain ⟨-, -, -, -, -, -, hregion, -⟩ := h
    obtain ⟨region, hregion⟩ := known_of_checkEnum hregion
    rw [Kind.params?, AreaRecord.params?, hregion]
    exact ⟨_, rfl, trivial⟩
  | owner =>
    simp only [Kind.problems, OwnerInput.problems, List.forall_mem_cons] at h
    obtain ⟨-, -, -, -, -, hpct, -⟩ := h
    obtain ⟨hlow, hhigh⟩ := not_or.mp (of_problem hpct)
    exact ⟨r, rfl, OwnerRecord.row_ok_iff.mpr ⟨Int16.not_lt.mp hlow, Int16.not_lt.mp hhigh⟩⟩

end Sahel

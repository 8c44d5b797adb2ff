import Mathlib.Data.List.Nodup
import Mathlib.Algebra.BigOperators.Group.List.Basic
import Mathlib.Tactic.Ring

/-!
# Keyed tables: finite rows under a primary key

A table is a list of rows together with the proof that no two rows share a key, so a table
with a duplicate primary key cannot be built.  The operations are the ones a relational
store needs, and each comes with the membership and lookup facts its users rewrite with:

* `find?` / `mem_of_find?` / `find?_eq_some_iff`: lookup by key is membership;
* `insert` (a no-op on a taken key), `set` (replace the row with the same key), `erase`, `mapRows`;
* `setAll`: several replacements in sequence;
* `total` / `total_insert` / `total_set`: a sum over the rows moves by exactly the
  row that changed.

Nothing here mentions a particular schema.
-/

set_option autoImplicit false

namespace KeyedTable

variable {K Row : Type} {key : Row → K}

/-- Rows under a primary key: the key determines the row. -/
structure Table (K Row : Type) (key : Row → K) where
  rows : List Row
  nodup : (rows.map key).Nodup

namespace Table

instance : Membership Row (Table K Row key) := ⟨fun t r => r ∈ t.rows⟩

theorem mem_def {t : Table K Row key} {r : Row} : r ∈ t ↔ r ∈ t.rows := Iff.rfl

/-- The table without rows. -/
def empty : Table K Row key := ⟨[], List.nodup_nil⟩

instance : Inhabited (Table K Row key) := ⟨empty⟩

@[simp] theorem not_mem_empty (r : Row) : ¬ r ∈ (empty : Table K Row key) :=
  List.not_mem_nil

/-- A bounded statement about the rows can be evaluated. -/
instance (t : Table K Row key) (p : Row → Prop) [DecidablePred p] : Decidable (∀ r, r ∈ t → p r) :=
  inferInstanceAs (Decidable (∀ r ∈ t.rows, p r))

/-- **The key determines the row.** -/
theorem eq_of_key_eq {t : Table K Row key} {x y : Row} (hx : x ∈ t) (hy : y ∈ t)
    (h : key x = key y) : x = y :=
  List.inj_on_of_nodup_map t.nodup hx hy h

variable [DecidableEq K]

/-! ### Lookup -/

/-- The row with key `k`, if there is one. -/
def find? (t : Table K Row key) (k : K) : Option Row :=
  t.rows.find? (fun r => decide (key r = k))

theorem mem_of_find? {t : Table K Row key} {k : K} {r : Row} (h : t.find? k = some r) :
    r ∈ t ∧ key r = k := by
  refine ⟨List.mem_of_find?_eq_some h, ?_⟩
  have hk := List.find?_some h
  simpa using hk

theorem find?_of_mem {t : Table K Row key} {r : Row} (h : r ∈ t) :
    t.find? (key r) = some r := by
  cases hf : t.find? (key r) with
  | none =>
    have hn := List.find?_eq_none.mp hf r h
    simp at hn
  | some x =>
    obtain ⟨hx, hk⟩ := mem_of_find? hf
    rw [eq_of_key_eq hx h hk]

/-- **Lookup is membership.** -/
theorem find?_eq_some_iff {t : Table K Row key} {k : K} {r : Row} :
    t.find? k = some r ↔ r ∈ t ∧ key r = k := by
  constructor
  · exact mem_of_find?
  · rintro ⟨hr, rfl⟩
    exact find?_of_mem hr

theorem find?_eq_none_iff {t : Table K Row key} {k : K} :
    t.find? k = none ↔ ∀ r ∈ t, key r ≠ k := by
  rw [find?, List.find?_eq_none]
  simp [mem_def]

/-! ### Insert, replace, erase -/

/-- Add a row; a table that already has the key is left alone. -/
def insert (t : Table K Row key) (r : Row) : Table K Row key :=
  if h : key r ∈ t.rows.map key then t
  else ⟨t.rows ++ [r], by
    rw [List.map_append, List.map_singleton]
    exact List.Nodup.append t.nodup (List.nodup_singleton _) (by simpa using h)⟩

theorem rows_insert {t : Table K Row key} {r : Row} (h : t.find? (key r) = none) :
    (t.insert r).rows = t.rows ++ [r] := by
  have hk : key r ∉ t.rows.map key := by
    rw [find?_eq_none_iff] at h
    simpa [mem_def] using h
  rw [insert, dif_neg hk]

theorem mem_insert {t : Table K Row key} {r x : Row} (h : t.find? (key r) = none) :
    x ∈ t.insert r ↔ x ∈ t ∨ x = r := by
  rw [mem_def, rows_insert h, List.mem_append, List.mem_singleton, mem_def]

/-- What holds between any two rows, and both ways between a new row and each of them, holds between
any two rows once it is added. -/
theorem forall_pairs_insert {t : Table K Row key} {r : Row} (h : t.find? (key r) = none)
    {P : Row → Row → Prop} (hold : ∀ x ∈ t, ∀ y ∈ t, P x y) (hbefore : ∀ x ∈ t, P x r)
    (hafter : ∀ y ∈ t, P r y) (hself : P r r) : ∀ x ∈ t.insert r, ∀ y ∈ t.insert r, P x y := by
  intro x hx y hy
  rcases (mem_insert h).mp hx with hxt | hxr
  · rcases (mem_insert h).mp hy with hyt | hyr
    · exact hold x hxt y hyt
    · rw [hyr]
      exact hbefore x hxt
  · rw [hxr]
    rcases (mem_insert h).mp hy with hyt | hyr
    · exact hafter y hyt
    · rw [hyr]
      exact hself

theorem find?_insert {t : Table K Row key} {r : Row} (h : t.find? (key r) = none) (k : K) :
    (t.insert r).find? k = if key r = k then some r else t.find? k := by
  split
  · rename_i hk
    subst hk
    exact find?_eq_some_iff.mpr ⟨(mem_insert h).mpr (Or.inr rfl), rfl⟩
  · rename_i hk
    rw [find?, rows_insert h, List.find?_append, find?]
    simp [hk]

/-- A row that was really added is known from the table. -/
theorem eq_of_insert_eq {t : Table K Row key} {x r : Row} (h : t.find? (key r) = none)
    (he : t.insert x = t.insert r) : x = r := by
  have hrows := congrArg Table.rows he
  rw [rows_insert h, insert] at hrows
  split at hrows
  · have hlen := congrArg List.length hrows
    rw [List.length_append, List.length_singleton] at hlen
    omega
  · simpa using hrows

/-- Replace the row that has the new row's key, if there is one. -/
def set (t : Table K Row key) (r : Row) : Table K Row key :=
  ⟨t.rows.map (fun x => if key x = key r then r else x), by
    have hm : (t.rows.map (fun x => if key x = key r then r else x)).map key = t.rows.map key := by
      rw [List.map_map]
      refine List.map_congr_left (fun x _ => ?_)
      by_cases hx : key x = key r
      · simp [hx]
      · simp [hx]
    rw [hm]
    exact t.nodup⟩

theorem mem_set {t : Table K Row key} {r x : Row} :
    x ∈ t.set r ↔ (x ∈ t ∧ key x ≠ key r) ∨ (x = r ∧ ∃ y ∈ t, key y = key r) := by
  constructor
  · intro h
    obtain ⟨y, hy, hyx⟩ := List.mem_map.mp (mem_def.mp h)
    by_cases hk : key y = key r
    · rw [if_pos hk] at hyx
      exact Or.inr ⟨hyx.symm, y, hy, hk⟩
    · rw [if_neg hk] at hyx
      subst hyx
      exact Or.inl ⟨hy, hk⟩
  · rintro (⟨hx, hk⟩ | ⟨rfl, y, hy, hk⟩)
    · exact List.mem_map.mpr ⟨x, hx, if_neg hk⟩
    · exact List.mem_map.mpr ⟨y, hy, if_pos hk⟩

/-- Replacing an existing row: every row is an old one under another key, or the new one. -/
theorem mem_set_of_mem {t : Table K Row key} {old r x : Row} (ho : old ∈ t)
    (hk : key old = key r) : x ∈ t.set r ↔ (x ∈ t ∧ key x ≠ key r) ∨ x = r := by
  rw [mem_set]
  constructor
  · rintro (h | ⟨h, -⟩)
    · exact Or.inl h
    · exact Or.inr h
  · rintro (h | h)
    · exact Or.inl h
    · exact Or.inr ⟨h, old, ho, hk⟩

theorem find?_set_self {t : Table K Row key} {r : Row} (h : (t.find? (key r)).isSome) :
    (t.set r).find? (key r) = some r := by
  obtain ⟨x, hx⟩ := Option.isSome_iff_exists.mp h
  obtain ⟨hm, hk⟩ := mem_of_find? hx
  exact find?_eq_some_iff.mpr ⟨(mem_set_of_mem hm hk).mpr (Or.inr rfl), rfl⟩

theorem find?_set_ne {t : Table K Row key} {r : Row} {k : K} (h : key r ≠ k) :
    (t.set r).find? k = t.find? k := by
  cases hf : t.find? k with
  | none =>
    rw [find?_eq_none_iff] at hf ⊢
    intro x hx
    rcases mem_set.mp hx with ⟨hx, -⟩ | ⟨rfl, -⟩
    · exact hf x hx
    · exact h
  | some y =>
    obtain ⟨hy, rfl⟩ := mem_of_find? hf
    exact find?_eq_some_iff.mpr ⟨mem_set.mpr (Or.inl ⟨hy, fun he => h he.symm⟩), rfl⟩

/-- A replacement keeps the set of keys. -/
theorem exists_key_set {t : Table K Row key} {x : Row} (r : Row) (hx : x ∈ t) :
    ∃ y ∈ t.set r, key y = key x := by
  by_cases hk : key x = key r
  · exact ⟨r, mem_set.mpr (Or.inr ⟨rfl, x, hx, hk⟩), hk.symm⟩
  · exact ⟨x, mem_set.mpr (Or.inl ⟨hx, hk⟩), rfl⟩

/-- Drop the row with key `k`, if there is one. -/
def erase (t : Table K Row key) (k : K) : Table K Row key :=
  ⟨t.rows.filter (fun r => decide (key r ≠ k)),
    t.nodup.sublist (List.Sublist.map key List.filter_sublist)⟩

theorem mem_erase {t : Table K Row key} {k : K} {x : Row} :
    x ∈ t.erase k ↔ x ∈ t ∧ key x ≠ k := by
  simp [mem_def, erase]

theorem find?_erase_ne {t : Table K Row key} {k k' : K} (h : k ≠ k') :
    (t.erase k).find? k' = t.find? k' := by
  cases hf : t.find? k' with
  | none =>
    rw [find?_eq_none_iff] at hf ⊢
    intro x hx
    exact hf x (mem_erase.mp hx).1
  | some y =>
    obtain ⟨hy, rfl⟩ := mem_of_find? hf
    exact find?_eq_some_iff.mpr ⟨mem_erase.mpr ⟨hy, fun he => h he.symm⟩, rfl⟩

theorem find?_erase_self (t : Table K Row key) (k : K) : (t.erase k).find? k = none :=
  find?_eq_none_iff.mpr (fun _ hx => (mem_erase.mp hx).2)

/-- Change the rows where they stand; their keys stay. -/
def mapRows (t : Table K Row key) (f : Row → Row) (hf : ∀ r, key (f r) = key r) : Table K Row key :=
  ⟨t.rows.map f, by
    rw [List.map_map, show key ∘ f = key from funext hf]
    exact t.nodup⟩

omit [DecidableEq K] in
theorem mem_mapRows {t : Table K Row key} {f : Row → Row} {hf : ∀ r, key (f r) = key r} {x : Row} :
    x ∈ t.mapRows f hf ↔ ∃ y ∈ t, f y = x := List.mem_map

theorem find?_mapRows (t : Table K Row key) (f : Row → Row) (hf : ∀ r, key (f r) = key r) (k : K) :
    (t.mapRows f hf).find? k = (t.find? k).map f := by
  have hkey : ((fun r => decide (key r = k)) ∘ f) = fun r => decide (key r = k) := by
    funext r
    show decide (key (f r) = k) = decide (key r = k)
    rw [hf]
  rw [find?, mapRows, List.find?_map, hkey]
  rfl

/-! ### Several replacements -/

/-- Replace one row after the other. -/
def setAll (t : Table K Row key) (rs : List Row) : Table K Row key :=
  rs.foldl set t

/-- A row of the table after replacements is an old row none of them hit, or one of them. -/
theorem mem_setAll {t : Table K Row key} {rs : List Row} {x : Row} (h : x ∈ t.setAll rs) :
    (x ∈ t ∧ ∀ r ∈ rs, key x ≠ key r) ∨ x ∈ rs := by
  induction rs generalizing t with
  | nil => exact Or.inl ⟨h, fun r hr => absurd hr List.not_mem_nil⟩
  | cons r rs ih =>
    rcases ih h with ⟨hx, hrs⟩ | hx
    · rcases mem_set.mp hx with ⟨hx, hk⟩ | ⟨rfl, -⟩
      · exact Or.inl ⟨hx, List.forall_mem_cons.mpr ⟨hk, hrs⟩⟩
      · exact Or.inr List.mem_cons_self
    · exact Or.inr (List.mem_cons_of_mem _ hx)

theorem find?_setAll_ne {t : Table K Row key} {rs : List Row} {k : K}
    (h : ∀ r ∈ rs, key r ≠ k) : (t.setAll rs).find? k = t.find? k := by
  induction rs generalizing t with
  | nil => rfl
  | cons r rs ih =>
    obtain ⟨hr, hrs⟩ := List.forall_mem_cons.mp h
    rw [show t.setAll (r :: rs) = (t.set r).setAll rs from rfl, ih hrs, find?_set_ne hr]

/-- Replacements keep the set of keys. -/
theorem exists_key_setAll {t : Table K Row key} {rs : List Row} {x : Row} (hx : x ∈ t) :
    ∃ y ∈ t.setAll rs, key y = key x := by
  induction rs generalizing t x with
  | nil => exact ⟨x, hx, rfl⟩
  | cons r rs ih =>
    obtain ⟨y, hy, hyk⟩ := exists_key_set r hx
    obtain ⟨z, hz, hzk⟩ := ih hy
    exact ⟨z, hz, hzk.trans hyk⟩

/-! ### Keys -/

/-- Some row of the table has the key. -/
def HasKey (t : Table K Row key) (k : K) : Prop := ∃ r ∈ t, key r = k

theorem hasKey_of_find? {t : Table K Row key} {k : K} {r : Row} (h : t.find? k = some r) :
    t.HasKey k :=
  ⟨r, mem_of_find? h⟩

theorem hasKey_of_not_isNone {t : Table K Row key} {k : K} (h : ¬ (t.find? k).isNone = true) :
    t.HasKey k := by
  obtain ⟨r, hr⟩ := Option.ne_none_iff_exists'.mp (fun hn => h (Option.isNone_iff_eq_none.mpr hn))
  exact hasKey_of_find? hr

/-- An insert adds at most its row. -/
theorem mem_of_mem_insert {t : Table K Row key} {r x : Row} (h : x ∈ t.insert r) :
    x ∈ t ∨ x = r := by
  by_cases hf : t.find? (key r) = none
  · exact (mem_insert hf).mp h
  · rw [insert, dif_pos (by simpa [find?_eq_none_iff, mem_def] using hf)] at h
    exact Or.inl h

theorem hasKey_insert {t : Table K Row key} {r : Row} {k : K} :
    (t.insert r).HasKey k ↔ t.HasKey k ∨ key r = k := by
  by_cases hf : t.find? (key r) = none
  · constructor
    · rintro ⟨x, hx, rfl⟩
      rcases (mem_insert hf).mp hx with hx | rfl
      · exact Or.inl ⟨x, hx, rfl⟩
      · exact Or.inr rfl
    · rintro (⟨x, hx, hk⟩ | hk)
      · exact ⟨x, (mem_insert hf).mpr (Or.inl hx), hk⟩
      · exact ⟨r, (mem_insert hf).mpr (Or.inr rfl), hk⟩
  · obtain ⟨x, hx⟩ := Option.ne_none_iff_exists'.mp hf
    rw [insert, dif_pos (by simpa [find?_eq_none_iff, mem_def] using hf)]
    constructor
    · exact Or.inl
    · rintro (h | rfl)
      · exact h
      · exact hasKey_of_find? hx

theorem hasKey_set {t : Table K Row key} {r : Row} {k : K} : (t.set r).HasKey k ↔ t.HasKey k := by
  constructor
  · rintro ⟨x, hx, rfl⟩
    rcases mem_set.mp hx with ⟨hx, -⟩ | ⟨rfl, y, hy, hk⟩
    · exact ⟨x, hx, rfl⟩
    · exact ⟨y, hy, hk⟩
  · rintro ⟨x, hx, rfl⟩
    exact exists_key_set r hx

/-- **At most one row.**  Rows with a property that no two keys share are one or none. -/
theorem countP_rows {t : Table K Row key} (p : Row → Prop) [DecidablePred p]
    (h : ∀ x ∈ t, ∀ y ∈ t, p x → p y → key x = key y) :
    t.rows.countP (fun r => decide (p r)) = if ∃ x ∈ t.rows, p x then 1 else 0 := by
  by_cases hex : ∃ x ∈ t.rows, p x
  · obtain ⟨x, hx, hpx⟩ := hex
    have hcount : t.rows.countP (fun r => decide (p r)) = (t.rows.map key).count (key x) := by
      rw [List.count, List.countP_map]
      refine List.countP_congr (fun y hy => ?_)
      simp only [decide_eq_true_eq, Function.comp_apply, beq_iff_eq]
      constructor
      · intro hpy
        exact h y hy x hx hpy hpx
      · intro hk
        rw [eq_of_key_eq (t := t) hy hx hk]
        exact hpx
    rw [hcount, List.count_eq_one_of_mem t.nodup (List.mem_map_of_mem hx), if_pos ⟨x, hx, hpx⟩]
  · rw [if_neg hex, List.countP_eq_zero]
    intro x hx hp
    exact hex ⟨x, hx, of_decide_eq_true hp⟩

/-! ### Totals -/

/-- The sum of `f` over the rows. -/
def total (t : Table K Row key) (f : Row → ℤ) : ℤ := (t.rows.map f).sum

theorem total_insert {t : Table K Row key} {r : Row} (f : Row → ℤ)
    (h : t.find? (key r) = none) : (t.insert r).total f = t.total f + f r := by
  rw [total, rows_insert h, List.map_append, List.sum_append, total]
  simp

/-- Replacing by a row whose key is absent changes nothing. -/
theorem map_set_of_forall_ne {rs : List Row} {r : Row} (h : ∀ x ∈ rs, key x ≠ key r) :
    rs.map (fun x => if key x = key r then r else x) = rs := by
  induction rs with
  | nil => rfl
  | cons x xs ih =>
    obtain ⟨hx, hxs⟩ := List.forall_mem_cons.mp h
    rw [List.map_cons, if_neg hx, ih hxs]

/-- **A sum moves by the row that changed.** -/
theorem total_set {t : Table K Row key} {old r : Row} (f : Row → ℤ) (ho : old ∈ t)
    (hk : key old = key r) : (t.set r).total f = t.total f - f old + f r := by
  obtain ⟨rows, hn⟩ := t
  replace ho : old ∈ rows := ho
  show ((rows.map (fun x => if key x = key r then r else x)).map f).sum
    = (rows.map f).sum - f old + f r
  induction rows with
  | nil => exact absurd ho List.not_mem_nil
  | cons x xs ih =>
    rw [List.map_cons, List.nodup_cons] at hn
    rcases List.mem_cons.mp ho with rfl | hxs
    · have hne : ∀ y ∈ xs, key y ≠ key r := by
        intro y hy he
        exact hn.1 (List.mem_map.mpr ⟨y, hy, he.trans hk.symm⟩)
      rw [List.map_cons, if_pos hk, map_set_of_forall_ne hne]
      simp only [List.map_cons, List.sum_cons]
      ring
    · have hne : key x ≠ key r := by
        intro he
        exact hn.1 (List.mem_map.mpr ⟨old, hxs, hk.trans he.symm⟩)
      have htail := ih hn.2 hxs
      rw [List.map_cons, if_neg hne]
      simp only [List.map_cons, List.sum_cons]
      rw [htail]
      ring

end Table

end KeyedTable

import Mathlib.Data.List.Perm.Basic
import Mathlib.Data.List.Nodup
import Mathlib.Data.Nat.Notation
import Mathlib.Data.Int.Notation

/-!
# Paging through a sorted list

Rows are sorted by a ranking that may leave some of them tied, and handed out in pages by limit and
offset.  Each page is cut from an arrangement of its own, so that tied rows may stand in any order,
and in another order for the next page.

* `Arranges` is a sorted arrangement of the rows, `listed` the pages one after the other;
* `Unstraddled` says that no group of tied rows reaches over the end of a page;
* **`listed_perm_iff`**: the pages list every row once, however ties are broken, exactly when no
  group does.
-/

set_option autoImplicit false

namespace Paging

variable {α : Type}

/-- What rows are sorted by; two rows may be tied. -/
structure Ranking (α : Type) where
  le : α → α → Bool
  trans : ∀ a b c, le a b → le b c → le a c
  total : ∀ a b, le a b || le b a

namespace Ranking

/-- Rows in the order of a column of them. -/
def comap {β : Type} (r : Ranking α) (f : β → α) : Ranking β where
  le a b := r.le (f a) (f b)
  trans a b c := r.trans (f a) (f b) (f c)
  total a b := r.total (f a) (f b)

/-- Integers, the smallest first. -/
def ascending : Ranking ℤ where
  le a b := decide (a ≤ b)
  trans a b c hab hbc := by
    rw [decide_eq_true_eq] at hab hbc ⊢
    omega
  total a b := by
    rw [Bool.or_eq_true, decide_eq_true_eq, decide_eq_true_eq]
    omega

/-- A second ranking for the rows that the first one leaves tied. -/
def andThen (r r' : Ranking α) : Ranking α where
  le a b := r.le a b && (!r.le b a || r'.le a b)
  trans a b c hab hbc := by
    have h := r.trans a b c
    have h' := r'.trans a b c
    have hca := r.trans c a b
    have hcb := r.trans b c a
    simp only [Bool.and_eq_true, Bool.or_eq_true, Bool.not_eq_true'] at hab hbc ⊢
    grind
  total a b := by
    have h := r.total a b
    have h' := r'.total a b
    grind

end Ranking

/-- The page after `k` others. -/
def page (size k : ℕ) (s : List α) : List α := (s.drop (k * size)).take size

/-- How many pages `n` rows fill. -/
def pages (size n : ℕ) : ℕ := (n + size - 1) / size

/-- The pages one after the other, each from its own arrangement. -/
def listed (size count : ℕ) (s : ℕ → List α) : List α :=
  (List.range count).flatMap (fun k => page size k (s k))

namespace Ranking

variable (r : Ranking α)

/-- The rows, sorted. -/
def Arranges (s rows : List α) : Prop := s.Perm rows ∧ s.Pairwise (fun a b => r.le a b)

/-- How many rows come before `x` in every arrangement. -/
def before (rows : List α) (x : α) : ℕ := rows.countP (fun y => !r.le x y)

/-- How many rows come before `x` or are tied with it. -/
def upTo (rows : List α) (x : α) : ℕ := rows.countP (fun y => r.le y x)

/-- No group of tied rows reaches over the end of a page. -/
def Unstraddled (size : ℕ) (rows : List α) : Prop :=
  ∀ x ∈ rows, ∀ k, ¬ (r.before rows x < k * size ∧ k * size < r.upTo rows x)

variable {r}

theorem refl (a : α) : r.le a a := by
  have h := r.total a a
  rwa [Bool.or_self] at h

/-! ### Beginnings of an arrangement -/

section Beginning

variable {s : List α} {p : α → Bool}

/-- What fails for the first row fails for all. -/
theorem none_of_head {a : α} (hs : (a :: s).Pairwise (fun a b => r.le a b))
    (hp : ∀ a b, r.le a b → p b → p a) (ha : ¬ p a) : ∀ b ∈ s, ¬ p b :=
  fun b hb hpb => ha (hp a b ((List.pairwise_cons.mp hs).1 b hb) hpb)

/-- What holds for a row and then for those before it holds for a beginning. -/
theorem filter_eq_take (hs : s.Pairwise (fun a b => r.le a b)) (hp : ∀ a b, r.le a b → p b → p a) :
    s.filter p = s.take (s.countP p) := by
  induction s with
  | nil => rfl
  | cons a s ih =>
    by_cases hpa : p a
    · rw [List.filter_cons_of_pos hpa, List.countP_cons_of_pos hpa, List.take_succ_cons, ih hs.of_cons]
    · have hnone := none_of_head hs hp hpa
      rw [List.filter_cons_of_neg hpa, List.countP_cons_of_neg hpa, List.countP_eq_zero.mpr hnone,
        List.filter_eq_nil_iff.mpr hnone, List.take_zero]

theorem holds_iff (hs : s.Pairwise (fun a b => r.le a b)) (hp : ∀ a b, r.le a b → p b → p a) {i : ℕ}
    (hi : i < s.length) : p s[i] ↔ i < s.countP p := by
  induction s generalizing i with
  | nil => exact absurd hi (Nat.not_lt_zero i)
  | cons a s ih =>
    by_cases hpa : p a
    · rw [List.countP_cons_of_pos hpa]
      cases i with
      | zero =>
        rw [List.getElem_cons_zero]
        exact iff_of_true hpa (Nat.succ_pos _)
      | succ i =>
        rw [List.getElem_cons_succ, ih hs.of_cons]
        omega
    · have hnone := none_of_head hs hp hpa
      rw [List.countP_cons_of_neg hpa, List.countP_eq_zero.mpr hnone]
      refine iff_of_false (fun hpi => ?_) (Nat.not_lt_zero i)
      cases i with
      | zero => exact hpa hpi
      | succ i => exact hnone _ (List.getElem_mem _) hpi

end Beginning

section Arrangement

variable {s rows : List α} (hs : r.Arranges s rows) (x : α)
include hs

/-- The rows up to `x` stand in front. -/
theorem le_getElem_iff {i : ℕ} (hi : i < s.length) : r.le s[i] x ↔ i < r.upTo rows x := by
  rw [upTo, ← hs.1.countP_eq]
  exact holds_iff (p := fun y => r.le y x) hs.2 (fun a b hab hbx => r.trans a b x hab hbx) hi

theorem getElem_le_iff {i : ℕ} (hi : i < s.length) : r.le x s[i] ↔ r.before rows x ≤ i := by
  have hp : ∀ a b, r.le a b → (!r.le x b) = true → (!r.le x a) = true := by
    intro a b hab hb
    rw [Bool.not_eq_true'] at hb ⊢
    exact Bool.eq_false_iff.mpr (fun hxa => Bool.eq_false_iff.mp hb (r.trans x a b hxa hab))
  have hiff := holds_iff (p := fun y => !r.le x y) hs.2 hp hi
  rw [Bool.not_eq_true', hs.1.countP_eq, ← before] at hiff
  rw [← Nat.not_lt, ← hiff, Bool.not_eq_false]

theorem take_upTo : s.take (r.upTo rows x) = s.filter (fun y => r.le y x) := by
  rw [filter_eq_take hs.2 (fun a b hab hbx => r.trans a b x hab hbx), upTo, hs.1.countP_eq]

end Arrangement

/-! ### Pages that partition the rows -/

section Partition

variable {size : ℕ} {rows : List α}

/-- Up to the end of a page, every arrangement has the same rows. -/
theorem take_perm (h : r.Unstraddled size rows) {s t : List α} (hs : r.Arranges s rows)
    (ht : r.Arranges t rows) (k : ℕ) : (s.take (k * size)).Perm (t.take (k * size)) := by
  have hlen := ht.1.length_eq
  by_cases hpos : k * size = 0
  · rw [hpos]
    exact .nil
  by_cases hlt : k * size < rows.length
  · have hi : k * size - 1 < t.length := by omega
    have hx := List.getElem_mem hi
    have hupTo := (le_getElem_iff ht t[k * size - 1] hi).mp (refl _)
    have hbefore := (getElem_le_iff ht t[k * size - 1] hi).mp (refl _)
    have hnot := h t[k * size - 1] (ht.1.mem_iff.mp hx) k
    have heq : k * size = r.upTo rows t[k * size - 1] := by omega
    rw [heq, take_upTo hs, take_upTo ht]
    exact (hs.1.trans ht.1.symm).filter _
  · have hlen' := hs.1.length_eq
    rw [List.take_of_length_le (by omega), List.take_of_length_le (by omega)]
    exact hs.1.trans ht.1.symm

theorem page_perm (h : r.Unstraddled size rows) {s t : List α} (hs : r.Arranges s rows)
    (ht : r.Arranges t rows) (k : ℕ) : (page size k s).Perm (page size k t) := by
  have hboth := take_perm h hs ht (k + 1)
  rw [Nat.succ_mul, List.take_add, List.take_add] at hboth
  have hfirst := take_perm h hs ht k
  exact (List.perm_append_left_iff _).mp (hboth.trans (hfirst.symm.append_right _))

end Partition

end Ranking

/-- The pages of one arrangement are its beginning. -/
theorem listed_const (size count : ℕ) (s : List α) :
    listed size count (fun _ => s) = s.take (count * size) := by
  induction count with
  | zero => rw [Nat.zero_mul, List.take_zero]; rfl
  | succ count ih =>
    rw [listed, List.range_succ, List.flatMap_append, ← listed, ih, List.flatMap_singleton,
      Nat.succ_mul, List.take_add]
    rfl

theorem le_pages_mul {size : ℕ} (hsize : 0 < size) (n : ℕ) : n ≤ pages size n * size := by
  have hdiv := Nat.div_add_mod (n + size - 1) size
  have hmod := Nat.mod_lt (n + size - 1) hsize
  rw [pages, Nat.mul_comm]
  omega

theorem lt_pages_iff {size : ℕ} (hsize : 0 < size) (n k : ℕ) : k < pages size n ↔ k * size < n := by
  rw [pages, Nat.lt_iff_add_one_le, Nat.le_div_iff_mul_le hsize, Nat.succ_mul]
  omega

namespace Ranking

variable {r : Ranking α} {size : ℕ} {rows : List α}

theorem arranges_mergeSort (r : Ranking α) (rows : List α) : r.Arranges (rows.mergeSort r.le) rows :=
  ⟨List.mergeSort_perm rows r.le, List.pairwise_mergeSort r.trans r.total rows⟩

/-- A row that every other row comes before stands last. -/
theorem Arranges.getLast? {s : List α} (h : r.Arranges s rows) {x : α} (hx : x ∈ rows)
    (hlast : ∀ y ∈ rows, y ≠ x → ¬ r.le x y) : s.getLast? = some x := by
  obtain ⟨front, back, rfl⟩ := List.append_of_mem (h.1.mem_iff.mpr hx)
  have hback : ∀ y ∈ back, y = x := by
    intro y hy
    by_contra hne
    have hrow : y ∈ rows := h.1.mem_iff.mp (List.mem_append_right _ (List.mem_cons_of_mem _ hy))
    have hle := (List.pairwise_cons.mp (List.pairwise_append.mp h.2).2.1).1 y hy
    exact hlast y hrow hne hle
  rw [List.getLast?_append_of_ne_nil _ (List.cons_ne_nil x back)]
  cases hb : back.getLast? with
  | none => rw [List.getLast?_cons, hb, Option.getD_none]
  | some y => rw [List.getLast?_cons, hb, Option.getD_some, hback y (List.mem_of_getLast? hb)]

/-- **Without ties over the end of a page**, the pages list every row once. -/
theorem listed_perm (hsize : 0 < size) (h : r.Unstraddled size rows) {s : ℕ → List α}
    (hs : ∀ k, r.Arranges (s k) rows) : (listed size (pages size rows.length) s).Perm rows := by
  have ht := arranges_mergeSort r rows
  have hpages : (listed size (pages size rows.length) s).Perm
      (listed size (pages size rows.length) (fun _ => rows.mergeSort r.le)) :=
    List.Perm.flatMap_left _ (fun k _ => page_perm h (hs k) ht k)
  have hall : (rows.mergeSort r.le).length ≤ pages size rows.length * size := by
    rw [ht.1.length_eq]
    exact le_pages_mul hsize rows.length
  rw [listed_const, List.take_of_length_le hall] at hpages
  exact hpages.trans ht.1

/-- One page has no end to reach over. -/
theorem unstraddled_of_length_le (h : rows.length ≤ size) : r.Unstraddled size rows := by
  intro x _ k hk
  have hupTo : r.upTo rows x ≤ rows.length := List.countP_le_length
  cases k with
  | zero => omega
  | succ k =>
    rw [Nat.succ_mul] at hk
    omega

/-- Two tied rows may change places. -/
theorem Arranges.exchange {t : List α} (ht : r.Arranges t rows) {i j : ℕ} (hi : i < t.length)
    (hj : j < t.length) (hij : r.le t[i] t[j]) (hji : r.le t[j] t[i]) :
    r.Arranges ((t.set i t[j]).set j t[i]) rows := by
  refine ⟨(List.set_set_perm hi hj).trans ht.1, List.pairwise_iff_getElem.mpr (fun a b ha hb hab => ?_)⟩
  have hlen : ((t.set i t[j]).set j t[i]).length = t.length := by
    rw [List.length_set, List.length_set]
  have htied : ∀ k (hk : k < ((t.set i t[j]).set j t[i]).length) (hk' : k < t.length),
      r.le ((t.set i t[j]).set j t[i])[k] t[k] ∧ r.le t[k] ((t.set i t[j]).set j t[i])[k] := by
    intro k hk hk'
    rw [List.getElem_set, List.getElem_set]
    by_cases hjk : j = k
    · subst hjk
      rw [if_pos rfl]
      exact ⟨hij, hji⟩
    · rw [if_neg hjk]
      by_cases hik : i = k
      · subst hik
        rw [if_pos rfl]
        exact ⟨hji, hij⟩
      · rw [if_neg hik]
        exact ⟨refl _, refl _⟩
  have hab' := List.pairwise_iff_getElem.mp ht.2 a b (hlen ▸ ha) (hlen ▸ hb) hab
  exact r.trans _ _ _ (htied a ha (hlen ▸ ha)).1 (r.trans _ _ _ hab' (htied b hb (hlen ▸ hb)).2)

/-- A row may stand anywhere among those it is tied with. -/
theorem exists_getElem {x : α} (hx : x ∈ rows) {p : ℕ} (hlow : r.before rows x ≤ p)
    (hhigh : p < r.upTo rows x) :
    ∃ s, r.Arranges s rows ∧ ∃ h : p < s.length, s[p] = x := by
  obtain ⟨t, ht⟩ : ∃ t, r.Arranges t rows := ⟨_, arranges_mergeSort r rows⟩
  have hle : r.upTo rows x ≤ rows.length := List.countP_le_length
  have hlen := ht.1.length_eq
  have hp : p < t.length := by omega
  obtain ⟨i, hi, rfl⟩ := List.getElem_of_mem (ht.1.mem_iff.mpr hx)
  have hplen : p < ((t.set i t[p]).set p t[i]).length := by
    rwa [List.length_set, List.length_set]
  refine ⟨_, ht.exchange hi hp ((getElem_le_iff ht t[i] hp).mpr hlow)
    ((le_getElem_iff ht t[i] hp).mpr hhigh), hplen, ?_⟩
  exact List.getElem_set_self hplen

theorem mem_window {s : List α} {off n i : ℕ} (hi : i < s.length) (hlow : off ≤ i)
    (hhigh : i < off + n) : s[i] ∈ (s.drop off).take n := by
  have hlen : i - off < ((s.drop off).take n).length := by
    rw [List.length_take, List.length_drop]
    omega
  have heq : ((s.drop off).take n)[i - off] = s[i] := by
    simp only [List.getElem_take, List.getElem_drop]
    congr 1
    omega
  rw [← heq]
  exact List.getElem_mem hlen

/-- **The rows that may be listed** between an offset and a limit: those whose group of tied rows
reaches into the window. -/
theorem exists_mem_window (r : Ranking α) {x : α} (hx : x ∈ rows) (off : ℕ) {n : ℕ} (hn : 0 < n) :
    (∃ s, r.Arranges s rows ∧ x ∈ (s.drop off).take n)
      ↔ r.before rows x < off + n ∧ off < r.upTo rows x := by
  constructor
  · rintro ⟨s, hs, hmem⟩
    obtain ⟨i, hi, rfl⟩ := List.getElem_of_mem hmem
    rw [List.length_take, List.length_drop] at hi
    have hplace : off + i < s.length := by omega
    rw [List.getElem_take, List.getElem_drop]
    have hbefore := (getElem_le_iff hs s[off + i] hplace).mp (refl _)
    have hupTo := (le_getElem_iff hs s[off + i] hplace).mp (refl _)
    omega
  · rintro ⟨hbefore, hupTo⟩
    have hgroup : r.before rows x < r.upTo rows x := by
      obtain ⟨i, hi, heq⟩ := List.getElem_of_mem ((arranges_mergeSort r rows).1.mem_iff.mpr hx)
      have hlow := (getElem_le_iff (arranges_mergeSort r rows) x hi).mp (heq ▸ refl _)
      have hhigh := (le_getElem_iff (arranges_mergeSort r rows) x hi).mp (heq ▸ refl _)
      omega
    have hp : max off (r.before rows x) < r.upTo rows x := by omega
    obtain ⟨s, hs, hplace, heq⟩ := exists_getElem hx (Nat.le_max_right off _) hp
    have hmem := mem_window (n := n) hplace (Nat.le_max_left off _) (by omega)
    rw [heq] at hmem
    exact ⟨s, hs, hmem⟩

/-- Of pages without a repetition, no two share a row. -/
theorem page_disjoint {count : ℕ} {s : ℕ → List α} (h : (listed size count s).Nodup) {i j : ℕ}
    (hij : i < j) (hj : j < count) {a : α} (ha : a ∈ page size i (s i)) : a ∉ page size j (s j) := by
  have hpairs := List.pairwise_iff_getElem.mp (List.nodup_flatMap.mp h).2 i j
  simp only [List.length_range, List.getElem_range] at hpairs
  intro ha'
  exact hpairs (by omega) hj hij ha ha'

/-- **A tie over the end of a page** can be broken so that a row is listed twice. -/
theorem exists_repeated (hsize : 0 < size) {x : α} (hmem : x ∈ rows) {k : ℕ}
    (hx : r.before rows x < k * size ∧ k * size < r.upTo rows x) :
    ∃ s : ℕ → List α, (∀ k, r.Arranges (s k) rows) ∧
      ¬ (listed size (pages size rows.length) s).Nodup := by
  obtain ⟨hbefore, hupTo⟩ := hx
  have hle : r.upTo rows x ≤ rows.length := List.countP_le_length
  obtain ⟨j, rfl⟩ : ∃ j, k = j + 1 := Nat.exists_eq_succ_of_ne_zero (by rintro rfl; omega)
  have hmul : (j + 1) * size = j * size + size := Nat.succ_mul j size
  obtain ⟨t, ht, hlast⟩ := (exists_mem_window r hmem (j * size) hsize).mpr (by omega)
  obtain ⟨t', ht', hfirst⟩ :=
    (exists_mem_window r hmem ((j + 1) * size) hsize).mpr (by omega)
  -- last on one page and first on the next
  let s : ℕ → List α := fun k => if k = j then t else t'
  refine ⟨s, fun k => ?_, fun hnodup => ?_⟩
  · by_cases hk : k = j
    · simpa only [s, if_pos hk] using ht
    · simpa only [s, if_neg hk] using ht'
  · have hs : s j = t := if_pos rfl
    have hs' : s (j + 1) = t' := if_neg (by omega)
    have hcount : j + 1 < pages size rows.length := (lt_pages_iff hsize _ _).mpr (by omega)
    refine page_disjoint (a := x) hnodup (Nat.lt_succ_self j) hcount ?_ ?_
    · rw [hs]
      exact hlast
    · rw [hs']
      exact hfirst

/-- **Paging is a partition** exactly when no group of tied rows reaches over the end of a page. -/
theorem listed_perm_iff (hsize : 0 < size) (hnodup : rows.Nodup) :
    (∀ s : ℕ → List α, (∀ k, r.Arranges (s k) rows) →
      (listed size (pages size rows.length) s).Perm rows) ↔ r.Unstraddled size rows := by
  constructor
  · intro h x hx k hk
    obtain ⟨s, hs, hrepeated⟩ := exists_repeated hsize hx hk
    exact hrepeated ((h s hs).nodup_iff.mpr hnodup)
  · intro h s hs
    exact listed_perm hsize h hs

end Ranking

end Paging

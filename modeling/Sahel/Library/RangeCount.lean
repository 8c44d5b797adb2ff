import Sahel.Library.HalfOpen
import Mathlib.Algebra.BigOperators.Group.Finset.Piecewise
import Mathlib.Algebra.Order.BigOperators.Group.Finset
import Mathlib.Algebra.BigOperators.Ring.List
import Mathlib.Algebra.BigOperators.Group.Finset.Sigma
import Mathlib.Order.Interval.Finset.Nat
import Mathlib.Data.Int.Interval
import Mathlib.Tactic.Ring

/-!
# Counting the points of half-open ranges

How many integers a range has inside a window, and how the counts add up.

* `shared` is the number of points; it is the length of the overlap when there is one;
* **`sum_shared_steps`**: over consecutive windows the counts add up to the count over all of them;
* **`sum_shared_le`**: ranges that cover each point of a window at most once have no more points in
  it than the window does;
* **`sum_shared_card`**: ranges of several keys that cover each point at most once have as many points
  as there are cells, of a key and a point, they cover.
-/

set_option autoImplicit false

namespace HalfOpen

/-- Counting on from `a`. -/
def countFrom (a : ℤ) : ℕ ↪ ℤ := ⟨fun i => a + i, fun i j hij => by simpa using hij⟩

/-- The integers of `[a, b)`. -/
def points (a b : ℤ) : Finset ℤ := (Finset.range (b - a).toNat).map (countFrom a)

@[simp] theorem mem_points {a b n : ℤ} : n ∈ points a b ↔ a ≤ n ∧ n < b := by
  simp only [points, Finset.mem_map, Finset.mem_range]
  constructor
  · intro h
    obtain ⟨i, hi, rfl⟩ := h
    show a ≤ a + i ∧ a + i < b
    omega
  · intro h
    refine ⟨(n - a).toNat, by omega, ?_⟩
    show a + ((n - a).toNat : ℤ) = n
    omega

theorem card_points (a b : ℤ) : (points a b).card = (b - a).toNat := by
  rw [points, Finset.card_map, Finset.card_range]

/-- The number of points of `[a, b)` in the window `[c, d)`. -/
def shared (a b c d : ℤ) : ℕ := ((points a b).filter (fun n => c ≤ n ∧ n < d)).card

/-- The window, clipped to the range. -/
theorem shared_eq_card (a b c d : ℤ) :
    shared a b c d = ((points c d).filter (fun n => a ≤ n ∧ n < b)).card := by
  rw [shared]
  congr 1
  ext n
  simp only [Finset.mem_filter, mem_points]
  exact and_comm

theorem shared_eq_max (a b c d : ℤ) : (shared a b c d : ℤ) = max 0 (min b d - max a c) := by
  have hset : (points a b).filter (fun n => c ≤ n ∧ n < d) = points (max a c) (min b d) := by
    ext n
    simp only [Finset.mem_filter, mem_points]
    omega
  rw [shared, hset, card_points]
  omega

/-- **The overlap's length.** -/
theorem shared_of_overlaps {a b c d : ℤ} (h : Overlaps a b c d) :
    (shared a b c d : ℤ) = min b d - max a c := by
  obtain ⟨hab, hcd, had, hcb⟩ := h
  rw [shared_eq_max]
  omega

theorem shared_of_not_overlaps {a b c d : ℤ} (h : ¬ Overlaps a b c d) : shared a b c d = 0 := by
  unfold Overlaps at h
  have := shared_eq_max a b c d
  omega

/-- A window cut in two. -/
theorem shared_add {a b c d e : ℤ} (hcd : c ≤ d) (hde : d ≤ e) :
    shared a b c d + shared a b d e = shared a b c e := by
  have h₁ := shared_eq_max a b c d
  have h₂ := shared_eq_max a b d e
  have h₃ := shared_eq_max a b c e
  omega

/-- **Consecutive windows.** -/
theorem sum_shared_steps (a b : ℤ) {t : ℕ → ℤ} {n : ℕ} (h : ∀ g < n, t g ≤ t (g + 1)) :
    ((List.range n).map (fun g => (shared a b (t g) (t (g + 1)) : ℤ))).sum
      = shared a b (t 0) (t n) ∧ t 0 ≤ t n := by
  induction n with
  | zero =>
    refine ⟨?_, le_rfl⟩
    rw [shared_of_not_overlaps (fun h => lt_irrefl _ h.2.1)]
    rfl
  | succ n ih =>
    obtain ⟨hsum, hle⟩ := ih (fun g hg => h g (Nat.lt_succ_of_lt hg))
    have hstep := h n (Nat.lt_succ_self n)
    rw [List.range_succ, List.map_append, List.sum_append, hsum, List.map_singleton,
      List.sum_singleton, ← shared_add hle hstep]
    exact ⟨(Nat.cast_add _ _).symm, hle.trans hstep⟩

/-! ### Sums over lists -/

variable {α : Type}

/-- Two sums in either order. -/
theorem sum_sum_comm {β : Type} (f : α → β → ℤ) (l : List α) (m : List β) :
    (l.map (fun x => (m.map (f x)).sum)).sum = (m.map (fun y => (l.map (fun x => f x y)).sum)).sum := by
  induction l with
  | nil => simp
  | cons x l ih => simp [ih, List.sum_map_add]

/-- Dropping the terms that are zero. -/
theorem sum_map_filter {l : List α} {p : α → Bool} {f : α → ℤ} (h : ∀ x ∈ l, p x = false → f x = 0) :
    ((l.filter p).map f).sum = (l.map f).sum := by
  induction l with
  | nil => rfl
  | cons x l ih =>
    obtain ⟨hx, hl⟩ := List.forall_mem_cons.mp h
    cases hp : p x with
    | true => rw [List.filter_cons_of_pos hp, List.map_cons, List.sum_cons, ih hl, List.map_cons, List.sum_cons]
    | false =>
      rw [List.filter_cons_of_neg (by simp [hp]), ih hl, List.map_cons, List.sum_cons, hx hp,
        zero_add]

/-- One key of a list without repeats. -/
theorem sum_ite_key {β K : Type} [DecidableEq K] {keys : List β} {key : β → K}
    (hnd : (keys.map key).Nodup) {k : K} (hk : k ∈ keys.map key) (x : ℤ) :
    (keys.map (fun y => if k = key y then x else 0)).sum = x := by
  have hcount : ∀ ys : List β, (ys.map (fun y => if k = key y then x else 0)).sum
      = (ys.map key).count k * x := by
    intro ys
    induction ys with
    | nil => simp
    | cons y ys ih =>
      rw [List.map_cons, List.sum_cons, ih, List.map_cons, List.count_cons]
      by_cases hy : k = key y
      · subst hy
        simp only [if_true, beq_self_eq_true, Nat.cast_add, Nat.cast_one]
        ring
      · have hne : (key y == k) = false := beq_eq_false_iff_ne.mpr (Ne.symm hy)
        simp [hy, hne]
  rw [hcount, List.count_eq_one_of_mem hnd hk, Nat.cast_one, one_mul]

/-- **Grouping by a key**, when every element has its group. -/
theorem sum_groups {β K : Type} [DecidableEq K] {keys : List β} {key : β → K}
    (hnd : (keys.map key).Nodup) {l : List α} {f : α → K} (h : ∀ a ∈ l, f a ∈ keys.map key)
    (x : α → ℤ) :
    (keys.map (fun y => ((l.filter (fun a => decide (f a = key y))).map x).sum)).sum
      = (l.map x).sum := by
  have hterm : ∀ y, ((l.filter (fun a => decide (f a = key y))).map x).sum
      = (l.map (fun a => if f a = key y then x a else 0)).sum := by
    intro y
    rw [← sum_map_filter (p := fun a => decide (f a = key y))
      (f := fun a => if f a = key y then x a else 0)]
    · congr 1
      refine List.map_congr_left (fun a ha => ?_)
      rw [if_pos (by simpa using (List.mem_filter.mp ha).2)]
    · intro a _ ha
      exact if_neg (by simpa using ha)
  simp only [hterm]
  rw [sum_sum_comm]
  congr 1
  refine List.map_congr_left (fun a ha => ?_)
  exact sum_ite_key hnd (h a ha) (x a)

/-- The points of a list of ranges, counted point by point. -/
theorem sum_shared_eq (l : List α) (lo hi : α → ℤ) (c d : ℤ) :
    (l.map (fun x => shared (lo x) (hi x) c d)).sum
      = ∑ n ∈ points c d, l.countP (fun x => decide (lo x ≤ n ∧ n < hi x)) := by
  induction l with
  | nil => simp
  | cons x l ih =>
    rw [List.map_cons, List.sum_cons, ih, shared_eq_card, Finset.card_filter, ← Finset.sum_add_distrib]
    refine Finset.sum_congr rfl (fun n _ => ?_)
    rw [List.countP_cons, add_comm]
    simp only [decide_eq_true_eq]

/-- **Ranges that share no point of a window fit into it.** -/
theorem sum_shared_le (l : List α) (lo hi : α → ℤ) {c d : ℤ} (hcd : c ≤ d)
    (h : ∀ n, c ≤ n → n < d → l.countP (fun x => decide (lo x ≤ n ∧ n < hi x)) ≤ 1) :
    ((l.map (fun x => shared (lo x) (hi x) c d)).sum : ℤ) ≤ d - c := by
  have hcard : (l.map (fun x => shared (lo x) (hi x) c d)).sum ≤ (points c d).card := by
    rw [sum_shared_eq, Finset.card_eq_sum_ones]
    refine Finset.sum_le_sum (fun n hn => ?_)
    obtain ⟨hc, hd⟩ := mem_points.mp hn
    exact h n hc hd
  rw [card_points] at hcard
  omega

/-! ### Several keys -/

/-- The points of a list of ranges, each in the row of its key, counted cell by cell. -/
theorem sum_shared_cells {K : Type} [DecidableEq K] {keys : Finset K} (l : List α) (key : α → K)
    (lo hi : α → ℤ) (c d : ℤ) (h : ∀ x ∈ l, key x ∈ keys) :
    (l.map (fun x => shared (lo x) (hi x) c d)).sum
      = ∑ p ∈ keys ×ˢ points c d,
        l.countP (fun x => decide (key x = p.1 ∧ lo x ≤ p.2 ∧ p.2 < hi x)) := by
  induction l with
  | nil => simp
  | cons x l ih =>
    obtain ⟨hx, hl⟩ := List.forall_mem_cons.mp h
    -- One range lies in the row of its key.
    have hone : shared (lo x) (hi x) c d
        = ∑ p ∈ keys ×ˢ points c d, if key x = p.1 ∧ lo x ≤ p.2 ∧ p.2 < hi x then 1 else 0 := by
      rw [shared_eq_card, Finset.card_filter, Finset.sum_product, Finset.sum_eq_single (key x)]
      · refine Finset.sum_congr rfl (fun n _ => ?_)
        simp only [true_and]
      · intro k _ hk
        refine Finset.sum_eq_zero (fun n _ => ?_)
        rw [if_neg (fun hn => hk hn.1.symm)]
      · intro hk
        exact absurd hx hk
    rw [List.map_cons, List.sum_cons, ih hl, hone, ← Finset.sum_add_distrib]
    refine Finset.sum_congr rfl (fun p _ => ?_)
    rw [List.countP_cons, add_comm]
    simp only [decide_eq_true_eq]

/-- **Ranges that share no cell count the cells they cover.** -/
theorem sum_shared_card {K : Type} [DecidableEq K] {keys : Finset K} (l : List α) (key : α → K)
    (lo hi : α → ℤ) (c d : ℤ) (h : ∀ x ∈ l, key x ∈ keys)
    (hone : ∀ p ∈ keys ×ˢ points c d,
      l.countP (fun x => decide (key x = p.1 ∧ lo x ≤ p.2 ∧ p.2 < hi x)) ≤ 1)
    (covered : K × ℤ → Prop) [DecidablePred covered]
    (hcovered : ∀ p ∈ keys ×ˢ points c d,
      covered p ↔ ∃ x ∈ l, key x = p.1 ∧ lo x ≤ p.2 ∧ p.2 < hi x) :
    (l.map (fun x => shared (lo x) (hi x) c d)).sum = ((keys ×ˢ points c d).filter covered).card := by
  rw [sum_shared_cells l key lo hi c d h, Finset.card_filter]
  refine Finset.sum_congr rfl (fun p hp => ?_)
  have hle := hone p hp
  by_cases hc : covered p
  · obtain ⟨x, hx, hin⟩ := (hcovered p hp).mp hc
    have hpos : 0 < l.countP (fun x => decide (key x = p.1 ∧ lo x ≤ p.2 ∧ p.2 < hi x)) :=
      List.countP_pos_iff.mpr ⟨x, hx, decide_eq_true hin⟩
    rw [if_pos hc]
    omega
  · rw [if_neg hc, List.countP_eq_zero]
    intro x hx hin
    exact hc ((hcovered p hp).mpr ⟨x, hx, of_decide_eq_true hin⟩)

end HalfOpen

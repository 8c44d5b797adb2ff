import Mathlib.Data.Int.Log
import Mathlib.Data.Rat.Floor
import Mathlib.Tactic.FieldSimp
import Mathlib.Tactic.Linarith
import Mathlib.Tactic.NormNum
import Mathlib.Tactic.Ring

/-!
# Fifteen digits survive a double

A decimal of at most fifteen digits is told apart from every other one by the double nearest to it.

* `nearest` rounds a positive rational to 53 binary digits, ties to the even one;
* `nearest_mono`: order is kept; `nearest_close`: by no more than a 2⁵³-th of it;
* **`eq_of_nearest_eq`**: two decimals of at most fifteen digits with the same double are equal.

Numbers so small that their double has fewer digits, or too large for one, are left out.
-/

set_option autoImplicit false

namespace Binary64

/-- The nearest integer, ties to the even one. -/
def roundEven (r : ℚ) : ℤ :=
  if r - ⌊r⌋ < 1 / 2 ∨ (r - ⌊r⌋ = 1 / 2 ∧ ⌊r⌋ % 2 = 0) then ⌊r⌋ else ⌊r⌋ + 1

/-- The distance between the doubles around a positive rational. -/
def spacing (q : ℚ) : ℚ := 2 ^ (Int.log 2 q - 52)

/-- The double nearest to a positive rational. -/
def nearest (q : ℚ) : ℚ := roundEven (q / spacing q) * spacing q

theorem roundEven_close (r : ℚ) : |roundEven r - r| ≤ 1 / 2 := by
  have hle := Int.floor_le r
  have hlt := Int.lt_floor_add_one r
  unfold roundEven
  split_ifs with h
  · have hhalf : r - ⌊r⌋ ≤ 1 / 2 := by
      rcases h with h | ⟨h, -⟩
      · exact h.le
      · exact h.le
    rw [abs_le]
    constructor <;> linarith
  · have hhalf : 1 / 2 ≤ r - ⌊r⌋ := le_of_not_gt fun hsmall => h (Or.inl hsmall)
    push_cast
    rw [abs_le]
    constructor <;> linarith

theorem spacing_pos (q : ℚ) : 0 < spacing q := zpow_pos (by norm_num) _

theorem spacing_mul (q : ℚ) (k : ℕ) : spacing q * 2 ^ k = 2 ^ (Int.log 2 q - 52 + k) := by
  rw [spacing, zpow_add₀ (by norm_num), zpow_natCast]

theorem spacing_le {q : ℚ} (h : 0 < q) : spacing q * 2 ^ 52 ≤ q := by
  have hlog := Int.zpow_log_le_self (b := 2) (by norm_num) h
  have hsplit : spacing q * 2 ^ 52 = 2 ^ Int.log 2 q := by
    rw [spacing_mul]
    congr 1
    push_cast
    ring
  rw [hsplit]
  exact_mod_cast hlog

theorem lt_spacing (q : ℚ) : q < spacing q * 2 ^ 53 := by
  have hlog := Int.lt_zpow_succ_log_self (b := 2) (by norm_num) q
  have hsplit : spacing q * 2 ^ 53 = 2 ^ (Int.log 2 q + 1) := by
    rw [spacing_mul]
    congr 1
    push_cast
    ring
  rw [hsplit]
  exact_mod_cast hlog

theorem roundEven_intCast (m : ℤ) : roundEven m = m := by
  simp [roundEven]

/-- A whole number of 53 binary digits is a double. -/
theorem nearest_natCast {n : ℕ} (hn : 0 < n) (hsmall : n < 2 ^ 53) : nearest n = n := by
  have hlog : Int.log 2 (n : ℚ) = Nat.log 2 n := Int.log_natCast 2 n
  have hfew : Nat.log 2 n ≤ 52 := Nat.lt_succ_iff.mp (Nat.log_lt_of_lt_pow hn.ne' hsmall)
  have hspacing : spacing (n : ℚ) = (2 ^ (52 - Nat.log 2 n : ℕ))⁻¹ := by
    rw [spacing, hlog, ← zpow_natCast, ← zpow_neg]
    congr 1
    omega
  have hwhole : (n : ℚ) / spacing n = ((n * 2 ^ (52 - Nat.log 2 n) : ℕ) : ℤ) := by
    rw [hspacing, div_inv_eq_mul]
    push_cast
    ring
  rw [nearest, hwhole, roundEven_intCast, ← hwhole, div_mul_cancel₀ _ (spacing_pos _).ne']

/-! ### Order -/

theorem roundEven_mono {r s : ℚ} (h : r ≤ s) : roundEven r ≤ roundEven s := by
  rcases (Int.floor_mono h).lt_or_eq with hlt | heq
  · have hr : roundEven r ≤ ⌊r⌋ + 1 := by
      unfold roundEven
      split_ifs <;> omega
    have hs : ⌊s⌋ ≤ roundEven s := by
      unfold roundEven
      split_ifs <;> omega
    omega
  · unfold roundEven
    rw [heq]
    split_ifs with hr hs
    · exact le_rfl
    · omega
    · -- Rounded down on the right, up on the left: the left part is the larger one.
      exfalso
      rcases ‹_ ∨ _› with hs | ⟨hs, heven⟩
      · exact hr (Or.inl (by linarith))
      · rcases (show r - ⌊s⌋ ≤ 1 / 2 by linarith).lt_or_eq with hlow | htie
        · exact hr (Or.inl hlow)
        · exact hr (Or.inr ⟨htie, heven⟩)
    · exact le_rfl

theorem nearest_zero : nearest 0 = 0 := by simp [nearest, roundEven]

theorem nearest_nonneg {q : ℚ} (h : 0 ≤ q) : 0 ≤ nearest q := by
  have hround : roundEven 0 ≤ roundEven (q / spacing q) := roundEven_mono (div_nonneg h (spacing_pos q).le)
  rw [show roundEven 0 = 0 from roundEven_intCast 0] at hround
  exact mul_nonneg (by exact_mod_cast hround) (spacing_pos q).le

/-- **Rounding keeps order.** -/
theorem nearest_mono {p q : ℚ} (hp : 0 < p) (h : p ≤ q) : nearest p ≤ nearest q := by
  rcases (Int.log_mono_right (b := 2) hp h).lt_or_eq with hlt | heq
  · -- A power of two lies between them.
    have htop : nearest p ≤ spacing p * 2 ^ 53 := by
      have hscaled : p / spacing p ≤ ((2 ^ 53 : ℤ) : ℚ) := by
        rw [div_le_iff₀ (spacing_pos p), mul_comm]
        exact_mod_cast (lt_spacing p).le
      have hround := roundEven_mono hscaled
      rw [roundEven_intCast] at hround
      rw [nearest, mul_comm]
      exact mul_le_mul_of_nonneg_left (by exact_mod_cast hround) (spacing_pos p).le
    have hbottom : spacing q * 2 ^ 52 ≤ nearest q := by
      have hscaled : ((2 ^ 52 : ℤ) : ℚ) ≤ q / spacing q := by
        rw [le_div_iff₀ (spacing_pos q), mul_comm]
        exact_mod_cast spacing_le (hp.trans_le h)
      have hround := roundEven_mono hscaled
      rw [roundEven_intCast] at hround
      rw [nearest, mul_comm]
      exact mul_le_mul_of_nonneg_right (by exact_mod_cast hround) (spacing_pos q).le
    calc nearest p ≤ spacing p * 2 ^ 53 := htop
      _ ≤ spacing q * 2 ^ 52 := by
        rw [spacing_mul, spacing_mul]
        exact zpow_le_zpow_right₀ (by norm_num) (by push_cast; omega)
      _ ≤ nearest q := hbottom
  · have hspacing : spacing p = spacing q := by rw [spacing, spacing, heq]
    rw [nearest, nearest, hspacing]
    have hround := roundEven_mono (div_le_div_of_nonneg_right h (spacing_pos q).le)
    exact mul_le_mul_of_nonneg_right (by exact_mod_cast hround) (spacing_pos q).le

/-- **Rounding is close.** -/
theorem nearest_close {q : ℚ} (h : 0 < q) : |nearest q - q| * 2 ^ 53 ≤ q := by
  have hpos := spacing_pos q
  have hround := roundEven_close (q / spacing q)
  have hscale : nearest q - q = (roundEven (q / spacing q) - q / spacing q) * spacing q := by
    rw [nearest, sub_mul, div_mul_cancel₀ q hpos.ne']
  have hle := spacing_le h
  rw [hscale, abs_mul, abs_of_pos hpos]
  calc |(roundEven (q / spacing q) : ℚ) - q / spacing q| * spacing q * 2 ^ 53
      ≤ 1 / 2 * spacing q * 2 ^ 53 := by gcongr
    _ = spacing q * 2 ^ 52 := by ring
    _ ≤ q := hle

/-- Two that round to one are close to each other. -/
theorem close_of_nearest_eq {u v : ℚ} (hu : 0 < u) (hv : 0 < v) (h : nearest u = nearest v) :
    |u - v| * (2 ^ 53 - 1) ≤ 2 * u := by
  have h₁ := nearest_close hu
  have h₂ := nearest_close hv
  rw [h] at h₁
  have htriangle : |u - v| ≤ |nearest v - u| + |nearest v - v| := by
    have hsum := abs_sub_le u (nearest v) v
    rwa [abs_sub_comm u (nearest v)] at hsum
  have hv' : v ≤ u + |u - v| := by
    have hneg := neg_abs_le (u - v)
    linarith
  have hscaled : |u - v| * 2 ^ 53 ≤ u + v := by
    calc |u - v| * 2 ^ 53 ≤ (|nearest v - u| + |nearest v - v|) * 2 ^ 53 := by gcongr
      _ = |nearest v - u| * 2 ^ 53 + |nearest v - v| * 2 ^ 53 := by ring
      _ ≤ u + v := add_le_add h₁ h₂
  linarith

/-- With the smaller exponent on the left, both are multiples of one power of ten. -/
theorem eq_of_nearest_eq_of_le {s t : ℕ} {i j : ℤ} (hij : i ≤ j) (hs : 0 < s) (hs' : s < 10 ^ 15)
    (ht : 0 < t) (h : nearest (s * 10 ^ i) = nearest (t * 10 ^ j)) :
    (s * 10 ^ i : ℚ) = t * 10 ^ j := by
  have hten : (0 : ℚ) < 10 ^ i := zpow_pos (by norm_num) i
  have hcommon : (t * 10 ^ j : ℚ) = (t * 10 ^ (j - i).toNat : ℕ) * 10 ^ i := by
    have hexp : j = ((j - i).toNat : ℤ) + i := by omega
    conv_lhs => rw [hexp]
    rw [zpow_add₀ (by norm_num), zpow_natCast]
    push_cast
    ring
  have hclose := close_of_nearest_eq (mul_pos (by exact_mod_cast hs) hten)
    (mul_pos (by exact_mod_cast ht) (zpow_pos (by norm_num) j)) h
  rw [hcommon] at hclose ⊢
  generalize t * 10 ^ (j - i).toNat = m at hclose ⊢
  rw [← sub_mul, abs_mul, abs_of_pos hten, mul_right_comm, ← mul_assoc,
    mul_le_mul_iff_of_pos_right hten] at hclose
  -- Different multiples are a whole power of ten apart, more than the rounding allows.
  have hsame : s = m := by
    by_contra hne
    have happart : (1 : ℚ) ≤ |(s : ℚ) - m| := by
      have hint : (1 : ℤ) ≤ |(s : ℤ) - m| := Int.one_le_abs (by omega)
      exact_mod_cast hint
    have hbound : (s : ℚ) < 10 ^ 15 := by exact_mod_cast hs'
    have hlow : (2 ^ 53 - 1 : ℚ) ≤ |(s : ℚ) - m| * (2 ^ 53 - 1) :=
      le_mul_of_one_le_left (by norm_num) happart
    have htoo : (2 ^ 53 - 1 : ℚ) < 2 * 10 ^ 15 := by linarith
    norm_num at htoo
  rw [hsame]

/-- **Fifteen digits survive.** -/
theorem eq_of_nearest_eq {s t : ℕ} {i j : ℤ} (hs : 0 < s) (hs' : s < 10 ^ 15) (ht : 0 < t)
    (ht' : t < 10 ^ 15) (h : nearest (s * 10 ^ i) = nearest (t * 10 ^ j)) :
    (s * 10 ^ i : ℚ) = t * 10 ^ j := by
  rcases le_total i j with hij | hji
  · exact eq_of_nearest_eq_of_le hij hs hs' ht h
  · exact (eq_of_nearest_eq_of_le hji ht ht' hs h.symm).symm

end Binary64

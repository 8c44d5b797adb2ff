import Mathlib.Algebra.Order.Ring.Int
import Mathlib.Order.WithBot
import Mathlib.Order.Monotone.Basic

/-!
# Natural numbers as doubles

The nearest double of a natural number, ties to even: the 53 leading binary digits are kept, and what
comes out at 2¹⁰²⁴ or more is infinity, `⊤`.

* `roundAt_mono`, `roundNat_mono`: rounding keeps order;
* `ofNat_eq`: up to 2⁵³ nothing is rounded;
* `roundInt` rounds integers, either side of zero alike;
* `add` and `scale` round what they compute; `ofNat_eq_top_iff` says when that is infinity;
* **`lt_ofNat_iff`**: a number below 2⁵³ compares with a rounded number as with the number itself.
-/

set_option autoImplicit false

namespace Binary64

/-- To the nearest multiple of `2 ^ e`, ties to the even one. -/
def roundAt (e n : ℕ) : ℕ :=
  let q := n / 2 ^ e
  let r := n % 2 ^ e
  (if 2 ^ e < 2 * r ∨ (2 ^ e = 2 * r ∧ q % 2 = 1) then q + 1 else q) * 2 ^ e

/-- To 53 binary digits. -/
def roundNat (n : ℕ) : ℕ := roundAt (n.log2 - 52) n

/-- Finite doubles stay below two to this. -/
def maxExponent : ℕ := 1024

/-- What no finite double reaches. -/
def limit : ℕ := 2 ^ maxExponent

/-- The nearest double; `⊤` is infinity. -/
def ofNat (n : ℕ) : WithTop ℕ := if roundNat n < limit then WithTop.some (roundNat n) else ⊤

/-! ### One grid -/

theorem roundAt_bounds (e n : ℕ) :
    n / 2 ^ e * 2 ^ e ≤ roundAt e n ∧ roundAt e n ≤ (n / 2 ^ e + 1) * 2 ^ e := by
  simp only [roundAt]
  split_ifs with h
  · exact ⟨Nat.mul_le_mul_right _ (Nat.le_succ _), le_rfl⟩
  · exact ⟨le_rfl, Nat.mul_le_mul_right _ (Nat.le_succ _)⟩

theorem roundAt_mono (e : ℕ) : Monotone (roundAt e) := by
  intro n m h
  rcases (Nat.div_le_div_right h : n / 2 ^ e ≤ m / 2 ^ e).lt_or_eq with hlt | heq
  · calc roundAt e n ≤ (n / 2 ^ e + 1) * 2 ^ e := (roundAt_bounds e n).2
      _ ≤ m / 2 ^ e * 2 ^ e := Nat.mul_le_mul_right _ hlt
      _ ≤ roundAt e m := (roundAt_bounds e m).1
  · have hn := Nat.div_add_mod n (2 ^ e)
    have hm := Nat.div_add_mod m (2 ^ e)
    rw [heq] at hn
    have hrest : n % 2 ^ e ≤ m % 2 ^ e := by omega
    simp only [roundAt, heq]
    refine Nat.mul_le_mul_right _ ?_
    split_ifs with hup hup'
    · exact le_rfl
    · omega
    · exact Nat.le_succ _
    · exact le_rfl

theorem roundAt_zero (n : ℕ) : roundAt 0 n = n := by
  simp [roundAt, Nat.mod_one]

/-- A multiple stays. -/
theorem roundAt_of_dvd {e n : ℕ} (h : 2 ^ e ∣ n) : roundAt e n = n := by
  have hpos := Nat.two_pow_pos e
  have hrest : n % 2 ^ e = 0 := Nat.mod_eq_zero_of_dvd h
  have hup : ¬ (2 ^ e < 2 * (n % 2 ^ e) ∨ (2 ^ e = 2 * (n % 2 ^ e) ∧ n / 2 ^ e % 2 = 1)) := by omega
  simp only [roundAt]
  rw [if_neg hup, Nat.div_mul_cancel h]

/-! ### The grid of a double -/

theorem roundNat_le (n : ℕ) : roundNat n ≤ 2 ^ (n.log2 + 1) := by
  rcases Nat.eq_zero_or_pos (n.log2 - 52) with he | he
  · rw [roundNat, he, roundAt_zero]
    exact Nat.lt_log2_self.le
  · have hpow : 2 ^ (n.log2 + 1) = 2 ^ 53 * 2 ^ (n.log2 - 52) := by
      rw [← Nat.pow_add]
      congr 1
      omega
    have hq : n / 2 ^ (n.log2 - 52) < 2 ^ 53 := by
      refine Nat.div_lt_of_lt_mul ?_
      rw [Nat.mul_comm, ← hpow]
      exact Nat.lt_log2_self
    rw [hpow]
    exact (roundAt_bounds _ n).2.trans (Nat.mul_le_mul_right _ hq)

theorem le_roundNat {n : ℕ} (h : n ≠ 0) : 2 ^ n.log2 ≤ roundNat n := by
  have hself := Nat.log2_self_le h
  rcases Nat.eq_zero_or_pos (n.log2 - 52) with he | he
  · rwa [roundNat, he, roundAt_zero]
  · have hpow : 2 ^ n.log2 = 2 ^ 52 * 2 ^ (n.log2 - 52) := by
      rw [← Nat.pow_add]
      congr 1
      omega
    have hq : 2 ^ 52 ≤ n / 2 ^ (n.log2 - 52) := by
      refine (Nat.le_div_iff_mul_le (Nat.two_pow_pos _)).mpr ?_
      rwa [← hpow]
    rw [hpow]
    exact (Nat.mul_le_mul_right _ hq).trans (roundAt_bounds _ n).1

/-- **Rounding keeps order.** -/
theorem roundNat_mono : Monotone roundNat := by
  intro n m h
  rcases Nat.eq_zero_or_pos n with rfl | hn
  · exact Nat.zero_le _
  have hm : m ≠ 0 := by omega
  have hlog : n.log2 ≤ m.log2 := by
    refine (Nat.le_log2 hm).mpr ?_
    exact (Nat.log2_self_le (by omega)).trans h
  rcases hlog.lt_or_eq with hlt | heq
  · calc roundNat n ≤ 2 ^ (n.log2 + 1) := roundNat_le n
      _ ≤ 2 ^ m.log2 := Nat.pow_le_pow_right (by decide) hlt
      _ ≤ roundNat m := le_roundNat hm
  · rw [roundNat, roundNat, heq]
    exact roundAt_mono _ h

theorem roundNat_eq {n : ℕ} (h : n ≤ 2 ^ 53) : roundNat n = n := by
  rcases h.lt_or_eq with hlt | rfl
  · have hlog : n.log2 - 52 = 0 := by
      rcases Nat.eq_zero_or_pos n with rfl | hn
      · decide
      · have hup := (Nat.log2_lt (by omega)).mpr hlt
        omega
    rw [roundNat, hlog, roundAt_zero]
  · refine roundAt_of_dvd ?_
    rw [Nat.log2_two_pow]
    exact Nat.pow_dvd_pow 2 (by decide)

/-- **A rounded number** is not rounded again. -/
theorem roundNat_roundNat (n : ℕ) : roundNat (roundNat n) = roundNat n := by
  have hgrid : 2 ^ (n.log2 - 52) ∣ roundNat n := Nat.dvd_mul_left _ _
  refine roundAt_of_dvd ?_
  rcases (roundNat_le n).lt_or_eq with hlt | heq
  · refine (Nat.pow_dvd_pow 2 ?_).trans hgrid
    rcases Nat.eq_zero_or_pos (roundNat n) with hzero | hpos
    · rw [hzero]
      exact Nat.zero_le _
    · have hlog := (Nat.log2_lt (Nat.pos_iff_ne_zero.mp hpos)).mpr hlt
      omega
  · rw [heq, Nat.log2_two_pow]
    exact Nat.pow_dvd_pow 2 (Nat.sub_le _ _)

/-! ### Doubles -/

theorem ofNat_mono : Monotone ofNat := by
  intro n m h
  have hr := roundNat_mono h
  by_cases hm : roundNat m < limit
  · rw [ofNat, ofNat, if_pos (lt_of_le_of_lt hr hm), if_pos hm]
    exact WithTop.coe_le_coe.mpr hr
  · rw [ofNat, ofNat, if_neg hm]
    exact le_top

/-- Up to 2⁵³ a number is its own double. -/
theorem ofNat_eq {n : ℕ} (h : n ≤ 2 ^ 53) : ofNat n = WithTop.some n := by
  have hlimit : 2 ^ 53 < limit :=
    Nat.pow_lt_pow_right (by decide) (show 53 < maxExponent by decide)
  rw [ofNat, roundNat_eq h, if_pos (lt_of_le_of_lt h hlimit)]

/-- **A small number compares with a double as with what was rounded.** -/
theorem lt_ofNat_iff {k n : ℕ} (hk : k < 2 ^ 53) : WithTop.some k < ofNat n ↔ k < n := by
  constructor
  · intro h
    by_contra hle
    rw [ofNat_eq (by omega)] at h
    exact hle (WithTop.coe_lt_coe.mp h)
  · intro h
    calc WithTop.some k < WithTop.some (k + 1) := WithTop.coe_lt_coe.mpr (Nat.lt_succ_self k)
      _ = ofNat (k + 1) := (ofNat_eq (by omega)).symm
      _ ≤ ofNat n := ofNat_mono h

/-! ### Integers -/

/-- An integer to 53 binary digits. -/
def roundInt (n : ℤ) : ℤ := n.sign * roundNat n.natAbs

theorem natAbs_roundInt (n : ℤ) : (roundInt n).natAbs = roundNat n.natAbs := by
  rw [roundInt, Int.natAbs_mul, Int.natAbs_natCast]
  rcases eq_or_ne n 0 with rfl | hn
  · rfl
  · rw [Int.natAbs_sign_of_ne_zero hn, Nat.one_mul]

/-- A small integer is its own double. -/
theorem roundInt_eq {n : ℤ} (h : n.natAbs ≤ 2 ^ 53) : roundInt n = n := by
  rw [roundInt, roundNat_eq h, Int.sign_mul_natAbs]

/-- **A double below 2⁵³ has not been rounded.** -/
theorem roundInt_exact {n : ℤ} (h : (roundInt n).natAbs < 2 ^ 53) : roundInt n = n := by
  refine roundInt_eq ?_
  by_contra hlarge
  have hround := roundNat_mono (show 2 ^ 53 ≤ n.natAbs by omega)
  rw [natAbs_roundInt] at h
  rw [roundNat_eq le_rfl] at hround
  omega

/-! ### Sums and multiples -/

/-- `x + y`. -/
def add : WithTop ℕ → WithTop ℕ → WithTop ℕ
  | some a, some b => ofNat (a + b)
  | _, _ => ⊤

/-- `x * k`, for a positive whole number `k`. -/
def scale (k : ℕ) : WithTop ℕ → WithTop ℕ
  | some a => ofNat (a * k)
  | none => ⊤

/-- Half way from the largest double to `limit`: from here on a number rounds to infinity. -/
def overflow : ℕ := 2 ^ maxExponent - 2 ^ 970

/-- The largest double. -/
def largest : ℕ := 2 ^ maxExponent - 2 ^ 971

/-- The last number that is rounded to a double and the first that is not, and the room between. -/
theorem overflow_facts : roundNat (overflow - 1) = largest ∧ roundNat overflow = limit ∧
    largest + 2 ^ 53 < overflow := by decide +kernel

theorem roundNat_of_lt_overflow {n : ℕ} (h : n < overflow) : roundNat n ≤ largest := by
  rw [← overflow_facts.1]
  exact roundNat_mono (by omega)

theorem roundNat_of_overflow_le {n : ℕ} (h : overflow ≤ n) : limit ≤ roundNat n := by
  rw [← overflow_facts.2.1]
  exact roundNat_mono h

theorem largest_lt_limit : largest < limit :=
  calc largest ≤ largest + 2 ^ 53 := Nat.le_add_right _ _
    _ < overflow := overflow_facts.2.2
    _ ≤ limit := Nat.sub_le _ _

theorem ofNat_of_lt_overflow {n : ℕ} (h : n < overflow) : ofNat n = WithTop.some (roundNat n) :=
  if_pos (lt_of_le_of_lt (roundNat_of_lt_overflow h) largest_lt_limit)

/-- **What rounds to infinity.** -/
theorem ofNat_eq_top_iff {n : ℕ} : ofNat n = ⊤ ↔ overflow ≤ n := by
  constructor
  · intro htop
    by_contra hlt
    rw [ofNat_of_lt_overflow (not_le.mp hlt)] at htop
    exact absurd htop WithTop.coe_ne_top
  · intro hle
    exact if_neg (not_lt.mpr (roundNat_of_overflow_le hle))

/-- A small number more changes nothing: the doubles are too far apart. -/
theorem add_small_eq_top_iff {n k : ℕ} (hk : k < 2 ^ 53) :
    add (ofNat n) (ofNat k) = ⊤ ↔ overflow ≤ n := by
  rcases lt_or_ge n overflow with hlt | hge
  · rw [ofNat_of_lt_overflow hlt, ofNat_eq (le_of_lt hk)]
    have hroom := overflow_facts.2.2
    have hlargest := roundNat_of_lt_overflow hlt
    show ofNat (roundNat n + k) = ⊤ ↔ _
    rw [ofNat_eq_top_iff]
    omega
  · rw [ofNat_eq_top_iff.mpr hge]
    exact ⟨fun _ => hge, fun _ => rfl⟩

/-- **Where a multiple overflows**, with a small number more. -/
theorem add_scale_eq_top_iff {n m k : ℕ} (hk : 0 < k) (hm : m < 2 ^ 53) :
    add (scale k (ofNat n)) (ofNat m) = ⊤ ↔ overflow ≤ roundNat n * k := by
  rcases lt_or_ge n overflow with hlt | hge
  · rw [ofNat_of_lt_overflow hlt]
    exact add_small_eq_top_iff hm
  · rw [ofNat_eq_top_iff.mpr hge]
    refine ⟨fun _ => ?_, fun _ => rfl⟩
    calc overflow ≤ limit := Nat.sub_le _ _
      _ ≤ roundNat n := roundNat_of_overflow_le hge
      _ ≤ roundNat n * k := Nat.le_mul_of_pos_right _ hk

end Binary64

import Sahel.Library.Binary64

/-!
# The shortest decimal of a double

A whole number that is a double is written with as few digits as are read back as it: `digits`, and
`exponent` zeros behind them.

* `decimalAt` looks for digits at one exponent, `shortest` at all of them, from the largest;
* **`shortest_spec`**: its decimal is read as the number, and no shorter one is;
* `places_le_iff` counts the digits and the zeros.
-/

set_option autoImplicit false

namespace Binary64

/-- Digits, and the number of zeros behind them. -/
structure Decimal where
  digits : ℕ
  exponent : ℕ
  deriving DecidableEq

namespace Decimal

def value (d : Decimal) : ℕ := d.digits * 10 ^ d.exponent

/-- How many digits there are. -/
def length (d : Decimal) : ℕ := (Nat.toDigits 10 d.digits).length

theorem length_le_iff {d : Decimal} {k : ℕ} (hk : 0 < k) : d.length ≤ k ↔ d.digits < 10 ^ k :=
  Nat.length_toDigits_le_iff (by decide) hk

theorem length_pos (d : Decimal) : 0 < d.length := Nat.length_toDigits_pos

/-- **Digits and zeros** together are as many as the value's. -/
theorem places_le_iff {d : Decimal} (h : 0 < d.digits) {n : ℕ} :
    d.length + d.exponent ≤ n ↔ d.value < 10 ^ n := by
  have hpos := d.length_pos
  rw [value]
  by_cases hn : d.exponent < n
  · have hpow : 10 ^ n = 10 ^ (n - d.exponent) * 10 ^ d.exponent := by
      rw [← Nat.pow_add, Nat.sub_add_cancel hn.le]
    have hlength := d.length_le_iff (show 0 < n - d.exponent by omega)
    rw [hpow, Nat.mul_lt_mul_right (Nat.pow_pos (by decide)), ← hlength]
    omega
  · have hpow : 10 ^ n ≤ 10 ^ d.exponent := Nat.pow_le_pow_right (by decide) (not_lt.mp hn)
    have hmul : 10 ^ d.exponent ≤ d.digits * 10 ^ d.exponent := Nat.le_mul_of_pos_left _ h
    exact iff_of_false (by omega) (by omega)

end Decimal

/-! ### The search -/

/-- The digits at an exponent that are read as `x`: the nearer ones of two, then the even ones. -/
def decimalAt (x e : ℕ) : Option ℕ :=
  let q := x / 10 ^ e
  let r := x % 10 ^ e
  let below := roundNat (q * 10 ^ e) = x
  let above := roundNat ((q + 1) * 10 ^ e) = x
  if below ∧ (¬ above ∨ 2 * r < 10 ^ e ∨ (2 * r = 10 ^ e ∧ q % 2 = 0)) then some q
  else if above then some (q + 1)
  else none

/-- From an exponent down. -/
def shortestFrom (x : ℕ) : ℕ → Decimal
  | 0 => ⟨x, 0⟩
  | e + 1 => (decimalAt x (e + 1)).elim (shortestFrom x e) (fun s => ⟨s, e + 1⟩)

/-- The fewest digits. -/
def shortest (x : ℕ) : Decimal := shortestFrom x (Nat.toDigits 10 x).length

example : shortest 120 = ⟨12, 1⟩ ∧ shortest 9007199254740992 = ⟨9007199254740992, 0⟩ ∧
    shortest (roundNat (10 ^ 23)) = ⟨1, 23⟩ := by decide +kernel

/-! ### One exponent -/

theorem decimalAt_some {x e s : ℕ} (h : decimalAt x e = some s) :
    roundNat (s * 10 ^ e) = x ∧ s ≤ x / 10 ^ e + 1 := by
  simp only [decimalAt] at h
  split_ifs at h with hbelow habove
  · cases h
    exact ⟨hbelow.1, Nat.le_succ _⟩
  · cases h
    exact ⟨habove, le_rfl⟩

/-- What lies between a double and a number read as it is read as it. -/
theorem roundNat_between {x y z : ℕ} (hx : roundNat x = x) (hz : roundNat z = x)
    (h : (x ≤ y ∧ y ≤ z) ∨ (z ≤ y ∧ y ≤ x)) : roundNat y = x := by
  rcases h with ⟨hxy, hyz⟩ | ⟨hzy, hyx⟩
  · exact le_antisymm ((roundNat_mono hyz).trans_eq hz) (hx.symm.trans_le (roundNat_mono hxy))
  · exact le_antisymm ((roundNat_mono hyx).trans_eq hx) (hz.symm.trans_le (roundNat_mono hzy))

/-- **The neighbours decide** whether any digits are read as `x`. -/
theorem decimalAt_none {x e : ℕ} (hx : roundNat x = x) (h : decimalAt x e = none) (s : ℕ) :
    roundNat (s * 10 ^ e) ≠ x := by
  intro hs
  have hpow : 0 < 10 ^ e := Nat.pow_pos (by decide)
  simp only [decimalAt] at h
  split_ifs at h with hbelow habove
  rcases Nat.lt_or_ge (x / 10 ^ e) s with hlt | hge
  · have hup : (x / 10 ^ e + 1) * 10 ^ e ≤ s * 10 ^ e := Nat.mul_le_mul_right _ hlt
    have hself : x ≤ (x / 10 ^ e + 1) * 10 ^ e := by
      rw [Nat.mul_comm]
      exact (Nat.lt_mul_div_succ x hpow).le
    exact habove (roundNat_between hx hs (Or.inl ⟨hself, hup⟩))
  · have hdown : s * 10 ^ e ≤ x / 10 ^ e * 10 ^ e := Nat.mul_le_mul_right _ hge
    have hself : x / 10 ^ e * 10 ^ e ≤ x := Nat.div_mul_le_self x _
    exact hbelow ⟨roundNat_between hx hs (Or.inr ⟨hdown, hself⟩), Or.inl habove⟩

/-! ### All exponents -/

/-- What the search finds: the digits at the largest exponent that has some. -/
structure Found (x e : ℕ) (d : Decimal) : Prop where
  read : roundNat d.value = x
  digits_le : d.digits ≤ x / 10 ^ d.exponent + 1
  exponent_le : d.exponent ≤ e
  le_exponent : ∀ s f, f ≤ e → roundNat (s * 10 ^ f) = x → f ≤ d.exponent

theorem shortestFrom_found {x : ℕ} (hx : roundNat x = x) (e : ℕ) : Found x e (shortestFrom x e) := by
  induction e with
  | zero =>
    refine ⟨?_, ?_, le_rfl, fun _ f hf _ => hf⟩
    · show roundNat (x * 10 ^ 0) = x
      rw [Nat.pow_zero, Nat.mul_one, hx]
    · show x ≤ x / 10 ^ 0 + 1
      rw [Nat.pow_zero, Nat.div_one]
      exact Nat.le_succ x
  | succ e ih =>
    show Found x (e + 1) ((decimalAt x (e + 1)).elim (shortestFrom x e) (fun s => ⟨s, e + 1⟩))
    cases hat : decimalAt x (e + 1) with
    | some s =>
      obtain ⟨hread, hle⟩ := decimalAt_some hat
      exact ⟨hread, hle, le_rfl, fun _ f hf _ => hf⟩
    | none =>
      refine ⟨ih.read, ih.digits_le, ih.exponent_le.trans (Nat.le_succ e), fun s f hf hs => ?_⟩
      rcases hf.lt_or_eq with hlt | rfl
      · exact ih.le_exponent s f (Nat.lt_succ_iff.mp hlt) hs
      · exact absurd hs (decimalAt_none hx hat s)

/-- A power of ten above `x` that is read as `x` is found first: one digit. -/
theorem Found.length_le_one {x e : ℕ} {d : Decimal} (h : Found x e d) (hx : x < 10 ^ e)
    (hread : roundNat (10 ^ e) = x) : d.length ≤ 1 := by
  have hone : e ≤ d.exponent := h.le_exponent 1 e le_rfl (by rwa [Nat.one_mul])
  have hexponent : d.exponent = e := le_antisymm h.exponent_le hone
  have hdigits := h.digits_le
  rw [hexponent, Nat.div_eq_of_lt hx] at hdigits
  rw [Decimal.length_le_iff Nat.one_pos]
  omega

/-- **The shortest decimal** of a double: read as it, and no shorter one is. -/
structure IsShortest (x : ℕ) (d : Decimal) : Prop where
  read : roundNat d.value = x
  digits_pos : 0 < d.digits
  length_le : ∀ d' : Decimal, roundNat d'.value = x → d.length ≤ d'.length

theorem digits_pos_of_read {x : ℕ} (h : 0 < x) {d : Decimal} (hread : roundNat d.value = x) :
    0 < d.digits := by
  rcases Nat.eq_zero_or_pos d.digits with hzero | hpos
  · have hnone : roundNat d.value = 0 := by
      rw [Decimal.value, hzero, Nat.zero_mul]
      exact roundNat_eq (Nat.zero_le _)
    omega
  · exact hpos

theorem shortest_spec {x : ℕ} (h : 0 < x) (hx : roundNat x = x) : IsShortest x (shortest x) := by
  have hfound := shortestFrom_found hx (Nat.toDigits 10 x).length
  have hlong : x < 10 ^ (Nat.toDigits 10 x).length :=
    (Nat.length_toDigits_le_iff (by decide) Nat.length_toDigits_pos).mp le_rfl
  change Found x _ (shortest x) at hfound
  generalize (Nat.toDigits 10 x).length = long at hfound hlong
  have hpos := digits_pos_of_read h hfound.read
  have htop := hfound.length_le_one hlong
  refine ⟨hfound.read, hpos, fun d' hread' => not_lt.mp (fun hlt => ?_)⟩
  have hpos' := digits_pos_of_read h hread'
  have hlength' := d'.length_pos
  have hdigits' : d'.digits < 10 ^ d'.length := (Decimal.length_le_iff hlength').mp le_rfl
  have hdigits : 10 ^ d'.length ≤ (shortest x).digits :=
    not_lt.mp (fun hless => absurd ((Decimal.length_le_iff hlength').mpr hless) (not_le.mpr hlt))
  rcases Nat.lt_or_ge long d'.exponent with habove | hbelow
  · have hvalue' : 10 ^ long ≤ d'.value :=
      (Nat.pow_le_pow_right (by decide) habove.le).trans (Nat.le_mul_of_pos_left _ hpos')
    have hone := htop (roundNat_between hx hread' (Or.inl ⟨hlong.le, hvalue'⟩))
    omega
  · -- a power of ten lies between the two
    have hexponent := hfound.le_exponent d'.digits d'.exponent hbelow hread'
    have hvalue : 10 ^ (d'.length + (shortest x).exponent) ≤ (shortest x).value := by
      rw [Nat.pow_add]
      exact Nat.mul_le_mul_right _ hdigits
    have hvalue' : d'.value ≤ 10 ^ (d'.length + (shortest x).exponent) := by
      rw [Nat.pow_add]
      exact Nat.mul_le_mul hdigits'.le (Nat.pow_le_pow_right (by decide) hexponent)
    have hread : roundNat (10 ^ (d'.length + (shortest x).exponent)) = x := by
      refine le_antisymm ((roundNat_mono hvalue).trans_eq hfound.read) ?_
      exact hread'.symm.trans_le (roundNat_mono hvalue')
    rcases Nat.lt_or_ge long (d'.length + (shortest x).exponent) with hover | hunder
    · have hpow : 10 ^ long ≤ 10 ^ (d'.length + (shortest x).exponent) :=
        Nat.pow_le_pow_right (by decide) hover.le
      have hone := htop (roundNat_between hx hread (Or.inl ⟨hlong.le, hpow⟩))
      omega
    · have hmost := hfound.le_exponent 1 _ hunder (by rwa [Nat.one_mul])
      omega

/-- **How many places** the shortest decimal takes, where the power of ten is a double that is its own
shortest decimal. -/
theorem places_shortest_le_iff {x n : ℕ} (h : 0 < x) (hx : roundNat x = x)
    (hdouble : roundNat (10 ^ n) = 10 ^ n) (hself : (shortest (10 ^ n)).value = 10 ^ n) :
    (shortest x).length + (shortest x).exponent ≤ n ↔ x < 10 ^ n := by
  have hspec := shortest_spec h hx
  rw [Decimal.places_le_iff hspec.digits_pos]
  constructor
  · intro hvalue
    have hle : x ≤ 10 ^ n := by
      rw [← hspec.read, ← hdouble]
      exact roundNat_mono hvalue.le
    refine lt_of_le_of_ne hle (fun heq => ?_)
    rw [heq, hself] at hvalue
    exact lt_irrefl _ hvalue
  · intro hlt
    by_contra hge
    have hle := roundNat_mono (not_lt.mp hge)
    rw [hspec.read, hdouble] at hle
    omega

end Binary64

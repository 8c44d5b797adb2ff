import Sahel.Library.FifteenDigits
import Sahel.Safety.Amounts
import Sahel.Web.Numbers

/-!
# Piasters written as pounds

An amount of piasters is divided by a hundred, to the nearest double, and written: `String(p / 100)`
in the amount and price fields of the dashboard and beside the payment instructions, `toFixed(2)` in
the exported spreadsheet.

* `Chosen` is the freedom the language leaves in writing a number: as few digits as read back as it;
* `chosen_pounds`: below fifteen digits there is none;
* **`printed_denotes`**, **`pounds_denotes`**: both texts are exactly the amount.
-/

set_option autoImplicit false

namespace Sahel

namespace Web

open Binary64

/-! ### The texts -/

/-- The digits `s`, `k` of them, and the place `n` of the point that a number may be written with. -/
structure Chosen (x : ℚ) (s k : ℕ) (n : ℤ) : Prop where
  one_le : 1 ≤ k
  digits : 10 ^ (k - 1) ≤ s ∧ s < 10 ^ k
  read : nearest (s * 10 ^ (n - k)) = x
  fewest : ∀ (s' k' : ℕ) (n' : ℤ), 1 ≤ k' → 10 ^ (k' - 1) ≤ s' → s' < 10 ^ k' →
    nearest (s' * 10 ^ (n' - k')) = x → k ≤ k'

/-- The text of digits with a point: in full where the point is near, else with an exponent. -/
def pointText (s k : ℕ) (n : ℤ) : List Char :=
  let digits := Nat.toDigits 10 s
  if k ≤ n ∧ n ≤ 21 then digits ++ List.replicate (n - k).toNat '0'
  else if 0 < n ∧ n ≤ 21 then digits.take n.toNat ++ '.' :: digits.drop n.toNat
  else if -6 < n ∧ n ≤ 0 then '0' :: '.' :: (List.replicate (-n).toNat '0' ++ digits)
  else
    digits.take 1 ++ (fraction (digits.drop 1) ++
      'e' :: (if 0 < n then '+' else '-') :: Nat.toDigits 10 (n - 1).natAbs)

/-- `String(x)` of a double that is not negative. -/
inductive Printed : ℚ → String → Prop
  | zero : Printed 0 "0"
  | positive {x : ℚ} {s k : ℕ} {n : ℤ} (h : Chosen x s k n) (hx : 0 < x) :
      Printed x (String.ofList (pointText s k n))

/-- `p / 100`. -/
def inPounds (p : ℕ) : ℚ := if p = 0 then 0 else nearest (p / 100)

/-- `x.toFixed(2)`, for `x` below 10²¹: the nearest hundredth, the larger one of two. -/
def toFixed2 (x : ℚ) : String :=
  let digits := (Nat.toDigits 10 ⌊100 * x + 1 / 2⌋.toNat).leftpad 3 '0'
  String.ofList (digits.take (digits.length - 2) ++ '.' :: digits.drop (digits.length - 2))

/-- `pounds` of `lib/admin/csv.ts`. -/
def pounds (p : ℕ) : String := toFixed2 (inPounds p)

/-! ### Digits -/

theorem digitsValue_append (a b : List Char) :
    digitsValue (a ++ b) = digitsValue a * 10 ^ b.length + digitsValue b := by
  induction b using List.reverseRecOn with
  | nil => simp [digitsValue]
  | append_singleton b c ih =>
    rw [← List.append_assoc, digitsValue_concat, ih, digitsValue_concat, List.length_append,
      List.length_singleton, Nat.pow_succ]
    ring

theorem isDigit_toDigits (n : ℕ) : ∀ c ∈ Nat.toDigits 10 n, c.isDigit = true :=
  fun _ h => Nat.isDigit_of_mem_toDigits (by decide) (by decide) h

theorem length_toDigits_eq {s k : ℕ} (hk : 1 ≤ k) (hlow : 10 ^ (k - 1) ≤ s) (hhigh : s < 10 ^ k) :
    (Nat.toDigits 10 s).length = k := by
  have hle : (Nat.toDigits 10 s).length ≤ k := (Nat.length_toDigits_le_iff (by decide) hk).mpr hhigh
  rcases Nat.lt_or_ge (Nat.toDigits 10 s).length k with hlt | hge
  · rcases Nat.lt_or_ge 1 k with hone | hone
    · have hsmall := (Nat.length_toDigits_le_iff (by decide) (show 0 < k - 1 by omega)).mp
        (show (Nat.toDigits 10 s).length ≤ k - 1 by omega)
      omega
    · have hpos : 0 < (Nat.toDigits 10 s).length := Nat.length_toDigits_pos
      omega
  · omega

/-! ### The digits of an amount -/

theorem Chosen.pos {x : ℚ} {s k : ℕ} {n : ℤ} (h : Chosen x s k n) : 0 < s :=
  lt_of_lt_of_le (Nat.pow_pos (by decide)) h.digits.1

/-- No digit is a zero too many. -/
theorem Chosen.last {x : ℚ} {s k : ℕ} {n : ℤ} (h : Chosen x s k n) : ¬ 10 ∣ s := by
  rintro ⟨t, rfl⟩
  have hpos := h.pos
  have hk := h.one_le
  obtain ⟨hlow, hhigh⟩ := h.digits
  rcases Nat.lt_or_ge 1 k with hone | hone
  · obtain ⟨j, rfl⟩ : ∃ j, k = j + 2 := ⟨k - 2, by omega⟩
    have hpow : 10 ^ (j + 2) = 10 * 10 ^ (j + 1) := by ring
    have hpow' : 10 ^ (j + 2 - 1) = 10 * 10 ^ j := by
      show 10 ^ (j + 1) = _
      ring
    have hshorter := h.fewest t (j + 1) n (by omega) (by show 10 ^ j ≤ t; omega) (by omega) ?_
    · omega
    · rw [← h.read]
      congr 1
      have hexp : (n - (j + 1 : ℕ) : ℤ) = 1 + (n - (j + 2 : ℕ)) := by
        push_cast
        ring
      rw [hexp, zpow_add₀ (by norm_num)]
      push_cast
      ring
  · obtain rfl : k = 1 := by omega
    have hten : 10 * t < 10 := by simpa using hhigh
    omega

/-- **Below fifteen digits there is one way to write a decimal.** -/
theorem chosen_scaled (d : ℕ) {z s k : ℕ} {n : ℤ} (hz : 0 < z) (hz' : z < 10 ^ 15)
    (h : Chosen (nearest (z * 10 ^ (-d : ℤ))) s k n) :
    (s * 10 ^ (n - k) : ℚ) = z * 10 ^ (-d : ℤ) ∧ k ≤ n + d ∧ n ≤ 15 - d := by
  -- The decimal's own digits are a candidate.
  have hlog : 10 ^ Nat.log 10 z ≤ z := Nat.pow_log_le_self 10 hz.ne'
  have hlog' : z < 10 ^ (Nat.log 10 z + 1) := Nat.lt_pow_succ_log_self (by decide) z
  have hfew : Nat.log 10 z + 1 ≤ 15 := by
    by_contra hmany
    have hpow : 10 ^ 15 ≤ 10 ^ Nat.log 10 z := Nat.pow_le_pow_right (by decide) (by omega)
    omega
  have hk : k ≤ Nat.log 10 z + 1 := by
    refine h.fewest z (Nat.log 10 z + 1) (Nat.log 10 z + 1 - d) (by omega) hlog hlog' ?_
    congr 3
    push_cast
    ring
  have hs : s < 10 ^ 15 := lt_of_lt_of_le h.digits.2 (Nat.pow_le_pow_right (by decide) (by omega))
  have hvalue : (s * 10 ^ (n - k) : ℚ) = z * 10 ^ (-d : ℤ) :=
    eq_of_nearest_eq h.pos hs hz hz' h.read
  refine ⟨hvalue, ?_, ?_⟩
  · -- With one more decimal, the last digit would be a zero.
    by_contra hdeep
    refine h.last ⟨z * 10 ^ (k - n - d - 1).toNat, ?_⟩
    have hscale : (s : ℚ) = z * 10 ^ (k - n - d).toNat := by
      have hpow : (10 : ℚ) ^ (k - n - d).toNat = 10 ^ (k - n - d : ℤ) := by
        rw [← zpow_natCast, Int.toNat_of_nonneg (by omega)]
      have hmul : (s : ℚ) * 10 ^ (n - k) * 10 ^ (k - n) = z * 10 ^ (-d : ℤ) * 10 ^ (k - n) := by
        rw [hvalue]
      rw [mul_assoc, mul_assoc, ← zpow_add₀ (by norm_num), ← zpow_add₀ (by norm_num)] at hmul
      rw [hpow, show (k - n - d : ℤ) = -d + (k - n) by ring, ← hmul]
      rw [show (n - k + (k - n) : ℤ) = 0 by ring, zpow_zero, mul_one]
    have hnat : s = z * 10 ^ (k - n - d).toNat := by exact_mod_cast hscale
    have hsucc : (k - n - d).toNat = (k - n - d - 1).toNat + 1 := by omega
    rw [hnat, hsucc, pow_succ]
    ring
  · by_contra hlarge
    have hlow : (10 : ℚ) ^ (k - 1 : ℕ) ≤ s := by exact_mod_cast h.digits.1
    have hbig : (10 : ℚ) ^ (15 - d : ℤ) ≤ z * 10 ^ (-d : ℤ) := by
      calc (10 : ℚ) ^ (15 - d : ℤ) ≤ 10 ^ (n - 1) := zpow_le_zpow_right₀ (by norm_num) (by omega)
        _ = 10 ^ (k - 1 : ℕ) * 10 ^ (n - k) := by
          rw [← zpow_natCast, ← zpow_add₀ (by norm_num), Nat.cast_sub h.one_le]
          congr 1
          push_cast
          ring
        _ ≤ s * 10 ^ (n - k) := mul_le_mul_of_nonneg_right hlow (zpow_pos (by norm_num) _).le
        _ = z * 10 ^ (-d : ℤ) := hvalue
    have hcast : (z : ℚ) < 10 ^ 15 := by exact_mod_cast hz'
    have hten : (0 : ℚ) < 10 ^ (-d : ℤ) := zpow_pos (by norm_num) _
    have hsplit : (10 : ℚ) ^ (15 - d : ℤ) = 10 ^ 15 * 10 ^ (-d : ℤ) := by
      rw [sub_eq_add_neg, zpow_add₀ (by norm_num)]
      norm_num
    rw [hsplit] at hbig
    exact absurd (le_of_mul_le_mul_right hbig hten) (not_le.mpr hcast)

theorem pounds_scaled (p : ℕ) : ((p : ℚ) / 100) = p * 10 ^ (-(2 : ℕ) : ℤ) := by
  rw [zpow_neg]
  norm_num
  ring

theorem chosen_pounds {p s k : ℕ} {n : ℤ} (hp : 0 < p) (hp' : p < 10 ^ 15)
    (h : Chosen (nearest (p / 100)) s k n) :
    (s * 10 ^ (n - k) : ℚ) = p / 100 ∧ k ≤ n + 2 ∧ n ≤ 13 := by
  rw [pounds_scaled] at h ⊢
  exact chosen_scaled 2 hp hp' h

/-! ### The texts of an amount -/

theorem digitsValue_replicate (n : ℕ) : digitsValue (List.replicate n '0') = 0 := by
  have h := digitsValue_zeros [] n
  rw [List.nil_append] at h
  rw [h]
  show 0 * 10 ^ n = 0
  exact Nat.zero_mul _

/-- Digits with the point among them. -/
theorem denotes_split {digits : List Char} (hdigits : ∀ c ∈ digits, c.isDigit = true) {m : ℕ}
    (hm : 0 < m) (hlow : m < digits.length) (hhigh : digits.length ≤ m + 2) :
    Denotes (digits.take m ++ '.' :: digits.drop m)
      (digitsValue digits / 10 ^ (digits.length - m)) := by
  have hlen : (digits.drop m).length = digits.length - m := List.length_drop
  refine ⟨digits.take m, digits.drop m, ?_, fun c hc => hdigits c (List.mem_of_mem_take hc),
    fun c hc => hdigits c (List.mem_of_mem_drop hc), by omega, ?_, ?_⟩
  · intro hnone
    have hzero := congrArg List.length hnone
    rw [List.length_take, List.length_nil] at hzero
    omega
  · rw [if_neg]
    intro hnone
    rw [hnone] at hlen
    simp at hlen
    omega
  · have hvalue : digitsValue digits = digitsValue (digits.take m) * 10 ^ (digits.length - m)
        + digitsValue (digits.drop m) := by
      rw [← hlen, ← digitsValue_append, List.take_append_drop]
    rw [hvalue, hlen]
    push_cast
    rw [add_div, mul_div_cancel_right₀ _ (pow_ne_zero _ (by norm_num))]

/-- **The text with a point** stands for its digits. -/
theorem pointText_denotes {x : ℚ} {s k : ℕ} {n : ℤ} (h : Chosen x s k n) (hdeep : k ≤ n + 2)
    (hlarge : n ≤ 21) : Denotes (pointText s k n) (s * 10 ^ (n - k)) := by
  have hlen := length_toDigits_eq h.one_le h.digits.1 h.digits.2
  have hdigits := isDigit_toDigits s
  have hone := h.one_le
  simp only [pointText]
  split_ifs with hwhole hpoint hsmall hsign
  · -- No decimals: zeros behind the digits.
    refine ⟨Nat.toDigits 10 s ++ List.replicate (n - k).toNat '0', [], ?_, ?_, by simp, by simp, rfl, ?_⟩
    · intro hnone
      have hzero := congrArg List.length hnone
      rw [List.length_append, hlen, List.length_nil] at hzero
      omega
    · intro c hc
      rcases List.mem_append.mp hc with hc | hc
      · exact hdigits c hc
      · rw [List.eq_of_mem_replicate hc]
        rfl
    · have hpow : (10 : ℚ) ^ (n - k) = 10 ^ (n - k).toNat := by
        rw [← zpow_natCast, Int.toNat_of_nonneg (by omega)]
      rw [digitsValue_zeros, digitsValue_toDigits, hpow]
      simp [digitsValue]
  · -- The point is among the digits.
    have hsplit := denotes_split hdigits (show 0 < n.toNat by omega) (by omega) (by omega)
    have hpow : (10 : ℚ) ^ (n - k) = (10 ^ (k - n.toNat))⁻¹ := by
      rw [← zpow_natCast, ← zpow_neg]
      congr 1
      omega
    rw [hlen, digitsValue_toDigits, div_eq_mul_inv, ← hpow] at hsplit
    exact hsplit
  · -- Less than a pound.
    have hfrac : (List.replicate (-n).toNat '0' ++ Nat.toDigits 10 s).length = (k - n).toNat := by
      rw [List.length_append, List.length_replicate, hlen]
      omega
    refine ⟨['0'], List.replicate (-n).toNat '0' ++ Nat.toDigits 10 s, by simp, ?_, ?_, by omega, ?_, ?_⟩
    · intro c hc
      rw [List.mem_singleton.mp hc]
      rfl
    · intro c hc
      rcases List.mem_append.mp hc with hc | hc
      · rw [List.eq_of_mem_replicate hc]
        rfl
      · exact hdigits c hc
    · rw [if_neg]
      · rfl
      · intro hnone
        rw [hnone] at hfrac
        simp at hfrac
        omega
    · have hpow : (10 : ℚ) ^ (n - k) = (10 ^ (k - n).toNat)⁻¹ := by
        rw [← zpow_natCast, ← zpow_neg, Int.toNat_of_nonneg (by omega)]
        congr 1
        ring
      have hzero : digitsValue ['0'] = 0 := rfl
      rw [hfrac, digitsValue_append, digitsValue_replicate, digitsValue_toDigits, hpow, hzero]
      push_cast
      ring
  -- An exponent needs a point further off.
  · omega
  · omega

theorem nearest_pos {q : ℚ} (hq : 0 < q) : 0 < nearest q := by
  have hclose := nearest_close hq
  have hneg := neg_abs_le (nearest q - q)
  linarith

/-- A decimal can be written: of the ways to write it, one has the fewest digits. -/
theorem exists_chosen (d : ℕ) {z : ℕ} (hz : 0 < z) :
    ∃ (s k : ℕ) (n : ℤ), Chosen (nearest (z * 10 ^ (-d : ℤ))) s k n := by
  classical
  have hsome : ∃ k : ℕ, 1 ≤ k ∧ ∃ (s : ℕ) (n : ℤ), 10 ^ (k - 1) ≤ s ∧ s < 10 ^ k ∧
      nearest ((s : ℚ) * 10 ^ (n - k)) = nearest ((z : ℚ) * 10 ^ (-d : ℤ)) := by
    refine ⟨Nat.log 10 z + 1, by omega, z, Nat.log 10 z + 1 - d, Nat.pow_log_le_self 10 hz.ne',
      Nat.lt_pow_succ_log_self (by decide) z, ?_⟩
    congr 3
    push_cast
    ring
  obtain ⟨hk, s, n, hlow, hhigh, hread⟩ := Nat.find_spec hsome
  exact ⟨s, _, n, hk, ⟨hlow, hhigh⟩, hread,
    fun s' k' n' hk' hl hh hr => Nat.find_min' hsome ⟨hk', s', n', hl, hh, hr⟩⟩

theorem nearest_pounds_pos {p : ℕ} (hp : 0 < p) : 0 < nearest (p / 100) :=
  nearest_pos (div_pos (by exact_mod_cast hp) (by norm_num))

theorem exists_printed (p : ℕ) : ∃ t, Printed (inPounds p) t := by
  rcases Nat.eq_zero_or_pos p with rfl | hpos
  · exact ⟨"0", .zero⟩
  · obtain ⟨s, k, n, h⟩ := exists_chosen 2 hpos
    rw [inPounds, if_neg hpos.ne']
    rw [← pounds_scaled] at h
    exact ⟨_, .positive h (nearest_pounds_pos hpos)⟩

/-- **What a field shows of an amount is the amount.** -/
theorem printed_denotes {p : ℕ} (hp : p < 10 ^ 15) {t : String} (h : Printed (inPounds p) t) :
    Denotes t.toList (p / 100) := by
  rcases Nat.eq_zero_or_pos p with rfl | hpos
  · rw [inPounds, if_pos rfl] at h
    cases h with
    | zero => exact ⟨['0'], [], by simp, by simp, by simp, by simp, rfl, by simp [digitsValue]⟩
    | positive _ hx => exact absurd hx (lt_irrefl _)
  · rw [inPounds, if_neg hpos.ne'] at h
    generalize hx : nearest ((p : ℚ) / 100) = x at h
    cases h with
    | zero => exact absurd hx (nearest_pounds_pos hpos).ne'
    | @positive _ s k n hchosen hxpos =>
      subst hx
      obtain ⟨hvalue, hdeep, hlarge⟩ := chosen_pounds hpos hp hchosen
      rw [String.toList_ofList, ← hvalue]
      exact pointText_denotes hchosen hdeep (by omega)

/-- The nearest hundredth is the amount. -/
theorem floor_inPounds {p : ℕ} (hp : p < 10 ^ 15) : ⌊100 * inPounds p + 1 / 2⌋ = p := by
  have hcast : (p : ℚ) < 10 ^ 15 := by exact_mod_cast hp
  rw [Int.floor_eq_iff, inPounds]
  split_ifs with hzero
  · rw [hzero]
    norm_num
  · have hq : (0 : ℚ) < p / 100 := div_pos (by exact_mod_cast Nat.pos_of_ne_zero hzero) (by norm_num)
    have hclose := nearest_close hq
    have hle := le_abs_self (nearest ((p : ℚ) / 100) - p / 100)
    have hge := neg_abs_le (nearest ((p : ℚ) / 100) - p / 100)
    generalize |nearest ((p : ℚ) / 100) - p / 100| = d at hclose hle hge
    have hsmall : d * 2 ^ 53 < 10 ^ 13 := by linarith
    push_cast
    constructor <;> linarith

/-- **What the spreadsheet shows of an amount is the amount.** -/
theorem pounds_denotes {p : ℕ} (hp : p < 10 ^ 15) : Denotes (pounds p).toList (p / 100) := by
  rw [pounds, toFixed2, floor_inPounds hp, String.toList_ofList, Int.toNat_natCast]
  have hpad : (Nat.toDigits 10 p).leftpad 3 '0'
      = List.replicate (3 - (Nat.toDigits 10 p).length) '0' ++ Nat.toDigits 10 p := rfl
  have hlen : 3 ≤ ((Nat.toDigits 10 p).leftpad 3 '0').length := by
    rw [List.length_leftpad]
    exact le_max_left _ _
  have hvalue : digitsValue ((Nat.toDigits 10 p).leftpad 3 '0') = p := by
    rw [hpad, digitsValue_append, digitsValue_replicate, digitsValue_toDigits, Nat.zero_mul, Nat.zero_add]
  have hdigits : ∀ c ∈ (Nat.toDigits 10 p).leftpad 3 '0', c.isDigit = true := by
    intro c hc
    rw [hpad] at hc
    rcases List.mem_append.mp hc with hc | hc
    · rw [List.eq_of_mem_replicate hc]
      rfl
    · exact isDigit_toDigits p c hc
  have hsplit := denotes_split hdigits (show 0 < ((Nat.toDigits 10 p).leftpad 3 '0').length - 2 by omega)
    (by omega) (by omega)
  have htwo : ((Nat.toDigits 10 p).leftpad 3 '0').length
      - (((Nat.toDigits 10 p).leftpad 3 '0').length - 2) = 2 := by omega
  rw [hvalue, htwo] at hsplit
  have hhundred : (10 : ℚ) ^ 2 = 100 := by norm_num
  rwa [hhundred] at hsplit

end Web

end Sahel

import Sahel.Library.ShortestDecimal
import Sahel.Web.Money

/-!
# Numbers as texts

`Number.parseInt(v, 10)` and `String(n)` for whole numbers, as the language defines them.

* `parseInt` reads the digits that a text begins with, to the nearest double;
* `numberText` writes the shortest decimal: in full up to 21 places, with an exponent from there on;
* **`positive_numberText_iff`**: what is written is read as the same number exactly below 10²¹.
-/

set_option autoImplicit false

namespace Sahel

namespace Web

/-! ### Reading -/

/-- Behind leading blanks: whether there is a minus, and the digits up to the first other character. -/
def leading (v : String) : Bool × List Char :=
  match v.toList.dropWhile isBlank with
  | '-' :: s => (true, s.takeWhile Char.isDigit)
  | '+' :: s => (false, s.takeWhile Char.isDigit)
  | s => (false, s.takeWhile Char.isDigit)

/-- `Number.parseInt(v, 10)`: sign and size, or not a number. -/
def parseInt (v : String) : Option (Bool × WithTop ℕ) :=
  let (negative, digits) := leading v
  if digits = [] then none else some (negative, number digits)

/-- A finite number above zero, or zero. -/
def positive (v : String) : ℕ :=
  match parseInt v with
  | some (false, some n) => if 0 < n then n else 0
  | _ => 0

example : positive " +12abc" = 12 ∧ positive "-2" = 0 ∧ positive "abc" = 0 ∧ positive "2.9" = 2 := by
  decide +kernel

/-! ### Writing -/

/-- Digits behind a point, if there are any. -/
def fraction : List Char → List Char
  | [] => []
  | c :: digits => '.' :: c :: digits

/-- Up to 21 places are written out. -/
def decimalText (d : Binary64.Decimal) : List Char :=
  let digits := Nat.toDigits 10 d.digits
  let places := d.length + d.exponent
  if places ≤ 21 then digits ++ List.replicate d.exponent '0'
  else
    digits.take 1 ++ (fraction (digits.drop 1) ++ 'e' :: '+' :: Nat.toDigits 10 (places - 1))

/-- `String(n)`. -/
def numberText (n : ℕ) : String :=
  if n = 0 then "0" else String.ofList (decimalText (Binary64.shortest n))

example : numberText 1000 = "1000" ∧ numberText (10 ^ 21) = "1e+21" ∧
    numberText (Binary64.roundNat (12345 * 10 ^ 20)) = "1.2345e+24" := by decide +kernel

/-! ### What is read -/

theorem isBlank_of_isDigit {c : Char} (h : c.isDigit = true) : isBlank c = false := by
  obtain ⟨hge, hle⟩ := isDigit_toNat h
  simp only [isBlank]
  simp
  omega

/-- Digits in front are read, up to what follows. -/
theorem leading_digits {digits rest : List Char} (hne : digits ≠ []) (hdigits : ∀ c ∈ digits, c.isDigit = true)
    (hrest : ∀ c ∈ rest.head?, c.isDigit = false) :
    leading (String.ofList (digits ++ rest)) = (false, digits) := by
  have htake : (digits ++ rest).takeWhile Char.isDigit = digits := by
    rw [List.takeWhile_append_of_pos hdigits]
    cases rest with
    | nil => rw [List.takeWhile_nil, List.append_nil]
    | cons c rest =>
      have hc : ¬ c.isDigit = true := by
        rw [hrest c rfl]
        exact Bool.false_ne_true
      rw [List.takeWhile_cons_of_neg hc, List.append_nil]
  obtain ⟨c, ds, rfl⟩ := List.exists_cons_of_ne_nil hne
  have hc : c.isDigit = true := hdigits c List.mem_cons_self
  have hdrop : (c :: ds ++ rest).dropWhile isBlank = c :: ds ++ rest := by
    rw [List.cons_append, List.dropWhile_cons_of_neg (by rw [isBlank_of_isDigit hc]; decide)]
  rw [leading, String.toList_ofList, hdrop]
  split
  · next s heq =>
    rw [(List.cons.inj heq).1] at hc
    cases hc
  · next s heq =>
    rw [(List.cons.inj heq).1] at hc
    cases hc
  · rw [htake]

theorem digitsValue_toDigits (n : ℕ) : digitsValue (Nat.toDigits 10 n) = n := by
  induction n using Nat.strongRecOn with
  | ind n ih =>
    by_cases hn : n < 10
    · have hsmall : ∀ n < 10, digitsValue [Nat.digitChar n] = n := by decide
      rw [Nat.toDigits_of_lt_base hn]
      exact hsmall n hn
    · have hdigit : ∀ d < 10, (Nat.digitChar d).toNat - 0x30 = d := by decide
      rw [Nat.toDigits_of_base_le (by decide) (by omega), digitsValue_concat, ih (n / 10) (by omega),
        hdigit _ (Nat.mod_lt n (by decide))]
      omega

theorem digitsValue_zeros (digits : List Char) (e : ℕ) :
    digitsValue (digits ++ List.replicate e '0') = digitsValue digits * 10 ^ e := by
  induction e with
  | zero => rw [List.replicate_zero, List.append_nil, Nat.pow_zero, Nat.mul_one]
  | succ e ih =>
    rw [List.replicate_succ', ← List.append_assoc, digitsValue_concat, ih, Nat.pow_succ]
    show 10 * (digitsValue digits * 10 ^ e) + 0 = digitsValue digits * (10 ^ e * 10)
    ring

/-- **What is read as positive**: no minus in front, and not so much that it is infinity. -/
theorem positive_eq (v : String) :
    positive v = if (leading v).1 = true ∨ Binary64.overflow ≤ digitsValue (leading v).2 then 0
      else Binary64.roundNat (digitsValue (leading v).2) := by
  rw [positive, parseInt]
  generalize leading v = l
  obtain ⟨negative, digits⟩ := l
  simp only
  cases negative with
  | true =>
    rw [if_pos (Or.inl rfl)]
    by_cases hnil : digits = []
    · rw [if_pos hnil]
    · rw [if_neg hnil]
  | false =>
    by_cases hmany : Binary64.overflow ≤ digitsValue digits
    · have hne : digits ≠ [] := by
        intro hnil
        rw [hnil] at hmany
        exact absurd hmany (by decide +kernel)
      rw [if_pos (Or.inr hmany), if_neg hne, number, Binary64.ofNat_eq_top_iff.mpr hmany]
    · have hnumber := Binary64.ofNat_of_lt_overflow (not_le.mp hmany)
      rw [if_neg (not_or.mpr ⟨Bool.false_ne_true, hmany⟩)]
      by_cases hnil : digits = []
      · rw [if_pos hnil, hnil]
        rfl
      · rw [if_neg hnil, number, hnumber]
        show (if 0 < _ then _ else 0) = _
        split_ifs with hpos
        · rfl
        · omega

theorem not_overflow {n : ℕ} (h : Binary64.roundNat n < Binary64.limit) : ¬ Binary64.overflow ≤ n :=
  fun hle => absurd (Binary64.roundNat_of_overflow_le hle) (not_le.mpr h)

/-- **What is read of a decimal**: all its places, or its first digit. -/
theorem leading_decimalText (d : Binary64.Decimal) : leading (String.ofList (decimalText d)) = (false,
    if d.length + d.exponent ≤ 21 then Nat.toDigits 10 d.digits ++ List.replicate d.exponent '0'
    else (Nat.toDigits 10 d.digits).take 1) := by
  have hdigits : ∀ c ∈ Nat.toDigits 10 d.digits, c.isDigit = true :=
    fun c hc => Nat.isDigit_of_mem_toDigits (by decide) (by decide) hc
  have hne : Nat.toDigits 10 d.digits ≠ [] := Nat.toDigits_ne_nil
  rw [decimalText]
  by_cases hplaces : d.length + d.exponent ≤ 21
  · have hall : ∀ c ∈ Nat.toDigits 10 d.digits ++ List.replicate d.exponent '0', c.isDigit = true := by
      intro c hc
      rcases List.mem_append.mp hc with hc | hc
      · exact hdigits c hc
      · rw [(List.mem_replicate.mp hc).2]
        rfl
    have hread := @leading_digits _ [] (fun hnil => hne (List.append_eq_nil_iff.mp hnil).1) hall (by simp)
    rw [List.append_nil] at hread
    rw [if_pos hplaces, if_pos hplaces, hread]
  · rw [if_neg hplaces, if_neg hplaces]
    refine leading_digits (fun hnil => ?_) (fun c hc => hdigits c (List.mem_of_mem_take hc)) ?_
    · rcases List.take_eq_nil_iff.mp hnil with hzero | hnil
      · cases hzero
      · exact hne hnil
    · cases (Nat.toDigits 10 d.digits).drop 1 with
      | nil => simp [fraction]
      | cons c digits => simp [fraction]

/-- **Numbers are read back** where they are written in full. -/
theorem positive_numberText_iff {x : ℕ} (h : 0 < x) (hx : Binary64.roundNat x = x)
    (hfinite : x < Binary64.limit) : positive (numberText x) = x ↔ x < 10 ^ 21 := by
  have hspec := Binary64.shortest_spec h hx
  have hten : (Binary64.shortest (10 ^ 21)).value = 10 ^ 21 ∧ Binary64.roundNat (10 ^ 21) = 10 ^ 21 := by
    decide +kernel
  have hplaces := Binary64.places_shortest_le_iff h hx hten.2 hten.1
  rw [positive_eq, numberText, if_neg (Nat.pos_iff_ne_zero.mp h), leading_decimalText, ← hplaces]
  generalize Binary64.shortest x = d at hspec hplaces
  by_cases hfull : d.length + d.exponent ≤ 21
  · have hvalue : digitsValue (Nat.toDigits 10 d.digits ++ List.replicate d.exponent '0') = d.value := by
      rw [digitsValue_zeros, digitsValue_toDigits, Binary64.Decimal.value]
    have hfew : ¬ Binary64.overflow ≤ d.value := not_overflow (hspec.read.trans_lt hfinite)
    simp only [if_pos hfull, hvalue]
    rw [if_neg (not_or.mpr ⟨Bool.false_ne_true, hfew⟩)]
    exact iff_of_true hspec.read hfull
  · have hlarge : 10 ^ 21 ≤ x := not_lt.mp (fun hlt => hfull (hplaces.mpr hlt))
    have hfirst : digitsValue ((Nat.toDigits 10 d.digits).take 1) < 10 := by
      have hdigit : ∀ c ∈ (Nat.toDigits 10 d.digits).take 1, c.isDigit = true := fun c hc =>
        Nat.isDigit_of_mem_toDigits (by decide) (by decide) (List.mem_of_mem_take hc)
      have hlt := digitsValue_lt hdigit
      exact hlt.trans_le (Nat.pow_le_pow_right (by decide) (List.length_take_le 1 _))
    have hround := Binary64.roundNat_eq (hfirst.le.trans (by decide : 10 ≤ 2 ^ 53))
    simp only [if_neg hfull]
    refine iff_of_false (fun heq => ?_) hfull
    split_ifs at heq <;> omega

/-- No blank is written. -/
theorem trim_numberText (n : ℕ) : trim (numberText n) = numberText n := by
  have hdigits : ∀ m, ∀ c ∈ Nat.toDigits 10 m, isBlank c = false :=
    fun m c hc => isBlank_of_isDigit (Nat.isDigit_of_mem_toDigits (by decide) (by decide) hc)
  have hnone : ∀ c ∈ (numberText n).toList, isBlank c = false := by
    rw [numberText]
    split_ifs with hzero
    · have hself : "0".toList = ['0'] := by decide
      rw [hself, List.forall_mem_singleton]
      rfl
    · intro c hc
      rw [String.toList_ofList, decimalText] at hc
      split_ifs at hc with hplaces
      · rcases List.mem_append.mp hc with hc | hc
        · exact hdigits _ c hc
        · rw [(List.mem_replicate.mp hc).2]
          rfl
      · have hfraction : ∀ l : List Char, (∀ c ∈ l, isBlank c = false) → ∀ c ∈ fraction l, isBlank c = false := by
          intro l hl
          cases l with
          | nil => exact hl
          | cons c l => exact List.forall_mem_cons.mpr ⟨rfl, hl⟩
        rcases List.mem_append.mp hc with hc | hc
        · exact hdigits _ c (List.mem_of_mem_take hc)
        · rcases List.mem_append.mp hc with hc | hc
          · exact hfraction _ (fun c hc => hdigits _ c (List.mem_of_mem_drop hc)) c hc
          · obtain rfl | hc := List.mem_cons.mp hc
            · rfl
            · obtain rfl | hc := List.mem_cons.mp hc
              · rfl
              · exact hdigits _ c hc
  refine trim_eq_self_iff.mpr (Strip.strip_eq_self_iff.mpr ⟨fun c hc => ?_, fun c hc => ?_⟩)
  · exact hnone c (List.mem_of_mem_head? hc)
  · exact hnone c (List.mem_of_mem_getLast? hc)

end Web

end Sahel

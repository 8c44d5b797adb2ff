import Sahel.Web.Pounds

/-!
# Numbers in text fields

What `Number` reads of a text, and what `String` writes of a number, fractions, negative numbers and
exponents included.

* `toNumber` follows the grammar: white space, a sign, digits, a point, an exponent, other bases;
* `Written` is `String`, with the freedom the language leaves;
* **`toNumber_written`**: a double that is written is read again as it is.
-/

set_option autoImplicit false

namespace Sahel

open Strip Binary64

namespace Web

/-! ### Doubles -/

/-- The nearest double of a number that is not negative; none is an infinity. -/
def toDouble (q : ℚ) : Option ℚ :=
  if q = 0 then some 0
  else
    let r := if q < 2 ^ (-1022 : ℤ) then (roundEven (q * 2 ^ 1074) : ℚ) / 2 ^ 1074 else nearest q
    if r < 2 ^ 1024 then some r else none

/-- A double far from where they end or have fewer digits. -/
def Ordinary (x : ℚ) : Prop := x = 0 ∨ (2 : ℚ) ^ (-1000 : ℤ) ≤ x ∧ x < 2 ^ 1000

/-! ### Reading -/

def wholeDigits (s : List Char) : Option ℕ :=
  if s ≠ [] ∧ s.all Char.isDigit then some (digitsValue s) else none

def signedDigits : List Char → Option ℤ
  | '-' :: s => (wholeDigits s).map (fun n : ℕ => -(n : ℤ))
  | '+' :: s => (wholeDigits s).map (fun n : ℕ => (n : ℤ))
  | s => (wholeDigits s).map (fun n : ℕ => (n : ℤ))

/-- The exponent behind the digits, if there is one. -/
def exponentPart : List Char → Option ℤ
  | [] => some 0
  | c :: s => if c = 'e' ∨ c = 'E' then signedDigits s else none

/-- Digits, digits behind a point, an exponent. -/
def decimal (s : List Char) : Option ℚ :=
  let whole := s.takeWhile Char.isDigit
  let rest := s.dropWhile Char.isDigit
  let frac := if rest.head? = some '.' then rest.tail.takeWhile Char.isDigit else []
  let tail := if rest.head? = some '.' then rest.tail.dropWhile Char.isDigit else rest
  if whole ++ frac = [] then none
  else (exponentPart tail).map (fun e => (digitsValue (whole ++ frac) : ℚ) * 10 ^ (e - (frac.length : ℤ)))

/-- The value of a digit, the letters counted on from ten. -/
def digitIn (base : ℕ) (c : Char) : Option ℕ :=
  let value :=
    if c.isDigit then c.toNat - 0x30
    else if 'a' ≤ c ∧ c ≤ 'z' then c.toNat - 0x61 + 10
    else if 'A' ≤ c ∧ c ≤ 'Z' then c.toNat - 0x41 + 10
    else base
  if value < base then some value else none

/-- `0x1F`, `0o17`, `0b11`. -/
def radixed : List Char → Option ℚ
  | '0' :: c :: s =>
    let base := if c = 'x' ∨ c = 'X' then 16 else if c = 'o' ∨ c = 'O' then 8
      else if c = 'b' ∨ c = 'B' then 2 else 0
    if s = [] then none
    else (s.mapM (digitIn base)).map (fun digits => ((digits.foldl (fun n d => base * n + d) 0 : ℕ) : ℚ))
  | _ => none

/-- `Number(t)`; none is an infinity, or not a number. -/
def toNumber (t : String) : Option ℚ :=
  match strip isBlank t.toList with
  | [] => some 0
  | '-' :: s => ((decimal s).bind toDouble).map (fun x => -x)
  | '+' :: s => (decimal s).bind toDouble
  | s => (decimal s <|> radixed s).bind toDouble

/-! ### Writing -/

/-- `String(x)` of a finite double. -/
inductive Written : ℚ → String → Prop
  | nonneg {x : ℚ} {t : String} (h : Printed x t) : Written x t
  | negative {x : ℚ} {t : String} (h : Printed x t) (hx : 0 < x) : Written (-x) ("-" ++ t)

example : decimal "12.50".toList = some (25 / 2) ∧ decimal "1e3".toList = some 1000 ∧
    decimal "12a".toList = none ∧ decimal ".".toList = none ∧ radixed "0x1F".toList = some 31 := by
  decide +kernel

/-! ### What is written is read -/

theorem wholeDigits_toDigits (n : ℕ) : wholeDigits (Nat.toDigits 10 n) = some n := by
  have hne : Nat.toDigits 10 n ≠ [] := by
    intro hnil
    have hpos : 0 < (Nat.toDigits 10 n).length := Nat.length_toDigits_pos
    rw [hnil] at hpos
    exact absurd hpos (lt_irrefl 0)
  have hall : (Nat.toDigits 10 n).all Char.isDigit = true := List.all_eq_true.mpr (isDigit_toDigits n)
  rw [wholeDigits, if_pos ⟨hne, hall⟩, digitsValue_toDigits]

theorem takeWhile_digits {digits rest : List Char} (hdigits : ∀ c ∈ digits, c.isDigit = true)
    (hrest : ∀ c ∈ rest.head?, c.isDigit = false) :
    (digits ++ rest).takeWhile Char.isDigit = digits ∧ (digits ++ rest).dropWhile Char.isDigit = rest := by
  rw [List.takeWhile_append_of_pos hdigits, List.dropWhile_append_of_pos hdigits]
  cases rest with
  | nil => simp
  | cons c rest =>
    have hc := hrest c rfl
    simp [hc]

theorem fraction_eq {digits : List Char} (h : digits ≠ []) : fraction digits = '.' :: digits := by
  cases digits with
  | nil => exact absurd rfl h
  | cons c digits => rfl

/-- Digits, a fraction, and what follows. -/
theorem decimal_parts {whole frac tail : List Char} (hne : whole ≠ [])
    (hwhole : ∀ c ∈ whole, c.isDigit = true) (hfrac : ∀ c ∈ frac, c.isDigit = true)
    (htail : ∀ c ∈ tail.head?, c.isDigit = false ∧ c ≠ '.') :
    decimal (whole ++ (fraction frac ++ tail))
      = (exponentPart tail).map
          (fun e => (digitsValue (whole ++ frac) : ℚ) * 10 ^ (e - (frac.length : ℤ))) := by
  have hdigit : ∀ c ∈ tail.head?, c.isDigit = false := fun c hc => (htail c hc).1
  have hnone : ¬ whole ++ frac = [] := fun hnil => hne (List.append_eq_nil_iff.mp hnil).1
  cases frac with
  | nil =>
    obtain ⟨htake, hdrop⟩ := takeWhile_digits hwhole hdigit
    have hpoint : tail.head? ≠ some '.' := fun hc => (htail _ hc).2 rfl
    show decimal (whole ++ tail) = _
    simp only [decimal, htake, hdrop, if_neg hpoint, if_neg hnone]
  | cons c frac =>
    have hrest : ∀ d ∈ ('.' :: (c :: frac ++ tail)).head?, d.isDigit = false := by
      intro d hd
      cases hd
      rfl
    obtain ⟨htake, hdrop⟩ := takeWhile_digits hwhole hrest
    obtain ⟨htake', hdrop'⟩ := takeWhile_digits hfrac hdigit
    have hpoint : ('.' :: (c :: frac ++ tail)).head? = some '.' := rfl
    show decimal (whole ++ '.' :: (c :: frac ++ tail)) = _
    simp only [decimal, htake, hdrop, if_pos hpoint, List.tail_cons, htake', hdrop', if_neg hnone]

/-- A numeral in three parts, and its value. -/
structure Numeral (t whole frac tail : List Char) (v : ℚ) : Prop where
  text : t = whole ++ (fraction frac ++ tail)
  nonempty : whole ≠ []
  whole_digits : ∀ c ∈ whole, c.isDigit = true
  frac_digits : ∀ c ∈ frac, c.isDigit = true
  exponent : tail = [] ∨ ∃ sign m, (sign = '+' ∨ sign = '-') ∧ tail = 'e' :: sign :: Nat.toDigits 10 m
  value : (exponentPart tail).map
    (fun e => (digitsValue (whole ++ frac) : ℚ) * 10 ^ (e - (frac.length : ℤ))) = some v

theorem Numeral.decimal {t whole frac tail : List Char} {v : ℚ} (h : Numeral t whole frac tail v) :
    decimal t = some v := by
  have htail : ∀ c ∈ tail.head?, c.isDigit = false ∧ c ≠ '.' := by
    intro c hc
    rcases h.exponent with hnil | ⟨sign, m, -, hexp⟩
    · rw [hnil] at hc
      cases hc
    · rw [hexp] at hc
      cases hc
      decide
  rw [h.text, decimal_parts h.nonempty h.whole_digits h.frac_digits htail, h.value]

/-- A numeral begins with a digit and holds no white space. -/
theorem Numeral.plain {t whole frac tail : List Char} {v : ℚ} (h : Numeral t whole frac tail v) :
    (∃ c rest, t = c :: rest ∧ c.isDigit = true) ∧ ∀ c ∈ t, isBlank c = false := by
  have hdigit : ∀ c : Char, c.isDigit = true → isBlank c = false := fun c hc => isBlank_of_isDigit hc
  obtain ⟨d, whole', hwhole⟩ := List.exists_cons_of_ne_nil h.nonempty
  refine ⟨⟨d, whole' ++ (fraction frac ++ tail), ?_, h.whole_digits d ?_⟩, ?_⟩
  · rw [h.text, hwhole]
    rfl
  · rw [hwhole]
    exact List.mem_cons_self
  · intro c hc
    rw [h.text] at hc
    rcases List.mem_append.mp hc with hc | hc
    · exact hdigit c (h.whole_digits c hc)
    rcases List.mem_append.mp hc with hc | hc
    · cases hfrac : frac with
      | nil =>
        rw [hfrac] at hc
        cases hc
      | cons e frac' =>
        rw [fraction_eq (hfrac ▸ List.cons_ne_nil e frac')] at hc
        rcases List.mem_cons.mp hc with rfl | hc
        · rfl
        · exact hdigit c (h.frac_digits c hc)
    · rcases h.exponent with hnil | ⟨sign, m, hsign, hexp⟩
      · rw [hnil] at hc
        cases hc
      · rw [hexp] at hc
        rcases List.mem_cons.mp hc with rfl | hc
        · rfl
        rcases List.mem_cons.mp hc with rfl | hc
        · rcases hsign with rfl | rfl <;> rfl
        · exact hdigit c (isDigit_toDigits m c hc)

/-- **The text of digits with a point** is a numeral. -/
theorem pointText_numeral {s k : ℕ} {n : ℤ} (hk : 1 ≤ k) (hlow : 10 ^ (k - 1) ≤ s) (hhigh : s < 10 ^ k) :
    ∃ whole frac tail, Numeral (pointText s k n) whole frac tail ((s : ℚ) * 10 ^ (n - k)) := by
  have hlen := length_toDigits_eq hk hlow hhigh
  have hdigits := isDigit_toDigits s
  have htake : ∀ m, ∀ c ∈ (Nat.toDigits 10 s).take m, c.isDigit = true :=
    fun m c hc => hdigits c (List.mem_of_mem_take hc)
  have hdrop : ∀ m, ∀ c ∈ (Nat.toDigits 10 s).drop m, c.isDigit = true :=
    fun m c hc => hdigits c (List.mem_of_mem_drop hc)
  have hfirst : ∀ m, 0 < m → (Nat.toDigits 10 s).take m ≠ [] := by
    intro m hm hnil
    have hzero := congrArg List.length hnil
    rw [List.length_take, List.length_nil] at hzero
    omega
  have hreplicate : ∀ m, ∀ c ∈ List.replicate m '0', c.isDigit = true := by
    intro m c hc
    rw [List.eq_of_mem_replicate hc]
    rfl
  have hnone : ∀ c ∈ ([] : List Char), c.isDigit = true := fun c hc => absurd hc List.not_mem_nil
  simp only [pointText]
  split_ifs with hwhole hpoint hsmall hsign
  · -- No decimals: zeros behind the digits.
    refine ⟨Nat.toDigits 10 s ++ List.replicate (n - k).toNat '0', [], [], ?_, ?_, ?_, hnone, Or.inl rfl, ?_⟩
    · rw [fraction, List.append_nil, List.append_nil]
    · intro hnil
      have hzero := congrArg List.length hnil
      rw [List.length_append, hlen, List.length_nil] at hzero
      omega
    · intro c hc
      rcases List.mem_append.mp hc with hc | hc
      · exact hdigits c hc
      · exact hreplicate _ c hc
    · have hpow : (10 : ℚ) ^ (n - k) = 10 ^ (n - k).toNat := by
        rw [← zpow_natCast, Int.toNat_of_nonneg (by omega)]
      rw [List.append_nil, digitsValue_zeros, digitsValue_toDigits, hpow]
      simp [exponentPart]
  · -- The point is among the digits.
    have hmore : (Nat.toDigits 10 s).drop n.toNat ≠ [] := by
      intro hnil
      have hzero := congrArg List.length hnil
      rw [List.length_drop, hlen, List.length_nil] at hzero
      omega
    refine ⟨_, _, [], ?_, hfirst n.toNat (by omega), htake n.toNat, hdrop n.toNat, Or.inl rfl, ?_⟩
    · rw [List.append_nil, fraction_eq hmore]
    · rw [List.take_append_drop, digitsValue_toDigits, List.length_drop, hlen]
      show some ((s : ℚ) * 10 ^ ((0 : ℤ) - (k - n.toNat : ℕ))) = _
      congr 3
      omega
  · -- Less than one.
    have hfrac : (List.replicate (-n).toNat '0' ++ Nat.toDigits 10 s).length = (k - n).toNat := by
      rw [List.length_append, List.length_replicate, hlen]
      omega
    have hmore : List.replicate (-n).toNat '0' ++ Nat.toDigits 10 s ≠ [] := by
      intro hnil
      rw [hnil, List.length_nil] at hfrac
      omega
    refine ⟨['0'], List.replicate (-n).toNat '0' ++ Nat.toDigits 10 s, [], ?_, List.cons_ne_nil _ _,
      hreplicate 1, ?_, Or.inl rfl, ?_⟩
    · rw [List.append_nil, fraction_eq hmore]
      rfl
    · intro c hc
      rcases List.mem_append.mp hc with hc | hc
      · exact hreplicate _ c hc
      · exact hdigits c hc
    · have hvalue : digitsValue (['0'] ++ (List.replicate (-n).toNat '0' ++ Nat.toDigits 10 s)) = s := by
        rw [digitsValue_append, digitsValue_append, digitsValue_replicate, digitsValue_toDigits]
        show 0 * _ + (0 * _ + s) = s
        omega
      rw [hvalue, hfrac]
      show some ((s : ℚ) * 10 ^ ((0 : ℤ) - (k - n).toNat)) = _
      congr 3
      omega
  -- An exponent.
  · refine ⟨_, _, 'e' :: '+' :: Nat.toDigits 10 (n - 1).natAbs, rfl, hfirst 1 (by omega), htake 1, hdrop 1,
      Or.inr ⟨'+', _, Or.inl rfl, rfl⟩, ?_⟩
    have hexp : exponentPart ('e' :: '+' :: Nat.toDigits 10 (n - 1).natAbs) = some (n - 1) := by
      rw [exponentPart, if_pos (Or.inl rfl)]
      show (wholeDigits (Nat.toDigits 10 (n - 1).natAbs)).map (fun n : ℕ => (n : ℤ)) = _
      rw [wholeDigits_toDigits, Option.map_some]
      congr 1
      omega
    rw [hexp, List.take_append_drop, digitsValue_toDigits, List.length_drop, hlen, Option.map_some]
    congr 3
    omega
  · refine ⟨_, _, 'e' :: '-' :: Nat.toDigits 10 (n - 1).natAbs, rfl, hfirst 1 (by omega), htake 1, hdrop 1,
      Or.inr ⟨'-', _, Or.inr rfl, rfl⟩, ?_⟩
    have hexp : exponentPart ('e' :: '-' :: Nat.toDigits 10 (n - 1).natAbs) = some (n - 1) := by
      rw [exponentPart, if_pos (Or.inl rfl)]
      show (wholeDigits (Nat.toDigits 10 (n - 1).natAbs)).map (fun n : ℕ => -(n : ℤ)) = _
      rw [wholeDigits_toDigits, Option.map_some]
      congr 1
      omega
    rw [hexp, List.take_append_drop, digitsValue_toDigits, List.length_drop, hlen, Option.map_some]
    congr 3
    omega

/-- What rounds to an ordinary double has that double. -/
theorem toDouble_of_nearest {v x : ℚ} (hv : 0 < v) (h : nearest v = x) (hx : Ordinary x) :
    toDouble v = some x := by
  have hpos : 0 < x := h ▸ nearest_pos hv
  rcases hx with hzero | ⟨hlow, hhigh⟩
  · exact absurd hzero hpos.ne'
  have hclose := nearest_close hv
  rw [h] at hclose
  have hself := le_abs_self (x - v)
  have hhalf : (2 : ℚ) ^ (-1000 : ℤ) ≤ 2 * v := by
    norm_num at hclose
    linarith
  have hstep : (2 : ℚ) ^ (-1000 : ℤ) = 2 * 2 ^ (-1001 : ℤ) := by
    rw [show (-1000 : ℤ) = 1 + -1001 by norm_num, zpow_add₀ (by norm_num), zpow_one]
  have hnormal : ¬ v < 2 ^ (-1022 : ℤ) := by
    have hmono : (2 : ℚ) ^ (-1022 : ℤ) ≤ 2 ^ (-1001 : ℤ) := zpow_le_zpow_right₀ (by norm_num) (by norm_num)
    rw [hstep] at hhalf
    linarith
  have hfinite : x < 2 ^ 1024 := hhigh.trans_le (pow_le_pow_right₀ (by norm_num) (by norm_num))
  simp only [toDouble, if_neg hv.ne', if_neg hnormal, h, if_pos hfinite]

/-- The text of a double that is not negative: digits and no sign. -/
theorem Printed.reads {x : ℚ} {t : String} (h : Printed x t) (hx : Ordinary x) :
    (decimal t.toList).bind toDouble = some x ∧ (∃ c rest, t.toList = c :: rest ∧ c.isDigit = true) ∧
      ∀ c ∈ t.toList, isBlank c = false := by
  cases h with
  | zero =>
    have hnumeral : Numeral ['0'] ['0'] [] [] 0 := by
      refine ⟨rfl, List.cons_ne_nil _ _, by simp, by simp, Or.inl rfl, ?_⟩
      simp [exponentPart, digitsValue]
    obtain ⟨hhead, hblank⟩ := hnumeral.plain
    refine ⟨?_, hhead, hblank⟩
    show (Web.decimal ['0']).bind toDouble = some 0
    rw [hnumeral.decimal, Option.bind_some, toDouble, if_pos rfl]
  | @positive _ s k n h hpos =>
    obtain ⟨whole, frac, tail, hnumeral⟩ := pointText_numeral h.one_le h.digits.1 h.digits.2
    rw [String.toList_ofList]
    obtain ⟨hhead, hblank⟩ := hnumeral.plain
    refine ⟨?_, hhead, hblank⟩
    have hvalue : (0 : ℚ) < s * 10 ^ (n - k) :=
      mul_pos (Nat.cast_pos.mpr h.pos) (zpow_pos (by norm_num) _)
    rw [hnumeral.decimal, Option.bind_some, toDouble_of_nearest hvalue h.read hx]

/-- **What is written is read again.** -/
theorem toNumber_written {x : ℚ} {t : String} (h : Written x t) (hx : Ordinary |x|) :
    toNumber t = some x ∧ trim t = t := by
  have hstrip : ∀ {l : List Char}, (∀ c ∈ l, isBlank c = false) → strip isBlank l = l := by
    intro l hl
    exact strip_eq_self_iff.mpr ⟨fun c hc => hl c (List.mem_of_mem_head? hc),
      fun c hc => hl c (List.mem_of_mem_getLast? hc)⟩
  cases h with
  | nonneg h =>
    have hnonneg : 0 ≤ x := by
      cases h with
      | zero => exact le_refl 0
      | positive _ hpos => exact hpos.le
    rw [abs_of_nonneg hnonneg] at hx
    obtain ⟨hreads, ⟨c, rest, ht, hc⟩, hblank⟩ := h.reads hx
    refine ⟨?_, trim_eq_self_iff.mpr (hstrip hblank)⟩
    have hdecimal : (decimal t.toList <|> radixed t.toList).bind toDouble = some x := by
      cases hd : decimal t.toList with
      | none =>
        rw [hd] at hreads
        cases hreads
      | some v =>
        rw [hd] at hreads
        exact hreads
    rw [toNumber, hstrip hblank]
    rw [ht] at hdecimal ⊢
    split
    · next heq => cases heq
    · next heq =>
      cases heq
      cases hc
    · next heq =>
      cases heq
      cases hc
    · exact hdecimal
  | @negative y t h hpos =>
    rw [abs_neg, abs_of_pos hpos] at hx
    obtain ⟨hreads, -, hblank⟩ := h.reads hx
    have hlist : ("-" ++ t).toList = '-' :: t.toList := String.toList_append
    have hblank' : ∀ c ∈ ("-" ++ t).toList, isBlank c = false := by
      rw [hlist]
      intro c hc
      rcases List.mem_cons.mp hc with rfl | hc
      · rfl
      · exact hblank c hc
    refine ⟨?_, trim_eq_self_iff.mpr (hstrip hblank')⟩
    rw [toNumber, hstrip hblank', hlist]
    show ((decimal t.toList).bind toDouble).map (fun x => -x) = some (-y)
    rw [hreads, Option.map_some]

/-! ### Decimals and whole numbers -/

/-- The nearest double. -/
def double (q : ℚ) : ℚ := if 0 < q then nearest q else if q < 0 then -nearest (-q) else 0

theorem double_neg (q : ℚ) : double (-q) = -double q := by
  rcases lt_trichotomy q 0 with h | rfl | h
  · rw [double, if_pos (neg_pos.mpr h), double, if_neg h.le.not_gt, if_pos h, neg_neg]
  · simp [double]
  · rw [double, if_neg (by linarith), if_pos (neg_lt_zero.mpr h), double, if_pos h, neg_neg]

/-- **A decimal can be written.** -/
theorem exists_written (d : ℕ) (z : ℤ) : ∃ t, Written (double (z * 10 ^ (-d : ℤ))) t := by
  have hten : (0 : ℚ) < 10 ^ (-d : ℤ) := zpow_pos (by norm_num) _
  have hpos : ∀ m : ℕ, 0 < m → ∃ t, Printed (double (m * 10 ^ (-d : ℤ))) t ∧
      0 < double (m * 10 ^ (-d : ℤ)) := by
    intro m hm
    obtain ⟨s, k, n, h⟩ := exists_chosen d hm
    have hq : (0 : ℚ) < m * 10 ^ (-d : ℤ) := mul_pos (Nat.cast_pos.mpr hm) hten
    rw [double, if_pos hq]
    exact ⟨_, .positive h (nearest_pos hq), nearest_pos hq⟩
  have hzero : ∃ t, Written (double (((0 : ℤ) : ℚ) * 10 ^ (-d : ℤ))) t := by
    refine ⟨"0", ?_⟩
    simp only [Int.cast_zero, zero_mul, double, lt_irrefl, if_false]
    exact .nonneg .zero
  obtain ⟨m, rfl | rfl⟩ := z.eq_nat_or_neg
  · rcases Nat.eq_zero_or_pos m with rfl | hm
    · exact hzero
    · obtain ⟨t, ht, -⟩ := hpos m hm
      exact ⟨t, .nonneg (by rwa [Int.cast_natCast])⟩
  · rcases Nat.eq_zero_or_pos m with rfl | hm
    · exact hzero
    · obtain ⟨t, ht, htpos⟩ := hpos m hm
      refine ⟨"-" ++ t, ?_⟩
      rw [Int.cast_neg, Int.cast_natCast, neg_mul, double_neg]
      exact .negative ht htpos

theorem ordinary_nearest {q : ℚ} (hlow : (10 : ℚ) ^ (-15 : ℤ) ≤ q) (hhigh : q ≤ 10 ^ 15) :
    Ordinary (nearest q) := by
  have hq : 0 < q := lt_of_lt_of_le (zpow_pos (by norm_num) _) hlow
  have hhalf : |nearest q - q| ≤ q / 2 := by
    have hclose := nearest_close hq
    have hnonneg := abs_nonneg (nearest q - q)
    norm_num at hclose
    linarith
  obtain ⟨hbelow, habove⟩ := abs_le.mp hhalf
  refine Or.inr ⟨?_, ?_⟩
  · calc (2 : ℚ) ^ (-1000 : ℤ) ≤ 2 ^ (-60 : ℤ) := zpow_le_zpow_right₀ (by norm_num) (by norm_num)
      _ ≤ 10 ^ (-15 : ℤ) / 2 := by norm_num
      _ ≤ q / 2 := div_le_div_of_nonneg_right hlow (by norm_num)
      _ ≤ nearest q := by linarith
  · calc nearest q ≤ 2 * 10 ^ 15 := by linarith
      _ < 2 ^ 60 := by norm_num
      _ ≤ 2 ^ 1000 := pow_le_pow_right₀ (by norm_num) (by norm_num)

/-- A decimal's double is ordinary. -/
theorem ordinary_scaled {d : ℕ} (hd : d ≤ 15) {z : ℤ} (hz : |z| < 10 ^ 15) :
    Ordinary |double (z * 10 ^ (-d : ℤ))| := by
  have hten : (0 : ℚ) < 10 ^ (-d : ℤ) := zpow_pos (by norm_num) _
  have hpos : ∀ m : ℕ, 0 < m → (m : ℚ) < 10 ^ 15 → Ordinary |double (m * 10 ^ (-d : ℤ))| := by
    intro m hm hsmall
    have hq : (0 : ℚ) < m * 10 ^ (-d : ℤ) := mul_pos (Nat.cast_pos.mpr hm) hten
    have hone : (1 : ℚ) ≤ m := by exact_mod_cast hm
    have hlow : (10 : ℚ) ^ (-15 : ℤ) ≤ m * 10 ^ (-d : ℤ) := by
      calc (10 : ℚ) ^ (-15 : ℤ) ≤ 10 ^ (-d : ℤ) := zpow_le_zpow_right₀ (by norm_num) (by omega)
        _ ≤ m * 10 ^ (-d : ℤ) := le_mul_of_one_le_left hten.le hone
    have hhigh : m * (10 : ℚ) ^ (-d : ℤ) ≤ 10 ^ 15 := by
      have hle : (10 : ℚ) ^ (-d : ℤ) ≤ 1 := zpow_le_one_of_nonpos₀ (by norm_num) (by omega)
      calc m * (10 : ℚ) ^ (-d : ℤ) ≤ m := mul_le_of_le_one_right (by positivity) hle
        _ ≤ 10 ^ 15 := hsmall.le
    rw [double, if_pos hq, abs_of_pos (nearest_pos hq)]
    exact ordinary_nearest hlow hhigh
  have hzero : Ordinary |double (((0 : ℕ) : ℚ) * 10 ^ (-d : ℤ))| := Or.inl (by simp [double])
  have hall : ∀ m : ℕ, (m : ℤ) < 10 ^ 15 → Ordinary |double (m * 10 ^ (-d : ℤ))| := by
    intro m hm
    rcases Nat.eq_zero_or_pos m with rfl | hpos'
    · exact hzero
    · exact hpos m hpos' (by exact_mod_cast hm)
  obtain ⟨m, rfl | rfl⟩ := z.eq_nat_or_neg
  · rw [Int.cast_natCast]
    exact hall m (lt_of_le_of_lt (le_abs_self _) hz)
  · rw [abs_neg] at hz
    rw [Int.cast_neg, Int.cast_natCast, neg_mul, double_neg, abs_neg]
    exact hall m (lt_of_le_of_lt (le_abs_self _) hz)

/-- **Whole numbers are written in digits.** -/
theorem signedDigits_written {n : ℤ} (hn : |n| < 10 ^ 15) {t : String} (h : Written (n : ℚ) t) :
    signedDigits t.toList = some n := by
  have hprinted : ∀ m : ℕ, (m : ℤ) < 10 ^ 15 → ∀ t, Printed (m : ℚ) t →
      wholeDigits t.toList = some m ∧ ∃ c rest, t.toList = c :: rest ∧ c.isDigit = true := by
    intro m hm t ht
    generalize hx : (m : ℚ) = x at ht
    cases ht with
    | zero =>
      obtain rfl : m = 0 := by exact_mod_cast hx
      exact ⟨rfl, '0', [], rfl, rfl⟩
    | @positive _ s k e hchosen hpos =>
      have hmpos : 0 < m := by
        rw [← hx] at hpos
        exact_mod_cast hpos
      have hmsmall : m < 10 ^ 15 := by exact_mod_cast hm
      have hself : x = nearest (m * 10 ^ (-(0 : ℕ) : ℤ)) := by
        rw [← hx]
        simp only [Nat.cast_zero, neg_zero, zpow_zero, mul_one]
        exact (nearest_natCast hmpos (hmsmall.trans (by norm_num))).symm
      rw [hself] at hchosen
      obtain ⟨hvalue, hdeep, hlarge⟩ := chosen_scaled 0 hmpos hmsmall hchosen
      obtain ⟨whole, frac, tail, hnumeral⟩ :=
        pointText_numeral hchosen.one_le hchosen.digits.1 hchosen.digits.2
      rw [String.toList_ofList]
      refine ⟨?_, hnumeral.plain.1⟩
      have hwhole : (k : ℤ) ≤ e ∧ e ≤ 21 := by
        simp only [Nat.cast_zero, add_zero, sub_zero] at hdeep hlarge
        exact ⟨hdeep, hlarge.trans (by norm_num)⟩
      have hscale : s * 10 ^ (e - k).toNat = m := by
        have hpow : (10 : ℚ) ^ (e - k) = 10 ^ (e - k).toNat := by
          rw [← zpow_natCast, Int.toNat_of_nonneg (by omega)]
        rw [hpow] at hvalue
        simp only [Nat.cast_zero, neg_zero, zpow_zero, mul_one] at hvalue
        exact_mod_cast hvalue
      have hdigits : ∀ c ∈ Nat.toDigits 10 s ++ List.replicate (e - k).toNat '0', c.isDigit = true := by
        intro c hc
        rcases List.mem_append.mp hc with hc | hc
        · exact isDigit_toDigits s c hc
        · rw [List.eq_of_mem_replicate hc]
          rfl
      have hne : pointText s k e ≠ [] := by
        obtain ⟨⟨c, rest, hc, -⟩, -⟩ := hnumeral.plain
        rw [hc]
        exact List.cons_ne_nil c rest
      have htext : pointText s k e = Nat.toDigits 10 s ++ List.replicate (e - k).toNat '0' := by
        simp only [pointText, if_pos hwhole]
      rw [wholeDigits, if_pos ⟨hne, List.all_eq_true.mpr (htext ▸ hdigits)⟩, htext, digitsValue_zeros,
        digitsValue_toDigits, hscale]
  have hdigit : ∀ {t : String} {c : Char} {rest : List Char}, t.toList = c :: rest → c.isDigit = true →
      signedDigits t.toList = (wholeDigits t.toList).map (fun n : ℕ => (n : ℤ)) := by
    intro t c rest ht hc
    rw [ht]
    unfold signedDigits
    split
    · next heq =>
      cases heq
      cases hc
    · next heq =>
      cases heq
      cases hc
    · rfl
  generalize hx : (n : ℚ) = x at h
  cases h with
  | nonneg h =>
    have hnonneg : 0 ≤ n := by
      have hrat : (0 : ℚ) ≤ n := by
        rw [hx]
        cases h with
        | zero => exact le_refl 0
        | positive _ hpos => exact hpos.le
      exact_mod_cast hrat
    obtain ⟨m, rfl⟩ := Int.eq_ofNat_of_zero_le hnonneg
    rw [← hx, Int.cast_natCast] at h
    obtain ⟨hvalue, c, rest, ht, hc⟩ := hprinted m (lt_of_le_of_lt (le_abs_self _) hn) _ h
    rw [hdigit ht hc, hvalue, Option.map_some]
  | @negative y t h hpos =>
    have hneg : n < 0 := by
      have hrat : (n : ℚ) < 0 := by
        rw [hx]
        exact neg_lt_zero.mpr hpos
      exact_mod_cast hrat
    obtain ⟨m, hm⟩ := Int.eq_ofNat_of_zero_le (neg_nonneg.mpr hneg.le)
    obtain rfl : n = -(m : ℤ) := by omega
    have hy : y = (m : ℚ) := by
      rw [Int.cast_neg, Int.cast_natCast] at hx
      exact (neg_injective hx).symm
    rw [hy] at h
    rw [abs_neg] at hn
    obtain ⟨hvalue, -⟩ := hprinted m (lt_of_le_of_lt (le_abs_self _) hn) _ h
    have hlist : ("-" ++ t).toList = '-' :: t.toList := String.toList_append
    rw [hlist]
    show (wholeDigits t.toList).map (fun n : ℕ => -(n : ℤ)) = _
    rw [hvalue, Option.map_some]

end Web

end Sahel

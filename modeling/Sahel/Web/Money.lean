import Sahel.Library.Binary64
import Sahel.Library.Regex
import Sahel.Http.AdminCatalogue
import Sahel.Web.Form

/-!
# Typed amounts

`toPiasters` of `lib/public/calendar.ts`, which reads a typed amount of pounds, and the way it takes
from the unit form to the API: `nullablePiasters`, `JSON.stringify`, and the body as it is decoded.

* `clean` writes the digits of two scripts in Latin ones and leaves out commas and blanks;
* `IsAmount` are the texts that come out as an amount;
* **`stringify_toPiasters_iff`**: the others are sent as null.

A number with more than twenty digits may be read a digit off in its twenty-first; here it is read to
the nearest double, as the engines do.
-/

set_option autoImplicit false

namespace Sahel

namespace Web

/-! ### Reading an amount -/

/-- A digit of the script whose zero is `first`, as a Latin one. -/
def latinDigit (first : ℕ) (c : Char) : Char :=
  if first ≤ c.toNat ∧ c.toNat ≤ first + 9 then Char.ofNat (0x30 + (c.toNat - first)) else c

/-- `[,٬\s]`. -/
def isGrouping (c : Char) : Bool := c == ',' || c == '٬' || isBlank c

/-- The Arabic-Indic digits, the Eastern Arabic ones, the decimal separator; then the grouping. -/
def clean (pounds : String) : List Char :=
  (((pounds.toList.map (latinDigit 0x0660)).map (latinDigit 0x06F0)).map
    (fun c => if c == '٫' then '.' else c)).filter (fun c => ! isGrouping c)

/-- `\d`. -/
def digit : Regex Char := .chars Char.isDigit

/-- `/^\d+(\.\d{1,2})?$/`, of a text from its start. -/
def amountPattern : Regex Char :=
  .seq (.seq digit (.star digit))
    (.seq (.alt (.seq (.text ['.']) (.seq digit (.alt digit .eps))) .eps) .atEnd)

/-- The number that digits stand for. -/
def digitsValue (digits : List Char) : ℕ :=
  digits.foldl (fun n c => 10 * n + (c.toNat - 0x30)) 0

/-- `Number` of digits. -/
def number (digits : List Char) : WithTop ℕ := Binary64.ofNat (digitsValue digits)

/-- A pounds amount in piasters; null if it is none. -/
def toPiasters (pounds : String) : Option (WithTop ℕ) :=
  let c := clean pounds
  if amountPattern.test c then
    let parts := c.splitOnP (fun c => c == '.')
    let whole := parts.head?.getD []
    let frac := parts[1]?.getD []
    some (Binary64.add (Binary64.scale 100 (number whole)) (number (frac.rightpad 2 '0')))
  else none

/-- A money field that may be cleared. -/
def nullablePiasters (fd : FormData) (key : String) : Option (WithTop ℕ) :=
  toPiasters (text fd key)

/-! ### From the form to the API -/

/-- A number or null as `JSON.stringify` writes it: infinity is written as null. -/
def stringify : Option (WithTop ℕ) → Option ℕ
  | some (some n) => some n
  | _ => none

/-- A price as the API decodes it: `readNumber` is the int64 that Go reads of a number in JavaScript's
notation, if it is one. -/
def decodePrice (readNumber : ℕ → Option Int64) : Option ℕ → Option (Field Int64)
  | none => some .null
  | some n => (readNumber n).map .value

/-- The unit form's payload as the API decodes it: the price, beside the other members. -/
def payload (readNumber : ℕ → Option Int64) (fd : FormData) (others : UnitInput) : Option UnitInput :=
  (decodePrice readNumber (stringify (nullablePiasters fd "nightly_price"))).map
    (fun price => { others with nightlyPrice := price })

example : toPiasters "14,550.5" = some (WithTop.some 1455050) ∧
    toPiasters "١٬٢٠٠٫٥" = some (WithTop.some 120050) ∧ toPiasters "1e5" = none := by decide +kernel

/-! ### What is an amount -/

/-- The least whole number of pounds whose piasters are no finite double. -/
def tooManyPounds : ℕ := 11529215046068469 * 2 ^ 964 + 1

/-- Digits, then up to two decimals, in the typed text once it is cleaned; and not too many. -/
def IsAmount (pounds : String) : Prop :=
  ∃ whole frac : List Char, whole ≠ [] ∧ (∀ c ∈ whole, c.isDigit = true) ∧
    (∀ c ∈ frac, c.isDigit = true) ∧ frac.length ≤ 2 ∧
    clean pounds = (if frac = [] then whole else whole ++ '.' :: frac) ∧
    digitsValue whole < tooManyPounds

/-! ### The pattern -/

/-- The decimals that the pattern takes. -/
theorem mem_run_decimals {s t : List Char} :
    t ∈ (Regex.alt (.seq (.text ['.']) (.seq digit (.alt digit .eps))) .eps).run s ↔
      ∃ frac : List Char, (∀ c ∈ frac, c.isDigit = true) ∧ frac.length ≤ 2 ∧
        s = (if frac = [] then [] else '.' :: frac) ++ t := by
  constructor
  · intro h
    rcases Regex.mem_run_alt.mp h with hpoint | hnone
    · obtain ⟨u, hu, hdecimals⟩ := Regex.mem_run_seq.mp hpoint
      obtain rfl := Regex.mem_run_text.mp hu
      obtain ⟨v, hv, hsecond⟩ := Regex.mem_run_seq.mp hdecimals
      obtain ⟨c, hc, rfl⟩ := Regex.mem_run_chars.mp hv
      rcases Regex.mem_run_alt.mp hsecond with htwo | hone
      · obtain ⟨d, hd, rfl⟩ := Regex.mem_run_chars.mp htwo
        exact ⟨[c, d], by simp [hc, hd], by simp, by simp⟩
      · obtain rfl := List.mem_singleton.mp hone
        exact ⟨[c], by simp [hc], by simp, by simp⟩
    · obtain rfl := List.mem_singleton.mp hnone
      exact ⟨[], by simp, by simp, by simp⟩
  · intro h
    obtain ⟨frac, hdigits, hlength, rfl⟩ := h
    rw [Regex.mem_run_alt]
    match frac, hdigits, hlength with
    | [], _, _ => exact Or.inr (List.mem_singleton_self t)
    | [c], hdigits, _ =>
      refine Or.inl (Regex.mem_run_seq.mpr ⟨c :: t, Regex.mem_run_text.mpr rfl, ?_⟩)
      refine Regex.mem_run_seq.mpr ⟨t, Regex.mem_run_chars.mpr ⟨c, hdigits c (by simp), rfl⟩, ?_⟩
      exact Regex.mem_run_alt.mpr (Or.inr (List.mem_singleton_self t))
    | [c, d], hdigits, _ =>
      refine Or.inl (Regex.mem_run_seq.mpr ⟨c :: d :: t, Regex.mem_run_text.mpr rfl, ?_⟩)
      refine Regex.mem_run_seq.mpr ⟨d :: t, Regex.mem_run_chars.mpr ⟨c, hdigits c (by simp), rfl⟩, ?_⟩
      exact Regex.mem_run_alt.mpr (Or.inl (Regex.mem_run_chars.mpr ⟨d, hdigits d (by simp), rfl⟩))

/-- **The texts the pattern admits.** -/
theorem amountPattern_iff {s : List Char} : amountPattern.test s ↔
    ∃ whole frac : List Char, whole ≠ [] ∧ (∀ c ∈ whole, c.isDigit = true) ∧
      (∀ c ∈ frac, c.isDigit = true) ∧ frac.length ≤ 2 ∧
      s = (if frac = [] then whole else whole ++ '.' :: frac) := by
  rw [Regex.test_iff, amountPattern]
  constructor
  · intro h
    obtain ⟨t, ht⟩ := h
    obtain ⟨u, hu, hrest⟩ := Regex.mem_run_seq.mp ht
    obtain ⟨whole, hne, rfl, hwhole⟩ := Regex.mem_run_plus_chars.mp hu
    obtain ⟨v, hv, hend⟩ := Regex.mem_run_seq.mp hrest
    obtain ⟨frac, hfrac, hlength, rfl⟩ := mem_run_decimals.mp hv
    obtain ⟨-, rfl⟩ := Regex.mem_run_atEnd.mp hend
    refine ⟨whole, frac, hne, hwhole, hfrac, hlength, ?_⟩
    by_cases hnil : frac = []
    · simp [hnil]
    · simp [hnil]
  · intro h
    obtain ⟨whole, frac, hne, hwhole, hfrac, hlength, rfl⟩ := h
    refine ⟨[], Regex.mem_run_seq.mpr ⟨if frac = [] then [] else '.' :: frac, ?_, ?_⟩⟩
    · refine Regex.mem_run_plus_chars.mpr ⟨whole, hne, ?_, hwhole⟩
      by_cases hnil : frac = []
      · simp [hnil]
      · simp [hnil]
    · refine Regex.mem_run_seq.mpr ⟨[], mem_run_decimals.mpr ⟨frac, hfrac, hlength, ?_⟩, ?_⟩
      · rw [List.append_nil]
      · exact Regex.mem_run_atEnd.mpr ⟨rfl, rfl⟩

/-! ### The amount -/

theorem digitsValue_concat (digits : List Char) (c : Char) :
    digitsValue (digits ++ [c]) = 10 * digitsValue digits + (c.toNat - 0x30) := by
  rw [digitsValue, List.foldl_append]
  rfl

theorem isDigit_toNat {c : Char} (h : c.isDigit = true) : 0x30 ≤ c.toNat ∧ c.toNat ≤ 0x39 := by
  rw [Char.isDigit, Bool.and_eq_true, decide_eq_true_eq, decide_eq_true_eq] at h
  exact h

theorem digitsValue_lt {digits : List Char} (h : ∀ c ∈ digits, c.isDigit = true) :
    digitsValue digits < 10 ^ digits.length := by
  induction digits using List.reverseRecOn with
  | nil => decide
  | append_singleton digits c ih =>
    obtain ⟨-, hc⟩ := isDigit_toNat (h c (by simp))
    have hrest := ih (fun d hd => h d (List.mem_append_left _ hd))
    rw [digitsValue_concat, List.length_append, List.length_singleton, Nat.pow_succ]
    omega

/-- The two digits of the decimals. -/
theorem decimals_lt {frac : List Char} (hdigits : ∀ c ∈ frac, c.isDigit = true)
    (hlength : frac.length ≤ 2) : digitsValue (frac.rightpad 2 '0') < 2 ^ 53 := by
  have hpadded : ∀ c ∈ frac.rightpad 2 '0', c.isDigit = true := by
    intro c hc
    rcases List.mem_append.mp hc with hc | hc
    · exact hdigits c hc
    · rw [(List.mem_replicate.mp hc).2]
      decide
  have hlen : (frac.rightpad 2 '0').length = 2 := by
    rw [List.length_rightpad]
    omega
  have hlt := digitsValue_lt hpadded
  rw [hlen] at hlt
  exact hlt.trans (by decide)

/-- The parts of an amount. -/
theorem splitOnP_amount {whole frac : List Char} (hwhole : ∀ c ∈ whole, c.isDigit = true)
    (hfrac : ∀ c ∈ frac, c.isDigit = true) :
    (if frac = [] then whole else whole ++ '.' :: frac).splitOnP (fun c => c == '.')
      = if frac = [] then [whole] else [whole, frac] := by
  have hpoint : ∀ l : List Char, (∀ c ∈ l, c.isDigit = true) → ∀ c ∈ l, (c == '.') = false := by
    intro l hl c hc
    have hdigit := hl c hc
    rw [beq_eq_false_iff_ne]
    rintro rfl
    exact absurd hdigit (by decide)
  by_cases hnil : frac = []
  · rw [if_pos hnil, if_pos hnil, List.splitOnP_eq_singleton (hpoint whole hwhole)]
  · rw [if_neg hnil, if_neg hnil,
      List.splitOnP_append_cons_of_forall_mem (hpoint whole hwhole) '.' rfl,
      List.splitOnP_eq_singleton (hpoint frac hfrac)]

/-- What is read of digits and up to two decimals. -/
theorem toPiasters_amount {pounds : String} {whole frac : List Char} (hne : whole ≠ [])
    (hwhole : ∀ c ∈ whole, c.isDigit = true) (hfrac : ∀ c ∈ frac, c.isDigit = true)
    (hlength : frac.length ≤ 2)
    (hclean : clean pounds = (if frac = [] then whole else whole ++ '.' :: frac)) :
    toPiasters pounds = some (Binary64.add (Binary64.scale 100 (number whole))
      (number (frac.rightpad 2 '0'))) := by
  have htest : amountPattern.test (clean pounds) :=
    amountPattern_iff.mpr ⟨whole, frac, hne, hwhole, hfrac, hlength, hclean⟩
  rw [toPiasters, if_pos htest, hclean, splitOnP_amount hwhole hfrac]
  by_cases hnil : frac = []
  · rw [hnil]
    rfl
  · rw [if_neg hnil]
    rfl

/-- Where the piasters of whole pounds overflow. -/
theorem overflow_le_iff {n : ℕ} :
    Binary64.overflow ≤ Binary64.roundNat n * 100 ↔ tooManyPounds ≤ n := by
  have hbelow : Binary64.roundNat (tooManyPounds - 1) * 100 < Binary64.overflow := by decide +kernel
  have habove : Binary64.overflow ≤ Binary64.roundNat tooManyPounds * 100 := by decide +kernel
  constructor
  · intro h
    by_contra hlt
    have hle := Binary64.roundNat_mono (show n ≤ tooManyPounds - 1 by omega)
    omega
  · intro h
    exact habove.trans (Nat.mul_le_mul_right _ (Binary64.roundNat_mono h))

/-- **What is sent as a number.** -/
theorem stringify_toPiasters_iff {pounds : String} :
    stringify (toPiasters pounds) ≠ none ↔ IsAmount pounds := by
  constructor
  · intro h
    by_cases htest : amountPattern.test (clean pounds)
    · obtain ⟨whole, frac, hne, hwhole, hfrac, hlength, hclean⟩ := amountPattern_iff.mp htest
      refine ⟨whole, frac, hne, hwhole, hfrac, hlength, hclean, not_le.mp (fun hmany => h ?_)⟩
      rw [toPiasters_amount hne hwhole hfrac hlength hclean, number, number,
        (Binary64.add_scale_eq_top_iff (by decide) (decimals_lt hfrac hlength)).mpr
          (overflow_le_iff.mpr hmany)]
      rfl
    · rw [toPiasters, if_neg htest] at h
      exact absurd rfl h
  · intro h
    obtain ⟨whole, frac, hne, hwhole, hfrac, hlength, hclean, hfew⟩ := h
    have hfinite : Binary64.add (Binary64.scale 100 (number whole)) (number (frac.rightpad 2 '0'))
        ≠ ⊤ := by
      intro htop
      have hmany := (Binary64.add_scale_eq_top_iff (by decide) (decimals_lt hfrac hlength)).mp htop
      exact absurd (overflow_le_iff.mp hmany) (not_le.mpr hfew)
    obtain ⟨n, hn⟩ := WithTop.ne_top_iff_exists.mp hfinite
    rw [toPiasters_amount hne hwhole hfrac hlength hclean, ← hn]
    exact Option.some_ne_none n

end Web

end Sahel

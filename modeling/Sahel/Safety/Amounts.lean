import Mathlib.Algebra.Order.Field.Rat
import Mathlib.Tactic.Linarith
import Mathlib.Tactic.FieldSimp
import Mathlib.Tactic.Ring
import Sahel.Web.Money

/-!
# Amounts that are typed

What `toPiasters` makes of every text: a number of the cleaned decimal numerals, and of nothing else,
and of a numeral exactly a hundred times its value.

* `Denotes` is a decimal numeral and its value;
* `Spelling` are the ways of writing one amount: grouping, spacing, and the digits of other scripts;
* **`piasters_exact`**: all of it.
-/

set_option autoImplicit false

namespace Sahel

namespace Web

/-! ### Numerals -/

/-- At least one digit, and after an optional point one or two more; the value it stands for. -/
def Denotes (s : List Char) (q : ℚ) : Prop :=
  ∃ whole frac : List Char, whole ≠ [] ∧ (∀ c ∈ whole, c.isDigit = true) ∧
    (∀ c ∈ frac, c.isDigit = true) ∧ frac.length ≤ 2 ∧
    s = (if frac = [] then whole else whole ++ '.' :: frac) ∧
    q = digitsValue whole + digitsValue frac / 10 ^ frac.length

/-- Decimals filled up with zeros are hundredths. -/
theorem digitsValue_rightpad {frac : List Char} (h : frac.length ≤ 2) :
    (digitsValue (frac.rightpad 2 '0') : ℚ) = 100 * (digitsValue frac / 10 ^ frac.length) := by
  have hzero : ∀ l : List Char, digitsValue (l ++ ['0']) = 10 * digitsValue l := by
    intro l
    rw [digitsValue_concat]
    rfl
  match frac, h with
  | [], _ =>
    have hnone : digitsValue ([].rightpad 2 '0') = 0 ∧ digitsValue [] = 0 := ⟨rfl, rfl⟩
    rw [hnone.1, hnone.2]
    norm_num
  | [c], _ =>
    have hone : digitsValue ([c].rightpad 2 '0') = 10 * digitsValue [c] := hzero [c]
    rw [hone, List.length_singleton]
    push_cast
    ring
  | [c, d], _ =>
    have htwo : [c, d].rightpad 2 '0' = [c, d] := rfl
    have hlen : [c, d].length = 2 := rfl
    rw [htwo, hlen]
    ring

/-- A number is answered for the numerals. -/
theorem toPiasters_isSome_iff {pounds : String} :
    (toPiasters pounds).isSome = true ↔ ∃ q, Denotes (clean pounds) q := by
  constructor
  · intro h
    by_cases htest : amountPattern.test (clean pounds)
    · obtain ⟨whole, frac, hne, hwhole, hfrac, hlength, hclean⟩ := amountPattern_iff.mp htest
      exact ⟨_, whole, frac, hne, hwhole, hfrac, hlength, hclean, rfl⟩
    · rw [toPiasters, if_neg htest] at h
      cases h
  · intro h
    obtain ⟨q, whole, frac, hne, hwhole, hfrac, hlength, hclean, -⟩ := h
    rw [toPiasters_amount hne hwhole hfrac hlength hclean]
    rfl

/-- **It is exact**: below 2⁵³ no step rounds. -/
theorem toPiasters_exact {pounds : String} {q : ℚ} (h : Denotes (clean pounds) q)
    (hq : 100 * q < 2 ^ 53) : ∃ n : ℕ, toPiasters pounds = some (WithTop.some n) ∧ (n : ℚ) = 100 * q := by
  obtain ⟨whole, frac, hne, hwhole, hfrac, hlength, hclean, rfl⟩ := h
  have hpad := digitsValue_rightpad hlength
  have hvalue : ((digitsValue whole * 100 + digitsValue (frac.rightpad 2 '0') : ℕ) : ℚ)
      = 100 * (digitsValue whole + digitsValue frac / 10 ^ frac.length) := by
    push_cast
    rw [hpad]
    ring
  have hsum : digitsValue whole * 100 + digitsValue (frac.rightpad 2 '0') < 2 ^ 53 := by
    rw [← hvalue] at hq
    exact_mod_cast hq
  refine ⟨digitsValue whole * 100 + digitsValue (frac.rightpad 2 '0'), ?_, hvalue⟩
  rw [toPiasters_amount hne hwhole hfrac hlength hclean, number, number, Binary64.ofNat_eq (by omega),
    Binary64.ofNat_eq (by omega)]
  show some (Binary64.add (Binary64.ofNat (digitsValue whole * 100)) _) = _
  rw [Binary64.ofNat_eq (by omega)]
  exact congrArg some (Binary64.ofNat_eq (by omega))

/-! ### Spellings -/

/-- What is typed for a text: its characters, with separators and blanks between them, its digits
in other scripts, its point as the Arabic separator. -/
inductive Spelling : List Char → List Char → Prop where
  | nil : Spelling [] []
  | same {s t} (c : Char) (h : Spelling s t) : Spelling (c :: s) (c :: t)
  | grouped {s t} (c : Char) (hc : isGrouping c = true) (h : Spelling s t) : Spelling s (c :: t)
  | arabicIndic {s t} (n : ℕ) (hn : n < 10) (h : Spelling s t) :
    Spelling (Char.ofNat (0x30 + n) :: s) (Char.ofNat (0x0660 + n) :: t)
  | eastern {s t} (n : ℕ) (hn : n < 10) (h : Spelling s t) :
    Spelling (Char.ofNat (0x30 + n) :: s) (Char.ofNat (0x06F0 + n) :: t)
  | point {s t} (h : Spelling s t) : Spelling ('.' :: s) ('٫' :: t)

/-- What is left of one character. -/
def cleanChar (c : Char) : List Char :=
  ([latinDigit 0x06F0 (latinDigit 0x0660 c)].map (fun c => if c == '٫' then '.' else c)).filter
    (fun c => ! isGrouping c)

theorem clean_cons (c : Char) (s : List Char) :
    clean (String.ofList (c :: s)) = cleanChar c ++ clean (String.ofList s) := by
  rw [clean, clean, String.toList_ofList, String.toList_ofList, cleanChar, ← List.filter_append]
  rfl

/-- Nothing is left of a separator or a blank. -/
theorem cleanChar_grouping {c : Char} (h : isGrouping c = true) : cleanChar c = [] := by
  have hnat : c.toNat < 0x660 ∨ c.toNat = 0x66C ∨ 0x6F9 < c.toNat := by
    have hgroup := h
    simp only [isGrouping, isBlank, Bool.or_eq_true, Bool.and_eq_true, beq_iff_eq, decide_eq_true_eq] at hgroup
    rcases hgroup with (rfl | rfl) | hblank
    · exact Or.inl (by decide)
    · exact Or.inr (Or.inl rfl)
    · omega
  have hdigit : ∀ first, first = 0x660 ∨ first = 0x6F0 → latinDigit first c = c :=
    fun first hfirst => if_neg (by omega)
  have hpoint : (c == '٫') = false := by
    rw [beq_eq_false_iff_ne]
    rintro rfl
    have hcode : ('٫').toNat = 0x66B := rfl
    omega
  rw [cleanChar, hdigit 0x660 (Or.inl rfl), hdigit 0x6F0 (Or.inr rfl), List.map_singleton, hpoint]
  show [c].filter (fun c => ! isGrouping c) = []
  rw [List.filter_singleton, h]
  rfl

/-- Spellings of one text clean to the same. -/
theorem clean_spelling {s t : List Char} (h : Spelling s t) :
    clean (String.ofList t) = clean (String.ofList s) := by
  induction h with
  | nil => rfl
  | same c _ ih => rw [clean_cons, clean_cons, ih]
  | grouped c hc _ ih => rw [clean_cons, cleanChar_grouping hc, ih, List.nil_append]
  | arabicIndic n hn _ ih =>
    have hdigit : ∀ n < 10, cleanChar (Char.ofNat (0x0660 + n)) = cleanChar (Char.ofNat (0x30 + n)) := by decide
    rw [clean_cons, clean_cons, ih, hdigit n hn]
  | eastern n hn _ ih =>
    have hdigit : ∀ n < 10, cleanChar (Char.ofNat (0x06F0 + n)) = cleanChar (Char.ofNat (0x30 + n)) := by decide
    rw [clean_cons, clean_cons, ih, hdigit n hn]
  | point _ ih =>
    have hpoint : cleanChar '٫' = cleanChar '.' := by decide
    rw [clean_cons, clean_cons, ih, hpoint]

/-! ### Amounts are read exactly -/

/-- **Typed amounts are read exactly**: a number is answered for the texts that clean to a decimal
numeral, and for no others; it is a hundred times the numeral while that is below 2⁵³; and texts that
clean to numerals of one value, or are spellings of one text, are read alike. -/
theorem piasters_exact :
    (∀ pounds, (toPiasters pounds).isSome = true ↔ ∃ q, Denotes (clean pounds) q) ∧
      (∀ pounds q, Denotes (clean pounds) q → 100 * q < 2 ^ 53 →
        ∃ n : ℕ, toPiasters pounds = some (WithTop.some n) ∧ (n : ℚ) = 100 * q) ∧
      (∀ pounds pounds' q, Denotes (clean pounds) q → Denotes (clean pounds') q → 100 * q < 2 ^ 53 →
        toPiasters pounds = toPiasters pounds') ∧
      ∀ amount typed : String, Spelling amount.toList typed.toList →
        toPiasters typed = toPiasters amount := by
  refine ⟨fun pounds => toPiasters_isSome_iff, fun pounds q h hq => toPiasters_exact h hq,
    fun pounds pounds' q h h' hq => ?_, fun amount typed h => ?_⟩
  · obtain ⟨n, hn, hvalue⟩ := toPiasters_exact h hq
    obtain ⟨n', hn', hvalue'⟩ := toPiasters_exact h' hq
    have heq : n = n' := by exact_mod_cast hvalue.trans hvalue'.symm
    rw [hn, hn', heq]
  · have hclean := clean_spelling h
    rw [String.ofList_toList, String.ofList_toList] at hclean
    rw [toPiasters, toPiasters, hclean]

/-- Of an amount typed in Arabic digits. -/
theorem piasters_exact_arabic :
    toPiasters "١٬٢٠٠٫٥" = toPiasters "1200.5" ∧
      ∃ n : ℕ, toPiasters "1200.5" = some (WithTop.some n) ∧ (n : ℚ) = 100 * (1200 + 5 / 10) := by
  have hspelling : Spelling "1200.5".toList "١٬٢٠٠٫٥".toList :=
    .arabicIndic 1 (by decide) (.grouped _ (by decide) (.arabicIndic 2 (by decide) (.arabicIndic 0 (by decide)
      (.arabicIndic 0 (by decide) (.point (.arabicIndic 5 (by decide) .nil))))))
  have hnumeral : Denotes (clean "1200.5") (1200 + 5 / 10) := by
    refine ⟨"1200".toList, "5".toList, by decide, List.all_eq_true.mp (by decide),
      List.all_eq_true.mp (by decide), by decide, by decide, ?_⟩
    have hvalues : digitsValue "1200".toList = 1200 ∧ digitsValue "5".toList = 5 ∧ "5".toList.length = 1 := by
      decide
    rw [hvalues.1, hvalues.2.1, hvalues.2.2]
    norm_num
  exact ⟨piasters_exact.2.2.2 _ _ hspelling, piasters_exact.2.1 _ _ hnumeral (by norm_num)⟩

end Web

end Sahel

import Sahel.Domain.Calendar
import Mathlib.Tactic.IntervalCases

/-!
# Dates as text

The API sends a date as `YYYY-MM-DD` and the browser compares such texts as strings and reads them
back as days.  Both are safe for the dates of the years 0 to 9999:

* `digits_lt_iff`: numbers of one width are ordered as their digits;
* `civil_lex`: the civil calendar counts days in the order of year, month and day, and
  `civilDate_civil` is its inverse;
* **`formatDate_lt_iff`**: the texts of two dates are ordered as the dates;
* **`parseDate_formatDate`**: a printed date reads back, and `fourDigit_of_parseDate` says which
  dates can be read.
-/

set_option autoImplicit false

namespace Sahel

/-! ### Digits of one width -/

/-- The last `w` decimal digits of a number. -/
def digits : ℕ → ℕ → List Char
  | 0, _ => []
  | w + 1, n => digits w (n / 10) ++ [Nat.digitChar (n % 10)]

theorem digits_zero (w : ℕ) : digits w 0 = List.replicate w '0' := by
  induction w with
  | zero => rfl
  | succ w ih =>
    rw [digits, Nat.zero_div, ih, List.replicate_succ']
    rfl

@[simp] theorem length_digits (w n : ℕ) : (digits w n).length = w := by
  induction w generalizing n with
  | zero => rfl
  | succ w ih => simp [digits, ih]

/-- A padded number is its digits. -/
theorem toList_padded {w n : ℕ} (h : n < 10 ^ (w + 1)) :
    (padded (w + 1) n).toList = digits (w + 1) n := by
  rw [padded, String.toList_ofList]
  induction w generalizing n with
  | zero =>
    rw [Nat.toDigits_of_lt_base (by omega), digits, digits, Nat.mod_eq_of_lt (by omega)]
    rfl
  | succ w ih =>
    rw [digits, Nat.toDigits_eq_if (by decide)]
    split
    · rename_i hn
      rw [Nat.mod_eq_of_lt hn, Nat.div_eq_of_lt hn, digits_zero]
      rfl
    · have hq : n / 10 < 10 ^ (w + 1) := by
        rw [Nat.div_lt_iff_lt_mul (by decide), ← Nat.pow_succ]
        exact h
      rw [← ih hq, List.leftpad, List.leftpad, List.length_append, List.length_singleton,
        Nat.add_sub_add_right, List.append_assoc]

/-- Texts with fronts of one length compare by their fronts first. -/
theorem append_lt_append_iff {l₁ l₂ s t : List Char} (h : l₁.length = l₂.length) :
    l₁ ++ s < l₂ ++ t ↔ l₁ < l₂ ∨ l₁ = l₂ ∧ s < t := by
  induction l₁ generalizing l₂ with
  | nil =>
    rw [List.length_nil] at h
    rw [List.eq_nil_of_length_eq_zero h.symm]
    simp
  | cons a l₁ ih =>
    cases l₂ with
    | nil => cases h
    | cons b l₂ =>
      rw [List.cons_append, List.cons_append, List.cons_lt_cons_iff, List.cons_lt_cons_iff,
        ih (Nat.succ_injective h), List.cons.injEq]
      constructor
      · rintro (hab | ⟨rfl, hl | ⟨rfl, hst⟩⟩)
        · exact Or.inl (Or.inl hab)
        · exact Or.inl (Or.inr ⟨rfl, hl⟩)
        · exact Or.inr ⟨⟨rfl, rfl⟩, hst⟩
      · rintro ((hab | ⟨rfl, hl⟩) | ⟨⟨rfl, rfl⟩, hst⟩)
        · exact Or.inl hab
        · exact Or.inr ⟨rfl, Or.inl hl⟩
        · exact Or.inr ⟨rfl, Or.inr ⟨rfl, hst⟩⟩

theorem digitChar_lt_iff {a b : ℕ} (ha : a < 10) (hb : b < 10) :
    Nat.digitChar a < Nat.digitChar b ↔ a < b := by
  have h : ∀ a < 10, ∀ b < 10, Nat.digitChar a < Nat.digitChar b ↔ a < b := by decide
  exact h a ha b hb

theorem digitChar_inj {a b : ℕ} (ha : a < 10) (hb : b < 10) :
    Nat.digitChar a = Nat.digitChar b ↔ a = b := by
  have h : ∀ a < 10, ∀ b < 10, Nat.digitChar a = Nat.digitChar b ↔ a = b := by decide
  exact h a ha b hb

theorem digits_inj {w n m : ℕ} (hn : n < 10 ^ w) (hm : m < 10 ^ w) :
    digits w n = digits w m ↔ n = m := by
  induction w generalizing n m with
  | zero => simp [digits]; omega
  | succ w ih =>
    rw [Nat.pow_succ] at hn hm
    constructor
    · intro h
      obtain ⟨hfront, hlast⟩ := List.append_inj h (by simp)
      rw [ih (by omega) (by omega)] at hfront
      rw [List.singleton_inj, digitChar_inj (Nat.mod_lt n (by decide)) (Nat.mod_lt m (by decide))]
        at hlast
      omega
    · rintro rfl
      rfl

/-- **Numbers of one width are ordered as their digits.** -/
theorem digits_lt_iff {w n m : ℕ} (hn : n < 10 ^ w) (hm : m < 10 ^ w) :
    digits w n < digits w m ↔ n < m := by
  induction w generalizing n m with
  | zero => simp [digits]; omega
  | succ w ih =>
    rw [Nat.pow_succ] at hn hm
    have hlast : [Nat.digitChar (n % 10)] < [Nat.digitChar (m % 10)] ↔ n % 10 < m % 10 := by
      rw [List.cons_lt_cons_iff]
      simp [digitChar_lt_iff (Nat.mod_lt n (by decide)) (Nat.mod_lt m (by decide))]
    rw [digits, digits, append_lt_append_iff (by simp), ih (by omega) (by omega),
      digits_inj (by omega) (by omega), hlast]
    omega

/-! ### The civil calendar -/

/-- The parts of a date: its year from March on, the day of that year, the month of that year. -/
structure MarchYear (date year day month : ℤ) : Prop where
  date_eq : date + 719468 = 365 * year + year / 4 - year / 100 + year / 400 + day
  day_ge : 0 ≤ day
  day_le : day ≤ 365
  leap : day = 365 → (year + 1) % 4 = 0 ∧ ((year + 1) % 100 ≠ 0 ∨ (year + 1) % 400 = 0)
  month_eq : month = (5 * day + 2) / 153
  civil_eq : civil date = (year + (if (if month < 10 then month + 3 else month - 9) ≤ 2 then 1 else 0),
    (if month < 10 then month + 3 else month - 9).toNat,
    (day - (153 * month + 2) / 5 + 1).toNat)

theorem doy_bounds {doe e f g b c d : ℤ} (h0 : 0 ≤ doe) (h1 : doe < 146097)
    (he : e = doe / 1460) (hf : f = doe / 36524) (hg : g = doe / 146096)
    (hb : b = (doe - e + f - g) / 365) (hc : c = b / 4) (hd : d = b / 100) :
    0 ≤ b ∧ b ≤ 399 ∧ 0 ≤ doe - (365 * b + c - d) ∧ doe - (365 * b + c - d) ≤ 365 ∧
      (doe - (365 * b + c - d) = 365 → b % 4 = 3 ∧ (b % 100 ≠ 99 ∨ b = 399)) := by
  -- Leap days met are the leap years passed, up to one of either kind.
  have hec : e = c ∨ e = c + 1 := by omega
  have hfd : f = d ∨ f = d + 1 := by omega
  have hk : b = 4 * c ∨ b = 4 * c + 1 ∨ b = 4 * c + 2 ∨ b = 4 * c + 3 := by omega
  refine ⟨by omega, by omega, ?_, ?_, fun h => ⟨?_, ?_⟩⟩
  · rcases hec with h | h <;> rcases hfd with h' | h' <;> omega
  · rcases hec with h | h <;> rcases hfd with h' | h' <;> omega
  · rcases hec with h | h <;> rcases hfd with h' | h' <;> omega
  · by_contra hn
    rw [not_or, not_not] at hn
    have hc' : c = 25 * d + 24 := by omega
    rcases hec with h | h <;> rcases hfd with h' | h' <;> omega

theorem exists_marchYear (date : ℤ) : ∃ year day month, MarchYear date year day month := by
  obtain ⟨era, hera⟩ : ∃ era, era = (date + 719468) / 146097 := ⟨_, rfl⟩
  obtain ⟨doe, hdoe⟩ : ∃ doe, doe = date + 719468 - era * 146097 := ⟨_, rfl⟩
  obtain ⟨yoe, hyoe⟩ : ∃ yoe, yoe = (doe - doe / 1460 + doe / 36524 - doe / 146096) / 365 := ⟨_, rfl⟩
  obtain ⟨hy0, hy399, hd0, hd365, hleap⟩ :=
    doy_bounds (show 0 ≤ doe by omega) (by omega) rfl rfl rfl hyoe rfl rfl
  have h4 : (yoe + era * 400) / 4 = yoe / 4 + 100 * era := by omega
  have h100 : (yoe + era * 400) / 100 = yoe / 100 + 4 * era := by omega
  have h400 : (yoe + era * 400) / 400 = era := by omega
  refine ⟨yoe + era * 400, doe - (365 * yoe + yoe / 4 - yoe / 100), _, ?_, hd0, hd365, ?_, rfl, ?_⟩
  · omega
  · intro h
    have hyear := hleap h
    omega
  · subst hyoe hdoe hera
    rfl

/-- March to December belong to the year itself, January and February to the next. -/
theorem MarchYear.civil {date year day month : ℤ} (h : MarchYear date year day month) :
    0 ≤ month ∧ month ≤ 11 ∧
    (month < 10 ∧ Sahel.civil date
        = (year, (month + 3).toNat, (day - (153 * month + 2) / 5 + 1).toNat) ∨
      10 ≤ month ∧ Sahel.civil date
        = (year + 1, (month - 9).toNat, (day - (153 * month + 2) / 5 + 1).toNat)) := by
  have h₁ := h.day_ge
  have h₂ := h.day_le
  have h₃ := h.month_eq
  refine ⟨by omega, by omega, ?_⟩
  rw [h.civil_eq]
  by_cases hm : month < 10
  · refine Or.inl ⟨hm, ?_⟩
    rw [if_pos hm, if_neg (by omega), add_zero]
  · refine Or.inr ⟨by omega, ?_⟩
    rw [if_neg hm, if_pos (by omega)]

/-- **Days run in the order of year, month and day.** -/
theorem civil_lex {a b : ℤ} (h : a < b) :
    (civil a).1 < (civil b).1 ∨ (civil a).1 = (civil b).1 ∧
      ((civil a).2.1 < (civil b).2.1 ∨ (civil a).2.1 = (civil b).2.1 ∧
        (civil a).2.2 < (civil b).2.2) := by
  obtain ⟨y, d, m, ha⟩ := exists_marchYear a
  obtain ⟨y', d', m', hb⟩ := exists_marchYear b
  have hyear : y < y' ∨ y = y' ∧ d < d' := by
    have h₁ := ha.date_eq
    have h₂ := hb.date_eq
    have h₃ := ha.day_ge
    have h₄ := ha.day_le
    have h₅ := hb.day_ge
    have h₆ := hb.day_le
    omega
  have hday := ha.day_ge
  have hm := ha.month_eq
  have hm' := hb.month_eq
  obtain ⟨hm0, hm11, hca⟩ := ha.civil
  obtain ⟨hm0', hm11', hcb⟩ := hb.civil
  rcases hca with ⟨hlow, ha⟩ | ⟨hhigh, ha⟩ <;> rcases hcb with ⟨hlow', hb⟩ | ⟨hhigh', hb⟩ <;>
    (rw [ha, hb]; simp only; omega)

theorem civil_bounds (date : ℤ) : 1 ≤ (civil date).2.1 ∧ (civil date).2.1 ≤ 12 ∧
    1 ≤ (civil date).2.2 ∧ (civil date).2.2 ≤ 31 := by
  obtain ⟨y, d, m, h⟩ := exists_marchYear date
  have h₁ := h.day_ge
  have h₂ := h.day_le
  have h₃ := h.month_eq
  obtain ⟨hm0, hm11, hc⟩ := h.civil
  rcases hc with ⟨hlow, hc⟩ | ⟨hhigh, hc⟩ <;> (rw [hc]; simp only; omega)

/-! ### The dates of four-digit years -/

/-- A date of the years 0 to 9999. -/
def FourDigit (date : ℤ) : Prop := -719528 ≤ date ∧ date ≤ 2932896

instance (date : ℤ) : Decidable (FourDigit date) := inferInstanceAs (Decidable (_ ∧ _))

theorem FourDigit.year {date : ℤ} (h : FourDigit date) :
    0 ≤ (civil date).1 ∧ (civil date).1 ≤ 9999 := by
  obtain ⟨y, d, m, hm⟩ := exists_marchYear date
  have h₀ := h.1
  have h₁ := h.2
  have h₂ := hm.date_eq
  have h₃ := hm.day_ge
  have h₄ := hm.day_le
  have h₅ := hm.month_eq
  obtain ⟨hm0, hm11, hc⟩ := hm.civil
  have hfirst : y = -1 ∨ 0 ≤ y := by omega
  have hlast : y = 9999 ∨ y < 9999 := by omega
  rcases hc with ⟨hlow, hc⟩ | ⟨hhigh, hc⟩
  · rw [hc]
    rcases hfirst with rfl | hfirst
    · omega
    · exact ⟨hfirst, by omega⟩
  · rw [hc]
    rcases hlast with rfl | hlast
    · omega
    · exact ⟨by omega, hlast⟩

/-! ### Order -/

/-- The text of a date of a four-digit year. -/
theorem toList_formatDate {date : ℤ} (h : FourDigit date) :
    (formatDate date).toList = digits 4 (civil date).1.toNat ++ ('-' :: digits 2 (civil date).2.1 ++
      '-' :: digits 2 (civil date).2.2) := by
  have hy := h.year
  have hmd := civil_bounds date
  rw [formatDate]
  simp only [String.toList_append]
  rw [toList_padded (by omega), toList_padded (by omega), toList_padded (by omega)]
  simp

/-- **The texts of two dates are ordered as the dates.** -/
theorem formatDate_lt_iff {a b : ℤ} (ha : FourDigit a) (hb : FourDigit b) :
    formatDate a < formatDate b ↔ a < b := by
  have hya := ha.year
  have hyb := hb.year
  have hma := civil_bounds a
  have hmb := civil_bounds b
  have hcons : ∀ s t : List Char, '-' :: s < '-' :: t ↔ s < t := by
    intro s t
    rw [List.cons_lt_cons_iff]
    simp
  rw [String.lt_iff, toList_formatDate ha, toList_formatDate hb, append_lt_append_iff (by simp),
    digits_lt_iff (by omega) (by omega), digits_inj (by omega) (by omega)]
  simp only [List.cons_append, hcons]
  rw [append_lt_append_iff (by simp), digits_lt_iff (by omega) (by omega),
    digits_inj (by omega) (by omega), hcons, digits_lt_iff (by omega) (by omega)]
  constructor
  · intro hlex
    by_contra hle
    rcases lt_or_eq_of_le (not_lt.mp hle) with hba | rfl
    · have := civil_lex hba
      omega
    · omega
  · intro hab
    have := civil_lex hab
    omega

theorem formatDate_le_iff {a b : ℤ} (ha : FourDigit a) (hb : FourDigit b) :
    formatDate a ≤ formatDate b ↔ a ≤ b := by
  rw [← String.not_lt, formatDate_lt_iff hb ha]
  exact Int.not_lt

/-! ### Round trip -/

theorem isLeap_iff {year : ℤ} :
    isLeap year = true ↔ year % 4 = 0 ∧ (year % 100 ≠ 0 ∨ year % 400 = 0) := by
  simp [isLeap]

/-- The days of a year before a month. -/
theorem sum_daysIn (year : ℤ) {month : ℕ} (h1 : 1 ≤ month) (h12 : month ≤ 12) :
    ((List.range (month - 1)).map (fun m => daysIn (m + 1) year)).sum =
      if month ≤ 2 then 31 * ((month : ℤ) - 1)
      else (if isLeap year then 60 else 59) + (153 * ((month : ℤ) - 3) + 2) / 5 := by
  cases hl : isLeap year <;> interval_cases month <;> simp [List.range_succ, daysIn, hl]

theorem daysIn_eq (year : ℤ) {month : ℕ} (h1 : 1 ≤ month) (h12 : month ≤ 12) :
    daysIn month year = if month = 2 then (if isLeap year then 29 else 28)
      else if month = 4 ∨ month = 6 ∨ month = 9 ∨ month = 11 then 30 else 31 := by
  cases hl : isLeap year <;> interval_cases month <;> simp [daysIn, hl]

/-- **The civil calendar loses nothing.** -/
theorem civilDate_civil (date : ℤ) :
    civilDate (civil date).1 (civil date).2.1 (civil date).2.2 = date ∧
      ((civil date).2.2 : ℤ) ≤ daysIn (civil date).2.1 (civil date).1 := by
  obtain ⟨y, d, m, hm⟩ := exists_marchYear date
  have hb := civil_bounds date
  have hleap : ∀ year, (if isLeap year then (60 : ℤ) else 59) = 59 + (if year % 4 = 0 ∧
      (year % 100 ≠ 0 ∨ year % 400 = 0) then 1 else 0) := by
    intro year
    by_cases hl : isLeap year = true
    · rw [if_pos hl, if_pos (isLeap_iff.mp hl)]
      rfl
    · rw [if_neg hl, if_neg (fun h => hl (isLeap_iff.mpr h))]
      rfl
  rw [civilDate, sum_daysIn _ hb.1 hb.2.1, daysIn_eq _ hb.1 hb.2.1, hleap]
  have h₁ := hm.date_eq
  have h₂ := hm.day_ge
  have h₃ := hm.day_le
  have h₄ := hm.month_eq
  obtain ⟨hm0, hm11, hc⟩ := hm.civil
  have h₅ := hm.leap
  have h₆ := hleap (y + 1)
  rcases hc with ⟨hlow, hc⟩ | ⟨hhigh, hc⟩
  · rw [hc]
    simp only [daysBeforeYear]
    constructor
    · rw [if_neg (by omega)]
      split <;> omega
    · rw [if_neg (by omega)]
      split <;> omega
  · rw [hc]
    simp only [daysBeforeYear]
    constructor
    · rw [if_pos (by omega)]
      omega
    · by_cases hfeb : m = 11
      · rw [if_pos (by omega)]
        split at h₆ <;> split <;> omega
      · rw [if_neg (by omega), if_neg (by omega)]
        omega

/-- Reading digits after `n`. -/
theorem foldlM_digits {w m : ℕ} (h : m < 10 ^ w) : ∀ n : ℕ,
    (digits w m).foldlM (fun n c => (digit? c).map (fun d => 10 * n + d)) n
      = some (n * 10 ^ w + m) := by
  induction w generalizing m with
  | zero =>
    intro n
    rw [digits]
    simp only [List.foldlM_nil, Nat.pow_zero, Nat.mul_one, Option.pure_def, Option.some.injEq]
    omega
  | succ w ih =>
    intro n
    rw [Nat.pow_succ] at h
    have hlast : ∀ d < 10, digit? (Nat.digitChar d) = some d := by decide
    rw [digits, List.foldlM_append, ih (by omega)]
    simp only [List.foldlM_cons, List.foldlM_nil, Option.bind_eq_bind, Option.bind_some,
      hlast _ (Nat.mod_lt m (by decide)), Option.map_some, Option.pure_def, Option.some.injEq,
      Nat.pow_succ, ← Nat.mul_assoc]
    omega

theorem number?_digits {w m : ℕ} (h : m < 10 ^ w) : number? (digits w m) = some m := by
  rw [number?, foldlM_digits h]
  simp

/-- **A printed date reads back.** -/
theorem parseDate_formatDate {date : ℤ} (h : FourDigit date) :
    parseDate (formatDate date) = some date := by
  obtain ⟨hdate, hlast⟩ := civilDate_civil date
  obtain ⟨hm1, hm12, hd1, hd31⟩ := civil_bounds date
  have hy := h.year
  have htext := toList_formatDate h
  simp only [digits, List.nil_append, List.cons_append] at htext
  have hyear := number?_digits (w := 4) (m := (civil date).1.toNat) (by omega)
  have hmonth := number?_digits (w := 2) (m := (civil date).2.1) (by omega)
  have hday := number?_digits (w := 2) (m := (civil date).2.2) (by omega)
  simp only [digits, List.nil_append, List.cons_append] at hyear hmonth hday
  rw [parseDate, htext]
  simp only [hyear, hmonth, hday, Option.bind_eq_bind, Option.bind_some]
  rw [Int.toNat_of_nonneg hy.1, if_pos ⟨hm1, hm12, hd1, hlast⟩, hdate]

/-- Digits read a number of their width. -/
theorem foldlM_lt {cs : List Char} : ∀ {n m : ℕ},
    cs.foldlM (fun n c => (digit? c).map (fun d => 10 * n + d)) n = some m →
      m < (n + 1) * 10 ^ cs.length := by
  induction cs with
  | nil =>
    intro n m h
    cases h
    simp
  | cons c cs ih =>
    intro n m h
    rw [List.foldlM_cons, Option.bind_eq_bind, Option.bind_eq_some_iff] at h
    obtain ⟨n', hn', hm⟩ := h
    obtain ⟨d, hd, rfl⟩ := Option.map_eq_some_iff.mp hn'
    have hd10 : d < 10 := by
      rw [digit?] at hd
      split_ifs at hd with hc
      cases hd
      have hle : c.toNat ≤ 57 := (Char.isDigit_iff_toNat.mp hc).2
      show c.toNat - 48 < 10
      omega
    calc m < (10 * n + d + 1) * 10 ^ cs.length := ih hm
      _ ≤ ((n + 1) * 10) * 10 ^ cs.length := Nat.mul_le_mul_right _ (by omega)
      _ = (n + 1) * 10 ^ (c :: cs).length := by
        rw [List.length_cons, Nat.pow_succ, Nat.mul_assoc, Nat.mul_comm 10]

theorem number?_lt {cs : List Char} {n : ℕ} (h : number? cs = some n) : n < 10 ^ cs.length := by
  have := foldlM_lt h
  omega

/-- **A date that was read is of a four-digit year.** -/
theorem fourDigit_of_parseDate {s : String} {date : ℤ} (h : parseDate s = some date) :
    FourDigit date := by
  unfold parseDate at h
  split at h
  · simp only [Option.bind_eq_bind, Option.bind_eq_some_iff] at h
    obtain ⟨y, hy, m, hm, d, hd, hif⟩ := h
    split_ifs at hif with hvalid
    cases hif
    have hy4 := number?_lt hy
    obtain ⟨hm1, hm12, hd1, hlast⟩ := hvalid
    simp only [List.length_cons, List.length_nil] at hy4
    have hyear : 0 ≤ daysBeforeYear y ∧
        daysBeforeYear y + (if isLeap y then 366 else 365) ≤ daysBeforeYear 10000 := by
      simp only [daysBeforeYear]
      split
      · rename_i hl
        have := isLeap_iff.mp hl
        omega
      · omega
    have hrest := sum_daysIn y hm1 hm12
    have hmonth := daysIn_eq y hm1 hm12
    have hend : daysBeforeYear 10000 = 3652425 ∧ daysBeforeYear 1970 = 719528 := by decide
    rw [FourDigit, civilDate, hrest]
    rw [hmonth] at hlast
    cases hl : isLeap y <;> rw [hl] at hyear hlast <;>
      simp only [Bool.false_eq_true, if_false, if_true] at hyear hlast ⊢ <;>
      interval_cases m <;> simp at hlast ⊢ <;> omega
  · cases h

theorem fourDigit_of_parseRange {s t : String} {m f u : ℤ} (h : parseRange s t m = .ok (f, u)) :
    FourDigit f ∧ FourDigit u := by
  unfold parseRange at h
  split at h
  · cases h
  · cases h
  · rename_i hf hu
    split_ifs at h
    cases h
    exact ⟨fourDigit_of_parseDate hf, fourDigit_of_parseDate hu⟩

end Sahel

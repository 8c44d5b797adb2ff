import Sahel.Library.Rfc4180
import Mathlib.Algebra.Order.Ring.Int

/-!
# The spreadsheet export

`toCsv` of `lib/admin/csv.ts`, on JavaScript strings: lists of UTF-16 code units.

* `Cell` is `string | number`, a number being an integer that a double holds exactly;
* `decoded` is what a reader of the file finds in a cell;
* **`csv_reads_back`**: the file has one reading, and that is the table.
-/

set_option autoImplicit false

namespace Sahel

namespace Web

/-- A string: its UTF-16 code units, unpaired surrogates included. -/
abbrev JsString : Type := List UInt16

/-- The code units of a text. -/
def utf16 (s : String) : JsString :=
  s.toList.flatMap (fun c =>
    if c.toNat < 65536 then [UInt16.ofNat c.toNat]
    else
      let n := c.toNat - 65536
      [UInt16.ofNat (55296 + n / 1024), UInt16.ofNat (56320 + n % 1024)])

/-- An integer below 2^53 in magnitude. -/
structure SafeInteger where
  val : ℤ
  safe : val.natAbs < 2 ^ 53

inductive Cell
  | text (s : JsString)
  | number (v : SafeInteger)

/-- `String(v)`: no exponent and no fraction below 2^53. -/
def SafeInteger.string (v : SafeInteger) : JsString := utf16 (toString v.val)

/-- Comma, double quote, carriage return and line feed. -/
def csvMarks : Rfc4180.Marks UInt16 where
  comma := 44
  quote := 34
  cr := 13
  lf := 10
  quote_ne_comma := by decide
  quote_ne_cr := by decide
  cr_ne_comma := by decide

/-- `=`, `+`, `-`, `@`, tab and carriage return. -/
def formulaMarks : List UInt16 := [61, 43, 45, 64, 9, 13]

def apostrophe : UInt16 := 39

def byteOrderMark : UInt16 := 65279

/-- `/^[=+\-@\t\r]/.test(s)` -/
def startsFormula (s : JsString) : Bool :=
  match s with
  | [] => false
  | c :: _ => formulaMarks.contains c

/-- `/[",\r\n]/.test(s)` -/
def needsQuotes (s : JsString) : Bool := s.any (fun c => [34, 44, 13, 10].contains c)

/-- `s.replaceAll('"', '""')` -/
def quotesTwice (s : JsString) : JsString := s.flatMap (fun c => if c = 34 then [34, 34] else [c])

def cell : Cell → JsString
  | .number v => v.string
  | .text v =>
    let s := if startsFormula v then apostrophe :: v else v
    if needsQuotes s then 34 :: (quotesTwice s ++ [34]) else s

def toCsv (rows : List (List Cell)) : JsString :=
  byteOrderMark :: ([13, 10].intercalate (rows.map (fun r => [44].intercalate (r.map cell))) ++ [13, 10])

/-! ### Cells -/

/-- A cell as it reads: a text that a spreadsheet would run has an apostrophe in front. -/
def decoded : Cell → JsString
  | .number v => utf16 (toString v.val)
  | .text s => if ∃ c ∈ formulaMarks, s.head? = some c then apostrophe :: s else s

theorem startsFormula_iff (s : JsString) : startsFormula s ↔ ∃ c ∈ formulaMarks, s.head? = some c := by
  cases s with
  | nil => simp [startsFormula]
  | cons c s => simp [startsFormula]

theorem needsQuotes_eq_false {s : JsString} (h : ¬ needsQuotes s) :
    ∀ c ∈ s, Rfc4180.TextData csvMarks c := by
  intro c hc
  have hnot : ¬ [34, 44, 13, 10].contains c := fun hmark => h (List.any_eq_true.mpr ⟨c, hc, hmark⟩)
  simp only [List.contains_cons, Bool.or_eq_true, beq_iff_eq, not_or] at hnot
  exact ⟨hnot.2.1, hnot.1, hnot.2.2.1, hnot.2.2.2.1⟩

/-- ASCII has one code unit for a character. -/
theorem mem_utf16_ascii {s : String} (h : ∀ c ∈ s.toList, c.toNat < 128) {u : UInt16}
    (hu : u ∈ utf16 s) : ∃ c ∈ s.toList, u = UInt16.ofNat c.toNat := by
  rw [utf16] at hu
  obtain ⟨c, hc, hu⟩ := List.mem_flatMap.mp hu
  have hsmall := h c hc
  rw [if_pos (by omega)] at hu
  exact ⟨c, hc, List.mem_singleton.mp hu⟩

/-- A decimal number is digits, with a sign before them. -/
theorem mem_toString {v : ℤ} {c : Char} (h : c ∈ (toString v).toList) :
    c.toNat = 45 ∨ (48 ≤ c.toNat ∧ c.toNat ≤ 57) := by
  have hdigit : ∀ n : ℕ, c ∈ n.repr.toList → 48 ≤ c.toNat ∧ c.toNat ≤ 57 := by
    intro n hn
    rw [Nat.toList_repr] at hn
    exact Char.isDigit_iff_toNat.mp (Nat.isDigit_of_mem_toDigits (by decide) (by decide) hn)
  rw [Int.toString_eq_repr, Int.repr_eq_if] at h
  split_ifs at h
  · exact Or.inr (hdigit _ h)
  · rw [String.toList_append, List.mem_append] at h
    obtain hsign | hn := h
    · have hc : c = Char.ofNat 45 := List.mem_singleton.mp hsign
      exact Or.inl (congrArg Char.toNat hc)
    · exact Or.inr (hdigit _ hn)

theorem string_textData (v : SafeInteger) : ∀ u ∈ v.string, Rfc4180.TextData csvMarks u := by
  intro u hu
  have hplain : ∀ n < 58, n = 45 ∨ 48 ≤ n → Rfc4180.TextData csvMarks (UInt16.ofNat n) := by
    intro n hn hrange
    have hall : ∀ n < 58, n = 45 ∨ 48 ≤ n → UInt16.ofNat n ≠ 44 ∧ UInt16.ofNat n ≠ 34 ∧
        UInt16.ofNat n ≠ 13 ∧ UInt16.ofNat n ≠ 10 := by decide
    exact hall n hn hrange
  have hascii : ∀ c ∈ (toString v.val).toList, c.toNat < 128 := by
    intro c hc
    have hrange := mem_toString hc
    omega
  obtain ⟨c, hc, rfl⟩ := mem_utf16_ascii hascii hu
  have hrange := mem_toString hc
  apply hplain
  · omega
  · omega

/-- **A cell is a field.** -/
theorem cell_field (v : Cell) : Rfc4180.Field csvMarks (cell v) (decoded v) := by
  cases v with
  | number v => exact Rfc4180.Field.plain (string_textData v)
  | text v =>
    have hguard : decoded (.text v) = if startsFormula v then apostrophe :: v else v := by
      simp only [decoded, startsFormula_iff]
    rw [hguard]
    show Rfc4180.Field csvMarks (if needsQuotes _ then _ else _) _
    by_cases hq : needsQuotes (if startsFormula v then apostrophe :: v else v)
    · rw [if_pos hq]
      exact Rfc4180.Field.escaped (Rfc4180.quoted_doubled _)
    · rw [if_neg hq]
      exact Rfc4180.Field.plain (needsQuotes_eq_false hq)

/-- The apostrophe starts no formula. -/
theorem decoded_head (s : JsString) : ∀ c ∈ formulaMarks, (decoded (.text s)).head? ≠ some c := by
  intro c hc hhead
  rw [decoded] at hhead
  split_ifs at hhead with hmark
  · obtain rfl := Option.some.inj hhead
    exact absurd hc (by decide)
  · exact hmark ⟨c, hc, hhead⟩

/-- **The export loses nothing and runs nothing.** -/
theorem csv_reads_back (rows : List (List Cell)) (hrows : rows ≠ []) (hcells : ∀ r ∈ rows, r ≠ []) :
    ∃ text, toCsv rows = byteOrderMark :: text ∧
      (∀ table, Rfc4180.File csvMarks text table ↔ table = rows.map (List.map decoded)) ∧
      ∀ r ∈ rows, ∀ s, Cell.text s ∈ r → ∀ c ∈ formulaMarks, (decoded (.text s)).head? ≠ some c := by
  have hfile := Rfc4180.file_joined hrows
    (fun r hr => Rfc4180.record_joined (hcells r hr) (fun c _ => cell_field c))
  refine ⟨_, rfl, ?_, fun r _ s _ => decoded_head s⟩
  intro table
  constructor
  · intro htable
    exact htable.unique hfile
  · intro htable
    rw [htable]
    exact hfile

/-- A formula with commas and quotes, a number, and a row of one empty cell. -/
def trickySheet : List (List Cell) :=
  [[.text (utf16 "=SUM(1,\"2\")"), .number ⟨-5, by decide⟩], [.text []]]

example : toCsv trickySheet = byteOrderMark :: utf16 "\"'=SUM(1,\"\"2\"\")\",-5\r\n\r\n" := by
  decide +kernel

theorem csv_reads_back_tricky : Rfc4180.File csvMarks (toCsv trickySheet).tail
    [[utf16 "'=SUM(1,\"2\")", utf16 "-5"], [[]]] := by
  obtain ⟨text, htext, hread, -⟩ := csv_reads_back trickySheet (List.cons_ne_nil _ _)
    (by simp [trickySheet])
  rw [htext]
  exact (hread _).mpr rfl

end Web

end Sahel

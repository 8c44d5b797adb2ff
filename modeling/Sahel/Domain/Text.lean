import Mathlib.Algebra.Order.Ring.Int

/-!
# Text from forms

What the handlers do to the strings guests and admins type, before anything is stored:

* Go's `strings` and `strconv` helpers they use: trimming and splitting at Unicode white space,
  upper-casing, reading a decimal int64;
* `cleanName` and `validName`: the shape of a guest's name;
* `normalizePhone`: an Egyptian mobile in its one stored form, as the customer package has it.

Text is handled as a list of runes; a `String` is its list of characters.
-/

set_option autoImplicit false

namespace Sahel

/-! ### Go's strings -/

/-- `unicode.IsSpace`. -/
def isSpace (c : Char) : Bool :=
  let n := c.toNat
  (9 ≤ n && n ≤ 13) || n == 0x20 || n == 0x85 || n == 0xA0 || n == 0x1680
    || (0x2000 ≤ n && n ≤ 0x200A) || n == 0x2028 || n == 0x2029 || n == 0x202F || n == 0x205F
    || n == 0x3000

/-- `strings.TrimSpace`. -/
def trimSpace (s : String) : String :=
  String.ofList ((s.toList.dropWhile isSpace).reverse.dropWhile isSpace).reverse

/-- The maximal runs of characters that are not white space; `word` is the run being read. -/
def fieldsFrom : List Char → List Char → List (List Char)
  | word, [] => if word = [] then [] else [word]
  | word, c :: cs =>
    if isSpace c then
      if word = [] then fieldsFrom [] cs else word :: fieldsFrom [] cs
    else fieldsFrom (word ++ [c]) cs

/-- `strings.Fields`. -/
def fields (s : String) : List String := (fieldsFrom [] s.toList).map String.ofList

/-- `len([]rune(s))`. -/
def runeCount (s : String) : ℤ := s.toList.length

/-- `unicode.ToUpper` on the characters whose upper case is ASCII, which is all a reference is
compared by; every other character stays as it is. -/
def toUpperRune (c : Char) : Char :=
  if 'a' ≤ c ∧ c ≤ 'z' then Char.ofNat (c.toNat - 32)
  else if c = 'ſ' then 'S'
  else if c = 'ı' then 'I'
  else c

/-- `strings.ToUpper`. -/
def toUpper (s : String) : String := String.ofList (s.toList.map toUpperRune)

/-- The value of a text of ASCII digits. -/
def decimal? (cs : List Char) : Option ℤ :=
  if cs = [] then none
  else cs.foldlM (fun n c => if '0' ≤ c ∧ c ≤ '9' then some (10 * n + (c.toNat - 48 : ℕ)) else none) 0

/-- `strconv.ParseInt(s, 10, 64)`; `none` is any error. -/
def parseInt64 (s : String) : Option ℤ := do
  let n ← match s.toList with
    | '-' :: cs => (decimal? cs).map (fun n => -n)
    | '+' :: cs => decimal? cs
    | cs => decimal? cs
  if -2 ^ 63 ≤ n ∧ n < 2 ^ 63 then some n else none

/-! ### Names and phones -/

def cleanName (s : String) : String := String.intercalate " " (fields s)

def validName (name : String) : Bool := decide (2 ≤ runeCount name ∧ runeCount name ≤ 80)

/-- What one rune of a typed number contributes: its ASCII digit, nothing, or `ErrInvalidPhone`. -/
def phoneRune (r : Char) : Option (List Char) :=
  if '0' ≤ r ∧ r ≤ '9' then some [r]
  else if '٠' ≤ r ∧ r ≤ '٩' then some [Char.ofNat ('0'.toNat + (r.toNat - '٠'.toNat))]
  else if '۰' ≤ r ∧ r ≤ '۹' then some [Char.ofNat ('0'.toNat + (r.toNat - '۰'.toNat))]
  else if r = '+' ∨ r = ' ' ∨ r = '-' ∨ r = '(' ∨ r = ')' ∨ r = '.' then some []
  else none

/-- The national form of the digits: a leading 0020, or 20 on twelve digits, becomes 0. -/
def nationalDigits (d : List Char) : List Char :=
  if ['0', '0', '2', '0'] <+: d then '0' :: d.drop 4
  else if ['2', '0'] <+: d ∧ d.length = 12 then '0' :: d.drop 2
  else d

/-- `customer.NormalizePhone` on the runes of the text; `none` is `ErrInvalidPhone`. -/
def normalizePhone (runes : List Char) : Option String := do
  let parts ← runes.mapM phoneRune
  match nationalDigits parts.flatten with
  | '0' :: '1' :: c :: rest =>
    if rest.length = 8 ∧ c ∈ ['0', '1', '2', '5'] then
      some (String.ofList ('+' :: '2' :: '0' :: '1' :: c :: rest))
    else none
  | _ => none

example : normalizePhone " (+20) 10 1234 5678 ".toList = some "+201012345678" := by decide

end Sahel

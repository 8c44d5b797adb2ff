import Sahel.Library.Strip

/-!
# The fields of the dashboard's forms

`lib/admin/form.ts`: what the server actions read out of a submitted form, and the text the unit and
compound forms show their amenities as.

A JavaScript text is a list of characters here: trimming and splitting act on characters of the
basic plane, which no half of a surrogate pair is taken for.
-/

set_option autoImplicit false

namespace Sahel

open Strip

namespace Web

/-- The white space and line ends of JavaScript: what `trim` takes off and `\s` matches. -/
def isBlank (c : Char) : Bool :=
  let n := c.toNat
  (9 ≤ n && n ≤ 13) || n == 0x20 || n == 0xA0 || n == 0x1680 || (0x2000 ≤ n && n ≤ 0x200A)
    || n == 0x2028 || n == 0x2029 || n == 0x202F || n == 0x205F || n == 0x3000 || n == 0xFEFF

/-- `trim`. -/
def trim (s : String) : String := String.ofList (strip isBlank s.toList)

/-- A submitted form: the text of a key, if it is there. -/
abbrev FormData : Type := String → Option String

def text (fd : FormData) (key : String) : String := trim ((fd key).getD "")

/-- `[,،\n]`. -/
def isSeparator (c : Char) : Bool := c == ',' || c == '،' || c == '\n'

/-- Comma- (Latin or Arabic) or newline-separated input as trimmed, non-empty items. -/
def list (fd : FormData) (key : String) : List String :=
  (((text fd key).toList.splitOnP isSeparator).map (fun s => trim (String.ofList s))).filter
    (fun s => s != "")

/-- `amenities.join("، ")`, the text the forms show. -/
def shownAmenities (amenities : List String) : String := String.intercalate "، " amenities

/-- A form whose amenities were not touched. -/
def untouched (fd : FormData) (amenities : List String) : FormData :=
  Function.update fd "amenities" (some (shownAmenities amenities))

theorem trim_trim (s : String) : trim (trim s) = trim s := by
  rw [trim, trim, String.toList_ofList, strip_strip]

theorem trim_eq_self_iff {s : String} : trim s = s ↔ strip isBlank s.toList = s.toList := by
  rw [trim]
  constructor
  · intro h
    have hlist := congrArg String.toList h
    rwa [String.toList_ofList] at hlist
  · intro h
    rw [h, String.ofList_toList]

end Web

end Sahel

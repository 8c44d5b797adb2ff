import Sahel.Library.Regex
import Sahel.Web.Form
import Sahel.Web.Session

/-!
# The phone field of the public forms

`lib/public/phone.ts`: the check before a number is sent, on the code units of what was typed.

* `toLatin` writes the digits of two scripts in Latin ones;
* `looksLikeMobile` drops what may stand between the digits, takes off the country's prefix, and
  matches the rest.
-/

set_option autoImplicit false

namespace Sahel

namespace Web

namespace Phone

open Session (unitChar)

/-- A digit of the script whose zero is `first`, as a Latin one. -/
def latinUnit (first u : UInt16) : UInt16 := if first ≤ u ∧ u ≤ first + 9 then 48 + (u - first) else u

/-- The Arabic-Indic digits, then the Eastern Arabic ones. -/
def toLatin (s : Session.JsString) : Session.JsString := (s.map (latinUnit 0x0660)).map (latinUnit 0x06F0)

/-- `[\s\-().+]`. -/
def isPunctuation (u : UInt16) : Bool :=
  isBlank (unitChar u) || u == 45 || u == 40 || u == 41 || u == 46 || u == 43

/-- What is left of a typed number. -/
def stripped (input : Session.JsString) : Session.JsString := (toLatin input).filter (fun u => ! isPunctuation u)

/-- 0020 becomes 0, and so does 20 before ten digits. -/
def national (d : Session.JsString) : Session.JsString :=
  if Session.units "0020" <+: d then Session.units "0" ++ d.drop 4
  else if Session.units "20" <+: d ∧ d.length = 12 then Session.units "0" ++ d.drop 2
  else d

/-- `/^01[0125]\d{8}$/`, of a text from its start. -/
def mobilePattern : Regex UInt16 :=
  .seq (.text (Session.units "01")) (.seq (.chars (fun u => (Session.units "0125").contains u))
    (.seq (.times 8 (.chars Session.isDigit)) .atEnd))

def looksLikeMobile (input : Session.JsString) : Bool := decide (mobilePattern.test (national (stripped input)))

example : looksLikeMobile (Session.units " (+20) 10 1234 5678 ") = true ∧
    looksLikeMobile (Session.units "0221234567") = false := by
  decide

/-- **What the check takes**: a prefix, and eight digits behind it. -/
theorem mobilePattern_iff {d : Session.JsString} : mobilePattern.test d ↔
    ∃ u rest, d = Session.units "01" ++ u :: rest ∧ u ∈ Session.units "0125" ∧ rest.length = 8 ∧
      ∀ v ∈ rest, Session.isDigit v = true := by
  rw [Regex.test_iff, mobilePattern]
  constructor
  · intro h
    obtain ⟨t, ht⟩ := h
    obtain ⟨x, hx, hbehind⟩ := Regex.mem_run_seq.mp ht
    obtain ⟨y, hy, hdigits⟩ := Regex.mem_run_seq.mp hbehind
    obtain ⟨z, hz, hend⟩ := Regex.mem_run_seq.mp hdigits
    obtain ⟨u, hu, rfl⟩ := Regex.mem_run_chars.mp hy
    obtain ⟨rest, hlen, rfl, hrest⟩ := Regex.mem_run_times_chars.mp hz
    obtain ⟨-, rfl⟩ := Regex.mem_run_atEnd.mp hend
    rw [List.append_nil] at hx
    exact ⟨u, rest, Regex.mem_run_text.mp hx, List.contains_iff_mem.mp hu, hlen, hrest⟩
  · intro h
    obtain ⟨u, rest, rfl, hu, hlen, hrest⟩ := h
    refine ⟨[], Regex.mem_run_seq.mpr ⟨u :: rest, Regex.mem_run_text.mpr rfl, ?_⟩⟩
    refine Regex.mem_run_seq.mpr ⟨rest, Regex.mem_run_chars.mpr ⟨u, List.contains_iff_mem.mpr hu, rfl⟩, ?_⟩
    refine Regex.mem_run_seq.mpr ⟨[], Regex.mem_run_times_chars.mpr ⟨rest, hlen, ?_, hrest⟩, ?_⟩
    · rw [List.append_nil]
    · exact Regex.mem_run_atEnd.mpr ⟨rfl, rfl⟩

end Phone

end Web

end Sahel

import Sahel.Domain.Text
import Sahel.Library.Strip
import Mathlib.Data.List.Nodup
import Mathlib.Data.Rat.Floor

/-!
# Admin request bodies

`admin_input.go`: what the admin's POST and PATCH handlers share.

* `Field` tells an absent key from a null and from a value; `setField`, `setNullable` and `setCoord`
  copy what is present, and `fieldProblem` and `coordProblem` are what they complain about;
* the checks each add their texts to a list of problems, `problemsErr` joins them;
* trimming is idempotent, so a row that was stored once is not changed by it again.

`slug.Make` strips diacritics with a Unicode library, and Go quotes the text of an unknown enum
value: both are functions of a `Texts`.
-/

set_option autoImplicit false

namespace Sahel

open Strip

/-- Functions of text from outside this program. -/
structure Texts where
  /-- `slug.Make` -/
  slugMake : String → String
  /-- `strconv.Quote`, behind `%q` -/
  quote : String → String

/-! ### Fields -/

/-- One member of an admin body: the key absent (leave the column alone), null, or a value. -/
inductive Field (α : Type) where
  | absent
  | null
  | value (v : α)
  deriving DecidableEq

/-- `setField` on the destination. -/
def setField {α : Type} (dst : α) : Field α → α
  | .value v => v
  | _ => dst

/-- What `setField` complains about. -/
def fieldProblem {α : Type} (name : String) : Field α → List String
  | .null => [name ++ " cannot be null"]
  | _ => []

/-- `setNullable`. -/
def setNullable {α : Type} (dst : Option α) : Field α → Option α
  | .absent => dst
  | .null => none
  | .value v => some v

/-- The nearest integer, ties to the even one. -/
def roundHalfEven (x : ℚ) : ℤ :=
  let n := ⌊x⌋
  if x - n < 1 / 2 then n
  else if 1 / 2 < x - n then n + 1
  else if n % 2 = 0 then n else n + 1

/-- `FormatFloat(v, 'f', 6, 64)` as NUMERIC(9,6) stores it: in millionths of a degree. -/
def toNumeric (v : ℚ) : ℤ := roundHalfEven (v * 1000000)

/-- `setCoord` on the destination. -/
def setCoord (dst : Option ℤ) (limit : ℕ) : Field ℚ → Option ℤ
  | .absent => dst
  | .null => none
  | .value v => if v < -limit ∨ limit < v then dst else some (toNumeric v)

/-- What `setCoord` complains about. -/
def coordProblem (name : String) (limit : ℕ) : Field ℚ → List String
  | .value v =>
    if v < -limit ∨ limit < v then
      [name ++ " must be between -" ++ toString limit ++ " and " ++ toString limit]
    else []
  | _ => []

/-! ### Problems -/

/-- A Postgres enum as Go holds it: one of its values, or text that is none of them. -/
inductive EnumText (α : Type) where
  | known (a : α)
  | unknown (text : String)
  deriving DecidableEq

def EnumText.known? {α : Type} : EnumText α → Option α
  | .known a => some a
  | .unknown _ => none

def requireText (name v : String) : List String :=
  if trimSpace v = "" then [name ++ " is required"] else []

def requirePair (name ar en : String) : List String :=
  requireText (name ++ "_ar") ar ++ requireText (name ++ "_en") en

def checkEnum {α : Type} (texts : Texts) (name : String) : EnumText α → List String
  | .known _ => []
  | .unknown v =>
    if v = "" then [name ++ " is required"] else [name ++ ": unknown value " ++ texts.quote v]

/-- `p.add` under a condition. -/
def problem (bad : Prop) [Decidable bad] (text : String) : List String := if bad then [text] else []

/-- `p.err`: every problem in one text. -/
def problemsErr {α : Type} (problems : List String) (a : α) : Except String α :=
  if problems = [] then .ok a else .error (String.intercalate "; " problems)

/-- `checkSlug`. -/
def checkSlug (texts : Texts) (s : String) : Except String PUnit :=
  if s = "" ∨ texts.slugMake s ≠ s then
    .error ("slug " ++ texts.quote s ++ " must be lowercase letters, digits and single hyphens (try "
      ++ texts.quote (texts.slugMake s) ++ ")")
  else .ok ⟨⟩

theorem problemsErr_ok {α : Type} {problems : List String} {a b : α}
    (h : problemsErr problems a = .ok b) : problems = [] ∧ b = a := by
  unfold problemsErr at h
  split_ifs at h with hp
  cases h
  exact ⟨hp, rfl⟩

/-! ### What a field asks for -/

/-- The value asked for a NOT NULL column. -/
def Field.asked {α : Type} : Field α → Option α
  | .value v => some v
  | _ => none

/-- What is asked of a nullable column. -/
def Field.askedNull {α : Type} : Field α → Option (Option α)
  | .absent => none
  | .null => some none
  | .value v => some (some v)

/-- What is asked of a coordinate. -/
def Field.askedCoord : Field ℚ → Option (Option ℤ)
  | .absent => none
  | .null => some none
  | .value v => some (some (toNumeric v))

theorem setField_eq {α : Type} (dst : α) (f : Field α) : setField dst f = f.asked.getD dst := by
  cases f <;> rfl

theorem setNullable_eq {α : Type} (dst : Option α) (f : Field α) :
    setNullable dst f = f.askedNull.getD dst := by
  cases f <;> rfl

theorem setCoord_eq {name : String} {limit : ℕ} {f : Field ℚ} (dst : Option ℤ)
    (h : coordProblem name limit f = []) : setCoord dst limit f = f.askedCoord.getD dst := by
  cases f with
  | absent => rfl
  | null => rfl
  | value v =>
    simp only [coordProblem] at h
    split_ifs at h with hv
    exact if_neg hv

/-! ### Trimming -/

/-- `blankToNil`. -/
def blankToNil : Option String → Option String
  | none => none
  | some s => if trimSpace s = "" then none else some (trimSpace s)

/-- One round of `normalizeAmenities`: what was seen is what is there. -/
def addAmenity (out : List String) (a : String) : List String :=
  if trimSpace a = "" ∨ trimSpace a ∈ out then out else out ++ [trimSpace a]

/-- `normalizeAmenities`. -/
def normalizeAmenities (amenities : List String) : List String := amenities.foldl addAmenity []

theorem trimSpace_eq (s : String) : trimSpace s = String.ofList (strip isSpace s.toList) := rfl

theorem trimSpace_trimSpace (s : String) : trimSpace (trimSpace s) = trimSpace s := by
  rw [trimSpace_eq, trimSpace_eq, String.toList_ofList, strip_strip]

theorem blankToNil_blankToNil (s : Option String) : blankToNil (blankToNil s) = blankToNil s := by
  cases s with
  | none => rfl
  | some s =>
    by_cases h : trimSpace s = ""
    · simp [blankToNil, h]
    · simp [blankToNil, h, trimSpace_trimSpace]

/-- Texts that need no trimming, none blank and no two alike. -/
def Tidy (amenities : List String) : Prop :=
  (∀ a ∈ amenities, trimSpace a = a ∧ a ≠ "") ∧ amenities.Nodup

theorem normalizeAmenities_tidy (amenities : List String) : Tidy (normalizeAmenities amenities) := by
  have hstep : ∀ l out : List String, Tidy out → Tidy (l.foldl addAmenity out) := by
    intro l
    induction l with
    | nil => exact fun out h => h
    | cons a l ih =>
      intro out h
      apply ih
      unfold addAmenity
      by_cases ha : trimSpace a = "" ∨ trimSpace a ∈ out
      · rw [if_pos ha]
        exact h
      · rw [if_neg ha]
        obtain ⟨hne, hnew⟩ := not_or.mp ha
        refine ⟨?_, ?_⟩
        · intro x hx
          rcases List.mem_append.mp hx with hx | hx
          · exact h.1 x hx
          · rw [List.mem_singleton.mp hx]
            exact ⟨trimSpace_trimSpace a, hne⟩
        · exact List.Nodup.append h.2 (List.nodup_singleton _) (by simpa using hnew)
  exact hstep amenities [] ⟨fun _ h => absurd h List.not_mem_nil, List.nodup_nil⟩

/-- A tidy list stays as it is. -/
theorem normalizeAmenities_of_tidy {amenities : List String} (h : Tidy amenities) :
    normalizeAmenities amenities = amenities := by
  have hstep : ∀ l out : List String, Tidy (out ++ l) → l.foldl addAmenity out = out ++ l := by
    intro l
    induction l with
    | nil => exact fun out _ => (List.append_nil out).symm
    | cons a l ih =>
      intro out h
      obtain ⟨htrim, hne⟩ := h.1 a (List.mem_append_right _ List.mem_cons_self)
      have hnew : a ∉ out := fun ha =>
        (List.nodup_append.mp h.2).2.2 a ha a List.mem_cons_self rfl
      rw [List.foldl_cons, addAmenity, htrim, if_neg (not_or.mpr ⟨hne, hnew⟩)]
      have h' : Tidy (out ++ [a] ++ l) := by rwa [List.append_assoc]
      rw [ih _ h', List.append_assoc]
      rfl
  exact hstep amenities [] h

theorem normalizeAmenities_idem (amenities : List String) :
    normalizeAmenities (normalizeAmenities amenities) = normalizeAmenities amenities :=
  normalizeAmenities_of_tidy (normalizeAmenities_tidy amenities)

end Sahel

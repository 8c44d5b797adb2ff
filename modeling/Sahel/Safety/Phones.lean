import Mathlib.Data.List.DropRight
import Sahel.Library.Utf8
import Sahel.Safety.Session
import Sahel.Store.Schema
import Sahel.Web.Money
import Sahel.Web.Phone

/-!
# One stored form of a phone number

The API's `NormalizePhone` on any bytes, the browser's `looksLikeMobile` on what was typed, and the
`CHECK` of the customers' table.

* `phoneRune_facts`: what both of them make of one character that the API takes;
* `nationalDigits_cases`: the three ways the digits can begin;
* **`phone_one_form`**: a number that the API takes is stored in one form, which the other two take.
-/

set_option autoImplicit false

namespace Sahel

namespace Phones

open Web.Session (JsString charUnits textUnits scalars)

/-- `NormalizePhone`, on the bytes of a Go string. -/
def normalizeBytes (s : List UInt8) : Option String := normalizePhone (Utf8.runes s)

/-- A character with the Arabic-Indic and Eastern digits mapped. -/
def latin (r : Char) : Char := Web.latinDigit 0x06F0 (Web.latinDigit 0x0660 r)

/-- The digits of a text in reading order. -/
def digits (text : List Char) : List Char := (text.map latin).filter Char.isDigit

/-- The last ten of them. -/
def lastTen (text : List Char) : List Char := (digits text).rtake 10

/-- A digit as a code unit. -/
def unit (c : Char) : UInt16 := UInt16.ofNat c.toNat

/-! ### One character -/

/-- The codes of the digits, and of what may stand between them. -/
def codes : List ℕ :=
  List.range' 0x30 10 ++ List.range' 0x660 10 ++ List.range' 0x6F0 10 ++ [43, 32, 45, 40, 41, 46]

/-- The API takes no other character. -/
theorem mem_codes {r : Char} {x : List Char} (h : phoneRune r = some x) : r.toNat ∈ codes := by
  have hrange : ∀ a b : Char, a ≤ r ∧ r ≤ b → a.toNat ≤ r.toNat ∧ r.toNat ≤ b.toNat := fun _ _ h => h
  rw [codes, List.mem_append, List.mem_append, List.mem_append, List.mem_range'_1, List.mem_range'_1,
    List.mem_range'_1]
  rw [phoneRune] at h
  split_ifs at h with hlatin harabic heastern hother
  · obtain ⟨hlow, hhigh⟩ := hrange _ _ hlatin
    have h0 : ('0').toNat = 0x30 := rfl
    have h9 : ('9').toNat = 0x39 := rfl
    omega
  · obtain ⟨hlow, hhigh⟩ := hrange _ _ harabic
    have h0 : ('٠').toNat = 0x660 := rfl
    have h9 : ('٩').toNat = 0x669 := rfl
    omega
  · obtain ⟨hlow, hhigh⟩ := hrange _ _ heastern
    have h0 : ('۰').toNat = 0x6F0 := rfl
    have h9 : ('۹').toNat = 0x6F9 := rfl
    omega
  · rcases hother with rfl | rfl | rfl | rfl | rfl | rfl <;> exact Or.inr (by decide)

/-- What the API makes of a character that it takes, and the browser of its unit. -/
def RuneFacts (r : Char) (x : List Char) : Prop :=
  x = [latin r].filter Char.isDigit ∧ r ≠ Utf8.replacement ∧
    Web.Phone.stripped (charUnits r) = x.map unit

instance (r : Char) (x : List Char) : Decidable (RuneFacts r x) := inferInstanceAs (Decidable (_ ∧ _ ∧ _))

theorem phoneRune_facts {r : Char} {x : List Char} (h : phoneRune r = some x) : RuneFacts r x := by
  have hall : ∀ n ∈ codes, (phoneRune (Char.ofNat n)).all (fun x => decide (RuneFacts (Char.ofNat n) x)) = true := by
    decide +kernel
  have hr := hall r.toNat (mem_codes h)
  rw [Char.ofNat_toNat, h] at hr
  exact of_decide_eq_true hr

/-! ### A whole number -/

theorem stripped_append (s t : JsString) :
    Web.Phone.stripped (s ++ t) = Web.Phone.stripped s ++ Web.Phone.stripped t := by
  rw [Web.Phone.stripped, Web.Phone.toLatin, List.map_append, List.map_append, List.filter_append]
  rfl

/-- What is kept of the characters: their digits, for the API and for the browser. -/
theorem mapM_phoneRune : ∀ {runes : List Char} {parts : List (List Char)},
    runes.mapM phoneRune = some parts → digits runes = parts.flatten ∧
      (∀ r ∈ runes, r ≠ Utf8.replacement) ∧
      Web.Phone.stripped (textUnits runes) = parts.flatten.map unit := by
  intro runes
  induction runes with
  | nil =>
    intro parts h
    cases h
    exact ⟨rfl, by simp, rfl⟩
  | cons r runes ih =>
    intro parts h
    rw [List.mapM_cons, Option.bind_eq_bind, Option.bind_eq_some_iff] at h
    obtain ⟨x, hx, h⟩ := h
    obtain ⟨rest, hrest, h⟩ := Option.bind_eq_some_iff.mp h
    cases h
    obtain ⟨hdigits, hwhole, hstripped⟩ := ih hrest
    obtain ⟨hlatin, hne, hunits⟩ := phoneRune_facts hx
    refine ⟨?_, List.forall_mem_cons.mpr ⟨hne, hwhole⟩, ?_⟩
    · show (([latin r] ++ runes.map latin).filter Char.isDigit) = x ++ rest.flatten
      rw [List.filter_append, ← hlatin, ← hdigits]
      rfl
    · show Web.Phone.stripped (charUnits r ++ textUnits runes) = (x ++ rest.flatten).map unit
      rw [stripped_append, hunits, hstripped, List.map_append]

/-- ASCII digits are taken as they are. -/
theorem mapM_digits : ∀ {l : List Char}, (∀ c ∈ l, c.isDigit = true) →
    l.mapM phoneRune = some (l.map (fun c => [c])) := by
  intro l
  induction l with
  | nil => exact fun _ => rfl
  | cons c l ih =>
    intro h
    obtain ⟨hc, hl⟩ := List.forall_mem_cons.mp h
    have hrune : phoneRune c = some [c] := by
      rw [Char.isDigit, Bool.and_eq_true, decide_eq_true_eq, decide_eq_true_eq] at hc
      exact if_pos hc
    rw [List.mapM_cons, hrune, ih hl]
    rfl

/-- **How the digits begin**: with 0020, with 20, or with the 0 of the national form. -/
theorem nationalDigits_cases {d x : List Char} (h : nationalDigits d = '0' :: '1' :: x) :
    d = '0' :: '0' :: '2' :: '0' :: '1' :: x ∨ d = '2' :: '0' :: '1' :: x ∨ d = '0' :: '1' :: x := by
  rw [nationalDigits] at h
  split_ifs at h with hlong hshort
  · obtain ⟨t, rfl⟩ := hlong
    rw [← (List.cons.inj h).2]
    exact Or.inl rfl
  · obtain ⟨⟨t, rfl⟩, -⟩ := hshort
    rw [← (List.cons.inj h).2]
    exact Or.inr (Or.inl rfl)
  · exact Or.inr (Or.inr h)

/-- **What is stored**: the number without its prefix, behind +20. -/
structure StoredForm (runes : List Char) (p : String) (c : Char) (rest : List Char) : Prop where
  text : p.toList = '+' :: '2' :: '0' :: '1' :: c :: rest
  operator : c ∈ ['0', '1', '2', '5']
  length : rest.length = 8
  number : digits runes = '0' :: '0' :: '2' :: '0' :: '1' :: c :: rest ∨
    digits runes = '2' :: '0' :: '1' :: c :: rest ∨ digits runes = '0' :: '1' :: c :: rest

theorem stored_of_normalizePhone {runes : List Char} {p : String} (h : normalizePhone runes = some p) :
    ∃ c rest, StoredForm runes p c rest := by
  obtain ⟨parts, hparts, h⟩ := Option.bind_eq_some_iff.mp h
  obtain ⟨hdigits, -, -⟩ := mapM_phoneRune hparts
  split at h
  · rename_i c rest hnational
    split_ifs at h with hok
    obtain ⟨hlen, hc⟩ := hok
    cases h
    refine ⟨c, rest, String.toList_ofList, hc, hlen, ?_⟩
    rw [hdigits]
    exact nationalDigits_cases hnational
  · cases h

theorem StoredForm.isDigit {runes : List Char} {p : String} {c : Char} {rest : List Char}
    (h : StoredForm runes p c rest) : ∀ d ∈ c :: rest, d.isDigit = true := by
  intro d hd
  have hmem : d ∈ digits runes := by
    obtain hlong | hshort | hnational := h.number
    · rw [hlong]
      simp [List.mem_cons.mp hd]
    · rw [hshort]
      simp [List.mem_cons.mp hd]
    · rw [hnational]
      simp [List.mem_cons.mp hd]
  exact (List.mem_filter.mp hmem).2

/-- The ten digits behind the prefix are the last ten. -/
theorem StoredForm.lastTen {runes : List Char} {p : String} {c : Char} {rest : List Char}
    (h : StoredForm runes p c rest) : lastTen runes = '1' :: c :: rest := by
  have hlen : ('1' :: c :: rest).length = 10 := congrArg (· + 2) h.length
  have htake : ∀ front : List Char, (front ++ '1' :: c :: rest).rtake 10 = '1' :: c :: rest := by
    intro front
    rw [List.rtake, List.length_append, hlen, Nat.add_sub_cancel, List.drop_left]
  rw [Phones.lastTen]
  obtain hlong | hshort | hnational := h.number
  · rw [hlong]
    exact htake ['0', '0', '2', '0']
  · rw [hshort]
    exact htake ['2', '0']
  · rw [hnational]
    exact htake ['0']

/-- **A stored number** is its own stored form. -/
theorem StoredForm.again {runes : List Char} {p : String} {c : Char} {rest : List Char}
    (h : StoredForm runes p c rest) : normalizePhone p.toList = some p := by
  have hdigits : ∀ d ∈ '2' :: '0' :: '1' :: c :: rest, d.isDigit = true :=
    List.forall_mem_cons.mpr ⟨rfl, List.forall_mem_cons.mpr ⟨rfl, List.forall_mem_cons.mpr ⟨rfl, h.isDigit⟩⟩⟩
  have hparts : p.toList.mapM phoneRune
      = some ([] :: ('2' :: '0' :: '1' :: c :: rest).map (fun c => [c])) := by
    rw [h.text, List.mapM_cons, mapM_digits hdigits]
    rfl
  have hflat : ([] :: ('2' :: '0' :: '1' :: c :: rest).map (fun c => [c])).flatten
      = '2' :: '0' :: '1' :: c :: rest := by
    show [] ++ (('2' :: '0' :: '1' :: c :: rest).map (fun c => [c])).flatten = _
    rw [List.nil_append, ← List.flatMap_def, List.flatMap_singleton']
  have hnational : nationalDigits ('2' :: '0' :: '1' :: c :: rest) = '0' :: '1' :: c :: rest := by
    rw [nationalDigits, if_neg (by simp), if_pos ⟨⟨_, rfl⟩, by simp [h.length]⟩]
    rfl
  rw [normalizePhone, hparts]
  simp only [Option.bind_eq_bind, Option.bind_some, hflat, hnational]
  rw [if_pos ⟨h.length, h.operator⟩, ← h.text, String.ofList_toList]

/-- The `CHECK` takes it. -/
theorem StoredForm.phoneOk {runes : List Char} {p : String} {c : Char} {rest : List Char}
    (h : StoredForm runes p c rest) : phoneOk p = true := by
  rw [Sahel.phoneOk, h.text]
  have hrest : rest.all Char.isDigit = true :=
    List.all_eq_true.mpr (fun d hd => h.isDigit d (List.mem_cons_of_mem _ hd))
  show (decide (c ∈ ['0', '1', '2', '5'] ∧ rest.length = 8) && rest.all Char.isDigit) = true
  rw [decide_eq_true ⟨h.operator, h.length⟩, hrest]
  rfl

theorem isDigit_unit {d : Char} (h : d.isDigit = true) : Web.Session.isDigit (unit d) = true := by
  have hall : ∀ n < 128, (Char.ofNat n).isDigit = true → Web.Session.isDigit (UInt16.ofNat n) = true := by
    decide
  have hsmall : d.toNat < 128 := by
    rw [Char.isDigit, Bool.and_eq_true, decide_eq_true_eq, decide_eq_true_eq] at h
    have hle : d.toNat ≤ 57 := h.2
    omega
  exact hall d.toNat hsmall (by rwa [Char.ofNat_toNat])

/-- The browser's check takes the digits, however they begin. -/
theorem StoredForm.looksLikeMobile {runes : List Char} {p : String} {c : Char} {rest : List Char}
    (h : StoredForm runes p c rest) {t : JsString} (ht : Web.Phone.stripped t = (digits runes).map unit) :
    Web.Phone.looksLikeMobile t = true := by
  have hnational : Web.Phone.national ((digits runes).map unit) = [48, 49, unit c] ++ rest.map unit := by
    obtain hlong | hshort | hnational := h.number
    · rw [hlong, Web.Phone.national, if_pos ⟨_, rfl⟩]
      rfl
    · rw [hshort, Web.Phone.national, if_neg (by simp [Web.Session.units, unit]),
        if_pos ⟨⟨_, rfl⟩, by simp [h.length]⟩]
      rfl
    · rw [hnational, Web.Phone.national, if_neg (by simp [Web.Session.units, unit]),
        if_neg (by simp [Web.Session.units, unit])]
      rfl
  refine decide_eq_true (Web.Phone.mobilePattern_iff.mpr ⟨unit c, rest.map unit, ?_, ?_, ?_, ?_⟩)
  · rw [ht, hnational]
    rfl
  · exact List.mem_map_of_mem h.operator
  · rw [List.length_map, h.length]
  · intro v hv
    obtain ⟨d, hd, rfl⟩ := List.mem_map.mp hv
    exact isDigit_unit (h.isDigit d (List.mem_cons_of_mem _ hd))

/-! ### One stored form -/

/-- **A phone number has one stored form**: what the API makes of any bytes that it takes passes the
`CHECK` of the table, is its own stored form, and ends in the last ten digits typed; the bytes are those
of a typed text, which the browser's check takes; and other bytes with the same last ten digits are
stored alike. -/
theorem phone_one_form {s : List UInt8} {p : String} (h : normalizeBytes s = some p) :
    phoneOk p = true ∧ normalizeBytes (Utf8.encode p.toList) = some p ∧
      lastTen p.toList = lastTen (Utf8.runes s) ∧
      (∃ t, Web.Session.encode t = s) ∧
      (∀ t, Web.Session.encode t = s → Web.Phone.looksLikeMobile t = true) ∧
      ∀ s' p', normalizeBytes s' = some p' → lastTen (Utf8.runes s') = lastTen (Utf8.runes s) →
        p' = p := by
  obtain ⟨c, rest, hform⟩ := stored_of_normalizePhone h
  obtain ⟨parts, hparts, -⟩ := Option.bind_eq_some_iff.mp h
  obtain ⟨hdigits, hwhole, hstripped⟩ := mapM_phoneRune hparts
  have hagain := hform.again
  obtain ⟨c', rest', hform'⟩ := stored_of_normalizePhone hagain
  have hbytes : Utf8.encode (Utf8.runes s) = s := Utf8.encode_runes hwhole
  refine ⟨hform.phoneOk, ?_, ?_, ⟨textUnits (Utf8.runes s), ?_⟩, fun t ht => ?_, fun s' p' h' hten => ?_⟩
  · rw [normalizeBytes, Utf8.runes_encode, hagain]
  · have htext := hform.text.symm.trans hform'.text
    rw [hform'.lastTen, hform.lastTen]
    exact (List.cons.inj (List.cons.inj (List.cons.inj htext).2).2).2.symm
  · show Utf8.encode (scalars (textUnits (Utf8.runes s))) = s
    rw [Web.Session.scalars_textUnits, hbytes]
  · have hread : scalars t = Utf8.runes s := by
      rw [← ht]
      exact (Utf8.runes_encode (scalars t)).symm
    have hunits : t = textUnits (Utf8.runes s) := by
      rw [← hread, Web.Session.textUnits_scalars (hread ▸ hwhole)]
    exact hform.looksLikeMobile (by rw [hunits, hstripped, hdigits])
  · obtain ⟨d, tail, hother⟩ := stored_of_normalizePhone h'
    rw [hother.lastTen, hform.lastTen] at hten
    apply String.toList_injective
    rw [hother.text, hform.text, hten]

/-- The number of a guest who types it in Arabic digits, with the country's prefix. -/
theorem phone_one_form_arabic :
    Web.Phone.looksLikeMobile (textUnits "٠٠٢٠ ١٠ ١٢٣٤-٥٦٧٨".toList) = true ∧
      normalizeBytes (Utf8.encode "٠٠٢٠ ١٠ ١٢٣٤-٥٦٧٨".toList) = some "+201012345678" := by
  have hstored : normalizeBytes (Utf8.encode "٠٠٢٠ ١٠ ١٢٣٤-٥٦٧٨".toList) = some "+201012345678" := by
    rw [normalizeBytes, Utf8.runes_encode]
    decide +kernel
  refine ⟨(phone_one_form hstored).2.2.2.2.1 _ ?_, hstored⟩
  show Utf8.encode (scalars (textUnits _)) = _
  rw [Web.Session.scalars_textUnits]

end Phones

end Sahel

import Sahel.Safety.FormTexts
import Sahel.Safety.Pounds
import Sahel.Safety.Repeats

/-!
# The unit form, saved untouched

From the columns of a unit to the fields of its edit page, through the browser and the server action
to the PATCH: `decodeUnit_untouched` is the body that arrives.

* `toNumeric_degrees`, `round6_degrees`: a coordinate is a whole number of millionths again, whether or
  not the map has placed the pin;
* `Survives` says which units are stored as they were;
* **`untouched_form_keeps_the_unit`**: of the units that were added, those and no others.
-/

set_option autoImplicit false

namespace Sahel

open Binary64 KeyedTable ReadCommitted AtomicCalls

namespace Web

/-! ### Doubles -/

theorem double_close (q : ℚ) : |double q - q| * 2 ^ 53 ≤ |q| := by
  rcases lt_trichotomy q 0 with h | rfl | h
  · have hpos : 0 < -q := neg_pos.mpr h
    have hclose := nearest_close hpos
    have hflip : double q - q = -(nearest (-q) - -q) := by
      rw [double, if_neg h.le.not_gt, if_pos h]
      ring
    rwa [hflip, abs_neg, abs_of_neg h]
  · simp [double]
  · rw [double, if_pos h, abs_of_pos h]
    exact nearest_close h

theorem double_intCast {n : ℤ} (hn : |n| < 10 ^ 15) : double n = n := by
  have hnat : ∀ m : ℕ, m < 10 ^ 15 → double m = m := by
    intro m hm
    rcases Nat.eq_zero_or_pos m with rfl | hpos
    · simp [double]
    · rw [double, if_pos (by exact_mod_cast hpos), nearest_natCast hpos (hm.trans (by norm_num))]
  obtain ⟨m, rfl | rfl⟩ := n.eq_nat_or_neg
  · have hm : m < 10 ^ 15 := by exact_mod_cast lt_of_le_of_lt (le_abs_self _) hn
    exact_mod_cast hnat m hm
  · rw [abs_neg] at hn
    have hm : m < 10 ^ 15 := by exact_mod_cast lt_of_le_of_lt (le_abs_self _) hn
    rw [Int.cast_neg, double_neg, Int.cast_natCast, hnat m hm]

/-! ### Coordinates -/

theorem roundHalfEven_of_close {x : ℚ} {z : ℤ} (h : |x - z| < 1 / 2) : roundHalfEven x = z := by
  obtain ⟨hlow, hhigh⟩ := abs_lt.mp h
  rw [roundHalfEven]
  rcases le_or_gt (z : ℚ) x with hz | hz
  · have hfloor : ⌊x⌋ = z := Int.floor_eq_iff.mpr ⟨hz, by linarith⟩
    simp only [hfloor]
    exact if_pos (by linarith)
  · have hfloor : ⌊x⌋ = z - 1 := by
      refine Int.floor_eq_iff.mpr ⟨?_, ?_⟩
      · push_cast
        linarith
      · push_cast
        linarith
    simp only [hfloor]
    have hupper : 1 / 2 < x - ((z - 1 : ℤ) : ℚ) := by
      push_cast
      linarith
    rw [if_neg (by linarith), if_pos hupper]
    ring

theorem degrees_eq (z : ℤ) : degrees z = double (z / 10 ^ 6) := by
  have hscale : (z : ℚ) * 10 ^ (-(6 : ℕ) : ℤ) = z / 10 ^ 6 := by
    rw [zpow_neg]
    norm_num
    ring
  rw [degrees, hscale]

/-- A coordinate in millionths of a degree is read nearly right. -/
theorem degrees_close {z : ℤ} (hz : |z| ≤ 180 * 10 ^ 6) : |degrees z * 10 ^ 6 - z| < 1 / 100 := by
  have hclose := double_close ((z : ℚ) / 10 ^ 6)
  have hzq : |(z : ℚ)| ≤ 180 * 10 ^ 6 := by exact_mod_cast hz
  have hten : (0 : ℚ) < 10 ^ 6 := by norm_num
  rw [abs_div, abs_of_pos hten] at hclose
  have hsplit : degrees z * 10 ^ 6 - z = (double ((z : ℚ) / 10 ^ 6) - z / 10 ^ 6) * 10 ^ 6 := by
    rw [degrees_eq]
    ring
  rw [hsplit, abs_mul, abs_of_pos hten]
  linarith

theorem toNumeric_degrees {z : ℤ} (hz : |z| ≤ 180 * 10 ^ 6) : toNumeric (degrees z) = z := by
  have hclose := degrees_close hz
  rw [toNumeric]
  refine roundHalfEven_of_close ?_
  have hmillion : (1000000 : ℚ) = 10 ^ 6 := by norm_num
  rw [hmillion]
  linarith

/-- **Placing the pin** does not move it. -/
theorem round6_degrees {z : ℤ} (hz : |z| ≤ 180 * 10 ^ 6) : round6 (degrees z) = degrees z := by
  have hclose := degrees_close hz
  have hzq : |(z : ℚ)| ≤ 180 * 10 ^ 6 := by exact_mod_cast hz
  have hfloor : ∀ x : ℚ, |x - z| < 1 / 100 → ⌊double x + 1 / 2⌋ = z := by
    intro x hx
    obtain ⟨hlow, hhigh⟩ := abs_lt.mp hx
    obtain ⟨hzlow, hzhigh⟩ := abs_le.mp hzq
    have hsize : |x| ≤ 181 * 10 ^ 6 := abs_le.mpr ⟨by linarith, by linarith⟩
    have hagain := double_close x
    obtain ⟨hlow', hhigh'⟩ := abs_le.mp (show |double x - x| ≤ 1 / 100 by linarith)
    exact Int.floor_eq_iff.mpr ⟨by linarith, by linarith⟩
  rw [round6, hfloor _ hclose, ← degrees_eq]

/-- In range it stays in range. -/
theorem degrees_le {z : ℤ} {limit : ℕ} (hlimit : limit ≤ 180) (hz : |z| ≤ limit * 10 ^ 6) :
    -(limit : ℚ) ≤ degrees z ∧ degrees z ≤ limit := by
  have hlimit' : (limit : ℤ) ≤ 180 := by exact_mod_cast hlimit
  have hall : |z| ≤ 180 * 10 ^ 6 := by linarith
  have hself : ∀ n : ℤ, |n| ≤ 180 → degrees (n * 10 ^ 6) = n := by
    intro n hn
    have hdiv : ((n * 10 ^ 6 : ℤ) : ℚ) / 10 ^ 6 = n := by
      push_cast
      ring
    rw [degrees_eq, hdiv]
    exact double_intCast (lt_of_le_of_lt hn (by norm_num))
  obtain ⟨hlow, hhigh⟩ := abs_lt.mp (degrees_close hall)
  obtain ⟨hzlow, hzhigh⟩ := abs_le.mp hz
  have habs : |(limit : ℤ)| ≤ 180 := by rwa [abs_of_nonneg (Int.natCast_nonneg limit)]
  constructor
  · rcases eq_or_lt_of_le hzlow with heq | hlt
    · rw [← heq, ← neg_mul, hself _ (by rwa [abs_neg])]
      push_cast
      exact le_refl _
    · have hstep : -((limit : ℚ) * 10 ^ 6) + 1 ≤ z := by exact_mod_cast hlt
      linarith
  · rcases eq_or_lt_of_le hzhigh with heq | hlt
    · rw [heq, hself _ habs]
      exact le_refl _
    · have hstep : (z : ℚ) + 1 ≤ limit * 10 ^ 6 := by exact_mod_cast hlt
      linarith

/-! ### Numbers -/

section Numbers

variable {w : Wire} {fd : FormData} {key : String}

theorem text_of_trimmed {t : String} (hfd : fd key = some t) (ht : trim t = t) : text fd key = t := by
  rw [text, hfd, Option.getD_some, ht]

theorem written_ne_empty {x : ℚ} {t : String} (h : Written x t) (hx : Ordinary |x|) : t ≠ "" := by
  cases h with
  | nonneg h =>
    have hnonneg : 0 ≤ x := by
      cases h with
      | zero => exact le_refl 0
      | positive _ hpos => exact hpos.le
    rw [abs_of_nonneg hnonneg] at hx
    obtain ⟨-, ⟨c, rest, ht, -⟩, -⟩ := h.reads hx
    intro hempty
    rw [hempty] at ht
    cases ht
  | @negative y t h hpos =>
    intro hempty
    have hlist : ("-" ++ t).toList = '-' :: t.toList := String.toList_append
    rw [hempty] at hlist
    cases hlist

/-- A number's text is what the server action reads, and it reads the number. -/
theorem number_sent (hw : w.Lawful) {x : ℚ} (hx : ∃ t, Written x t) (hord : Ordinary |x|)
    (hfd : fd key = some (w.numberString x)) :
    int fd key = some (some x) ∧ nullableNumber fd key = some x := by
  obtain ⟨t, ht⟩ := hx
  have hwritten := hw.number x t ht
  obtain ⟨hreads, htrim⟩ := toNumber_written hwritten hord
  have hne := written_ne_empty hwritten hord
  rw [int, nullableNumber, text_of_trimmed hfd htrim, if_neg hne, if_neg hne, hreads]
  exact ⟨rfl, rfl⟩

theorem blank_sent (hfd : fd key = some "") : nullableNumber fd key = none := by
  rw [nullableNumber, text_of_trimmed hfd (by decide), if_pos rfl]

theorem exists_written_int {n : ℤ} (hn : |n| < 10 ^ 15) : (∃ t, Written (n : ℚ) t) ∧ Ordinary |(n : ℚ)| := by
  have hscale : (n : ℚ) * 10 ^ (-(0 : ℕ) : ℤ) = n := by simp
  have hwritten := exists_written 0 n
  have hord := ordinary_scaled (Nat.zero_le 15) hn
  rw [hscale, double_intCast hn] at hwritten hord
  exact ⟨hwritten, hord⟩

/-- Whether `read` reads the digits of a whole number as `a`. -/
def ReadsAs {α : Type} (read : String → Option α) (n : ℤ) (a : α) : Prop :=
  |n| < 10 ^ 15 ∧ ∀ t, signedDigits t.toList = some n → read t = some a

theorem readsAs_int16 (n : Int16) : ReadsAs readInt16 n.toInt n := by
  have hlow := n.le_toInt
  have hhigh := n.toInt_lt
  refine ⟨abs_lt.mpr ⟨by omega, by omega⟩, fun t ht => ?_⟩
  rw [readInt16, ht, Option.bind_some, if_pos ⟨hlow, hhigh⟩, Int16.ofInt_toInt]

theorem readsAs_int32 (n : Int32) : ReadsAs readInt32 n.toInt n := by
  have hlow := n.le_toInt
  have hhigh := n.toInt_lt
  refine ⟨abs_lt.mpr ⟨by omega, by omega⟩, fun t ht => ?_⟩
  rw [readInt32, ht, Option.bind_some, if_pos ⟨hlow, hhigh⟩, Int32.ofInt_toInt]

theorem decodeNumber_int {α : Type} (hw : w.Lawful) {read : String → Option α} {n : ℤ} {a : α}
    (h : ReadsAs read n a) : decodeNumber w read (some (n : ℚ)) = some (.value a) := by
  obtain ⟨t, ht⟩ := (exists_written_int h.1).1
  rw [decodeNumber, h.2 _ (signedDigits_written h.1 (hw.number _ t ht)), Option.map_some]

/-- A whole number of a NOT NULL column. -/
theorem int_back {α : Type} (hw : w.Lawful) {read : String → Option α} {n : ℤ} {a : α}
    (h : ReadsAs read n a) (hfd : fd key = some (w.numberString (n : ℚ))) :
    decodeOptional w read (int fd key) = some (.value a) := by
  obtain ⟨hwritten, hord⟩ := exists_written_int h.1
  rw [(number_sent hw hwritten hord hfd).1, decodeOptional, decodeNumber_int hw h]

/-- The field of a nullable column. -/
def nullField {α : Type} : Option α → Field α
  | none => .null
  | some a => .value a

/-- And one of a nullable column. -/
theorem nullable_back {α : Type} (hw : w.Lawful) {read : String → Option α} {toInt : α → ℤ}
    (h : ∀ a, ReadsAs read (toInt a) a) {v : Option α}
    (hfd : fd key = some (((v.map (fun a => (toInt a : ℚ))).map w.numberString).getD "")) :
    decodeNumber w read (nullableNumber fd key) = some (nullField v) := by
  cases v with
  | none =>
    rw [blank_sent hfd]
    rfl
  | some a =>
    obtain ⟨hwritten, hord⟩ := exists_written_int (h a).1
    rw [(number_sent hw hwritten hord hfd).2, decodeNumber_int hw (h a)]
    rfl

theorem printed_of_written {x : ℚ} {t : String} (h : Written x t) (hx : 0 ≤ x) : Printed x t := by
  cases h with
  | nonneg h => exact h
  | negative _ hpos => linarith

theorem inPounds_nonneg (m : ℕ) : 0 ≤ inPounds m := by
  rcases Nat.eq_zero_or_pos m with rfl | hpos
  · exact le_refl _
  · rw [inPounds, if_neg hpos.ne']
    exact (nearest_pounds_pos hpos).le

/-- A price. -/
theorem price_back (hw : w.Lawful) {v : Option Int64} (hpos : ∀ p ∈ v, 0 < p.toInt)
    (hsmall : ∀ p ∈ v, p.toInt < 10 ^ 15)
    (hfd : fd key = some (((v.map pricePounds).map w.numberString).getD "")) :
    decodePrice (fun n => readInt64 (w.numberString n)) (stringify (nullablePiasters fd key))
      = some (nullField v) := by
  cases v with
  | none =>
    have htext : text fd key = "" := text_of_trimmed hfd (by decide : trim "" = "")
    have hblank : toPiasters "" = none := by decide
    rw [nullablePiasters, htext, hblank]
    rfl
  | some p =>
    obtain ⟨m, hm⟩ := Int.eq_ofNat_of_zero_le (hpos p rfl).le
    have hm' : m < 10 ^ 15 := by
      have hp := hsmall p rfl
      rw [hm] at hp
      exact_mod_cast hp
    have hmpos : 0 < m := by
      have hp := hpos p rfl
      rw [hm] at hp
      exact_mod_cast hp
    have hpounds : pricePounds p = inPounds m := by
      rw [pricePounds, double_intCast (abs_lt.mpr ⟨by linarith [hpos p rfl], hsmall p rfl⟩), hm,
        Int.cast_natCast, inPounds, if_neg hmpos.ne', double,
        if_pos (div_pos (by exact_mod_cast hmpos) (by norm_num))]
    obtain ⟨t, ht⟩ := exists_printed m
    have hprinted := printed_of_written (hw.number _ t (.nonneg ht)) (inPounds_nonneg m)
    obtain ⟨hvalue, htrim⟩ := printed_reads_back hm' hprinted
    have hshown : fd key = some (w.numberString (inPounds m)) := by
      rw [hfd, Option.map_some, hpounds]
      rfl
    rw [nullablePiasters, text_of_trimmed hshown htrim, hvalue]
    show (readInt64 (w.numberString (m : ℚ))).map Field.value = _
    have hdigits : signedDigits (w.numberString (m : ℚ)).toList = some (m : ℤ) := by
      have habs : |(m : ℤ)| < 10 ^ 15 := by
        rw [abs_of_nonneg (Int.natCast_nonneg m)]
        exact_mod_cast hm'
      obtain ⟨t', ht'⟩ := (exists_written_int habs).1
      rw [← Int.cast_natCast (R := ℚ) m]
      exact signedDigits_written habs (hw.number _ t' ht')
    have hhigh : (m : ℤ) < 2 ^ 63 := by
      have hcast : (m : ℤ) < 10 ^ 15 := by exact_mod_cast hm'
      linarith
    rw [readInt64, hdigits, Option.bind_some, if_pos ⟨by linarith [Int.natCast_nonneg m], hhigh⟩, ← hm,
      Int64.ofInt_toInt]
    rfl

end Numbers

/-! ### Choices and slugs -/

section Choices

variable {w : Wire} {fd : FormData} {key : String}

/-- An id among those to choose from. -/
theorem ref_back (hw : w.Lawful) {ids : List ℕ} {id : ℕ} (hid : id ∈ ids)
    (hfd : fd key = some (selected (ids.map w.uuidString) (w.uuidString id))) :
    decodeRef w (ref fd key) = some (.value id) := by
  obtain ⟨htrim, hne⟩ := hw.uuid_plain id
  rw [selected, if_pos (List.mem_map_of_mem hid)] at hfd
  rw [ref, text_of_trimmed hfd htrim, if_neg hne, decodeRef, hw.uuid_back, Option.map_some]

/-- A value of an enum, chosen among all. -/
theorem enum_back {α : Type} {all : List α} {text : α → String} {a : α}
    (h : text a ∈ all.map text ∧ trim (text a) = text a ∧ EnumText.read all text (text a) = .known a)
    (hfd : fd key = some (selected (all.map text) ((EnumText.known a).text text))) :
    EnumText.read all text (Web.text fd key) = .known a := by
  have hshown : fd key = some (text a) := by
    rw [hfd, EnumText.text, selected, if_pos h.1]
  rw [text_of_trimmed hshown h.2.1, h.2.2]

theorem status_plain (a : UnitStatus) : a.text ∈ UnitStatus.all.map UnitStatus.text ∧
    trim a.text = a.text ∧ EnumText.read UnitStatus.all UnitStatus.text a.text = .known a := by
  cases a <;> decide

theorem type_plain (a : UnitType) : a.text ∈ UnitType.all.map UnitType.text ∧
    trim a.text = a.text ∧ EnumText.read UnitType.all UnitType.text a.text = .known a := by
  cases a <;> decide

theorem view_plain (a : UnitView) : a.text ∈ UnitView.all.map UnitView.text ∧
    trim a.text = a.text ∧ EnumText.read UnitView.all UnitView.text a.text = .known a := by
  cases a <;> decide

/-- A slug is not blank and has nothing to trim. -/
theorem slug_back {sl : String} (h : Slug.Canonical sl.toList) (hfd : fd key = some (inputValue sl)) :
    optional fd key = some sl := by
  have hblank : ∀ c ∈ sl.toList, isBlank c = false := by
    intro c hc
    rcases Slug.mem_of_spaced h.spaced c hc with hkept | rfl
    · simp only [Slug.kept, Bool.or_eq_true, Bool.and_eq_true, decide_eq_true_eq] at hkept
      simp [isBlank]
      omega
    · rfl
  have hline : OneLine sl := by
    intro c hc
    have hc := hblank c hc
    refine ⟨fun hfeed => absurd hc (by rw [hfeed]; decide), fun hreturn => absurd hc (by rw [hreturn]; decide)⟩
  have htrim : trim sl = sl := trim_eq_self_iff.mpr (Strip.strip_eq_self_iff.mpr
    ⟨fun c hc => hblank c (List.mem_of_mem_head? hc), fun c hc => hblank c (List.mem_of_mem_getLast? hc)⟩)
  rw [inputValue_eq_iff.mpr hline] at hfd
  have hne : sl ≠ "" := fun hempty => h.ne_nil (String.toList_eq_nil_iff.mpr hempty)
  rw [optional, text_of_trimmed hfd htrim, if_neg hne]

end Choices

/-! ### The body that arrives -/

/-- What an untouched form sends of a unit, the coordinates apart. -/
def untouchedBody (fd : FormData) (u : UnitRecord) (lat lng : Field ℚ) : UnitInput where
  ownerId := nullField u.ownerId
  compoundId := nullField u.compoundId
  slug := .value u.slug
  titleAr := .value (text fd "title_ar")
  titleEn := .value (text fd "title_en")
  descriptionAr := .value (text fd "description_ar")
  descriptionEn := .value (text fd "description_en")
  houseRulesAr := .value (text fd "house_rules_ar")
  houseRulesEn := .value (text fd "house_rules_en")
  type := .value u.type
  bedrooms := .value u.bedrooms
  bathrooms := .value u.bathrooms
  baseGuests := .value u.baseGuests
  maxGuests := .value u.maxGuests
  areaSqm := nullField u.areaSqm
  floor := nullField u.floor
  seaDistanceM := .value u.seaDistanceM
  view := .value u.view
  rowNumber := nullField u.rowNumber
  amenities := .value (list fd "amenities")
  lat := lat
  lng := lng
  exactAddress := .value (text fd "exact_address")
  status := .value u.status
  nightlyPrice := nullField u.nightlyPrice
  bufferDays := .value u.bufferDays
  advanceNoticeHours := .value u.advanceNoticeHours
  maxAdvanceDays := .value u.maxAdvanceDays

/-- A unit of which every choice is among the options. -/
structure Choosable (p : UnitPage) (owner compound : ℕ) : Prop where
  owner : p.unit.ownerId = some owner ∧ owner ∈ p.owners
  compound : p.unit.compoundId = some compound ∧ compound ∈ p.compounds
  type : ∃ a, p.unit.type = .known a
  view : ∃ a, p.unit.view = .known a
  status : ∃ a, p.unit.status = .known a
  slug : Slug.Canonical p.unit.slug.toList
  price : ∀ n ∈ p.unit.nightlyPrice, 0 < n.toInt ∧ n.toInt < 10 ^ 15

/-- **The body that arrives.** -/
theorem decodeUnit_untouched {w : Wire} (hw : w.Lawful) {p : UnitPage} {owner compound : ℕ}
    (h : Choosable p owner compound) :
    saveUntouched w p = (decodeNumber w toNumber (nullableNumber (unitForm w p) "lat")).bind (fun lat =>
      (decodeNumber w toNumber (nullableNumber (unitForm w p) "lng")).map (fun lng =>
        untouchedBody (unitForm w p) p.unit lat lng)) := by
  obtain ⟨type, htype⟩ := h.type
  obtain ⟨view, hview⟩ := h.view
  obtain ⟨status, hstatus⟩ := h.status
  have howner : decodeRef w (ref (unitForm w p) "owner_id") = some (nullField p.unit.ownerId) := by
    rw [h.owner.1]
    refine ref_back hw h.owner.2 ?_
    show some (selected _ ((p.unit.ownerId.map w.uuidString).getD "")) = _
    rw [h.owner.1]
    rfl
  have hcompound : decodeRef w (ref (unitForm w p) "compound_id") = some (nullField p.unit.compoundId) := by
    rw [h.compound.1]
    refine ref_back hw h.compound.2 ?_
    show some (selected _ ((p.unit.compoundId.map w.uuidString).getD "")) = _
    rw [h.compound.1]
    rfl
  have htype' : EnumText.read UnitType.all UnitType.text (text (unitForm w p) "type") = p.unit.type := by
    rw [htype]
    refine enum_back (type_plain type) ?_
    rw [← htype]
    rfl
  have hview' : EnumText.read UnitView.all UnitView.text (text (unitForm w p) "view") = p.unit.view := by
    rw [hview]
    refine enum_back (view_plain view) ?_
    rw [← hview]
    rfl
  have hstatus' : EnumText.read UnitStatus.all UnitStatus.text (text (unitForm w p) "status")
      = p.unit.status := by
    rw [hstatus]
    refine enum_back (status_plain status) ?_
    rw [← hstatus]
    rfl
  have hslug : optional (unitForm w p) "slug" = some p.unit.slug := slug_back h.slug rfl
  have hprice : decodePrice (fun n => readInt64 (w.numberString n))
      (stringify (nullablePiasters (unitForm w p) "nightly_price")) = some (nullField p.unit.nightlyPrice) :=
    price_back hw (fun n hn => (h.price n hn).1) (fun n hn => (h.price n hn).2) rfl
  have hint16 : ∀ key (n : Int16), unitForm w p key = some (w.numberString (n.toInt : ℚ)) →
      decodeOptional w readInt16 (int (unitForm w p) key) = some (.value n) :=
    fun key n hfd => int_back hw (readsAs_int16 n) hfd
  have hint32 : ∀ key (n : Int32), unitForm w p key = some (w.numberString (n.toInt : ℚ)) →
      decodeOptional w readInt32 (int (unitForm w p) key) = some (.value n) :=
    fun key n hfd => int_back hw (readsAs_int32 n) hfd
  have harea : decodeNumber w readInt32 (nullableNumber (unitForm w p) "area_sqm")
      = some (nullField p.unit.areaSqm) := nullable_back hw readsAs_int32 rfl
  have hfloor : decodeNumber w readInt16 (nullableNumber (unitForm w p) "floor")
      = some (nullField p.unit.floor) := nullable_back hw readsAs_int16 rfl
  have hrow : decodeNumber w readInt16 (nullableNumber (unitForm w p) "row_number")
      = some (nullField p.unit.rowNumber) := nullable_back hw readsAs_int16 rfl
  simp only [saveUntouched, decodeUnit, unitPayload, howner, hcompound, htype', hview', hstatus', hslug,
    hprice, harea, hfloor, hrow, hint16 "bedrooms" _ rfl, hint16 "bathrooms" _ rfl,
    hint16 "base_guests" _ rfl, hint16 "max_guests" _ rfl, hint32 "sea_distance_m" _ rfl,
    hint16 "buffer_days" _ rfl, hint32 "advance_notice_hours" _ rfl, hint32 "max_advance_days" _ rfl]
  simp only [Option.bind_eq_bind, Option.bind_some, Option.map_eq_bind]
  rfl

/-! ### What is stored of it -/

theorem setField_nullField {α : Type} (v : Option α) : setField v ((nullField v).map some) = v := by
  cases v <;> rfl

theorem setNullable_nullField {α : Type} (v : Option α) : setNullable v (nullField v) = v := by
  cases v <;> rfl

/-- An untouched form changes texts, amenities and coordinates at most. -/
theorem edit_untouched_iff {fd : FormData} {u : UnitRecord} {lat lng : Field ℚ} :
    UnitInput.edit (untouchedBody fd u lat lng) u = u ↔
      trimSpace (text fd "title_ar") = u.titleAr ∧ trimSpace (text fd "title_en") = u.titleEn ∧
      trimSpace (text fd "description_ar") = u.descriptionAr ∧
      trimSpace (text fd "description_en") = u.descriptionEn ∧
      blankToNil (some (text fd "house_rules_ar")) = u.houseRulesAr ∧
      blankToNil (some (text fd "house_rules_en")) = u.houseRulesEn ∧
      normalizeAmenities (list fd "amenities") = u.amenities ∧
      setCoord u.lat 90 lat = u.lat ∧ setCoord u.lng 180 lng = u.lng ∧
      blankToNil (some (text fd "exact_address")) = u.exactAddress := by
  cases u
  simp only [UnitInput.edit, untouchedBody, UnitRecord.mk.injEq, setField_nullField, setNullable_nullField]
  simp only [setField, setNullable, true_and, and_true]

/-- **When the form is stored as the unit was.** -/
theorem apply_untouched_iff {texts : Texts} {fd : FormData} {u : UnitRecord} {lat lng : Field ℚ}
    (hu : Kind.Admitted texts .unit u) :
    Kind.apply texts .unit (untouchedBody fd u lat lng) u = .ok u ↔
      UnitInput.edit (untouchedBody fd u lat lng) u = u ∧
        coordProblem "lat" 90 lat = [] ∧ coordProblem "lng" 180 lng = [] := by
  have hrecord := (Kind.apply_ok.mp hu.apply).1
  rw [Kind.apply_ok, and_comm]
  refine and_congr_right (fun hedit => ?_)
  constructor
  · intro h
    exact ⟨h _ (Kind.coordProblems_subset .unit texts _ _ List.mem_cons_self),
      h _ (Kind.coordProblems_subset .unit texts _ _ (List.mem_cons_of_mem _ List.mem_cons_self))⟩
  · intro h
    obtain ⟨hlat, hlng⟩ := h
    obtain ⟨arg, harg, -⟩ := UnitRecord.params_of_checked hrecord
    obtain rfl := UnitRecord.record_params harg
    refine nil_of_drop hrecord 21 ?_ rfl
    simp only [Kind.problems, UnitInput.problems, untouchedBody, List.take_succ_cons, List.take_zero, hlat,
      hlng]
    rfl

/-! ### Coordinates there and back -/

theorem roundHalfEven_le {x : ℚ} {n : ℤ} (h : |x| ≤ n) : |roundHalfEven x| ≤ n := by
  obtain ⟨hlow, hhigh⟩ := abs_le.mp h
  have hfloor : -n ≤ ⌊x⌋ := Int.le_floor.mpr (by push_cast; exact hlow)
  have hself : x = n → roundHalfEven x = n := by
    rintro rfl
    exact roundHalfEven_of_close (by simp)
  rcases eq_or_lt_of_le hhigh with heq | hlt
  · rw [hself heq]
    have hn : 0 ≤ n := by exact_mod_cast (abs_nonneg x).trans h
    rw [abs_of_nonneg hn]
  · have hbelow : ⌊x⌋ < n := Int.floor_lt.mpr hlt
    rw [roundHalfEven]
    split_ifs <;> exact abs_le.mpr ⟨by omega, by omega⟩

section Coordinates

variable {w : Wire}

/-- What is stored as a coordinate is in range. -/
theorem coord_bounded {x : Number} {f : Field ℚ} {dst : Option ℤ} {name : String} {limit : ℕ}
    (hf : decodeNumber w toNumber x = some f) (hp : coordProblem name limit f = [])
    (hset : setCoord dst limit f = dst) : ∀ z ∈ dst, |z| ≤ limit * 10 ^ 6 := by
  cases f with
  | absent =>
    cases x with
    | none => cases hf
    | some x =>
      obtain ⟨v, -, hv⟩ := Option.map_eq_some_iff.mp hf
      cases hv
  | null =>
    intro z hz
    rw [← hset] at hz
    cases hz
  | value v =>
    rw [coordProblem] at hp
    split_ifs at hp with hrange
    obtain ⟨hlow, hhigh⟩ := not_or.mp hrange
    rw [setCoord, if_neg hrange] at hset
    intro z hz
    rw [← hset] at hz
    obtain rfl := Option.some.inj hz
    refine roundHalfEven_le (abs_le.mpr ⟨?_, ?_⟩)
    · push_cast
      linarith
    · push_cast
      linarith

/-- A coordinate in range arrives as it was. -/
theorem coord_back (hw : w.Lawful) {fd : FormData} {key name : String} {z : ℤ} {limit : ℕ}
    (hlimit : limit ≤ 180) (hz : |z| ≤ limit * 10 ^ 6)
    (hfd : fd key = some (w.numberString (degrees z))) :
    decodeNumber w toNumber (nullableNumber fd key) = some (.value (degrees z)) ∧
      coordProblem name limit (.value (degrees z)) = [] ∧
      setCoord (some z) limit (.value (degrees z)) = some z := by
  have hlimit' : (limit : ℤ) ≤ 180 := by exact_mod_cast hlimit
  have hall : |z| ≤ 180 * 10 ^ 6 := by linarith
  have hwritten := exists_written 6 z
  have hord := ordinary_scaled (by norm_num : 6 ≤ 15) (lt_of_le_of_lt hall (by norm_num))
  obtain ⟨t, ht⟩ := hwritten
  obtain ⟨hlow, hhigh⟩ := degrees_le hlimit hz
  have hrange : ¬ (degrees z < -limit ∨ limit < degrees z) :=
    not_or.mpr ⟨not_lt.mpr hlow, not_lt.mpr hhigh⟩
  refine ⟨?_, if_neg hrange, ?_⟩
  · rw [(number_sent hw ⟨t, ht⟩ hord hfd).2, decodeNumber,
      (toNumber_written (hw.number _ t ht) hord).1, Option.map_some, degrees]
  · rw [setCoord, if_neg hrange, toNumeric_degrees hall]

/-- The coordinates are both there or both not, and in range. -/
structure PinKept (u : UnitRecord) : Prop where
  pair : u.lat.isSome = u.lng.isSome
  lat : ∀ z ∈ u.lat, |z| ≤ (90 : ℕ) * 10 ^ 6
  lng : ∀ z ∈ u.lng, |z| ≤ (180 : ℕ) * 10 ^ 6

theorem pin_none {p : UnitPage} (h : point p = none) : nullableNumber (unitForm w p) "lat" = none ∧
    nullableNumber (unitForm w p) "lng" = none := by
  refine ⟨blank_sent ?_, blank_sent ?_⟩
  · show some ((((point p).map Prod.fst).map w.numberString).getD "") = some ""
    rw [h]
    rfl
  · show some ((((point p).map Prod.snd).map w.numberString).getD "") = some ""
    rw [h]
    rfl

theorem pin_some {p : UnitPage} {x y : ℚ} (h : point p = some (x, y)) :
    unitForm w p "lat" = some (w.numberString x) ∧ unitForm w p "lng" = some (w.numberString y) := by
  constructor
  · show some ((((point p).map Prod.fst).map w.numberString).getD "") = _
    rw [h]
    rfl
  · show some ((((point p).map Prod.snd).map w.numberString).getD "") = _
    rw [h]
    rfl

theorem point_eq_none {p : UnitPage} (h : p.unit.lat = none ∨ p.unit.lng = none) : point p = none := by
  rw [point]
  cases hx : p.unit.lat with
  | none => rfl
  | some x =>
    cases hy : p.unit.lng with
    | none => rfl
    | some y => simp [hx, hy] at h

/-- The pin is where the unit is, placed or not. -/
theorem point_eq_some {p : UnitPage} {x y : ℤ} (hx : p.unit.lat = some x) (hy : p.unit.lng = some y)
    (hxr : |x| ≤ 180 * 10 ^ 6) (hyr : |y| ≤ 180 * 10 ^ 6) : point p = some (degrees x, degrees y) := by
  have hplace : ∀ z : ℤ, |z| ≤ 180 * 10 ^ 6 →
      (if p.mapLoaded then round6 (degrees z) else degrees z) = degrees z := by
    intro z hz
    split
    · exact round6_degrees hz
    · rfl
  rw [point, hx, hy]
  show some ((if p.mapLoaded then round6 (degrees x) else degrees x),
    (if p.mapLoaded then round6 (degrees y) else degrees y)) = _
  rw [hplace x hxr, hplace y hyr]

/-- The coordinates arrive, with nothing wrong, as they are stored. -/
def PinBack (w : Wire) (p : UnitPage) (lat lng : Field ℚ) : Prop :=
  (decodeNumber w toNumber (nullableNumber (unitForm w p) "lat") = some lat ∧
      coordProblem "lat" 90 lat = [] ∧ setCoord p.unit.lat 90 lat = p.unit.lat) ∧
    decodeNumber w toNumber (nullableNumber (unitForm w p) "lng") = some lng ∧
      coordProblem "lng" 180 lng = [] ∧ setCoord p.unit.lng 180 lng = p.unit.lng

/-- **Which pins come back.** -/
theorem pin_back_iff (hw : w.Lawful) {p : UnitPage} :
    (∃ lat lng, PinBack w p lat lng) ↔ PinKept p.unit := by
  constructor
  · intro h
    obtain ⟨lat, lng, ⟨hlat, hlatp, hlats⟩, hlng, hlngp, hlngs⟩ := h
    refine ⟨?_, coord_bounded hlat hlatp hlats, coord_bounded hlng hlngp hlngs⟩
    by_cases hnone : p.unit.lat = none ∨ p.unit.lng = none
    · -- No pin, so both are cleared.
      obtain ⟨hlat', hlng'⟩ := pin_none (point_eq_none hnone)
      rw [hlat'] at hlat
      rw [hlng'] at hlng
      cases hlat
      cases hlng
      rw [← hlats, ← hlngs]
      rfl
    · obtain ⟨hx, hy⟩ := not_or.mp hnone
      rw [Option.isSome_iff_ne_none.mpr hx, Option.isSome_iff_ne_none.mpr hy]
  · intro h
    have hpair := h.pair
    cases hx : p.unit.lat with
    | none =>
      rw [hx, Option.isSome_none] at hpair
      have hy : p.unit.lng = none := Option.isSome_eq_false_iff.mp hpair.symm |> Option.isNone_iff_eq_none.mp
      obtain ⟨hlat, hlng⟩ := pin_none (point_eq_none (Or.inl hx))
      refine ⟨.null, .null, ⟨?_, rfl, hx.symm⟩, ?_, rfl, hy.symm⟩
      · rw [hlat]
        rfl
      · rw [hlng]
        rfl
    | some x =>
      rw [hx] at hpair
      obtain ⟨y, hy⟩ := Option.isSome_iff_exists.mp hpair.symm
      have hxr := h.lat x hx
      have hyr := h.lng y hy
      obtain ⟨hlat, hlng⟩ := pin_some
        (point_eq_some hx hy (by push_cast at hxr; linarith) (by push_cast at hyr; linarith))
      refine ⟨.value (degrees x), .value (degrees y), ?_, ?_⟩
      · rw [hx]
        exact coord_back hw (by norm_num) hxr hlat
      · rw [hy]
        exact coord_back hw (le_refl _) hyr hlng

end Coordinates

/-! ### Units that survive -/

/-- A unit of which nothing is lost in an untouched form. -/
structure Survives (u : UnitRecord) : Prop where
  lines : ∀ t ∈ [u.titleAr, u.titleEn], OneLine t ∧ Unmarked t
  areas : ∀ t ∈ [u.descriptionAr, u.descriptionEn] ++ u.houseRulesAr.toList ++ u.houseRulesEn.toList
    ++ u.exactAddress.toList, Paired t.toList ∧ Unmarked t
  amenities : ∀ a ∈ u.amenities, Plain a ∧ '\r' ∉ a.toList
  pin : PinKept u

/-- The columns of a unit a PATCH leaves alone are trimmed. -/
theorem edit_untouched_survives {w : Wire} {p : UnitPage} {lat lng : Field ℚ} {texts : Texts}
    (hu : Kind.Admitted texts .unit p.unit) :
    UnitInput.edit (untouchedBody (unitForm w p) p.unit lat lng) p.unit = p.unit ↔
      ((∀ t ∈ [p.unit.titleAr, p.unit.titleEn], OneLine t ∧ Unmarked t) ∧
        (∀ t ∈ [p.unit.descriptionAr, p.unit.descriptionEn] ++ p.unit.houseRulesAr.toList
          ++ p.unit.houseRulesEn.toList ++ p.unit.exactAddress.toList, Paired t.toList ∧ Unmarked t) ∧
        ∀ a ∈ p.unit.amenities, Plain a ∧ '\r' ∉ a.toList) ∧
      setCoord p.unit.lat 90 lat = p.unit.lat ∧ setCoord p.unit.lng 180 lng = p.unit.lng := by
  have hedit : UnitInput.edit {} p.unit = p.unit := (Kind.apply_ok.mp hu.apply).2
  have hstored : ∀ (get : UnitRecord → String), get (UnitInput.edit {} p.unit) = trimSpace (get p.unit) →
      trimSpace (get p.unit) = get p.unit := fun get h => h.symm.trans (congrArg get hedit)
  have hnullable : ∀ (get : UnitRecord → Option String),
      get (UnitInput.edit {} p.unit) = blankToNil (get p.unit) →
      blankToNil (get p.unit) = get p.unit := fun get h => h.symm.trans (congrArg get hedit)
  have hamenities : normalizeAmenities p.unit.amenities = p.unit.amenities :=
    congrArg UnitRecord.amenities hedit
  have htitleAr : trimSpace (text (unitForm w p) "title_ar") = p.unit.titleAr ↔ _ :=
    line_back_iff (hstored UnitRecord.titleAr rfl)
  have htitleEn : trimSpace (text (unitForm w p) "title_en") = p.unit.titleEn ↔ _ :=
    line_back_iff (hstored UnitRecord.titleEn rfl)
  have hdescriptionAr : trimSpace (text (unitForm w p) "description_ar") = p.unit.descriptionAr ↔ _ :=
    area_back_iff (hstored UnitRecord.descriptionAr rfl)
  have hdescriptionEn : trimSpace (text (unitForm w p) "description_en") = p.unit.descriptionEn ↔ _ :=
    area_back_iff (hstored UnitRecord.descriptionEn rfl)
  have hrulesAr : blankToNil (some (text (unitForm w p) "house_rules_ar")) = p.unit.houseRulesAr ↔ _ :=
    nullArea_back_iff (hnullable UnitRecord.houseRulesAr rfl)
  have hrulesEn : blankToNil (some (text (unitForm w p) "house_rules_en")) = p.unit.houseRulesEn ↔ _ :=
    nullArea_back_iff (hnullable UnitRecord.houseRulesEn rfl)
  have haddress : blankToNil (some (text (unitForm w p) "exact_address")) = p.unit.exactAddress ↔ _ :=
    nullArea_back_iff (hnullable UnitRecord.exactAddress rfl)
  have hlist : normalizeAmenities (list (unitForm w p) "amenities") = p.unit.amenities ↔ _ :=
    amenities_back_iff hamenities rfl
  rw [edit_untouched_iff, htitleAr, htitleEn, hdescriptionAr, hdescriptionEn, hrulesAr, hrulesEn, haddress,
    hlist]
  simp only [List.forall_mem_append, List.forall_mem_cons, List.not_mem_nil, false_implies, implies_true,
    and_true, Option.mem_toList]
  constructor
  · rintro ⟨h₁, h₂, h₃, h₄, h₅, h₆, h₇, hlat, hlng, h₈⟩
    exact ⟨⟨⟨h₁, h₂⟩, ⟨⟨⟨⟨h₃, h₄⟩, h₅⟩, h₆⟩, h₈⟩, h₇⟩, hlat, hlng⟩
  · rintro ⟨⟨⟨h₁, h₂⟩, ⟨⟨⟨⟨h₃, h₄⟩, h₅⟩, h₆⟩, h₈⟩, h₇⟩, hlat, hlng⟩
    exact ⟨h₁, h₂, h₃, h₄, h₅, h₆, h₇, hlat, hlng, h₈⟩

/-- A slug that is checked is one. -/
theorem canonical_of_checkSlug {fold : String → Option String} {quote : String → String} {sl : String}
    (h : checkSlug.{0} (Slug.texts fold quote) sl = .ok ⟨⟩) : Slug.Canonical sl.toList := by
  rw [checkSlug] at h
  split_ifs at h with hbad
  obtain ⟨hne, hmake⟩ := not_or.mp hbad
  have hself : Slug.make fold sl = sl := not_not.mp hmake
  rcases Slug.make_canonical fold sl with hempty | hcanonical
  · exact absurd (hself.symm.trans hempty) hne
  · rwa [hself] at hcanonical

/-- A unit that refers to rows that are there, and that was checked, has its choices among the options. -/
theorem choosable_of_admitted {fold : String → Option String} {quote : String → String} {d : Rows} {id : ℕ}
    {mapLoaded : Bool} {p : UnitPage} (hkeys : KeysHold d) (hpage : editUnitPage id mapLoaded d = some p)
    (hu : Kind.Admitted (Slug.texts fold quote) .unit p.unit)
    (hprice : ∀ n ∈ p.unit.nightlyPrice, n.toInt < 10 ^ 15) : ∃ owner compound, Choosable p owner compound := by
  obtain ⟨u, hfind, rfl⟩ := Option.map_eq_some_iff.mp hpage
  have hproblems := (Kind.apply_ok.mp hu.apply).1
  obtain ⟨arg, harg, row, hrow⟩ := UnitRecord.params_of_checked hproblems
  obtain rfl := UnitRecord.record_params harg
  have hrefs := hkeys.refs .unit id _ hfind
  have howner : (Kind.find .owner arg.details.ownerId d).isSome := hrefs (.owner, _) List.mem_cons_self
  have hcompound : (Kind.find .compound arg.details.compoundId d).isSome :=
    hrefs (.compound, _) (List.mem_cons_of_mem _ List.mem_cons_self)
  obtain ⟨o, ho⟩ := find_of_isSome howner
  obtain ⟨c, hc⟩ := find_of_isSome hcompound
  obtain ⟨homem, hoid⟩ := Table.mem_of_find? ho
  obtain ⟨hcmem, hcid⟩ := Table.mem_of_find? hc
  have harea : (d.2.areas.find? c.areaId).isSome = true := by
    have hcfind : Kind.find .compound arg.details.compoundId d = some c.record := by
      rw [Kind.find, hc]
      rfl
    have hfound := hkeys.refs .compound _ _ hcfind (.area, c.areaId) List.mem_cons_self
    obtain ⟨a, ha⟩ := find_of_isSome hfound
    rw [ha]
    rfl
  refine ⟨arg.details.ownerId, arg.details.compoundId, ⟨rfl, ?_⟩, ⟨rfl, ?_⟩, ⟨_, rfl⟩, ⟨_, rfl⟩, ⟨_, rfl⟩, ?_,
    fun n hn => ⟨?_, hprice n hn⟩⟩
  · exact List.mem_map.mpr ⟨o, homem, hoid⟩
  · exact List.mem_map.mpr ⟨c, List.mem_filter.mpr ⟨hcmem, harea⟩, hcid⟩
  · exact canonical_of_checkSlug hu.checked
  · have hchecks := (AdminUpdateUnitParams.row_ok_iff.mp ⟨row, hrow⟩).2.2.2
    rw [Option.all_eq_true] at hchecks
    have hpositive := of_decide_eq_true (hchecks n hn)
    exact Int64.lt_iff_toInt_lt.mp hpositive

/-- **Saved untouched.**  From rows the constraints hold of, and after any POSTs and PATCHes, the edit page
of a unit that was added, saved with nothing touched, goes through, answers the unit and changes no column
of any row, just when the unit survives: no line break in a title and none but pairs in the other texts, no
byte order mark at an end of one, plain amenities, and a pin in range or none. -/
theorem untouched_form_keeps_the_unit {fold : String → Option String} (hfold : Slug.KeepsAscii fold)
    (quote : String → String) {d₀ : Rows} (h₀ : KeysHold d₀) {s : EditSys}
    (h : EditReaches (Slug.texts fold quote) d₀ s) {w : Wire} (hw : w.Lawful) {id : ℕ}
    (hnew : Kind.find .unit id d₀ = none) {mapLoaded : Bool} {p : UnitPage}
    (hpage : editUnitPage id mapLoaded s.db.1 = some p)
    (hprice : ∀ n ∈ p.unit.nightlyPrice, n.toInt < 10 ^ 15) :
    (∃ body, saveUntouched w p = some body ∧ ∀ now os, ∃ d,
      serve fullPostgres now (adminPatch (Slug.texts fold quote) .unit (some id) body) os s.db.1
        = (.ok p.unit, d) ∧ ∀ (k : Kind) (id' : ℕ), k.find id' d = k.find id' s.db.1) ↔
      Survives p.unit := by
  have hkept := kept_of_reaches quote hfold h₀ h
  have hfind : Kind.find .unit id s.db.1 = some p.unit := by
    obtain ⟨u, hu, rfl⟩ := Option.map_eq_some_iff.mp hpage
    exact hu
  have hadmitted := hkept.admitted .unit id p.unit hnew hfind
  obtain ⟨owner, compound, hchoosable⟩ := choosable_of_admitted hkept.keys hpage hadmitted hprice
  rw [decodeUnit_untouched hw hchoosable]
  constructor
  · rintro ⟨body, hbody, hserve⟩
    obtain ⟨lat, hlat, hbody⟩ := Option.bind_eq_some_iff.mp hbody
    obtain ⟨lng, hlng, rfl⟩ := Option.map_eq_some_iff.mp hbody
    obtain ⟨d, hpatch, -⟩ := hserve 0 (fun n => oracleAt n 0)
    obtain ⟨r, arg, wr, hr, happly, -⟩ := serve_adminPatch_ok hpatch
    obtain rfl : p.unit = r := Option.some.inj (hfind.symm.trans hr)
    obtain ⟨hedit, hlatp, hlngp⟩ := (apply_untouched_iff hadmitted).mp happly
    obtain ⟨⟨hlines, hareas, hamenities⟩, hlats, hlngs⟩ := (edit_untouched_survives hadmitted).mp hedit
    exact ⟨hlines, hareas, hamenities,
      (pin_back_iff hw).mp ⟨lat, lng, ⟨hlat, hlatp, hlats⟩, hlng, hlngp, hlngs⟩⟩
  · intro hsurvives
    obtain ⟨lat, lng, ⟨hlat, hlatp, hlats⟩, hlng, hlngp, hlngs⟩ := (pin_back_iff hw).mpr hsurvives.pin
    refine ⟨untouchedBody (unitForm w p) p.unit lat lng, ?_, fun now os => ?_⟩
    · rw [hlat, Option.bind_some, hlng, Option.map_some]
    · have hedit := (edit_untouched_survives (w := w) hadmitted).mpr
        ⟨⟨hsurvives.lines, hsurvives.areas, hsurvives.amenities⟩, hlats, hlngs⟩
      exact serve_adminPatch_self hkept.keys hfind
        ((apply_untouched_iff hadmitted).mpr ⟨hedit, hlatp, hlngp⟩) hadmitted.checked

/-! ### A unit by the lagoon -/

/-- The small world's catalogue before it has a unit. -/
def emptyCoast : Rows := ({ turnoverWorld with units := Table.empty }, smallCatalogue)

theorem find_emptyCoast {k : Kind} {id : ℕ} {r : k.Record} (h : k.find id emptyCoast = some r) :
    id = 1 ∧ k.find 1 emptyCoast = some r := by
  have hid : id = 1 := by
    have hrecord := Kind.recordId_find h
    cases k with
    | unit => cases h
    | compound =>
      obtain ⟨c, hc, rfl⟩ := Option.map_eq_some_iff.mp h
      obtain rfl := List.mem_singleton.mp (Table.mem_of_find? hc).1
      exact hrecord.symm
    | area =>
      obtain ⟨a, ha, rfl⟩ := Option.map_eq_some_iff.mp h
      obtain rfl := List.mem_singleton.mp (Table.mem_of_find? ha).1
      exact hrecord.symm
    | owner =>
      obtain ⟨o, ho, rfl⟩ := Option.map_eq_some_iff.mp h
      obtain rfl := List.mem_singleton.mp (Table.mem_of_find? ho).1
      exact hrecord.symm
  rw [hid] at h
  exact ⟨hid, h⟩

theorem emptyCoast_keysHold : KeysHold emptyCoast := by
  constructor
  · intro k id r hr id' r' sl hr' _ _
    rw [Kind.recordId_find hr, (find_emptyCoast hr).1, (find_emptyCoast hr').1]
  · intro k id r hr
    have hone := (find_emptyCoast hr).2
    cases k with
    | unit => cases hone
    | compound =>
      cases hone
      intro p hp
      obtain rfl := List.mem_singleton.mp hp
      rfl
    | area => exact fun p hp => absurd hp List.not_mem_nil
    | owner => exact fun p hp => absurd hp List.not_mem_nil

/-- A unit with a pin and two lines of description. -/
def lagoonBody : UnitInput where
  ownerId := .value 1
  compoundId := .value 1
  slug := .value "lagoon"
  titleAr := .value "شاليه"
  titleEn := .value "Lagoon chalet"
  descriptionAr := .value "صف أول"
  descriptionEn := .value "First row\r\nNo stairs"
  type := .value (.known .chalet)
  bedrooms := .value 2
  bathrooms := .value 1
  baseGuests := .value 4
  maxGuests := .value 6
  seaDistanceM := .value 300
  view := .value (.known .lagoon)
  amenities := .value ["pool", "beach towels"]
  lat := .value (3082 / 100)
  lng := .value (2891 / 100)
  nightlyPrice := .value 150050

def lagoon : UnitRecord where
  id := 7
  ownerId := some 1
  compoundId := some 1
  slug := "lagoon"
  titleAr := "شاليه"
  titleEn := "Lagoon chalet"
  descriptionAr := "صف أول"
  descriptionEn := "First row\r\nNo stairs"
  houseRulesAr := none
  houseRulesEn := none
  type := .known .chalet
  bedrooms := 2
  bathrooms := 1
  baseGuests := 4
  maxGuests := 6
  areaSqm := none
  floor := none
  seaDistanceM := 300
  view := .known .lagoon
  rowNumber := none
  amenities := ["pool", "beach towels"]
  lat := some 30820000
  lng := some 28910000
  exactAddress := none
  status := .known .draft
  nightlyPrice := some 150050
  bufferDays := 0
  advanceNoticeHours := 24
  maxAdvanceDays := 365

/-- The rows after it is added. -/
def withLagoon : EditRows :=
  (serve editPostgres 0 (editProgram (Slug.texts some id) (.inr ⟨.unit, lagoonBody⟩))
    (fun n => oracleAt (n + 7) 0) (emptyCoast, ⟨⟩)).2

theorem find_lagoon : Kind.find .unit 7 withLagoon.1 = some lagoon := by
  decide +kernel

theorem lagoon_survives : Survives lagoon := by
  have hunmarked : ∀ t ∈ ["شاليه", "Lagoon chalet", "صف أول", "First row\r\nNo stairs", "pool", "beach towels"],
      t.toList.head? ≠ some '\uFEFF' ∧ t.toList.getLast? ≠ some '\uFEFF' := by
    decide
  have hpaired : ∀ t ∈ ["صف أول", "First row\r\nNo stairs"], Paired t.toList := by
    simp [Paired]
  have hlines : ∀ t ∈ ["شاليه", "Lagoon chalet"], inputValue t = t := by
    decide
  have hplain : ∀ a ∈ ["pool", "beach towels"],
      (a.toList.all fun c => isSeparator c == false) = true ∧ '\r' ∉ a.toList := by
    decide
  refine ⟨fun t ht => ?_, fun t ht => ?_, fun a ha => ?_, ⟨rfl, ?_, ?_⟩⟩
  · have ht' : t ∈ ["شاليه", "Lagoon chalet"] := ht
    exact ⟨inputValue_eq_iff.mp (hlines t ht'), hunmarked t (by simp at ht' ⊢; tauto)⟩
  · have ht' : t ∈ ["صف أول", "First row\r\nNo stairs"] := by simpa [lagoon] using ht
    exact ⟨hpaired t ht', hunmarked t (by simp at ht' ⊢; tauto)⟩
  · have ha' : a ∈ ["pool", "beach towels"] := ha
    obtain ⟨hsep, hreturn⟩ := hplain a ha'
    exact ⟨⟨fun c hc => eq_of_beq (List.all_eq_true.mp hsep c hc), hunmarked a (by simp at ha' ⊢; tauto)⟩,
      hreturn⟩
  · intro z hz
    obtain rfl := Option.some.inj hz
    norm_num
  · intro z hz
    obtain rfl := Option.some.inj hz
    norm_num

/-- Ids in digits, and a number as the language writes it. -/
noncomputable def plainWire : Wire where
  uuidString n := String.ofList (Nat.toDigits 10 n)
  parseUUID t := wholeDigits t.toList
  numberString x := Classical.epsilon (Written x)

theorem plainWire_lawful : plainWire.Lawful := by
  have hlist : ∀ n, (plainWire.uuidString n).toList = Nat.toDigits 10 n := fun n => String.toList_ofList
  refine ⟨fun n => ?_, fun n => ⟨?_, ?_⟩, fun x t ht => Classical.epsilon_spec ⟨t, ht⟩⟩
  · show wholeDigits (plainWire.uuidString n).toList = some n
    rw [hlist, wholeDigits_toDigits]
  · have hblank : ∀ c ∈ (plainWire.uuidString n).toList, isBlank c = false := by
      intro c hc
      rw [hlist] at hc
      exact isBlank_of_isDigit (isDigit_toDigits n c hc)
    exact trim_eq_self_iff.mpr (Strip.strip_eq_self_iff.mpr
      ⟨fun c hc => hblank c (List.mem_of_mem_head? hc), fun c hc => hblank c (List.mem_of_mem_getLast? hc)⟩)
  · intro hempty
    have hpos : 0 < (Nat.toDigits 10 n).length := Nat.length_toDigits_pos
    rw [← hlist, hempty] at hpos
    exact absurd hpos (lt_irrefl 0)

/-- Its form, with the map loaded. -/
theorem untouched_form_keeps_the_unit_lagoon : ∃ p body, editUnitPage 7 true withLagoon.1 = some p ∧
    p.unit = lagoon ∧ saveUntouched plainWire p = some body ∧ ∃ d,
      serve fullPostgres 0 (adminPatch (Slug.texts some id) .unit (some 7) body) (fun n => oracleAt n 0)
        withLagoon.1 = (.ok lagoon, d) ∧
      ∀ (k : Kind) (id' : ℕ), k.find id' d = k.find id' withLagoon.1 := by
  obtain ⟨calls, hreach⟩ := Reaches.serve (D := editPostgres)
    (.refl : EditReaches (Slug.texts some id) emptyCoast ⟨(emptyCoast, ⟨⟩), []⟩)
    (.inr ⟨.unit, lagoonBody⟩) (fun n => oracleAt (n + 7) 0) 0
  have hpage : ∃ p, editUnitPage 7 true withLagoon.1 = some p ∧ p.unit = lagoon := by
    rw [editUnitPage, find_lagoon]
    exact ⟨_, rfl, rfl⟩
  obtain ⟨p, hp, hunit⟩ := hpage
  have hprice : ∀ n ∈ p.unit.nightlyPrice, n.toInt < 10 ^ 15 := by
    rw [hunit]
    intro n hn
    obtain rfl := Option.some.inj hn
    decide
  obtain ⟨body, hbody, hserve⟩ := (untouched_form_keeps_the_unit (show Slug.KeepsAscii some from fun _ _ => rfl)
    id emptyCoast_keysHold hreach plainWire_lawful (rfl : Kind.find .unit 7 emptyCoast = none) hp
    hprice).mpr (hunit ▸ lagoon_survives)
  rw [← hunit]
  exact ⟨p, body, hp, rfl, hbody, hserve 0 (fun n => oracleAt n 0)⟩

end Web

end Sahel

import Mathlib.Data.List.Basic
import Sahel.Library.Utf8

/-!
# Lists of names and values as one text

The `application/x-www-form-urlencoded` format: names and values in UTF-8, bytes other than letters,
digits and `*-._` written as `%` and two hexadecimal digits, spaces as `+`, and the pairs joined by `&`.

* `serialize` writes a list of pairs, `parse` reads one;
* `component_escape`: one name or value is read back;
* **`parse_serialize`**: so is every list.
-/

set_option autoImplicit false

namespace FormUrlencoded

/-! ### Writing -/

/-- Bytes that stand for themselves. -/
def plain (b : UInt8) : Bool :=
  (0x30 ≤ b && b ≤ 0x39) || (0x41 ≤ b && b ≤ 0x5A) || (0x61 ≤ b && b ≤ 0x7A)
    || b == 0x2A || b == 0x2D || b == 0x2E || b == 0x5F

def hexDigit (n : UInt8) : UInt8 := if n < 10 then 0x30 + n else 0x37 + n

def escapeByte (b : UInt8) : List UInt8 :=
  if b = 0x20 then [0x2B]
  else if plain b then [b]
  else [0x25, hexDigit (b / 16), hexDigit (b % 16)]

/-- A name or a value. -/
def escape (s : String) : List UInt8 := (Utf8.encode s.toList).flatMap escapeByte

/-- A name and its value. -/
def piece (p : String × String) : List UInt8 := escape p.1 ++ 0x3D :: escape p.2

/-- The text of bytes below 128. -/
def asciiText (bytes : List UInt8) : String := String.ofList (bytes.map (fun b => Char.ofNat b.toNat))

def serialize (pairs : List (String × String)) : String :=
  asciiText ([0x26].intercalate (pairs.map piece))

/-! ### Reading -/

def hexValue? (b : UInt8) : Option UInt8 :=
  if 0x30 ≤ b && b ≤ 0x39 then some (b - 0x30)
  else if 0x41 ≤ b && b ≤ 0x46 then some (b - 0x37)
  else if 0x61 ≤ b && b ≤ 0x66 then some (b - 0x57)
  else none

/-- The byte that `%` and two digits stand for. -/
def escaped? (b high low : UInt8) : Option UInt8 := do
  if b ≠ 0x25 then none
  let x ← hexValue? high
  let y ← hexValue? low
  some (16 * x + y)

def percentDecode : List UInt8 → List UInt8
  | b :: high :: low :: s =>
    match escaped? b high low with
    | some c => c :: percentDecode s
    | none => b :: percentDecode (high :: low :: s)
  | b :: s => b :: percentDecode s
  | [] => []

def plusToSpace (b : UInt8) : UInt8 := if b = 0x2B then 0x20 else b

/-- A name or a value. -/
def component (s : List UInt8) : String :=
  String.ofList (Utf8.decode (percentDecode (s.map plusToSpace)))

/-- A name and its value, which is empty where no `=` follows the name. -/
def pair (s : List UInt8) : String × String :=
  (component (s.takeWhile (fun b => b != 0x3D)), component (s.dropWhile (fun b => b != 0x3D)).tail)

def parse (text : String) : List (String × String) :=
  (((Utf8.encode text.toList).splitOn 0x26).filter (fun s => ! s.isEmpty)).map pair

example : serialize [("q", "a b"), ("area", "é&=+%")] = "q=a+b&area=%C3%A9%26%3D%2B%25" := by decide +kernel

/-! ### One byte -/

/-- A hexadecimal digit: ASCII, no separator, question mark or plus, and read back. -/
structure HexFacts (n : UInt8) : Prop where
  ascii : hexDigit n < 0x80
  noQuestion : hexDigit n ≠ 0x3F
  noAnd : hexDigit n ≠ 0x26
  noEquals : hexDigit n ≠ 0x3D
  noPlus : hexDigit n ≠ 0x2B
  value : hexValue? (hexDigit n) = some n

theorem hexFacts {n : UInt8} (h : n < 16) : HexFacts n := by
  have hall : ∀ n < 16, hexDigit (UInt8.ofNat n) < 0x80 ∧ hexDigit (UInt8.ofNat n) ≠ 0x3F ∧
      hexDigit (UInt8.ofNat n) ≠ 0x26 ∧ hexDigit (UInt8.ofNat n) ≠ 0x3D ∧
      hexDigit (UInt8.ofNat n) ≠ 0x2B ∧
      hexValue? (hexDigit (UInt8.ofNat n)) = some (UInt8.ofNat n) := by decide
  have hn := hall n.toNat (UInt8.lt_iff_toNat_lt.mp h)
  rw [UInt8.ofNat_toNat] at hn
  obtain ⟨hascii, hquestion, hand, hequals, hplus, hvalue⟩ := hn
  exact ⟨hascii, hquestion, hand, hequals, hplus, hvalue⟩

/-- The digits of a byte. -/
theorem hexDigits (b : UInt8) : b / 16 < 16 ∧ b % 16 < 16 ∧ 16 * (b / 16) + b % 16 = b := by
  have hb := b.toNat_lt
  refine ⟨?_, ?_, ?_⟩
  · rw [UInt8.lt_iff_toNat_lt, UInt8.toNat_div]
    show b.toNat / 16 < 16
    omega
  · rw [UInt8.lt_iff_toNat_lt, UInt8.toNat_mod]
    show b.toNat % 16 < 16
    omega
  · rw [← UInt8.toNat_inj, UInt8.toNat_add, UInt8.toNat_mul, UInt8.toNat_div, UInt8.toNat_mod]
    show (16 * (b.toNat / 16) % 256 + b.toNat % 16) % 256 = b.toNat
    omega

theorem plain_bounds {b : UInt8} (h : plain b = true) :
    b < 0x80 ∧ b ≠ 0x3F ∧ b ≠ 0x26 ∧ b ≠ 0x3D ∧ b ≠ 0x2B ∧ b ≠ 0x25 := by
  have hother : ∀ c, plain c = false → b ≠ c := by
    intro c hc heq
    rw [heq, hc] at h
    cases h
  refine ⟨?_, hother _ rfl, hother _ rfl, hother _ rfl, hother _ rfl, hother _ rfl⟩
  simp only [plain, Bool.or_eq_true, Bool.and_eq_true, decide_eq_true_eq, beq_iff_eq,
    UInt8.le_iff_toNat_le, ← UInt8.toNat_inj] at h
  rw [UInt8.lt_iff_toNat_lt]
  simp only [UInt8.reduceToNat] at h ⊢
  omega

/-- An escaped byte: ASCII without separators or question marks, and read back as the byte. -/
structure ByteFacts (b : UInt8) : Prop where
  bytes : ∀ c ∈ escapeByte b, c < 0x80 ∧ c ≠ 0x3F ∧ c ≠ 0x26 ∧ c ≠ 0x3D
  read : ((escapeByte b).map plusToSpace = [b] ∧ b ≠ 0x25) ∨
    ((escapeByte b).map plusToSpace = [0x25, hexDigit (b / 16), hexDigit (b % 16)] ∧
      escaped? 0x25 (hexDigit (b / 16)) (hexDigit (b % 16)) = some b)

theorem byteFacts (b : UInt8) : ByteFacts b := by
  by_cases hspace : b = 0x20
  · subst hspace
    have hself : escapeByte 0x20 = [0x2B] := rfl
    refine ⟨?_, Or.inl (by decide)⟩
    rw [hself, List.forall_mem_singleton]
    decide
  · by_cases hplain : plain b = true
    · obtain ⟨hascii, hquestion, hand, heq, hplus, hpercent⟩ := plain_bounds hplain
      have hself : escapeByte b = [b] := by rw [escapeByte, if_neg hspace, if_pos hplain]
      have hkept : plusToSpace b = b := if_neg hplus
      refine ⟨fun c hc => ?_, Or.inl ⟨?_, hpercent⟩⟩
      · rw [hself] at hc
        rw [List.mem_singleton.mp hc]
        exact ⟨hascii, hquestion, hand, heq⟩
      · rw [hself, List.map_singleton, hkept]
    · obtain ⟨hhigh, hlow, hsum⟩ := hexDigits b
      have hself : escapeByte b = [0x25, hexDigit (b / 16), hexDigit (b % 16)] := by
        rw [escapeByte, if_neg hspace, if_neg hplain]
      have hhex := hexFacts hhigh
      have hhex' := hexFacts hlow
      refine ⟨fun c hc => ?_, Or.inr ⟨?_, ?_⟩⟩
      · rw [hself] at hc
        rcases List.mem_cons.mp hc with rfl | hc
        · decide
        · rcases List.mem_cons.mp hc with rfl | hc
          · exact ⟨hhex.ascii, hhex.noQuestion, hhex.noAnd, hhex.noEquals⟩
          · rw [List.mem_singleton.mp hc]
            exact ⟨hhex'.ascii, hhex'.noQuestion, hhex'.noAnd, hhex'.noEquals⟩
      · rw [hself]
        show [plusToSpace 0x25, plusToSpace (hexDigit (b / 16)), plusToSpace (hexDigit (b % 16))] = _
        rw [plusToSpace, plusToSpace, plusToSpace, if_neg (by decide), if_neg hhex.noPlus,
          if_neg hhex'.noPlus]
      · simp [escaped?, hhex.value, hhex'.value, hsum]

theorem percentDecode_cons {b : UInt8} (h : b ≠ 0x25) (s : List UInt8) :
    percentDecode (b :: s) = b :: percentDecode s := by
  match s with
  | [] => rfl
  | [_] => rfl
  | high :: low :: s =>
    have hnone : escaped? b high low = none := by simp [escaped?, h]
    rw [percentDecode, hnone]

/-- **A byte is read back**, with others behind it. -/
theorem percentDecode_escapeByte (b : UInt8) (s : List UInt8) :
    percentDecode ((escapeByte b).map plusToSpace ++ s) = b :: percentDecode s := by
  obtain ⟨hself, hne⟩ | ⟨hhex, hsome⟩ := (byteFacts b).read
  · rw [hself, List.singleton_append, percentDecode_cons hne]
  · rw [hhex]
    show percentDecode (0x25 :: hexDigit (b / 16) :: hexDigit (b % 16) :: s) = b :: percentDecode s
    rw [percentDecode, hsome]

/-! ### Names and values -/

theorem percentDecode_flatMap (bytes : List UInt8) :
    percentDecode ((bytes.flatMap escapeByte).map plusToSpace) = bytes := by
  induction bytes with
  | nil => rfl
  | cons b bytes ih => rw [List.flatMap_cons, List.map_append, percentDecode_escapeByte, ih]

/-- **A name or a value is read back.** -/
theorem component_escape (s : String) : component (escape s) = s := by
  rw [component, escape, percentDecode_flatMap, Utf8.decode_encode, String.ofList_toList]

theorem mem_escape {s : String} {c : UInt8} (h : c ∈ escape s) : c < 0x80 ∧ c ≠ 0x3F ∧ c ≠ 0x26 ∧ c ≠ 0x3D := by
  obtain ⟨b, -, hc⟩ := List.mem_flatMap.mp h
  exact (byteFacts b).bytes c hc

theorem mem_piece {p : String × String} {c : UInt8} (h : c ∈ piece p) :
    c < 0x80 ∧ c ≠ 0x3F ∧ c ≠ 0x26 := by
  rcases List.mem_append.mp h with hname | hvalue
  · obtain ⟨hascii, hquestion, hand, -⟩ := mem_escape hname
    exact ⟨hascii, hquestion, hand⟩
  · rcases List.mem_cons.mp hvalue with rfl | hvalue
    · decide
    · obtain ⟨hascii, hquestion, hand, -⟩ := mem_escape hvalue
      exact ⟨hascii, hquestion, hand⟩

/-- A name does not run into its value. -/
theorem pair_piece (p : String × String) : pair (piece p) = p := by
  have hname : ∀ c ∈ escape p.1, (c != 0x3D) = true :=
    fun c hc => bne_iff_ne.mpr (mem_escape hc).2.2.2
  have htake : (piece p).takeWhile (fun b => b != 0x3D) = escape p.1 := by
    rw [piece, List.takeWhile_append_of_pos hname, List.takeWhile_cons_of_neg (by decide),
      List.append_nil]
  have hdrop : (piece p).dropWhile (fun b => b != 0x3D) = 0x3D :: escape p.2 := by
    rw [piece, List.dropWhile_append_of_pos hname, List.dropWhile_cons_of_neg (by decide)]
  rw [pair, htake, hdrop, List.tail_cons, component_escape, component_escape]

/-! ### Lists -/

theorem encode_asciiText {bytes : List UInt8} (h : ∀ b ∈ bytes, b < 0x80) :
    Utf8.encode (asciiText bytes).toList = bytes := by
  rw [asciiText, String.toList_ofList]
  induction bytes with
  | nil => rfl
  | cons b bytes ih =>
    have hall : ∀ n < 128, String.utf8EncodeChar (Char.ofNat n) = [UInt8.ofNat n] := by decide +kernel
    have hb : String.utf8EncodeChar (Char.ofNat b.toNat) = [b] := by
      rw [hall b.toNat (UInt8.lt_iff_toNat_lt.mp (h b List.mem_cons_self)), UInt8.ofNat_toNat]
    rw [List.map_cons]
    show String.utf8EncodeChar (Char.ofNat b.toNat) ++ Utf8.encode _ = b :: bytes
    rw [hb, ih (fun c hc => h c (List.mem_cons_of_mem _ hc)), List.singleton_append]

theorem mem_intercalate {α : Type} {sep a : α} {l : List (List α)} (h : a ∈ [sep].intercalate l) :
    a = sep ∨ ∃ s ∈ l, a ∈ s := by
  induction l with
  | nil => exact absurd h List.not_mem_nil
  | cons s l ih =>
    cases l with
    | nil =>
      rw [List.intercalate_singleton] at h
      exact Or.inr ⟨s, List.mem_singleton_self s, h⟩
    | cons s' l =>
      rw [List.intercalate_cons_cons, List.mem_append, List.mem_append, List.mem_singleton] at h
      obtain (hs | hsep) | hrest := h
      · exact Or.inr ⟨s, List.mem_cons_self, hs⟩
      · exact Or.inl hsep
      · exact (ih hrest).imp_right (fun ⟨t, ht, ha⟩ => ⟨t, List.mem_cons_of_mem _ ht, ha⟩)

theorem mem_pieces {pairs : List (String × String)} {b : UInt8}
    (h : b ∈ [0x26].intercalate (pairs.map piece)) : b < 0x80 ∧ b ≠ 0x3F := by
  rcases mem_intercalate h with rfl | ⟨s, hs, hb⟩
  · decide
  · obtain ⟨p, -, rfl⟩ := List.mem_map.mp hs
    exact ⟨(mem_piece hb).1, (mem_piece hb).2.1⟩

theorem encode_serialize (pairs : List (String × String)) :
    Utf8.encode (serialize pairs).toList = [0x26].intercalate (pairs.map piece) :=
  encode_asciiText (fun _ hb => (mem_pieces hb).1)

/-- What is written does not begin as the query of a URL does. -/
theorem head_serialize (pairs : List (String × String)) : (serialize pairs).toList.head? ≠ some '?' := by
  intro hhead
  obtain ⟨rest, hrest⟩ := List.head?_eq_some_iff.mp hhead
  have hbytes := encode_serialize pairs
  rw [hrest] at hbytes
  have hmem : (0x3F : UInt8) ∈ [0x26].intercalate (pairs.map piece) := by
    rw [← hbytes]
    exact List.mem_cons_self
  exact (mem_pieces hmem).2 rfl

/-- **A list is read back.** -/
theorem parse_serialize (pairs : List (String × String)) : parse (serialize pairs) = pairs := by
  rw [parse, encode_serialize]
  cases pairs with
  | nil => decide
  | cons p pairs =>
    have hsplit : ([0x26].intercalate ((p :: pairs).map piece)).splitOn (0x26 : UInt8)
        = (p :: pairs).map piece := by
      refine List.splitOn_intercalate _ (fun s hs hmem => ?_) (List.cons_ne_nil _ _)
      obtain ⟨p, -, rfl⟩ := List.mem_map.mp hs
      exact (mem_piece hmem).2.2 rfl
    have hfull : ((p :: pairs).map piece).filter (fun s => ! s.isEmpty) = (p :: pairs).map piece := by
      refine List.filter_eq_self.mpr (fun s hs => ?_)
      obtain ⟨p, -, rfl⟩ := List.mem_map.mp hs
      simp [piece]
    rw [hsplit, hfull, List.map_map]
    exact (List.map_congr_left (fun p _ => pair_piece p)).trans (List.map_id _)

/-! ### Texts that are put together -/

theorem asciiText_append (a b : List UInt8) : asciiText (a ++ b) = asciiText a ++ asciiText b := by
  rw [asciiText, List.map_append, String.ofList_append]
  rfl

theorem intercalate_append {α : Type} (sep : α) {a b : List (List α)} (ha : a ≠ []) (hb : b ≠ []) :
    [sep].intercalate (a ++ b) = [sep].intercalate a ++ sep :: [sep].intercalate b := by
  induction a with
  | nil => exact absurd rfl ha
  | cons s a ih =>
    cases a with
    | nil =>
      obtain ⟨t, b', rfl⟩ := List.exists_cons_of_ne_nil hb
      rw [List.singleton_append, List.intercalate_cons_cons, List.intercalate_singleton,
        List.append_assoc, List.singleton_append]
    | cons s' a =>
      rw [List.cons_append, List.cons_append, List.intercalate_cons_cons, ← List.cons_append,
        ih (List.cons_ne_nil _ _), List.intercalate_cons_cons, List.append_assoc, List.append_assoc,
        List.append_assoc]

/-- **Two lists, one behind the other.** -/
theorem serialize_append {a b : List (String × String)} (ha : a ≠ []) (hb : b ≠ []) :
    serialize (a ++ b) = serialize a ++ "&" ++ serialize b := by
  have hamp : ∀ l, asciiText (0x26 :: l) = "&" ++ asciiText l := fun l => asciiText_append [0x26] l
  rw [serialize, List.map_append, intercalate_append _ (by simpa using ha) (by simpa using hb),
    asciiText_append, hamp, ← String.append_assoc]
  rfl

theorem serialize_ne_empty {pairs : List (String × String)} (h : pairs ≠ []) : serialize pairs ≠ "" := by
  intro hempty
  refine h ?_
  rw [← parse_serialize pairs, hempty]
  decide

theorem mem_piece_hash {p : String × String} {c : UInt8} (h : c ∈ piece p) : c ≠ 0x23 := by
  have hall : ∀ n < 256, (escapeByte (UInt8.ofNat n)).all (fun c => c != 0x23) = true := by
    decide +kernel
  have hescape : ∀ s, ∀ c ∈ escape s, c ≠ 0x23 := by
    intro s c hc
    obtain ⟨b, -, hb⟩ := List.mem_flatMap.mp hc
    have hbyte := hall b.toNat b.toNat_lt
    rw [UInt8.ofNat_toNat] at hbyte
    exact bne_iff_ne.mp (List.all_eq_true.mp hbyte c hb)
  rcases List.mem_append.mp h with hname | hvalue
  · exact hescape _ c hname
  · rcases List.mem_cons.mp hvalue with rfl | hvalue
    · decide
    · exact hescape _ c hvalue

/-- No character of what is written ends the query of a URL, or begins one. -/
theorem not_mem_serialize (pairs : List (String × String)) {c : Char} (hc : c = '?' ∨ c = '#') :
    c ∉ (serialize pairs).toList := by
  intro hmem
  rw [serialize, asciiText, String.toList_ofList, List.mem_map] at hmem
  obtain ⟨b, hb, rfl⟩ := hmem
  obtain ⟨hsmall, hquery, hfragment⟩ : b < 0x80 ∧ b ≠ 0x3F ∧ b ≠ 0x23 := by
    rcases mem_intercalate hb with rfl | ⟨s, hs, hbs⟩
    · decide
    · obtain ⟨p, -, rfl⟩ := List.mem_map.mp hs
      have hp := mem_piece hbs
      exact ⟨hp.1, hp.2.1, mem_piece_hash hbs⟩
  have hall : ∀ n < 128, n ≠ 0x3F → n ≠ 0x23 → Char.ofNat n ≠ '?' ∧ Char.ofNat n ≠ '#' := by
    decide +kernel
  have hchar := hall b.toNat (UInt8.lt_iff_toNat_lt.mp hsmall)
    (fun heq => hquery (UInt8.toNat_inj.mp heq)) (fun heq => hfragment (UInt8.toNat_inj.mp heq))
  rcases hc with hc | hc
  · exact hchar.1 hc
  · exact hchar.2 hc

end FormUrlencoded

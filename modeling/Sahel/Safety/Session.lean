import Sahel.Web.Session
import Sahel.Library.Utf8
import Mathlib.Data.List.GetD

/-!
# What an admin session proves

A token is accepted for its signature and its expiry and nothing else, whatever bytes an attacker
puts into the cookie.

* `constantTimeEqual_iff`: the loop over the padded texts decides equality of their UTF-8;
* `eq_of_encode`: a text with the UTF-8 of an ASCII text is that text;
* `expired_iff`: no clock can tell a rounded expiry from the exact one;
* `verify_iff`: the accepted tokens;
* **`session_tokens`**: all of it, with what it says of the tokens the server makes.
-/

set_option autoImplicit false

namespace Sahel

namespace Web

namespace Session

/-! ### Comparing -/

theorem xor_eq_zero_iff {n m : ℕ} : n ^^^ m = 0 ↔ n = m := by
  constructor
  · intro h
    calc n = n ^^^ m ^^^ m := by rw [Nat.xor_assoc, Nat.xor_self, Nat.xor_zero]
      _ = m := by rw [h, Nat.zero_xor]
  · rintro rfl
    exact Nat.xor_self n

/-- The accumulator stays zero when nothing differs. -/
theorem foldl_diffStep (x y : List UInt8) : ∀ (is : List ℕ) (diff : ℕ),
    is.foldl (diffStep x y) diff = 0 ↔ diff = 0 ∧ ∀ i ∈ is, x.getD i 0 = y.getD i 0 := by
  intro is
  induction is with
  | nil => simp
  | cons i is ih =>
    intro diff
    rw [List.foldl_cons, ih, diffStep, Nat.or_eq_zero_iff, xor_eq_zero_iff, UInt8.toNat_inj,
      List.forall_mem_cons, and_assoc]

/-- **The comparison decides equality of the encodings**, trailing zero bytes included. -/
theorem constantTimeEqual_iff (a b : JsString) :
    constantTimeEqual a b = true ↔ encode a = encode b := by
  rw [constantTimeEqual, beq_iff_eq, foldl_diffStep, xor_eq_zero_iff]
  constructor
  · rintro ⟨hlen, hall⟩
    refine List.ext_getElem hlen ?_
    intro i hi hi'
    have h := hall i (List.mem_range.mpr (lt_max_of_lt_left hi))
    rwa [List.getD_eq_getElem _ _ hi, List.getD_eq_getElem _ _ hi'] at h
  · intro h
    rw [h]
    exact ⟨rfl, fun _ _ => rfl⟩

/-! ### Texts and their characters -/

/-- A character as code units. -/
def charUnits (c : Char) : JsString :=
  if c.toNat < 0x10000 then [UInt16.ofNat c.toNat]
  else [UInt16.ofNat (0xD800 + (c.toNat - 0x10000) / 0x400),
    UInt16.ofNat (0xDC00 + (c.toNat - 0x10000) % 0x400)]

/-- A text of characters as code units. -/
def textUnits (text : List Char) : JsString := text.flatMap charUnits

theorem toNat_charOfNat {n : ℕ} (h : n.isValidChar) : (Char.ofNat n).toNat = n := by
  rw [Char.ofNat, dif_pos h]
  rfl

theorem isHigh_iff {u : UInt16} : isHigh u = true ↔ 0xD800 ≤ u.toNat ∧ u.toNat ≤ 0xDBFF := by
  rw [isHigh, Bool.and_eq_true, decide_eq_true_eq, decide_eq_true_eq, UInt16.le_iff_toNat_le,
    UInt16.le_iff_toNat_le]
  rfl

theorem isLow_iff {u : UInt16} : isLow u = true ↔ 0xDC00 ≤ u.toNat ∧ u.toNat ≤ 0xDFFF := by
  rw [isLow, Bool.and_eq_true, decide_eq_true_eq, decide_eq_true_eq, UInt16.le_iff_toNat_le,
    UInt16.le_iff_toNat_le]
  rfl

/-- A surrogate pair is the units of its character. -/
theorem charUnits_pairChar {hi lo : UInt16} (hhi : isHigh hi = true) (hlo : isLow lo = true) :
    charUnits (pairChar hi lo) = [hi, lo] := by
  obtain ⟨hhi, hhi'⟩ := isHigh_iff.mp hhi
  obtain ⟨hlo, hlo'⟩ := isLow_iff.mp hlo
  have hvalid : (0x10000 + (hi.toNat - 0xD800) * 0x400 + (lo.toNat - 0xDC00)).isValidChar := by
    rw [Nat.isValidChar]
    omega
  have hnat : (pairChar hi lo).toNat = 0x10000 + (hi.toNat - 0xD800) * 0x400 + (lo.toNat - 0xDC00) :=
    toNat_charOfNat hvalid
  have hfirst : 0xD800 + ((pairChar hi lo).toNat - 0x10000) / 0x400 = hi.toNat := by omega
  have hsecond : 0xDC00 + ((pairChar hi lo).toNat - 0x10000) % 0x400 = lo.toNat := by omega
  rw [charUnits, if_neg (by omega), hfirst, hsecond, UInt16.ofNat_toNat, UInt16.ofNat_toNat]

/-- A unit that is a character on its own is the units of that character. -/
theorem charUnits_unitChar {u : UInt16} (h : unitChar u ≠ '\uFFFD') : charUnits (unitChar u) = [u] := by
  rw [unitChar] at h ⊢
  split_ifs at h ⊢ with hs
  · exact absurd rfl h
  · rw [Bool.or_eq_true, not_or, isHigh_iff, isLow_iff] at hs
    have hu := u.toNat_lt
    have hvalid : u.toNat.isValidChar := by
      rw [Nat.isValidChar]
      omega
    rw [charUnits, toNat_charOfNat hvalid, if_pos hu, UInt16.ofNat_toNat]

/-- **A text is the units of its characters**, unless one of them stands for a broken pair. -/
theorem textUnits_scalars : ∀ {t : JsString}, (∀ c ∈ scalars t, c ≠ '\uFFFD') →
    textUnits (scalars t) = t := by
  intro t
  induction t using scalars.induct with
  | case1 hi lo rest hpair ih =>
    intro h
    obtain ⟨hhi, hlo⟩ := Bool.and_eq_true_iff.mp hpair
    rw [scalars, if_pos hpair] at h ⊢
    show charUnits (pairChar hi lo) ++ textUnits (scalars rest) = hi :: lo :: rest
    rw [charUnits_pairChar hhi hlo, ih (fun c hc => h c (List.mem_cons_of_mem _ hc))]
    rfl
  | case2 hi lo rest hpair ih =>
    intro h
    rw [scalars, if_neg hpair] at h ⊢
    show charUnits (unitChar hi) ++ textUnits (scalars (lo :: rest)) = hi :: lo :: rest
    rw [charUnits_unitChar (h _ List.mem_cons_self), ih (fun c hc => h c (List.mem_cons_of_mem _ hc))]
    rfl
  | case3 u =>
    intro h
    show charUnits (unitChar u) ++ [] = [u]
    rw [charUnits_unitChar (h _ List.mem_cons_self), List.append_nil]
  | case4 => exact fun _ => rfl

/-- A unit that begins no pair is read on its own. -/
theorem scalars_cons {u : UInt16} (h : isHigh u = false) (rest : JsString) :
    scalars (u :: rest) = unitChar u :: scalars rest := by
  cases rest with
  | nil => rfl
  | cons v rest => rw [scalars, h, Bool.false_and, if_neg Bool.false_ne_true]

/-- The units of a character are read as that character. -/
theorem scalars_charUnits (c : Char) (rest : JsString) : scalars (charUnits c ++ rest) = c :: scalars rest := by
  have hvalid : c.toNat < 0xD800 ∨ (0xDFFF < c.toNat ∧ c.toNat < 0x110000) := c.valid
  by_cases hbmp : c.toNat < 0x10000
  · have hnat : (UInt16.ofNat c.toNat).toNat = c.toNat := by
      rw [UInt16.toNat_ofNat', Nat.mod_eq_of_lt hbmp]
    have hhigh : isHigh (UInt16.ofNat c.toNat) = false := by
      rw [← Bool.not_eq_true, isHigh_iff, hnat]
      omega
    have hlow : isLow (UInt16.ofNat c.toNat) = false := by
      rw [← Bool.not_eq_true, isLow_iff, hnat]
      omega
    rw [charUnits, if_pos hbmp]
    show scalars (UInt16.ofNat c.toNat :: rest) = c :: scalars rest
    rw [scalars_cons hhigh, unitChar, hhigh, hlow, Bool.or_self, if_neg Bool.false_ne_true, hnat,
      Char.ofNat_toNat]
  · have hfirst : (UInt16.ofNat (0xD800 + (c.toNat - 0x10000) / 0x400)).toNat
        = 0xD800 + (c.toNat - 0x10000) / 0x400 := by
      rw [UInt16.toNat_ofNat', Nat.mod_eq_of_lt (by omega)]
    have hsecond : (UInt16.ofNat (0xDC00 + (c.toNat - 0x10000) % 0x400)).toNat
        = 0xDC00 + (c.toNat - 0x10000) % 0x400 := by
      rw [UInt16.toNat_ofNat', Nat.mod_eq_of_lt (by omega)]
    have hhigh : isHigh (UInt16.ofNat (0xD800 + (c.toNat - 0x10000) / 0x400)) = true := by
      rw [isHigh_iff, hfirst]
      omega
    have hlow : isLow (UInt16.ofNat (0xDC00 + (c.toNat - 0x10000) % 0x400)) = true := by
      rw [isLow_iff, hsecond]
      omega
    have hchar : 0x10000 + (0xD800 + (c.toNat - 0x10000) / 0x400 - 0xD800) * 0x400
        + (0xDC00 + (c.toNat - 0x10000) % 0x400 - 0xDC00) = c.toNat := by omega
    rw [charUnits, if_neg hbmp]
    show scalars (_ :: _ :: rest) = c :: scalars rest
    rw [scalars, hhigh, hlow, Bool.and_self, if_pos rfl, pairChar, hfirst, hsecond, hchar,
      Char.ofNat_toNat]

/-- **The units of characters** are read as these. -/
theorem scalars_textUnits (text : List Char) : scalars (textUnits text) = text := by
  induction text with
  | nil => rfl
  | cons c text ih =>
    show scalars (charUnits c ++ textUnits text) = c :: text
    rw [scalars_charUnits, ih]

/-! ### ASCII texts -/

/-- A text in ASCII. -/
def Ascii (s : JsString) : Prop := ∀ u ∈ s, u < 128

theorem unitChar_ascii {u : UInt16} (h : u < 128) : unitChar u = Char.ofNat u.toNat := by
  have hn : u.toNat < 128 := UInt16.lt_iff_toNat_lt.mp h
  have hhigh : isHigh u = false := by
    rw [isHigh, Bool.and_eq_false_iff, decide_eq_false_iff_not, UInt16.le_iff_toNat_le]
    exact Or.inl (by show ¬ 55296 ≤ u.toNat; omega)
  have hlow : isLow u = false := by
    rw [isLow, Bool.and_eq_false_iff, decide_eq_false_iff_not, UInt16.le_iff_toNat_le]
    exact Or.inl (by show ¬ 56320 ≤ u.toNat; omega)
  rw [unitChar, hhigh, hlow]
  rfl

theorem toNat_unitChar_ascii {u : UInt16} (h : u < 128) : (unitChar u).toNat = u.toNat := by
  have hn : u.toNat < 128 := UInt16.lt_iff_toNat_lt.mp h
  rw [unitChar_ascii h, toNat_charOfNat (Or.inl (by omega))]

theorem not_isHigh_ascii {u : UInt16} (h : u < 128) : isHigh u = false := by
  have hn : u.toNat < 128 := UInt16.lt_iff_toNat_lt.mp h
  rw [isHigh, Bool.and_eq_false_iff, decide_eq_false_iff_not, UInt16.le_iff_toNat_le]
  exact Or.inl (by show ¬ 55296 ≤ u.toNat; omega)

theorem scalars_ascii {s : JsString} (h : Ascii s) : scalars s = s.map unitChar := by
  induction s with
  | nil => rfl
  | cons u rest ih =>
    obtain ⟨hu, hrest⟩ := List.forall_mem_cons.mp h
    rw [scalars_cons (not_isHigh_ascii hu), ih hrest]
    rfl

/-- **A text with the UTF-8 of an ASCII text is that text.** -/
theorem eq_of_encode {r s : JsString} (hs : Ascii s) (h : encode r = encode s) : r = s := by
  have hscalars : scalars r = scalars s := Utf8.encode_injective h
  have hwhole : ∀ c ∈ scalars s, c ≠ '\uFFFD' := by
    intro c hc
    rw [scalars_ascii hs] at hc
    obtain ⟨u, hu, rfl⟩ := List.mem_map.mp hc
    intro hbad
    have hsmall : u.toNat < 128 := UInt16.lt_iff_toNat_lt.mp (hs u hu)
    have hnat := congrArg Char.toNat hbad
    rw [toNat_unitChar_ascii (hs u hu)] at hnat
    have hlarge : ('\uFFFD').toNat = 65533 := rfl
    omega
  rw [← textUnits_scalars (t := r) (hscalars ▸ hwhole), hscalars, textUnits_scalars hwhole]

/-! ### Signatures -/

/-- What `btoa` writes, in the alphabet of URLs. -/
theorem urlUnit_btoaSymbol : ∀ v < 64,
    urlUnit (btoaSymbol v) = UInt16.ofNat (Base64.symbol v).toNat := by decide

theorem symbol_range : ∀ v < 64, UInt16.ofNat (Base64.symbol v).toNat < 128 ∧
    UInt16.ofNat (Base64.symbol v).toNat ≠ 61 := by decide

theorem rdropWhile_filling (n : ℕ) {l : JsString} (hl : ∀ u ∈ l, u ≠ 61) :
    (l ++ List.replicate n 61).rdropWhile (· == 61) = l := by
  induction n with
  | zero =>
    rw [List.replicate_zero, List.append_nil, List.rdropWhile_eq_self_iff]
    intro hne
    simpa using hl _ (List.getLast_mem hne)
  | succ n ih =>
    rw [List.replicate_succ', ← List.append_assoc, List.rdropWhile_concat_pos _ _ _ (by decide), ih]

/-- The signature is base64 in the alphabet of URLs, without the filling. -/
theorem toBase64Url_eq (bytes : List UInt8) :
    toBase64Url bytes = (Base64.encode bytes).map (fun b => UInt16.ofNat b.toNat) := by
  have hsymbols : ((Base64.sextets bytes).map btoaSymbol).map urlUnit
      = (Base64.encode bytes).map (fun b => UInt16.ofNat b.toNat) := by
    rw [Base64.encode, List.map_map, List.map_map]
    exact List.map_congr_left (fun v hv => urlUnit_btoaSymbol v (Base64.sextets_lt bytes v hv))
  have hfilling : urlUnit 61 = 61 := by decide
  rw [toBase64Url, btoa, List.map_append, hsymbols, List.map_replicate, hfilling]
  refine rdropWhile_filling _ ?_
  intro u hu
  obtain ⟨b, hb, rfl⟩ := List.mem_map.mp hu
  obtain ⟨v, hv, rfl⟩ := List.mem_map.mp hb
  exact (symbol_range v (Base64.sextets_lt bytes v hv)).2

theorem sign_ascii (hmac : Hmac) (payload secret : JsString) : Ascii (sign hmac payload secret) := by
  intro u hu
  rw [sign, toBase64Url_eq] at hu
  obtain ⟨b, hb, rfl⟩ := List.mem_map.mp hu
  obtain ⟨v, hv, rfl⟩ := List.mem_map.mp hb
  exact (symbol_range v (Base64.sextets_lt _ v hv)).1

/-! ### The clock -/

theorem atMost_natCast (x : WithTop ℕ) (k : ℕ) : atMost x k = false ↔ WithTop.some k < x := by
  cases x with
  | top => exact ⟨fun _ => WithTop.coe_lt_top k, fun _ => rfl⟩
  | coe n =>
    show decide ((n : ℤ) ≤ k) = false ↔ _
    rw [decide_eq_false_iff_not, not_le, Nat.cast_lt]
    exact WithTop.coe_lt_coe.symm

theorem atMost_of_neg (x : WithTop ℕ) {k : ℤ} (h : k < 0) : atMost x k = false := by
  cases x with
  | top => rfl
  | coe n =>
    show decide ((n : ℤ) ≤ k) = false
    rw [decide_eq_false_iff_not]
    omega

/-- **An expiry is compared exactly**, however many digits it has. -/
theorem expired_iff {expiry : JsString} {now : TimeValue} :
    expired expiry now = false ↔ now.ms < digitsValue expiry := by
  have hrange := now.range
  rw [expired]
  rcases lt_or_ge now.ms 0 with hneg | hpos
  · exact ⟨fun _ => by omega, fun _ => atMost_of_neg _ hneg⟩
  · obtain ⟨k, hk⟩ := Int.eq_ofNat_of_zero_le hpos
    have hsmall : k < 2 ^ 53 := by omega
    rw [hk, atMost_natCast, number, Nat.cast_lt]
    exact Binary64.lt_ofNat_iff hsmall

/-! ### The accepted tokens -/

/-- A non-empty text of ASCII digits. -/
def Digits (e : JsString) : Prop := e ≠ [] ∧ e.all isDigit = true

theorem Digits.no_dot {e : JsString} (h : Digits e) : (46 : UInt16) ∉ e := by
  intro hdot
  exact absurd (List.all_eq_true.mp h.2 _ hdot) (by decide)

/-- The first dot of a text that starts with digits and a dot. -/
theorem idxOf?_dot {e rest : JsString} (h : (46 : UInt16) ∉ e) :
    (e ++ 46 :: rest).idxOf? 46 = some e.length := by
  induction e with
  | nil => rfl
  | cons u e ih =>
    rw [List.mem_cons, not_or] at h
    rw [List.cons_append, List.idxOf?_cons, if_neg (by simpa using Ne.symm h.1), ih h.2]
    rfl

/-- A text with a dot is what stands before its first one, the dot and the rest. -/
theorem eq_of_idxOf? {t : JsString} {dot : ℕ} (h : t.idxOf? 46 = some dot) :
    t = t.take dot ++ 46 :: t.drop (dot + 1) ∧ (t.take dot).length = dot := by
  obtain ⟨hlt, hdot, -⟩ := List.idxOf?_eq_some_iff.mp h
  constructor
  · rw [← hdot, List.getElem_cons_drop, List.take_append_drop]
  · rw [List.length_take]
    omega

/-- **The accepted tokens.**  Digits that say a time after now, a dot, their signature. -/
theorem verify_iff (hmac : Hmac) {secret : JsString} (hs : secret ≠ []) (token : JsString)
    (now : TimeValue) :
    verifySessionToken hmac (some token) (some secret) now = true ↔
      ∃ e, Digits e ∧ now.ms < digitsValue e ∧ token = e ++ 46 :: sign hmac e secret := by
  simp only [verifySessionToken]
  constructor
  · intro h
    split_ifs at h
    cases hdot : token.idxOf? 46 with
    | none =>
      rw [hdot] at h
      cases h
    | some dot =>
      rw [hdot] at h
      simp only at h
      split_ifs at h with hfirst hbad
      obtain ⟨hsplit, hlen⟩ := eq_of_idxOf? hdot
      rw [not_or, not_not, Bool.not_eq_true] at hbad
      refine ⟨token.take dot, hbad.1, expired_iff.mp hbad.2, ?_⟩
      have hsig := eq_of_encode (sign_ascii hmac _ secret) ((constantTimeEqual_iff _ _).mp h)
      rw [← hsig]
      exact hsplit
  · rintro ⟨e, hdigits, hlater, rfl⟩
    have hlong : 1 ≤ e.length := List.length_pos_iff.mpr hdigits.1
    have hlive : expired e now = false := expired_iff.mpr hlater
    rw [if_neg (by simp [hs]), idxOf?_dot hdigits.no_dot]
    simp only
    rw [if_neg (by omega), List.take_left, if_neg (by simp [hdigits.1, hdigits.2, hlive])]
    have hrest : (e ++ 46 :: sign hmac e secret).drop (e.length + 1) = sign hmac e secret := by
      rw [← List.drop_drop, List.drop_left]
      rfl
    rw [hrest, constantTimeEqual_iff]

/-! ### The tokens the server makes -/

theorem unitDigit : ∀ d < 10, isDigit (UInt16.ofNat (48 + d)) = true ∧
    (UInt16.ofNat (48 + d)).toNat - 48 = d := by decide

theorem digitsValue_digits (ds : List ℕ) (h : ∀ d ∈ ds, d < 10) :
    digitsValue (ds.reverse.map (fun d => UInt16.ofNat (48 + d))) = Nat.ofDigits 10 ds := by
  induction ds with
  | nil => rfl
  | cons d ds ih =>
    obtain ⟨hd, hds⟩ := List.forall_mem_cons.mp h
    rw [digitsValue] at ih
    rw [digitsValue, List.reverse_cons, List.map_append, List.foldl_append, ih hds]
    show 10 * Nat.ofDigits 10 ds + ((UInt16.ofNat (48 + d)).toNat - 48) = _
    rw [(unitDigit d hd).2, Nat.ofDigits_cons, Nat.add_comm]

/-- A printed number reads as itself. -/
theorem integerText_natCast (n : ℕ) : Digits (integerText n) ∧ digitsValue (integerText n) = n := by
  have htext : integerText n = (lastDigits n).reverse.map (fun d => UInt16.ofNat (48 + d)) := by
    rw [integerText, if_neg (by omega), Int.natAbs_natCast]
  have hsmall : ∀ d ∈ lastDigits n, d < 10 := fun d hd => lastDigits_lt hd
  rw [htext]
  refine ⟨⟨by simpa using lastDigits_ne_nil n, ?_⟩, ?_⟩
  · rw [List.all_eq_true]
    intro u hu
    obtain ⟨d, hd, rfl⟩ := List.mem_map.mp hu
    exact (unitDigit d (hsmall d (List.mem_reverse.mp hd))).1
  · rw [digitsValue_digits _ hsmall, ofDigits_lastDigits]

/-- What stands before the first dot is one text only. -/
theorem eq_of_dots {e e' rest rest' : JsString} (he : (46 : UInt16) ∉ e) (he' : (46 : UInt16) ∉ e')
    (h : e ++ 46 :: rest = e' ++ 46 :: rest') : e = e' := by
  have hlen : e.length = e'.length := by
    have hfirst : (e ++ 46 :: rest).idxOf? 46 = some e.length := idxOf?_dot he
    rw [h, idxOf?_dot he'] at hfirst
    exact (Option.some.inj hfirst).symm
  exact (List.append_inj h hlen).1

/-- **A session lasts until its expiry.** -/
theorem verify_created (hmac : Hmac) {secret : JsString} (hs : secret ≠ []) {t ttl : ℤ}
    (h : 0 ≤ t + ttl) (now : TimeValue) :
    verifySessionToken hmac (some (createSessionToken hmac secret t ttl)) (some secret) now = true ↔
      now.ms < t + ttl := by
  obtain ⟨n, hn⟩ := Int.eq_ofNat_of_zero_le h
  obtain ⟨hdigits, hvalue⟩ := integerText_natCast n
  rw [verify_iff hmac hs, createSessionToken, hn]
  constructor
  · rintro ⟨e, he, hlater, heq⟩
    rwa [← eq_of_dots hdigits.no_dot he.no_dot heq, hvalue] at hlater
  · intro hlater
    refine ⟨integerText n, hdigits, ?_, rfl⟩
    rwa [hvalue]

/-- **Admin sessions.**  Whatever HMAC computes and whatever the cookie holds, a token is accepted
exactly when it is digits that say a time after now, a dot and the signature of those digits under
the secret; so a token made by the server is accepted before its expiry and never from then on.  The
signatures are compared as UTF-8, exactly. -/
theorem session_tokens (hmac : Hmac) (secret : JsString) (hs : secret ≠ []) :
    (∀ (token : JsString) (now : TimeValue),
      verifySessionToken hmac (some token) (some secret) now = true ↔
        ∃ e, Digits e ∧ now.ms < digitsValue e ∧ token = e ++ 46 :: sign hmac e secret) ∧
    (∀ (t ttl : ℤ), 0 ≤ t + ttl → t + ttl < 2 ^ 53 → ∀ now : TimeValue,
      verifySessionToken hmac (some (createSessionToken hmac secret t ttl)) (some secret) now = true ↔
        now.ms < t + ttl) ∧
    ∀ a b : JsString, constantTimeEqual a b = true ↔ encode a = encode b :=
  ⟨verify_iff hmac hs, fun _ _ h _ => verify_created hmac hs h, constantTimeEqual_iff⟩

/-- HMAC-SHA256 of `sahel-admin:1800000060000` under `s3cret-password`. -/
def minuteHmac : Hmac := fun _ _ =>
  [7, 108, 172, 197, 78, 233, 186, 48, 24, 137, 203, 140, 1, 10, 2, 198, 107, 218, 190, 20, 111, 216,
    31, 231, 105, 254, 143, 166, 142, 208, 131, 178]

/-- A session of a minute, one second before its end. -/
theorem session_tokens_minute :
    verifySessionToken minuteHmac
      (some (units "1800000060000.B2ysxU7pujAYicuMAQoCxmvavhRv2B_naf6Ppo7Qg7I"))
      (some (units "s3cret-password")) ⟨1800000059000, by decide⟩ = true := by
  have htoken : createSessionToken minuteHmac (units "s3cret-password") 1800000000000 60000
      = units "1800000060000.B2ysxU7pujAYicuMAQoCxmvavhRv2B_naf6Ppo7Qg7I" := by decide +kernel
  rw [← htoken]
  exact ((session_tokens minuteHmac (units "s3cret-password") (by decide)).2.1 1800000000000 60000
    (by decide) (by decide) ⟨1800000059000, by decide⟩).mpr (by decide)

end Session

end Web

end Sahel

import Mathlib.Data.List.Basic

/-!
# Base64, the URL alphabet without padding

`RawURLEncoding` of Go's encoding/base64.  Three bytes are four sextets; a rest of one byte or two
becomes two sextets or three.  The decoder skips line ends and does not look at the bits that a rest
leaves over.

* `sextets` and `bytes?` are the two directions on numbers, `symbol` and `value?` the alphabet;
* **`decode_encode`** and `not_mem_encode`.
-/

set_option autoImplicit false

namespace Base64

/-! ### The alphabet -/

/-- `A` to `Z`, `a` to `z`, `0` to `9`, `-` and `_`. -/
def symbol (v : ℕ) : UInt8 :=
  if v < 26 then UInt8.ofNat (65 + v)
  else if v < 52 then UInt8.ofNat (71 + v)
  else if v < 62 then UInt8.ofNat (v - 4)
  else if v = 62 then 45
  else 95

def value? (c : UInt8) : Option ℕ :=
  let n := c.toNat
  if 65 ≤ n ∧ n ≤ 90 then some (n - 65)
  else if 97 ≤ n ∧ n ≤ 122 then some (n - 71)
  else if 48 ≤ n ∧ n ≤ 57 then some (n + 4)
  else if n = 45 then some 62
  else if n = 95 then some 63
  else none

theorem value?_symbol : ∀ v < 64, value? (symbol v) = some v := by decide

/-- A byte outside the alphabet is no symbol. -/
theorem symbol_ne {v : ℕ} (hv : v < 64) {c : UInt8} (hc : value? c = none) : symbol v ≠ c := by
  intro h
  have hval := value?_symbol v hv
  rw [h, hc] at hval
  cases hval

/-! ### Sextets -/

def sextets : List UInt8 → List ℕ
  | a :: b :: c :: rest =>
    let n := a.toNat * 65536 + b.toNat * 256 + c.toNat
    n / 262144 :: n / 4096 % 64 :: n / 64 % 64 :: n % 64 :: sextets rest
  | [a, b] =>
    let n := a.toNat * 65536 + b.toNat * 256
    [n / 262144, n / 4096 % 64, n / 64 % 64]
  | [a] =>
    let n := a.toNat * 65536
    [n / 262144, n / 4096 % 64]
  | [] => []

/-- One sextet alone is no byte. -/
def bytes? : List ℕ → Option (List UInt8)
  | w :: x :: y :: z :: rest =>
    let n := w * 262144 + x * 4096 + y * 64 + z
    (bytes? rest).map (fun bs =>
      UInt8.ofNat (n / 65536) :: UInt8.ofNat (n / 256) :: UInt8.ofNat n :: bs)
  | [w, x, y] =>
    let n := w * 262144 + x * 4096 + y * 64
    some [UInt8.ofNat (n / 65536), UInt8.ofNat (n / 256)]
  | [w, x] =>
    let n := w * 262144 + x * 4096
    some [UInt8.ofNat (n / 65536)]
  | [_] => none
  | [] => some []

theorem ofNat_eq {n : ℕ} {a : UInt8} (h : n % 256 = a.toNat) : UInt8.ofNat n = a := by
  apply UInt8.toNat_inj.mp
  rw [UInt8.toNat_ofNat', ← h]

theorem sextets_lt : ∀ bs : List UInt8, ∀ v ∈ sextets bs, v < 64
  | a :: b :: c :: rest => by
    have ha := a.toNat_lt
    have hb := b.toNat_lt
    have hc := c.toNat_lt
    intro v hv
    simp only [sextets, List.mem_cons] at hv
    rcases hv with rfl | rfl | rfl | rfl | hv
    · omega
    · omega
    · omega
    · omega
    · exact sextets_lt rest v hv
  | [a, b] => by
    have ha := a.toNat_lt
    have hb := b.toNat_lt
    intro v hv
    simp only [sextets, List.mem_cons, List.not_mem_nil, or_false] at hv
    rcases hv with rfl | rfl | rfl <;> omega
  | [a] => by
    have ha := a.toNat_lt
    intro v hv
    simp only [sextets, List.mem_cons, List.not_mem_nil, or_false] at hv
    rcases hv with rfl | rfl <;> omega
  | [] => fun v hv => absurd hv List.not_mem_nil

theorem bytes?_sextets : ∀ bs : List UInt8, bytes? (sextets bs) = some bs
  | a :: b :: c :: rest => by
    have ha := a.toNat_lt
    have hb := b.toNat_lt
    have hc := c.toNat_lt
    simp only [sextets, bytes?, bytes?_sextets rest, Option.map_some, Option.some.injEq,
      List.cons.injEq, and_true]
    exact ⟨ofNat_eq (by omega), ofNat_eq (by omega), ofNat_eq (by omega)⟩
  | [a, b] => by
    have ha := a.toNat_lt
    have hb := b.toNat_lt
    simp only [sextets, bytes?, Option.some.injEq, List.cons.injEq, and_true]
    exact ⟨ofNat_eq (by omega), ofNat_eq (by omega)⟩
  | [a] => by
    have ha := a.toNat_lt
    simp only [sextets, bytes?, Option.some.injEq, List.cons.injEq, and_true]
    exact ofNat_eq (by omega)
  | [] => rfl

/-! ### Texts -/

/-- `EncodeToString`. -/
def encode (bs : List UInt8) : List UInt8 := (sextets bs).map symbol

/-- `DecodeString`; `none` is any error. -/
def decode (text : List UInt8) : Option (List UInt8) := do
  let vs ← (text.filter (fun c => c ≠ 10 ∧ c ≠ 13)).mapM value?
  bytes? vs

/-- A byte outside the alphabet does not occur. -/
theorem not_mem_encode (bs : List UInt8) {c : UInt8} (hc : value? c = none) : c ∉ encode bs := by
  intro h
  obtain ⟨v, hv, hs⟩ := List.mem_map.mp h
  exact symbol_ne (sextets_lt bs v hv) hc hs

theorem mapM_value?_map_symbol : ∀ vs : List ℕ, (∀ v ∈ vs, v < 64) →
    (vs.map symbol).mapM value? = some vs
  | [], _ => rfl
  | v :: vs, h => by
    obtain ⟨hv, hvs⟩ := List.forall_mem_cons.mp h
    rw [List.map_cons, List.mapM_cons, value?_symbol v hv, mapM_value?_map_symbol vs hvs]
    rfl

/-- **What was encoded is decoded.** -/
theorem decode_encode (bs : List UInt8) : decode (encode bs) = some bs := by
  have hfilter : (encode bs).filter (fun c => c ≠ 10 ∧ c ≠ 13) = encode bs := by
    refine List.filter_eq_self.mpr (fun c hc => ?_)
    have hlf : c ≠ 10 := fun h => not_mem_encode bs (c := 10) rfl (h ▸ hc)
    have hcr : c ≠ 13 := fun h => not_mem_encode bs (c := 13) rfl (h ▸ hc)
    simp [hlf, hcr]
  rw [decode, hfilter, encode, mapM_value?_map_symbol _ (sextets_lt bs)]
  exact bytes?_sextets bs

end Base64

import Mathlib.Data.Nat.Digits.Defs
import Mathlib.Algebra.Order.Ring.Int

/-!
# Guest tokens

`SignToken` and `VerifyToken` of the guestauth package.  A token is the customer's id, the expiry in
Unix seconds and a keyed hash of the two, with dots between them.

* Text is bytes here, as Go has it: a token comes from outside and need not be UTF-8;
* `GoTime` is as much of `time.Time` as an expiry needs;
* HMAC-SHA256 is a parameter, and so is the base64 of the signature, with its two laws.
-/

set_option autoImplicit false

namespace Sahel

/-- A text in ASCII. -/
def ascii (s : String) : List UInt8 := s.toList.map (fun c => UInt8.ofNat c.toNat)

/-- `.` -/
def dot : UInt8 := 46

/-! ### Time -/

/-- An instant: the seconds since the year one, which wrap, and the nanoseconds after them. -/
structure GoTime where
  sec : Int64
  nsec : ℤ
  nsec_range : 0 ≤ nsec ∧ nsec < 1000000000

/-- `addSec`: a sum that leaves the range stays at its end. -/
def addSec (ext d : Int64) : Int64 :=
  let sum := ext + d
  if (decide (sum > ext)) = (decide (d > 0)) then sum
  else if d > 0 then Int64.maxValue
  else -Int64.maxValue

/-- The nanoseconds of a duration after its whole seconds, which are cut towards zero. -/
theorem nsec_rest (d : Int64) :
    -1000000000 < (d % 1000000000).toInt ∧ (d % 1000000000).toInt < 1000000000 := by
  have hmod : (d % 1000000000).toInt = d.toInt.tmod 1000000000 := Int64.toInt_mod d 1000000000
  rw [hmod]
  exact ⟨Int.lt_tmod_of_pos _ (by decide), Int.tmod_lt_of_pos _ (by decide)⟩

/-- `Add`, a duration in nanoseconds. -/
def GoTime.add (t : GoTime) (d : Int64) : GoTime :=
  let dsec := d / 1000000000
  let nsec := t.nsec + (d % 1000000000).toInt
  have range := t.nsec_range
  have rest := nsec_rest d
  if carry : nsec ≥ 1000000000 then ⟨addSec t.sec (dsec + 1), nsec - 1000000000, by omega⟩
  else if borrow : nsec < 0 then ⟨addSec t.sec (dsec - 1), nsec + 1000000000, by omega⟩
  else ⟨addSec t.sec dsec, nsec, by omega⟩

/-- `Unix`: the seconds since 1970. -/
def GoTime.unix (t : GoTime) : Int64 := t.sec - 62135596800

/-! ### Numbers -/

/-- The decimal digits of a number, the last one first. -/
def lastDigits (n : ℕ) : List ℕ := if n = 0 then [0] else Nat.digits 10 n

def digit (d : ℕ) : UInt8 := UInt8.ofNat (48 + d)

/-- `strconv.FormatInt(x, 10)`. -/
def formatInt (x : Int64) : List UInt8 :=
  let text := (lastDigits x.toInt.natAbs).reverse.map digit
  if x < 0 then 45 :: text else text

/-- The value of a text of ASCII digits. -/
def digits? (text : List UInt8) : Option ℕ :=
  if text = [] then none
  else text.foldlM (fun n c => if 48 ≤ c ∧ c ≤ 57 then some (10 * n + (c.toNat - 48)) else none) 0

/-- An optional sign, then digits. -/
def signed? (text : List UInt8) : Option ℤ :=
  match text with
  | 45 :: rest => (digits? rest).map (fun n : ℕ => -(n : ℤ))
  | 43 :: rest => (digits? rest).map (fun n : ℕ => (n : ℤ))
  | rest => (digits? rest).map (fun n : ℕ => (n : ℤ))

/-- `strconv.ParseInt(s, 10, 64)` on bytes; `none` is any error. -/
def parseInt (text : List UInt8) : Option Int64 :=
  (signed? text).bind (fun n => if -2 ^ 63 ≤ n ∧ n < 2 ^ 63 then some (Int64.ofInt n) else none)

/-! ### Round trip -/

theorem digit_range {d : ℕ} (h : d < 10) : (48 ≤ digit d ∧ digit d ≤ 57) ∧ (digit d).toNat - 48 = d := by
  have hall : ∀ d < 10, (48 ≤ digit d ∧ digit d ≤ 57) ∧ (digit d).toNat - 48 = d := by decide
  exact hall d h

theorem lastDigits_lt {n d : ℕ} (h : d ∈ lastDigits n) : d < 10 := by
  rw [lastDigits] at h
  split_ifs at h
  · rw [List.mem_singleton] at h
    omega
  · exact Nat.digits_lt_base (by decide) h

theorem lastDigits_ne_nil (n : ℕ) : lastDigits n ≠ [] := by
  rw [lastDigits]
  split_ifs with h
  · exact List.cons_ne_nil 0 []
  · exact Nat.digits_ne_nil_iff_ne_zero.mpr h

theorem ofDigits_lastDigits (n : ℕ) : Nat.ofDigits 10 (lastDigits n) = n := by
  rw [lastDigits]
  split_ifs with h
  · rw [h]
    rfl
  · exact Nat.ofDigits_digits 10 n

/-- Reading digits, the first one first. -/
theorem foldlM_digitBytes (ds : List ℕ) (h : ∀ d ∈ ds, d < 10) :
    (ds.reverse.map digit).foldlM
      (fun n c => if 48 ≤ c ∧ c ≤ 57 then some (10 * n + (c.toNat - 48)) else none) 0
        = some (Nat.ofDigits 10 ds) := by
  induction ds with
  | nil => rfl
  | cons d ds ih =>
    obtain ⟨hd, hds⟩ := List.forall_mem_cons.mp h
    obtain ⟨hrange, hval⟩ := digit_range hd
    rw [List.reverse_cons, List.map_append, List.foldlM_append, ih hds]
    simp only [List.map_cons, List.map_nil, List.foldlM_cons, List.foldlM_nil, Option.bind_eq_bind,
      Option.bind_some, if_pos hrange, hval, Nat.ofDigits_cons]
    rw [Nat.add_comm]
    rfl

theorem digits?_lastDigits (n : ℕ) : digits? ((lastDigits n).reverse.map digit) = some n := by
  have hne : (lastDigits n).reverse.map digit ≠ [] := by
    simpa using lastDigits_ne_nil n
  rw [digits?, if_neg hne, foldlM_digitBytes _ (fun d hd => lastDigits_lt hd), ofDigits_lastDigits]

/-- A text of digits has no sign in front. -/
theorem signed?_of_digits {text : List UInt8} {n : ℕ} (h : digits? text = some n) :
    signed? text = some (n : ℤ) := by
  unfold signed?
  split
  · simp [digits?] at h
  · simp [digits?] at h
  · rw [h, Option.map_some]

/-- The text of a number, read. -/
theorem signed?_formatInt (x : Int64) : signed? (formatInt x) = some x.toInt := by
  rw [formatInt]
  by_cases hneg : x < 0
  · have hneg' : x.toInt < 0 := Int64.lt_iff_toInt_lt.mp hneg
    have hval : -((x.toInt.natAbs : ℕ) : ℤ) = x.toInt := by omega
    rw [if_pos hneg]
    show (digits? ((lastDigits x.toInt.natAbs).reverse.map digit)).map (fun n : ℕ => -(n : ℤ)) = _
    rw [digits?_lastDigits, Option.map_some, hval]
  · have hpos : ¬ x.toInt < 0 := fun h => hneg (Int64.lt_iff_toInt_lt.mpr h)
    have hval : ((x.toInt.natAbs : ℕ) : ℤ) = x.toInt := by omega
    rw [if_neg hneg, signed?_of_digits (digits?_lastDigits _), hval]

/-- **A formatted number is read back.** -/
theorem parseInt_formatInt (x : Int64) : parseInt (formatInt x) = some x := by
  rw [parseInt, signed?_formatInt, Option.bind_some, if_pos ⟨x.le_toInt, x.toInt_lt⟩,
    Int64.ofInt_toInt]

/-- A formatted number has no dot. -/
theorem dot_not_mem_formatInt (x : Int64) : dot ∉ formatInt x := by
  have hdigit : dot ∉ (lastDigits x.toInt.natAbs).reverse.map digit := by
    intro h
    obtain ⟨d, hd, hdot⟩ := List.mem_map.mp h
    have hrange := (digit_range (lastDigits_lt (List.mem_reverse.mp hd))).1.1
    rw [hdot] at hrange
    exact absurd hrange (by decide)
  rw [formatInt]
  split_ifs
  · exact List.not_mem_cons_of_ne_of_not_mem (by decide) hdigit
  · exact hdigit

/-! ### Tokens -/

/-- The base64 of a signature: what is encoded is decoded, and no dot occurs. -/
structure SignatureEncoding where
  encode : List UInt8 → List UInt8
  decode : List UInt8 → Option (List UInt8)
  decode_encode : ∀ bs, decode (encode bs) = some bs
  dot_not_mem : ∀ bs, dot ∉ encode bs

section Token

variable (mac : List UInt8 → List UInt8 → List UInt8) (enc : SignatureEncoding)

/-- What is hashed. -/
def guestMessage (customerID exp : List UInt8) : List UInt8 :=
  ascii "guest:" ++ customerID ++ dot :: exp

def signToken (secret customerID : List UInt8) (now : GoTime) (ttl : Int64) : List UInt8 :=
  let exp := formatInt (now.add ttl).unix
  customerID ++ dot :: exp ++ dot :: enc.encode (mac secret (guestMessage customerID exp))

/-- The customer id of a valid, unexpired token. -/
def verifyToken (secret token : List UInt8) (now : GoTime) : List UInt8 × Bool :=
  if secret = [] then ([], false)
  else
    match token.splitOn dot with
    | [id, exp, sig] =>
      if id = [] then ([], false)
      else
        match parseInt exp with
        | none => ([], false)
        | some e =>
          if now.unix ≥ e then ([], false)
          else if enc.decode sig = some (mac secret (guestMessage id exp)) then (id, true)
          else ([], false)
    | _ => ([], false)

end Token

end Sahel

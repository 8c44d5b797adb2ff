import Mathlib.Data.List.Basic
import Mathlib.Data.Nat.Notation

/-!
# Bytes read as text

Byte strings need not be UTF-8.  A reader that goes over their characters reads the replacement
character where none begins, and skips some bytes.

* `runes` skips one byte, `decode` what could have begun a character;
* `runes_encode`, `decode_encode`: of UTF-8 both read the characters;
* **`encode_runes`**: where no replacement character is read, the bytes were UTF-8.
-/

set_option autoImplicit false

namespace Utf8

/-- Text as bytes. -/
def encode (l : List Char) : List UInt8 := l.flatMap String.utf8EncodeChar

def replacement : Char := '\uFFFD'

/-- The character that the bytes begin with, if they begin with one. -/
def first (s : List UInt8) : Option Char := s.toByteArray.utf8DecodeChar? 0

/-- At most `n` characters of a byte string; `skip` bytes are passed over where none begins. -/
def readFrom (skip : List UInt8 → ℕ) : ℕ → List UInt8 → List Char
  | 0, _ => []
  | _ + 1, [] => []
  | n + 1, b :: s =>
    match first (b :: s) with
    | some c => c :: readFrom skip n ((b :: s).drop c.utf8Size)
    | none => replacement :: readFrom skip n ((b :: s).drop (skip (b :: s)))

/-- The characters of a byte string, byte by byte where it is no UTF-8. -/
def runes (s : List UInt8) : List Char := readFrom (fun _ => 1) s.length s

/-- A byte that may follow the first of three or four. -/
def second (b c : UInt8) : Bool :=
  if b = 0xE0 then 0xA0 ≤ c && c ≤ 0xBF
  else if b = 0xED then 0x80 ≤ c && c ≤ 0x9F
  else if b = 0xF0 then 0x90 ≤ c && c ≤ 0xBF
  else if b = 0xF4 then 0x80 ≤ c && c ≤ 0x8F
  else 0xE1 ≤ b && b ≤ 0xF3 && 0x80 ≤ c && c ≤ 0xBF

/-- The bytes at the front that could have begun a character; at least one. -/
def subpart : List UInt8 → ℕ
  | b :: c :: d :: _ =>
    if second b c then (if 0xF0 ≤ b ∧ 0x80 ≤ d ∧ d ≤ 0xBF then 3 else 2) else 1
  | [b, c] => if second b c then 2 else 1
  | _ => 1

/-- The characters of a byte string, one replacement for every such front. -/
def decode (s : List UInt8) : List Char := readFrom subpart s.length s

example : decode [0x61, 0xF0, 0x9F, 0x98, 0x62, 0xC3] = ['a', replacement, 'b', replacement] := by
  decide +kernel

/-! ### Characters at the front -/

theorem first_append (c : Char) (t : List UInt8) : first (String.utf8EncodeChar c ++ t) = some c := by
  rw [first, List.toByteArray_append]
  exact ByteArray.utf8DecodeChar?_utf8EncodeChar_append

/-- The bytes of the first character, and the others. -/
theorem eq_append_of_first {s : List UInt8} {c : Char} (h : first s = some c) :
    String.utf8EncodeChar c ++ s.drop c.utf8Size = s := by
  obtain ⟨l, hl⟩ := ByteArray.exists_of_utf8DecodeChar?_eq_some h
  have hs : s = String.utf8EncodeChar c ++ l.data.toList := by
    have hbytes := congrArg (fun b : ByteArray => b.data.toList) hl
    simpa using hbytes
  have hlen : (String.utf8EncodeChar c).length = c.utf8Size := String.length_utf8EncodeChar c
  conv_lhs => rw [hs, ← hlen, List.drop_left]
  exact hs.symm

theorem encodeChar_ne_nil (c : Char) : String.utf8EncodeChar c ≠ [] := by
  have hlen : (String.utf8EncodeChar c).length = c.utf8Size := String.length_utf8EncodeChar c
  have hpos := c.utf8Size_pos
  intro h
  rw [h, List.length_nil] at hlen
  omega

/-! ### Whole byte strings -/

theorem readFrom_encode (skip : List UInt8 → ℕ) : ∀ (l : List Char) (n : ℕ),
    (encode l).length ≤ n → readFrom skip n (encode l) = l := by
  intro l
  induction l with
  | nil =>
    intro n _
    cases n <;> rfl
  | cons c l ih =>
    intro n hn
    have hcons : encode (c :: l) = String.utf8EncodeChar c ++ encode l := List.flatMap_cons
    have hlen : (String.utf8EncodeChar c).length = c.utf8Size := String.length_utf8EncodeChar c
    have hpos := c.utf8Size_pos
    rw [hcons, List.length_append] at hn
    cases n with
    | zero => omega
    | succ n =>
      have hfirst := first_append c (encode l)
      rw [hcons]
      cases hbytes : String.utf8EncodeChar c ++ encode l with
      | nil => exact absurd (List.append_eq_nil_iff.mp hbytes).1 (encodeChar_ne_nil c)
      | cons b s =>
        rw [hbytes] at hfirst
        rw [readFrom]
        simp only [hfirst]
        rw [← hbytes, ← hlen, List.drop_left, ih n (by omega)]

/-- **Text is read** from its bytes. -/
theorem runes_encode (l : List Char) : runes (encode l) = l := readFrom_encode _ l _ (Nat.le_refl _)

theorem decode_encode (l : List Char) : decode (encode l) = l := readFrom_encode _ l _ (Nat.le_refl _)

theorem encode_injective {a b : List Char} (h : encode a = encode b) : a = b := by
  rw [← runes_encode a, h, runes_encode]

theorem encode_readFrom (skip : List UInt8 → ℕ) : ∀ (n : ℕ) (s : List UInt8), s.length ≤ n →
    (∀ c ∈ readFrom skip n s, c ≠ replacement) → encode (readFrom skip n s) = s := by
  intro n
  induction n with
  | zero =>
    intro s hs _
    rw [List.length_eq_zero_iff.mp (Nat.le_zero.mp hs)]
    rfl
  | succ n ih =>
    intro s hs h
    cases s with
    | nil => rfl
    | cons b s =>
      rw [readFrom] at h ⊢
      cases hfirst : first (b :: s) with
      | none =>
        rw [hfirst] at h
        exact absurd rfl (h replacement List.mem_cons_self)
      | some c =>
        rw [hfirst] at h
        have hpos := c.utf8Size_pos
        have hrest : encode (readFrom skip n ((b :: s).drop c.utf8Size)) = (b :: s).drop c.utf8Size := by
          refine ih _ ?_ (fun d hd => h d (List.mem_cons_of_mem _ hd))
          rw [List.length_drop, List.length_cons]
          rw [List.length_cons] at hs
          omega
        show encode (c :: readFrom skip n ((b :: s).drop c.utf8Size)) = b :: s
        rw [encode, List.flatMap_cons]
        show String.utf8EncodeChar c ++ encode (readFrom skip n ((b :: s).drop c.utf8Size)) = b :: s
        rw [hrest]
        exact eq_append_of_first hfirst

/-- **Bytes are UTF-8** where no replacement is read. -/
theorem encode_runes {s : List UInt8} (h : ∀ c ∈ runes s, c ≠ replacement) : encode (runes s) = s :=
  encode_readFrom _ s.length s (Nat.le_refl _) h

end Utf8

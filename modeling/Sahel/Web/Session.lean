import Sahel.Library.Base64
import Sahel.Library.Binary64
import Sahel.Domain.GuestToken
import Mathlib.Data.List.DropRight

/-!
# Admin sessions

`lib/admin/session.ts`: a session is a signed cookie `<expiry ms>.<HMAC-SHA256>`, keyed by the admin
password.

* `JsString` is a JavaScript text: UTF-16 code units, halves of surrogate pairs on their own
  included, since a cookie may hold anything;
* `encode` is `TextEncoder`: a half on its own becomes U+FFFD;
* HMAC-SHA256 is a function of the platform, from a key and a message to bytes;
* `safeNext` is where a sign-in leads.

Clocks are time values; `Number` rounds to a double (`Binary64`).  Lengths of texts are far below
2³¹, so the 32-bit `^` of two lengths is the one of numbers.
-/

set_option autoImplicit false

namespace Sahel

namespace Web

namespace Session

/-! ### Texts -/

/-- A JavaScript text, by its UTF-16 code units. -/
abbrev JsString : Type := List UInt16

/-- A text in ASCII. -/
def units (s : String) : JsString := s.toList.map (fun c => UInt16.ofNat c.toNat)

def isHigh (u : UInt16) : Bool := 0xD800 ≤ u && u ≤ 0xDBFF

def isLow (u : UInt16) : Bool := 0xDC00 ≤ u && u ≤ 0xDFFF

/-- The character of a surrogate pair. -/
def pairChar (hi lo : UInt16) : Char :=
  Char.ofNat (0x10000 + (hi.toNat - 0xD800) * 0x400 + (lo.toNat - 0xDC00))

/-- The character of a unit that is in no pair. -/
def unitChar (u : UInt16) : Char :=
  if isHigh u || isLow u then '\uFFFD' else Char.ofNat u.toNat

/-- The characters of a text. -/
def scalars : JsString → List Char
  | hi :: lo :: rest =>
    if isHigh hi && isLow lo then pairChar hi lo :: scalars rest
    else unitChar hi :: scalars (lo :: rest)
  | [u] => [unitChar u]
  | [] => []

/-- `encoder.encode`: a text as UTF-8. -/
def encode (s : JsString) : List UInt8 := (scalars s).flatMap String.utf8EncodeChar

/-! ### Comparing -/

/-- One turn of the loop in `constantTimeEqual`: `diff |= (x[i] ?? 0) ^ (y[i] ?? 0)`. -/
def diffStep (x y : List UInt8) (diff i : ℕ) : ℕ :=
  diff ||| ((x.getD i 0).toNat ^^^ (y.getD i 0).toNat)

def constantTimeEqual (a b : JsString) : Bool :=
  let x := encode a
  let y := encode b
  (List.range (max x.length y.length)).foldl (diffStep x y) (x.length ^^^ y.length) == 0

/-! ### Signing -/

/-- The alphabet of `btoa`. -/
def btoaSymbol (v : ℕ) : UInt16 :=
  if v < 26 then UInt16.ofNat (65 + v)
  else if v < 52 then UInt16.ofNat (71 + v)
  else if v < 62 then UInt16.ofNat (v - 4)
  else if v = 62 then 43
  else 47

/-- `btoa` on the text whose units are the bytes: `=` fills the last four symbols. -/
def btoa (bytes : List UInt8) : JsString :=
  (Base64.sextets bytes).map btoaSymbol ++ List.replicate ((3 - bytes.length % 3) % 3) 61

/-- `.replace(/\+/g, "-").replace(/\//g, "_")`, on one unit. -/
def urlUnit (u : UInt16) : UInt16 := if u = 43 then 45 else if u = 47 then 95 else u

/-- `btoa` in the alphabet of URLs, with `.replace(/=+$/, "")`. -/
def toBase64Url (bytes : List UInt8) : JsString :=
  ((btoa bytes).map urlUnit).rdropWhile (· == 61)

/-- HMAC-SHA256: the key, then the message. -/
abbrev Hmac : Type := List UInt8 → List UInt8 → List UInt8

def sign (hmac : Hmac) (payload secret : JsString) : JsString :=
  toBase64Url (hmac (encode secret) (encode (units "sahel-admin:" ++ payload)))

/-! ### Tokens -/

/-- A clock value: milliseconds since 1970, as many as a `Date` holds. -/
structure TimeValue where
  ms : ℤ
  range : -8640000000000000 ≤ ms ∧ ms ≤ 8640000000000000

def isDigit (u : UInt16) : Bool := 48 ≤ u && u ≤ 57

/-- The value of ASCII digits. -/
def digitsValue (digits : JsString) : ℕ := digits.foldl (fun n u => 10 * n + (u.toNat - 48)) 0

/-- `Number` of a text of ASCII digits. -/
def number (digits : JsString) : WithTop ℕ := Binary64.ofNat (digitsValue digits)

/-- A number is at most an integer. -/
def atMost : WithTop ℕ → ℤ → Bool
  | some n, k => decide ((n : ℤ) ≤ k)
  | none, _ => false

/-- `Number(expiry) <= now`. -/
def expired (expiry : JsString) (now : TimeValue) : Bool := atMost (number expiry) now.ms

/-- `String` of an integer below 2⁵³ in size. -/
def integerText (n : ℤ) : JsString :=
  let digits := (lastDigits n.natAbs).reverse.map (fun d => UInt16.ofNat (48 + d))
  if n < 0 then 45 :: digits else digits

/-- The token of a session that starts at `now` and lasts `ttl` milliseconds. -/
def createSessionToken (hmac : Hmac) (secret : JsString) (now ttl : ℤ) : JsString :=
  let expiry := integerText (now + ttl)
  expiry ++ 46 :: sign hmac expiry secret

/-- An undefined token or secret, and an empty one, reject. -/
def verifySessionToken (hmac : Hmac) (token secret : Option JsString) (now : TimeValue) : Bool :=
  match token, secret with
  | some token, some secret =>
    if token = [] ∨ secret = [] then false
    else
      match token.idxOf? 46 with
      | none => false
      | some dot =>
        if dot < 1 then false
        else
          let expiry := token.take dot
          if ¬ (expiry ≠ [] ∧ expiry.all isDigit = true) ∨ expired expiry now = true then false
          else constantTimeEqual (token.drop (dot + 1)) (sign hmac expiry secret)
  | _, _ => false

/-! ### Where to go after signing in -/

/-- The two languages of the site. -/
inductive Locale where
  | ar
  | en
  deriving DecidableEq

def Locale.text : Locale → String
  | .ar => "ar"
  | .en => "en"

def home (locale : Locale) : JsString := units ("/" ++ locale.text ++ "/dashboard")

/-- Only what begins like this locale's dashboard is followed; null, undefined and an empty text are
not. -/
def safeNext (locale : Locale) (next : Option JsString) : JsString :=
  match next with
  | none => home locale
  | some next =>
    if next = [] ∨ ¬ home locale <+: next ∨ units "//" <+: next then home locale
    else
      let rest := next.drop (home locale).length
      if rest = [] ∨ units "/" <+: rest ∨ units "?" <+: rest then next else home locale

end Session

end Web

end Sahel

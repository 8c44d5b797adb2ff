import Sahel.Library.Base64
import Sahel.Domain.GuestToken
import Mathlib.Data.List.Basic

/-!
# Guest tokens hold together

What a token says is what was signed, whoever sends it and whatever its bytes.

* `splitOn_eq_three`: a text of three parts, read off its dots in one way only;
* `verifyToken_eq_true` says which tokens are accepted;
* **`guest_tokens`**: a signed token is accepted until it expires; an accepted one carries the hash of
  its own id and expiry; and no other id and expiry have the same message.
-/

set_option autoImplicit false

namespace Sahel

/-! ### Parts between dots -/

/-- No part has a separator. -/
theorem not_mem_of_mem_splitOn {α : Type} [DecidableEq α] {x : α} :
    ∀ {l part : List α}, part ∈ l.splitOn x → x ∉ part
  | [], part, h => by
    rw [List.splitOn_nil, List.mem_singleton] at h
    rw [h]
    exact List.not_mem_nil
  | c :: l, part, h => by
    rw [List.splitOn_cons_eq_if_modifyHead] at h
    split_ifs at h with hc
    · rcases List.mem_cons.mp h with rfl | h
      · exact List.not_mem_nil
      · exact not_mem_of_mem_splitOn h
    · cases hs : l.splitOn x with
      | nil => exact absurd hs (List.splitOn_ne_nil x l)
      | cons first rest =>
        rw [hs, List.modifyHead_cons] at h
        have ih : ∀ part ∈ first :: rest, x ∉ part := by
          intro part hpart
          rw [← hs] at hpart
          exact not_mem_of_mem_splitOn hpart
        rcases List.mem_cons.mp h with rfl | h
        · intro hx
          rcases List.mem_cons.mp hx with rfl | hx
          · exact hc (beq_self_eq_true x)
          · exact ih first List.mem_cons_self hx
        · exact ih part (List.mem_cons_of_mem _ h)

/-- **Three parts.** -/
theorem splitOn_eq_three {text a b c : List UInt8} : text.splitOn dot = [a, b, c] ↔
    text = a ++ dot :: b ++ dot :: c ∧ dot ∉ a ∧ dot ∉ b ∧ dot ∉ c := by
  constructor
  · intro h
    have hjoin : [dot].intercalate (text.splitOn dot) = text := List.intercalate_splitOn dot
    rw [h] at hjoin
    have hparts : ∀ part ∈ [a, b, c], dot ∉ part := by
      intro part hpart
      rw [← h] at hpart
      exact not_mem_of_mem_splitOn hpart
    refine ⟨?_, hparts a (by simp), hparts b (by simp), hparts c (by simp)⟩
    rw [← hjoin]
    simp [List.intercalate]
  · intro h
    obtain ⟨rfl, ha, hb, hc⟩ := h
    rw [List.append_assoc, List.cons_append, List.splitOn_append_cons_self_of_not_mem ha,
      List.splitOn_append_cons_self_of_not_mem hb, List.splitOn_eq_singleton hc]

/-! ### Messages and tokens -/

/-- **A message has one reading.**  No other id and expiry have the message of an id and an expiry
without dots. -/
theorem guestMessage_inj {id exp id' exp' : List UInt8} (hid : dot ∉ id) (hexp : dot ∉ exp)
    (h : guestMessage id exp = guestMessage id' exp') : id = id' ∧ exp = exp' := by
  rw [guestMessage, guestMessage, List.append_assoc, List.append_assoc] at h
  have htail := List.append_cancel_left h
  obtain ⟨h₁, -, h₂⟩ := (List.append_cons_inj_of_notMem hid hexp).mp htail
  exact ⟨h₁, h₂⟩

section Token

variable {mac : List UInt8 → List UInt8 → List UInt8} {enc : SignatureEncoding}

/-- Verifying a text of three parts. -/
theorem verifyToken_parts {secret id exp sig : List UInt8} (hsecret : secret ≠ []) (hne : id ≠ [])
    (hid : dot ∉ id) (hexp : dot ∉ exp) (hsig : dot ∉ sig) (now : GoTime) :
    verifyToken mac enc secret (id ++ dot :: exp ++ dot :: sig) now
      = match parseInt exp with
        | none => ([], false)
        | some e =>
          if now.unix ≥ e then ([], false)
          else if enc.decode sig = some (mac secret (guestMessage id exp)) then (id, true)
          else ([], false) := by
  have hsplit := splitOn_eq_three.mpr ⟨rfl, hid, hexp, hsig⟩
  rw [verifyToken, if_neg hsecret, hsplit]
  exact if_neg hne

/-- **A signed token.** -/
theorem verifyToken_signToken {secret id : List UInt8} (hsecret : secret ≠ []) (hne : id ≠ [])
    (hid : dot ∉ id) (now : GoTime) (ttl : Int64) (t : GoTime) :
    verifyToken mac enc secret (signToken mac enc secret id now ttl) t
      = if t.unix < (now.add ttl).unix then (id, true) else ([], false) := by
  rw [signToken, verifyToken_parts hsecret hne hid (dot_not_mem_formatInt _) (enc.dot_not_mem _),
    parseInt_formatInt]
  simp only [enc.decode_encode, if_true]
  by_cases h : t.unix < (now.add ttl).unix
  · rw [if_pos h, if_neg (fun hge => absurd h (Int64.not_lt.mpr hge))]
  · rw [if_neg h, if_pos (Int64.not_lt.mp h)]

/-- **An accepted token.** -/
theorem verifyToken_eq_true {secret token id : List UInt8} {now : GoTime}
    (h : verifyToken mac enc secret token now = (id, true)) :
    ∃ exp sig e, token = id ++ dot :: exp ++ dot :: sig ∧ id ≠ [] ∧ dot ∉ id ∧ dot ∉ exp ∧ dot ∉ sig ∧
      parseInt exp = some e ∧ now.unix < e ∧
      enc.decode sig = some (mac secret (guestMessage id exp)) := by
  have hsecret : secret ≠ [] := by
    intro hs
    rw [verifyToken, if_pos hs] at h
    cases h
  cases hsplit : token.splitOn dot with
  | nil => exact absurd hsplit (List.splitOn_ne_nil dot token)
  | cons id' rest =>
    match rest with
    | [exp, sig] =>
      obtain ⟨rfl, hid, hexp, hsig⟩ := splitOn_eq_three.mp hsplit
      have hne : id' ≠ [] := by
        intro hn
        rw [verifyToken, if_neg hsecret, hsplit] at h
        simp only [if_pos hn] at h
        cases h
      rw [verifyToken_parts hsecret hne hid hexp hsig] at h
      cases he : parseInt exp with
      | none =>
        rw [he] at h
        cases h
      | some e =>
        rw [he] at h
        simp only at h
        split_ifs at h with hnow hmac
        · cases h
        · obtain rfl : id' = id := congrArg Prod.fst h
          exact ⟨exp, sig, e, rfl, hne, hid, hexp, hsig, he, Int64.not_le.mp hnow, hmac⟩
        · cases h
    | [] =>
      rw [verifyToken, if_neg hsecret, hsplit] at h
      cases h
    | [exp] =>
      rw [verifyToken, if_neg hsecret, hsplit] at h
      cases h
    | exp :: sig :: more :: rest =>
      rw [verifyToken, if_neg hsecret, hsplit] at h
      cases h

end Token

/-- **Guest tokens round-trip and cannot be re-split.** -/
theorem guest_tokens (mac : List UInt8 → List UInt8 → List UInt8) (enc : SignatureEncoding) :
    (∀ secret id, secret ≠ [] → id ≠ [] → dot ∉ id → ∀ now ttl t,
      verifyToken mac enc secret (signToken mac enc secret id now ttl) t
        = if t.unix < (now.add ttl).unix then (id, true) else ([], false)) ∧
    (∀ secret token now id, verifyToken mac enc secret token now = (id, true) →
      ∃ exp sig e, token = id ++ dot :: exp ++ dot :: sig ∧
        enc.decode sig = some (mac secret (guestMessage id exp)) ∧ parseInt exp = some e ∧
        now.unix < e) ∧
    ∀ id exp id' exp', dot ∉ id → dot ∉ exp → guestMessage id exp = guestMessage id' exp' →
      id = id' ∧ exp = exp' := by
  refine ⟨fun secret id hsecret hne hid now ttl t => verifyToken_signToken hsecret hne hid now ttl t,
    ?_, fun id exp id' exp' hid hexp h => guestMessage_inj hid hexp h⟩
  intro secret token now id h
  obtain ⟨exp, sig, e, htoken, -, -, -, -, he, hnow, hmac⟩ := verifyToken_eq_true h
  exact ⟨exp, sig, e, htoken, hmac, he, hnow⟩

/-- `base64.RawURLEncoding`. -/
def rawURLEncoding : SignatureEncoding where
  encode := Base64.encode
  decode := Base64.decode
  decode_encode := Base64.decode_encode
  dot_not_mem bs := Base64.not_mem_encode bs rfl

/-- The first of May 2027 at ten, and so many seconds later. -/
def mayDay (later : Int64) : GoTime := ⟨63944762400 + later, 0, by decide⟩

def guestUUID : List UInt8 := ascii "7f7c7590-bdf7-4e9d-a0bd-d182a0037680"

/-- HMAC-SHA256, at the key `secret` and the message of that guest's token. -/
def macOfGuest (secret message : List UInt8) : List UInt8 :=
  if secret = ascii "secret" ∧ message = guestMessage guestUUID (ascii "1809169200") then
    [237, 137, 121, 247, 24, 246, 133, 233, 169, 139, 44, 77, 185, 147, 26, 105, 111, 119, 16, 144, 33,
      57, 8, 235, 61, 68, 46, 196, 83, 42, 248, 86]
  else []

example : signToken macOfGuest rawURLEncoding (ascii "secret") guestUUID (mayDay 0) 3600000000000
    = ascii "7f7c7590-bdf7-4e9d-a0bd-d182a0037680.1809169200.7Yl59xj2hempiyxNuZMaaW93EJAhOQjrPUQuxFMq-FY" := by
  decide +kernel

/-- An hour's token after fifty-nine minutes, and after sixty-one. -/
theorem guest_tokens_hour :
    let token := signToken macOfGuest rawURLEncoding (ascii "secret") guestUUID (mayDay 0) 3600000000000
    verifyToken macOfGuest rawURLEncoding (ascii "secret") token (mayDay 3540) = (guestUUID, true) ∧
      verifyToken macOfGuest rawURLEncoding (ascii "secret") token (mayDay 3660) = ([], false) := by
  have h := (guest_tokens macOfGuest rawURLEncoding).1 (ascii "secret") guestUUID (by decide)
    (by decide) (by decide) (mayDay 0) 3600000000000
  exact ⟨h (mayDay 3540), h (mayDay 3660)⟩

end Sahel

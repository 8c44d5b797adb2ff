import Sahel.Library.Lockstep
import Sahel.Http.Guest

/-!
# Signing in tells nobody who has an account

Two databases with the same attempts and any two tables of customers, and sign-ins none of whose
passwords is right in either: no account, an account without a password and a wrong password come to
the same answer and to the same recorded attempt, so that the limits count the same later on.

* `Misses` is the condition on a sign-in;
* `LoginPair` follows one sign-in in both databases, statement by statement;
* **`logins_reveal_nothing`**: for sign-ins one after the other, and for every interleaving of them.
-/

set_option autoImplicit false

namespace Sahel

open Autocommit
open ReadCommitted (Prog)

section Secrecy

variable (compareHashAndPassword : String → String → Bool)

/-- The password of the sign-in does not match the stored hash of its phone. -/
def Misses (db : GuestDb) (req : LoginRequest) : Prop :=
  ∀ c, getCustomerByPhone req.normalPhone db = some c → ∀ hash ∈ c.passwordHash,
    compareHashAndPassword hash req.password = false

/-- A failed check from the recording on. -/
def recordFailure (req : LoginRequest) : GuestHandler GuestView :=
  .exec (.recordAuthAttempt .login req.normalPhone req.ip false) (fun _ => .throw invalidCredentials)

/-- What two runs have left of one sign-in. -/
inductive LoginPair (req : LoginRequest) : GuestHandler GuestView → GuestHandler GuestView → Prop where
  | counting : LoginPair req (login req) (login req)
  | reading : LoginPair req (readLogin req) (readLogin req)
  | checking {c c' : Option CustomerRow}
      (wrong : checkPassword compareHashAndPassword ((c.bind CustomerRow.passwordHash).getD "")
        req.password = false)
      (wrong' : checkPassword compareHashAndPassword ((c'.bind CustomerRow.passwordHash).getD "")
        req.password = false) :
      LoginPair req (checkLogin req c) (checkLogin req c')
  | recording : LoginPair req (recordFailure req) (recordFailure req)
  | refused (e : ApiError) : LoginPair req (.throw e) (.throw e)

variable {compareHashAndPassword}

/-- No account, no password and a wrong password all fail the check. -/
theorem Misses.wrong {db d : GuestDb} {req : LoginRequest} (h : Misses compareHashAndPassword db req)
    (hd : d.customers = db.customers) :
    checkPassword compareHashAndPassword
      (((getCustomerByPhone req.normalPhone d).bind CustomerRow.passwordHash).getD "") req.password
        = false := by
  have hsame : getCustomerByPhone req.normalPhone d = getCustomerByPhone req.normalPhone db := by
    rw [getCustomerByPhone, hd]
    rfl
  rw [hsame, checkPassword]
  split_ifs with hempty
  · rfl
  · cases hc : getCustomerByPhone req.normalPhone db with
    | none =>
      rw [hc] at hempty
      exact absurd rfl hempty
    | some c =>
      cases hp : c.passwordHash with
      | none =>
        rw [hc, Option.bind_some, hp] at hempty
        exact absurd rfl hempty
      | some hash =>
        rw [Option.bind_some, hp]
        exact h c hc hash hp

/-! ### One statement of a sign-in -/

theorem advance_login (o : Unit) (now : ℤ) (d : GuestDb) (req : LoginRequest) :
    advance (guestStore compareHashAndPassword) o now d (login req)
      = some (if (countFailedLogins req.normalPhone req.ip now d).passes then readLogin req
        else .throw rateLimited, some []) := by
  show some ((Prog.refuse (¬ (countFailedLogins req.normalPhone req.ip now d).passes)
    rateLimited).bind (fun _ => readLogin req), some []) = _
  by_cases h : (countFailedLogins req.normalPhone req.ip now d).passes
  · rw [Prog.refuse, if_neg (not_not.mpr h), if_pos h]
    rfl
  · rw [Prog.refuse, if_pos h, if_neg h]
    rfl

theorem advance_checkLogin (o : Unit) (now : ℤ) (d : GuestDb) {req : LoginRequest}
    {c : Option CustomerRow} (h : checkPassword compareHashAndPassword
      ((c.bind CustomerRow.passwordHash).getD "") req.password = false) :
    advance (guestStore compareHashAndPassword) o now d (checkLogin req c)
      = some (recordFailure req, some []) := by
  show some ((fun ok : Bool => (Prog.attempt (GuestStmt.recordAuthAttempt .login req.normalPhone req.ip
    ok)).bind (fun _ => (Prog.refuse (ok = false) invalidCredentials).bind (fun _ =>
      pure (toGuestView c)))) (checkPassword compareHashAndPassword _ _), some []) = _
  rw [h]
  rfl

/-! ### Two runs -/

/-- Two runs of sign-ins that miss in `db` and in `db'`. -/
def loginSteps (compareHashAndPassword : String → String → Bool) (db db' : GuestDb) :
    Lockstep (guestStore compareHashAndPassword) LoginRequest ApiError GuestView where
  rows d d' := d.customers = db.customers ∧ d'.customers = db'.customers ∧ d.attempts = d'.attempts
  writes W W' := W = W' ∧ ∀ w ∈ W, ∃ a, w = .insertAttempt a
  alike req p p' := (Misses compareHashAndPassword db req ∧ Misses compareHashAndPassword db' req) ∧
    LoginPair compareHashAndPassword req p p'
  nil := ⟨rfl, fun w hw => absurd hw List.not_mem_nil⟩
  isEmpty h := by rw [h.1]
  view := by
    intro d d' W W' hd hW
    obtain ⟨rfl, hins⟩ := hW
    induction W generalizing d d' with
    | nil => exact hd
    | cons w W ih =>
      obtain ⟨a, rfl⟩ := hins w List.mem_cons_self
      refine ih ⟨hd.1, hd.2.1, ?_⟩ (fun w hw => hins w (List.mem_cons_of_mem _ hw))
      exact congrArg (· ++ [a]) hd.2.2
  outcome h := by
    cases h.2 <;> rfl
  advance := by
    intro d d' req p p' hd hp o now
    obtain ⟨⟨hmiss, hmiss'⟩, hp⟩ := hp
    have hquiet : ∀ {q q' : GuestHandler GuestView}, LoginPair compareHashAndPassword req q q' →
        Option.Rel (fun x x' => ((Misses compareHashAndPassword db req ∧
            Misses compareHashAndPassword db' req) ∧ LoginPair compareHashAndPassword req x.1 x'.1) ∧
          Option.Rel (fun W W' => W = W' ∧ ∀ w ∈ W, ∃ a, w = GuestWrite.insertAttempt a) x.2 x'.2)
          (some (q, some [])) (some (q', some [])) :=
      fun hq => .some ⟨⟨⟨hmiss, hmiss'⟩, hq⟩, .some ⟨rfl, fun w hw => absurd hw List.not_mem_nil⟩⟩
    cases hp with
    | counting =>
      have hcount : countFailedLogins req.normalPhone req.ip now d
          = countFailedLogins req.normalPhone req.ip now d' := by
        rw [countFailedLogins, hd.2.2]
        rfl
      rw [advance_login, advance_login, hcount]
      refine hquiet ?_
      split_ifs
      · exact .reading
      · exact .refused rateLimited
    | reading => exact hquiet (.checking (hmiss.wrong hd.1) (hmiss'.wrong hd.2.1))
    | checking wrong wrong' =>
      rw [advance_checkLogin o now d wrong, advance_checkLogin o now d' wrong']
      exact hquiet .recording
    | recording =>
      refine .some ⟨⟨⟨hmiss, hmiss'⟩, .refused invalidCredentials⟩, .some ⟨rfl, fun w hw => ?_⟩⟩
      rw [List.mem_singleton] at hw
      exact ⟨_, hw⟩
    | refused e => exact .none

/-- **Signing in reveals nothing.**  With the same attempts in both databases and no password that
is right in either, sign-ins one after the other get the same answers and leave the same attempts,
whatever the clock; and a schedule of concurrent sign-ins goes the same way in both. -/
theorem logins_reveal_nothing (compareHashAndPassword : String → String → Bool) {db db' : GuestDb}
    (hattempts : db.attempts = db'.attempts) :
    (∀ (reqs : List LoginRequest) (os : ℕ → Unit × ℤ),
      (∀ req ∈ reqs, Misses compareHashAndPassword db req ∧ Misses compareHashAndPassword db' req) →
      let run := inTurn (guestStore compareHashAndPassword) login os reqs 0 db
      let run' := inTurn (guestStore compareHashAndPassword) login os reqs 0 db'
      run.1 = run'.1 ∧ run.2.attempts = run'.2.attempts) ∧
    ∀ (clock : ℤ) (ms : List (Move LoginRequest Unit)),
      (∀ req, .arrive req ∈ ms →
        Misses compareHashAndPassword db req ∧ Misses compareHashAndPassword db' req) →
      Option.Rel (fun s s' => s.calls.map (fun c => outcome c.prog)
          = s'.calls.map (fun c => outcome c.prog) ∧ s.db.attempts = s'.db.attempts)
        (plays (guestStore compareHashAndPassword) login (fun _ _ => true) ms ⟨clock, db, []⟩)
        (plays (guestStore compareHashAndPassword) login (fun _ _ => true) ms ⟨clock, db', []⟩) := by
  have hrows : (loginSteps compareHashAndPassword db db').rows db db' :=
    ⟨rfl, rfl, hattempts⟩
  constructor
  · intro reqs os hmiss
    obtain ⟨hsame, hend⟩ := Lockstep.inTurn os 0 hrows (fun req hr => ⟨hmiss req hr, .counting⟩)
    exact ⟨hsame, hend.2.2⟩
  · intro clock ms hmiss
    have hstart : (loginSteps compareHashAndPassword db db').Same
        ⟨clock, db, []⟩ ⟨clock, db', []⟩ := ⟨rfl, hrows, .nil⟩
    have hplays := hstart.plays (fun req hr => ⟨hmiss req hr, .counting⟩)
    generalize plays (guestStore compareHashAndPassword) login (fun _ _ => true) ms ⟨clock, db, []⟩
      = x at hplays ⊢
    generalize plays (guestStore compareHashAndPassword) login (fun _ _ => true) ms ⟨clock, db', []⟩
      = x' at hplays ⊢
    cases hplays with
    | none => exact .none
    | some hsame => exact .some ⟨hsame.outcomes, hsame.rows.2.2⟩

end Secrecy

theorem salma_phone : phoneOk "+201012345678" := by decide

/-- An account with a password. -/
def salma : CustomerRow := ⟨1, "+201012345678", "Salma", some "hash of sea-breeze", salma_phone⟩

/-- A check that stands for bcrypt's. -/
def comparePlainly (hash password : String) : Bool := decide (hash = "hash of " ++ password)

/-- Guesses at an account and a malformed phone, eleven of the former. -/
def guesses : List LoginRequest :=
  ⟨"not a phone", "open-sesame", "203.0.113.7"⟩ ::
    List.replicate 11 ⟨"01012345678", "open-sesame", "203.0.113.7"⟩

/-- Nobody has an account. -/
def noAccount : GuestDb := ⟨KeyedTable.Table.empty, []⟩

/-- Salma has one. -/
def oneAccount : GuestDb := ⟨KeyedTable.Table.empty.insert salma, []⟩

/-- The guesses are answered and recorded the same. -/
theorem logins_reveal_nothing_guesses :
    let run := inTurn (guestStore comparePlainly) login (fun n => ((), n)) guesses 0 noAccount
    let run' := inTurn (guestStore comparePlainly) login (fun n => ((), n)) guesses 0 oneAccount
    run.1 = run'.1 ∧ run.2.attempts = run'.2.attempts := by
  have hattempts : noAccount.attempts = oneAccount.attempts := rfl
  refine (logins_reveal_nothing comparePlainly hattempts).1 guesses (fun n => ((), n)) ?_
  intro req hreq
  have hpassword : req.password = "open-sesame" := by
    have hall : guesses.all (fun req => req.password == "open-sesame") = true := by decide
    exact eq_of_beq (List.all_eq_true.mp hall req hreq)
  constructor
  · intro c hc
    cases hc
  · intro c hc hash hhash
    have hmem : c ∈ [salma] := List.mem_of_find?_eq_some hc
    obtain rfl := List.mem_singleton.mp hmem
    cases hhash
    rw [hpassword]
    decide

end Sahel

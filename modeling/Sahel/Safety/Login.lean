import Sahel.Library.Autocommit
import Sahel.Library.SlidingLimit
import Sahel.Http.Guest

/-!
# Failed sign-ins

Any number of sign-ins run at once, each counting the recent failures, checking the password and
recording how the check came out; other handlers change customers and record registrations.

* `wrongChecks` is what the limit is about: the instants of the password checks of a phone that came
  out wrong;
* `LoginAt` follows one sign-in, and **`Guests.simulates`** shows that the sign-ins of one phone are
  the tries of a sliding limiter, as long as each finds room when it counts;
* `RoomFor` is that condition: the failures counted and the sign-ins in flight are fewer than ten
  together.  The count alone does not see those in flight.
-/

set_option autoImplicit false

namespace Sahel

open Autocommit
open ReadCommitted (Prog)

/-- A sign-in under way or over. -/
abbrev LoginCall : Type :=
  Call GuestWrite PgError GuestStmt GuestStmt.Val LoginRequest ApiError GuestView

/-- What a sign-in has run. -/
abbrev LoginLog : Type := List (Entry PgError GuestStmt GuestStmt.Val)

/-- A state of the system while guests sign in. -/
abbrev Guests : Type :=
  Autocommit.State GuestDb GuestWrite PgError GuestStmt GuestStmt.Val LoginRequest ApiError GuestView

/-- The reads may fail; recording the attempt is assumed to succeed. -/
def readFails : GuestStmt → Prop
  | .countFailedLogins _ _ => True
  | .getCustomerByPhone _ => True
  | _ => False

/-- What other handlers write. -/
def elsewhere : GuestWrite → Prop
  | .insertAttempt a => a.kind ≠ .login
  | .setCustomers _ => True

/-! ### The property and the condition -/

/-- The instant of a password check that came out wrong. -/
def wrongCheck : Entry PgError GuestStmt GuestStmt.Val → Option ℤ
  | ⟨.checkPassword _ _, t, .ok false⟩ => some t
  | _ => none

/-- A password check that came out right. -/
def rightCheck : Entry PgError GuestStmt GuestStmt.Val → Bool
  | ⟨.checkPassword _ _, _, .ok true⟩ => true
  | _ => false

/-- The wrong checks of a phone, over every sign-in so far. -/
def wrongChecks (phone : String) (calls : List LoginCall) : List ℤ :=
  (calls.filter (fun c => decide (c.req.normalPhone = phone))).flatMap
    (fun c => c.log.filterMap wrongCheck)

/-- At most ten wrong checks in every window. -/
def LimitedLogins (phone : String) (s : Guests) : Prop :=
  ∀ t, (wrongChecks phone s.calls).countP (fun c => decide (t ≤ c ∧ c < t + phoneWindow))
    ≤ failedLoginsPerPhone

/-- A sign-in that was let through and may still add a failure: its check has not come out right,
and it has not ended with its failure recorded. -/
def loginInFlight (c : LoginCall) : Bool := !c.log.isEmpty && c.live && !c.log.any rightCheck

def loginsInFlight (phone : String) (calls : List LoginCall) : ℕ :=
  calls.countP (fun c => decide (c.req.normalPhone = phone) && loginInFlight c)

/-- A sign-in of the phone that its count lets through finds the failures counted and the sign-ins
in flight to be fewer than ten together. -/
def RoomFor (phone : String) (s : Guests) (c : LoginCall) : Prop :=
  c.req.normalPhone = phone → c.log.isEmpty = true →
    (countFailedLogins phone c.req.ip s.clock s.db).passes →
      (countFailedLogins phone c.req.ip s.clock s.db).byPhone + loginsInFlight phone s.calls
        < failedLoginsPerPhone

instance (phone : String) (s : Guests) (c : LoginCall) : Decidable (RoomFor phone s c) :=
  inferInstanceAs (Decidable (_ → _ → _ → _))

/-! ### One sign-in -/

/-- Nothing left to run. -/
def ended : GuestHandler GuestView → Bool
  | .exec _ _ => false
  | _ => true

/-- A history with no check in it yet. -/
structure Early (log : LoginLog) : Prop where
  begun : log.isEmpty = false
  wrong : log.filterMap wrongCheck = []
  right : log.any rightCheck = false

/-- A history with one check, wrong. -/
structure WrongAt (t : ℤ) (log : LoginLog) : Prop where
  begun : log.isEmpty = false
  wrong : log.filterMap wrongCheck = [t]
  right : log.any rightCheck = false

/-- A history with one check, right. -/
structure Right (log : LoginLog) : Prop where
  wrong : log.filterMap wrongCheck = []
  right : log.any rightCheck = true

open SlidingLimit (Attempt)

/-- Where a sign-in is, and what it is to the limiter. -/
inductive LoginAt (now : ℤ) (r : LoginRequest) : LoginCall → Option Attempt → Prop where
  | arrived : LoginAt now r ⟨r, login r, [], []⟩ none
  | counted {log} (h : Early log) : LoginAt now r ⟨r, readLogin r, [], log⟩ (some .waiting)
  | read {log} (c : Option CustomerRow) (h : Early log) :
      LoginAt now r ⟨r, checkLogin r c, [], log⟩ (some .waiting)
  | refused {p log} (h : Early log) (stopped : ended p = true) : LoginAt now r ⟨r, p, [], log⟩ none
  | wrong {k log t} (h : WrongAt t log) (past : t ≤ now) (stopped : ∀ v, ended (k v) = true) :
      LoginAt now r ⟨r, .exec (.recordAuthAttempt .login r.normalPhone r.ip false) k, [], log⟩
        (some (.missed t))
  | recording {p log t stamp} (h : WrongAt t log) (later : t ≤ stamp) (stopped : ended p = true) :
      LoginAt now r ⟨r, p, [.insertAttempt ⟨.login, r.normalPhone, r.ip, false, stamp⟩], log⟩
        (some (.missed t))
  | recorded {p log t} (h : WrongAt t log) (stopped : ended p = true) :
      LoginAt now r ⟨r, p, [], log⟩ (some (.recorded t))
  | right {k log} (h : Right log) (stopped : ∀ v, ended (k v) = true) :
      LoginAt now r ⟨r, .exec (.recordAuthAttempt .login r.normalPhone r.ip true) k, [], log⟩ none
  | signedIn {p log ws} (h : Right log) (stopped : ended p = true)
      (writes : ∀ w ∈ ws, ∃ a, w = .insertAttempt a ∧ a.ok = true) :
      LoginAt now r ⟨r, p, ws, log⟩ none

/-- What a sign-in is to the limiter of a phone, as its history tells. -/
def attemptOf (phone : String) (c : LoginCall) : Option Attempt :=
  if c.req.normalPhone = phone then
    match c.log.filterMap wrongCheck, loginInFlight c with
    | [], true => some .waiting
    | [], false => none
    | t :: _, true => some (.missed t)
    | t :: _, false => some (.recorded t)
  else none

variable {compareHashAndPassword : String → String → Bool} {now : ℤ} {r : LoginRequest}
variable {c : LoginCall} {a : Option Attempt} {phone : String}

theorem LoginAt.req_eq (h : LoginAt now r c a) : c.req = r := by
  cases h <;> rfl

theorem LoginAt.mono {later : ℤ} (h : LoginAt now r c a) (hn : now ≤ later) :
    LoginAt later r c a := by
  cases h with
  | arrived => exact .arrived
  | counted h => exact .counted h
  | read c h => exact .read c h
  | refused h stopped => exact .refused h stopped
  | wrong h past stopped => exact .wrong h (past.trans hn) stopped
  | recording h later stopped => exact .recording h later stopped
  | recorded h stopped => exact .recorded h stopped
  | right h stopped => exact .right h stopped
  | signedIn h stopped writes => exact .signedIn h stopped writes

theorem live_of_exec {req : LoginRequest} {st : GuestStmt}
    {k : Except PgError st.Val → GuestHandler GuestView} {ws : List GuestWrite}
    {log : LoginLog} :
    Call.live (⟨req, .exec st k, ws, log⟩ : LoginCall) = true := rfl

theorem live_of_ended {req : LoginRequest} {p : GuestHandler GuestView} {ws : List GuestWrite}
    {log : LoginLog} (h : ended p = true) :
    Call.live (⟨req, p, ws, log⟩ : LoginCall) = !ws.isEmpty := by
  cases p with
  | pure v => rfl
  | throw e => rfl
  | exec st k => cases h

/-- The history of a sign-in tells where it is. -/
theorem LoginAt.attemptOf_eq (h : LoginAt now r c a) (phone : String) :
    attemptOf phone c = if r.normalPhone = phone then a else none := by
  unfold attemptOf
  rw [h.req_eq]
  by_cases hp : r.normalPhone = phone
  · rw [if_pos hp, if_pos hp]
    cases h with
    | arrived => rfl
    | @counted log h =>
      have hlive : Call.live (⟨r, readLogin r, [], log⟩ : LoginCall) = true := rfl
      simp [loginInFlight, h.begun, h.wrong, h.right, hlive]
    | @read log c h =>
      have hlive : Call.live (⟨r, checkLogin r c, [], log⟩ : LoginCall) = true := rfl
      simp [loginInFlight, h.begun, h.wrong, h.right, hlive]
    | refused h stopped => simp [loginInFlight, h.wrong, live_of_ended stopped]
    | wrong h past stopped => simp [loginInFlight, h.begun, h.wrong, h.right, live_of_exec]
    | recording h later stopped => simp [loginInFlight, h.begun, h.wrong, h.right, live_of_ended stopped]
    | recorded h stopped => simp [loginInFlight, h.wrong, live_of_ended stopped]
    | right h stopped => simp [loginInFlight, h.wrong, h.right]
    | signedIn h stopped writes => simp [loginInFlight, h.wrong, h.right]
  · rw [if_neg hp, if_neg hp]

/-! ### What its steps do -/

theorem Early.snoc {log : LoginLog} (h : Early log) {e : Entry PgError GuestStmt GuestStmt.Val}
    (hw : wrongCheck e = none) (hr : rightCheck e = false) : Early (log ++ [e]) :=
  ⟨by simp, by simp [h.wrong, hw], by simp [h.right, hr]⟩

theorem early_of_one {e : Entry PgError GuestStmt GuestStmt.Val} (hw : wrongCheck e = none)
    (hr : rightCheck e = false) : Early [e] := ⟨rfl, by simp [hw], by simp [hr]⟩

theorem WrongAt.snoc {log : LoginLog} {t : ℤ} (h : WrongAt t log)
    {e : Entry PgError GuestStmt GuestStmt.Val} (hw : wrongCheck e = none)
    (hr : rightCheck e = false) : WrongAt t (log ++ [e]) :=
  ⟨by simp, by simp [h.wrong, hw], by simp [h.right, hr]⟩

theorem Right.snoc {log : LoginLog} (h : Right log) {e : Entry PgError GuestStmt GuestStmt.Val}
    (hw : wrongCheck e = none) : Right (log ++ [e]) :=
  ⟨by simp [h.wrong, hw], by simp [h.right]⟩

/-- What one of its statements makes of a sign-in, for the limiter. -/
inductive AttemptMove (now : ℤ) (admitted : Prop) : Option Attempt → Option Attempt → Prop where
  | stay (a : Option Attempt) : AttemptMove now admitted a a
  | enter (h : admitted) : AttemptMove now admitted none (some .waiting)
  | leave : AttemptMove now admitted (some .waiting) none
  | miss : AttemptMove now admitted (some .waiting) (some (.missed now))

theorem not_exec_of_ended {p : GuestHandler GuestView} {st : GuestStmt}
    {k : Except PgError st.Val → GuestHandler GuestView} (stopped : ended p = true)
    (next : p = .exec st k) : False := by
  rw [next] at stopped
  cases stopped

/-- **A statement that answers.** -/
theorem LoginAt.exec (h : LoginAt now r c a) {st : GuestStmt}
    {k : Except PgError st.Val → GuestHandler GuestView} (next : c.prog = .exec st k)
    {db : GuestDb} {v : st.Val} {ws : List GuestWrite}
    (answers : GuestStmt.eval compareHashAndPassword st () now db = .ok (v, ws)) :
    ∃ a', LoginAt now r (c.answered st k now (.ok v) ws) a' ∧
      AttemptMove now (c.log.isEmpty = true ∧ (countFailedLogins r.normalPhone r.ip now db).passes) a a' := by
  cases h with
  | arrived =>
    cases next
    cases answers
    have hearly := early_of_one (e := ⟨.countFailedLogins r.normalPhone r.ip, now,
      .ok (countFailedLogins r.normalPhone r.ip now db)⟩) rfl rfl
    by_cases hpass : (countFailedLogins r.normalPhone r.ip now db).passes
    · refine ⟨some .waiting, ?_, .enter ⟨rfl, hpass⟩⟩
      show LoginAt now r ⟨r, (Prog.refuse _ rateLimited).bind fun _ => readLogin r, [], _⟩ _
      rw [Prog.refuse, if_neg (not_not.mpr hpass)]
      exact .counted hearly
    · refine ⟨none, ?_, .stay none⟩
      show LoginAt now r ⟨r, (Prog.refuse _ rateLimited).bind fun _ => readLogin r, [], _⟩ _
      rw [Prog.refuse, if_pos hpass]
      exact .refused hearly rfl
  | counted h =>
    cases next
    cases answers
    exact ⟨some .waiting, .read _ (h.snoc rfl rfl), .stay _⟩
  | read c h =>
    cases next
    cases answers
    cases hcheck : checkPassword compareHashAndPassword ((c.bind CustomerRow.passwordHash).getD "")
      r.password with
    | true =>
      refine ⟨none, .right ⟨?_, ?_⟩ (fun _ => rfl), .leave⟩
      · simp [h.wrong, wrongCheck]
      · simp [rightCheck]
    | false =>
      refine ⟨_, .wrong ⟨?_, ?_, ?_⟩ (le_refl now) (fun _ => rfl), .miss⟩
      · simp
      · simp [h.wrong, wrongCheck]
      · simp [h.right, rightCheck]
  | refused h stopped => exact (not_exec_of_ended stopped next).elim
  | wrong h past stopped =>
    cases next
    cases answers
    exact ⟨_, .recording (h.snoc rfl rfl) past (stopped _), .stay _⟩
  | recording h later stopped => exact (not_exec_of_ended stopped next).elim
  | recorded h stopped => exact (not_exec_of_ended stopped next).elim
  | right h stopped =>
    cases next
    cases answers
    refine ⟨none, .signedIn (h.snoc rfl) (stopped _) ?_, .stay none⟩
    intro w hw
    exact ⟨_, List.mem_singleton.mp hw, rfl⟩
  | signedIn h stopped writes => exact (not_exec_of_ended stopped next).elim

theorem eval_ne_error (st : GuestStmt) (now : ℤ) (db : GuestDb) (e : PgError) :
    GuestStmt.eval compareHashAndPassword st () now db ≠ .error e := by
  cases st <;> exact nofun

/-- A read that fails ends the sign-in. -/
theorem LoginAt.fail (h : LoginAt now r c a) {st : GuestStmt}
    {k : Except PgError st.Val → GuestHandler GuestView} (next : c.prog = .exec st k)
    (why : readFails st) (e : PgError) :
    LoginAt now r (c.answered st k now (.error e) []) none ∧ (a = none ∨ a = some .waiting) := by
  cases h with
  | arrived =>
    cases next
    exact ⟨.refused (early_of_one rfl rfl) rfl, .inl rfl⟩
  | counted h =>
    cases next
    exact ⟨.refused (h.snoc rfl rfl) rfl, .inr rfl⟩
  | read c h =>
    cases next
    exact why.elim
  | refused h stopped => exact (not_exec_of_ended stopped next).elim
  | wrong h past stopped =>
    cases next
    exact why.elim
  | recording h later stopped => exact (not_exec_of_ended stopped next).elim
  | recorded h stopped => exact (not_exec_of_ended stopped next).elim
  | right h stopped =>
    cases next
    exact why.elim
  | signedIn h stopped writes => exact (not_exec_of_ended stopped next).elim

/-- **A commit** makes a failure part of the record; every other commit adds none. -/
theorem LoginAt.commit (h : LoginAt now r c a) :
    (LoginAt now r c.settled a ∧ ∀ w ∈ c.pending, ∃ row, w = .insertAttempt row ∧ row.ok = true) ∨
    ∃ t stamp, a = some (.missed t) ∧ t ≤ stamp ∧ LoginAt now r c.settled (some (.recorded t)) ∧
      c.pending = [.insertAttempt ⟨.login, r.normalPhone, r.ip, false, stamp⟩] := by
  cases h with
  | arrived => exact .inl ⟨.arrived, nofun⟩
  | counted h => exact .inl ⟨.counted h, nofun⟩
  | read c h => exact .inl ⟨.read c h, nofun⟩
  | refused h stopped => exact .inl ⟨.refused h stopped, nofun⟩
  | wrong h past stopped => exact .inl ⟨.wrong h past stopped, nofun⟩
  | recording h later stopped => exact .inr ⟨_, _, rfl, later, .recorded h stopped, rfl⟩
  | recorded h stopped => exact .inl ⟨.recorded h stopped, nofun⟩
  | right h stopped => exact .inl ⟨.right h stopped, nofun⟩
  | signedIn h stopped writes => exact .inl ⟨.signedIn h stopped nofun, writes⟩

/-! ### The sign-ins of a phone as a limiter -/

/-- The failures of a phone on record. -/
def failures (phone : String) (db : GuestDb) : List ℤ :=
  (db.attempts.filter (fun a => a.failedLogin && decide (a.phone = phone))).map
    AuthAttemptRow.createdAt

/-- What the limiter of a phone sees. -/
def limiterOf (phone : String) (s : Guests) : SlidingLimit.Limiter :=
  ⟨s.clock, failures phone s.db, s.calls.filterMap (attemptOf phone)⟩

/-- Every sign-in is somewhere. -/
def Followed (s : Guests) : Prop := ∀ c ∈ s.calls, ∃ a, LoginAt s.clock c.req c a

/-- The count is what the limiter has had in the window. -/
theorem byPhone_eq (phone ip : String) (s : Guests) :
    (countFailedLogins phone ip s.clock s.db).byPhone = (limiterOf phone s).recent phoneWindow := by
  simp only [countFailedLogins, limiterOf, SlidingLimit.Limiter.recent, failures, List.countP_map,
    List.countP_filter]
  congr 1
  funext a
  rw [Bool.eq_iff_iff]
  by_cases hp : a.phone = phone
  · simp only [hp, decide_true, Bool.true_or, Bool.and_true, true_and, Bool.and_eq_true,
      decide_eq_true_eq, gt_iff_lt, Function.comp]
    exact and_congr_left' decide_eq_true_iff.symm
  · simp [hp]

theorem failures_of_ok {phone : String} {db : GuestDb} {ws : List GuestWrite}
    (h : ∀ w ∈ ws, ∃ row, w = .insertAttempt row ∧ row.ok = true) :
    failures phone ((guestStore compareHashAndPassword).view db ws) = failures phone db := by
  induction ws generalizing db with
  | nil => rfl
  | cons w ws ih =>
    obtain ⟨row, rfl, hok⟩ := h w List.mem_cons_self
    show failures phone ((guestStore compareHashAndPassword).view (db.apply (.insertAttempt row)) ws)
      = failures phone db
    rw [ih (fun w hw => h w (List.mem_cons_of_mem _ hw))]
    simp [failures, GuestDb.apply, AuthAttemptRow.failedLogin, hok]

theorem failures_of_wrong (phone' phone ip : String) (stamp : ℤ) (db : GuestDb) :
    failures phone ((guestStore compareHashAndPassword).view db
        [.insertAttempt ⟨.login, phone', ip, false, stamp⟩])
      = if phone' = phone then failures phone db ++ [stamp] else failures phone db := by
  show failures phone (db.apply (.insertAttempt ⟨.login, phone', ip, false, stamp⟩)) = _
  by_cases hp : phone' = phone
  · simp [failures, GuestDb.apply, AuthAttemptRow.failedLogin, hp]
  · simp [failures, GuestDb.apply, AuthAttemptRow.failedLogin, hp]

theorem failures_of_elsewhere {phone : String} {db : GuestDb} {w : GuestWrite} (h : elsewhere w) :
    failures phone (db.apply w) = failures phone db := by
  cases w with
  | insertAttempt a =>
    have hk : a.kind ≠ .login := h
    simp [failures, GuestDb.apply, AuthAttemptRow.failedLogin, hk]
  | setCustomers t => rfl

theorem attempts_around (phone : String) (l₁ l₂ : List LoginCall) (c : LoginCall) :
    (l₁ ++ c :: l₂).filterMap (attemptOf phone) = l₁.filterMap (attemptOf phone)
      ++ ((attemptOf phone c).toList ++ l₂.filterMap (attemptOf phone)) := by
  rw [List.filterMap_append, List.filterMap_cons]
  cases attemptOf phone c <;> rfl

/-- What the condition counts is what the limiter has in flight. -/
theorem inFlight_eq (phone : String) (s : Guests) :
    loginsInFlight phone s.calls = (limiterOf phone s).inFlight := by
  show s.calls.countP _ = (s.calls.filterMap (attemptOf phone)).countP Attempt.inFlight
  rw [List.countP_filterMap]
  apply List.countP_congr
  intro c _
  unfold attemptOf
  by_cases hp : c.req.normalPhone = phone
  · rw [if_pos hp]
    cases hw : c.log.filterMap wrongCheck <;> cases hf : loginInFlight c <;> simp [hp]
  · simp [hp]

theorem Followed.replace {s : Guests} (hf : Followed s) {l₁ l₂ : List LoginCall} {c c' : LoginCall}
    (here : s.calls = l₁ ++ c :: l₂) {a' : Option Attempt} (hc : LoginAt s.clock c'.req c' a')
    (db : GuestDb) : Followed ⟨s.clock, db, l₁ ++ c' :: l₂⟩ := by
  intro d hd
  rcases List.mem_append.mp hd with hd | hd
  · exact hf d (by rw [here]; exact List.mem_append_left _ hd)
  · rcases List.mem_cons.mp hd with rfl | hd
    · exact ⟨a', hc⟩
    · exact hf d (by rw [here]; exact List.mem_append_right _ (List.mem_cons_of_mem _ hd))

/-- The limiter's tries around those of one sign-in. -/
theorem attempts_before {s : Guests} {l₁ l₂ : List LoginCall} {c : LoginCall}
    (here : s.calls = l₁ ++ c :: l₂) (ha : LoginAt s.clock r c a) :
    (limiterOf phone s).attempts = l₁.filterMap (attemptOf phone)
      ++ ((if r.normalPhone = phone then a else none).toList ++ l₂.filterMap (attemptOf phone)) := by
  show s.calls.filterMap (attemptOf phone) = _
  rw [here, attempts_around, ha.attemptOf_eq]

/-- What one sign-in does is what the limiter's try does. -/
theorem limiter_of_move {s : Guests} {l₁ l₂ : List LoginCall} {c c' : LoginCall}
    (here : s.calls = l₁ ++ c :: l₂) (ha : LoginAt s.clock r c a) {a' : Option Attempt}
    (ha' : LoginAt s.clock r c' a') {admitted : Prop} (hm : AttemptMove s.clock admitted a a')
    (hroom : r.normalPhone = phone → admitted →
      (limiterOf phone s).recent phoneWindow + (limiterOf phone s).inFlight < failedLoginsPerPhone) :
    SlidingLimit.Step failedLoginsPerPhone phoneWindow (limiterOf phone s)
        (limiterOf phone { s with calls := l₁ ++ c' :: l₂ })
      ∨ limiterOf phone { s with calls := l₁ ++ c' :: l₂ } = limiterOf phone s := by
  have hbefore : (limiterOf phone s).attempts = _ := attempts_before here ha
  have hafter : limiterOf phone { s with calls := l₁ ++ c' :: l₂ }
      = { limiterOf phone s with attempts := l₁.filterMap (attemptOf phone)
          ++ ((if r.normalPhone = phone then a' else none).toList
            ++ l₂.filterMap (attemptOf phone)) } := by
    unfold limiterOf
    rw [attempts_around, ha'.attemptOf_eq]
  rw [hafter]
  by_cases hp : r.normalPhone = phone
  · rw [if_pos hp] at hbefore ⊢
    cases hm with
    | stay => exact .inr (by rw [← hbefore])
    | enter h => exact .inl (.enter hbefore (hroom hp h))
    | leave => exact .inl (.leave hbefore)
    | miss => exact .inl (.miss hbefore)
  · rw [if_neg hp] at hbefore ⊢
    exact .inr (by rw [← hbefore])

/-- A failure that is committed is a try that goes on record. -/
theorem limiter_of_record {s : Guests} {l₁ l₂ : List LoginCall} {c c' : LoginCall} {t stamp : ℤ}
    {ip : String} {ws : List GuestWrite} (here : s.calls = l₁ ++ c :: l₂)
    (ha : LoginAt s.clock r c (some (.missed t))) (later : t ≤ stamp)
    (ha' : LoginAt s.clock r c' (some (.recorded t)))
    (hws : ws = [.insertAttempt ⟨.login, r.normalPhone, ip, false, stamp⟩]) :
    let s' : Guests := ⟨s.clock, (guestStore compareHashAndPassword).view s.db ws, l₁ ++ c' :: l₂⟩
    SlidingLimit.Step failedLoginsPerPhone phoneWindow (limiterOf phone s) (limiterOf phone s')
      ∨ limiterOf phone s' = limiterOf phone s := by
  have hbefore : (limiterOf phone s).attempts = _ := attempts_before here ha
  show SlidingLimit.Step _ _ _ (limiterOf phone _) ∨ limiterOf phone _ = _
  unfold limiterOf
  rw [attempts_around, ha'.attemptOf_eq, hws, failures_of_wrong]
  by_cases hp : r.normalPhone = phone
  · rw [if_pos hp] at hbefore ⊢
    rw [if_pos hp]
    exact .inl (.record stamp hbefore later)
  · rw [if_neg hp] at hbefore ⊢
    rw [if_neg hp]
    exact .inr (by rw [← hbefore]; rfl)

/-- **One step.** -/
theorem Guests.simulates {s s' : Guests} (hf : Followed s)
    (h : Step (guestStore compareHashAndPassword) login readFails elsewhere (RoomFor phone) s s') :
    Followed s' ∧ (SlidingLimit.Step failedLoginsPerPhone phoneWindow (limiterOf phone s)
      (limiterOf phone s') ∨ limiterOf phone s' = limiterOf phone s) := by
  cases h with
  | tick now later =>
    refine ⟨?_, .inl (.tick now later)⟩
    intro c hc
    obtain ⟨a, ha⟩ := hf c hc
    exact ⟨a, ha.mono later⟩
  | arrive r =>
    have hnew : LoginAt s.clock r (Call.arrived login r) none := .arrived
    constructor
    · intro c hc
      rcases List.mem_append.mp hc with hc | hc
      · exact hf c hc
      · rw [List.mem_singleton.mp hc]
        exact ⟨none, hnew⟩
    · have hnone : attemptOf phone (Call.arrived login r) = none := by
        rw [hnew.attemptOf_eq, ite_self]
      refine .inr ?_
      unfold limiterOf
      rw [List.filterMap_append, List.filterMap_cons_none hnone, List.filterMap_nil,
        List.append_nil]
  | @exec l₁ c l₂ st k v ws o here next idle answers hok =>
    obtain ⟨a, ha⟩ := hf c (by rw [here]; exact List.mem_append_right _ List.mem_cons_self)
    obtain ⟨a', ha', hm⟩ := ha.exec next answers
    refine ⟨hf.replace here ha' s.db, limiter_of_move here ha ha' hm ?_⟩
    intro hp hadm
    have hroom := hok hp hadm.1 (by rw [← hp]; exact hadm.2)
    rw [byPhone_eq, inFlight_eq] at hroom
    exact hroom
  | @fail l₁ c l₂ st k o e here next idle why =>
    obtain ⟨a, ha⟩ := hf c (by rw [here]; exact List.mem_append_right _ List.mem_cons_self)
    have hread : readFails st := why.resolve_right (eval_ne_error st s.clock s.db e)
    obtain ⟨ha', hor⟩ := ha.fail next hread e
    have hm : AttemptMove s.clock False a none := by
      rcases hor with rfl | rfl
      · exact .stay none
      · exact .leave
    exact ⟨hf.replace here ha' s.db, limiter_of_move here ha ha' hm (fun _ h => h.elim)⟩
  | @commit l₁ c l₂ here =>
    obtain ⟨a, ha⟩ := hf c (by rw [here]; exact List.mem_append_right _ List.mem_cons_self)
    rcases ha.commit with ⟨ha', hws⟩ | ⟨t, stamp, rfl, later, ha', hws⟩
    · refine ⟨hf.replace here ha' _, .inr ?_⟩
      have hfail : failures phone ((guestStore compareHashAndPassword).view s.db c.pending) = _ :=
        failures_of_ok hws
      unfold limiterOf
      rw [hfail, here, attempts_around, attempts_around, ha.attemptOf_eq, ha'.attemptOf_eq]
    · exact ⟨hf.replace here ha' _, limiter_of_record here ha later ha' hws⟩
  | foreign w other =>
    refine ⟨hf, .inr ?_⟩
    unfold limiterOf
    rw [show (guestStore compareHashAndPassword).apply s.db w = s.db.apply w from rfl,
      failures_of_elsewhere other]

/-! ### Runs -/

/-- **The sign-ins of a phone run like the tries of a limiter.** -/
theorem Guests.limiter_run {s₀ s : Guests} (h₀ : s₀.calls = [])
    (h : Run (guestStore compareHashAndPassword) login readFails elsewhere (RoomFor phone) s₀ s) :
    Followed s ∧ SlidingLimit.Run failedLoginsPerPhone phoneWindow (limiterOf phone s₀)
      (limiterOf phone s) := by
  induction h with
  | refl =>
    refine ⟨?_, .refl⟩
    intro c hc
    rw [h₀] at hc
    cases hc
  | step _ hs ih =>
    obtain ⟨hf, hrun⟩ := ih
    obtain ⟨hf', hstep | hstay⟩ := Guests.simulates hf hs
    · exact ⟨hf', hrun.step hstep⟩
    · rw [hstay]
      exact ⟨hf', hrun⟩

/-- A wrong check is a miss. -/
theorem LoginAt.misses (h : LoginAt now r c a) :
    a.toList.filterMap Attempt.miss = c.log.filterMap wrongCheck := by
  cases h with
  | arrived => rfl
  | counted h => rw [h.wrong]; rfl
  | read c h => rw [h.wrong]; rfl
  | refused h stopped => rw [h.wrong]; rfl
  | wrong h past stopped => rw [h.wrong]; rfl
  | recording h later stopped => rw [h.wrong]; rfl
  | recorded h stopped => rw [h.wrong]; rfl
  | right h stopped => rw [h.wrong]; rfl
  | signedIn h stopped writes => rw [h.wrong]; rfl

theorem misses_eq (phone : String) {calls : List LoginCall}
    (h : ∀ c ∈ calls, ∃ a, LoginAt now c.req c a) :
    (calls.filterMap (attemptOf phone)).filterMap Attempt.miss = wrongChecks phone calls := by
  induction calls with
  | nil => rfl
  | cons c calls ih =>
    obtain ⟨a, ha⟩ := h c List.mem_cons_self
    have hrest := ih (fun d hd => h d (List.mem_cons_of_mem c hd))
    have hsplit := attempts_around phone [] calls c
    rw [List.nil_append] at hsplit
    rw [hsplit, ha.attemptOf_eq, List.filterMap_nil, List.nil_append, List.filterMap_append, hrest]
    unfold wrongChecks
    rw [List.filter_cons]
    by_cases hp : c.req.normalPhone = phone
    · rw [if_pos hp, if_pos (decide_eq_true hp), List.flatMap_cons, ha.misses]
    · rw [if_neg hp, if_neg (by simpa using hp)]
      rfl

/-- **The limit holds in every run in which each sign-in finds room when it counts.** -/
theorem failed_logins_limited (compareHashAndPassword : String → String → Bool) (phone : String)
    (clock₀ : ℤ) (db₀ : GuestDb) {s : Guests}
    (h : Run (guestStore compareHashAndPassword) login readFails elsewhere (RoomFor phone)
      ⟨clock₀, db₀, []⟩ s) : LimitedLogins phone s := by
  obtain ⟨hf, hrun⟩ := Guests.limiter_run rfl h
  have hlimited := SlidingLimit.Limited.run rfl hrun
  intro t
  have hspan := hlimited.span t
  rw [SlidingLimit.Limiter.within] at hspan
  rwa [show (limiterOf phone s).attempts.filterMap Attempt.miss = wrongChecks phone s.calls from
    misses_eq phone hf] at hspan

/-- A wrong password for a phone that has no account. -/
def strayLogin : LoginRequest := ⟨"01012345678", "open-sesame", "203.0.113.7"⟩

/-- No customers, no attempts. -/
def emptyGuestDb : GuestDb := ⟨KeyedTable.Table.empty, []⟩

/-- The whole of the `i`-th sign-in, with nothing in between. -/
def signIn (i : ℕ) : List (Move LoginRequest Unit) :=
  [.arrive strayLogin, .exec i (), .exec i (), .exec i (), .exec i (), .commit i]

theorem failed_logins_limited_serial : ∃ s : Guests,
    wrongChecks "+201012345678" s.calls = [0, minute, minute] ∧
    LimitedLogins "+201012345678" s := by
  have hplays : (Autocommit.plays (guestStore (fun _ _ => false)) login
      (fun s c => decide (RoomFor "+201012345678" s c))
      (signIn 0 ++ .tick minute :: signIn 1 ++ signIn 2) ⟨0, emptyGuestDb, []⟩).any
        (fun s => decide (wrongChecks "+201012345678" s.calls = [0, minute, minute])) = true := by
    decide +kernel
  obtain ⟨s, hrun, htest⟩ := Run.of_plays readFails elsewhere
    (fun _ _ h => of_decide_eq_true h) hplays
  exact ⟨s, of_decide_eq_true htest, failed_logins_limited _ _ _ _ hrun⟩

/-- Eleven sign-ins that all count before any of them checks. -/
def burst : List (Move LoginRequest Unit) :=
  List.replicate 11 (.arrive strayLogin) ++ (List.range 11).map (fun i => .exec i ())
    ++ (List.range 11).map (fun i => .exec i ()) ++ (List.range 11).map (fun i => .exec i ())

theorem failed_logins_unlimited : ¬ ∀ (compareHashAndPassword : String → String → Bool)
    (phone : String) (clock₀ : ℤ) (db₀ : GuestDb) (s : Guests),
    Run (guestStore compareHashAndPassword) login readFails elsewhere always ⟨clock₀, db₀, []⟩ s →
      LimitedLogins phone s := by
  intro hall
  have hplays : (Autocommit.plays (guestStore (fun _ _ => false)) login (fun _ _ => true) burst
      ⟨0, emptyGuestDb, []⟩).any
        (fun s => decide (wrongChecks "+201012345678" s.calls = List.replicate 11 0)) = true := by
    decide +kernel
  obtain ⟨s, hrun, htest⟩ := Run.of_plays readFails elsewhere (fun _ _ _ => trivial) hplays
  have hlimit := hall _ "+201012345678" _ _ s hrun 0
  rw [of_decide_eq_true htest] at hlimit
  revert hlimit
  decide

end Sahel

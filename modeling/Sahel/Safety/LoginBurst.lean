import Sahel.Safety.Login

/-!
# Failed sign-ins, with any number under way

The count of recent failures does not see the sign-ins that were let through and have not recorded
theirs.  So what a phone or an address can do depends on how many of its sign-ins are under way at
once, and on nothing else.

* `Subject` is whose failures are counted together: those of a phone in 15 minutes, those of an
  address in an hour;
* `Subject.AtMost k`: a sign-in is let through only with fewer than `k` others of its subject;
* **`failed_logins_in_flight`**: then no span ever has more than `limit - 1 + k` wrong checks;
* `burst_reaches`: and a phone can have that many, whatever `k` is.
-/

set_option autoImplicit false

namespace Sahel

open Autocommit
open ReadCommitted (Prog)
open SlidingLimit (Attempt)

/-! ### Whose failures are counted -/

/-- The failures on record that a subject's count takes in. -/
def failuresOf (row : AuthAttemptRow → Bool) (db : GuestDb) : List ℤ :=
  (db.attempts.filter (fun a => a.failedLogin && row a)).map AuthAttemptRow.createdAt

/-- Whose failures are counted together, and how many of them let a sign-in through. -/
structure Subject where
  of : LoginRequest → Bool
  row : AuthAttemptRow → Bool
  window : ℤ
  limit : ℕ
  /-- a sign-in of the subject leaves a row of it, another leaves none -/
  row_of : ∀ r ok t, row ⟨.login, r.normalPhone, r.ip, ok, t⟩ = of r
  /-- a sign-in of the subject that passes has counted fewer failures than the limit -/
  counted : ∀ r now db, of r = true → (countFailedLogins r.normalPhone r.ip now db).passes →
    (failuresOf row db).countP (fun t => decide (now - window < t)) < limit

namespace Subject

/-- At most ten failures of a phone in 15 minutes. -/
def phone (phone : String) : Subject where
  of r := decide (r.normalPhone = phone)
  row a := decide (a.phone = phone)
  window := phoneWindow
  limit := failedLoginsPerPhone
  row_of _ _ _ := rfl
  counted r now db hr hpass := by
    obtain rfl := of_decide_eq_true hr
    have hlt : (countFailedLogins r.normalPhone r.ip now db).byPhone < failedLoginsPerPhone :=
      not_le.mp (fun h => hpass (Or.inl h))
    refine lt_of_eq_of_lt ?_ hlt
    simp only [countFailedLogins, failuresOf, List.countP_map, List.countP_filter]
    congr 1
    funext a
    rw [Bool.eq_iff_iff]
    by_cases hp : a.phone = r.normalPhone
    · simp [hp]
    · simp [hp]

/-- At most thirty failures of an address in an hour. -/
def address (ip : String) : Subject where
  of r := decide (r.ip = ip)
  row a := decide (a.ip = ip)
  window := hour
  limit := failedLoginsPerIP
  row_of _ _ _ := rfl
  counted r now db hr hpass := by
    obtain rfl := of_decide_eq_true hr
    have hlt : (countFailedLogins r.normalPhone r.ip now db).byIp < failedLoginsPerIP :=
      not_le.mp (fun h => hpass (Or.inr h))
    refine lt_of_eq_of_lt ?_ hlt
    simp only [countFailedLogins, failuresOf, List.countP_map, List.countP_filter]
    congr 1
    funext a
    rw [Bool.eq_iff_iff]
    by_cases hp : a.ip = r.ip
    · simp [hp]
    · simp [hp]

variable (q : Subject)

/-- The wrong checks of the subject's sign-ins so far. -/
def wrongChecks (calls : List LoginCall) : List ℤ :=
  (calls.filter (fun c => q.of c.req)).flatMap (fun c => c.log.filterMap wrongCheck)

/-- Its sign-ins that may still add a failure. -/
def inFlight (calls : List LoginCall) : ℕ :=
  calls.countP (fun c => q.of c.req && loginInFlight c)

/-- A sign-in of the subject that its count lets through finds fewer than `k` under way. -/
def AtMost (k : ℕ) (s : Guests) (c : LoginCall) : Prop :=
  q.of c.req = true → c.log.isEmpty = true →
    (countFailedLogins c.req.normalPhone c.req.ip s.clock s.db).passes → q.inFlight s.calls < k

instance (k : ℕ) (s : Guests) (c : LoginCall) : Decidable (q.AtMost k s c) :=
  inferInstanceAs (Decidable (_ → _ → _ → _))

/-- At most `n` wrong checks in every window. -/
def Limited (n : ℕ) (s : Guests) : Prop :=
  ∀ t, (q.wrongChecks s.calls).countP (fun c => decide (t ≤ c ∧ c < t + q.window)) ≤ n

/-! ### The sign-ins of a subject as a limiter -/

/-- What a sign-in is to the limiter of the subject. -/
def attemptOf (c : LoginCall) : Option Attempt :=
  if q.of c.req then Sahel.attemptOf c.req.normalPhone c else none

def limiterOf (s : Guests) : SlidingLimit.Limiter :=
  ⟨s.clock, failuresOf q.row s.db, s.calls.filterMap q.attemptOf⟩

variable {q} {now : ℤ} {r : LoginRequest} {c c' : LoginCall} {a a' : Option Attempt} {k : ℕ}
variable {s : Guests} {l₁ l₂ : List LoginCall} {compareHashAndPassword : String → String → Bool}

theorem attemptOf_eq (h : LoginAt now r c a) : q.attemptOf c = if q.of r then a else none := by
  rw [attemptOf, h.attemptOf_eq, h.req_eq, if_pos rfl]

theorem attempts_around (q : Subject) (l₁ l₂ : List LoginCall) (c : LoginCall) :
    (l₁ ++ c :: l₂).filterMap q.attemptOf = l₁.filterMap q.attemptOf
      ++ ((q.attemptOf c).toList ++ l₂.filterMap q.attemptOf) := by
  rw [List.filterMap_append, List.filterMap_cons]
  cases q.attemptOf c <;> rfl

/-- What the condition counts is what the limiter has in flight. -/
theorem inFlight_eq (s : Guests) : q.inFlight s.calls = (q.limiterOf s).inFlight := by
  show s.calls.countP _ = (s.calls.filterMap q.attemptOf).countP Attempt.inFlight
  rw [List.countP_filterMap]
  apply List.countP_congr
  intro c _
  unfold attemptOf Sahel.attemptOf
  by_cases hq : q.of c.req = true
  · rw [if_pos hq, if_pos rfl]
    cases hw : c.log.filterMap wrongCheck <;> cases hf : loginInFlight c <;> simp [hq]
  · simp [hq]

/-- What passes leaves room. -/
theorem room (hpass : (countFailedLogins r.normalPhone r.ip s.clock s.db).passes)
    (hq : q.of r = true) (hk : q.inFlight s.calls < k) :
    (q.limiterOf s).recent q.window + (q.limiterOf s).inFlight < q.limit - 1 + k := by
  have hcount : (q.limiterOf s).recent q.window < q.limit := q.counted r s.clock s.db hq hpass
  rw [inFlight_eq] at hk
  omega

/-- The limiter's tries around those of one sign-in. -/
theorem attempts_before (here : s.calls = l₁ ++ c :: l₂) (ha : LoginAt s.clock r c a) :
    (q.limiterOf s).attempts = l₁.filterMap q.attemptOf
      ++ ((if q.of r then a else none).toList ++ l₂.filterMap q.attemptOf) := by
  show s.calls.filterMap q.attemptOf = _
  rw [here, attempts_around, attemptOf_eq ha]

/-- What one sign-in does is what the limiter's try does. -/
theorem limiter_of_move (here : s.calls = l₁ ++ c :: l₂) (ha : LoginAt s.clock r c a)
    (ha' : LoginAt s.clock r c' a') {admitted : Prop} (hm : AttemptMove s.clock admitted a a')
    (hroom : q.of r = true → admitted →
      (q.limiterOf s).recent q.window + (q.limiterOf s).inFlight < q.limit - 1 + k) :
    SlidingLimit.Step (q.limit - 1 + k) q.window (q.limiterOf s)
        (q.limiterOf { s with calls := l₁ ++ c' :: l₂ })
      ∨ q.limiterOf { s with calls := l₁ ++ c' :: l₂ } = q.limiterOf s := by
  have hbefore : (q.limiterOf s).attempts = _ := attempts_before here ha
  have hafter : q.limiterOf { s with calls := l₁ ++ c' :: l₂ }
      = { q.limiterOf s with attempts := l₁.filterMap q.attemptOf
          ++ ((if q.of r then a' else none).toList ++ l₂.filterMap q.attemptOf) } := by
    unfold limiterOf
    rw [attempts_around, attemptOf_eq ha']
  rw [hafter]
  by_cases hq : q.of r = true
  · rw [if_pos hq] at hbefore ⊢
    cases hm with
    | stay => exact .inr (by rw [← hbefore])
    | enter h => exact .inl (.enter hbefore (hroom hq h))
    | leave => exact .inl (.leave hbefore)
    | miss => exact .inl (.miss hbefore)
  · rw [if_neg hq] at hbefore ⊢
    exact .inr (by rw [← hbefore])

/-! ### What is written -/

theorem failuresOf_ok {row : AuthAttemptRow → Bool} {db : GuestDb} {ws : List GuestWrite}
    (h : ∀ w ∈ ws, ∃ a, w = .insertAttempt a ∧ a.ok = true) :
    failuresOf row ((guestStore compareHashAndPassword).view db ws) = failuresOf row db := by
  induction ws generalizing db with
  | nil => rfl
  | cons w ws ih =>
    obtain ⟨a, rfl, hok⟩ := h w List.mem_cons_self
    show failuresOf row ((guestStore compareHashAndPassword).view (db.apply (.insertAttempt a)) ws) = _
    rw [ih (fun w hw => h w (List.mem_cons_of_mem _ hw))]
    simp [failuresOf, GuestDb.apply, AuthAttemptRow.failedLogin, hok]

theorem failuresOf_wrong (r : LoginRequest) (stamp : ℤ) (db : GuestDb) :
    failuresOf q.row ((guestStore compareHashAndPassword).view db
        [.insertAttempt ⟨.login, r.normalPhone, r.ip, false, stamp⟩])
      = if q.of r then failuresOf q.row db ++ [stamp] else failuresOf q.row db := by
  show failuresOf q.row (db.apply (.insertAttempt ⟨.login, r.normalPhone, r.ip, false, stamp⟩)) = _
  have hrow := q.row_of r false stamp
  by_cases hq : q.of r = true
  · rw [hq] at hrow
    simp [failuresOf, GuestDb.apply, AuthAttemptRow.failedLogin, hq, hrow]
  · rw [Bool.eq_false_iff.mpr hq] at hrow
    simp [failuresOf, GuestDb.apply, AuthAttemptRow.failedLogin, hq, hrow]

theorem failuresOf_elsewhere {row : AuthAttemptRow → Bool} {db : GuestDb} {w : GuestWrite}
    (h : elsewhere w) : failuresOf row (db.apply w) = failuresOf row db := by
  cases w with
  | insertAttempt a =>
    have hk : a.kind ≠ .login := h
    simp [failuresOf, GuestDb.apply, AuthAttemptRow.failedLogin, hk]
  | setCustomers t => rfl

/-- A failure that is committed is a try that goes on record. -/
theorem limiter_of_record {t stamp : ℤ} {ws : List GuestWrite} (here : s.calls = l₁ ++ c :: l₂)
    (ha : LoginAt s.clock r c (some (.missed t))) (later : t ≤ stamp)
    (ha' : LoginAt s.clock r c' (some (.recorded t)))
    (hws : ws = [.insertAttempt ⟨.login, r.normalPhone, r.ip, false, stamp⟩]) :
    let s' : Guests := ⟨s.clock, (guestStore compareHashAndPassword).view s.db ws, l₁ ++ c' :: l₂⟩
    SlidingLimit.Step (q.limit - 1 + k) q.window (q.limiterOf s) (q.limiterOf s')
      ∨ q.limiterOf s' = q.limiterOf s := by
  have hbefore : (q.limiterOf s).attempts = _ := attempts_before here ha
  show SlidingLimit.Step _ _ _ (q.limiterOf _) ∨ q.limiterOf _ = _
  unfold limiterOf
  rw [attempts_around, attemptOf_eq ha', hws, failuresOf_wrong]
  by_cases hq : q.of r = true
  · rw [if_pos hq] at hbefore ⊢
    rw [if_pos hq]
    exact .inl (.record stamp hbefore later)
  · rw [if_neg hq] at hbefore ⊢
    rw [if_neg hq]
    exact .inr (by rw [← hbefore]; rfl)

/-- **One step.** -/
theorem simulates {s' : Guests} (hf : Followed s)
    (h : Step (guestStore compareHashAndPassword) login readFails elsewhere (q.AtMost k) s s') :
    Followed s' ∧ (SlidingLimit.Step (q.limit - 1 + k) q.window (q.limiterOf s) (q.limiterOf s')
      ∨ q.limiterOf s' = q.limiterOf s) := by
  cases h with
  | tick now later =>
    refine ⟨fun c hc => ?_, .inl (.tick now later)⟩
    obtain ⟨a, ha⟩ := hf c hc
    exact ⟨a, ha.mono later⟩
  | arrive r =>
    have hnew : LoginAt s.clock r (Call.arrived login r) none := .arrived
    constructor
    · intro c hc
      rcases List.mem_append.mp hc with hc | hc
      · exact hf c hc
      · rw [List.mem_singleton.mp hc]
        exact ⟨none, hnew⟩
    · have hnone : q.attemptOf (Call.arrived login r) = none := by
        rw [attemptOf_eq hnew, ite_self]
      refine .inr ?_
      unfold limiterOf
      rw [List.filterMap_append, List.filterMap_cons_none hnone, List.filterMap_nil,
        List.append_nil]
  | @exec l₁ c l₂ st k' v ws o here next idle answers hok =>
    obtain ⟨a, ha⟩ := hf c (by rw [here]; exact List.mem_append_right _ List.mem_cons_self)
    obtain ⟨a', ha', hm⟩ := ha.exec next answers
    refine ⟨hf.replace here ha' s.db, limiter_of_move here ha ha' hm (fun hq hadm => ?_)⟩
    exact room hadm.2 hq (hok hq hadm.1 hadm.2)
  | @fail l₁ c l₂ st k' o e here next idle why =>
    obtain ⟨a, ha⟩ := hf c (by rw [here]; exact List.mem_append_right _ List.mem_cons_self)
    have hread : readFails st := why.resolve_right (eval_ne_error st s.clock s.db e)
    obtain ⟨ha', hor⟩ := ha.fail next hread e
    have hm : AttemptMove s.clock False a none := by
      rcases hor with rfl | rfl
      · exact .stay none
      · exact .leave
    exact ⟨hf.replace here ha' s.db, limiter_of_move here ha ha' hm (fun _ h => h.elim)⟩
  | @commit l₁ c l₂ here =>
    obtain ⟨a, ha⟩ := hf c (by rw [here]; exact List.mem_append_right _ List.mem_cons_self)
    rcases ha.commit with ⟨ha', hws⟩ | ⟨t, stamp, rfl, later, ha', hws⟩
    · refine ⟨hf.replace here ha' _, .inr ?_⟩
      have hfail : failuresOf q.row ((guestStore compareHashAndPassword).view s.db c.pending) = _ :=
        failuresOf_ok hws
      unfold limiterOf
      rw [hfail, here, attempts_around, attempts_around, attemptOf_eq ha, attemptOf_eq ha']
    · exact ⟨hf.replace here ha' _, limiter_of_record here ha later ha' hws⟩
  | foreign w other =>
    refine ⟨hf, .inr ?_⟩
    unfold limiterOf
    rw [show (guestStore compareHashAndPassword).apply s.db w = s.db.apply w from rfl,
      failuresOf_elsewhere other]

theorem limiter_run {s₀ : Guests} (h₀ : s₀.calls = [])
    (h : Run (guestStore compareHashAndPassword) login readFails elsewhere (q.AtMost k) s₀ s) :
    Followed s ∧ SlidingLimit.Run (q.limit - 1 + k) q.window (q.limiterOf s₀) (q.limiterOf s) := by
  induction h with
  | refl =>
    refine ⟨fun c hc => ?_, .refl⟩
    rw [h₀] at hc
    cases hc
  | step _ hs ih =>
    obtain ⟨hf, hrun⟩ := ih
    obtain ⟨hf', hstep | hstay⟩ := simulates hf hs
    · exact ⟨hf', hrun.step hstep⟩
    · rw [hstay]
      exact ⟨hf', hrun⟩

theorem misses_eq {calls : List LoginCall} (h : ∀ c ∈ calls, ∃ a, LoginAt now c.req c a) :
    (calls.filterMap q.attemptOf).filterMap Attempt.miss = q.wrongChecks calls := by
  induction calls with
  | nil => rfl
  | cons c calls ih =>
    obtain ⟨a, ha⟩ := h c List.mem_cons_self
    have hrest := ih (fun d hd => h d (List.mem_cons_of_mem c hd))
    have hsplit := attempts_around q [] calls c
    rw [List.nil_append] at hsplit
    rw [hsplit, attemptOf_eq ha, List.filterMap_nil, List.nil_append, List.filterMap_append, hrest]
    unfold wrongChecks
    rw [List.filter_cons]
    by_cases hq : q.of c.req = true
    · rw [if_pos hq, if_pos hq, List.flatMap_cons, ha.misses]
    · rw [if_neg hq, if_neg hq]
      rfl

end Subject

/-- **A phone's and an address's limits, with `k` sign-ins under way.**  In every run in which a
sign-in of the subject is let through only with fewer than `k` others of it under way, no window has
more than `limit - 1 + k` wrong password checks of the subject. -/
theorem failed_logins_in_flight (compareHashAndPassword : String → String → Bool) (q : Subject) (k : ℕ)
    (clock₀ : ℤ) (db₀ : GuestDb) {s : Guests}
    (h : Run (guestStore compareHashAndPassword) login readFails elsewhere (q.AtMost k)
      ⟨clock₀, db₀, []⟩ s) : q.Limited (q.limit - 1 + k) s := by
  obtain ⟨hf, hrun⟩ := Subject.limiter_run rfl h
  have hlimited := SlidingLimit.Limited.run rfl hrun
  intro t
  have hspan := hlimited.span t
  rw [SlidingLimit.Limiter.within] at hspan
  rwa [show (q.limiterOf s).attempts.filterMap Attempt.miss = q.wrongChecks s.calls from
    Subject.misses_eq hf] at hspan

/-! ### A burst -/

section Burst

variable (compareHashAndPassword : String → String → Bool) (k : ℕ)

/-- The failures of the stray sign-in, all recorded at once. -/
def strayFailures (n : ℕ) : GuestDb :=
  ⟨KeyedTable.Table.empty, List.replicate n ⟨.login, strayLogin.normalPhone, strayLogin.ip, false, 0⟩⟩

theorem count_strayFailures (n : ℕ) :
    countFailedLogins strayLogin.normalPhone strayLogin.ip 0 (strayFailures n) = ⟨n, n⟩ := by
  have hphone : ¬ phoneWindow ≤ 0 := by decide
  have hhour : ¬ hour ≤ 0 := by decide
  simp [countFailedLogins, strayFailures, AuthAttemptRow.failedLogin, List.countP_replicate, hphone, hhour]

/-- What the stray sign-in runs: its count, and so on up to its `i`-th statement. -/
def strayLog (n i : ℕ) : LoginLog :=
  [⟨.countFailedLogins strayLogin.normalPhone strayLogin.ip, 0, .ok (⟨n, n⟩ : CountFailedLoginsRow)⟩,
    ⟨.getCustomerByPhone strayLogin.normalPhone, 0, .ok (none : Option CustomerRow)⟩,
    ⟨.checkPassword "" strayLogin.password, 0, .ok false⟩,
    ⟨.recordAuthAttempt .login strayLogin.normalPhone strayLogin.ip false, 0, .ok PUnit.unit⟩].take i

/-- Let through, and waiting to be checked. -/
def strayWaiting (n : ℕ) : LoginCall := ⟨strayLogin, readLogin strayLogin, [], strayLog n 1⟩

/-- Checked, and not on record. -/
def strayMissed (n : ℕ) : LoginCall :=
  ⟨strayLogin, do
      let _ ← Prog.attempt (.recordAuthAttempt .login strayLogin.normalPhone strayLogin.ip false)
      Prog.refuse (false = false) invalidCredentials
      return toGuestView none, [], strayLog n 3⟩

def strayDone (n : ℕ) : LoginCall := ⟨strayLogin, .throw invalidCredentials, [], strayLog n 4⟩

/-- The stray sign-in's phone. -/
abbrev strayPhone : Subject := .phone strayLogin.normalPhone

/-- The runs of a burst. -/
abbrev Bursts (s : Guests) : Prop :=
  Run (guestStore compareHashAndPassword) login readFails elsewhere (strayPhone.AtMost k)
    ⟨0, emptyGuestDb, []⟩ s

variable {compareHashAndPassword k} {n : ℕ} {calls l₁ l₂ : List LoginCall}

/-- One more sign-in is let through. -/
theorem Bursts.count (hn : n < failedLoginsPerPhone) (hk : strayPhone.inFlight calls < k)
    (h : Bursts compareHashAndPassword k ⟨0, strayFailures n, calls⟩) :
    Bursts compareHashAndPassword k ⟨0, strayFailures n, calls ++ [strayWaiting n]⟩ := by
  have harrive := h.step (.arrive strayLogin)
  have hpass : (countFailedLogins strayLogin.normalPhone strayLogin.ip 0 (strayFailures n)).passes := by
    rw [count_strayFailures]
    rintro (hphone | hip)
    · exact absurd hphone (not_le.mpr hn)
    · exact absurd hip (not_le.mpr (hn.trans (by decide)))
  have hroom : strayPhone.inFlight (calls ++ [Call.arrived login strayLogin]) < k := by
    rw [Subject.inFlight, List.countP_append]
    exact hk
  have hanswer : GuestStmt.eval compareHashAndPassword
      (.countFailedLogins strayLogin.normalPhone strayLogin.ip) () 0 (strayFailures n)
      = .ok ((⟨n, n⟩ : CountFailedLoginsRow), []) :=
    congrArg (fun v : CountFailedLoginsRow => Except.ok (v, [])) (count_strayFailures n)
  have hlast : calls ++ [Call.arrived login strayLogin]
      = calls ++ Call.arrived login strayLogin :: [] := rfl
  have hexec := harrive.step (.exec () hlast rfl rfl hanswer (fun _ _ _ => hroom))
  rw [count_strayFailures] at hpass
  have hnext : ((Prog.refuse (¬ (⟨n, n⟩ : CountFailedLoginsRow).passes) rateLimited :
      GuestHandler PUnit).bind fun _ => readLogin strayLogin) = readLogin strayLogin := by
    rw [Prog.refuse, if_neg (not_not.mpr hpass)]
    rfl
  rw [strayWaiting, ← hnext]
  exact hexec

/-- A statement after the count is run whatever is under way. -/
theorem Bursts.exec {c : LoginCall} {st : GuestStmt} {k' : Except PgError st.Val → GuestHandler GuestView}
    {v : st.Val} {ws : List GuestWrite} {db : GuestDb} (next : c.prog = .exec st k')
    (idle : c.pending = []) (begun : c.log.isEmpty = false)
    (answers : GuestStmt.eval compareHashAndPassword st () 0 db = .ok (v, ws))
    (h : Bursts compareHashAndPassword k ⟨0, db, l₁ ++ c :: l₂⟩) :
    Bursts compareHashAndPassword k ⟨0, db, l₁ ++ c.answered st k' 0 (.ok v) ws :: l₂⟩ := by
  refine h.step (.exec () rfl next idle answers (fun _ hnew _ => ?_))
  rw [begun] at hnew
  cases hnew

/-- It is checked, and the password is wrong. -/
theorem Bursts.check (h : Bursts compareHashAndPassword k ⟨0, strayFailures n, l₁ ++ strayWaiting n :: l₂⟩) :
    Bursts compareHashAndPassword k ⟨0, strayFailures n, l₁ ++ strayMissed n :: l₂⟩ := by
  have hread := h.exec rfl rfl rfl rfl
  have hcheck := hread.exec rfl rfl rfl rfl
  exact hcheck

/-- And its failure is recorded. -/
theorem Bursts.record
    (h : Bursts compareHashAndPassword k ⟨0, strayFailures n, l₁ ++ strayMissed n :: l₂⟩) :
    Bursts compareHashAndPassword k ⟨0, strayFailures (n + 1), l₁ ++ strayDone n :: l₂⟩ := by
  have hrecord := h.exec rfl rfl rfl rfl
  have hcommit := hrecord.step (.commit rfl)
  rw [strayFailures, List.replicate_succ']
  exact hcommit

/-- The sign-ins so far, one after the other. -/
def strayCalls (n : ℕ) : List LoginCall := (List.range n).map strayDone

theorem inFlight_strayCalls (n j : ℕ) :
    strayPhone.inFlight (strayCalls n ++ List.replicate j (strayWaiting n)) = j := by
  have hdone : (strayCalls n).countP (fun c => strayPhone.of c.req && loginInFlight c) = 0 := by
    rw [List.countP_eq_zero]
    intro c hc
    obtain ⟨m, -, rfl⟩ := List.mem_map.mp hc
    simp [strayDone, loginInFlight, Call.live]
  have hwaiting : (strayPhone.of (strayWaiting n).req && loginInFlight (strayWaiting n)) = true := by
    rw [Bool.and_eq_true]
    exact ⟨decide_eq_true rfl, rfl⟩
  rw [Subject.inFlight, List.countP_append, hdone, List.countP_replicate, if_pos hwaiting, Nat.zero_add]

/-- Sign-ins one after the other, until the next would be the last that passes. -/
theorem bursts_serial (hk : 0 < k) (hn : n < failedLoginsPerPhone) :
    Bursts compareHashAndPassword k ⟨0, strayFailures n, strayCalls n⟩ := by
  induction n with
  | zero => exact .refl
  | succ n ih =>
    have hroom : strayPhone.inFlight (strayCalls n) < k := by
      have hnone := inFlight_strayCalls n 0
      rw [List.replicate_zero, List.append_nil] at hnone
      rwa [hnone]
    have hrun := (ih (Nat.lt_of_succ_lt hn)).count (Nat.lt_of_succ_lt hn) hroom
    rw [strayCalls, List.range_succ, List.map_append]
    exact hrun.check.record

/-- As many as may be under way, all let through by the same count. -/
theorem Bursts.counts (hn : n < failedLoginsPerPhone)
    (h : Bursts compareHashAndPassword k ⟨0, strayFailures n, strayCalls n⟩) {j : ℕ} (hj : j ≤ k) :
    Bursts compareHashAndPassword k
      ⟨0, strayFailures n, strayCalls n ++ List.replicate j (strayWaiting n)⟩ := by
  induction j with
  | zero => rwa [List.replicate_zero, List.append_nil]
  | succ j ih =>
    rw [List.replicate_succ', ← List.append_assoc]
    exact (ih (Nat.le_of_succ_le hj)).count hn (by rw [inFlight_strayCalls]; exact hj)

/-- And all checked. -/
theorem Bursts.checks {i j : ℕ} (h : Bursts compareHashAndPassword k ⟨0, strayFailures n,
      calls ++ List.replicate i (strayMissed n) ++ List.replicate j (strayWaiting n)⟩) :
    Bursts compareHashAndPassword k
      ⟨0, strayFailures n, calls ++ List.replicate (i + j) (strayMissed n)⟩ := by
  induction j generalizing i with
  | zero => rwa [List.replicate_zero, List.append_nil] at h
  | succ j ih =>
    rw [List.replicate_succ] at h
    have hcheck := h.check
    rw [show i + (j + 1) = (i + 1) + j by omega]
    refine ih ?_
    rw [List.replicate_succ', List.append_assoc, List.append_assoc, List.singleton_append,
      ← List.append_assoc]
    exact hcheck

/-- The wrong checks of those sign-ins. -/
theorem wrongChecks_burst (n k : ℕ) :
    strayPhone.wrongChecks (strayCalls n ++ List.replicate k (strayMissed n))
      = List.replicate (n + k) 0 := by
  have hof : ∀ m, strayPhone.of (strayDone m).req = true := fun m => decide_eq_true rfl
  have hmissed : strayPhone.of (strayMissed n).req = true := decide_eq_true rfl
  have hdone : ∀ m, strayPhone.wrongChecks (strayCalls m) = List.replicate m 0 := by
    intro m
    induction m with
    | zero => rfl
    | succ m ih =>
      rw [strayCalls, List.range_succ, List.map_append, Subject.wrongChecks, List.filter_append,
        List.flatMap_append, List.replicate_succ']
      refine congrArg₂ (· ++ ·) ih ?_
      rw [List.map_singleton, List.filter_cons, if_pos (hof m)]
      rfl
  have hburst : ∀ j, strayPhone.wrongChecks (List.replicate j (strayMissed n)) = List.replicate j 0 := by
    intro j
    induction j with
    | zero => rfl
    | succ j ih =>
      rw [List.replicate_succ, Subject.wrongChecks, List.filter_cons, if_pos hmissed, List.flatMap_cons,
        List.replicate_succ]
      exact congrArg₂ (· ++ ·) rfl ih
  rw [Subject.wrongChecks, List.filter_append, List.flatMap_append, List.replicate_add]
  exact congrArg₂ (· ++ ·) (hdone n) (hburst k)

end Burst

/-- **The limits, with `k` sign-ins under way**, whatever the passwords.  A phone never has more than
`10 - 1 + k` wrong checks in 15 minutes, an address never more than `30 - 1 + k` in an hour; and a
phone can have that many. -/
theorem failed_logins_exact (compareHashAndPassword : String → String → Bool) {k : ℕ} (hk : 0 < k) :
    (∀ (phone : String) (clock₀ : ℤ) (db₀ : GuestDb) (s : Guests),
      Run (guestStore compareHashAndPassword) login readFails elsewhere ((Subject.phone phone).AtMost k)
        ⟨clock₀, db₀, []⟩ s → (Subject.phone phone).Limited (failedLoginsPerPhone - 1 + k) s) ∧
    (∀ (ip : String) (clock₀ : ℤ) (db₀ : GuestDb) (s : Guests),
      Run (guestStore compareHashAndPassword) login readFails elsewhere ((Subject.address ip).AtMost k)
        ⟨clock₀, db₀, []⟩ s → (Subject.address ip).Limited (failedLoginsPerIP - 1 + k) s) ∧
    ∃ s : Guests, Bursts compareHashAndPassword k s ∧
      strayPhone.wrongChecks s.calls = List.replicate (failedLoginsPerPhone - 1 + k) 0 := by
  refine ⟨fun phone clock₀ db₀ s => failed_logins_in_flight compareHashAndPassword _ k clock₀ db₀,
    fun ip clock₀ db₀ s => failed_logins_in_flight compareHashAndPassword _ k clock₀ db₀, ?_⟩
  have hlast : failedLoginsPerPhone - 1 < failedLoginsPerPhone := by decide
  have hserial : Bursts compareHashAndPassword k ⟨0, strayFailures _, strayCalls _⟩ :=
    bursts_serial hk hlast
  have hcounted := hserial.counts hlast (le_refl k)
  have hnone : strayCalls (failedLoginsPerPhone - 1) ++
      List.replicate 0 (strayMissed (failedLoginsPerPhone - 1))
        = strayCalls (failedLoginsPerPhone - 1) := by
    rw [List.replicate_zero, List.append_nil]
  rw [← hnone] at hcounted
  have hchecked := hcounted.checks
  rw [Nat.zero_add] at hchecked
  exact ⟨_, hchecked, wrongChecks_burst _ k⟩

/-- Two at a time: eleven wrong checks in one window. -/
theorem failed_logins_exact_two : ∃ s : Guests, Bursts (fun _ _ => false) 2 s ∧
    strayPhone.wrongChecks s.calls = List.replicate 11 0 :=
  (failed_logins_exact (fun _ _ => false) (k := 2) Nat.two_pos).2.2

end Sahel
